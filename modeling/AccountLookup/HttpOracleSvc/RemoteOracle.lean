/-
# The remote oracle

The oracle behind the HTTP service: a map in memory, written to a file as a whole
after every change. A file is absent, unreadable, empty, or holds a JSON document;
of a document only its array of association records matters, if it has one.
-/

import AccountLookup.Domain.Interfaces
import AccountLookup.Library.OrderedMap

namespace AccountLookup

open Library

/-- What the oracle's file path leads to. -/
inductive OracleFile
  | absent
  /-- Reading it fails, or its text is not JSON. -/
  | unreadable
  | empty
  /-- A JSON document other than `null`, with its `associations` array if it has one. -/
  | document (associations : Option (List Association))
  deriving DecidableEq

/-- The oracle's map, its file, and whether writing the file fails now. -/
structure RemoteOracleWorld where
  associations : OrderedMap String Association
  file : OracleFile
  writeFails : Bool

/-- The oracle of one file path. -/
structure RemoteOracle where
  filePath : String

namespace RemoteOracle

def checkNull (value : JsString) : String :=
  match value with
  | .str s => s
  | _ => "NULL"

def createKey (data : Association) : String :=
  s!"{data.partyId.toText}-{data.partyType.toText}-{checkNull data.currency}"

/-- The map that the records of a file are read into: the first record of a key
stays. -/
def loadRecords (records : List Association) : OrderedMap String Association :=
  records.foldl (fun associations record =>
    let newAssociation : Association :=
      { record with
        partySubType := record.partySubType.orNull
        currency := record.currency.orNull }
    let key := createKey newAssociation
    if associations.has key then associations else associations.set key newAssociation)
    OrderedMap.empty

variable (oracle : RemoteOracle)

def loadFromFile : Call RemoteOracleWorld Unit := fun w =>
  match w.file with
  | .absent | .unreadable =>
    (.error ⟨.error, s!"Failed to load associations from file \"{oracle.filePath}\""⟩,
      { w with associations := OrderedMap.empty })
  | .empty | .document none => (.ok (), { w with associations := OrderedMap.empty })
  | .document (some records) => (.ok (), { w with associations := loadRecords records })

def init : Call RemoteOracleWorld Unit := fun w =>
  match w.file with
  | .absent => (.ok (), w)
  | _ => oracle.loadFromFile w

def saveToFile : Call RemoteOracleWorld Unit := fun w =>
  if w.writeFails then
    (.error ⟨.error, s!"Failed to save associations to file \"{oracle.filePath}\""⟩, w)
  else (.ok (), { w with file := .document (some w.associations.values) })

def destroy : Call RemoteOracleWorld Unit := fun w => (.ok (), w)

def healthCheck : Call RemoteOracleWorld Bool := fun w => (.ok true, w)

def getParticipantFspId (partyType partyId partySubType currency : JsString) :
    Call RemoteOracleWorld JsString := fun w =>
  let key := createKey ⟨.undefined, partyType, partyId, partySubType, currency⟩
  match w.associations.get key with
  | some association => (.ok association.fspId, w)
  | none => (.ok .null, w)

def associateParticipant (fspId partyType partyId partySubType currency : JsString) :
    Call RemoteOracleWorld Unit := fun w =>
  let key := createKey ⟨.undefined, partyType, partyId, partySubType, currency⟩
  match w.associations.get key with
  | some _ =>
    (.error ⟨.error, "Duplicate association found for partyId, partyType, partySubType and " ++
      s!"currency: {partyId.toText}, {partyType.toText}, {currency.toText}"⟩, w)
  | none =>
    oracle.saveToFile { w with
      associations := w.associations.set key ⟨fspId, partyType, partyId, partySubType, currency⟩ }

def disassociateParticipant (fspId partyType partyId partySubType currency : JsString) :
    Call RemoteOracleWorld Unit := fun w =>
  let key := createKey ⟨.undefined, partyType, partyId, partySubType, currency⟩
  let notFound : JsError :=
    ⟨.error, "No association found for partyId, partyType,\n            partySubType and " ++
      s!"currency: {partyId.toText}, {partyType.toText}, {currency.toText}"⟩
  match w.associations.get key with
  | some association =>
    if association.fspId = fspId then
      oracle.saveToFile { w with associations := w.associations.delete key }
    else (.error notFound, w)
  | none => (.error notFound, w)

end RemoteOracle

end AccountLookup
