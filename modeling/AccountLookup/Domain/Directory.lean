/-
# Directories

What an oracle is for: it is told which participant owns a party, and tells it to
whoever asks. The directory of the owners is all that its callers should ever notice of
it. An adapter keeps the directory of the parties of a kind if its calls on them have the
outcomes that the directory prescribes, as long as no participant asks for a party that
belongs to another one.
-/

import Mathlib.Logic.Function.Basic
import AccountLookup.Domain.Interfaces
import AccountLookup.Library.Refinement

namespace AccountLookup

open Library Library.Transition

/-- A call about a party. -/
inductive PartyCall
  | associateParticipant (fspId : String) (party : Party)
  | disassociateParticipant (fspId : String) (party : Party)
  | getParticipantFspId (party : Party)

namespace PartyCall

def party : PartyCall → Party
  | .associateParticipant _ party => party
  | .disassociateParticipant _ party => party
  | .getParticipantFspId party => party

/-- A change names a participant. -/
def NamesParticipant : PartyCall → Prop
  | .associateParticipant fspId _ => fspId ≠ ""
  | .disassociateParticipant fspId _ => fspId ≠ ""
  | .getParticipantFspId _ => True

/-- The call on an adapter, with the value it returns; a change returns `null`. -/
def on {W : Type} (adapter : IOracleProviderAdapter W) : PartyCall → Call W JsString
  | .associateParticipant fspId party => fun w =>
    let outcome := adapter.associateParticipant (.str fspId) (.str party.partyType)
      (.str party.partyId) (.ofOption party.partySubType) (.ofOption party.currency) w
    (outcome.1.map fun _ => .null, outcome.2)
  | .disassociateParticipant fspId party => fun w =>
    let outcome := adapter.disassociateParticipant (.str fspId) (.str party.partyType)
      (.str party.partyId) (.ofOption party.partySubType) (.ofOption party.currency) w
    (outcome.1.map fun _ => .null, outcome.2)
  | .getParticipantFspId party =>
    adapter.getParticipantFspId (.str party.partyType) (.str party.partyId)
      (.ofOption party.partySubType) (.ofOption party.currency)

end PartyCall

/-- A text of letters and digits. -/
def IsWord (text : String) : Prop := text ≠ "" ∧ ∀ c ∈ text.toList, c.isAlphanum = true

theorem IsWord.not_mem {text : String} (h : IsWord text) {c : Char}
    (hc : c.isAlphanum = false) : c ∉ text.toList := fun hmem =>
  Bool.false_ne_true (hc.symm.trans (h.2 c hmem))

/-- A party like a phone number with a currency, written in letters and digits. -/
structure Party.IsOrdinary (party : Party) : Prop where
  partyType : IsWord party.partyType
  partyId : IsWord party.partyId
  partySubType : party.partySubType = none
  currency : ∃ currency, party.currency = some currency ∧ IsWord currency

/-- A phone number with a currency. -/
def samplePhoneNumber : Party := ⟨"MSISDN", "27713803912", none, some "USD"⟩

theorem samplePhoneNumber_isOrdinary : samplePhoneNumber.IsOrdinary :=
  ⟨⟨by decide, List.all_eq_true.mp (by decide)⟩, ⟨by decide, List.all_eq_true.mp (by decide)⟩,
    rfl, "USD", rfl, by decide, List.all_eq_true.mp (by decide)⟩

/-- The owners of the parties. -/
abbrev Directory : Type := Party → Option String

/-- The participant that the outcome of a lookup names. An oracle that knows none may say so
or fail. -/
def ownerNamed : Except JsError JsString → Option String
  | .ok value => value.nonEmpty?
  | .error _ => none

theorem ownerNamed_ofOption {owner : Option String} (h : owner ≠ some "") :
    ownerNamed (.ok (.ofOption owner)) = owner := by
  cases owner with
  | none => rfl
  | some fspId => exact JsString.nonEmpty?_eq_some_iff.mpr ⟨rfl, fun heq => h (heq ▸ rfl)⟩

namespace Directory

/-- The directory without owners. -/
def empty : Directory := fun _ => none

/-- The directory after a call. -/
def after (d : Directory) : PartyCall → Directory
  | .associateParticipant fspId party =>
    if d party = none then Function.update d party (some fspId) else d
  | .disassociateParticipant fspId party =>
    if d party = some fspId then Function.update d party none else d
  | .getParticipantFspId _ => d

/-- No participant asks for a party of another one. -/
def Orderly (d : Directory) : PartyCall → Prop
  | .associateParticipant fspId party => d party = none ∨ d party = some fspId
  | .disassociateParticipant _ _ => True
  | .getParticipantFspId _ => True

/-- The outcome of a call is the one that the directory prescribes: a free party can be
taken, an owner can give up its party, and a lookup names the owner. -/
def Agrees (d : Directory) : PartyCall → Except JsError JsString → Prop
  | .associateParticipant _ party, outcome => outcome = .ok .null ↔ d party = none
  | .disassociateParticipant fspId party, outcome => d party = some fspId → outcome = .ok .null
  | .getParticipantFspId party, outcome => ownerNamed outcome = d party

end Directory

/-! ## Adapters that keep a directory -/

/-- What happens to an oracle: a call, or a change of its world that is no call. -/
inductive OracleInput (W : Type)
  | call (request : PartyCall)
  | background (change : W → W)

namespace OracleInput

variable {W : Type}

def perform (adapter : IOracleProviderAdapter W) (w : W) : OracleInput W → W
  | .call request => (request.on adapter w).2
  | .background change => change w

/-- The directory notices calls only. -/
def follow (d : Directory) : OracleInput W → Directory
  | .call request => d.after request
  | .background _ => d

/-- An orderly call on a party of the kind, or one of the background changes. -/
def Allowed (Kind : Party → Prop) (Background : (W → W) → Prop) (d : Directory) :
    OracleInput W → Prop
  | .call request => Kind request.party ∧ request.NamesParticipant ∧ d.Orderly request
  | .background change => Background change

/-- A call has the outcome that the directory prescribes. -/
def Agrees (adapter : IOracleProviderAdapter W) (w : W) (d : Directory) : OracleInput W → Prop
  | .call request => d.Agrees request (request.on adapter w).1
  | .background _ => True

end OracleInput

/-- The adapter keeps a directory of the parties of a kind, which the world represents and
the background changes do not touch. -/
def KeepsDirectory {W : Type} (adapter : IOracleProviderAdapter W) (Kind : Party → Prop)
    (Background : (W → W) → Prop) (Represents : W → Directory → Prop) : Prop :=
  Simulates (OracleInput.perform adapter) OracleInput.follow Represents
    (OracleInput.Allowed Kind Background) (OracleInput.Agrees adapter)

/-- The calls of a run with their outcomes. -/
def transcript {W : Type} (adapter : IOracleProviderAdapter W) :
    W → List (OracleInput W) → List (PartyCall × Except JsError JsString)
  | _, [] => []
  | w, .call request :: inputs =>
    (request, (request.on adapter w).1) :: transcript adapter (request.on adapter w).2 inputs
  | w, .background change :: inputs => transcript adapter (change w) inputs

/-- The outcomes are those that the directory prescribes. -/
def Directory.Explains : Directory → List (PartyCall × Except JsError JsString) → Prop
  | _, [] => True
  | d, (request, outcome) :: rest =>
    d.Agrees request outcome ∧ Directory.Explains (d.after request) rest

/-- Two outcomes of a call say the same: parties are taken alike, and lookups name the same
owner. -/
def SayTheSame : PartyCall → Except JsError JsString → Except JsError JsString → Prop
  | .associateParticipant _ _, outcome, outcome' => outcome = .ok .null ↔ outcome' = .ok .null
  | .disassociateParticipant _ _, _, _ => True
  | .getParticipantFspId _, outcome, outcome' => ownerNamed outcome = ownerNamed outcome'

theorem KeepsDirectory.explains {W : Type} {adapter : IOracleProviderAdapter W}
    {Kind : Party → Prop} {Background : (W → W) → Prop} {Represents : W → Directory → Prop}
    (h : KeepsDirectory adapter Kind Background Represents) (inputs : List (OracleInput W))
    (w : W) (d : Directory) (hw : Represents w d)
    (hallowed : Along OracleInput.follow (OracleInput.Allowed Kind Background) d inputs) :
    d.Explains (transcript adapter w inputs) := by
  induction inputs generalizing w d with
  | nil => trivial
  | cons input inputs ih =>
    obtain ⟨hinput, hrest⟩ := hallowed
    have hgood := h.good w d input hw hinput
    have hnext := ih _ _ (h.next w d input hw hinput) hrest
    cases input with
    | call request => exact ⟨hgood, hnext⟩
    | background change => exact hnext

/-- Transcripts of the same calls that one directory explains say the same. -/
theorem sayTheSame_of_explains {d : Directory}
    {first second : List (PartyCall × Except JsError JsString)} (hfirst : d.Explains first)
    (hsecond : d.Explains second) (hcalls : first.map Prod.fst = second.map Prod.fst) :
    List.Forall₂ (fun a b => a.1 = b.1 ∧ SayTheSame a.1 a.2 b.2) first second := by
  induction first generalizing d second with
  | nil =>
    rw [List.map_nil, eq_comm, List.map_eq_nil_iff] at hcalls
    rw [hcalls]
    exact .nil
  | cons entry first ih =>
    cases second with
    | nil => cases hcalls
    | cons entry' second =>
      obtain ⟨request, outcome⟩ := entry
      obtain ⟨request', outcome'⟩ := entry'
      obtain ⟨hrequest, hrest⟩ := List.cons.inj hcalls
      obtain rfl : request = request' := hrequest
      refine .cons ⟨rfl, ?_⟩ (ih hfirst.2 hsecond.2 hrest)
      have hagrees := hfirst.1
      have hagrees' := hsecond.1
      cases request with
      | associateParticipant fspId party => exact hagrees.trans hagrees'.symm
      | disassociateParticipant fspId party => trivial
      | getParticipantFspId party => exact hagrees.trans hagrees'.symm

end AccountLookup
