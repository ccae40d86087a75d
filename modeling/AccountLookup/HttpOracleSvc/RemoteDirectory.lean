/-
# The remote oracle keeps a directory

The client, the HTTP library, the server and the oracle behind it are put together as one
adapter. On parties that survive the way to the server and have keys of their own, that
adapter keeps the directory of the owners: the oracle represents the map of the last
successful calls, and neither the client nor the server adds anything to it. The service
may be started anew at any time.
-/

import AccountLookup.HttpOracleSvc.RemoteOracleServer

namespace AccountLookup

open Library Library.Transition

/-- The call of the remote oracle. -/
def PartyCall.remote : PartyCall → RemoteStep
  | .associateParticipant fspId party => .associateParticipant fspId party
  | .disassociateParticipant fspId party => .disassociateParticipant fspId party
  | .getParticipantFspId party => .getParticipantFspId party

namespace RemoteOracleServer

open RemoteOracleExpressRoutes

/-- The adapter of a registered oracle whose endpoint is the server. -/
def adapterTo (server : RemoteOracleServer) (oracle : Oracle) :
    IOracleProviderAdapter RemoteOracleWorld := HttpOracleProvider.adapter ⟨oracle, server.client⟩

variable {server : RemoteOracleServer} {oracle : Oracle} {w : RemoteOracleWorld}
  {call : PartyCall} {party : Party} {fspId : String} {d : Directory} {Kind : Party → Prop}

/-- A request about a legible party is delivered as its handler replies. -/
theorem send_eq (server : RemoteOracleServer) (h : party.IsLegible) (method : HttpMethod)
    (body : Option JsonValue) (w : RemoteOracleWorld) :
    server.send method (urlOf party) body w =
      let outcome := server.handle method (requestFor party body) w
      (outcome.1.settle, outcome.2) := by
  rw [send, respond_eq server h]

/-- The outcome of a change, and of the same change through the server: one fails when the
other does, and the world is the same. -/
def SameChange (outcome outcome' : Except JsError Unit × RemoteOracleWorld) : Prop :=
  (outcome.1 = .ok () ↔ outcome'.1 = .ok ()) ∧ outcome.2 = outcome'.2

theorem sameChange_associate (server : RemoteOracleServer) (oracle : Oracle)
    (h : party.IsLegible) (hfsp : fspId ≠ "") (w : RemoteOracleWorld) :
    SameChange ((server.adapterTo oracle).associateParticipant (.str fspId)
      (.str party.partyType) (.str party.partyId) (.ofOption party.partySubType)
      (.ofOption party.currency) w) (server.oracle.associate fspId party w) := by
  have hsent := send_eq server h .post (some (.string fspId)) w
  rw [handle_post server h hfsp w, urlOf] at hsent
  simp only [adapterTo, HttpOracleProvider.adapter, HttpOracleProvider.associateParticipant,
    client, JsString.toJson, hsent]
  generalize server.oracle.associate fspId party w = outcome
  obtain ⟨result, after⟩ := outcome
  cases result with
  | ok value => exact ⟨Iff.rfl, rfl⟩
  | error error => exact ⟨iff_of_false (fun h => (by cases h)) fun h => (by cases h), rfl⟩

theorem sameChange_disassociate (server : RemoteOracleServer) (oracle : Oracle)
    (h : party.IsLegible) (hfsp : fspId ≠ "") (w : RemoteOracleWorld) :
    SameChange ((server.adapterTo oracle).disassociateParticipant (.str fspId)
      (.str party.partyType) (.str party.partyId) (.ofOption party.partySubType)
      (.ofOption party.currency) w) (server.oracle.disassociate fspId party w) := by
  have hsent := send_eq server h .delete (some (.string fspId)) w
  rw [handle_delete server h hfsp w, urlOf] at hsent
  simp only [adapterTo, HttpOracleProvider.adapter, HttpOracleProvider.disassociateParticipant,
    client, JsString.toJson, hsent]
  generalize server.oracle.disassociate fspId party w = outcome
  obtain ⟨result, after⟩ := outcome
  cases result with
  | ok value => exact ⟨Iff.rfl, rfl⟩
  | error error => exact ⟨iff_of_false (fun h => (by cases h)) fun h => (by cases h), rfl⟩

/-- A lookup through the server names the participant that the oracle names. -/
theorem lookup_adapterTo (server : RemoteOracleServer) (oracle : Oracle)
    (h : party.IsLegible) (w : RemoteOracleWorld) :
    let outcome := (server.adapterTo oracle).getParticipantFspId (.str party.partyType)
      (.str party.partyId) (.ofOption party.partySubType) (.ofOption party.currency) w
    ownerNamed outcome.1 = ownerNamed (RemoteOracle.lookup party w).1 ∧ outcome.2 = w := by
  have hsent := send_eq server h .get none w
  rw [handle_get server h w, urlOf] at hsent
  rw [RemoteOracle.lookup_eq]
  simp only [adapterTo, HttpOracleProvider.adapter, HttpOracleProvider.getParticipantFspId, client,
    hsent]
  generalize (w.associations.get party.remoteKey).elim .null Association.fspId = fetched
  cases htruthy : fetched.truthy with
  | true =>
    obtain ⟨fspId, rfl, hne⟩ := JsString.truthy_iff.mp htruthy
    exact ⟨rfl, rfl⟩
  | false =>
    refine ⟨?_, rfl⟩
    exact (JsString.nonEmpty?_eq_none_iff.mpr htruthy).symm

theorem map_eq_ok_iff {result : Except JsError Unit} :
    result.map (fun _ => JsString.null) = .ok .null ↔ result = .ok () := by
  cases result with
  | ok value => exact iff_of_true rfl rfl
  | error error => exact iff_of_false (fun h => (by cases h)) fun h => (by cases h)

/-- **A call through the server is the call of the oracle**, as far as any directory can
tell. -/
theorem on_adapterTo (server : RemoteOracleServer) (oracle : Oracle) (h : call.party.IsLegible)
    (hnames : call.NamesParticipant) (w : RemoteOracleWorld) :
    (∀ d : Directory, d.Agrees call (call.on (server.adapterTo oracle) w).1 ↔
        d.Agrees call (server.oracle.perform call.remote w).1) ∧
      (call.on (server.adapterTo oracle) w).2 = server.oracle.performed w call.remote := by
  cases call with
  | associateParticipant fspId party =>
    replace h : party.IsLegible := h
    obtain ⟨hok, hworld⟩ := sameChange_associate server oracle h hnames w
    simp only [Directory.Agrees, PartyCall.on, PartyCall.remote, RemoteOracle.performed,
      RemoteOracle.perform, map_eq_ok_iff, hok, hworld, implies_true, and_self]
  | disassociateParticipant fspId party =>
    replace h : party.IsLegible := h
    obtain ⟨hok, hworld⟩ := sameChange_disassociate server oracle h hnames w
    simp only [Directory.Agrees, PartyCall.on, PartyCall.remote, RemoteOracle.performed,
      RemoteOracle.perform, map_eq_ok_iff, hok, hworld, implies_true, and_self]
  | getParticipantFspId party =>
    replace h : party.IsLegible := h
    obtain ⟨howner, hworld⟩ := lookup_adapterTo server oracle h w
    have hsame : (RemoteOracle.lookup party w).2 = w := by rw [RemoteOracle.lookup_eq]
    simp only [Directory.Agrees, PartyCall.on, PartyCall.remote, RemoteOracle.performed,
      RemoteOracle.perform, howner, hworld, hsame, implies_true, and_self]

/-- The parties of the kind reach the server, and no two of them have one key. -/
structure Addressed (Kind : Party → Prop) : Prop where
  legible : ∀ party, Kind party → party.IsLegible
  key : ∀ party other, Kind party → Kind other → other.remoteKey = party.remoteKey →
    other = party

/-- The oracle represents the directory in memory and on file, and its records are of parties
of the kind, each under its own key. -/
structure RepresentsDirectory (Kind : Party → Prop) (w : RemoteOracleWorld) (d : Directory) :
    Prop where
  represents : RemoteOracle.Represents ⟨w, d⟩
  durable : w.MemoryMatchesFile
  filed : ∀ k association, w.associations.get k = some association →
    ∃ party fspId, Kind party ∧ fspId ≠ "" ∧ k = party.remoteKey ∧
      association = party.record (.str fspId)

theorem representsDirectory_fresh (Kind : Party → Prop) :
    RepresentsDirectory Kind RemoteOracleWorld.fresh Directory.empty :=
  ⟨RemoteOracle.represents_fresh, rfl, fun _ _ h => (by cases h)⟩

/-- The service is started anew on its file. -/
def restarted (server : RemoteOracleServer) (w : RemoteOracleWorld) : RemoteOracleWorld :=
  (server.oracle.init (.onFile w.file)).2

theorem RepresentsDirectory.restarted (h : RepresentsDirectory Kind w d)
    (server : RemoteOracleServer) : RepresentsDirectory Kind (server.restarted w) d := by
  rw [RemoteOracleServer.restarted, RemoteOracle.init_onFile h.durable]
  exact ⟨⟨rfl, h.represents.named, h.represents.latest_iff⟩, h.durable, h.filed⟩

theorem RepresentsDirectory.owner_ne (h : RepresentsDirectory Kind w d) (party : Party) :
    d party ≠ some "" := by
  intro howner
  obtain ⟨other, fspId, -, hne, -, hrecord⟩ :=
    h.filed _ _ ((h.represents.latest_iff party "").mp howner)
  exact hne (JsString.str.inj (Party.record_inj hrecord).2).symm

/-- What a call on a party of the kind finds under its key is a record of the party. -/
theorem RepresentsDirectory.meetsOwnRecord (h : RepresentsDirectory Kind w d)
    (hkind : Addressed Kind) (hparty : Kind call.party) :
    RemoteOracle.MeetsOwnRecord ⟨w, d⟩ call.remote := by
  have hown : ∀ association, w.associations.get call.party.remoteKey = some association →
      association.IsFor call.party := by
    intro association hget
    obtain ⟨other, fspId, hother, -, hkey, rfl⟩ := h.filed _ _ hget
    obtain rfl := hkind.key other call.party hother hparty hkey
    rfl
  cases call with
  | associateParticipant fspId party => exact hown
  | disassociateParticipant fspId party => exact fun association hget _ => hown association hget
  | getParticipantFspId party => exact hown

theorem agrees_perform (h : RepresentsDirectory Kind w d) (hkind : Addressed Kind)
    (hparty : Kind call.party) : d.Agrees call (server.oracle.perform call.remote w).1 := by
  have hagrees : server.oracle.AgreesWithMap ⟨w, d⟩ call.remote :=
    (RemoteOracle.agreesWithMap_iff h.represents _).mpr (h.meetsOwnRecord hkind hparty)
  cases call with
  | associateParticipant fspId party => exact map_eq_ok_iff.trans hagrees
  | disassociateParticipant fspId party =>
    exact fun howned => map_eq_ok_iff.mpr (hagrees.mpr howned)
  | getParticipantFspId party =>
    have hlookup : (RemoteOracle.lookup party w).1 = .ok (.ofOption (d party)) := hagrees
    simp only [Directory.Agrees, PartyCall.remote, RemoteOracle.perform, hlookup]
    exact ownerNamed_ofOption (h.owner_ne party)

/-- The map of the last successful calls is the directory. -/
theorem trackedStep_eq (server : RemoteOracleServer) (h : RepresentsDirectory Kind w d)
    (hkind : Addressed Kind) (hparty : Kind call.party) :
    server.oracle.trackedStep ⟨w, d⟩ call.remote =
      ⟨server.oracle.performed w call.remote, d.after call⟩ := by
  have hagrees : server.oracle.AgreesWithMap ⟨w, d⟩ call.remote :=
    (RemoteOracle.agreesWithMap_iff h.represents _).mpr (h.meetsOwnRecord hkind hparty)
  cases call with
  | associateParticipant fspId party =>
    simp only [PartyCall.remote, RemoteOracle.AgreesWithMap] at hagrees
    simp only [RemoteOracle.trackedStep, RemoteOracle.performed, PartyCall.remote,
      RemoteOracle.perform, Directory.after, ← hagrees]
    generalize server.oracle.associate fspId party w = outcome
    obtain ⟨result, after⟩ := outcome
    cases result <;> rfl
  | disassociateParticipant fspId party =>
    simp only [PartyCall.remote, RemoteOracle.AgreesWithMap] at hagrees
    simp only [RemoteOracle.trackedStep, RemoteOracle.performed, PartyCall.remote,
      RemoteOracle.perform, Directory.after, ← hagrees]
    generalize server.oracle.disassociate fspId party w = outcome
    obtain ⟨result, after⟩ := outcome
    cases result <;> rfl
  | getParticipantFspId party => rfl

theorem filed_performed (h : RepresentsDirectory Kind w d) (hparty : Kind call.party)
    (hnames : call.NamesParticipant) :
    ∀ k association,
      (server.oracle.performed w call.remote).associations.get k = some association →
      ∃ party fspId, Kind party ∧ fspId ≠ "" ∧ k = party.remoteKey ∧
        association = party.record (.str fspId) := by
  intro k association hget
  by_cases hs : RemoteOracle.Changes w.associations call.remote
  · rw [RemoteOracle.performed, RemoteOracle.perform_eq_of_written hs h.represents.writable] at hget
    cases call with
    | associateParticipant fspId party =>
      change (w.associations.set party.remoteKey (party.record (.str fspId))).get k = _ at hget
      rw [OrderedMap.get_set] at hget
      split at hget
      · next hk => exact ⟨party, fspId, hparty, hnames, hk, (Option.some.inj hget).symm⟩
      · exact h.filed k association hget
    | disassociateParticipant fspId party =>
      change (w.associations.delete party.remoteKey).get k = _ at hget
      rw [OrderedMap.get_delete] at hget
      split at hget
      · cases hget
      · exact h.filed k association hget
    | getParticipantFspId party => cases hs
  · obtain ⟨outcome, houtcome, -⟩ := RemoteOracle.perform_eq_of_not_changes server.oracle hs
    rw [RemoteOracle.performed, houtcome] at hget
    exact h.filed k association hget

/-- A call, or a restart of the service. -/
def Served (server : RemoteOracleServer) (Kind : Party → Prop) :
    Directory → OracleInput RemoteOracleWorld → Prop
  | _, .call request => Kind request.party ∧ request.NamesParticipant
  | _, .background change => change = server.restarted

theorem simulates_adapterTo (server : RemoteOracleServer) (oracle : Oracle)
    (hkind : Addressed Kind) :
    Simulates (OracleInput.perform (server.adapterTo oracle)) OracleInput.follow
      (RepresentsDirectory Kind) (server.Served Kind)
      (OracleInput.Agrees (server.adapterTo oracle)) := by
  constructor
  · intro w d input h hallowed
    cases input with
    | call request =>
      obtain ⟨hparty, hnames⟩ := hallowed
      have hcall := on_adapterTo server oracle (hkind.legible _ hparty) hnames w
      exact (hcall.1 d).mpr (agrees_perform h hkind hparty)
    | background change => trivial
  · intro w d input h hallowed
    cases input with
    | call request =>
      obtain ⟨hparty, hnames⟩ := hallowed
      have hcall := on_adapterTo server oracle (hkind.legible _ hparty) hnames w
      have hnext : RemoteOracle.Represents (server.oracle.trackedStep ⟨w, d⟩ request.remote) :=
        RemoteOracle.represents_trackedStep h.represents _ (h.meetsOwnRecord hkind hparty)
      rw [trackedStep_eq server h hkind hparty] at hnext
      have hdurable : (server.oracle.performed w request.remote).MemoryMatchesFile ∧
          (server.oracle.performed w request.remote).writeFails = false :=
        RemoteOracle.memoryMatchesFile_performed h.durable h.represents.writable request.remote
      have hrepresents : RepresentsDirectory Kind (server.oracle.performed w request.remote)
          (d.after request) := ⟨hnext, hdurable.1, filed_performed h hparty hnames⟩
      rwa [← hcall.2] at hrepresents
    | background change =>
      obtain rfl := hallowed
      exact h.restarted server

/-- **The adapter to a server keeps a directory** of parties that reach it and have keys of
their own. -/
theorem keepsDirectory_adapterTo (server : RemoteOracleServer) (oracle : Oracle)
    (hkind : Addressed Kind) :
    KeepsDirectory (server.adapterTo oracle) Kind (· = server.restarted)
      (RepresentsDirectory Kind) := by
  refine (simulates_adapterTo server oracle hkind).mono fun d input hallowed => ?_
  cases input with
  | call request => exact ⟨hallowed.1, hallowed.2.1⟩
  | background change => exact hallowed

/-! ## Parties with keys of their own -/

/-- A legible party whose currency is not the text for a missing one. -/
structure Keyed (party : Party) : Prop where
  legible : party.IsLegible
  currency : party.currency ≠ some "NULL"

/-- The pieces of a key. -/
theorem toList_remoteKey (party : Party) :
    party.remoteKey.toList = ['-'].intercalate [party.partyId.toList, party.partyType.toList,
      (party.currency.getD "NULL").toList] := by
  have hseparator : "-".toList = ['-'] := rfl
  have hcurrency : RemoteOracle.checkNull (.ofOption party.currency) =
      party.currency.getD "NULL" := by
    cases party.currency <;> rfl
  simp only [Party.remoteKey, RemoteOracle.createKey, Party.record, JsString.toText, hcurrency,
    toString, String.toList_append, hseparator, List.intercalate_cons_cons,
    List.intercalate_singleton, List.append_assoc]

theorem splitOn_remoteKey (h : party.IsLegible) :
    party.remoteKey.toList.splitOn '-' = [party.partyId.toList, party.partyType.toList,
      (party.currency.getD "NULL").toList] := by
  have hcurrency : '-' ∉ (party.currency.getD "NULL").toList := by
    cases hsome : party.currency with
    | none => decide
    | some currency => exact (h.currency currency hsome).not_mem rfl
  rw [toList_remoteKey]
  refine List.splitOn_intercalate '-' ?_ (List.cons_ne_nil _ _)
  simp only [List.forall_mem_cons, List.not_mem_nil, false_implies, implies_true, and_true]
  exact ⟨h.partyId.not_mem rfl, h.partyType.not_mem rfl, hcurrency⟩

/-- Two legible parties with one key differ in nothing but a missing currency. -/
theorem eq_of_remoteKey {other : Party} (hparty : party.IsLegible) (hother : other.IsLegible)
    (hkey : other.remoteKey = party.remoteKey) :
    other.currency.getD "NULL" = party.currency.getD "NULL" ∧
      (other.currency = party.currency → other = party) := by
  have hsplit := (splitOn_remoteKey hother).symm.trans
    ((congrArg (fun key => key.toList.splitOn '-') hkey).trans (splitOn_remoteKey hparty))
  simp only [List.cons.injEq, String.toList_inj, and_true] at hsplit
  obtain ⟨hid, htype, hcurrency⟩ := hsplit
  refine ⟨hcurrency, fun hsame => ?_⟩
  cases party
  cases other
  simp only [Party.mk.injEq]
  exact ⟨htype, hid, hother.partySubType.trans hparty.partySubType.symm, hsame⟩

theorem addressed_keyed : Addressed Keyed := by
  refine ⟨fun party h => h.legible, fun party other hparty hother hkey => ?_⟩
  obtain ⟨hcurrency, heq⟩ := eq_of_remoteKey hparty.legible hother.legible hkey
  have hnone := hparty.currency
  have hnone' := hother.currency
  apply heq
  cases hsome : party.currency <;> cases hsome' : other.currency <;> simp_all

theorem addressed_isOrdinary : Addressed Party.IsOrdinary := by
  refine ⟨fun party h => h.isLegible, fun party other hparty hother hkey => ?_⟩
  obtain ⟨hcurrency, heq⟩ := eq_of_remoteKey hparty.isLegible hother.isLegible hkey
  obtain ⟨currency, hsome, -⟩ := hparty.currency
  obtain ⟨currency', hsome', -⟩ := hother.currency
  apply heq
  rw [hsome, hsome'] at hcurrency ⊢
  exact congrArg some hcurrency

/-- **The remote oracle is a directory, from the client to the file.** Over every run of calls
of the client, with restarts of the service in between, every outcome is the one that the
directory prescribes, if the parties reach the server and have keys of their own. Those written
in letters and digits, without a sub type and with no currency called `NULL`, are of this
kind. -/
theorem agrees_with_directory_throughout (server : RemoteOracleServer) (oracle : Oracle)
    (hkind : Addressed Kind) (inputs : List (OracleInput RemoteOracleWorld))
    (hserved : ∀ input ∈ inputs, server.Served Kind Directory.empty input) :
    Along (beside (OracleInput.perform (server.adapterTo oracle)) OracleInput.follow)
      (fun s input => input.Agrees (server.adapterTo oracle) s.1 s.2)
      (RemoteOracleWorld.fresh, Directory.empty) inputs := by
  refine ((simulates_adapterTo server oracle hkind).along inputs _ _
    (representsDirectory_fresh Kind) ?_).1
  refine (along_iff_forall_split _ _).mpr fun before input after hsplit => ?_
  have hinput := hserved input (hsplit ▸ List.mem_append_right _ (List.mem_cons_self ..))
  cases input with
  | call request => exact hinput
  | background change => exact hinput

/-- A server for phone numbers, and what happens to it: a second participant is refused,
and the first one gives its number up after a restart. -/
def sampleServer : RemoteOracleServer where
  oracle := ⟨"associations.json"⟩
  library := ⟨fun _ => none⟩
  unread _ := ⟨500, .statusText⟩

def sampleServed : List (OracleInput RemoteOracleWorld) :=
  [.call (.associateParticipant "greenbank" samplePhoneNumber),
    .call (.associateParticipant "bluebank" samplePhoneNumber),
    .background sampleServer.restarted,
    .call (.getParticipantFspId samplePhoneNumber),
    .call (.disassociateParticipant "greenbank" samplePhoneNumber)]

theorem agrees_with_directory_sampleServed :
    Along (beside (OracleInput.perform (sampleServer.adapterTo sampleRemoteOracle))
        OracleInput.follow)
      (fun s input => input.Agrees (sampleServer.adapterTo sampleRemoteOracle) s.1 s.2)
      (RemoteOracleWorld.fresh, Directory.empty) sampleServed := by
  have hkeyed : Keyed samplePhoneNumber :=
    ⟨samplePhoneNumber_isOrdinary.isLegible, by decide⟩
  refine agrees_with_directory_throughout sampleServer sampleRemoteOracle addressed_keyed
    sampleServed ?_
  simp only [sampleServed, List.forall_mem_cons, List.not_mem_nil, false_implies, implies_true,
    and_true]
  have hgreen : "greenbank" ≠ "" := by decide
  have hblue : "bluebank" ≠ "" := by decide
  exact ⟨⟨hkeyed, hgreen⟩, ⟨hkeyed, hblue⟩, rfl, ⟨hkeyed, trivial⟩, ⟨hkeyed, hgreen⟩⟩

end RemoteOracleServer

end AccountLookup
