/-
# The account lookup aggregate: reads of the administration

The listing of the oracles, their health, and the three reads that go through all
oracles: the associations of the built-in ones, a search, and the keywords of searches.
Each of these three is a loop that asks one adapter for each oracle, the one that the
oracle's party type and currency are routed to, and keeps what the last one answers.
-/

import AccountLookup.Domain.Invocations

namespace AccountLookup

namespace AccountLookupAggregate

variable {W : Type} {α : Type} (agg : AccountLookupAggregate W)

def getAllOracles : Call W (List Oracle) := agg.oracleFinder.getAllOracles

def getOracleById (id : String) : Call W (Option Oracle) := agg.oracleFinder.getOracleById id

def healthCheck (id : String) : Call W Bool := fun w =>
  match agg.oracleProvidersAdapters.find? fun o => o.oracleId = id with
  | none => (.error ⟨.oracleNotFoundError, s!"Oracle does not exist for given id {id}"⟩, w)
  | some oracleFound => oracleFound.healthCheck w

/-- A call whose failures are all rejections. -/
def rejecting (call : Call W α) : Call W (Except JsError α) := fun w =>
  (.ok (call w).1, (call w).2)

/-- The loop over the oracles. What an adapter answers takes the place of what the ones
before it have answered. -/
def readOracles (read : IOracleProviderAdapter W → Call W (Except JsError α)) (subject : String) :
    List Oracle → α → Call W α
  | [], collected, w => (.ok collected, w)
  | oracle :: oracles, _, w =>
    match agg.getOracleAdapter oracle.partyType oracle.currency w with
    | (.error error, w) =>
      (.error ⟨.oracleNotFoundError,
        s!"Unable to get oracle provider for oracle: {oracle.id} {error.message}"⟩, w)
    | (.ok oracleProvider, w) =>
      match read oracleProvider w with
      | (.error error, w) => (.error error, w)
      | (.ok (.error error), w) =>
        (.error ⟨.unableToGetOracleAssociationsError,
          s!"Unable to get oracle {subject} for oracle: {oracle.id} {error.message}"⟩, w)
      | (.ok (.ok collected), w) => readOracles read subject oracles collected w

def getBuiltInOracleAssociations : Call W (List Association) := fun w =>
  match agg.oracleFinder.getAllOracles w with
  | (.error error, w) => (.error error, w)
  | (.ok oracles, w) =>
    agg.readOracles (fun oracleProvider => rejecting oracleProvider.getAllAssociations)
      "associations" (oracles.filter fun o => o.type = .builtin) [] w

/-- Without any oracle there are no results, only an empty list. -/
def getAllOracleAssociations (fspId partyId partyType partySubType currency : JsString)
    (pageIndex pageSize : Option JsNumber) : Call W (Option AssociationsSearchResults) := fun w =>
  match agg.oracleFinder.getAllOracles w with
  | (.error error, w) => (.error error, w)
  | (.ok oracles, w) =>
    agg.readOracles
      (fun oracleProvider w =>
        let results := oracleProvider.searchAssociations fspId partyId partyType partySubType
          currency pageIndex pageSize w
        (results.1.map fun associations => associations.map some, results.2))
      "associations" oracles none w

def getSearchKeywords : Call W (List SearchKeywords) := fun w =>
  match agg.oracleFinder.getAllOracles w with
  | (.error error, w) => (.error error, w)
  | (.ok oracles, w) =>
    agg.readOracles (fun oracleProvider => oracleProvider.getSearchKeywords) "search keywords"
      oracles [] w

variable {agg}

/-- A loop in which every adapter answers: the answer of the last one, after all of them
have been asked in turn. `Ok` are the worlds in which the oracles are routed, `after` is
what asking an adapter does to the world. -/
theorem readOracles_of_answers {read : IOracleProviderAdapter W → Call W (Except JsError α)}
    {subject : String} (Ok : W → Prop) (after : String → W → W) (value : String → α)
    (routedId : Oracle → String) (hafter : ∀ id w, Ok w → Ok (after id w))
    (hread : ∀ adapter ∈ agg.oracleProvidersAdapters, ∀ w,
      read adapter w = (.ok (.ok (value adapter.oracleId)), after adapter.oracleId w)) :
    ∀ {oracles : List Oracle},
      (∀ oracle ∈ oracles, ∃ adapter ∈ agg.oracleProvidersAdapters,
        adapter.oracleId = routedId oracle ∧ ∀ w, Ok w →
          agg.getOracleAdapter oracle.partyType oracle.currency w = (.ok adapter, w)) →
      ∀ (collected : α) {w : W}, Ok w →
        agg.readOracles read subject oracles collected w =
          (.ok (oracles.getLast?.elim collected fun last => value (routedId last)),
            oracles.foldl (fun w oracle => after (routedId oracle) w) w) := by
  intro oracles
  induction oracles with
  | nil =>
    intro _ collected w _
    rfl
  | cons oracle oracles ih =>
    intro hroute collected w hok
    obtain ⟨adapter, hadapter, hid, hrouted⟩ := hroute oracle (List.mem_cons_self ..)
    rw [readOracles, hrouted w hok]
    dsimp only
    rw [hread adapter hadapter]
    dsimp only
    rw [ih (fun other hother => hroute other (List.mem_cons_of_mem _ hother)) _
      (hafter _ _ hok), hid, List.foldl_cons]
    cases oracles with
    | nil => rfl
    | cons next oracles => rw [List.getLast?_cons_cons, List.getLast?_eq_some_getLast] <;> simp

end AccountLookupAggregate

end AccountLookup
