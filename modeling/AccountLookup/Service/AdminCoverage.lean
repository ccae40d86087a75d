/-
# What the administration reads of the oracles

Every registered oracle has an adapter of its own, the one with its id, which reports
its associations. The reads of the administration go through the oracles, but they reach
an adapter by party type and currency, and they keep only what the last one reports, so
they cover every oracle only where nothing is lost on the way.
-/

import Mathlib.Data.List.Basic
import AccountLookup.Domain.AdminReads
import AccountLookup.Implementations.OracleRouting

namespace AccountLookup

open MongoOracleFinderRepo

/-- What the adapters with an id report: their associations, the results of one search,
and the keywords. -/
structure OracleContent where
  associations : List Association
  results : AssociationsSearchResults
  keywords : List SearchKeywords

/-- A search: what it looks for, and the page. -/
structure AssociationSearch where
  fspId : JsString
  partyId : JsString
  partyType : JsString
  partySubType : JsString
  currency : JsString
  pageIndex : Option JsNumber
  pageSize : Option JsNumber

namespace AccountLookupAggregate

variable {W : Type} (agg : AccountLookupAggregate W) (part : Component W FinderWorld)

def search (search : AssociationSearch) : Call W (Option AssociationsSearchResults) :=
  agg.getAllOracleAssociations search.fspId search.partyId search.partyType search.partySubType
    search.currency search.pageIndex search.pageSize

/-- The adapters report their content, whenever they are asked. -/
structure Reports (content : String → OracleContent) (search : AssociationSearch) : Prop where
  getAllAssociations : ∀ adapter ∈ agg.oracleProvidersAdapters, ∀ w,
    adapter.getAllAssociations w = (.ok (content adapter.oracleId).associations, w)
  searchAssociations : ∀ adapter ∈ agg.oracleProvidersAdapters, ∀ w,
    adapter.searchAssociations search.fspId search.partyId search.partyType search.partySubType
      search.currency search.pageIndex search.pageSize w =
        (.ok (.ok (content adapter.oracleId).results), w)
  getSearchKeywords : ∀ adapter ∈ agg.oracleProvidersAdapters, ∀ w,
    adapter.getSearchKeywords w = (.ok (.ok (content adapter.oracleId).keywords), w)

/-- The finder is the repository, its two searches succeed, and every registered oracle
has a loaded adapter. -/
structure AllLoaded (w : W) : Prop where
  finder : agg.oracleFinder = MongoOracleFinderRepo.finder.on part
  find : (part.get w).failure .find = none
  findByPartyType : (part.get w).failure .findByPartyType = none
  loaded : ∀ oracle ∈ (part.get w).oracles, ∃ adapter ∈ agg.oracleProvidersAdapters,
    adapter.oracleId = oracle.id

/-- The registered built-in oracles. -/
def builtinOracles (w : W) : List Oracle :=
  (part.get w).oracles.filter fun oracle => oracle.type = .builtin

/-- The id of the oracle that the party type and the currency of an oracle lead to. -/
def routedId (w : W) (oracle : Oracle) : String :=
  (oracleFor (part.get w) oracle.partyType oracle.currency).elim "" Oracle.id

/-- The reads cover every oracle: the associations of the built-in ones are put together,
each asked once; the search has the items of all of them, and the keywords their terms. -/
structure CoversOracles (content : String → OracleContent) (terms : AssociationSearch) (w : W) :
    Prop where
  concatenated : (agg.getBuiltInOracleAssociations w).1 =
    .ok ((builtinOracles part w).flatMap fun oracle => (content oracle.id).associations)
  askedOnce : (agg.recording.getBuiltInOracleAssociations ⟨w, []⟩).2.invoked =
    (builtinOracles part w).map Oracle.id
  items : ∃ results, (agg.search terms w).1 = .ok results ∧
    ∀ oracle ∈ (part.get w).oracles, ∀ item ∈ (content oracle.id).results.items,
      ∃ page, results = some page ∧ item ∈ page.items
  keywords : ∃ keywords, (agg.getSearchKeywords w).1 = .ok keywords ∧
    ∀ oracle ∈ (part.get w).oracles, ∀ own ∈ (content oracle.id).keywords,
      ∀ term ∈ own.distinctTerms,
        ∃ found ∈ keywords, found.fieldName = own.fieldName ∧ term ∈ found.distinctTerms

/-- Nothing is lost: every built-in oracle leads to its own adapter, and only the last one
has associations; and what any oracle reports is also reported by the adapter that the
last oracle leads to. -/
structure LosesNothing (content : String → OracleContent) (w : W) : Prop where
  ownRoute : ∀ oracle ∈ builtinOracles part w, routedId part w oracle = oracle.id
  lastOnly : ∀ oracle ∈ (builtinOracles part w).dropLast, (content oracle.id).associations = []
  items : ∀ last, (part.get w).oracles.getLast? = some last →
    ∀ oracle ∈ (part.get w).oracles, ∀ item ∈ (content oracle.id).results.items,
      item ∈ (content (routedId part w last)).results.items
  keywords : ∀ last, (part.get w).oracles.getLast? = some last →
    ∀ oracle ∈ (part.get w).oracles, ∀ own ∈ (content oracle.id).keywords,
      ∀ term ∈ own.distinctTerms, ∃ found ∈ (content (routedId part w last)).keywords,
        found.fieldName = own.fieldName ∧ term ∈ found.distinctTerms

variable {agg part} {w : W} {content : String → OracleContent} {terms : AssociationSearch}

/-- A registered oracle leads to a registered oracle, and to its adapter. -/
theorem AllLoaded.routed (h : agg.AllLoaded part w) {oracle : Oracle}
    (hregistered : oracle ∈ (part.get w).oracles) :
    ∃ adapter ∈ agg.oracleProvidersAdapters, adapter.oracleId = routedId part w oracle ∧
      agg.getOracleAdapter oracle.partyType oracle.currency w = (.ok adapter, w) := by
  have hof : oracle ∈ ofType (part.get w).oracles oracle.partyType := by
    refine mem_ofType.mpr ⟨hregistered, ?_⟩
    unfold Oracle.IsOf fieldMatches
    cases oracle.partyType <;> simp [JsString.nullish]
  have hsame : part.set w (getOracle oracle.partyType oracle.currency (part.get w)).2 = w := by
    rw [registry_getOracle, part.set_get]
  rcases getOracle_cases oracle.partyType oracle.currency (part.get w) with
    ⟨selected, hselected, hanswer⟩ | ⟨hnone, -⟩
  · have hcall : agg.oracleFinder.getOracle oracle.partyType oracle.currency w =
        (.ok (some selected), w) := by
      rw [h.finder]
      exact Prod.ext hanswer hsame
    have hselectedRegistered : selected ∈ (part.get w).oracles :=
      mem_of_getOracle (Prod.ext hanswer rfl)
    obtain ⟨other, hother, hid⟩ := h.loaded selected hselectedRegistered
    cases hfind : agg.oracleProvidersAdapters.find? fun a => a.oracleId = selected.id with
    | none => exact absurd (decide_eq_true hid) (List.find?_eq_none.mp hfind other hother)
    | some adapter =>
      refine ⟨adapter, List.mem_of_find?_eq_some hfind, ?_, ?_⟩
      · rw [routedId, hselected]
        simpa using List.find?_some hfind
      · simp only [getOracleAdapter, hcall, hfind]
  · -- the oracle itself would do
    rw [oracleFor, h.findByPartyType] at hnone
    dsimp only at hnone
    rw [Option.or_eq_none_iff, List.head?_eq_none_iff] at hnone
    exact absurd hof (by simp [hnone.2])

/-- The listing that the loops go through. -/
theorem AllLoaded.getAllOracles (h : agg.AllLoaded part w) :
    agg.oracleFinder.getAllOracles w = (.ok (part.get w).oracles, w) := by
  simp only [h.finder, IOracleFinder.on, Call.on, MongoOracleFinderRepo.finder,
    MongoOracleFinderRepo.getAllOracles, h.find, part.set_get]

/-- The outcome of a loop over registered oracles. -/
theorem AllLoaded.readOracles {α : Type} (h : agg.AllLoaded part w)
    {read : IOracleProviderAdapter W → Call W (Except JsError α)} {subject : String}
    (value : String → α)
    (hread : ∀ adapter ∈ agg.oracleProvidersAdapters, ∀ w,
      read adapter w = (.ok (.ok (value adapter.oracleId)), w))
    {oracles : List Oracle} (hregistered : ∀ oracle ∈ oracles, oracle ∈ (part.get w).oracles)
    (collected : α) :
    agg.readOracles read subject oracles collected w =
      (.ok (oracles.getLast?.elim collected fun last => value (routedId part w last)), w) := by
  rw [readOracles_of_answers (fun v => v = w) (fun _ v => v) value (routedId part w)
    (fun _ _ hv => hv) hread (fun oracle horacle => ?_) collected rfl, List.foldl_fixed]
  obtain ⟨adapter, hadapter, hid, hrouted⟩ := h.routed (hregistered oracle horacle)
  refine ⟨adapter, hadapter, hid, ?_⟩
  rintro v rfl
  exact hrouted

/-- The loop over the built-in oracles, with the adapters that it asks. -/
theorem AllLoaded.getBuiltInOracleAssociations_recording (h : agg.AllLoaded part w)
    (hreports : agg.Reports content terms) :
    (agg.recording.getBuiltInOracleAssociations ⟨w, []⟩).2.invoked =
      (builtinOracles part w).map (routedId part w) := by
  have hlisted : agg.recording.oracleFinder.getAllOracles ⟨w, []⟩ =
      (.ok (part.get w).oracles, ⟨w, []⟩) := by
    simp only [recording, IOracleFinder.on, Call.on, Invocations.worldPart, h.getAllOracles]
  have hread : ∀ adapter ∈ agg.recording.oracleProvidersAdapters, ∀ v,
      rejecting adapter.getAllAssociations v =
        (.ok (.ok (content adapter.oracleId).associations),
          { v with invoked := v.invoked ++ [adapter.oracleId] }) := by
    intro adapter hadapter v
    obtain ⟨plain, hplain, rfl⟩ := List.mem_map.mp hadapter
    simp only [rejecting, IOracleProviderAdapter.recording, Invocations.noted,
      hreports.getAllAssociations plain hplain]
  have hinvoked : ∀ (oracles : List Oracle) (v : Invocations W),
      (oracles.foldl (fun v oracle =>
        { v with invoked := v.invoked ++ [routedId part w oracle] }) v).invoked =
          v.invoked ++ oracles.map (routedId part w) := by
    intro oracles
    induction oracles with
    | nil => simp
    | cons oracle oracles ih =>
      intro v
      rw [List.foldl_cons, ih, List.append_assoc]
      rfl
  rw [getBuiltInOracleAssociations, hlisted]
  dsimp only
  rw [readOracles_of_answers (fun v => v.world = w)
    (fun id v => { v with invoked := v.invoked ++ [id] })
    (fun id => (content id).associations) (routedId part w) (fun _ _ hv => hv) hread ?_ [] rfl,
    hinvoked]
  · rfl
  · intro oracle horacle
    obtain ⟨adapter, hadapter, hid, hrouted⟩ := h.routed (List.mem_filter.mp horacle).1
    refine ⟨adapter.recording, List.mem_map_of_mem hadapter, hid, ?_⟩
    rintro ⟨v, invoked⟩ rfl
    rw [getOracleAdapter_recording, hrouted]
    rfl

theorem AllLoaded.getBuiltInOracleAssociations (h : agg.AllLoaded part w)
    (hreports : agg.Reports content terms) :
    (agg.getBuiltInOracleAssociations w).1 = .ok ((builtinOracles part w).getLast?.elim []
      fun last => (content (routedId part w last)).associations) := by
  rw [AccountLookupAggregate.getBuiltInOracleAssociations, h.getAllOracles]
  dsimp only
  rw [h.readOracles (fun id => (content id).associations) (fun adapter hadapter v => ?_)
    (fun oracle horacle => (List.mem_filter.mp horacle).1)]
  · rfl
  · rw [rejecting, hreports.getAllAssociations adapter hadapter]

theorem AllLoaded.search (h : agg.AllLoaded part w) (hreports : agg.Reports content terms) :
    (agg.search terms w).1 = .ok ((part.get w).oracles.getLast?.elim none
      fun last => some (content (routedId part w last)).results) := by
  rw [AccountLookupAggregate.search, getAllOracleAssociations, h.getAllOracles]
  dsimp only
  rw [h.readOracles (fun id => some (content id).results) (fun adapter hadapter v => ?_)
    (fun oracle horacle => horacle)]
  rw [hreports.searchAssociations adapter hadapter]
  rfl

theorem AllLoaded.getSearchKeywords (h : agg.AllLoaded part w)
    (hreports : agg.Reports content terms) :
    (agg.getSearchKeywords w).1 = .ok ((part.get w).oracles.getLast?.elim []
      fun last => (content (routedId part w last)).keywords) := by
  rw [AccountLookupAggregate.getSearchKeywords, h.getAllOracles]
  dsimp only
  rw [h.readOracles (fun id => (content id).keywords) hreports.getSearchKeywords
    (fun oracle horacle => horacle)]

/-- The last of a list of parts is the concatenation when the others are empty. -/
theorem getLast?_eq_flatMap_iff {α β : Type} (oracles : List α) (value : α → List β) :
    oracles.getLast?.elim [] value = oracles.flatMap value ↔
      ∀ oracle ∈ oracles.dropLast, value oracle = [] := by
  rcases List.eq_nil_or_concat' oracles with rfl | ⟨init, last, rfl⟩
  · simp
  · rw [List.getLast?_concat, List.dropLast_concat, List.flatMap_append, List.flatMap_singleton,
      Option.elim_some, List.self_eq_append_left, List.flatMap_eq_nil_iff]

/-- **When the reads cover every oracle.** -/
theorem coversOracles_iff (agg : AccountLookupAggregate W) (part : Component W FinderWorld)
    (w : W) (h : agg.AllLoaded part w) (content : String → OracleContent)
    (terms : AssociationSearch) (hreports : agg.Reports content terms) :
    agg.CoversOracles part content terms w ↔ LosesNothing part content w := by
  have hconcatenated : (∀ oracle ∈ builtinOracles part w, routedId part w oracle = oracle.id) →
      ((agg.getBuiltInOracleAssociations w).1 =
          .ok ((builtinOracles part w).flatMap fun oracle => (content oracle.id).associations) ↔
        ∀ oracle ∈ (builtinOracles part w).dropLast, (content oracle.id).associations = []) := by
    intro hown
    rw [h.getBuiltInOracleAssociations hreports, Except.ok.injEq, ← getLast?_eq_flatMap_iff]
    cases hlast : (builtinOracles part w).getLast? with
    | none => rfl
    | some last => rw [Option.elim_some, Option.elim_some, hown last (List.mem_of_getLast? hlast)]
  constructor
  · intro hcovers
    have hown : ∀ oracle ∈ builtinOracles part w, routedId part w oracle = oracle.id := by
      rw [← List.map_inj_left, ← h.getBuiltInOracleAssociations_recording hreports]
      exact hcovers.askedOnce
    refine ⟨hown, (hconcatenated hown).mp hcovers.concatenated, fun last hlast => ?_,
      fun last hlast => ?_⟩
    · obtain ⟨results, hresults, hitems⟩ := hcovers.items
      rw [h.search hreports, hlast, Option.elim_some] at hresults
      obtain rfl := Except.ok.inj hresults
      intro oracle horacle item hitem
      obtain ⟨page, hpage, hmem⟩ := hitems oracle horacle item hitem
      exact Option.some.inj hpage ▸ hmem
    · obtain ⟨keywords, hkeywords, hterms⟩ := hcovers.keywords
      rw [h.getSearchKeywords hreports, hlast, Option.elim_some] at hkeywords
      obtain rfl := Except.ok.inj hkeywords
      exact hterms
  · intro hloses
    refine ⟨(hconcatenated hloses.ownRoute).mpr hloses.lastOnly, ?_,
      ⟨_, h.search hreports, fun oracle horacle item hitem => ?_⟩,
      ⟨_, h.getSearchKeywords hreports, fun oracle horacle own hown term hterm => ?_⟩⟩
    · rw [h.getBuiltInOracleAssociations_recording hreports, List.map_inj_left]
      exact hloses.ownRoute
    · cases hlast : (part.get w).oracles.getLast? with
      | none =>
        rw [List.getLast?_eq_none_iff.mp hlast] at horacle
        cases horacle
      | some last => exact ⟨_, rfl, hloses.items last hlast oracle horacle item hitem⟩
    · cases hlast : (part.get w).oracles.getLast? with
      | none =>
        rw [List.getLast?_eq_none_iff.mp hlast] at horacle
        cases horacle
      | some last => exact hloses.keywords last hlast oracle horacle own hown term hterm

/-- The registry as a world of its own. -/
def registryPart : Component FinderWorld FinderWorld where
  get w := w
  set _ w := w
  get_set _ _ := rfl
  set_get _ := rfl

/-- An adapter that reports one association, of a party with the adapter's id. -/
def reportingContent (id : String) : OracleContent where
  associations := [⟨.str "greenbank", .str "MSISDN", .str id, .null, .null⟩]
  results := ⟨.int 100, .int 0, .int 1,
    [⟨.str "greenbank", .str "MSISDN", .str id, .null, .null⟩]⟩
  keywords := [⟨"fspId", [.str "greenbank"]⟩]

def reportingAdapter (content : String → OracleContent) (id : String) :
    IOracleProviderAdapter FinderWorld where
  oracleId := id
  type := .builtin
  init := fun w => (.ok (), w)
  destroy := fun w => (.ok (), w)
  healthCheck := fun w => (.ok true, w)
  getParticipantFspId := fun _ _ _ _ w => (.ok .null, w)
  associateParticipant := fun _ _ _ _ _ w => (.ok (), w)
  disassociateParticipant := fun _ _ _ _ _ w => (.ok (), w)
  getAllAssociations := fun w => (.ok (content id).associations, w)
  searchAssociations := fun _ _ _ _ _ _ _ w => (.ok (.ok (content id).results), w)
  getSearchKeywords := fun w => (.ok (.ok (content id).keywords), w)

/-- An aggregate with the adapters of the given ids. -/
def reportingAggregate (content : String → OracleContent) (ids : List String) :
    AccountLookupAggregate FinderWorld where
  oracleFinder := MongoOracleFinderRepo.finder.on registryPart
  oracleProvidersFactory := ⟨fun _ w => (.error ⟨.oracleTypeNotSupportedError, ""⟩, w)⟩
  participantService := ⟨fun _ w => (.ok none, w)⟩
  oracleProvidersAdapters := ids.map (reportingAdapter content)

/-- A registry of built-in oracles with the given ids, each of a party type of its own. -/
def reportingRegistry (ids : List String) : FinderWorld :=
  FinderWorld.holding (ids.map fun id => ⟨id, .str id, .builtin, .str id, .null, .null⟩)

def sampleSearch : AssociationSearch := ⟨.null, .null, .null, .null, .null, none, none⟩

theorem reports_reportingAggregate (content : String → OracleContent) (ids : List String) :
    (reportingAggregate content ids).Reports content sampleSearch := by
  refine ⟨fun adapter hadapter w => ?_, fun adapter hadapter w => ?_, fun adapter hadapter w => ?_⟩
  all_goals
    obtain ⟨id, -, rfl⟩ := List.mem_map.mp hadapter
    rfl

theorem allLoaded_reportingAggregate (content : String → OracleContent) (ids : List String) :
    (reportingAggregate content ids).AllLoaded registryPart (reportingRegistry ids) := by
  refine ⟨rfl, rfl, rfl, fun oracle horacle => ?_⟩
  obtain ⟨id, hid, rfl⟩ := List.mem_map.mp horacle
  exact ⟨reportingAdapter content id, List.mem_map_of_mem hid, rfl⟩

/-- Of two built-in oracles only the last one's associations are returned. -/
theorem not_forall_coversOracles :
    ¬ ∀ (agg : AccountLookupAggregate FinderWorld) (part : Component FinderWorld FinderWorld)
      (w : FinderWorld), agg.AllLoaded part w →
      ∀ (content : String → OracleContent) (terms : AssociationSearch),
        agg.Reports content terms → agg.CoversOracles part content terms w := by
  intro h
  have hconcatenated := (h (reportingAggregate reportingContent ["1", "2"]) registryPart
    (reportingRegistry ["1", "2"]) (allLoaded_reportingAggregate _ _) reportingContent
    sampleSearch (reports_reportingAggregate _ _)).concatenated
  exact absurd hconcatenated (by decide)

/-- Three oracles: one without content, one without associations whose items and keywords are
those of the last, and the last one. -/
def coveredContent (id : String) : OracleContent :=
  if id = "1" then ⟨[], ⟨.int 100, .int 0, .int 0, []⟩, []⟩
  else if id = "2" then { reportingContent "3" with associations := [] }
  else reportingContent id

/-- Oracles of which only the last has anything of its own to report are covered. -/
theorem coversOracles_coveredContent :
    LosesNothing registryPart coveredContent (reportingRegistry ["1", "2", "3"]) ∧
      (reportingAggregate coveredContent ["1", "2", "3"]).CoversOracles registryPart coveredContent
        sampleSearch (reportingRegistry ["1", "2", "3"]) := by
  have hnothing : LosesNothing registryPart coveredContent (reportingRegistry ["1", "2", "3"]) := by
    refine ⟨by decide, by decide, ?_, ?_⟩
    · rintro last hlast
      obtain rfl := Option.some.inj hlast
      decide
    · rintro last hlast
      obtain rfl := Option.some.inj hlast
      decide
  exact ⟨hnothing, (coversOracles_iff (reportingAggregate coveredContent ["1", "2", "3"])
    registryPart (reportingRegistry ["1", "2", "3"]) (allLoaded_reportingAggregate _ _)
    coveredContent sampleSearch (reports_reportingAggregate _ _)).mpr hnothing⟩

end AccountLookupAggregate

end AccountLookup
