/-
# Routing by party type and currency

A request is meant for an oracle of its party type and currency, and failing that
for one registered without a currency. The finder tells apart absent and `null`
currencies and falls back on the first oracle of the party type whatever its
currency, so it serves the purpose only on some registries, which are determined here.
-/

import AccountLookup.Implementations.MongoOracleFinder

namespace AccountLookup

/-- The oracle is registered for the party type. -/
def Oracle.IsOf (oracle : Oracle) (partyType : JsString) : Prop :=
  fieldMatches oracle.partyType partyType = true

/-- The oracle is registered for the currency, absent and `null` identified. -/
def Oracle.IsFor (oracle : Oracle) (currency : JsString) : Prop :=
  oracle.currency.orNull = currency.orNull

/-- The registry with the given oracles, within reach. -/
def FinderWorld.holding (oracles : List Oracle) : FinderWorld := ⟨oracles, fun _ => none⟩

namespace Oracle

variable {oracle : Oracle} {currency : JsString}

/-- A request that names no currency is for the oracles without one. -/
theorem isFor_iff_of_nullish (h : currency.nullish = true) :
    oracle.IsFor currency ↔ oracle.IsFor .null := by
  cases currency with
  | undefined => exact Iff.rfl
  | null => exact Iff.rfl
  | str value => cases h

/-- A request that names a currency is for the oracles with that very currency. -/
theorem isFor_iff_of_named (h : currency.nullish = false) :
    oracle.IsFor currency ↔ oracle.currency = currency := by
  cases currency with
  | undefined => cases h
  | null => cases h
  | str value =>
    unfold IsFor
    cases oracle.currency <;> simp

end Oracle

namespace MongoOracleFinderRepo

/-- What the finder answers on a registry. -/
def routed (oracles : List Oracle) (partyType currency : JsString) :
    Except JsError (Option Oracle) :=
  (getOracle partyType currency (FinderWorld.holding oracles)).1

/-- The oracles of a party type, in the order of the registry. -/
def ofType (oracles : List Oracle) (partyType : JsString) : List Oracle :=
  oracles.filter fun oracle => fieldMatches oracle.partyType partyType

/-- The purpose of the routing. An oracle of the party type and the currency is
preferred; a request that names a currency gets otherwise an oracle without a
currency, and is rejected when there is none. -/
structure RespectsCurrency (oracles : List Oracle) (partyType currency : JsString) : Prop where
  preferred : (∃ oracle ∈ oracles, oracle.IsOf partyType ∧ oracle.IsFor currency) →
    ∃ oracle ∈ oracles, oracle.IsOf partyType ∧ oracle.IsFor currency ∧
      routed oracles partyType currency = .ok (some oracle)
  fallback : currency.nullish = false →
    (¬ ∃ oracle ∈ oracles, oracle.IsOf partyType ∧ oracle.IsFor currency) →
    (∃ oracle ∈ oracles, oracle.IsOf partyType ∧ oracle.IsFor .null ∧
        routed oracles partyType currency = .ok (some oracle)) ∨
      (¬ ∃ oracle ∈ oracles, oracle.IsOf partyType ∧ oracle.IsFor .null) ∧
        ∃ message, routed oracles partyType currency = .error ⟨.noSuchOracleError, message⟩

/-- Some oracle of the party type has the very currency asked for, or the first one
has no currency, or the request names none and neither does without any of them. -/
def RoutableByCurrency (oracles : List Oracle) (partyType currency : JsString) : Prop :=
  (∃ oracle ∈ ofType oracles partyType, oracle.currency = currency) ∨
    (∀ first, (ofType oracles partyType).head? = some first → first.IsFor .null) ∨
    (currency.nullish = true ∧ ∀ oracle ∈ ofType oracles partyType, ¬ oracle.IsFor .null)

variable {oracles : List Oracle} {partyType currency : JsString} {oracle : Oracle}

theorem mem_ofType : oracle ∈ ofType oracles partyType ↔
    oracle ∈ oracles ∧ oracle.IsOf partyType := List.mem_filter

/-- The oracle that a party is routed to, when the registry can be searched: the first
one of its type with the very currency asked for, or else the first one of its type. -/
def oracleFor (w : FinderWorld) (partyType currency : JsString) : Option Oracle :=
  match w.failure .findByPartyType with
  | some _ => none
  | none => ((ofType w.oracles partyType).find? fun oracle => oracle.currency = currency).or
      (ofType w.oracles partyType).head?

/-- The finder answers with the oracle that the party is routed to. -/
theorem getOracle_fst (partyType currency : JsString) (w : FinderWorld) :
    (getOracle partyType currency w).1 =
      match w.failure .findByPartyType with
      | some message => .error ⟨.unableToGetOracleError, s!"Unable to get oracle: {message}"⟩
      | none =>
        match oracleFor w partyType currency with
        | none => .error ⟨.noSuchOracleError,
          s!"Oracle with partyType {partyType.toText}  and currency {currency.toText} not found"⟩
        | some oracle => .ok (some oracle) := by
  unfold getOracle oracleFor
  cases w.failure .findByPartyType with
  | some message => rfl
  | none =>
    have hchosen : ((ofType w.oracles partyType).filter fun o => o.currency = currency).head?.or
        ((ofType w.oracles partyType).filter fun o => o.currency ≠ currency).head? =
          ((ofType w.oracles partyType).find? fun o => o.currency = currency).or
            (ofType w.oracles partyType).head? := by
      rw [List.head?_filter]
      cases hfind : (ofType w.oracles partyType).find? fun o => o.currency = currency with
      | some oracle => rfl
      | none =>
        rw [List.filter_eq_self.mpr]
        intro oracle horacle
        simpa using List.find?_eq_none.mp hfind oracle horacle
    rw [← hchosen]
    unfold ofType
    dsimp only
    cases List.head? _ |>.or _ with
    | some oracle => rfl
    | none => rfl

theorem getOracle_cases (partyType currency : JsString) (w : FinderWorld) :
    (∃ oracle, oracleFor w partyType currency = some oracle ∧
        (getOracle partyType currency w).1 = .ok (some oracle)) ∨
      oracleFor w partyType currency = none ∧
        ∃ error, (getOracle partyType currency w).1 = .error error ∧
          (w.failure .findByPartyType = none → error.cls = .noSuchOracleError) := by
  rw [getOracle_fst]
  cases hfailure : w.failure .findByPartyType with
  | some message =>
    refine Or.inr ⟨?_, _, rfl, fun h => (by cases h)⟩
    rw [oracleFor, hfailure]
  | none =>
    cases oracleFor w partyType currency with
    | some oracle => exact Or.inl ⟨oracle, rfl, rfl⟩
    | none => exact Or.inr ⟨rfl, _, rfl, fun _ => rfl⟩

theorem routed_cases (oracles : List Oracle) (partyType currency : JsString) :
    (∃ oracle, oracleFor (FinderWorld.holding oracles) partyType currency = some oracle ∧
        routed oracles partyType currency = .ok (some oracle)) ∨
      oracleFor (FinderWorld.holding oracles) partyType currency = none ∧
        ∃ message, routed oracles partyType currency = .error ⟨.noSuchOracleError, message⟩ := by
  rcases getOracle_cases partyType currency (FinderWorld.holding oracles) with
    hfound | ⟨hnone, ⟨cls, message⟩, herror, hcls⟩
  · exact Or.inl hfound
  · obtain rfl : cls = .noSuchOracleError := hcls rfl
    exact Or.inr ⟨hnone, message, herror⟩

/-- An oracle with the very currency asked for is found. -/
theorem routed_of_strict (h : ∃ oracle ∈ ofType oracles partyType, oracle.currency = currency) :
    ∃ oracle ∈ ofType oracles partyType, oracle.currency = currency ∧
      routed oracles partyType currency = .ok (some oracle) := by
  obtain ⟨candidate, hmem, hcurrency⟩ := h
  cases hfind : (ofType oracles partyType).find? fun o => o.currency = currency with
  | none => exact absurd (decide_eq_true hcurrency) (List.find?_eq_none.mp hfind candidate hmem)
  | some first =>
    have hfor : oracleFor (FinderWorld.holding oracles) partyType currency = some first := by
      simp only [oracleFor, FinderWorld.holding, hfind, Option.some_or]
    have hfirst := List.find?_some hfind
    refine ⟨first, List.mem_of_find?_eq_some hfind, of_decide_eq_true hfirst, ?_⟩
    rcases routed_cases oracles partyType currency with ⟨oracle, horacle, hrouted⟩ | ⟨hnone, -⟩
    · obtain rfl := Option.some.inj (hfor.symm.trans horacle)
      exact hrouted
    · cases hfor.symm.trans hnone

/-- Without one, the first oracle of the party type is found, whatever its currency. -/
theorem routed_of_not_strict
    (h : ¬ ∃ oracle ∈ ofType oracles partyType, oracle.currency = currency) :
    (∃ first, (ofType oracles partyType).head? = some first ∧
        routed oracles partyType currency = .ok (some first)) ∨
      ofType oracles partyType = [] ∧
        ∃ message, routed oracles partyType currency = .error ⟨.noSuchOracleError, message⟩ := by
  have hfind : ((ofType oracles partyType).find? fun o => o.currency = currency) = none :=
    List.find?_eq_none.mpr fun o ho hcurrency => h ⟨o, ho, of_decide_eq_true hcurrency⟩
  have hfor : oracleFor (FinderWorld.holding oracles) partyType currency =
      (ofType oracles partyType).head? := by
    simp only [oracleFor, FinderWorld.holding, hfind, Option.none_or]
  rw [← List.head?_eq_none_iff, ← hfor]
  exact routed_cases oracles partyType currency

/-- The case that is decided by the first oracle of the party type. -/
theorem respectsCurrency_iff_of_first {first : Oracle}
    (hstrict : ¬ ∃ oracle ∈ ofType oracles partyType, oracle.currency = currency)
    (hhead : (ofType oracles partyType).head? = some first)
    (hrouted : routed oracles partyType currency = .ok (some first)) :
    RespectsCurrency oracles partyType currency ↔
      RoutableByCurrency oracles partyType currency := by
  obtain ⟨hregistered, hof⟩ := mem_ofType.mp (List.mem_of_mem_head? hhead)
  have hroute : ∀ oracle, routed oracles partyType currency = .ok (some oracle) →
      oracle = first := by
    intro oracle h
    exact (Option.some.inj (Except.ok.inj (hrouted.symm.trans h))).symm
  have hnamed : currency.nullish = false →
      ¬ ∃ oracle ∈ oracles, oracle.IsOf partyType ∧ oracle.IsFor currency := by
    rintro hnamed ⟨oracle, hmem, hoof, hfor⟩
    exact hstrict ⟨oracle, mem_ofType.mpr ⟨hmem, hoof⟩, (Oracle.isFor_iff_of_named hnamed).mp hfor⟩
  constructor
  · intro hrespects
    by_cases hfirst : first.IsFor .null
    · refine Or.inr (Or.inl fun other hother => ?_)
      obtain rfl := Option.some.inj (hhead.symm.trans hother)
      exact hfirst
    · -- the first oracle has a currency, so nothing may be routed to it
      cases hcurrency : currency.nullish with
      | false =>
        rcases hrespects.fallback hcurrency (hnamed hcurrency) with
          ⟨oracle, -, -, hnull, h⟩ | ⟨-, message, h⟩
        · exact absurd (hroute oracle h ▸ hnull) hfirst
        · cases hrouted.symm.trans h
      | true =>
        refine Or.inr (Or.inr ⟨hcurrency, fun oracle hmem hnull => hfirst ?_⟩)
        obtain ⟨hoMem, hoof⟩ := mem_ofType.mp hmem
        obtain ⟨found, -, -, hfor, h⟩ := hrespects.preferred
          ⟨oracle, hoMem, hoof, (Oracle.isFor_iff_of_nullish hcurrency).mpr hnull⟩
        exact (Oracle.isFor_iff_of_nullish hcurrency).mp (hroute found h ▸ hfor)
  · rintro (h | hfirst | ⟨hcurrency, hnone⟩)
    · exact absurd h hstrict
    · refine ⟨fun hexists => ?_, fun _ _ => ?_⟩
      · cases hcurrency : currency.nullish with
        | false => exact absurd hexists (hnamed hcurrency)
        | true =>
          exact ⟨first, hregistered, hof,
            (Oracle.isFor_iff_of_nullish hcurrency).mpr (hfirst first hhead), hrouted⟩
      · exact Or.inl ⟨first, hregistered, hof, hfirst first hhead, hrouted⟩
    · refine ⟨?_, fun hnamed' => ?_⟩
      · rintro ⟨oracle, hmem, hoof, hfor⟩
        exact absurd ((Oracle.isFor_iff_of_nullish hcurrency).mp hfor)
          (hnone oracle (mem_ofType.mpr ⟨hmem, hoof⟩))
      · cases hcurrency.symm.trans hnamed'

/-- **When the routing respects the currency.** -/
theorem respectsCurrency_iff_routableByCurrency (oracles : List Oracle)
    (partyType currency : JsString) :
    RespectsCurrency oracles partyType currency ↔
      RoutableByCurrency oracles partyType currency := by
  by_cases hstrict : ∃ oracle ∈ ofType oracles partyType, oracle.currency = currency
  · obtain ⟨oracle, hmem, hcurrency, hrouted⟩ := routed_of_strict hstrict
    have hfor : oracle.IsFor currency := congrArg JsString.orNull hcurrency
    obtain ⟨hregistered, hof⟩ := mem_ofType.mp hmem
    refine iff_of_true ⟨fun _ => ⟨oracle, hregistered, hof, hfor, hrouted⟩, fun _ hnone => ?_⟩
      (Or.inl hstrict)
    exact absurd ⟨oracle, hregistered, hof, hfor⟩ hnone
  rcases routed_of_not_strict hstrict with ⟨first, hhead, hrouted⟩ | ⟨hempty, hrejected⟩
  · exact respectsCurrency_iff_of_first hstrict hhead hrouted
  · have hnone : ∀ oracle ∈ oracles, ¬ oracle.IsOf partyType := fun oracle hmem hof =>
      List.eq_nil_iff_forall_not_mem.mp hempty oracle (mem_ofType.mpr ⟨hmem, hof⟩)
    refine iff_of_true ⟨?_, fun _ _ => Or.inr ⟨?_, hrejected⟩⟩ (Or.inr (Or.inl ?_))
    · rintro ⟨oracle, hmem, hof, -⟩
      exact absurd hof (hnone oracle hmem)
    · rintro ⟨oracle, hmem, hof, -⟩
      exact hnone oracle hmem hof
    · intro first hhead
      rw [hempty] at hhead
      cases hhead

/-- The only oracle is registered for another currency than the one asked for. -/
theorem not_forall_respectsCurrency :
    ¬ ∀ (oracles : List Oracle) (partyType currency : JsString),
      RespectsCurrency oracles partyType currency := by
  intro h
  have hrespects := h
    [⟨"1", .str "usd", .builtin, .str "MSISDN", .str "USD", .null⟩] (.str "MSISDN") (.str "EUR")
  rcases hrespects.fallback rfl (by simp [Oracle.IsFor]) with
    ⟨oracle, hmem, -, hnull, -⟩ | ⟨-, message, hrejected⟩
  · obtain rfl := List.mem_singleton.mp hmem
    cases hnull
  · cases hrejected

end MongoOracleFinderRepo

end AccountLookup
