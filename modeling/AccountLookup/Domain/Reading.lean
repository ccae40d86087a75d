/-
# What reading leaves alone

The reads of the administration list the registry, look an oracle up, and ask adapters for
their health, their associations and their keywords. What these calls leave alone is left
alone by every read, whatever is answered, whichever call throws, and however many oracles a
read goes through.
-/

import AccountLookup.Domain.AdminReads

namespace AccountLookup

namespace AccountLookupAggregate

variable {W : Type} {α : Type}

/-- The calls that the reads are made of keep what is said of the world. -/
structure ReadingKeeps (agg : AccountLookupAggregate W) (Inv : W → Prop) : Prop where
  oracles : ∀ w, Inv w → Inv (agg.oracleFinder.getAllOracles w).2
  oracleById : ∀ id w, Inv w → Inv (agg.oracleFinder.getOracleById id w).2
  oracle : ∀ partyType currency w, Inv w →
    Inv (agg.oracleFinder.getOracle partyType currency w).2
  health : ∀ adapter ∈ agg.oracleProvidersAdapters, ∀ w, Inv w → Inv (adapter.healthCheck w).2
  associations : ∀ adapter ∈ agg.oracleProvidersAdapters, ∀ w, Inv w →
    Inv (adapter.getAllAssociations w).2
  search : ∀ adapter ∈ agg.oracleProvidersAdapters,
    ∀ fspId partyId partyType partySubType currency pageIndex pageSize w, Inv w →
      Inv (adapter.searchAssociations fspId partyId partyType partySubType currency pageIndex
        pageSize w).2
  keywords : ∀ adapter ∈ agg.oracleProvidersAdapters, ∀ w, Inv w →
    Inv (adapter.getSearchKeywords w).2

namespace ReadingKeeps

variable {agg : AccountLookupAggregate W} {Inv : W → Prop} {w : W}

theorem getAllOracles (h : agg.ReadingKeeps Inv) (hw : Inv w) : Inv (agg.getAllOracles w).2 :=
  h.oracles w hw

theorem getOracleById (h : agg.ReadingKeeps Inv) (hw : Inv w) (id : String) :
    Inv (agg.getOracleById id w).2 :=
  h.oracleById id w hw

theorem healthCheck (h : agg.ReadingKeeps Inv) (hw : Inv w) (id : String) :
    Inv (agg.healthCheck id w).2 := by
  rw [AccountLookupAggregate.healthCheck]
  cases hfind : agg.oracleProvidersAdapters.find? (fun o => o.oracleId = id) with
  | none => exact hw
  | some adapter => exact h.health adapter (List.mem_of_find?_eq_some hfind) w hw

/-- The loop over the oracles, over any read of an adapter that keeps it. -/
theorem readOracles (h : agg.ReadingKeeps Inv)
    {read : IOracleProviderAdapter W → Call W (Except JsError α)}
    (hread : ∀ adapter ∈ agg.oracleProvidersAdapters, ∀ w, Inv w → Inv (read adapter w).2)
    (subject : String) (oracles : List Oracle) (collected : α) (hw : Inv w) :
    Inv (agg.readOracles read subject oracles collected w).2 := by
  induction oracles generalizing collected w with
  | nil => exact hw
  | cons oracle oracles ih =>
    rw [AccountLookupAggregate.readOracles]
    have hrouted : Inv (agg.getOracleAdapter oracle.partyType oracle.currency w).2 := by
      rw [getOracleAdapter_snd_eq]
      exact h.oracle oracle.partyType oracle.currency w hw
    rcases agg.getOracleAdapter_cases oracle.partyType oracle.currency w with
      ⟨adapter, w₁, hget, _, -, hfind⟩ | ⟨error, w₁, hget, -⟩
    · rw [hget] at hrouted ⊢
      dsimp only
      have hkept := hread adapter (List.mem_of_find?_eq_some hfind) w₁ hrouted
      rcases hcall : read adapter w₁ with ⟨error | error | value, w₂⟩
      · rwa [hcall] at hkept
      · rwa [hcall] at hkept
      · rw [hcall] at hkept
        exact ih value hkept
    · rw [hget] at hrouted ⊢
      exact hrouted

/-- A read lists the oracles, and then goes through some of them. -/
theorem listed (h : agg.ReadingKeeps Inv) (hw : Inv w) {rest : List Oracle → Call W α}
    (hrest : ∀ oracles w, Inv w → Inv (rest oracles w).2) :
    Inv (match agg.oracleFinder.getAllOracles w with
      | (.error error, w) => (.error error, w)
      | (.ok oracles, w) => rest oracles w : Except JsError α × W).2 := by
  have hlisted := h.oracles w hw
  rcases hcall : agg.oracleFinder.getAllOracles w with ⟨error | oracles, w₁⟩
  · rwa [hcall] at hlisted
  · rw [hcall] at hlisted
    exact hrest oracles w₁ hlisted

theorem getBuiltInOracleAssociations (h : agg.ReadingKeeps Inv) (hw : Inv w) :
    Inv (agg.getBuiltInOracleAssociations w).2 := by
  apply h.listed hw
  intro oracles w₁ hw₁
  exact h.readOracles h.associations "associations" _ [] hw₁

theorem getAllOracleAssociations (h : agg.ReadingKeeps Inv) (hw : Inv w)
    (fspId partyId partyType partySubType currency : JsString)
    (pageIndex pageSize : Option JsNumber) :
    Inv (agg.getAllOracleAssociations fspId partyId partyType partySubType currency pageIndex
      pageSize w).2 := by
  apply h.listed hw
  intro oracles w₁ hw₁
  apply h.readOracles ?_ "associations" oracles none hw₁
  exact fun adapter hadapter w₂ hw₂ => h.search adapter hadapter fspId partyId partyType
    partySubType currency pageIndex pageSize w₂ hw₂

theorem getSearchKeywords (h : agg.ReadingKeeps Inv) (hw : Inv w) :
    Inv (agg.getSearchKeywords w).2 := by
  apply h.listed hw
  intro oracles w₁ hw₁
  exact h.readOracles h.keywords "search keywords" oracles [] hw₁

end ReadingKeeps

end AccountLookupAggregate

end AccountLookup
