import IdentityClient.Token

/-!
# Expiry is exact and for good

Whether a token is about to expire is one comparison of two sums that know no bounds, though the clock does: a lifetime
that leaves its range never ends, and a margin that does covers every expiry (`expiry_exact`). A token that is about to
expire stays so while time passes.
-/

namespace IdentityClient.AccessToken

theorem expiresWithin_iff {t : AccessToken} {now : Instant} {m : Duration} :
    t.expiresWithin now m = true ↔
      ∃ e, t.expiresAt = some e ∧ (now.add? m = none ∨ e.nanos ≤ now.nanos + m.nanos) := by
  unfold expiresWithin
  cases t.expiresAt with
  | none => simp
  | some e =>
    cases h : now.add? m with
    | none => simp
    | some u => simp [(Instant.add?_eq_some_iff.1 h).2]

theorem expiresWithin_advance {t : AccessToken} {now : Instant} {m : Duration} (d : Duration)
    (h : t.expiresWithin now m = true) : t.expiresWithin (now.advance d) m = true := by
  obtain ⟨e, he, h⟩ := expiresWithin_iff.1 h
  refine expiresWithin_iff.2 ⟨e, he, ?_⟩
  rw [Instant.add?_eq_none_iff] at h ⊢
  simp only [Instant.advance]
  omega

theorem expiresWithin_expiresIn_iff {t : AccessToken} {start now : Instant} {lifetime margin : Duration} :
    (t.expiresIn start lifetime).expiresWithin now margin = true ↔
      start.nanos + lifetime.nanos < Instant.limit ∧
        start.nanos + lifetime.nanos ≤ now.nanos + margin.nanos := by
  rw [expiresWithin_iff]
  simp only [expiresIn, Instant.add?_eq_some_iff, Instant.add?_eq_none_iff]
  constructor
  · rintro ⟨e, ⟨stated, sum⟩, late | le⟩
    · -- What the clock can state comes before all that it cannot.
      exact ⟨stated, by omega⟩
    · exact ⟨stated, sum ▸ le⟩
  · rintro ⟨stated, le⟩
    exact ⟨⟨start.nanos + lifetime.nanos⟩, ⟨stated, rfl⟩, .inr le⟩

/-- How a token expires whose lifetime counts from `start`. -/
structure ExactExpiry (t : AccessToken) (start : Instant) : Prop where
  within_iff : ∀ lifetime now margin, (t.expiresIn start lifetime).expiresWithin now margin = true ↔
    start.nanos + lifetime.nanos < Instant.limit ∧ start.nanos + lifetime.nanos ≤ now.nanos + margin.nanos
  /-- A margin that leaves the clock's range covers every expiry in it. -/
  covered : ∀ lifetime now margin, now.add? margin = none →
    ((t.expiresIn start lifetime).expiresWithin now margin = true ↔ (start.add? lifetime).isSome = true)
  /-- A lifetime that leaves the clock's range never ends. -/
  endless : ∀ lifetime, start.add? lifetime = none →
    (t.expiresIn start lifetime).expiresAt = none ∧
      ∀ now margin, (t.expiresIn start lifetime).expiresWithin now margin = false
  /-- More margin, more time passed and less lifetime keep a token about to expire. -/
  mono : ∀ lifetime lifetime' now now' margin margin', lifetime'.nanos ≤ lifetime.nanos → now.nanos ≤ now'.nanos →
    margin.nanos ≤ margin'.nanos → (t.expiresIn start lifetime).expiresWithin now margin = true →
    (t.expiresIn start lifetime').expiresWithin now' margin' = true

theorem expiry_exact (t : AccessToken) (start : Instant) : t.ExactExpiry start where
  within_iff := fun _ _ _ => expiresWithin_expiresIn_iff
  covered := by
    intro lifetime now margin beyond
    rw [Instant.add?_eq_none_iff] at beyond
    rw [expiresWithin_expiresIn_iff, Option.isSome_iff_ne_none, ne_eq, Instant.add?_eq_none_iff]
    omega
  endless := by
    intro lifetime beyond
    refine ⟨beyond, fun now margin => ?_⟩
    rw [Instant.add?_eq_none_iff] at beyond
    rw [Bool.eq_false_iff, ne_eq, expiresWithin_expiresIn_iff]
    omega
  mono := by
    intro lifetime lifetime' now now' margin margin' shorter later wider h
    rw [expiresWithin_expiresIn_iff] at h ⊢
    omega

/-- The last nanosecond that the clock can state is an expiry, the one after it, to which a second is carried, is not. -/
example :
    let t := bearer "secret"
    let start : Instant := .ofParts 1 600000000
    let last : Duration := .ofParts (Nat.pow 2 63 - 2) 399999999
    (t.expiresIn start last).expiresWithin start last = true ∧
      (t.expiresIn start ⟨last.nanos + 1⟩).expiresWithin start .longest = false := by
  decide

end IdentityClient.AccessToken
