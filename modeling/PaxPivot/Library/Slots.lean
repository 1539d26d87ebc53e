import Mathlib

/-!
# Slots of a window

From `a` on, slots of width `c`; every slot that ends by `b` holds a point. Then
there are at least as many points as slots, and no two slots' width passes without
a point.
-/

namespace Slots

/-- Every slot `[a + k c, a + (k + 1) c)` that ends by `b` holds a point. -/
def Filled (a c b : Int) (points : List Int) : Prop :=
  ∀ k : ℕ, (k + 1) * c ≤ b - a → ∃ t ∈ points, a + k * c ≤ t ∧ t < a + (k + 1) * c

variable {a b c x y : Int} {points : List Int}

/-- An interval longer than two slots holds a whole one, and so a point. -/
theorem Filled.exists_between (filled : Filled a c b points) (hc : 0 < c) (hx : a ≤ x)
    (hy : y ≤ b) (long : 2 * c < y - x) : ∃ t ∈ points, x < t ∧ t < y := by
  -- The first slot that starts after `x`.
  obtain ⟨k, hk⟩ := Int.eq_ofNat_of_zero_le (Int.ediv_nonneg (by omega : 0 ≤ x - a) hc.le)
  have low : k * c ≤ x - a := hk ▸ Int.ediv_mul_le (x - a) hc.ne'
  have high : x - a < (k + 1) * c := hk ▸ Int.lt_ediv_add_one_mul_self (x - a) hc
  have next : ((k + 1 : ℕ) + 1) * c = k * c + 2 * c := by
    push_cast
    ring
  obtain ⟨t, ht, hstart, hend⟩ := filled (k + 1) (by omega)
  refine ⟨t, ht, ?_, ?_⟩
  · have : ((k + 1 : ℕ) : Int) * c = (k + 1) * c := by push_cast; rfl
    omega
  · omega

/-- There are at least as many points as slots. -/
theorem Filled.le_length (filled : Filled a c b points) (hc : 0 < c) :
    (b - a) / c ≤ points.length := by
  have covered : Finset.range ((b - a) / c).toNat ⊆
      (points.map fun t => ((t - a) / c).toNat).toFinset := by
    intro k hk
    have bound : (k : Int) + 1 ≤ (b - a) / c := by
      have := Finset.mem_range.1 hk
      omega
    obtain ⟨t, ht, hstart, hend⟩ := filled k
      ((Int.mul_le_mul_of_nonneg_right bound hc.le).trans (Int.ediv_mul_le _ hc.ne'))
    have slot : (t - a) / c = k := by
      rw [Int.ediv_eq_iff_of_pos hc]
      constructor
      · linarith
      · linarith
    rw [List.mem_toFinset, List.mem_map]
    exact ⟨t, ht, by rw [slot]; rfl⟩
  have card := (Finset.card_le_card covered).trans (List.toFinset_card_le _)
  rw [Finset.card_range, List.length_map] at card
  omega

end Slots
