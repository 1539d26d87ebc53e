import Mathlib

/-!
# Nearest-rank percentiles

The percentile at `q` of a sorted list is the entry of rank `⌈q n⌉`, counted from
one. It is at most `w` exactly when a share `q` of the entries is.
-/

namespace NearestRank

/-- `ceil(q * n) - 1`, an index counted from zero. -/
def index (q : ℚ) (n : Nat) : Int := ⌈q * n⌉ - 1

variable {α : Type*}

/-- `l[ceil(q * len(l)) - 1] if l else None`. -/
def percentile (q : ℚ) (l : List α) : Option α :=
  if l = [] then none else l[(index q l.length).toNat]?

variable {q : ℚ} {n i : Nat}

/-- **The index of the percentile is an index of the list.** -/
theorem index_bounds (hq : 0 < q) (hq1 : q ≤ 1) (hn : 0 < n) :
    0 ≤ index q n ∧ index q n < n := by
  have hn' : (0 : ℚ) < n := by exact_mod_cast hn
  have hpos : 0 < ⌈q * n⌉ := Int.ceil_pos.2 (by positivity)
  have hle : ⌈q * n⌉ ≤ n := Int.ceil_le.2 (by
    push_cast
    calc q * n ≤ 1 * n := by gcongr
      _ = n := one_mul _)
  unfold index
  omega

theorem index_lt_iff {k : Nat} : index q n < k ↔ q * n ≤ k := by
  have h : ⌈q * n⌉ ≤ (k : Int) ↔ q * n ≤ k := by
    rw [Int.ceil_le]
    norm_cast
  unfold index
  rw [← h]
  omega

variable {l : List α}

theorem percentile_eq_getElem (hq : 0 < q) (hq1 : q ≤ 1) (hne : l ≠ []) :
    ∃ h : (index q l.length).toNat < l.length,
      percentile q l = some l[(index q l.length).toNat] := by
  have hlen : 0 < l.length := List.length_pos_of_ne_nil hne
  have hbounds := index_bounds hq hq1 hlen
  have h : (index q l.length).toNat < l.length := by omega
  refine ⟨h, ?_⟩
  unfold percentile
  rw [if_neg hne, List.getElem?_eq_getElem h]

section Sorted

variable [LinearOrder α] {w : α}

/-- In a sorted list the entries that are at most `w` come first. -/
theorem getElem_le_iff (sorted : l.Pairwise (· ≤ ·)) (hi : i < l.length) :
    l[i] ≤ w ↔ i < l.countP (· ≤ w) := by
  induction l generalizing i with
  | nil => simp at hi
  | cons x xs ih =>
    obtain ⟨hx, hxs⟩ := List.pairwise_cons.1 sorted
    by_cases hxw : x ≤ w
    · rw [List.countP_cons_of_pos (by simpa using hxw)]
      cases i with
      | zero => simpa using hxw
      | succ i =>
        have := ih hxs (i := i) (by simpa using hi)
        rw [List.getElem_cons_succ, this]
        omega
    · have none : (x :: xs).countP (· ≤ w) = 0 := by
        rw [List.countP_eq_zero]
        intro y hy
        have hxy : x ≤ y := by
          rcases List.mem_cons.1 hy with rfl | hy
          · exact le_rfl
          · exact hx y hy
        simpa using (not_le.1 hxw).trans_le hxy
      rw [none]
      simp only [Nat.not_lt_zero, iff_false]
      have hmem : (x :: xs)[i] ∈ x :: xs := List.getElem_mem hi
      intro hle
      exact List.countP_eq_zero.1 none _ hmem (by simpa using hle)

/-- **The percentile at `q` is at most `w` exactly when a share `q` of the list is.** -/
theorem percentile_le_iff (sorted : l.Pairwise (· ≤ ·)) (hq : 0 < q) (hq1 : q ≤ 1) :
    (∀ p ∈ percentile q l, p ≤ w) ↔ q * l.length ≤ l.countP (· ≤ w) := by
  by_cases hne : l = []
  · subst hne
    simp [percentile]
  · obtain ⟨h, hp⟩ := percentile_eq_getElem hq hq1 hne
    have hbounds := index_bounds hq hq1 (List.length_pos_of_ne_nil hne)
    rw [hp, ← index_lt_iff]
    simp only [Option.mem_some_iff, forall_eq']
    rw [getElem_le_iff sorted h]
    omega

end Sorted

end NearestRank
