import Mathlib

/-!
# Gaps between sorted points

A window `[a, b]` with points in it in increasing order, and the differences of
consecutive points, both window edges included. A gap longer than `d` is an empty
open interval longer than `d`; and where no gap is longer than `g`, picking each
point at least `d` after the last picked one leaves few points unpicked.
-/

namespace Gaps

/-- `itertools.pairwise`. -/
def pairwise {β : Type*} (l : List β) : List (β × β) := l.zip l.tail

variable {α : Type*} {a b t : α} {points : List α}

section Order

variable [LinearOrder α]

/-- The points lie in `[a, b]` in increasing order. -/
def Ordered (a : α) (points : List α) (b : α) : Prop :=
  (a :: points ++ [b]).Pairwise (· ≤ ·)

theorem ordered_nil : Ordered a [] b ↔ a ≤ b := by simp [Ordered]

theorem ordered_cons : Ordered a (t :: points) b ↔ a ≤ t ∧ Ordered t points b := by
  unfold Ordered
  rw [List.cons_append, List.pairwise_cons, List.cons_append]
  constructor
  · intro h
    exact ⟨h.1 t List.mem_cons_self, h.2⟩
  · rintro ⟨hat, h⟩
    refine ⟨fun x hx => ?_, h⟩
    rcases List.mem_cons.1 hx with rfl | hx
    · exact hat
    · exact hat.trans ((List.pairwise_cons.1 h).1 x hx)

theorem Ordered.le_points (h : Ordered a points b) : ∀ x ∈ points, a ≤ x :=
  fun x hx => (List.pairwise_cons.1 h).1 x (List.mem_append_left _ hx)

theorem Ordered.le_end (h : Ordered a points b) : a ≤ b :=
  (List.pairwise_cons.1 h).1 b (by simp)

end Order

section Differences

variable [AddCommGroup α]

/-- The differences of consecutive points from `a` through `points` to `b`. -/
def gaps (a : α) (points : List α) (b : α) : List α :=
  (pairwise (a :: points ++ [b])).map fun p => p.2 - p.1

theorem gaps_nil (a b : α) : gaps a [] b = [b - a] := rfl

theorem gaps_cons (a t b : α) (points : List α) :
    gaps a (t :: points) b = (t - a) :: gaps t points b := rfl

/-- **The gaps sum to the length of the window.** -/
theorem sum_gaps (a b : α) (points : List α) : (gaps a points b).sum = b - a := by
  induction points generalizing a with
  | nil => simp [gaps_nil]
  | cons t points ih =>
    rw [gaps_cons, List.sum_cons, ih]
    abel

/-- Every point that is at least `limit`, the limit moving `d` past each picked one. -/
def spaced [LinearOrder α] (d : α) (limit : α) : List α → List α
  | [] => []
  | t :: points => if limit ≤ t then t :: spaced d (t + d) points else spaced d limit points

theorem spaced_sublist [LinearOrder α] (d limit : α) (points : List α) :
    (spaced d limit points).Sublist points := by
  induction points generalizing limit with
  | nil => exact .slnil
  | cons t points ih =>
    unfold spaced
    split
    · exact (ih _).cons_cons t
    · exact (ih _).cons t

end Differences

variable [AddCommGroup α] [LinearOrder α] [IsOrderedAddMonoid α]

theorem gaps_nonneg (h : Ordered a points b) : ∀ g ∈ gaps a points b, 0 ≤ g := by
  induction points generalizing a with
  | nil => simpa [gaps_nil] using ordered_nil.1 h
  | cons t points ih =>
    obtain ⟨hat, h⟩ := ordered_cons.1 h
    intro g hg
    rcases List.mem_cons.1 hg with rfl | hg
    · exact sub_nonneg.2 hat
    · exact ih h g hg

/-- **A gap longer than `d` is an empty open interval longer than `d`.** -/
theorem exists_gap_iff (h : Ordered a points b) (d : α) :
    (∃ g ∈ gaps a points b, d < g) ↔
      ∃ x y, a ≤ x ∧ y ≤ b ∧ d < y - x ∧ ∀ t ∈ points, ¬ (x < t ∧ t < y) := by
  induction points generalizing a with
  | nil =>
    simp only [gaps_nil, List.mem_singleton, exists_eq_left]
    constructor
    · intro hd
      exact ⟨a, b, le_rfl, le_rfl, hd, by simp⟩
    · rintro ⟨x, y, hx, hy, hd, -⟩
      exact hd.trans_le (sub_le_sub hy hx)
  | cons t points ih =>
    obtain ⟨hat, h⟩ := ordered_cons.1 h
    simp only [gaps_cons, List.mem_cons, exists_eq_or_imp, forall_eq_or_imp]
    rw [ih h]
    constructor
    · rintro (hd | ⟨x, y, hx, hy, hd, hempty⟩)
      · -- Before `t` there is nothing, and every later point is at least `t`.
        refine ⟨a, t, le_rfl, h.le_end, hd, fun ht => lt_irrefl _ ht.2, fun s hs hlt => ?_⟩
        exact absurd hlt.2 (h.le_points s hs).not_gt
      · exact ⟨x, y, hat.trans hx, hy, hd, fun ht => absurd ht.1 hx.not_gt, hempty⟩
    · rintro ⟨x, y, hx, hy, hd, hnot, hempty⟩
      rcases le_or_gt t x with htx | hxt
      · exact .inr ⟨x, y, htx, hy, hd, hempty⟩
      · have hyt : y ≤ t := not_lt.1 fun hty => hnot ⟨hxt, hty⟩
        exact .inl (hd.trans_le (sub_le_sub hyt hx))

/-! ## Picking points apart -/

theorem limit_le_of_mem_spaced {d limit : α} (hd : 0 ≤ d) {x : α}
    (hx : x ∈ spaced d limit points) : limit ≤ x := by
  induction points generalizing limit with
  | nil => cases hx
  | cons t points ih =>
    unfold spaced at hx
    split at hx
    · rename_i hlimit
      rcases List.mem_cons.1 hx with rfl | hx
      · exact hlimit
      · exact hlimit.trans ((le_add_of_nonneg_right hd).trans (ih hx))
    · exact ih hx

/-- The picked points are at least `d` apart. -/
theorem spaced_apart {d : α} (hd : 0 ≤ d) (limit : α) (points : List α) :
    (spaced d limit points).Pairwise fun s t => d ≤ t - s := by
  induction points generalizing limit with
  | nil => exact .nil
  | cons t points ih =>
    unfold spaced
    split
    · refine List.pairwise_cons.2 ⟨fun x hx => ?_, ih _⟩
      exact le_sub_iff_add_le'.2 (limit_le_of_mem_spaced hd hx)
    · exact ih _

/-- **Where no gap is longer than `g`, the picked points reach through the window**:
each of them, with the gap after it, covers at most `d + g`. -/
theorem window_le_spaced {d g : α} (hd : 0 ≤ d) (h : ∀ x ∈ gaps a points b, x ≤ g) (limit : α)
    (hlimit : a ≤ limit) :
    b ≤ limit + ((spaced d limit points).length • (d + g) + g) := by
  induction points generalizing a limit with
  | nil =>
    have hb : b ≤ a + g := sub_le_iff_le_add'.1 (h _ (by simp [gaps_nil]))
    simpa [spaced] using hb.trans (add_le_add_left hlimit g)
  | cons t points ih =>
    have htg : t ≤ a + g := sub_le_iff_le_add'.1 (h _ (by simp [gaps_cons]))
    have hrest : ∀ x ∈ gaps t points b, x ≤ g := fun x hx => h x (by simp [gaps_cons, hx])
    unfold spaced
    split
    · have hbound := ih hrest (t + d) (le_add_of_nonneg_right hd)
      apply hbound.trans
      rw [List.length_cons, succ_nsmul']
      have hmove : t + d ≤ limit + (d + g) := by
        have := add_le_add_left (htg.trans (add_le_add_left hlimit g)) d
        rwa [add_assoc limit g d, add_comm g d] at this
      calc t + d + ((spaced d (t + d) points).length • (d + g) + g)
          ≤ limit + (d + g) + ((spaced d (t + d) points).length • (d + g) + g) :=
            add_le_add_left hmove _
        _ = limit + (d + g + (spaced d (t + d) points).length • (d + g) + g) := by abel
    · rename_i hnot
      exact ih hrest limit (not_le.1 hnot).le

end Gaps
