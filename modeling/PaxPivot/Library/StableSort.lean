import Mathlib

/-!
# Stable sorting and filtering

Insertion sort keeps the order of equals, so it does not matter whether a list is
filtered before it is sorted or after.
-/

namespace StableSort

universe u

variable {α : Type u} {r : α → α → Prop} [DecidableRel r]

theorem orderedInsert_of_forall_rel {a : α} {l : List α} (h : ∀ b ∈ l, r a b) :
    l.orderedInsert r a = a :: l := by
  cases l with
  | nil => rfl
  | cons b l => exact List.orderedInsert_cons_of_le r l (h b List.mem_cons_self)

/-- What the filter drops is inserted for nothing. -/
theorem filter_orderedInsert_of_neg (p : α → Bool) {a : α} (ha : p a = false) (l : List α) :
    (l.orderedInsert r a).filter p = l.filter p := by
  induction l with
  | nil => simp [ha]
  | cons b l ih =>
    rw [List.orderedInsert_cons]
    split
    · simp [ha]
    · rw [List.filter_cons, List.filter_cons, ih]

/-- What the filter keeps is inserted among the kept. -/
theorem filter_orderedInsert_of_pos [IsTrans α r] (p : α → Bool) {a : α} (ha : p a = true)
    {l : List α} (sorted : l.Pairwise r) :
    (l.orderedInsert r a).filter p = (l.filter p).orderedInsert r a := by
  induction l with
  | nil => simp [ha]
  | cons b l ih =>
    obtain ⟨hb, hl⟩ := List.pairwise_cons.1 sorted
    rw [List.orderedInsert_cons]
    by_cases hab : r a b
    · have before : ∀ c ∈ (b :: l).filter p, r a c := by
        intro c hc
        rcases List.mem_cons.1 (List.mem_of_mem_filter hc) with rfl | hc
        · exact hab
        · exact IsTrans.trans a b c hab (hb c hc)
      rw [if_pos hab, orderedInsert_of_forall_rel before, List.filter_cons_of_pos ha]
    · rw [if_neg hab]
      by_cases hpb : p b = true
      · rw [List.filter_cons_of_pos hpb, List.filter_cons_of_pos hpb, ih hl,
          List.orderedInsert_of_not_le r _ hab]
      · rw [List.filter_cons_of_neg hpb, List.filter_cons_of_neg hpb, ih hl]

/-- **Filtering commutes with a stable sort.** -/
theorem filter_insertionSort [IsTrans α r] [Std.Total r] (p : α → Bool) (l : List α) :
    (l.insertionSort r).filter p = (l.filter p).insertionSort r := by
  induction l with
  | nil => rfl
  | cons a l ih =>
    rw [List.insertionSort_cons]
    by_cases ha : p a = true
    · rw [filter_orderedInsert_of_pos p ha (List.pairwise_insertionSort r l), ih,
        List.filter_cons_of_pos ha, List.insertionSort_cons]
    · rw [filter_orderedInsert_of_neg p (by simpa using ha), ih, List.filter_cons_of_neg ha]

end StableSort
