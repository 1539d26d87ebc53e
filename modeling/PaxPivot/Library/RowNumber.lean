import Mathlib

/-!
# `row_number() OVER (PARTITION BY … ORDER BY … DESC)`

The window function on a list of rows with a partition key and a rank. Where the
ranks inside a partition differ the numbering is the only possible one, and the
rows numbered 1 are the greatest row of each nonempty partition.
-/

namespace RowNumber

variable {α κ τ : Type*} [DecidableEq κ] [LinearOrder τ] (part : α → κ) (rank : α → τ)

/-- The number of `row` among `rows`: one more than the greater rows of its partition. -/
def rowNumber (rows : List α) (row : α) : Nat :=
  1 + rows.countP fun q => decide (part q = part row) && decide (rank row < rank q)

/-- `SELECT … WHERE row_number = 1`. -/
def firsts (rows : List α) : List α := rows.filter fun row => rowNumber part rank rows row = 1

variable {part rank} {rows : List α} {row : α}

theorem rowNumber_eq_one_iff :
    rowNumber part rank rows row = 1 ↔ ∀ q ∈ rows, part q = part row → rank q ≤ rank row := by
  unfold rowNumber
  rw [show (∀ n : Nat, 1 + n = 1 ↔ n = 0) from fun n => by omega, List.countP_eq_zero]
  simp

theorem mem_firsts_iff :
    row ∈ firsts part rank rows ↔
      row ∈ rows ∧ ∀ q ∈ rows, part q = part row → rank q ≤ rank row := by
  unfold firsts
  rw [List.mem_filter, decide_eq_true_eq, rowNumber_eq_one_iff]

/-- Every nonempty partition has a row numbered 1. -/
theorem exists_first (h : row ∈ rows) : ∃ f ∈ firsts part rank rows, part f = part row := by
  have hmem : row ∈ rows.filter fun q => part q = part row := by simp [h]
  cases hmax : (rows.filter fun q => part q = part row).argmax rank with
  | none => rw [List.argmax_eq_none.1 hmax] at hmem; cases hmem
  | some f =>
    obtain ⟨hf, hpart⟩ := List.mem_filter.1 (List.argmax_mem hmax)
    have hpart : part f = part row := by simpa using hpart
    refine ⟨f, mem_firsts_iff.2 ⟨hf, fun q hq hqpart => ?_⟩, hpart⟩
    exact List.le_of_mem_argmax (List.mem_filter.2 ⟨hq, by simp [hqpart, hpart]⟩) hmax

/-- Where ranks identify rows, a partition has one row numbered 1. -/
theorem first_unique (distinct : ∀ a ∈ rows, ∀ b ∈ rows, rank a = rank b → a = b) {a b : α}
    (ha : a ∈ firsts part rank rows) (hb : b ∈ firsts part rank rows) (h : part a = part b) :
    a = b := by
  rw [mem_firsts_iff] at ha hb
  exact distinct a ha.1 b hb.1 (le_antisymm (hb.2 a ha.1 h) (ha.2 b hb.1 h.symm))

/-- The partition keys of the rows numbered 1 are different. -/
theorem firsts_distinct (nodup : rows.Nodup)
    (distinct : ∀ a ∈ rows, ∀ b ∈ rows, rank a = rank b → a = b) :
    ((firsts part rank rows).map part).Nodup := by
  have hfirsts : (firsts part rank rows).Nodup := nodup.filter _
  exact List.Nodup.map_on (fun a ha b hb h => first_unique distinct ha hb h) hfirsts

/-- The numbering of a partition depends on its own rows only. -/
theorem firsts_filter_part (rows : List α) (k : κ) :
    (firsts part rank rows).filter (fun row => part row = k) =
      firsts part rank (rows.filter fun row => part row = k) := by
  unfold firsts
  rw [List.filter_filter, List.filter_filter]
  apply List.filter_congr
  intro row _
  by_cases hk : part row = k
  · have hcount : rowNumber part rank (rows.filter fun q => part q = k) row =
        rowNumber part rank rows row := by
      unfold rowNumber
      rw [List.countP_filter]
      congr 1
      apply List.countP_congr
      intro q _
      simp only [Bool.and_eq_true, decide_eq_true_eq, hk]
      exact ⟨fun h => h.1, fun h => ⟨h, h.1⟩⟩
    rw [hcount, Bool.and_comm]
  · simp [hk]

end RowNumber
