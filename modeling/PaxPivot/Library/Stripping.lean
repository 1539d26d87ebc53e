import Mathlib

/-!
# Stripping

What is left of a list when the elements of a set are dropped at its two ends: the only part
between such elements that has none of them at its own ends.
-/

namespace Stripping

variable {α : Type*} {p : α → Bool} {items core : List α}

/-- The items without those at the ends that satisfy `p`. -/
def dropEnds (p : α → Bool) (items : List α) : List α :=
  ((items.dropWhile p).reverse.dropWhile p).reverse

/-- Dropping stops where it meets an item that stays. -/
theorem dropWhile_front {before : List α} (dropped : ∀ a ∈ before, p a = true)
    (kept : ∀ a ∈ core.head?, p a = false) : (before ++ core).dropWhile p = core := by
  rw [List.dropWhile_append_of_pos dropped]
  cases core with
  | nil => rfl
  | cons a rest =>
    have ha := kept a rfl
    exact List.dropWhile_cons_of_neg (by simp [ha])

theorem dropEnds_getLast : ∀ a ∈ (dropEnds p items).getLast?, p a = false := by
  intro a ha
  unfold dropEnds at ha
  rw [List.getLast?_reverse] at ha
  have := List.head?_dropWhile_not p (items.dropWhile p).reverse
  rw [Option.mem_def.1 ha] at this
  simpa using this

/-- What was dropped at the two ends. -/
theorem dropEnds_between (p : α → Bool) (items : List α) :
    ∃ before after, items = before ++ dropEnds p items ++ after ∧ (∀ a ∈ before, p a = true) ∧
      (∀ a ∈ after, p a = true) ∧ items.dropWhile p = dropEnds p items ++ after := by
  have front : items = items.takeWhile p ++ items.dropWhile p :=
    List.takeWhile_append_dropWhile.symm
  generalize hrest : items.dropWhile p = rest at front
  have back : rest = dropEnds p items ++ (rest.reverse.takeWhile p).reverse := by
    unfold dropEnds
    rw [hrest, ← List.reverse_append, List.takeWhile_append_dropWhile, List.reverse_reverse]
  refine ⟨items.takeWhile p, (rest.reverse.takeWhile p).reverse, ?_, ?_, ?_, back⟩
  · rw [List.append_assoc, ← back]
    exact front
  · intro a ha
    exact List.mem_takeWhile_imp ha
  · intro a ha
    exact List.mem_takeWhile_imp (List.mem_reverse.1 ha)

theorem dropEnds_head : ∀ a ∈ (dropEnds p items).head?, p a = false := by
  intro a ha
  obtain ⟨before, after, -, -, -, rest⟩ := dropEnds_between p items
  have := List.head?_dropWhile_not p items
  rw [rest] at this
  cases hkept : dropEnds p items with
  | nil => simp [hkept] at ha
  | cons b bs =>
    rw [hkept] at ha this
    obtain rfl : b = a := by simpa using ha
    simpa using this

/-- **What is left lies between dropped items, and has none at its ends.** -/
theorem dropEnds_eq_iff :
    dropEnds p items = core ↔
      (∃ before after, items = before ++ core ++ after ∧ (∀ a ∈ before, p a = true) ∧
        ∀ a ∈ after, p a = true) ∧
      (∀ a ∈ core.head?, p a = false) ∧ ∀ a ∈ core.getLast?, p a = false := by
  constructor
  · rintro rfl
    obtain ⟨before, after, whole, front, back, -⟩ := dropEnds_between p items
    exact ⟨⟨before, after, whole, front, back⟩, dropEnds_head, dropEnds_getLast⟩
  · rintro ⟨⟨before, after, rfl, front, back⟩, head, last⟩
    unfold dropEnds
    rw [List.append_assoc]
    cases core with
    | nil =>
      have all : ∀ a ∈ before ++ ([] ++ after), p a = true := by
        intro a ha
        rcases List.mem_append.1 ha with ha | ha
        · exact front a ha
        · exact back a ha
      rw [List.dropWhile_eq_nil_iff.2 all]
      rfl
    | cons a core =>
      rw [dropWhile_front front (by simpa using head a), List.reverse_append,
        dropWhile_front (by simpa using back) (by simpa only [List.head?_reverse] using last),
        List.reverse_reverse]

/-- Stripping once is enough. -/
theorem dropEnds_idem : dropEnds p (dropEnds p items) = dropEnds p items :=
  dropEnds_eq_iff.2 ⟨⟨[], [], by simp, List.forall_mem_nil _, List.forall_mem_nil _⟩,
    dropEnds_head, dropEnds_getLast⟩

end Stripping
