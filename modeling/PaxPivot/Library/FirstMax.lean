import Mathlib

/-!
# `max(items, key=key, default=None)`

A scan that keeps the best item so far and replaces it by a strictly greater one
only, so it answers the first of the greatest items.
-/

namespace FirstMax

variable {α β κ : Type*}

section Scan

variable [LT κ] [DecidableLT κ] (key : α → κ)

/-- The better of the best item so far and the next one. -/
def better (best item : α) : α := if key best < key item then item else best

def firstMax : List α → Option α
  | [] => none
  | item :: items => some (items.foldl (better key) item)

variable {key} {items : List α} {m : α}

theorem foldl_better_mem (best : α) : items.foldl (better key) best ∈ best :: items := by
  induction items generalizing best with
  | nil => simp
  | cons item items ih =>
    rw [List.foldl_cons]
    have kept : better key best item = best ∨ better key best item = item := by
      unfold better
      split
      · exact .inr rfl
      · exact .inl rfl
    rcases List.mem_cons.1 (ih (better key best item)) with h | h
    · rw [h]
      rcases kept with hk | hk <;> simp [hk]
    · simp [h]

theorem firstMax_mem (h : firstMax key items = some m) : m ∈ items := by
  cases items with
  | nil => cases h
  | cons item items =>
    cases h
    exact foldl_better_mem item

/-- Renaming the items moves the first of the greatest with them. -/
theorem firstMax_map (f : β → α) (items : List β) :
    firstMax key (items.map f) = (firstMax (fun b => key (f b)) items).map f := by
  cases items with
  | nil => rfl
  | cons item items =>
    have scan : ∀ best : β, (items.map f).foldl (better key) (f best) =
        f (items.foldl (better fun b => key (f b)) best) := by
      induction items with
      | nil => exact fun best => rfl
      | cons next items ih =>
        intro best
        rw [List.map_cons, List.foldl_cons, List.foldl_cons, ← ih]
        unfold better
        split <;> rfl
    simp only [firstMax, List.map_cons, scan, Option.map_some]

end Scan

variable [LinearOrder κ] {key : α → κ} {items : List α} {m : α}

theorem le_foldl_better (best : α) :
    ∀ x ∈ best :: items, key x ≤ key (items.foldl (better key) best) := by
  induction items generalizing best with
  | nil => simp
  | cons item items ih =>
    have hbest : key best ≤ key (better key best item) ∧
        key item ≤ key (better key best item) := by
      unfold better
      split
      · rename_i hlt
        exact ⟨hlt.le, le_rfl⟩
      · rename_i hnot
        exact ⟨le_rfl, not_lt.1 hnot⟩
    intro x hx
    rw [List.foldl_cons]
    rcases List.mem_cons.1 hx with rfl | hx
    · exact hbest.1.trans (ih _ _ List.mem_cons_self)
    · rcases List.mem_cons.1 hx with rfl | hx
      · exact hbest.2.trans (ih _ _ List.mem_cons_self)
      · exact ih _ x (List.mem_cons_of_mem _ hx)

/-- **No item is greater than the answer.** -/
theorem le_firstMax (h : firstMax key items = some m) : ∀ x ∈ items, key x ≤ key m := by
  cases items with
  | nil => cases h
  | cons item items =>
    cases h
    exact le_foldl_better item

end FirstMax
