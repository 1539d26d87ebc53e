import Mathlib

/-!
# Lists with distinct keys

A table read as a list: rows with pairwise different keys, looked up by key.
-/

namespace DistinctKeys

variable {α κ : Type*} {key : α → κ} {l : List α} {a b : α}

theorem eq_of_key_eq (distinct : (l.map key).Nodup) (ha : a ∈ l) (hb : b ∈ l)
    (h : key a = key b) : a = b :=
  List.inj_on_of_nodup_map distinct ha hb h

variable [DecidableEq κ]

/-- Looking a row up by its own key finds it. -/
theorem find?_key (distinct : (l.map key).Nodup) (ha : a ∈ l) :
    l.find? (fun x => key x = key a) = some a := by
  cases hf : l.find? (fun x => key x = key a) with
  | none => exact absurd (by simp) (List.find?_eq_none.1 hf a ha)
  | some b =>
    have hkey := List.find?_some hf
    rw [eq_of_key_eq distinct (List.mem_of_find?_eq_some hf) ha (by simpa using hkey)]

theorem find?_eq_some_iff (distinct : (l.map key).Nodup) {k : κ} :
    l.find? (fun x => key x = k) = some a ↔ a ∈ l ∧ key a = k := by
  constructor
  · intro h
    exact ⟨List.mem_of_find?_eq_some h, by simpa using List.find?_some h⟩
  · rintro ⟨ha, rfl⟩
    exact find?_key distinct ha

/-- Exactly one row has a given row's key. -/
theorem filter_key (distinct : (l.map key).Nodup) (ha : a ∈ l) :
    l.filter (fun x => key x = key a) = [a] := by
  induction l with
  | nil => simp at ha
  | cons x xs ih =>
    obtain ⟨hx, hxs⟩ := List.nodup_cons.1 distinct
    rcases List.mem_cons.1 ha with rfl | ha
    · have hne : ∀ y ∈ xs, key y ≠ key a := fun y hy h => hx (List.mem_map.2 ⟨y, hy, h⟩)
      have rest : xs.filter (fun y => key y = key a) = [] :=
        List.filter_eq_nil_iff.2 fun y hy => by simpa using hne y hy
      simp [rest]
    · have hne : key x ≠ key a := fun h => hx (List.mem_map.2 ⟨a, ha, h.symm⟩)
      simp [hne, ih hxs ha]

/-- Counting the rows with a given key and a property asks about one row. -/
theorem countP_key (distinct : (l.map key).Nodup) (ha : a ∈ l) (p : α → Bool) :
    l.countP (fun x => p x && decide (key x = key a)) = if p a then 1 else 0 := by
  rw [List.countP_eq_length_filter, ← List.filter_filter, filter_key distinct ha]
  cases hp : p a <;> simp [hp]

end DistinctKeys
