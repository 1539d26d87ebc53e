import Mathlib

/-!
# Runs of statements

A statement takes a state to the next or raises, and a run is one statement after another. What
a statement needs, keeps or leaves alone, a run of them does.
-/

namespace Statements

universe u v w

variable {S : Type u} {E : Type v} {A : Type w} {step : S → A → Except E S} {s s' : S} {a : A}
  {l : List A}

/-- A run goes through when its first statement and the rest of it do. -/
theorem cons_ok_iff :
    (a :: l).foldlM step s = .ok s' ↔ ∃ s₁, step s a = .ok s₁ ∧ l.foldlM step s₁ = .ok s' := by
  rw [List.foldlM_cons]
  cases step s a with
  | error e => simp [bind, Except.bind]
  | ok s₁ => simp [bind, Except.bind]

/-- What every statement keeps, a run of them keeps. -/
theorem keeps {P : S → Prop} (one : ∀ s a s', P s → step s a = .ok s' → P s') (hs : P s)
    (h : l.foldlM step s = .ok s') : P s' := by
  induction l generalizing s with
  | nil =>
    cases h
    exact hs
  | cons a l ih =>
    obtain ⟨s₁, hfirst, hrest⟩ := cons_ok_iff.1 h
    exact ih (one s a s₁ hs hfirst) hrest

/-- Where an invariant lets every statement through, and is kept by it, a run goes through. -/
theorem goes {P : S → Prop} (one : ∀ s, P s → ∀ a ∈ l, ∃ s', step s a = .ok s' ∧ P s') (hs : P s) :
    ∃ s', l.foldlM step s = .ok s' ∧ P s' := by
  induction l generalizing s with
  | nil => exact ⟨s, rfl, hs⟩
  | cons a l ih =>
    obtain ⟨s₁, hfirst, h₁⟩ := one s hs a List.mem_cons_self
    obtain ⟨s', hrest, h'⟩ := ih (fun t ht b hb => one t ht b (List.mem_cons_of_mem _ hb)) h₁
    exact ⟨s', cons_ok_iff.2 ⟨s₁, hfirst, hrest⟩, h'⟩

/-- Where no statement has anything to do, a run of them has not. -/
theorem stays (one : ∀ a ∈ l, step s a = .ok s) : l.foldlM step s = .ok s := by
  induction l with
  | nil => rfl
  | cons a l ih =>
    apply cons_ok_iff.2
    exact ⟨s, one a List.mem_cons_self, ih fun b hb => one b (List.mem_cons_of_mem _ hb)⟩

end Statements
