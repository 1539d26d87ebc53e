import Mathlib

/-!
# Runs of a machine that emits events

A step takes a state and a move to a state and at most one event. What one step
preserves, a whole run preserves; and what every event guarantees of all that can
follow it holds of every pair of events in a trace.
-/

namespace Trace

variable {S M E : Type*} (step : S → M → S × Option E)

/-- The state a sequence of moves leads to, and the events on the way. -/
def run (s : S) : List M → S × List E
  | [] => (s, [])
  | m :: ms =>
    let (s', event) := step s m
    let (final, events) := run s' ms
    (final, event.toList ++ events)

variable {step} {s : S} {m : M} {ms : List M} {e : E}

theorem run_cons_snd :
    (run step s (m :: ms)).2 = (step s m).2.toList ++ (run step (step s m).1 ms).2 := rfl

/-- **Run rule.** An invariant of every step holds after every run. -/
theorem run_invariant (Inv : S → Prop) (preserved : ∀ s m, Inv s → Inv (step s m).1)
    (start : Inv s) : Inv (run step s ms).1 := by
  induction ms generalizing s with
  | nil => exact start
  | cons m ms ih => exact ih (preserved s m start)

/-- While an invariant is preserved, every event is one that it allows. -/
theorem run_events (Inv : S → Prop) (Allowed : E → Prop)
    (preserved : ∀ s m, Inv s → Inv (step s m).1 ∧ ∀ e ∈ (step s m).2, Allowed e)
    (start : Inv s) (h : e ∈ (run step s ms).2) : Allowed e := by
  induction ms generalizing s with
  | nil => cases h
  | cons m ms ih =>
    obtain ⟨next, allowed⟩ := preserved s m start
    rw [run_cons_snd, List.mem_append, Option.mem_toList] at h
    exact h.elim (allowed e) (ih next)

/-- **Order rule.** If each move, where it is made, emits an event related to every
event that can follow, then so are all pairs of events of the trace. -/
theorem run_pairwise (Rel : E → E → Prop) (Good : S → M → Prop)
    (follows : ∀ s m e, Good s m → e ∈ (step s m).2 →
      ∀ ms, ∀ e' ∈ (run step (step s m).1 ms).2, Rel e e')
    (good : ∀ before m after, ms = before ++ m :: after → Good (run step s before).1 m) :
    (run step s ms).2.Pairwise Rel := by
  induction ms generalizing s with
  | nil => exact .nil
  | cons m ms ih =>
    have rest : (run step (step s m).1 ms).2.Pairwise Rel :=
      ih fun before m' after h => good (m :: before) m' after (by rw [h]; rfl)
    rw [run_cons_snd]
    cases hemit : (step s m).2 with
    | none => exact rest
    | some e =>
      exact List.pairwise_cons.2 ⟨follows s m e (good [] m ms rfl) hemit ms, rest⟩

/-- A run that goes on. -/
theorem run_append {ms' : List M} :
    run step s (ms ++ ms') = ((run step (run step s ms).1 ms').1,
      (run step s ms).2 ++ (run step (run step s ms).1 ms').2) := by
  induction ms generalizing s with
  | nil => rfl
  | cons m ms ih =>
    have first : ∀ ms : List M, run step s (m :: ms) = ((run step (step s m).1 ms).1,
        (step s m).2.toList ++ (run step (step s m).1 ms).2) := fun _ => rfl
    rw [List.cons_append, first, first, ih]
    simp only [List.append_assoc]

/-- The last move of a run. -/
theorem run_snoc :
    run step s (ms ++ [m]) = ((step (run step s ms).1 m).1,
      (run step s ms).2 ++ (step (run step s ms).1 m).2.toList) := by
  rw [run_append]
  simp only [run, List.append_nil]

/-- **Log rule.** If every step adds to a list what its event says, the list at the end of a run
is the one at its start and what the events say, in their order. -/
theorem run_log {R : Type*} (rows : S → List R) (logged : E → List R)
    (adds : ∀ s m, rows (step s m).1 = rows s ++ (step s m).2.toList.flatMap logged) :
    rows (run step s ms).1 = rows s ++ (run step s ms).2.flatMap logged := by
  induction ms generalizing s with
  | nil => simp [run]
  | cons m ms ih =>
    rw [run_cons_snd, List.flatMap_append, ← List.append_assoc, ← adds]
    exact ih

/-- **Ledger rule.** If what a step takes in is held or given out by its end, then what a run took
in was given out on the way or is held at its end. -/
theorem run_ledger {R : Type*} (held : S → List R) (taken given : E → List R)
    (balanced : ∀ s m, (held s ++ (step s m).2.toList.flatMap taken).Perm
      ((step s m).2.toList.flatMap given ++ held (step s m).1)) :
    (held s ++ (run step s ms).2.flatMap taken).Perm
      ((run step s ms).2.flatMap given ++ held (run step s ms).1) := by
  induction ms generalizing s with
  | nil => simp [run]
  | cons m ms ih =>
    rw [run_cons_snd, List.flatMap_append, List.flatMap_append, ← List.append_assoc,
      List.append_assoc ((step s m).2.toList.flatMap given)]
    refine ((balanced s m).append_right _).trans ?_
    rw [List.append_assoc]
    exact ih.append_left _

/-- **Simulation rule.** If every step, where an invariant holds, is a run of another machine with
the events that are seen of it, then so is every run. -/
theorem run_simulates {S' M' E' : Type*} {step' : S' → M' → S' × Option E'} (part : S → S')
    (seen : E → Option E') (Inv : S → Prop) (preserved : ∀ s m, Inv s → Inv (step s m).1)
    (simulates : ∀ s m, Inv s → ∃ ms', run step' (part s) ms' =
      (part (step s m).1, (step s m).2.toList.filterMap seen))
    (start : Inv s) :
    ∃ ms', run step' (part s) ms' = (part (run step s ms).1, (run step s ms).2.filterMap seen) := by
  induction ms generalizing s with
  | nil => exact ⟨[], rfl⟩
  | cons m ms ih =>
    obtain ⟨first, hfirst⟩ := simulates s m start
    obtain ⟨rest, hrest⟩ := ih (preserved s m start)
    refine ⟨first ++ rest, ?_⟩
    rw [run_append, hfirst, hrest, run_cons_snd, List.filterMap_append]
    rfl

end Trace
