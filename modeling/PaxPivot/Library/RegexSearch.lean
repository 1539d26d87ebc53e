import Mathlib
import PaxPivot.Library.Regex

/-!
# Where a search finds its match

The places of a text are its positions before anything is matched. A search
answers the first place where the expression matches, with its first match there.
-/

namespace Regex

universe u

variable {α : Type u}

/-- A position of `text`, no group closed yet. -/
def Place (text : List α) (c : Cursor α) : Prop :=
  c.behind.reverse ++ c.ahead = text ∧ c.groups = []

/-- Two places of a text as far from its start are one. -/
theorem Place.eq {text : List α} {c d : Cursor α} (hc : Place text c) (hd : Place text d)
    (same : c.behind.length = d.behind.length) : c = d := by
  obtain ⟨behind, ahead, groups⟩ := c
  obtain ⟨behind', ahead', groups'⟩ := d
  obtain ⟨htext, hgroups⟩ := hc
  obtain ⟨htext', hgroups'⟩ := hd
  simp only at htext htext' hgroups hgroups' same
  subst hgroups
  subst hgroups'
  have parts := List.append_inj (htext.trans htext'.symm) (by simpa using same)
  obtain rfl : behind = behind' := List.reverse_injective parts.1
  rw [parts.2]

/-- The first place of a text where an expression matches. -/
structure First (r : Expr α) (text : List α) (c : Cursor α) : Prop where
  place : Place text c
  here : r.run c ≠ []
  before : ∀ b, Place text b → b.behind.length < c.behind.length → r.run b = []

namespace First

variable {r q : Expr α} {text : List α} {c d : Cursor α}

theorem unique (hc : First r text c) (hd : First r text d) : c = d := by
  apply hc.place.eq hd.place
  rcases Nat.lt_trichotomy c.behind.length d.behind.length with h | h | h
  · exact absurd (hd.before c hc.place h) hc.here
  · exact h
  · exact absurd (hc.before d hd.place h) hd.here

/-- Where every match of `r` is also a place where `q` matches, `q` matches first. -/
theorem le_of_imp (imp : ∀ b, r.run b ≠ [] → q.run b ≠ []) (hc : First q text c)
    (hd : First r text d) : c.behind.length ≤ d.behind.length := by
  by_contra h
  exact imp d hd.here (hc.before d hd.place (by omega))

/-- A later place comes after a match. -/
theorem lt_of_ne (imp : ∀ b, r.run b ≠ [] → q.run b ≠ []) (hc : First q text c)
    (hd : First r text d) (different : d ≠ c) : c.behind.length < d.behind.length := by
  have le := le_of_imp imp hc hd
  have ne : c.behind.length ≠ d.behind.length := fun same =>
    different (hd.place.eq hc.place same.symm)
  omega

end First

namespace Expr

/-- The search from a place on: its answer is the first match at no earlier place. -/
theorem searchFrom_eq_some_iff (r : Expr α) (behind ahead : List α) (s e : Cursor α) :
    r.searchFrom behind ahead = some (s, e) ↔
      Place (behind.reverse ++ ahead) s ∧ behind.length ≤ s.behind.length ∧
        (r.run s).head? = some e ∧
        ∀ b, Place (behind.reverse ++ ahead) b → behind.length ≤ b.behind.length →
          b.behind.length < s.behind.length → r.run b = [] := by
  have start : Place (behind.reverse ++ ahead) ⟨behind, ahead, []⟩ := ⟨rfl, rfl⟩
  induction ahead generalizing behind with
  | nil =>
    have only : ∀ b, Place (behind.reverse ++ []) b → behind.length ≤ b.behind.length →
        b = ⟨behind, [], []⟩ := by
      intro b hb hle
      refine hb.eq start ?_
      have := congrArg List.length hb.1
      simp only [List.length_append, List.length_reverse, List.length_nil] at this
      show b.behind.length = behind.length
      omega
    simp only [searchFrom, Option.map_eq_some_iff, Prod.mk.injEq]
    constructor
    · rintro ⟨e', he, rfl, rfl⟩
      exact ⟨start, le_rfl, he, fun b _ hle hlt => absurd hlt (by simpa using hle)⟩
    · rintro ⟨hs, hle, he, -⟩
      obtain rfl := only s hs hle
      exact ⟨e, he, rfl, rfl⟩
  | cons a rest ih =>
    unfold searchFrom
    cases hrun : (r.run ⟨behind, a :: rest, []⟩).head? with
    | some e' =>
      simp only [Option.some.injEq, Prod.mk.injEq]
      constructor
      · rintro ⟨rfl, rfl⟩
        exact ⟨start, le_rfl, hrun, fun b _ hle hlt => absurd hlt (by simpa using hle)⟩
      · rintro ⟨hs, hle, he, before⟩
        have here : r.run ⟨behind, a :: rest, []⟩ ≠ [] := by
          intro h
          simp [h] at hrun
        have same : s = ⟨behind, a :: rest, []⟩ := by
          apply hs.eq start
          by_contra h
          exact here (before _ start le_rfl (by simp only at h ⊢; omega))
        subst same
        exact ⟨rfl, by simpa [hrun] using he⟩
    | none =>
      have nothing : r.run ⟨behind, a :: rest, []⟩ = [] := List.head?_eq_none_iff.1 hrun
      have same : (a :: behind).reverse ++ rest = behind.reverse ++ a :: rest := by simp
      refine (ih (a :: behind) ⟨rfl, rfl⟩).trans ?_
      rw [same]
      constructor
      · rintro ⟨hs, hle, he, before⟩
        simp only [List.length_cons] at hle before
        refine ⟨hs, by omega, he, fun b hb hbe hlt => ?_⟩
        rcases Nat.lt_or_ge behind.length b.behind.length with h | h
        · exact before b hb h hlt
        · rw [hb.eq start (by simp only; omega)]
          exact nothing
      · rintro ⟨hs, hle, he, before⟩
        have later : behind.length < s.behind.length := by
          refine lt_of_le_of_ne hle fun h => ?_
          rw [hs.eq start h.symm, nothing] at he
          cases he
        refine ⟨hs, later, he, fun b hb hbe hlt => ?_⟩
        simp only [List.length_cons] at hbe
        exact before b hb (by omega) hlt

theorem search_eq_some_iff {r : Expr α} {text : List α} {s e : Cursor α} :
    r.search text = some (s, e) ↔ First r text s ∧ (r.run s).head? = some e := by
  unfold search
  rw [searchFrom_eq_some_iff]
  simp only [List.reverse_nil, List.nil_append, List.length_nil, Nat.zero_le, true_and,
    forall_const]
  constructor
  · rintro ⟨place, he, before⟩
    have here : r.run s ≠ [] := by
      intro h
      simp [h] at he
    exact ⟨⟨place, here, before⟩, he⟩
  · rintro ⟨first, he⟩
    exact ⟨first.place, he, first.before⟩

/-- A text with a match has a first one. -/
theorem exists_search {r : Expr α} {text : List α} {s : Cursor α} (first : First r text s) :
    ∃ e, (r.run s).head? = some e ∧ r.search text = some (s, e) := by
  obtain ⟨e, he⟩ : ∃ e, (r.run s).head? = some e := by
    cases h : r.run s with
    | nil => exact absurd h first.here
    | cons e rest => exact ⟨e, rfl⟩
  exact ⟨e, he, search_eq_some_iff.2 ⟨first, he⟩⟩

/-! ## Sequences -/

/-- A sequence matches its first part and, from there, the rest. -/
theorem run_seq_append (xs ys : List (Expr α)) (c : Cursor α) :
    (seq (xs ++ ys)).run c = ((seq xs).run c).flatMap (seq ys).run := by
  induction xs generalizing c with
  | nil => simp [seq, run]
  | cons x xs ih =>
    show (x.run c).flatMap (seq (xs ++ ys)).run = ((x.run c).flatMap (seq xs).run).flatMap _
    rw [List.flatMap_assoc]
    exact List.flatMap_congr fun d _ => ih d

theorem run_seq_cons (x : Expr α) (xs : List (Expr α)) (c : Cursor α) :
    (seq (x :: xs)).run c = (x.run c).flatMap (seq xs).run := rfl

end Expr

end Regex
