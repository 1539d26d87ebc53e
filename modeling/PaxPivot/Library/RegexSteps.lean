import Mathlib
import PaxPivot.Library.RegexSearch

/-!
# Matching step by step

What the parts of a sequence do at a cursor whose text ahead is known: a word of
sets, a run of letters, an optional part. A part that leads on from one of its
answers only is passed, and the sequence goes on from there.
-/

namespace Regex

universe u

variable {α : Type u}

namespace Cursor

/-- A cursor moved past `read`. -/
theorem advance_append (behind read rest : List α) (groups : List (Nat × List α)) :
    Cursor.advance ⟨behind, read ++ rest, groups⟩ read.length =
      ⟨read.reverse ++ behind, rest, groups⟩ := by
  simp [advance]

@[simp] theorem advance_groups (c : Cursor α) (n : Nat) : (c.advance n).groups = c.groups := rfl

/-- What was read since. -/
theorem since_append (behind read ahead ahead' : List α) (groups groups' : List (Nat × List α)) :
    Cursor.since ⟨behind, ahead, groups⟩ ⟨read.reverse ++ behind, ahead', groups'⟩ = read := by
  simp [since]

/-- From `c` the text `read` leads to `d`. -/
structure Reads (c : Cursor α) (read : List α) (d : Cursor α) : Prop where
  ahead : c.ahead = read ++ d.ahead
  behind : d.behind = read.reverse ++ c.behind

namespace Reads

variable {c d e : Cursor α} {read more : List α}

theorem refl (c : Cursor α) : Reads c [] c := ⟨rfl, rfl⟩

theorem trans (h : Reads c read d) (h' : Reads d more e) : Reads c (read ++ more) e := by
  constructor
  · rw [h.ahead, h'.ahead, List.append_assoc]
  · rw [h'.behind, h.behind, List.reverse_append, List.append_assoc]

theorem advance (c : Cursor α) (n : Nat) : Reads c (c.ahead.take n) (c.advance n) :=
  ⟨(List.take_append_drop n c.ahead).symm, rfl⟩

theorem since (h : Reads c read d) : c.since d = read := by
  simp [Cursor.since, h.behind]

end Reads

end Cursor

namespace Expr

/-! ## Words -/

/-- Letters of the sets, one after the other, stand at the start of the text. -/
def starts : List (α → Bool) → List α → Bool
  | [], _ => true
  | _ :: _, [] => false
  | p :: ps, a :: rest => p a && starts ps rest

theorem run_sets (ps : List (α → Bool)) (c : Cursor α) :
    (seq (ps.map set)).run c = if starts ps c.ahead then [c.advance ps.length] else [] := by
  induction ps generalizing c with
  | nil => simp [seq, run, starts, Cursor.advance]
  | cons p ps ih =>
    obtain ⟨behind, ahead, groups⟩ := c
    cases ahead with
    | nil => simp [seq, run, starts]
    | cons a rest =>
      rw [List.map_cons, run_seq_cons]
      cases hp : p a with
      | false => simp [run, starts, hp]
      | true =>
        have next : (set p).run ⟨behind, a :: rest, groups⟩ = [⟨a :: behind, rest, groups⟩] := by
          simp [run, hp, Cursor.advance]
        rw [next, List.flatMap_singleton, ih]
        simp [starts, hp, Cursor.advance]

/-- What a word of sets has read. -/
theorem reads_sets {ps : List (α → Bool)} {c e : Cursor α} (h : e ∈ (seq (ps.map set)).run c) :
    ∃ word, List.Forall₂ (fun p a => p a = true) ps word ∧ Cursor.Reads c word e ∧
      e.groups = c.groups := by
  rw [run_sets] at h
  split at h
  case isFalse => cases h
  case isTrue here =>
    rw [List.mem_singleton.1 h]
    refine ⟨_, ?_, .advance c _, rfl⟩
    clear h
    generalize c.ahead = text at here
    induction ps generalizing text with
    | nil => exact .nil
    | cons p ps ih =>
      cases text with
      | nil => cases here
      | cons a rest =>
        simp only [starts, Bool.and_eq_true] at here
        exact .cons here.1 (ih rest here.2)

/-- Text letter by letter in the sets starts with them. -/
theorem starts_append {ps : List (α → Bool)} {word : List α}
    (h : List.Forall₂ (fun p a => p a = true) ps word) (rest : List α) :
    starts ps (word ++ rest) = true := by
  induction h with
  | nil => rfl
  | cons hp _ ih => simpa [starts, hp] using ih

/-- A word that stops at a letter of none of its sets stopped before. -/
theorem starts_of_append {ps : List (α → Bool)} {front rest : List α} {a : α}
    (stop : ∀ p ∈ ps, p a = false) (h : starts ps (front ++ a :: rest) = true) :
    starts ps front = true := by
  induction front generalizing ps with
  | nil =>
    cases ps with
    | nil => rfl
    | cons p ps => simp [starts, stop p (by simp)] at h
  | cons b front ih =>
    cases ps with
    | nil => rfl
    | cons p ps =>
      simp only [List.cons_append, starts, Bool.and_eq_true] at h ⊢
      exact ⟨h.1, ih (fun q hq => stop q (by simp [hq])) h.2⟩

/-! ## Runs of letters -/

section Many

variable {p : α → Bool} {least : Nat} {most : Option Nat}

theorem mem_run_many {c e : Cursor α} :
    e ∈ (many p least most).run c ↔
      ∃ n, least ≤ n ∧ n ≤ longest p most c.ahead ∧ e = c.advance n := by
  simp only [run, List.mem_map, List.mem_filter, List.mem_reverse, List.mem_range,
    decide_eq_true_eq]
  constructor
  · intro h
    obtain ⟨n, ⟨hlt, hle⟩, he⟩ := h
    exact ⟨n, hle, by omega, he.symm⟩
  · intro h
    obtain ⟨n, hle, hlt, he⟩ := h
    exact ⟨n, ⟨by omega, hle⟩, he.symm⟩

/-- What a run has read. -/
theorem reads_many {c e : Cursor α} (h : e ∈ (many p least most).run c) :
    ∃ read, (∀ a ∈ read, p a = true) ∧ least ≤ read.length ∧ (∀ n ∈ most, read.length ≤ n) ∧
      Cursor.Reads c read e ∧ e.groups = c.groups := by
  obtain ⟨n, hleast, hmost, rfl⟩ := mem_run_many.1 h
  have bound : n ≤ (c.ahead.takeWhile p).length ∧ ∀ m ∈ most, n ≤ m := by
    unfold longest at hmost
    cases most with
    | none => exact ⟨hmost, by simp⟩
    | some m =>
      have both := Nat.le_min.1 hmost
      exact ⟨both.2, by simpa using both.1⟩
  have taken : c.ahead.take n = (c.ahead.takeWhile p).take n := by
    conv_lhs => rw [← List.takeWhile_append_dropWhile (p := p) (l := c.ahead)]
    exact List.take_append_of_le_length bound.1
  have length : (c.ahead.take n).length = n := by
    rw [taken, List.length_take]
    omega
  refine ⟨_, ?_, by omega, ?_, .advance c n, rfl⟩
  · intro a ha
    rw [taken] at ha
    exact List.mem_takeWhile_imp (List.mem_of_mem_take ha)
  · intro m hm
    rw [length]
    exact bound.2 m hm

/-- The letters of the set at the start of a text. -/
theorem takeWhile_stop (word rest : List α) (hword : ∀ a ∈ word, p a = true)
    (hrest : ∀ a ∈ rest.head?, p a = false) : (word ++ rest).takeWhile p = word := by
  rw [List.takeWhile_append_of_pos hword]
  cases rest with
  | nil => simp
  | cons a rest => simp [hrest a rfl]

/-- What is behind the letters of the set. -/
theorem dropWhile_stop {word rest : List α} (hword : ∀ a ∈ word, p a = true)
    (hrest : ∀ a ∈ rest.head?, p a = false) : (word ++ rest).dropWhile p = rest := by
  rw [List.dropWhile_append_of_pos hword]
  cases rest with
  | nil => rfl
  | cons a rest => rw [List.dropWhile_cons_of_neg (by simp [hrest a rfl])]

/-- Where no letter of the set stands, a run of at least one fails. -/
theorem run_many_nil {c : Cursor α} (hleast : 0 < least) (h : ∀ a ∈ c.ahead.head?, p a = false) :
    (many p least most).run c = [] := by
  apply List.eq_nil_iff_forall_not_mem.2
  intro e he
  obtain ⟨n, hle, hlongest, -⟩ := mem_run_many.1 he
  have none : c.ahead.takeWhile p = [] := takeWhile_stop [] c.ahead (by simp) h
  unfold longest at hlongest
  cases most <;> simp only [none, List.length_nil] at hlongest <;> omega

/-- A run over one letter. -/
theorem run_many_one {behind rest : List α} {groups : List (Nat × List α)} {a : α}
    (ha : p a = true) (hrest : ∀ b ∈ rest.head?, p b = false) :
    (many p 1 none).run ⟨behind, a :: rest, groups⟩ = [⟨a :: behind, rest, groups⟩] ∧
      (many p 0 none).run ⟨behind, a :: rest, groups⟩ =
        [⟨a :: behind, rest, groups⟩, ⟨behind, a :: rest, groups⟩] := by
  have one : (a :: rest).takeWhile p = [a] := takeWhile_stop [a] rest (by simpa using ha) hrest
  constructor <;> simp [run, longest, one, List.range_succ, Cursor.advance]

/-- A run that may be empty, over nothing. -/
theorem run_many_zero {c : Cursor α} (h : ∀ a ∈ c.ahead.head?, p a = false) :
    (many p 0 none).run c = [c] := by
  have none : c.ahead.takeWhile p = [] := takeWhile_stop [] c.ahead (by simp) h
  simp [run, longest, none, List.range_succ, Cursor.advance]

/-- A run of a fixed length. -/
theorem run_many_exact {behind word rest : List α} {groups : List (Nat × List α)}
    (hword : ∀ a ∈ word, p a = true) :
    (many p word.length (some word.length)).run ⟨behind, word ++ rest, groups⟩ =
      [⟨word.reverse ++ behind, rest, groups⟩] := by
  have enough : word.length ≤ ((word ++ rest).takeWhile p).length := by
    rw [List.takeWhile_append_of_pos hword, List.length_append]
    omega
  have only : ∀ n, (List.range (n + 1)).reverse.filter (n ≤ ·) = [n] := by
    intro n
    rw [List.range_succ, List.reverse_append, List.reverse_singleton, List.singleton_append,
      List.filter_cons_of_pos (by simp), List.filter_eq_nil_iff.2]
    intro m hm
    have := List.mem_range.1 (List.mem_reverse.1 hm)
    simpa using this
  rw [run, longest, Nat.min_eq_left enough, only, List.map_singleton, Cursor.advance_append]

/-- A run of one letter or two, over all there are: it falls back on fewer. -/
theorem run_many_two {word rest : List α} (hword : ∀ a ∈ word, p a = true)
    (hrest : ∀ a ∈ rest.head?, p a = false) (hlength : word.length = 1 ∨ word.length = 2)
    (behind : List α) (groups : List (Nat × List α)) :
    ∃ others, (many p 1 (some 2)).run ⟨behind, word ++ rest, groups⟩ =
      ⟨word.reverse ++ behind, rest, groups⟩ :: others ∧
      ∀ d ∈ others, ∃ a ∈ d.ahead.head?, p a = true := by
  have all := takeWhile_stop word rest hword hrest
  obtain h | h := hlength
  · obtain ⟨a, rfl⟩ := List.length_eq_one_iff.1 h
    refine ⟨[], ?_, by simp⟩
    simp only [run, longest, all]
    simp [List.range_succ, Cursor.advance]
  · obtain ⟨a, b, rfl⟩ := List.length_eq_two.1 h
    refine ⟨[⟨a :: behind, b :: rest, groups⟩], ?_, by simpa using hword b (by simp)⟩
    simp only [run, longest, all]
    simp [List.range_succ, Cursor.advance]

end Many

/-! ## Sequences and choices -/

section Sequences

variable {x : Expr α} {xs : List (Expr α)} {c d : Cursor α} {others : List (Cursor α)}

/-- A part is passed when only its first answer leads on. -/
theorem run_seq_pass (hx : x.run c = d :: others) (dead : ∀ e ∈ others, (seq xs).run e = []) :
    (seq (x :: xs)).run c = (seq xs).run d := by
  rw [run_seq_cons, hx, List.flatMap_cons, List.flatMap_eq_nil_iff.2 dead, List.append_nil]

theorem mem_run_seq_cons {e : Cursor α} :
    e ∈ (seq (x :: xs)).run c ↔ ∃ d ∈ x.run c, e ∈ (seq xs).run d := by
  rw [run_seq_cons, List.mem_flatMap]

theorem mem_run_opt {e : Cursor α} : e ∈ (opt x).run c ↔ e ∈ x.run c ∨ e = c := by
  simp [opt, run]

theorem run_seq_dead (hx : x.run c = []) : (seq (x :: xs)).run c = [] := by
  rw [run_seq_cons, hx, List.flatMap_nil]

/-- An optional part that fails is passed. -/
theorem run_opt_of_nil (hx : x.run c = []) : (opt x).run c = [c] := by
  simp [opt, run, hx]

theorem run_opt_of_some (hx : x.run c = [d]) : (opt x).run c = [d, c] := by
  simp [opt, run, hx]

/-- Alternatives answer one after the other. -/
theorem run_oneOf {rs : List (Expr α)} (h : rs ≠ []) (c : Cursor α) :
    (oneOf rs).run c = rs.flatMap (·.run c) := by
  induction rs with
  | nil => exact absurd rfl h
  | cons r rs ih =>
    cases rs with
    | nil => simp [oneOf]
    | cons q rs =>
      show r.run c ++ (oneOf (q :: rs)).run c = _
      rw [ih (by simp)]
      rfl

/-- Of distinct choices only one leads on. -/
theorem flatMap_eq_of_only {β γ : Type*} {l : List β} {f : β → List γ} {b : β}
    (distinct : l.Nodup) (hb : b ∈ l) (dead : ∀ a ∈ l, a ≠ b → f a = []) :
    l.flatMap f = f b := by
  obtain ⟨before, after, rfl⟩ := List.append_of_mem hb
  have parts := List.nodup_middle.1 distinct
  have notMem : b ∉ before ++ after := (List.nodup_cons.1 parts).1
  have none : ∀ side, side ⊆ before ++ b :: after → b ∉ side → side.flatMap f = [] := by
    intro side hside hout
    apply List.flatMap_eq_nil_iff.2
    intro a ha
    apply dead a (hside ha)
    rintro rfl
    exact hout ha
  rw [List.flatMap_append, List.flatMap_cons,
    none before (List.subset_append_left _ _) fun h => notMem (List.mem_append_left _ h),
    none after (fun a ha => by simp [ha]) fun h => notMem (List.mem_append_right _ h),
    List.nil_append, List.append_nil]

end Sequences

/-! ## What is read -/

/-- The letters that an expression takes have a property. -/
def Only (P : α → Prop) : Expr α → Prop
  | empty | boundary _ => True
  | set p | many p _ _ => ∀ a, p a = true → P a
  | cat r s | alt r s => r.Only P ∧ s.Only P
  | group _ r => r.Only P

/-- What an answer has read are letters that the expression takes. -/
theorem reads_only {P : α → Prop} {r : Expr α} {c e : Cursor α} (h : e ∈ r.run c)
    (only : r.Only P) : ∃ read, (∀ a ∈ read, P a) ∧ Cursor.Reads c read e := by
  induction r generalizing c e with
  | empty =>
    rw [List.mem_singleton.1 h]
    exact ⟨_, by simp, .refl c⟩
  | set p =>
    unfold run at h
    split at h
    case isFalse => cases h
    case isTrue here =>
      rw [List.mem_singleton.1 h]
      refine ⟨_, ?_, .advance c 1⟩
      intro a ha
      obtain ⟨b, hb, hpb⟩ := (Option.any_eq_true _ _).1 here
      rw [List.take_one, hb, Option.toList_some, List.mem_singleton] at ha
      exact only a (ha ▸ hpb)
  | many p least most =>
    obtain ⟨read, all, -, -, reads, -⟩ := reads_many h
    exact ⟨read, fun a ha => only a (all a ha), reads⟩
  | boundary word =>
    unfold run at h
    split at h
    · rw [List.mem_singleton.1 h]
      exact ⟨_, by simp, .refl c⟩
    · cases h
  | cat r s ihr ihs =>
    obtain ⟨d, hd, he⟩ := List.mem_flatMap.1 h
    obtain ⟨read, hread, reads⟩ := ihr hd only.1
    obtain ⟨more, hmore, readsMore⟩ := ihs he only.2
    exact ⟨_, List.forall_mem_append.2 ⟨hread, hmore⟩, reads.trans readsMore⟩
  | alt r s ihr ihs =>
    obtain h | h := List.mem_append.1 h
    · exact ihr h only.1
    · exact ihs h only.2
  | group i r ih =>
    obtain ⟨d, hd, rfl⟩ := List.mem_map.1 h
    obtain ⟨read, hread, reads⟩ := ih hd only
    exact ⟨read, hread, reads.ahead, reads.behind⟩

theorem only_seq {P : α → Prop} {rs : List (Expr α)} (h : ∀ r ∈ rs, r.Only P) :
    (seq rs).Only P := by
  induction rs with
  | nil => trivial
  | cons r rs ih =>
    obtain ⟨first, rest⟩ := List.forall_mem_cons.1 h
    exact ⟨first, ih rest⟩

theorem only_true (r : Expr α) : r.Only fun _ => True := by
  induction r with
  | empty => trivial
  | set p => exact fun _ _ => trivial
  | many p least most => exact fun _ _ => trivial
  | boundary word => trivial
  | cat r s ihr ihs => exact ⟨ihr, ihs⟩
  | alt r s ihr ihs => exact ⟨ihr, ihs⟩
  | group i r ih => exact ih

/-- Every answer has read some text. -/
theorem exists_reads {r : Expr α} {c e : Cursor α} (h : e ∈ r.run c) :
    ∃ read, Cursor.Reads c read e := by
  obtain ⟨read, -, reads⟩ := reads_only h (only_true r)
  exact ⟨read, reads⟩

/-! ## Groups -/

/-- The groups of an expression. -/
def indices : Expr α → List Nat
  | empty | set _ | many _ _ _ | boundary _ => []
  | cat r s | alt r s => r.indices ++ s.indices
  | group i r => i :: r.indices

/-- Only groups of the expression are closed. -/
theorem closed_of_run {r : Expr α} {c e : Cursor α} (h : e ∈ r.run c) {i : Nat}
    (hi : i ∉ r.indices) : e.group i = c.group i := by
  induction r generalizing c e with
  | empty => rw [List.mem_singleton.1 h]
  | set p =>
    unfold run at h
    split at h
    · rw [List.mem_singleton.1 h]
      rfl
    · cases h
  | many p least most =>
    obtain ⟨n, -, rfl⟩ := List.mem_map.1 h
    rfl
  | boundary word =>
    unfold run at h
    split at h
    · rw [List.mem_singleton.1 h]
    · cases h
  | cat r s ihr ihs =>
    simp only [indices, List.mem_append, not_or] at hi
    obtain ⟨d, hd, he⟩ := List.mem_flatMap.1 h
    exact (ihs he hi.2).trans (ihr hd hi.1)
  | alt r s ihr ihs =>
    simp only [indices, List.mem_append, not_or] at hi
    obtain h | h := List.mem_append.1 h
    · exact ihr h hi.1
    · exact ihs h hi.2
  | group j r ih =>
    simp only [indices, List.mem_cons, not_or] at hi
    obtain ⟨d, hd, rfl⟩ := List.mem_map.1 h
    refine Eq.trans ?_ (ih hd hi.2)
    simp [Cursor.group, Ne.symm hi.1]

/-- An expression without groups closes none. -/
theorem groups_of_run {r : Expr α} {c e : Cursor α} (h : e ∈ r.run c) (none : r.indices = []) :
    e.groups = c.groups := by
  induction r generalizing c e with
  | empty => rw [List.mem_singleton.1 h]
  | set p =>
    unfold run at h
    split at h
    · rw [List.mem_singleton.1 h, Cursor.advance_groups]
    · cases h
  | many p least most =>
    obtain ⟨n, -, rfl⟩ := List.mem_map.1 h
    rfl
  | boundary word =>
    unfold run at h
    split at h
    · rw [List.mem_singleton.1 h]
    · cases h
  | cat r s ihr ihs =>
    obtain ⟨noneR, noneS⟩ := List.append_eq_nil_iff.1 none
    obtain ⟨d, hd, he⟩ := List.mem_flatMap.1 h
    exact (ihs he noneS).trans (ihr hd noneR)
  | alt r s ihr ihs =>
    obtain ⟨noneR, noneS⟩ := List.append_eq_nil_iff.1 none
    obtain h | h := List.mem_append.1 h
    · exact ihr h noneR
    · exact ihs h noneS
  | group i r ih => cases none

end Expr

end Regex
