import Mathlib
import PaxPivot.Library.RegexSteps

/-!
# What a replacement makes of a text

An expression whose match depends only on the text ahead replaces by the length of
that match. Two such: a run of letters becomes one, and what stands between an opening
and a closing letter becomes a given text.
-/

namespace Regex

universe u

variable {α : Type u}

namespace Expr

/-- Replacement by the length of the match at each position; `skip` as in `replaceFrom`. -/
def replaceBy (length : List α → Option Nat) (new : List α) : Nat → List α → List α
  | _, [] => []
  | skip + 1, _ :: rest => replaceBy length new skip rest
  | 0, a :: rest =>
    match length (a :: rest) with
    | some n => new ++ replaceBy length new (n - 1) rest
    | none => a :: replaceBy length new 0 rest

/-- The length of the first match. -/
def matchLength (r : Expr α) (c : Cursor α) : Option Nat :=
  (r.run c).head?.map fun e => (c.since e).length

theorem replaceFrom_eq {r : Expr α} {length : List α → Option Nat}
    (h : ∀ behind ahead, matchLength r ⟨behind, ahead, []⟩ = length ahead) (new : List α)
    (skip : Nat) (behind text : List α) :
    replaceFrom r new skip behind text = replaceBy length new skip text := by
  induction text generalizing skip behind with
  | nil => cases skip <;> rfl
  | cons a rest ih =>
    cases skip with
    | succ skip => exact ih skip (a :: behind)
    | zero =>
      have length_here := h behind (a :: rest)
      unfold matchLength at length_here
      rw [replaceFrom, replaceBy, ← length_here]
      cases hrun : (r.run ⟨behind, a :: rest, []⟩).head? with
      | none => simp only [Option.map_none, ih]
      | some e => simp only [Option.map_some, ih]

theorem replaceBy_skip (length : List α → Option Nat) (new : List α) (skip : Nat)
    (text : List α) : replaceBy length new skip text = replaceBy length new 0 (text.drop skip) := by
  induction skip generalizing text with
  | zero => rfl
  | succ skip ih =>
    cases text with
    | nil => rfl
    | cons a rest => exact ih rest

/-- One match for all answers gives its length. -/
theorem matchLength_eq {r : Expr α} {c : Cursor α} {n : Nat} (here : r.run c ≠ [])
    (all : ∀ e ∈ r.run c, (c.since e).length = n) : matchLength r c = some n := by
  unfold matchLength
  obtain ⟨e, rest, hrun⟩ := List.exists_cons_of_ne_nil here
  rw [hrun]
  exact congrArg some (all e (by simp [hrun]))

/-! ## Runs -/

/-- Every run of letters of the set becomes one `new`; `inside` says whether the letter
before was of the set. -/
def collapse (p : α → Bool) (new : α) (inside : Bool) : List α → List α
  | [] => []
  | a :: rest =>
    if p a then (if inside then collapse p new true rest else new :: collapse p new true rest)
    else a :: collapse p new false rest

section Collapse

variable {p : α → Bool} {new : α}

/-- The length of the run ahead. -/
def runLength (p : α → Bool) (text : List α) : Option Nat :=
  if (text.takeWhile p).length = 0 then none else some (text.takeWhile p).length

theorem matchLength_many (behind ahead : List α) :
    matchLength (many p 1 none) ⟨behind, ahead, []⟩ = runLength p ahead := by
  unfold matchLength runLength
  have moved : ∀ n, n ≤ (ahead.takeWhile p).length →
      (Cursor.since ⟨behind, ahead, []⟩ (Cursor.advance ⟨behind, ahead, []⟩ n)).length = n := by
    intro n hn
    have := (List.takeWhile_sublist p (l := ahead)).length_le
    simp only [Cursor.since, Cursor.advance, List.length_reverse, List.length_append,
      List.length_take]
    omega
  cases hk : (ahead.takeWhile p).length with
  | zero => simp [run, longest, hk, List.range_succ]
  | succ k =>
    have first : ((List.range (k + 2)).reverse.filter (1 ≤ ·)).head? = some (k + 1) := by
      rw [List.range_succ, List.reverse_append, List.reverse_singleton, List.singleton_append,
        List.filter_cons_of_pos (by simp)]
      rfl
    rw [run, longest, hk, List.head?_map, first]
    have := moved (k + 1) (by omega)
    simpa using this

theorem replaceBy_runLength (text : List α) :
    replaceBy (runLength p) [new] 0 text = collapse p new false text ∧
      replaceBy (runLength p) [new] (text.takeWhile p).length text = collapse p new true text := by
  induction text with
  | nil => exact ⟨rfl, rfl⟩
  | cons a rest ih =>
    cases ha : p a with
    | true =>
      have length : ((a :: rest).takeWhile p).length = (rest.takeWhile p).length + 1 := by
        simp [ha]
      constructor
      · simp only [replaceBy, runLength, length, Nat.add_one_ne_zero, ↓reduceIte,
          Nat.add_one_sub_one, ih.2, collapse, ha, Bool.false_eq_true, List.singleton_append]
      · rw [length]
        simp only [replaceBy, ih.2, collapse, ha, ↓reduceIte]
    | false =>
      have length : ((a :: rest).takeWhile p).length = 0 := by simp [ha]
      have kept : replaceBy (runLength p) [new] 0 (a :: rest) = a :: collapse p new false rest := by
        simp only [replaceBy, runLength, length, ↓reduceIte, ih.1]
      rw [length, kept]
      simp [collapse, ha]

/-- **Replacing runs collapses them.** -/
theorem replaceAll_many (text : List α) :
    (many p 1 none).replaceAll [new] text = collapse p new false text := by
  unfold replaceAll
  rw [replaceFrom_eq matchLength_many, (replaceBy_runLength text).1]

/-- A letter outside the set separates what is before and after it. -/
theorem collapse_append (front rest : List α) {a : α} (inside : Bool) (ha : p a = false) :
    collapse p new inside (front ++ a :: rest) =
      collapse p new inside front ++ a :: collapse p new false rest := by
  induction front generalizing inside with
  | nil => simp [collapse, ha]
  | cons b front ih =>
    rw [List.cons_append, collapse, collapse]
    split
    · split
      · exact ih true
      · exact congrArg (new :: ·) (ih true)
    · exact congrArg (b :: ·) (ih false)

/-- A run becomes one letter. -/
theorem collapse_run {word rest : List α} (hword : ∀ a ∈ word, p a = true) (inside : Bool)
    (ne : word ≠ []) :
    collapse p new inside (word ++ rest) =
      (if inside then [] else [new]) ++ collapse p new true rest := by
  have through : ∀ word : List α, (∀ a ∈ word, p a = true) →
      collapse p new true (word ++ rest) = collapse p new true rest := by
    intro word hword
    induction word with
    | nil => rfl
    | cons a word ih =>
      rw [List.cons_append, collapse, if_pos (hword a (by simp)), if_pos rfl]
      exact ih fun b hb => hword b (by simp [hb])
  obtain ⟨a, word, rfl⟩ := List.exists_cons_of_ne_nil ne
  rw [List.cons_append, collapse, if_pos (hword a (by simp)),
    through word fun b hb => hword b (by simp [hb])]
  cases inside <;> rfl

/-- Letters outside the set are kept. -/
theorem collapse_word {word : List α} (hword : ∀ a ∈ word, p a = false) (rest : List α) :
    collapse p new false (word ++ rest) = word ++ collapse p new false rest := by
  induction word with
  | nil => rfl
  | cons a word ih =>
    rw [List.cons_append, collapse, if_neg (by simp [hword a (by simp)]),
      ih fun b hb => hword b (by simp [hb])]
    rfl

/-- After a run, a text that starts outside the set goes on as it would. -/
theorem collapse_true {rest : List α} (h : ∀ a ∈ rest.head?, p a = false) :
    collapse p new true rest = collapse p new false rest := by
  cases rest with
  | nil => rfl
  | cons a rest => simp [collapse, h a rfl]

/-- A word that collapsing leaves at the start stood there. -/
theorem start_of_collapse (hnew : p new = true) {word text : List α}
    (hword : ∀ a ∈ word, p a = false) (h : word <+: collapse p new false text) : word <+: text := by
  induction text generalizing word with
  | nil => exact h
  | cons a rest ih =>
    cases word with
    | nil => exact List.nil_prefix
    | cons b word =>
      have outside := hword b (by simp)
      unfold collapse at h
      split at h
      case isTrue =>
        obtain ⟨rfl, -⟩ := List.cons_prefix_cons.1 h
        rw [hnew] at outside
        cases outside
      case isFalse =>
        obtain ⟨rfl, hrest⟩ := List.cons_prefix_cons.1 h
        exact List.cons_prefix_cons.2 ⟨rfl, ih (fun c hc => hword c (by simp [hc])) hrest⟩

/-- **Collapsing makes no new words.** -/
theorem word_of_collapse (hnew : p new = true) {word text : List α}
    (hword : ∀ a ∈ word, p a = false) (ne : word ≠ []) (inside : Bool)
    (h : word <:+: collapse p new inside text) : word <:+: text := by
  induction text generalizing inside with
  | nil => exact h
  | cons a rest ih =>
    have later : ∀ inside, word <:+: collapse p new inside rest → word <:+: a :: rest :=
      fun inside hrest => List.infix_cons (ih inside hrest)
    unfold collapse at h
    split at h
    case isTrue =>
      split at h
      · exact later true h
      · obtain h | h := List.infix_cons_iff.1 h
        · obtain ⟨b, word, rfl⟩ := List.exists_cons_of_ne_nil ne
          obtain ⟨rfl, -⟩ := List.cons_prefix_cons.1 h
          rw [hword b (by simp)] at hnew
          cases hnew
        · exact later true h
    case isFalse outside =>
      obtain h | h := List.infix_cons_iff.1 h
      · apply List.IsPrefix.isInfix
        apply start_of_collapse hnew hword
        rwa [collapse, if_neg outside]
      · exact later false h

end Collapse

/-! ## Brackets -/

section Brackets

variable {left inner right : α → Bool}

/-- From an opening letter over at least one inner letter to the first closing one. -/
def bracket (left inner right : α → Bool) : Expr α :=
  seq [set left, many inner 1 none, set right]

/-- The length of the bracket ahead. -/
def bracketLength (left inner : α → Bool) : List α → Option Nat
  | [] => none
  | a :: rest =>
    if left a ∧ 1 ≤ (rest.takeWhile inner).length ∧
        (rest.takeWhile inner).length < rest.length then
      some ((rest.takeWhile inner).length + 2)
    else none

/-- The letters that a bracket passes end at the first closing one. -/
theorem mem_run_bracket (apart : ∀ a, right a = !inner a) {a : α} (ha : left a = true)
    (behind rest : List α) (e : Cursor α) :
    e ∈ (bracket left inner right).run ⟨behind, a :: rest, []⟩ ↔
      1 ≤ (rest.takeWhile inner).length ∧ (rest.takeWhile inner).length < rest.length ∧
        e = Cursor.advance ⟨behind, a :: rest, []⟩ ((rest.takeWhile inner).length + 2) := by
  have opened : (set left).run ⟨behind, a :: rest, []⟩ = [⟨a :: behind, rest, []⟩] := by
    simp [run, ha, Cursor.advance]
  have closed : ∀ d : Cursor α, (seq [set right]).run d =
      if d.ahead.head?.any right then [d.advance 1] else [] := by
    intro d
    simp [seq, run, apply_ite]
  have advanced : ∀ n, Cursor.advance (Cursor.advance ⟨a :: behind, rest, []⟩ n) 1 =
      Cursor.advance ⟨behind, a :: rest, []⟩ (n + 2) := by
    intro n
    simp [Cursor.advance, List.take_add, List.drop_drop]
  -- Where the inner letters end, the closing letter stands if any does.
  have ends : ∀ b ∈ (rest.dropWhile inner).head?, right b = true := by
    intro b hb
    have stop := List.head?_dropWhile_not inner rest
    rw [Option.mem_def.1 hb] at stop
    rw [apart, stop]
    rfl
  have parts : rest.takeWhile inner ++ rest.dropWhile inner = rest :=
    List.takeWhile_append_dropWhile
  have total := congrArg List.length parts
  rw [List.length_append] at total
  unfold bracket
  rw [run_seq_cons, opened, List.flatMap_singleton, run_seq_cons, List.mem_flatMap]
  constructor
  · intro h
    obtain ⟨d, hd, he⟩ := h
    obtain ⟨n, hleast, hmost, rfl⟩ := mem_run_many.1 hd
    replace hmost : n ≤ (rest.takeWhile inner).length := hmost
    rw [closed] at he
    split at he
    case isFalse => cases he
    case isTrue hclose =>
      replace hclose : (rest.drop n).head?.any right = true := hclose
      obtain ⟨b, hb, hright⟩ := (Option.any_eq_true _ _).1 hclose
      have whole : n = (rest.takeWhile inner).length := by
        by_contra short
        rw [← parts, List.drop_append_of_le_length hmost, List.head?_append_of_ne_nil _
          (by simp only [ne_eq, List.drop_eq_nil_iff]; omega)] at hb
        have passed := List.mem_takeWhile_imp (List.mem_of_mem_drop (List.mem_of_mem_head? hb))
        rw [apart, passed] at hright
        cases hright
      have inside : n < rest.length := by
        by_contra beyond
        rw [List.drop_eq_nil_iff.2 (by omega)] at hb
        cases hb
      rw [← whole]
      exact ⟨hleast, inside, (List.mem_singleton.1 he).trans (advanced n)⟩
  · intro h
    obtain ⟨hleast, hinside, he⟩ := h
    refine ⟨_, mem_run_many.2 ⟨_, hleast, le_rfl, rfl⟩, ?_⟩
    rw [closed, if_pos, List.mem_singleton, advanced]
    · exact he
    · show (rest.drop (rest.takeWhile inner).length).head?.any right = true
      have left_over : rest.drop (rest.takeWhile inner).length = rest.dropWhile inner := by
        calc rest.drop (rest.takeWhile inner).length
          _ = (rest.takeWhile inner ++ rest.dropWhile inner).drop
                (rest.takeWhile inner).length := by rw [parts]
          _ = rest.dropWhile inner := List.drop_left
      rw [left_over]
      obtain ⟨b, after, hb⟩ : ∃ b after, rest.dropWhile inner = b :: after := by
        apply List.exists_cons_of_ne_nil
        intro none
        rw [none, List.length_nil] at total
        omega
      rw [hb]
      exact ends b (by rw [hb]; rfl)

theorem matchLength_bracket (apart : ∀ a, right a = !inner a) (behind ahead : List α) :
    matchLength (bracket left inner right) ⟨behind, ahead, []⟩ =
      bracketLength left inner ahead := by
  cases ahead with
  | nil => rfl
  | cons a rest =>
    rw [bracketLength]
    cases ha : left a with
    | false =>
      have failed : (bracket left inner right).run ⟨behind, a :: rest, []⟩ = [] :=
        run_seq_dead (by simp [run, ha])
      simp [matchLength, failed]
    | true =>
      have found := mem_run_bracket apart ha behind rest
      by_cases closes : 1 ≤ (rest.takeWhile inner).length ∧
          (rest.takeWhile inner).length < rest.length
      · rw [if_pos ⟨rfl, closes⟩]
        apply matchLength_eq
        · exact List.ne_nil_of_mem ((found _).2 ⟨closes.1, closes.2, rfl⟩)
        · intro e he
          obtain ⟨-, hlt, rfl⟩ := (found e).1 he
          simp only [Cursor.since, Cursor.advance, List.length_reverse, List.length_append,
            List.length_take, List.length_cons]
          omega
      · rw [if_neg fun h => closes h.2]
        have failed : (bracket left inner right).run ⟨behind, a :: rest, []⟩ = [] := by
          apply List.eq_nil_iff_forall_not_mem.2
          intro e he
          obtain ⟨hleast, hlt, -⟩ := (found e).1 he
          exact closes ⟨hleast, hlt⟩
        simp [matchLength, failed]

/-- **Text without an opening letter is kept.** -/
theorem replaceAll_bracket_word (apart : ∀ a, right a = !inner a) {new word : List α}
    (hword : ∀ a ∈ word, left a = false) (rest : List α) :
    (bracket left inner right).replaceAll new (word ++ rest) =
      word ++ (bracket left inner right).replaceAll new rest := by
  unfold replaceAll
  rw [replaceFrom_eq (matchLength_bracket apart), replaceFrom_eq (matchLength_bracket apart)]
  induction word with
  | nil => rfl
  | cons a word ih =>
    have plain : bracketLength left inner (a :: (word ++ rest)) = none := by
      simp [bracketLength, hword a (by simp)]
    rw [List.cons_append, replaceBy, plain]
    exact congrArg (a :: ·) (ih fun b hb => hword b (by simp [hb]))

/-- **A bracket is replaced.** -/
theorem replaceAll_bracket (apart : ∀ a, right a = !inner a) {new body rest : List α} {a b : α}
    (ha : left a = true) (hb : right b = true) (hbody : ∀ c ∈ body, inner c = true)
    (ne : body ≠ []) :
    (bracket left inner right).replaceAll new (a :: (body ++ b :: rest)) =
      new ++ (bracket left inner right).replaceAll new rest := by
  have stop : inner b = false := by simpa [apart] using hb
  have passed : (body ++ b :: rest).takeWhile inner = body := by
    rw [List.takeWhile_append_of_pos hbody, List.takeWhile_cons_of_neg (by simp [stop]),
      List.append_nil]
  have some_body := List.length_pos_iff.2 ne
  have length : bracketLength left inner (a :: (body ++ b :: rest)) = some (body.length + 2) := by
    rw [bracketLength, passed, if_pos]
    refine ⟨ha, some_body, ?_⟩
    simp
  unfold replaceAll
  rw [replaceFrom_eq (matchLength_bracket apart), replaceFrom_eq (matchLength_bracket apart),
    replaceBy, length]
  dsimp only
  rw [replaceBy_skip]
  congr 2
  simp

end Brackets

end Expr

end Regex
