import Mathlib

/-!
# Backtracking regular expressions

An expression is matched at a position of a text. It answers every position where
a match can end, in the order in which a backtracking matcher tries them: the first
is the match, the others are what the rest of the expression can fall back on.
Letters are of any type, and a set of letters is its test.
-/

namespace Regex

universe u

inductive Expr (α : Type u) where
  | empty
  | set (p : α → Bool)
  /-- At least `least` and at most `most` letters of a set, as many as possible. -/
  | many (p : α → Bool) (least : Nat) (most : Option Nat)
  /-- The edge of a word. -/
  | boundary (word : α → Bool)
  | cat (r s : Expr α)
  /-- `r`, or else `s`. -/
  | alt (r s : Expr α)
  | group (i : Nat) (r : Expr α)

/-- A position of a text: the letters behind it, nearest first, the letters ahead,
and the groups closed so far, latest first. -/
structure Cursor (α : Type u) where
  behind : List α
  ahead : List α
  groups : List (Nat × List α) := []

namespace Cursor

variable {α : Type u}

def advance (c : Cursor α) (n : Nat) : Cursor α :=
  { c with behind := (c.ahead.take n).reverse ++ c.behind, ahead := c.ahead.drop n }

/-- The letters between `start` and a later position. -/
def since (start c : Cursor α) : List α :=
  (c.behind.take (c.behind.length - start.behind.length)).reverse

/-- What a group matched, `none` when it took no part. -/
def group (c : Cursor α) (i : Nat) : Option (List α) :=
  (c.groups.find? fun g => g.1 = i).map (·.2)

end Cursor

namespace Expr

variable {α : Type u}

/-- How many letters `many` tries at most. -/
def longest (p : α → Bool) (most : Option Nat) (ahead : List α) : Nat :=
  match most with
  | none => (ahead.takeWhile p).length
  | some n => min n (ahead.takeWhile p).length

def run : Expr α → Cursor α → List (Cursor α)
  | empty, c => [c]
  | set p, c => if c.ahead.head?.any p then [c.advance 1] else []
  | many p least most, c =>
    ((List.range (longest p most c.ahead + 1)).reverse.filter (least ≤ ·)).map c.advance
  | boundary word, c => if c.behind.head?.any word != c.ahead.head?.any word then [c] else []
  | cat r s, c => (r.run c).flatMap s.run
  | alt r s, c => r.run c ++ s.run c
  | group i r, c => (r.run c).map fun d => { d with groups := (i, c.since d) :: d.groups }

/-- `r?`. -/
def opt (r : Expr α) : Expr α := alt r empty

/-- One after the other. -/
def seq (rs : List (Expr α)) : Expr α := rs.foldr cat empty

/-- The first that matches. -/
def oneOf (rs : List (Expr α)) : Expr α :=
  match rs with
  | [] => set fun _ => false
  | [r] => r
  | r :: rs => alt r (oneOf rs)

/-- The match at the first position that has one, with where it starts. -/
def searchFrom (r : Expr α) : List α → List α → Option (Cursor α × Cursor α)
  | behind, [] => (r.run ⟨behind, [], []⟩).head?.map fun e => (⟨behind, [], []⟩, e)
  | behind, a :: rest =>
    match (r.run ⟨behind, a :: rest, []⟩).head? with
    | some e => some (⟨behind, a :: rest, []⟩, e)
    | none => searchFrom r (a :: behind) rest

def search (r : Expr α) (text : List α) : Option (Cursor α × Cursor α) := searchFrom r [] text

/-- The matches that do not overlap, from left to right, of an expression that
matches no empty text. `skip` counts the letters of the current match still ahead. -/
def findFrom (r : Expr α) : Nat → List α → List α → List (Cursor α × Cursor α)
  | _, _, [] => []
  | skip + 1, behind, a :: rest => findFrom r skip (a :: behind) rest
  | 0, behind, a :: rest =>
    let start : Cursor α := ⟨behind, a :: rest, []⟩
    match (r.run start).head? with
    | some e => (start, e) :: findFrom r ((start.since e).length - 1) (a :: behind) rest
    | none => findFrom r 0 (a :: behind) rest

/-- `findall` of an expression with one group. -/
def findAll (r : Expr α) (i : Nat) (text : List α) : List (List α) :=
  (findFrom r 0 [] text).filterMap fun m => m.2.group i

/-- `sub`: `new` in place of every match, under the same proviso. -/
def replaceFrom (r : Expr α) (new : List α) : Nat → List α → List α → List α
  | _, _, [] => []
  | skip + 1, behind, a :: rest => replaceFrom r new skip (a :: behind) rest
  | 0, behind, a :: rest =>
    let start : Cursor α := ⟨behind, a :: rest, []⟩
    match (r.run start).head? with
    | some e => new ++ replaceFrom r new ((start.since e).length - 1) (a :: behind) rest
    | none => a :: replaceFrom r new 0 (a :: behind) rest

def replaceAll (r : Expr α) (new text : List α) : List α := replaceFrom r new 0 [] text

end Expr

end Regex
