import Mathlib
import PaxPivot.Application.Parsers.AmcPageTime
import PaxPivot.Library.RegexSearch
import PaxPivot.Infrastructure.Providers.Firecrawl

/-!
# Which stamp decides

A header is the wording in front of a stamp's day. `parse_page_time` is to answer
with the stamp of the first header or not at all; what it answers with is the first
text of the whole shape of a stamp.
-/

namespace PaxPivot

open Regex (Expr Cursor Place First)
open PyStr (ofString literal spaces digits)

/-- `current as` or `current as of`, up to the day. -/
def heading : List (Expr CodePoint) :=
  [literal "current", spaces, literal "as", spaces, .opt (.seq [literal "of", spaces])]

def stampHeader : Expr CodePoint := .seq (heading ++ [.set fun c => (PyStr.decimalValue c).isSome])

/-- A place that starts a stamp also starts a header. -/
theorem header_of_stamp (lib : PyLib) (c : Cursor CodePoint) (h : (stamp lib).run c ≠ []) :
    stampHeader.run c ≠ [] := by
  have parts : stamp lib = .seq (heading ++
      [.group 1 (digits 1 2), spaces, .group 2 monthToken, .opt (literal "."), .opt (literal ","),
        spaces, .group 3 (digits 4 4), .opt (literal ","), .opt stampTime,
        .boundary lib.isWord]) := rfl
  rw [parts, Expr.run_seq_append] at h
  rw [stampHeader, Expr.run_seq_append]
  simp only [ne_eq, List.flatMap_eq_nil_iff, not_forall] at h ⊢
  obtain ⟨d, hd, day⟩ := h
  refine ⟨d, hd, fun noDigit => day ?_⟩
  -- Without a digit ahead the day matches nothing.
  have zero : (d.ahead.takeWhile fun c => (PyStr.decimalValue c).isSome) = [] := by
    cases hahead : d.ahead with
    | nil => rfl
    | cons a rest =>
      have other : (PyStr.decimalValue a).isSome = false := by
        by_contra digit
        rw [Bool.not_eq_false] at digit
        simp [Expr.seq, Expr.run, hahead, digit] at noDigit
      simp only [List.takeWhile, other]
  rw [Expr.run_seq_cons]
  simp [Expr.run, digits, Expr.longest, zero]

/-! ## Complete stamps -/

/-- The number a group of a match writes. -/
def stampValue (stop : Cursor CodePoint) (i : Nat) : Nat := PyStr.number ((stop.group i).getD [])

def stampMonth (lib : PyLib) (stop : Cursor CodePoint) : Option Nat :=
  monthNumber lib ((stop.group 2).getD [])

/-- The groups of the clock: those after `at`, or those in front of `L`. -/
def stampClock (stop : Cursor CodePoint) : Nat × Nat :=
  if (stop.group 4).isSome then (4, 5) else (6, 7)

def stampFields (stop : Cursor CodePoint) (month : Nat) : CivilFields :=
  { year := stampValue stop 3, month, day := stampValue stop 1
    hour := stampValue stop (stampClock stop).1, minute := stampValue stop (stampClock stop).2 }

def YearInRange (stop : Cursor CodePoint) : Prop :=
  yearMin ≤ stampValue stop 3 ∧ stampValue stop 3 ≤ yearMax

theorem readStamp_of_year {lib : PyLib} {start stop : Cursor CodePoint} (year : YearInRange stop) :
    readStamp lib start stop =
      match stampMonth lib stop with
      | none => .error .keyError
      | some month =>
        .ok ((stampFields stop month).datetime.map fun localTime =>
          { localTime, hasTime := (stop.group (stampClock stop).1).isSome
            text := PyStr.strip (start.since stop) }) :=
  if_neg (not_not.2 year)

theorem readStamp_of_not_year {lib : PyLib} {start stop : Cursor CodePoint}
    (year : ¬ YearInRange stop) : readStamp lib start stop = .ok none :=
  if_pos year

theorem CivilFields.datetime_isSome (t : CivilFields) : t.datetime.isSome = t.accepted := by
  unfold CivilFields.datetime
  split <;> simp_all

theorem CivilFields.datetime_eq_none {t : CivilFields} :
    t.datetime = none ↔ t.accepted = false := by
  rw [← CivilFields.datetime_isSome, ← Option.not_isSome_iff_eq_none, Bool.not_eq_true]

/-- The text at `start` is a stamp with a known month, a year in range and a real
date and clock time. -/
structure CompleteStamp (lib : PyLib) (start : Cursor CodePoint) : Prop where
  complete : ∃ stop month, ((stamp lib).run start).head? = some stop ∧ YearInRange stop ∧
    stampMonth lib stop = some month ∧ (stampFields stop month).accepted = true

theorem completeStamp_iff {lib : PyLib} {start stop : Cursor CodePoint}
    (hstop : ((stamp lib).run start).head? = some stop) :
    CompleteStamp lib start ↔ YearInRange stop ∧
      ∃ month, stampMonth lib stop = some month ∧ (stampFields stop month).accepted = true := by
  constructor
  · rintro ⟨stop', month, hstop', year, hmonth, accepted⟩
    obtain rfl : stop = stop' := by simpa [hstop] using hstop'
    exact ⟨year, month, hmonth, accepted⟩
  · rintro ⟨year, month, hmonth, accepted⟩
    exact ⟨stop, month, hstop, year, hmonth, accepted⟩

/-- The first header of the page decides alone: unless a complete stamp starts
there, the page has no time. -/
def HeaderDecides (lib : PyLib) (document : PyStr) : Prop :=
  ∀ text, cleanText lib document = some text → ∀ header, First stampHeader text header →
    ¬ CompleteStamp lib header → parsePageTime lib document = .ok none

/-- The first text shaped like a stamp, when its year is in range, has a month name
of the table, and unless it stands at the first header its date or time is impossible. -/
def HeaderHolds (lib : PyLib) (document : PyStr) : Prop :=
  ∀ text, cleanText lib document = some text → ∀ header, First stampHeader text header →
    ∀ start, First (stamp lib) text start →
      ∀ stop, ((stamp lib).run start).head? = some stop → YearInRange stop →
        ∃ month, stampMonth lib stop = some month ∧
          (start = header ∨ (stampFields stop month).accepted = false)

/-- What is read at a header without a complete stamp is no time. -/
theorem readStamp_of_not_complete {lib : PyLib} {start stop : Cursor CodePoint} {month : Nat}
    (hstop : ((stamp lib).run start).head? = some stop) (hmonth : stampMonth lib stop = some month)
    (h : ¬ CompleteStamp lib start) : readStamp lib start stop = .ok none := by
  by_cases year : YearInRange stop
  · have refused : (stampFields stop month).accepted = false := by
      by_contra accepted
      exact h ((completeStamp_iff hstop).2 ⟨year, month, hmonth, by simpa using accepted⟩)
    simp [readStamp_of_year year, hmonth, CivilFields.datetime_eq_none.2 refused]
  · exact readStamp_of_not_year year

section Search

variable {lib : PyLib} {document text : PyStr}

theorem parsePageTime_of_first (clean : cleanText lib document = some text)
    {start stop : Cursor CodePoint} (first : First (stamp lib) text start)
    (hstop : ((stamp lib).run start).head? = some stop) :
    parsePageTime lib document = readStamp lib start stop := by
  simp [parsePageTime, clean, Expr.search_eq_some_iff.2 ⟨first, hstop⟩]

theorem parsePageTime_of_no_stamp (clean : cleanText lib document = some text)
    (h : ∀ start, ¬ First (stamp lib) text start) : parsePageTime lib document = .ok none := by
  simp only [parsePageTime, clean]
  cases hsearch : (stamp lib).search text with
  | none => rfl
  | some found => exact absurd (Expr.search_eq_some_iff.1 hsearch).1 (h found.1)

end Search

/-- The first header decides exactly on the pages where no later text reads as a
stamp and no month name is one the table lacks. -/
theorem headerDecides_iff (lib : PyLib) (document : PyStr) :
    HeaderDecides lib document ↔ HeaderHolds lib document := by
  constructor
  · intro decides text clean header hheader start hstart stop hstop year
    by_cases same : start = header
    · subst same
      cases hmonth : stampMonth lib stop with
      | some month => exact ⟨month, rfl, .inl rfl⟩
      | none =>
        have incomplete : ¬ CompleteStamp lib start := by
          simp [completeStamp_iff hstop, hmonth]
        have answer := decides text clean start hheader incomplete
        rw [parsePageTime_of_first clean hstart hstop, readStamp_of_year year, hmonth] at answer
        cases answer
    · have later := First.lt_of_ne (header_of_stamp lib) hheader hstart same
      have incomplete : ¬ CompleteStamp lib header := by
        rintro ⟨stop', month, hstop', -⟩
        rw [hstart.before header hheader.place later] at hstop'
        cases hstop'
      have answer := decides text clean header hheader incomplete
      rw [parsePageTime_of_first clean hstart hstop, readStamp_of_year year] at answer
      cases hmonth : stampMonth lib stop with
      | none =>
        rw [hmonth] at answer
        cases answer
      | some month =>
        rw [hmonth] at answer
        exact ⟨month, rfl, .inr (CivilFields.datetime_eq_none.1 (by simpa using answer))⟩
  · intro holds text clean header hheader incomplete
    by_cases stamped : ∃ start, First (stamp lib) text start
    · obtain ⟨start, hstart⟩ := stamped
      obtain ⟨stop, hstop, -⟩ := Expr.exists_search hstart
      rw [parsePageTime_of_first clean hstart hstop]
      by_cases year : YearInRange stop
      · obtain ⟨month, hmonth, same | refused⟩ :=
          holds text clean header hheader start hstart stop hstop year
        · exact readStamp_of_not_complete hstop hmonth (same ▸ incomplete)
        · simp [readStamp_of_year year, hmonth, CivilFields.datetime_eq_none.2 refused]
      · exact readStamp_of_not_year year
    · exact parsePageTime_of_no_stamp clean fun start hstart => stamped ⟨start, hstart⟩

/-- A header with an unknown month in front of a notice. -/
def mangledPage : PyStr := ofString "Current as of 11 Foo 2026. Current as of 1 JAN 2026"

/-- The notice answers for the mangled header. -/
theorem mangledPage_falls_through : ¬ HeaderDecides plainLib mangledPage := by
  intro decides
  have clean : cleanText plainLib mangledPage = some mangledPage := by decide +kernel
  have header : stampHeader.run ⟨[], mangledPage, []⟩ ≠ [] := by decide +kernel
  have noStamp : (stamp plainLib).run ⟨[], mangledPage, []⟩ = [] := by decide +kernel
  have answered : parsePageTime plainLib mangledPage ≠ .ok none := by decide +kernel
  refine answered (decides mangledPage clean ⟨[], mangledPage, []⟩ ?_ ?_)
  · exact ⟨⟨rfl, rfl⟩, header, fun b _ h => absurd h (Nat.not_lt_zero _)⟩
  · rintro ⟨stop, month, hstop, -⟩
    rw [noStamp] at hstop
    cases hstop

end PaxPivot
