import Mathlib
import PaxPivot.Base
import PaxPivot.Library.CodePoints

/-!
# The update stamp of a terminal page

`application/parsers/amc_page_time.py`: `Current as of 11 SEPTEMBER 2026 at 0350`.
The first stamp of the page decides alone; a page without one yields `none`.
-/

namespace PaxPivot

open Regex (Expr Cursor)
open PyStr (ofString point literal spaces anySpaces digits)

def parserVersion : Identifier := .lit "amc-page-time-v1"

/-- `<[^>]+>`. -/
def tags : Expr CodePoint :=
  .seq [.set (· = point '<'), .many (· ≠ point '>') 1 none, .set (· = point '>')]

def monthNames : List String :=
  ["january", "february", "march", "april", "may", "june", "july", "august", "september",
    "october", "november", "december"]

/-- `_MONTHS`: full names, three-letter forms and `sept`, in the dictionary's order. -/
def months : List (String × Nat) :=
  monthNames.zipIdx 1 ++
    ((monthNames.zipIdx 1).map fun m => (String.ofList (m.1.toList.take 3), m.2)).filter
      (fun m => m.1 ∉ monthNames) ++
    [("sept", 9)]

/-- `_MONTH_TOKEN`: the longer names first. -/
def monthToken : Expr CodePoint :=
  .oneOf (((months.map (·.1)).insertionSort fun a b => b.length ≤ a.length).map literal)

/-- The time needs the page's own "at" or a trailing "L". -/
def stampTime : Expr CodePoint :=
  .seq [anySpaces,
    .alt
      (.seq [literal "at", spaces, .group 4 (digits 2 2), .group 5 (digits 2 2), anySpaces,
        .opt (literal "l")])
      (.seq [.group 6 (digits 2 2), .group 7 (digits 2 2), anySpaces, literal "l"])]

/-- `_STAMP`. -/
def stamp (lib : PyLib) : Expr CodePoint :=
  .seq [literal "current", spaces, literal "as", spaces, .opt (.seq [literal "of", spaces]),
    .group 1 (digits 1 2), spaces, .group 2 monthToken, .opt (literal "."), .opt (literal ","),
    spaces, .group 3 (digits 4 4), .opt (literal ","), .opt stampTime, .boundary lib.isWord]

def yearMin : Nat := 2020

def yearMax : Nat := 2100

/-! ## Local times -/

structure CivilFields where
  year : Nat
  month : Nat
  day : Nat
  hour : Nat
  minute : Nat
  deriving DecidableEq

def daysInMonth (year month : Nat) : Nat :=
  if month = 2 then (if year % 4 = 0 ∧ (year % 100 ≠ 0 ∨ year % 400 = 0) then 29 else 28)
  else if month ∈ [4, 6, 9, 11] then 30 else 31

/-- What `datetime` accepts. -/
def CivilFields.accepted (t : CivilFields) : Bool :=
  decide (1 ≤ t.year ∧ t.year ≤ 9999) && decide (1 ≤ t.month ∧ t.month ≤ 12) &&
    decide (1 ≤ t.day ∧ t.day ≤ daysInMonth t.year t.month) && decide (t.hour < 24) &&
    decide (t.minute < 60)

/-- A `datetime` to the minute, without a zone. -/
structure CivilTime extends CivilFields where
  valid : toCivilFields.accepted = true
  deriving DecidableEq

/-- `datetime(year, month, day, hour, minute)`, `none` for `ValueError`. -/
def CivilFields.datetime (t : CivilFields) : Option CivilTime :=
  if h : t.accepted = true then some ⟨t, h⟩ else none

/-! ## The parser -/

/-- The page's own stamp; `hasTime` is false for a bare date. -/
structure PageTime where
  localTime : CivilTime
  hasTime : Bool
  text : PyStr
  deriving DecidableEq

/-- Tags become blanks, entities are unescaped, white space is collapsed; `none` for
`ValueError`. -/
def cleanText (lib : PyLib) (document : PyStr) : Option PyStr :=
  (lib.unescape (tags.replaceAll (ofString " ") document)).map (spaces.replaceAll (ofString " "))

/-- `_MONTHS[name.lower()]`, `none` for `KeyError`. -/
def monthNumber (lib : PyLib) (name : PyStr) : Option Nat :=
  (months.find? fun m => ofString m.1 = lib.lower name).map (·.2)

/-- What `parse_page_time` makes of a match from `start` to `stop`. -/
def readStamp (lib : PyLib) (start stop : Cursor CodePoint) : Except PyError (Option PageTime) :=
  let value (i : Nat) : Nat := PyStr.number ((stop.group i).getD [])
  let clock := if (stop.group 4).isSome then (4, 5) else (6, 7)
  if ¬ (yearMin ≤ value 3 ∧ value 3 ≤ yearMax) then .ok none
  else match monthNumber lib ((stop.group 2).getD []) with
    | none => .error .keyError
    | some month =>
      -- A group that took no part counts as 0, as `int(hour or 0)` does.
      let fields : CivilFields :=
        { year := value 3, month, day := value 1, hour := value clock.1, minute := value clock.2 }
      .ok (fields.datetime.map fun localTime =>
        { localTime, hasTime := (stop.group clock.1).isSome
          text := PyStr.strip (start.since stop) })

def parsePageTime (lib : PyLib) (document : PyStr) : Except PyError (Option PageTime) :=
  match cleanText lib document with
  | none => .error .valueError
  | some text =>
    match (stamp lib).search text with
    | none => .ok none
    | some (start, stop) => readStamp lib start stop

end PaxPivot
