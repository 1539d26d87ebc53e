import Mathlib
import PaxPivot.Library.CodePoints

/-!
# Lines of a text, and the last assignment of a key

Universal newlines and `str.splitlines`. A line added at the end of a text adds its
assignment behind those of the text, where it wins.
-/

namespace PyStr

/-! ## Newlines -/

/-- What reading a text file makes of its newlines; `cr` says whether the character
before was a carriage return. -/
def newlinesFrom (cr : Bool) : PyStr → PyStr
  | [] => []
  | c :: rest =>
    if c = point '\r' then point '\n' :: newlinesFrom true rest
    else if cr = true ∧ c = point '\n' then newlinesFrom false rest
    else c :: newlinesFrom false rest

def universalNewlines (text : PyStr) : PyStr := newlinesFrom false text

theorem newlinesFrom_append (cr : Bool) (text more : PyStr) (h : more.head? ≠ some (point '\n')) :
    newlinesFrom cr (text ++ more) = newlinesFrom cr text ++ newlinesFrom false more := by
  induction text generalizing cr with
  | nil =>
    cases more with
    | nil => rfl
    | cons c more =>
      have other : c ≠ point '\n' := fun same => h (by rw [same]; rfl)
      simp [newlinesFrom, other]
  | cons c text ih =>
    rw [List.cons_append, newlinesFrom, newlinesFrom]
    split
    · rw [ih, List.cons_append]
    · split
      · exact ih false
      · rw [ih, List.cons_append]

/-- A newline behind a text whose last line is open. -/
theorem newlinesFrom_append_newline (cr : Bool) {text : PyStr} (more : PyStr)
    (some_text : text ≠ []) (open_line : (newlinesFrom cr text).getLast? ≠ some (point '\n')) :
    newlinesFrom cr (text ++ point '\n' :: more) =
      newlinesFrom cr text ++ point '\n' :: newlinesFrom false more := by
  have newline : point '\n' ≠ point '\r' := by decide
  have last : ∀ (c : CodePoint) (read : PyStr), (c :: read).getLast? ≠ some (point '\n') →
      read.getLast? ≠ some (point '\n') := by
    intro c read h same
    exact h (by simp [List.getLast?_cons, same])
  induction text generalizing cr with
  | nil => exact absurd rfl some_text
  | cons c text ih =>
    rw [List.cons_append, newlinesFrom, newlinesFrom]
    rw [newlinesFrom] at open_line
    -- A carriage return at the very end would close the line.
    split at open_line
    case isTrue cr_here =>
      rw [if_pos cr_here, if_pos cr_here]
      cases text with
      | nil => exact absurd rfl open_line
      | cons d text => rw [ih true (by simp) (last _ _ open_line), List.cons_append]
    case isFalse other =>
      rw [if_neg other, if_neg other]
      have tail : ∀ read, newlinesFrom false text = read →
          read.getLast? ≠ some (point '\n') →
          newlinesFrom false (text ++ point '\n' :: more) =
            read ++ point '\n' :: newlinesFrom false more := by
        intro read hread open_read
        cases text with
        | nil =>
          subst hread
          simp [newlinesFrom, newline]
        | cons d text =>
          rw [← hread] at open_read ⊢
          exact ih false (by simp) open_read
      split at open_line
      case isTrue second =>
        rw [if_pos second, if_pos second]
        exact tail _ rfl open_line
      case isFalse plain =>
        rw [if_neg plain, if_neg plain, tail _ rfl (last _ _ open_line), List.cons_append]

/-- A text without carriage returns is read as it is. -/
theorem newlinesFrom_self {text : PyStr} (h : point '\r' ∉ text) :
    newlinesFrom false text = text := by
  induction text with
  | nil => rfl
  | cons c text ih =>
    have first : c ≠ point '\r' := fun same => h (same ▸ List.mem_cons_self)
    rw [newlinesFrom, if_neg first, if_neg (by simp),
      ih fun hmem => h (List.mem_cons_of_mem c hmem)]

/-! ## Lines -/

def isLineEnd (c : CodePoint) : Bool :=
  decide (c.val ∈ [0xA, 0xB, 0xC, 0xD, 0x1C, 0x1D, 0x1E, 0x85, 0x2028, 0x2029])

/-- The lines from `line` on, which is read backwards; `cr` as above. -/
def splitlinesFrom (cr : Bool) (line : PyStr) : PyStr → List PyStr
  | [] => if line = [] then [] else [line.reverse]
  | c :: rest =>
    if cr = true ∧ c = point '\n' then splitlinesFrom false line rest
    else if isLineEnd c then line.reverse :: splitlinesFrom (c = point '\r') [] rest
    else splitlinesFrom false (c :: line) rest

/-- `text.splitlines()`. -/
def splitlines (text : PyStr) : List PyStr := splitlinesFrom false [] text

/-- A newline closes its line. -/
theorem splitlinesFrom_append {cr : Bool} {line : PyStr} (fresh : cr = true → line = [])
    (text more : PyStr) :
    splitlinesFrom cr line (text ++ point '\n' :: more) =
      splitlinesFrom cr line (text ++ [point '\n']) ++ splitlinesFrom false [] more := by
  have newline : isLineEnd (point '\n') = true := by decide
  have ne : point '\n' ≠ point '\r' := by decide
  induction text generalizing cr line with
  | nil =>
    cases cr with
    | true => simp [splitlinesFrom, fresh rfl]
    | false => simp [splitlinesFrom, newline, ne]
  | cons c text ih =>
    simp only [List.cons_append, splitlinesFrom]
    split
    · exact ih (by simp)
    · split
      · rw [ih (fun _ => rfl), List.cons_append]
      · exact ih (by simp)

/-! ## Assignments -/

/-- The key and the value of a line `KEY=VALUE`. -/
def assignment (line : PyStr) : Option (PyStr × PyStr) :=
  if line.contains (point '=') then
    some (line.takeWhile (· ≠ point '='), (line.dropWhile (· ≠ point '=')).tail)
  else none

def assignments (text : PyStr) : List (PyStr × PyStr) := (splitlines text).filterMap assignment

/-- The value of the last assignment of a key. -/
def lastValue (key : PyStr) (pairs : List (PyStr × PyStr)) : Option PyStr :=
  (pairs.reverse.find? fun pair => pair.1 = key).map (·.2)

theorem lastValue_append (key : PyStr) (pairs more : List (PyStr × PyStr)) :
    lastValue key (pairs ++ more) = (lastValue key more).or (lastValue key pairs) := by
  unfold lastValue
  rw [List.reverse_append, List.find?_append]
  cases more.reverse.find? fun pair => pair.1 = key <;> rfl

/-- A newline at the end assigns nothing. -/
theorem assignments_newline (text : PyStr) :
    assignments (text ++ [point '\n']) = assignments text := by
  have newline : isLineEnd (point '\n') = true := by decide
  have empty : assignment [] = none := rfl
  have all : ∀ (cr : Bool) (line : PyStr), (cr = true → line = []) →
      (splitlinesFrom cr line (text ++ [point '\n'])).filterMap assignment =
        (splitlinesFrom cr line text).filterMap assignment := by
    induction text with
    | nil =>
      intro cr line fresh
      cases cr with
      | true => simp [splitlinesFrom, fresh rfl]
      | false =>
        by_cases hline : line = []
        · simp [splitlinesFrom, newline, hline, empty]
        · simp [splitlinesFrom, newline, hline]
    | cons c text ih =>
      intro cr line fresh
      simp only [List.cons_append, splitlinesFrom]
      split
      · exact ih false line (by simp)
      · split
        · simp only [List.filterMap_cons, ih _ [] fun _ => rfl]
        · exact ih false (c :: line) (by simp)
  exact all false [] (by simp)

/-- **Lines added behind a closed line** assign after those of the text. -/
theorem assignments_append_newline (text more : PyStr) :
    assignments (text ++ point '\n' :: more) = assignments text ++ assignments more := by
  have split : splitlines (text ++ point '\n' :: more) =
      splitlines (text ++ [point '\n']) ++ splitlines more :=
    splitlinesFrom_append (by simp) text more
  rw [assignments, split, List.filterMap_append]
  exact congrArg (· ++ assignments more) (assignments_newline text)

end PyStr
