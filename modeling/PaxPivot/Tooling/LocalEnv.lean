import Mathlib
import PaxPivot.Infrastructure.Providers.Firecrawl
import PaxPivot.Library.PyLines

/-!
# The local environment file

`write_env` of `tooling.py`: a fresh checkout gets a `.env` with an identity and
credentials; an existing file that shows no identity gets the legacy one at its end.
-/

namespace PaxPivot

open PyStr (ofString point universalNewlines assignments lastValue)

/-- Per-checkout Compose project name and loopback ports. -/
structure LocalIdentity where
  project : PyStr
  postgresPort : Nat
  redisPort : Nat
  deriving DecidableEq

def legacyIdentity : LocalIdentity := ⟨ofString "paxpivot", 55432, 56379⟩

/-- `local_identity` of the resolved path of a checkout. -/
def localIdentity (lib : PyLib) (root : PyStr) : LocalIdentity :=
  let digest := PyText.toHex 64 (lib.sha256 root).val
  let offset := ((PyText.int16 (digest.take 8)).getD 0).toNat % 4000
  { project := ofString "paxpivot-" ++ (digest.take 10).map point
    postgresPort := 50000 + offset, redisPort := 54000 + offset }

/-- A number in a format string. -/
def decimalText (n : Nat) : PyStr := (Nat.toDigits 10 n).map point

def envLines (identity : LocalIdentity) (password : Option PyStr) : List PyStr :=
  [ofString "COMPOSE_PROJECT_NAME=" ++ identity.project,
    ofString "POSTGRES_PORT=" ++ decimalText identity.postgresPort,
    ofString "REDIS_PORT=" ++ decimalText identity.redisPort] ++
  match password with
  | none => []
  | some password =>
    [ofString "POSTGRES_PASSWORD=" ++ password,
      ofString "DATABASE_URL=postgresql+psycopg://paxpivot:" ++ password ++
        ofString "@127.0.0.1:" ++ decimalText identity.postgresPort ++ ofString "/paxpivot",
      ofString "REDIS_URL=redis://127.0.0.1:" ++ decimalText identity.redisPort ++ ofString "/0"]

/-- `"\n".join(lines) + "\n"`. -/
def joinLines (lines : List PyStr) : PyStr := [point '\n'].intercalate lines ++ [point '\n']

/-- What `write_env` looks for. -/
def identityMark : PyStr := ofString "COMPOSE_PROJECT_NAME="

/-- What `write_env` puts behind a file without an identity. -/
def legacyBlock : PyStr := joinLines (envLines legacyIdentity none)

/-- The file of a checkout after `write_env`; `none` is a checkout without one. `token`
is the password drawn for it. -/
def writeEnv (lib : PyLib) (root token : PyStr) : Option PyStr → PyStr
  | none => joinLines (envLines (localIdentity lib root) (some token))
  | some file =>
    let existing := universalNewlines file
    if identityMark <:+: existing then file
    else
      file ++
        (if existing ≠ [] ∧ existing.getLast? ≠ some (point '\n') then [point '\n'] else []) ++
        legacyBlock

/-- The effective value of a key in a file of `KEY=VALUE` lines. -/
def envValue (file key : PyStr) : Option PyStr :=
  lastValue key (assignments (universalNewlines file))

def identityKeys : List PyStr :=
  [ofString "COMPOSE_PROJECT_NAME", ofString "POSTGRES_PORT", ofString "REDIS_PORT"]

/-! ## What is appended -/

/-- The assignments of the legacy identity. -/
def legacyPairs : List (PyStr × PyStr) :=
  [(ofString "COMPOSE_PROJECT_NAME", ofString "paxpivot"),
    (ofString "POSTGRES_PORT", ofString "55432"), (ofString "REDIS_PORT", ofString "56379")]

theorem assignments_legacyBlock : assignments legacyBlock = legacyPairs := by decide +kernel

/-- The block is plain text that begins and ends a line. -/
theorem legacyBlock_plain : point '\r' ∉ legacyBlock ∧ legacyBlock.head? ≠ some (point '\n') ∧
    identityMark <:+: legacyBlock := by
  refine ⟨by decide +kernel, by decide +kernel, ?_⟩
  decide +kernel

section Appended

variable (lib : PyLib) (root token : PyStr) {file : PyStr}

theorem writeEnv_marked (h : identityMark <:+: universalNewlines file) :
    writeEnv lib root token (some file) = file := if_pos h

/-- **The block is read behind the file**, on lines of its own. -/
theorem read_appended (h : ¬ identityMark <:+: universalNewlines file) :
    ∃ closed, universalNewlines (writeEnv lib root token (some file)) = closed ++ legacyBlock ∧
      assignments (closed ++ legacyBlock) =
        assignments (universalNewlines file) ++ legacyPairs := by
  obtain ⟨noReturn, noNewline, -⟩ := legacyBlock_plain
  have block : PyStr.newlinesFrom false legacyBlock = legacyBlock :=
    PyStr.newlinesFrom_self noReturn
  have written : writeEnv lib root token (some file) = file ++
      (if universalNewlines file ≠ [] ∧ (universalNewlines file).getLast? ≠ some (point '\n') then
        [point '\n'] else []) ++ legacyBlock := if_neg h
  rw [written]
  split
  case isTrue opened =>
    have some_file : file ≠ [] := by
      rintro rfl
      exact opened.1 rfl
    have read := PyStr.newlinesFrom_append_newline false legacyBlock some_file opened.2
    refine ⟨universalNewlines file ++ [point '\n'], ?_, ?_⟩
    · rw [List.append_assoc, List.singleton_append, List.append_assoc, List.singleton_append,
        universalNewlines, read, block]
      rfl
    · rw [List.append_assoc, List.singleton_append, PyStr.assignments_append_newline,
        assignments_legacyBlock]
  case isFalse closed =>
    refine ⟨universalNewlines file, ?_, ?_⟩
    · rw [List.append_nil, universalNewlines, PyStr.newlinesFrom_append _ _ _ noNewline, block]
      rfl
    · -- The file is empty, or its last line is closed.
      by_cases empty : universalNewlines file = []
      · rw [empty, List.nil_append, assignments_legacyBlock]
        rfl
      · have last : (universalNewlines file).getLast? = some (point '\n') := by
          by_contra other
          exact closed ⟨empty, other⟩
        obtain ⟨init, hinit⟩ := List.getLast?_eq_some_iff.1 last
        rw [hinit, List.append_assoc, List.singleton_append, PyStr.assignments_append_newline,
          PyStr.assignments_newline, assignments_legacyBlock]

theorem envValue_appended (h : ¬ identityMark <:+: universalNewlines file) (key : PyStr) :
    envValue (writeEnv lib root token (some file)) key =
      (lastValue key legacyPairs).or (envValue file key) := by
  obtain ⟨closed, read, pairs⟩ := read_appended lib root token h
  unfold envValue
  rw [read, pairs, PyStr.lastValue_append]

theorem marked_appended (h : ¬ identityMark <:+: universalNewlines file) :
    identityMark <:+: universalNewlines (writeEnv lib root token (some file)) := by
  obtain ⟨closed, read, -⟩ := read_appended lib root token h
  rw [read]
  exact legacyBlock_plain.2.2.trans (List.suffix_append _ _).isInfix

end Appended

theorem lastValue_legacy {key : PyStr} (h : key ∈ identityKeys) :
    (lastValue key legacyPairs).isSome = true := by
  have all : identityKeys.all (fun key => (lastValue key legacyPairs).isSome) = true := by
    decide +kernel
  exact List.all_eq_true.1 all key h

/-! ## Upgrading -/

/-- An upgrade rewrites no value, leaves an identity, and is made once. -/
structure Upgrades (lib : PyLib) (root token file : PyStr) : Prop where
  kept : ∀ key value, envValue file key = some value →
    envValue (writeEnv lib root token (some file)) key = some value
  identity : ∀ key ∈ identityKeys,
    (envValue (writeEnv lib root token (some file)) key).isSome = true
  again : writeEnv lib root token (some (writeEnv lib root token (some file))) =
    writeEnv lib root token (some file)

/-- The files on which the text `COMPOSE_PROJECT_NAME=` tells whether the file has an
identity: with it they assign all of the identity, without it nothing else than the
legacy one. -/
structure MarkTells (file : PyStr) : Prop where
  marked : identityMark <:+: universalNewlines file →
    ∀ key ∈ identityKeys, (envValue file key).isSome = true
  unmarked : ¬ identityMark <:+: universalNewlines file →
    ∀ key value old, lastValue key legacyPairs = some value → envValue file key = some old →
      old = value

/-- **An upgrade is made once**, on every file. -/
theorem writeEnv_again (lib : PyLib) (root token file : PyStr) :
    writeEnv lib root token (some (writeEnv lib root token (some file))) =
      writeEnv lib root token (some file) := by
  by_cases h : identityMark <:+: universalNewlines file
  · rw [writeEnv_marked lib root token h, writeEnv_marked lib root token h]
  · exact writeEnv_marked lib root token (marked_appended lib root token h)

/-- **`write_env` keeps the effective values and completes the identity exactly on the
files whose mark tells.** -/
theorem upgrades_iff (lib : PyLib) (root token file : PyStr) :
    Upgrades lib root token file ↔ MarkTells file := by
  by_cases h : identityMark <:+: universalNewlines file
  · have same : writeEnv lib root token (some file) = file :=
      writeEnv_marked lib root token h
    constructor
    · intro upgrades
      refine ⟨fun _ key hkey => ?_, fun unmarked => absurd h unmarked⟩
      have complete := upgrades.identity key hkey
      rwa [same] at complete
    · intro tells
      refine ⟨?_, ?_, writeEnv_again lib root token file⟩
      · rw [same]
        exact fun _ _ kept => kept
      · rw [same]
        exact tells.marked h
  · have appended := envValue_appended lib root token h
    constructor
    · intro upgrades
      refine ⟨fun marked => absurd marked h, ?_⟩
      intro _ key value old legacy hold
      have kept := upgrades.kept key old hold
      rw [appended, legacy] at kept
      exact (Option.some.inj kept).symm
    · intro tells
      refine ⟨?_, ?_, writeEnv_again lib root token file⟩
      · intro key value hvalue
        rw [appended]
        cases legacy : lastValue key legacyPairs with
        | none => exact hvalue
        | some new => exact congrArg some (tells.unmarked h key new value legacy hvalue).symm
      · intro key hkey
        rw [appended]
        obtain ⟨value, legacy⟩ := Option.isSome_iff_exists.1 (lastValue_legacy hkey)
        rw [legacy]
        rfl

/-- A file with a port of its own and no project name. -/
def portFile : PyStr := ofString "POSTGRES_PORT=6000\n"

/-- The port is overruled by the legacy one. -/
theorem portFile_overruled : ¬ Upgrades plainLib [] [] portFile := by
  intro upgrades
  have kept := upgrades.kept (ofString "POSTGRES_PORT") (ofString "6000") (by decide +kernel)
  revert kept
  decide +kernel

end PaxPivot
