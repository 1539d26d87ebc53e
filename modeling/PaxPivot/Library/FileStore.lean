import Mathlib

/-!
# A directory of files under steps

A directory is made or not, and holds files only once it is made. What is seen of
a state after a run of steps was seen at the start, or came with the last step
that changed it.
-/

namespace FileStore

/-- Files by name. -/
@[ext]
structure Directory (N C : Type*) where
  made : Bool
  files : N → Option C
  inside : made = false → ∀ name, files name = none

variable {N C : Type*}

/-- No directory there. -/
def Directory.missing : Directory N C := ⟨false, fun _ => none, fun _ _ => rfl⟩

/-- Make the directory if it is missing. -/
def Directory.mkdir (d : Directory N C) : Directory N C :=
  { d with made := true, inside := by simp }

/-- Write a file, or take it away with `none`, in a directory that is made. -/
def Directory.put [DecidableEq N] (d : Directory N C) (name : N) (content : Option C) :
    Directory N C :=
  ⟨true, Function.update d.files name content, by simp⟩

@[simp] theorem Directory.mkdir_files (d : Directory N C) : d.mkdir.files = d.files := rfl

@[simp] theorem Directory.put_self [DecidableEq N] (d : Directory N C) (name : N)
    (content : Option C) : (d.put name content).files name = content := by
  simp [Directory.put]

theorem Directory.put_other [DecidableEq N] (d : Directory N C) {name other : N}
    (content : Option C) (h : other ≠ name) : (d.put name content).files other = d.files other := by
  simp [Directory.put, h]

/-- **Last change.** What is seen after a run was seen before it, or a step of the run
changed it and it has been so since. -/
theorem foldl_eq_or_changed {S M A : Type*} (step : S → M → S) (see : S → A) (ms : List M) (s : S) :
    see (ms.foldl step s) = see s ∨
      ∃ before m after, ms = before ++ m :: after ∧
        see (step (before.foldl step s) m) ≠ see (before.foldl step s) ∧
        see (ms.foldl step s) = see (step (before.foldl step s) m) := by
  induction ms using List.reverseRecOn with
  | nil => exact .inl rfl
  | append_singleton init m ih =>
    have last : (init ++ [m]).foldl step s = step (init.foldl step s) m := by simp
    rw [last]
    by_cases same : see (step (init.foldl step s) m) = see (init.foldl step s)
    · rw [same]
      obtain kept | ⟨before, m', after, hsplit, changed, since⟩ := ih
      · exact .inl kept
      · right
        exact ⟨before, m', after ++ [m], by simp [hsplit], changed, since⟩
    · right
      exact ⟨init, m, [], rfl, same, rfl⟩

end FileStore
