import Mathlib
import PaxPivot.Library.DistinctKeys

/-!
# Supersession in an append-only history

Rows with an identity, a group and an optional reference to the row they
supersede. An append is accepted when the identity is fresh and the reference
names a row of the same group that is already there. References then point
backwards, so the last row of a group is superseded by nothing.
-/

namespace Supersession

variable {α ι κ : Type*} (ident : α → ι) (group : α → κ) (supersedes : α → Option ι)

/-- The constraints on one appended row: primary key and same-group foreign key. -/
structure Accepts (rows : List α) (row : α) : Prop where
  fresh : ∀ r ∈ rows, ident r ≠ ident row
  reference : ∀ i ∈ supersedes row, ∃ r ∈ rows, ident r = i ∧ group r = group row

/-- The histories that accepted appends lead to. -/
inductive Reachable : List α → Prop where
  | empty : Reachable []
  | append {rows : List α} {row : α} (before : Reachable rows)
      (accepted : Accepts ident group supersedes rows row) : Reachable (rows ++ [row])

/-- `rows'` is a later state of `rows`. -/
inductive Later (rows : List α) : List α → Prop where
  | refl : Later rows rows
  | append {rows' : List α} {row : α} (before : Later rows rows')
      (accepted : Accepts ident group supersedes rows' row) : Later rows (rows' ++ [row])

/-- The rows whose identity no row supersedes. -/
def leaves [DecidableEq ι] (rows : List α) : List α :=
  rows.filter fun row => ident row ∉ rows.filterMap supersedes

variable {ident group supersedes} {rows rows' : List α} {row : α}

theorem Later.extends_rows (h : Later ident group supersedes rows rows') : rows <+: rows' := by
  induction h with
  | refl => exact List.prefix_refl _
  | append before accepted ih => exact ih.trans (List.prefix_append _ _)

theorem Reachable.later (h : Reachable ident group supersedes rows)
    (hl : Later ident group supersedes rows rows') : Reachable ident group supersedes rows' := by
  induction hl with
  | refl => exact h
  | append before accepted ih => exact .append ih accepted

theorem Reachable.distinct (h : Reachable ident group supersedes rows) :
    (rows.map ident).Nodup := by
  induction h with
  | empty => exact List.nodup_nil
  | append before accepted ih =>
    rw [List.map_append, List.map_singleton, ← List.concat_eq_append, List.nodup_concat]
    refine ⟨?_, ih⟩
    simpa using accepted.fresh

/-- What a reference names is a stored row of the same group. -/
theorem Reachable.reference (h : Reachable ident group supersedes rows) (hrow : row ∈ rows)
    {i : ι} (hi : supersedes row = some i) :
    ∃ r ∈ rows, ident r = i ∧ group r = group row := by
  induction h with
  | empty => cases hrow
  | @append rows new before accepted ih =>
    have stored : ∃ r ∈ rows, ident r = i ∧ group r = group row := by
      rcases List.mem_append.1 hrow with hold | hnew
      · exact ih hold
      · obtain rfl := List.mem_singleton.1 hnew
        exact accepted.reference i hi
    obtain ⟨r, hr, hid, hgroup⟩ := stored
    exact ⟨r, List.mem_append_left _ hr, hid, hgroup⟩

section Leaves

variable [DecidableEq ι]

theorem mem_leaves_iff :
    row ∈ leaves ident supersedes rows ↔
      row ∈ rows ∧ ∀ r ∈ rows, supersedes r ≠ some (ident row) := by
  simp [leaves]

/-- **A leaf always remains.** The last row of a group is a leaf: whatever
superseded it would be a later row of the same group. -/
theorem Reachable.exists_leaf (h : Reachable ident group supersedes rows) (hrow : row ∈ rows) :
    ∃ l ∈ leaves ident supersedes rows, group l = group row := by
  induction h generalizing row with
  | empty => cases hrow
  | @append rows new before accepted ih =>
    have hdistinct := (Reachable.append before accepted).distinct
    by_cases hgroup : group new = group row
    · -- The new row itself: nothing stored before it can name it.
      refine ⟨new, mem_leaves_iff.2 ⟨by simp, fun r hr href => ?_⟩, hgroup⟩
      rcases List.mem_append.1 hr with hold | hnew
      · obtain ⟨q, hq, hid, -⟩ := before.reference hold href
        exact accepted.fresh q hq hid
      · obtain rfl := List.mem_singleton.1 hnew
        obtain ⟨q, hq, hid, -⟩ := accepted.reference _ href
        exact accepted.fresh q hq hid
    · -- A leaf of another group stays one: the new row names its own group.
      have hold : row ∈ rows := by
        rcases List.mem_append.1 hrow with hold | hnew
        · exact hold
        · exact absurd (by rw [List.mem_singleton.1 hnew]) hgroup
      obtain ⟨l, hl, hlgroup⟩ := ih hold
      rw [mem_leaves_iff] at hl
      refine ⟨l, mem_leaves_iff.2 ⟨List.mem_append_left _ hl.1, fun r hr href => ?_⟩, hlgroup⟩
      rcases List.mem_append.1 hr with hr | hr
      · exact hl.2 r hr href
      · obtain rfl := List.mem_singleton.1 hr
        obtain ⟨q, hq, hid, hqgroup⟩ := accepted.reference _ href
        obtain rfl := DistinctKeys.eq_of_key_eq before.distinct hq hl.1 hid
        exact hgroup (hqgroup.symm.trans hlgroup)

/-- Once superseded, never a leaf again. -/
theorem Later.not_mem_leaves (hl : Later ident group supersedes rows rows') {r : α} (hr : r ∈ rows)
    (href : supersedes r = some (ident row)) : row ∉ leaves ident supersedes rows' :=
  fun h => (mem_leaves_iff.1 h).2 r (hl.extends_rows.subset hr) href

/-- An append leaves the leaves of every other group as they were. -/
theorem Reachable.leaves_append (h : Reachable ident group supersedes rows)
    (accepted : Accepts ident group supersedes rows row) [DecidableEq κ] {k : κ}
    (hk : k ≠ group row) :
    (leaves ident supersedes (rows ++ [row])).filter (fun r => group r = k) =
      (leaves ident supersedes rows).filter fun r => group r = k := by
  unfold leaves
  rw [List.filter_append, List.filter_append, List.filter_filter, List.filter_filter,
    List.filter_filter]
  have hnew : [row].filter (fun r => decide (group r = k) &&
      decide (ident r ∉ (rows ++ [row]).filterMap supersedes)) = [] := by
    simp [Ne.symm hk]
  rw [hnew, List.append_nil]
  apply List.filter_congr
  intro r hr
  by_cases hrk : group r = k
  · have hsame : ident r ∈ (rows ++ [row]).filterMap supersedes ↔
        ident r ∈ rows.filterMap supersedes := by
      simp only [List.filterMap_append, List.mem_append, or_iff_left_iff_imp]
      intro hnamed
      obtain ⟨q, hq, hid⟩ := List.mem_filterMap.1 hnamed
      obtain rfl := List.mem_singleton.1 hq
      obtain ⟨q, hq, hid, hqgroup⟩ := accepted.reference _ hid
      obtain rfl := DistinctKeys.eq_of_key_eq h.distinct hq hr hid
      exact absurd (hrk.symm.trans hqgroup) hk
    simp only [hrk, hsame]
  · simp [hrk]

end Leaves

end Supersession
