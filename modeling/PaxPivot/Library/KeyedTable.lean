import Mathlib
import PaxPivot.Library.DistinctKeys
import PaxPivot.Library.Statements

/-!
# Keyed tables

A table is its list of rows, read by key. A list of `INSERT … ON CONFLICT (key) DO NOTHING`
adds the rows that are `missing`. A list of `UPDATE … SET … WHERE …`, each confined to a key of
its own, changes a row at most once, as `settle` says.
-/

namespace KeyedTable

variable {R K A : Type*}

def updateWhere (chosen : R → Bool) (set : R → R) (rows : List R) : List R :=
  rows.map fun r => if chosen r then set r else r

/-- What a list of updates does to one row. -/
def settle (chosen : A → R → Bool) (set : A → R → R) (refs : List A) (r : R) : R :=
  refs.foldl (fun r a => if chosen a r then set a r else r) r

variable [DecidableEq K] (key : R → K)

/-- The row stored under a key. -/
def find (rows : List R) (k : K) : Option R := rows.find? fun r => key r = k

/-- The rows of `new` whose key is not in the table. -/
def missing (rows new : List R) : List R := new.filter fun r => (find key rows (key r)).isNone

variable {key} {rows new : List R} {row r : R} {k : K}

theorem find_eq_none_iff : find key rows k = none ↔ k ∉ rows.map key := by
  unfold find
  rw [List.find?_eq_none]
  simp

theorem find_eq_some_iff (distinct : (rows.map key).Nodup) :
    find key rows k = some r ↔ r ∈ rows ∧ key r = k :=
  DistinctKeys.find?_eq_some_iff distinct

theorem key_of_find (h : find key rows k = some r) : key r = k := by
  simpa using List.find?_some h

theorem find_append (new : List R) :
    find key (rows ++ new) k = (find key rows k).or (find key new k) :=
  List.find?_append

/-! ## Inserts -/

theorem missing_cons :
    missing key rows (row :: new) = missing key rows [row] ++ missing key rows new := by
  unfold missing
  rw [← List.filter_append, List.singleton_append]

theorem missing_eq_nil_iff :
    missing key rows new = [] ↔ ∀ r ∈ new, (find key rows (key r)).isSome = true := by
  unfold missing
  rw [List.filter_eq_nil_iff]
  simp only [Bool.not_eq_true, Option.isNone_eq_false_iff]

theorem missing_eq_self_iff :
    missing key rows new = new ↔ ∀ r ∈ new, find key rows (key r) = none := by
  unfold missing
  rw [List.filter_eq_self]
  simp only [Option.isNone_iff_eq_none]

omit [DecidableEq K] in
/-- A key with another row is a key still. -/
theorem append_singleton_distinct (distinct : (rows.map key).Nodup)
    (fresh : ∀ q ∈ rows, key q ≠ key r) : ((rows ++ [r]).map key).Nodup := by
  rw [List.map_append, List.map_singleton]
  apply List.Nodup.append distinct (List.nodup_singleton _)
  rw [List.disjoint_singleton, List.mem_map]
  rintro ⟨q, hq, hkey⟩
  exact fresh q hq hkey

/-- Rows with other keys do not count towards what is missing. -/
theorem missing_append_of_forall {others : List R}
    (apart : ∀ r ∈ new, ∀ q ∈ others, key q ≠ key r) :
    missing key (rows ++ others) new = missing key rows new := by
  unfold missing
  apply List.filter_congr
  intro r hr
  have hnone : find key others (key r) = none := by
    rw [find_eq_none_iff]
    intro hmem
    obtain ⟨q, hq, hkey⟩ := List.mem_map.1 hmem
    exact apart r hr q hq hkey
  rw [find_append, hnone, Option.or_none]

/-- Once the first of several rows is in, the others are as missing as they were. -/
theorem missing_append_missing (distinct : ((row :: new).map key).Nodup) :
    missing key rows [row] ++ missing key (rows ++ missing key rows [row]) new =
      missing key rows (row :: new) := by
  have hrow := (List.nodup_cons.1 distinct).1
  have apart : ∀ r ∈ new, ∀ q ∈ missing key rows [row], key q ≠ key r := by
    intro r hr q hq hkey
    rw [List.mem_singleton.1 (List.mem_of_mem_filter hq)] at hkey
    exact hrow (hkey ▸ List.mem_map_of_mem hr)
  rw [missing_append_of_forall apart, ← missing_cons]

section Run

variable {S E : Type*} {step : S → A → Except E S} {add : S → List R → S} {row : A → R}
  {s s' : S} {l : List A}

/-- Where an insert adds its row if that is missing, inserts of rows with different keys add the
ones that were missing before the first of them. -/
theorem run_eq (table : S → List R) (table_add : ∀ s rows, table (add s rows) = table s ++ rows)
    (add_nil : ∀ s, add s [] = s) (add_add : ∀ s a b, add (add s a) b = add s (a ++ b))
    (one : ∀ s a s', step s a = .ok s' → s' = add s (missing key (table s) [row a]))
    (distinct : ((l.map row).map key).Nodup) (h : l.foldlM step s = .ok s') :
    s' = add s (missing key (table s) (l.map row)) := by
  induction l generalizing s with
  | nil =>
    cases h
    exact (add_nil _).symm
  | cons a l ih =>
    obtain ⟨s₁, hfirst, hrest⟩ := Statements.cons_ok_iff.1 h
    rw [ih (List.nodup_cons.1 distinct).2 hrest, one s a s₁ hfirst, table_add, add_add]
    congr 1
    exact missing_append_missing distinct

end Run

/-- A key is read from the table first, then from the rows that were missing. -/
theorem find_append_missing :
    find key (rows ++ missing key rows new) k = (find key rows k).or (find key new k) := by
  rw [find_append]
  cases h : find key rows k with
  | some r => rfl
  | none =>
    rw [Option.none_or, Option.none_or]
    unfold missing find
    rw [List.find?_filter]
    apply List.find?_congr
    intro r hr
    by_cases hk : key r = k
    · subst hk
      simp only [find] at h
      simp [h]
    · simp [hk]

/-- Counting what a table gained, row by row. -/
theorem countP_gained :
    (rows ++ missing key rows new).countP (fun r => decide (find key rows (key r) = none)) =
      (missing key rows new).length := by
  have old : rows.countP (fun r => decide (find key rows (key r) = none)) = 0 := by
    rw [List.countP_eq_zero]
    intro r hr
    rw [decide_eq_true_eq, find_eq_none_iff]
    exact fun h => h (List.mem_map_of_mem hr)
  have gained : (missing key rows new).countP (fun r => decide (find key rows (key r) = none)) =
      (missing key rows new).length := by
    rw [List.countP_eq_length]
    intro r hr
    simpa using (List.mem_filter.1 hr).2
  rw [List.countP_append, old, gained, Nat.zero_add]

/-- Changing rows under their keys changes what is read under a key. -/
theorem find_map {f : R → R} (keeps : ∀ r, key (f r) = key r) :
    find key (rows.map f) k = (find key rows k).map f := by
  unfold find
  rw [List.find?_map]
  congr 2
  funext r
  simp only [Function.comp_apply, keeps]

/-! ## Updates -/

section UpdateWhere

omit [DecidableEq K]

variable {chosen : R → Bool} {set : R → R}

/-- A column that an update does not set stays. -/
theorem map_updateWhere {B : Type*} {f : R → B} (keeps : ∀ r, f (set r) = f r) :
    (updateWhere chosen set rows).map f = rows.map f := by
  unfold updateWhere
  rw [List.map_map]
  apply List.map_congr_left
  intro r _
  by_cases h : chosen r = true <;> simp [h, keeps]

/-- What holds of every row and of every chosen one once it is set holds of the updated table. -/
theorem forall_mem_updateWhere {P : R → Prop} (kept : ∀ r ∈ rows, P r)
    (changed : ∀ r ∈ rows, chosen r = true → P (set r)) :
    ∀ r ∈ updateWhere chosen set rows, P r := by
  intro r hr
  obtain ⟨q, hq, rfl⟩ := List.mem_map.1 hr
  split
  case isTrue h => exact changed q hq h
  case isFalse => exact kept q hq

end UpdateWhere

theorem updateWhere_eq_self {chosen : R → Bool} {set : R → R}
    (h : ∀ r ∈ rows, chosen r = false) : updateWhere chosen set rows = rows := by
  unfold updateWhere
  rw [List.map_congr_left (g := id), List.map_id]
  intro r hr
  rw [h r hr]
  rfl

section Settle

omit [DecidableEq K]

variable {chosen : A → R → Bool} {set : A → R → R} {refs : List A} {a : A} {name : A → K}

theorem map_settle_cons :
    (updateWhere (chosen a) (set a) rows).map (settle chosen set refs) =
      rows.map (settle chosen set (a :: refs)) := by
  unfold updateWhere
  rw [List.map_map]
  rfl

theorem settle_of_forall (h : ∀ a ∈ refs, chosen a r = false) : settle chosen set refs r = r := by
  unfold settle
  induction refs with
  | nil => rfl
  | cons a refs ih =>
    rw [List.foldl_cons, h a List.mem_cons_self]
    exact ih fun b hb => h b (List.mem_cons_of_mem _ hb)

variable (names : ∀ a r, chosen a r = true → key r = name a) (keeps : ∀ a r, key (set a r) = key r)

include names keeps in
/-- Once its own update has been at a row, no other update is. -/
theorem not_chosen_set (distinct : ((a :: refs).map name).Nodup) (h : chosen a r = true) :
    ∀ b ∈ refs, chosen b (set a r) = false := by
  intro b hb
  rw [Bool.eq_false_iff]
  intro hchosen
  have hname : name b = name a := by
    rw [← names b _ hchosen, keeps, names a r h]
  exact (List.nodup_cons.1 distinct).1 (hname ▸ List.mem_map_of_mem hb)

include names keeps in
theorem settle_of_chosen (distinct : (refs.map name).Nodup) (ha : a ∈ refs)
    (h : chosen a r = true) : settle chosen set refs r = set a r := by
  induction refs with
  | nil => cases ha
  | cons b refs ih =>
    obtain ⟨hb, hrefs⟩ := List.nodup_cons.1 distinct
    rcases List.mem_cons.1 ha with rfl | ha
    · have rest : settle chosen set refs (set a r) = set a r :=
        settle_of_forall (not_chosen_set names keeps distinct h)
      unfold settle at rest ⊢
      rw [List.foldl_cons, h]
      exact rest
    · have hother : chosen b r = false := by
        rw [Bool.eq_false_iff]
        intro hchosen
        have hname : name a = name b := by rw [← names a r h, ← names b r hchosen]
        exact hb (hname ▸ List.mem_map_of_mem ha)
      have rest := ih hrefs ha
      unfold settle at rest ⊢
      rw [List.foldl_cons, hother]
      exact rest

include names keeps in
/-- After a list of updates, none of them has anything left to do. -/
theorem not_chosen_settle (own : ∀ a r, chosen a (set a r) = false)
    (distinct : (refs.map name).Nodup) (ha : a ∈ refs) :
    chosen a (settle chosen set refs r) = false := by
  by_cases hany : ∃ b ∈ refs, chosen b r = true
  · obtain ⟨b, hb, hchosen⟩ := hany
    rw [settle_of_chosen names keeps distinct hb hchosen, Bool.eq_false_iff]
    intro h
    have hname : name a = name b := by rw [← names a _ h, keeps, names b r hchosen]
    rw [List.inj_on_of_nodup_map distinct ha hb hname, own] at h
    cases h
  · have none : ∀ b ∈ refs, chosen b r = false := by
      intro b hb
      rw [Bool.eq_false_iff]
      exact fun h => hany ⟨b, hb, h⟩
    rw [settle_of_forall none]
    exact none a ha

include keeps in
theorem settle_key : key (settle chosen set refs r) = key r := by
  unfold settle
  induction refs generalizing r with
  | nil => rfl
  | cons a refs ih =>
    rw [List.foldl_cons, ih]
    by_cases h : chosen a r = true <;> simp [h, keeps]

include names keeps in
/-- The updates of a list touch as many rows as there are rows that some update chooses. -/
theorem countP_chosen_cons (distinct : ((a :: refs).map name).Nodup) :
    rows.countP (chosen a) +
        (updateWhere (chosen a) (set a) rows).countP (fun r => refs.any (chosen · r)) =
      rows.countP fun r => (a :: refs).any (chosen · r) := by
  unfold updateWhere
  induction rows with
  | nil => rfl
  | cons r rows ih =>
    rw [List.map_cons, List.countP_cons, List.countP_cons, List.countP_cons, ← ih]
    cases h : chosen a r with
    | false =>
      simp only [List.any_cons, h, Bool.false_or, Bool.false_eq_true, ↓reduceIte]
      omega
    | true =>
      have hnone : refs.any (chosen · (set a r)) = false := by
        rw [List.any_eq_false]
        intro b hb
        rw [not_chosen_set names keeps distinct h b hb]
        exact Bool.false_ne_true
      simp only [List.any_cons, h, hnone, Bool.true_or, Bool.false_eq_true, ↓reduceIte]
      omega

end Settle

end KeyedTable
