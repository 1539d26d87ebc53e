import Mathlib

/-!
# Counting into a dictionary

`counts[k] = counts.get(k, 0) + 1` over a sequence of keys, on a dictionary kept
in insertion order. The result holds each key once, with its number of
occurrences.
-/

namespace Tally

variable {κ : Type*} [DecidableEq κ]

/-- `counts[k] = counts.get(k, 0) + 1`. -/
def bump (counts : List (κ × Nat)) (k : κ) : List (κ × Nat) :=
  match counts with
  | [] => [(k, 1)]
  | (q, n) :: rest => if q = k then (q, n + 1) :: rest else (q, n) :: bump rest k

def tally (keys : List κ) : List (κ × Nat) := keys.foldl bump []

/-- `counts` is the histogram of `keys`. -/
structure Exact (counts : List (κ × Nat)) (keys : List κ) : Prop where
  distinct : (counts.map Prod.fst).Nodup
  counted : ∀ k n, (k, n) ∈ counts ↔ 0 < n ∧ n = keys.count k

variable {counts : List (κ × Nat)} {keys : List κ} {k q : κ} {n : Nat}

theorem mem_keys_bump : q ∈ (bump counts k).map Prod.fst ↔ q = k ∨ q ∈ counts.map Prod.fst := by
  induction counts with
  | nil => simp [bump]
  | cons c rest ih =>
    obtain ⟨key, m⟩ := c
    unfold bump
    split
    · rename_i h
      subst h
      simp
    · simp only [List.map_cons, List.mem_cons, ih]
      tauto

theorem distinct_bump (h : (counts.map Prod.fst).Nodup) :
    ((bump counts k).map Prod.fst).Nodup := by
  induction counts with
  | nil => simp [bump]
  | cons c rest ih =>
    obtain ⟨key, m⟩ := c
    obtain ⟨hnew, hrest⟩ := List.nodup_cons.1 h
    unfold bump
    split
    · exact h
    · rename_i hne
      refine List.nodup_cons.2 ⟨fun hmem => ?_, ih hrest⟩
      exact (mem_keys_bump.1 hmem).elim hne hnew

theorem mem_bump_of_ne (hne : q ≠ k) : (q, n) ∈ bump counts k ↔ (q, n) ∈ counts := by
  induction counts with
  | nil => simp [bump, hne]
  | cons c rest ih =>
    obtain ⟨key, m⟩ := c
    unfold bump
    split
    · rename_i h
      subst h
      simp [hne]
    · simp only [List.mem_cons, ih]

theorem mem_bump_self (h : (counts.map Prod.fst).Nodup) :
    (k, n) ∈ bump counts k ↔
      (∃ m, (k, m) ∈ counts ∧ n = m + 1) ∨ (k ∉ counts.map Prod.fst ∧ n = 1) := by
  induction counts with
  | nil => simp [bump]
  | cons c rest ih =>
    obtain ⟨key, m⟩ := c
    obtain ⟨hnew, hrest⟩ := List.nodup_cons.1 h
    have notStored : ∀ m', (key, m') ∉ rest := fun m' h' => hnew (List.mem_map.2 ⟨_, h', rfl⟩)
    unfold bump
    split
    · rename_i heq
      subst heq
      simp [notStored]
    · rename_i hne
      have hne' : k ≠ key := fun h' => hne h'.symm
      simp [ih hrest, hne']

theorem Exact.bump (h : Exact counts keys) (k : κ) : Exact (bump counts k) (keys ++ [k]) := by
  refine ⟨distinct_bump h.distinct, fun q n => ?_⟩
  by_cases hq : q = k
  · subst hq
    have absent : q ∉ counts.map Prod.fst ↔ keys.count q = 0 := by
      constructor
      · intro hnot
        by_contra hpos
        exact hnot (List.mem_map.2 ⟨_, (h.counted q _).2 ⟨Nat.pos_of_ne_zero hpos, rfl⟩, rfl⟩)
      · intro hzero hmem
        obtain ⟨⟨key, m⟩, hm, rfl⟩ := List.mem_map.1 hmem
        have := (h.counted _ _).1 hm
        simp only at hzero
        omega
    rw [mem_bump_self h.distinct, List.count_append, absent]
    simp only [h.counted, List.count_singleton_self]
    constructor
    · rintro (⟨m, ⟨hpos, rfl⟩, rfl⟩ | ⟨hzero, rfl⟩) <;> omega
    · rintro ⟨hpos, rfl⟩
      rcases Nat.eq_zero_or_pos (keys.count q) with hzero | hpos
      · exact .inr ⟨hzero, by omega⟩
      · exact .inl ⟨_, ⟨hpos, rfl⟩, rfl⟩
  · rw [mem_bump_of_ne hq, h.counted, List.count_append, List.count_singleton,
      beq_false_of_ne (Ne.symm hq)]
    simp

/-- **The tally is the histogram of its keys.** -/
theorem exact_tally (keys : List κ) : Exact (tally keys) keys := by
  induction keys using List.reverseRecOn with
  | nil => exact ⟨List.nodup_nil, fun k n => by simp [tally]; omega⟩
  | append_singleton keys k ih =>
    rw [show tally (keys ++ [k]) = Tally.bump (tally keys) k by simp [tally]]
    exact ih.bump k

theorem sum_bump : ((bump counts k).map Prod.snd).sum = (counts.map Prod.snd).sum + 1 := by
  induction counts with
  | nil => rfl
  | cons c rest ih =>
    unfold bump
    split <;> simp only [List.map_cons, List.sum_cons] <;> omega

/-- A tally counts every key once. -/
theorem sum_tally (keys : List κ) : ((tally keys).map Prod.snd).sum = keys.length := by
  induction keys using List.reverseRecOn with
  | nil => rfl
  | append_singleton keys k ih =>
    rw [show tally (keys ++ [k]) = bump (tally keys) k by simp [tally], sum_bump, ih,
      List.length_append, List.length_singleton]

/-- Putting a histogram in another order does not change what it says. -/
theorem Exact.perm {counts' : List (κ × Nat)} (h : Exact counts keys) (hp : counts'.Perm counts) :
    Exact counts' keys :=
  ⟨(hp.map Prod.fst).nodup_iff.2 h.distinct, fun k n => hp.mem_iff.trans (h.counted k n)⟩

end Tally
