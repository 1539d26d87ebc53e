import Mathlib
import PaxPivot.Infrastructure.Providers.Firecrawl

/-!
# The first eligible link

`discover_artifact` looks for the first link of a page to a schedule file. A link
that cannot be resolved ends the search where it stands.
-/

namespace PaxPivot

open PyStr (ofString)

/-- The link a page writes as `raw` leads to a schedule file right inside the folder. -/
structure Eligible (lib : PyLib) (folder pageUrl raw link : PyStr) : Prop where
  resolved : resolve lib pageUrl raw = some link
  inside : Inside lib folder link
  named : (artifactFilename.search (linkFilename folder link)).isSome = true

section Search

variable (lib : PyLib) (folder pageUrl : PyStr)

/-- No link of a list is eligible. -/
def NoneEligible (raws : List PyStr) : Prop :=
  ∀ raw ∈ raws, ∀ link, ¬ Eligible lib folder pageUrl raw link

/-- The first eligible link of a list. -/
def FirstEligible (raws : List PyStr) (link : PyStr) : Prop :=
  ∃ earlier raw later, raws = earlier ++ raw :: later ∧ NoneEligible lib folder pageUrl earlier ∧
    Eligible lib folder pageUrl raw link

/-- The search returns, with the first eligible link or with `none` for want of one. -/
structure AnswersFirst (raws : List PyStr) (answer : Except PyError (Option PyStr)) : Prop where
  returns : ∃ found, answer = .ok found
  some_iff : ∀ link, answer = .ok (some link) ↔ FirstEligible lib folder pageUrl raws link
  none_iff : answer = .ok none ↔ NoneEligible lib folder pageUrl raws

/-- Every link can be resolved, up to the first eligible one if there is one. -/
def ResolvesToFirst (raws : List PyStr) : Prop :=
  ∀ earlier raw later, raws = earlier ++ raw :: later → NoneEligible lib folder pageUrl earlier →
    (resolve lib pageUrl raw).isSome

end Search

section Cons

variable {lib : PyLib} {folder pageUrl raw link : PyStr} {rest : List PyStr}

theorem noneEligible_cons :
    NoneEligible lib folder pageUrl (raw :: rest) ↔
      (∀ link, ¬ Eligible lib folder pageUrl raw link) ∧ NoneEligible lib folder pageUrl rest :=
  List.forall_mem_cons

theorem firstEligible_cons :
    FirstEligible lib folder pageUrl (raw :: rest) link ↔
      Eligible lib folder pageUrl raw link ∨
        (∀ l, ¬ Eligible lib folder pageUrl raw l) ∧
          FirstEligible lib folder pageUrl rest link := by
  constructor
  · rintro ⟨earlier, found, later, split, none, eligible⟩
    cases earlier with
    | nil =>
      obtain ⟨rfl, rfl⟩ := List.cons.inj split
      exact .inl eligible
    | cons first earlier =>
      obtain ⟨rfl, rfl⟩ := List.cons.inj split
      obtain ⟨here, none⟩ := noneEligible_cons.1 none
      exact .inr ⟨here, earlier, found, later, rfl, none, eligible⟩
  · rintro (eligible | ⟨here, earlier, found, later, rfl, none, eligible⟩)
    · exact ⟨[], raw, rest, rfl, by simp [NoneEligible], eligible⟩
    · exact ⟨raw :: earlier, found, later, rfl, noneEligible_cons.2 ⟨here, none⟩, eligible⟩

theorem resolvesToFirst_cons :
    ResolvesToFirst lib folder pageUrl (raw :: rest) ↔
      (resolve lib pageUrl raw).isSome ∧
        ((∀ l, ¬ Eligible lib folder pageUrl raw l) → ResolvesToFirst lib folder pageUrl rest) := by
  constructor
  · intro resolves
    refine ⟨resolves [] raw rest rfl (by simp [NoneEligible]), ?_⟩
    rintro here earlier found later rfl none
    exact resolves (raw :: earlier) found later rfl (noneEligible_cons.2 ⟨here, none⟩)
  · rintro ⟨here, resolves⟩ earlier found later split none
    cases earlier with
    | nil =>
      obtain ⟨rfl, rfl⟩ := List.cons.inj split
      exact here
    | cons first earlier =>
      obtain ⟨rfl, rfl⟩ := List.cons.inj split
      obtain ⟨ineligible, none⟩ := noneEligible_cons.1 none
      exact resolves ineligible earlier found later rfl none

/-- An ineligible link in front changes nothing. -/
theorem answersFirst_cons (here : ∀ l, ¬ Eligible lib folder pageUrl raw l)
    {answer : Except PyError (Option PyStr)} :
    AnswersFirst lib folder pageUrl (raw :: rest) answer ↔
      AnswersFirst lib folder pageUrl rest answer := by
  have first : ∀ l, FirstEligible lib folder pageUrl (raw :: rest) l ↔
      FirstEligible lib folder pageUrl rest l := by simp [firstEligible_cons, here]
  have none : NoneEligible lib folder pageUrl (raw :: rest) ↔
      NoneEligible lib folder pageUrl rest := by simp [noneEligible_cons, here]
  constructor
  · intro h
    exact ⟨h.returns, fun l => (h.some_iff l).trans (first l), h.none_iff.trans none⟩
  · intro h
    exact ⟨h.returns, fun l => (h.some_iff l).trans (first l).symm, h.none_iff.trans none.symm⟩

/-! ## One step of the loop -/

theorem discoverFrom_of_unresolved (h : resolve lib pageUrl raw = none) :
    discoverFrom lib folder pageUrl (raw :: rest) = .error .valueError := by
  simp [discoverFrom, h]

theorem discoverFrom_of_eligible (h : Eligible lib folder pageUrl raw link) :
    discoverFrom lib folder pageUrl (raw :: rest) = .ok (some link) := by
  obtain ⟨resolved, ⟨under, noSlash, noParent, noBackslash⟩, named⟩ := h
  simp [discoverFrom, resolved, under, noSlash, noParent, noBackslash, named]

theorem discoverFrom_of_ineligible (hlink : resolve lib pageUrl raw = some link)
    (h : ∀ l, ¬ Eligible lib folder pageUrl raw l) :
    discoverFrom lib folder pageUrl (raw :: rest) = discoverFrom lib folder pageUrl rest := by
  rw [discoverFrom, hlink]
  simp only
  split
  · rfl
  rename_i under
  split
  · rfl
  rename_i plain
  split
  · rename_i named
    simp only [not_or] at plain
    obtain ⟨noSlash, noParent, noBackslash⟩ := plain
    exact absurd ⟨hlink, ⟨not_not.1 under, noSlash, noParent, noBackslash⟩, named⟩ (h link)
  · rfl

end Cons

/-- The loop answers the first eligible link exactly when it gets there. -/
theorem discoverFrom_answersFirst_iff (lib : PyLib) (folder pageUrl : PyStr) (raws : List PyStr) :
    AnswersFirst lib folder pageUrl raws (discoverFrom lib folder pageUrl raws) ↔
      ResolvesToFirst lib folder pageUrl raws := by
  induction raws with
  | nil =>
    have resolves : ResolvesToFirst lib folder pageUrl [] := by
      intro earlier raw later split
      simp at split
    refine iff_of_true ⟨⟨none, rfl⟩, fun link => ?_, ?_⟩ resolves
    · simp [discoverFrom, FirstEligible]
    · simp [discoverFrom, NoneEligible]
  | cons raw rest ih =>
    rw [resolvesToFirst_cons]
    cases hlink : resolve lib pageUrl raw with
    | none =>
      rw [discoverFrom_of_unresolved hlink]
      refine iff_of_false (fun answers => ?_) (by simp)
      obtain ⟨found, h⟩ := answers.returns
      cases h
    | some link =>
      by_cases eligible : Eligible lib folder pageUrl raw link
      · have only : ∀ l, Eligible lib folder pageUrl raw l → link = l := fun l hl =>
          Option.some.inj (eligible.resolved.symm.trans hl.resolved)
        have some_here : ¬ ∀ l, ¬ Eligible lib folder pageUrl raw l := fun h => h link eligible
        rw [discoverFrom_of_eligible eligible]
        refine iff_of_true ⟨⟨_, rfl⟩, fun l => ?_, ?_⟩ ⟨rfl, fun h => absurd h some_here⟩
        · rw [firstEligible_cons]
          constructor
          · intro h
            obtain rfl : link = l := by simpa using h
            exact .inl eligible
          · rintro (h | ⟨h, -⟩)
            · rw [only l h]
            · exact absurd h some_here
        · simp [noneEligible_cons, some_here]
      · have here : ∀ l, ¬ Eligible lib folder pageUrl raw l := by
          intro l hl
          obtain rfl : link = l := Option.some.inj (hlink.symm.trans hl.resolved)
          exact eligible hl
        rw [discoverFrom_of_ineligible hlink here]
        simp only [Option.isSome_some, here, not_false_eq_true, implies_true, true_and,
          forall_const]
        rw [answersFirst_cons here, ih]

/-- The loop returns only where every link on its way could be resolved. -/
theorem resolvesToFirst_of_ok {lib : PyLib} {folder pageUrl : PyStr} {raws : List PyStr}
    {found : Option PyStr} (h : discoverFrom lib folder pageUrl raws = .ok found) :
    ResolvesToFirst lib folder pageUrl raws := by
  induction raws with
  | nil =>
    intro earlier raw later split
    simp at split
  | cons raw rest ih =>
    rw [resolvesToFirst_cons]
    cases hlink : resolve lib pageUrl raw with
    | none =>
      rw [discoverFrom_of_unresolved hlink] at h
      cases h
    | some link =>
      refine ⟨rfl, fun here => ih ?_⟩
      rwa [discoverFrom_of_ineligible hlink here] at h

/-- The search of a page finds exactly the first eligible link unless a link in
front of it, or any link when none is eligible, cannot be resolved. -/
theorem discoverArtifact_answersFirst_iff (lib : PyLib) (pageHtml folder pageUrl : PyStr) :
    AnswersFirst lib folder pageUrl (hrefs pageHtml)
        (discoverArtifact lib pageHtml folder pageUrl) ↔
      ResolvesToFirst lib folder pageUrl (hrefs pageHtml) :=
  discoverFrom_answersFirst_iff lib folder pageUrl (hrefs pageHtml)

/-! ## A malformed host in front -/

/-- The library on absolute links, with `urljoin` refusing an unclosed bracketed host. -/
def bracketLib : PyLib :=
  { plainLib with
    urljoin := fun _ link => if ofString "http://[" <+: link then none else some link }

def bracketPage : PyStr :=
  ofString "<a href='http://[x'>x</a> <a href='https://e.invalid/72-hr.pdf'>72</a>"

def bracketFolder : PyStr := ofString "https://e.invalid/"

def bracketPageUrl : PyStr := ofString "https://e.invalid/page"

/-- The link behind the malformed one is eligible, and the search does not reach it. -/
theorem bracketPage_raises :
    ¬ AnswersFirst bracketLib bracketFolder bracketPageUrl (hrefs bracketPage)
        (discoverArtifact bracketLib bracketPage bracketFolder bracketPageUrl) := by
  rintro ⟨⟨found, h⟩, -, -⟩
  have raised : discoverArtifact bracketLib bracketPage bracketFolder bracketPageUrl =
      .error .valueError := by
    decide +kernel
  rw [raised] at h
  cases h

end PaxPivot
