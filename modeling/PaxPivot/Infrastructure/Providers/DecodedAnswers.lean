import Mathlib
import PaxPivot.Application.Parsers.FirstStamp
import PaxPivot.Infrastructure.Providers.PipelineAgreement
import PaxPivot.Infrastructure.Providers.FirstLink

/-!
# What the adapter makes of any answer

`_fetch` catches three kinds of exception while it reads a body; `observe` writes
what was read into a record of the contract, outside any guard. Here is for which
answers the two together return, and what an unusable answer then comes to.
-/

namespace PaxPivot

open Regex (First)

/-! ## The status of a body -/

/-- `payload["data"]["metadata"]["statusCode"]`. -/
def statusCode (payload : Json) : Except PyError Json := do
  let data ← payload.item "data"
  let metadata ← data.item "metadata"
  metadata.item "statusCode"

/-- The integer a value is; a fraction is none. -/
def Json.integral : Json → Option Int
  | .bool value => some (if value then 1 else 0)
  | .int value => some value
  | .float (.finite value) => if value.den = 1 then some value.num else none
  | .str text => PyStr.int text
  | .float .infinite | .float .nan | .null | .arr _ | .obj _ => none

theorem Json.item_error {key : String} {value : Json} {e : PyError}
    (h : value.item key = .error e) : e ∈ malformed := by
  cases value with
  | obj members =>
    simp only [Json.item] at h
    split at h
    · cases h
    · cases h
      decide
  | _ =>
    cases h
    decide

/-- `int(value)` raises what `_fetch` catches, but for an infinity. -/
theorem Json.toInt_error {value : Json} {e : PyError} (h : value.toInt = .error e) :
    e ∈ malformed ∨ value = .float .infinite := by
  cases value with
  | float f =>
    cases f with
    | finite q => cases h
    | infinite => exact .inr rfl
    | nan =>
      cases h
      exact .inl (by decide)
  | str text =>
    simp only [Json.toInt] at h
    split at h
    · cases h
    · cases h
      exact .inl (by decide)
  | bool b => cases h
  | int n => cases h
  | null | arr _ | obj _ =>
    cases h
    exact .inl (by decide)

/-- A conversion that loses nothing. -/
theorem Json.integral_of_toInt {value : Json} {n : Int} (h : value.toInt = .ok n)
    (whole : ∀ q, value = .float (.finite q) → q.den = 1) : value.integral = some n := by
  cases value with
  | float f =>
    cases f with
    | finite q =>
      have den := whole q rfl
      simp only [Json.toInt, den, Nat.cast_one, Int.tdiv_one, Except.ok.injEq] at h
      simp [Json.integral, den, h]
    | infinite => cases h
    | nan => cases h
  | str text =>
    simp only [Json.toInt] at h
    split at h
    · rename_i hint
      simp only [Except.ok.injEq] at h
      simp [Json.integral, hint, h]
    · cases h
  | bool b => simpa [Json.toInt, Json.integral] using h
  | int m => simpa [Json.toInt, Json.integral] using h
  | null | arr _ | obj _ => cases h

theorem Json.toInt_of_integral {value : Json} {n : Int} (h : value.integral = some n) :
    value.toInt = .ok n := by
  cases value with
  | float f =>
    cases f with
    | finite q =>
      simp only [Json.integral, Option.ite_none_right_eq_some, Option.some.injEq] at h
      obtain ⟨den, rfl⟩ := h
      simp [Json.toInt, den]
    | infinite => cases h
    | nan => cases h
  | str text => simp [Json.toInt, show PyStr.int text = some n from h]
  | bool b => simpa [Json.toInt, Json.integral] using h
  | int m => simpa [Json.toInt, Json.integral] using h
  | null | arr _ | obj _ => cases h

/-- The status of a page is read as the status of its body. -/
theorem readPage_status (fmt : Format) (payload : Json) :
    (readPage fmt payload).map (·.status) = (statusCode payload).bind Json.toInt := by
  unfold readPage statusCode
  cases payload.item "data" with
  | error e => rfl
  | ok data =>
    show Except.map _ (Except.bind (data.item "metadata") _) = _
    cases hmeta : data.item "metadata" with
    | error e => simp [Except.map, Except.bind, bind, hmeta]
    | ok metadata =>
      cases hcode : metadata.item "statusCode" with
      | error e => simp [Except.map, Except.bind, bind, hmeta, hcode]
      | ok code =>
        cases hint : code.toInt <;> simp [Except.map, Except.bind, bind, hmeta, hcode, hint]

/-! ## One answer -/

/-- The body of an answer with HTTP 200 reads as `page`. -/
def Carries (fmt : Format) (answer : HttpAnswer) (page : Page) : Prop :=
  ∃ payload, answer = .response 200 (some payload) ∧ readPage fmt payload = .ok page

theorem Carries.unique {fmt : Format} {answer : HttpAnswer} {page page' : Page}
    (h : Carries fmt answer page) (h' : Carries fmt answer page') : page = page' := by
  obtain ⟨payload, rfl, hread⟩ := h
  obtain ⟨payload', hanswer, hread'⟩ := h'
  simp only [HttpAnswer.response.injEq, Option.some.injEq, true_and] at hanswer
  subst hanswer
  simpa [hread] using hread'

/-- HTTP 200 with an integral status that an observation can name. -/
def Usable (answer : HttpAnswer) : Prop :=
  ∃ payload value n, answer = .response 200 (some payload) ∧ statusCode payload = .ok value ∧
    value.integral = some n ∧ (Identifier.validate ("http_" ++ toString n)).isSome

/-- An HTTP answer, or none, without an infinite status. -/
structure SoundAnswer (answer : HttpAnswer) : Prop where
  client : ∀ e, answer ≠ .raised e
  finite : ∀ payload, answer = .response 200 (some payload) →
    statusCode payload ≠ .ok (.float .infinite)

/-- The status of the answer has no fraction. -/
def Whole (answer : HttpAnswer) : Prop :=
  ∀ payload q, answer = .response 200 (some payload) →
    statusCode payload = .ok (.float (.finite q)) → q.den = 1

/-- The three ways in which an answer is decoded. -/
inductive Decoded (fmt : Format) (answer : HttpAnswer) : Except PyError (Result Page) → Prop where
  | raised (e : PyError) (h : ¬ SoundAnswer answer) : Decoded fmt answer (.error e)
  | failed (failure : ApplicationError) (sound : SoundAnswer answer)
      (h : ∀ page, ¬ Carries fmt answer page) : Decoded fmt answer (.ok (.error failure))
  | page (page : Page) (sound : SoundAnswer answer) (h : Carries fmt answer page) :
      Decoded fmt answer (.ok (.ok page))

theorem decodeAnswer_of_status (fmt : Format) {statusCode : Nat} (body : Option Json)
    (h : statusCode ≠ 200) :
    ∃ failure, decodeAnswer fmt (.response statusCode body) = .ok (.error failure) := by
  unfold decodeAnswer
  dsimp only
  split_ifs <;> exact ⟨_, rfl⟩

theorem decodeAnswer_of_no_json (fmt : Format) :
    ∃ failure, decodeAnswer fmt (.response 200 none) = .ok (.error failure) :=
  ⟨_, rfl⟩

theorem decodeAnswer_of_page {fmt : Format} {payload : Json} {page : Page}
    (h : readPage fmt payload = .ok page) :
    decodeAnswer fmt (.response 200 (some payload)) = .ok (.ok page) := by
  simp [decodeAnswer, h]

theorem decodeAnswer_of_error {fmt : Format} {payload : Json} {e : PyError}
    (h : readPage fmt payload = .error e) :
    decodeAnswer fmt (.response 200 (some payload)) =
      if e ∈ malformed then
        .ok (.error (fetchFailure .unavailable (.lit "source_provider.firecrawl_malformed") true))
      else .error e := by
  simp [decodeAnswer, h]

theorem statusCode_error {payload : Json} {e : PyError} (h : statusCode payload = .error e) :
    e ∈ malformed := by
  unfold statusCode at h
  cases hdata : payload.item "data" with
  | error e' =>
    rw [hdata] at h
    cases h
    exact Json.item_error hdata
  | ok data =>
    rw [hdata] at h
    change (data.item "metadata" >>= fun metadata => metadata.item "statusCode") = _ at h
    cases hmeta : data.item "metadata" with
    | error e' =>
      rw [hmeta] at h
      cases h
      exact Json.item_error hmeta
    | ok metadata =>
      rw [hmeta] at h
      exact Json.item_error h

/-- Reading a body raises what `_fetch` catches, but for an infinite status. -/
theorem readPage_error {fmt : Format} {payload : Json} {e : PyError}
    (h : readPage fmt payload = .error e) :
    e ∈ malformed ∧ statusCode payload ≠ .ok (.float .infinite) ∨
      e ∉ malformed ∧ statusCode payload = .ok (.float .infinite) := by
  have status := readPage_status fmt payload
  rw [h] at status
  cases hcode : statusCode payload with
  | error e' =>
    rw [hcode] at status
    cases status
    exact .inl ⟨statusCode_error hcode, by simp⟩
  | ok value =>
    rw [hcode] at status
    have raised : value.toInt = .error e := status.symm
    by_cases infinite : value = .float .infinite
    · subst infinite
      cases raised
      exact .inr ⟨by decide, rfl⟩
    · refine .inl ⟨(Json.toInt_error raised).resolve_right infinite, ?_⟩
      simpa using infinite

/-- The status a page is read with. -/
theorem readPage_ok {fmt : Format} {payload : Json} {page : Page}
    (h : readPage fmt payload = .ok page) :
    ∃ value, statusCode payload = .ok value ∧ value.toInt = .ok page.status := by
  have status := readPage_status fmt payload
  rw [h] at status
  cases hcode : statusCode payload with
  | error e' =>
    rw [hcode] at status
    cases status
  | ok value =>
    rw [hcode] at status
    exact ⟨value, rfl, status.symm⟩

/-- **Every answer is decoded in one of three ways.** -/
theorem decodeAnswer_decoded (fmt : Format) (answer : HttpAnswer) :
    Decoded fmt answer (decodeAnswer fmt answer) := by
  cases answer with
  | raised e => exact .raised e fun sound => sound.client e rfl
  | unreachable => exact .failed _ ⟨by simp, by simp⟩ (by simp [Carries])
  | response code body =>
    by_cases ok : code = 200
    · subst ok
      cases body with
      | none =>
        obtain ⟨failure, h⟩ := decodeAnswer_of_no_json fmt
        rw [h]
        exact .failed failure ⟨by simp, by simp⟩ (by simp [Carries])
      | some payload =>
        cases hread : readPage fmt payload with
        | ok page =>
          rw [decodeAnswer_of_page hread]
          refine .page page ⟨by simp, ?_⟩ ⟨payload, rfl, hread⟩
          rintro payload' hanswer infinite
          obtain ⟨value, hcode, hint⟩ := readPage_ok hread
          simp only [HttpAnswer.response.injEq, Option.some.injEq, true_and] at hanswer
          subst hanswer
          obtain rfl : value = .float .infinite := by simpa [hcode] using infinite
          cases hint
        | error e =>
          rw [decodeAnswer_of_error hread]
          rcases readPage_error hread with ⟨caught, finite⟩ | ⟨uncaught, infinite⟩
          · rw [if_pos caught]
            refine .failed _ ⟨by simp, ?_⟩ ?_
            · rintro payload' hanswer
              simp only [HttpAnswer.response.injEq, Option.some.injEq, true_and] at hanswer
              exact hanswer ▸ finite
            · rintro page ⟨payload', hanswer, hpage⟩
              simp only [HttpAnswer.response.injEq, Option.some.injEq, true_and] at hanswer
              subst hanswer
              simp [hread] at hpage
          · rw [if_neg uncaught]
            exact .raised e fun sound => sound.finite payload rfl infinite
    · obtain ⟨failure, h⟩ := decodeAnswer_of_status fmt body ok
      rw [h]
      exact .failed failure ⟨by simp, by simp [ok]⟩ (by simp [Carries, ok])

/-- An answer that carries no page is of no use. -/
theorem not_usable_of_no_page {fmt : Format} {answer : HttpAnswer}
    (h : ∀ page, ¬ Carries fmt answer page) : ¬ Usable answer := by
  rintro ⟨payload, value, n, rfl, hcode, hint, -⟩
  have status := readPage_status fmt payload
  rw [hcode] at status
  change _ = value.toInt at status
  rw [Json.toInt_of_integral hint] at status
  cases hread : readPage fmt payload with
  | error e =>
    rw [hread] at status
    cases status
  | ok page => exact h page ⟨payload, rfl, hread⟩

/-- An answer that carries a page whose status an observation can name. -/
theorem usable_iff_whole {fmt : Format} {answer : HttpAnswer} {page : Page}
    (carries : Carries fmt answer page)
    (named : (Identifier.validate ("http_" ++ toString page.status)).isSome) :
    Usable answer ↔ Whole answer := by
  obtain ⟨payload, rfl, hread⟩ := carries
  obtain ⟨value, hcode, hint⟩ := readPage_ok hread
  constructor
  · rintro ⟨payload', value', n, hanswer, hcode', hint', -⟩ payload'' q hanswer' hfloat
    simp only [HttpAnswer.response.injEq, Option.some.injEq, true_and] at hanswer hanswer'
    subst hanswer
    subst hanswer'
    obtain rfl : value' = .float (.finite q) := by simpa [hcode'] using hfloat
    simp only [Json.integral, Option.ite_none_right_eq_some] at hint'
    exact hint'.1
  · intro whole
    refine ⟨payload, value, page.status, rfl, hcode, Json.integral_of_toInt hint ?_, named⟩
    rintro q rfl
    exact whole payload q rfl hcode

/-! ## The record of a page -/

theorem digit_plain {n : Nat} {c : Char} (h : c ∈ n.repr.toList) :
    PyText.whiteSpace c = false := by
  rw [Nat.toList_repr] at h
  have digit : c.isDigit = true := Nat.isDigit_of_mem_toDigits (by decide) (by decide) h
  simp only [Char.isDigit, Bool.and_eq_true, decide_eq_true_eq, UInt32.le_iff_toNat_le] at digit
  obtain ⟨low, high⟩ := digit
  change 48 ≤ c.toNat at low
  change c.toNat ≤ 57 at high
  simp [PyText.whiteSpace]
  omega

theorem digits_plain {n : Int} {c : Char} (h : c ∈ n.repr.toList) :
    PyText.whiteSpace c = false := by
  cases n with
  | ofNat n => exact digit_plain h
  | negSucc n =>
    rw [show (Int.negSucc n).repr = "-" ++ (n + 1).repr from rfl, String.toList_append,
      List.mem_append] at h
    rcases h with h | h
    · obtain rfl : c = '-' := by simpa using h
      decide
    · exact digit_plain h

/-- A status is part of an identifier unless it is too long. -/
theorem validate_http (n : Int) :
    (Identifier.validate ("http_" ++ toString n)).isSome ↔ (toString n).length ≤ 123 := by
  change (Identifier.validate ("http_" ++ n.repr)).isSome ↔ n.repr.length ≤ 123
  have plain : ∀ c ∈ ("http_" ++ n.repr).toList, PyText.whiteSpace c = false := by
    intro c hc
    rw [String.toList_append, List.mem_append] at hc
    rcases hc with hc | hc
    · have all : "http_".toList.all (fun c => !PyText.whiteSpace c) = true := by decide
      simpa using List.all_eq_true.1 all c hc
    · exact digits_plain hc
  have length : ("http_" ++ n.repr).length = 5 + n.repr.length := String.length_append ..
  unfold Identifier.validate
  simp only [PyText.stripChars_of_forall plain, String.ofList_toList, Identifier.accepts,
    beq_self_eq_true, Bool.true_and, Bool.and_eq_true, decide_eq_true_eq, length]
  split
  · rename_i short
    simp only [Option.isSome_some, true_iff]
    omega
  · rename_i long
    simp only [Option.isSome_none, Bool.false_eq_true, false_iff]
    omega

/-- The record of a page passes the contract's check, whatever the status. -/
theorem pageFields_consistent (source : Source) (observationId : UUID) (observedAt status : Int)
    (code : Identifier) (digest extraReason : Option Identifier) :
    (pageFields source observationId observedAt status code digest
      extraReason).evidenceConsistency = .ok () := by
  obtain ⟨states, succeeded, -⟩ := statusEvidence_spec status code
  apply (ObservationFields.evidenceConsistency_ok_iff _).2
  refine ⟨?_, ?_, ?_, ?_, ?_, ?_⟩
  · intro (positive : (statusEvidence status code).1 ∈ positiveStates)
    rcases states with h | h | h
    · exact succeeded.2 h
    all_goals
      rw [h] at positive
      exact absurd positive (by decide)
  · intro (absent : (statusEvidence status code).1 ∈ [SourceState.noDepartures, .noCompatible])
    rcases states with h | h | h
    all_goals
      rw [h] at absent
      exact absurd absent (by decide)
  · intro h
    exact absurd h (by decide : ExtractionState.notAttempted ∉ interpreted)
  · have reasons : (statusEvidence status code).2.2 ≠ [] := by
      unfold statusEvidence
      split_ifs <;> simp
    simp [pageFields, reasons]
  · simp [pageFields]
  · simp [pageFields]

/-- The record of a page is refused for the length of its status only. -/
theorem pageObservation_ok_iff (source : Source) (observationId : UUID)
    (observedAt status : Int) (digest extraReason : Option Identifier) :
    (∃ o, pageObservation source observationId observedAt status digest extraReason = .ok o) ↔
      (toString status).length ≤ 123 := by
  rw [← validate_http]
  unfold pageObservation
  cases Identifier.validate ("http_" ++ toString status) with
  | none => simp
  | some code =>
    simp only [pageFields_consistent, ↓reduceDIte, Option.isSome_some, iff_true]
    exact ⟨_, rfl⟩

theorem pageObservation_succeeded {source : Source} {observationId : UUID}
    {observedAt status : Int} {digest extraReason : Option Identifier} {o : SourceObservation}
    (h : pageObservation source observationId observedAt status digest extraReason = .ok o) :
    o.retrieval = .succeeded ↔ Page.ok status = true := by
  unfold pageObservation at h
  split at h
  · cases h
  · rename_i code _
    split at h
    · cases h
      obtain ⟨-, succeeded, answered⟩ := statusEvidence_spec status code
      exact succeeded.trans (answered.trans Page.ok_iff.symm)
    · cases h

section Pages

variable {τ : Type} (p : FirecrawlSourceProvider τ)

/-- The stamp of a document can be read: its entities, the month name of the first
stamp-shaped text, and the zone if the stamp is complete. -/
structure StampReads (source : Source) (document : PyStr) : Prop where
  clean : (cleanText p.lib document).isSome
  month : ∀ text, cleanText p.lib document = some text →
    ∀ start stop, (stamp p.lib).search text = some (start, stop) → YearInRange stop →
      (stampMonth p.lib stop).isSome
  zone : ∀ text, cleanText p.lib document = some text →
    ∀ start, First (stamp p.lib) text start → CompleteStamp p.lib start →
      ∀ e, p.terminalZone source ≠ .error e

/-- The page can be recorded, and its stamp read where `observe` reads it. -/
structure SoundPage (source : Source) (page : Page) : Prop where
  short : (toString page.status).length ≤ 123
  stamp : source.kind = .terminalPage → Authorized source .parse p.switches →
    Page.ok page.status = true → ∀ document, page.document = .str document →
      StampReads p source document

variable {p}

theorem withPageTime_of_time {source : Source} {o : ObservationFields} {document : PyStr}
    {found : PageTime} (h : parsePageTime p.lib document = .ok (some found)) :
    (∃ o', p.withPageTime source o document = .ok o') ↔ ∀ e, p.terminalZone source ≠ .error e := by
  simp only [FirecrawlSourceProvider.withPageTime, h]
  cases p.terminalZone source with
  | error e => simp
  | ok zone =>
    cases zone with
    | none => simp
    | some instant => cases found.hasTime <;> simp

theorem withPageTime_of_none {source : Source} {o : ObservationFields} {document : PyStr}
    (h : parsePageTime p.lib document = .ok none) :
    ∃ o', p.withPageTime source o document = .ok o' := by
  simp [FirecrawlSourceProvider.withPageTime, h]

theorem withPageTime_of_error {source : Source} {o : ObservationFields} {document : PyStr}
    {e : PyError} (h : parsePageTime p.lib document = .error e) :
    ¬ ∃ o', p.withPageTime source o document = .ok o' := by
  simp [FirecrawlSourceProvider.withPageTime, h]

/-- The stamp of a cleaned document with a first stamp-shaped text. -/
theorem stampReads_iff {source : Source} {document text : PyStr}
    {start stop : Regex.Cursor CodePoint} (clean : cleanText p.lib document = some text)
    (first : First (stamp p.lib) text start)
    (hstop : ((stamp p.lib).run start).head? = some stop) :
    StampReads p source document ↔
      (YearInRange stop → (stampMonth p.lib stop).isSome) ∧
        (CompleteStamp p.lib start → ∀ e, p.terminalZone source ≠ .error e) := by
  constructor
  · intro reads
    exact ⟨reads.month text clean start stop (Regex.Expr.search_eq_some_iff.2 ⟨first, hstop⟩),
      reads.zone text clean start first⟩
  · rintro ⟨month, zone⟩
    refine ⟨by simp [clean], ?_, ?_⟩
    · intro text' clean' start' stop' hsearch
      obtain rfl : text = text' := by simpa [clean] using clean'
      obtain ⟨first', hstop'⟩ := Regex.Expr.search_eq_some_iff.1 hsearch
      obtain rfl := first.unique first'
      obtain rfl : stop = stop' := by simpa [hstop] using hstop'
      exact month
    · intro text' clean' start' first'
      obtain rfl : text = text' := by simpa [clean] using clean'
      obtain rfl := first.unique first'
      exact zone

theorem withPageTime_ok_iff {source : Source} {o : ObservationFields} {document : PyStr} :
    (∃ o', p.withPageTime source o document = .ok o') ↔ StampReads p source document := by
  cases clean : cleanText p.lib document with
  | none =>
    have raised : parsePageTime p.lib document = .error .valueError := by
      simp [parsePageTime, clean]
    refine iff_of_false (withPageTime_of_error raised) fun reads => ?_
    have cleaned := reads.clean
    simp [clean] at cleaned
  | some text =>
    by_cases stamped : ∃ start, First (stamp p.lib) text start
    · obtain ⟨start, first⟩ := stamped
      obtain ⟨stop, hstop, -⟩ := Regex.Expr.exists_search first
      have parsed := parsePageTime_of_first clean first hstop
      rw [stampReads_iff clean first hstop, completeStamp_iff hstop]
      by_cases year : YearInRange stop
      · rw [readStamp_of_year year] at parsed
        cases hmonth : stampMonth p.lib stop with
        | none =>
          rw [hmonth] at parsed
          exact iff_of_false (withPageTime_of_error parsed) (by simp [year])
        | some month =>
          rw [hmonth] at parsed
          cases accepted : (stampFields stop month).accepted with
          | true =>
            have real : (stampFields stop month).datetime.isSome := by
              rw [CivilFields.datetime_isSome, accepted]
            obtain ⟨localTime, hlocal⟩ := Option.isSome_iff_exists.1 real
            simp only [hlocal, Option.map_some] at parsed
            rw [withPageTime_of_time parsed]
            simp [year, accepted]
          | false =>
            simp only [CivilFields.datetime_eq_none.2 accepted, Option.map_none] at parsed
            exact iff_of_true (withPageTime_of_none parsed) (by simp [accepted])
      · rw [readStamp_of_not_year year] at parsed
        exact iff_of_true (withPageTime_of_none parsed) (by simp [year])
    · have unstamped : ∀ start, ¬ First (stamp p.lib) text start := by simpa using stamped
      refine iff_of_true (withPageTime_of_none (parsePageTime_of_no_stamp clean unstamped)) ?_
      refine ⟨by simp [clean], ?_, ?_⟩
      · intro text' clean' start stop hsearch
        obtain rfl : text = text' := by simpa [clean] using clean'
        exact absurd (Regex.Expr.search_eq_some_iff.1 hsearch).1 (unstamped start)
      · intro text' clean' start first
        obtain rfl : text = text' := by simpa [clean] using clean'
        exact absurd first (unstamped start)

/-- **A page is recorded exactly when it is sound.** -/
theorem observePage_ok_iff {source : Source} {observedAt : Int} {observationId : UUID}
    {page : Page} :
    (∃ o, p.observePage source observedAt observationId page = .ok o) ↔
      SoundPage p source page := by
  unfold FirecrawlSourceProvider.observePage
  dsimp only
  generalize (if source.policy.rawPayload ≠ .denied then _ else none : Option Identifier) = digest
  generalize (if source.policy.rawPayload ≠ .denied ∧ digest = none then _ else none :
    Option Identifier) = extra
  have short := pageObservation_ok_iff source observationId observedAt page.status digest extra
  cases record : pageObservation source observationId observedAt page.status digest extra with
  | error e =>
    rw [record] at short
    refine iff_of_false (by simp) fun sound => ?_
    obtain ⟨o, h⟩ := short.2 sound.short
    cases h
  | ok o =>
    have short := short.1 ⟨o, record⟩
    have retrieved := pageObservation_succeeded record
    cases htext : page.document.text? with
    | none =>
      refine iff_of_true ⟨_, rfl⟩ ⟨short, ?_⟩
      intro _ _ _ document hdocument
      simp [hdocument, Json.text?] at htext
    | some document =>
      have hdocument : page.document = .str document := by
        cases hpage : page.document with
        | str text => simpa [hpage, Json.text?] using htext
        | _ => simp [hpage, Json.text?] at htext
      dsimp only
      by_cases read : source.kind = .terminalPage ∧ Authorized source .parse p.switches ∧
          o.retrieval = .succeeded
      · rw [if_pos read, withPageTime_ok_iff]
        obtain ⟨kind, parse, succeeded⟩ := read
        constructor
        · intro reads
          refine ⟨short, fun _ _ _ document' hdocument' => ?_⟩
          obtain rfl : document = document' := by simpa [hdocument] using hdocument'
          exact reads
        · intro sound
          exact sound.stamp kind parse (retrieved.1 succeeded) document hdocument
      · rw [if_neg read]
        refine iff_of_true ⟨_, rfl⟩ ⟨short, fun kind parse ok => ?_⟩
        exact absurd ⟨kind, parse, retrieved.2 ok⟩ read

end Pages

end PaxPivot
