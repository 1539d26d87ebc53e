import PaxPivot.Application.Corpus

/-!
# Whose labels a capture finds

A label template names a source and a document, its file only the hash of the
document. Captures of one hash find one file, the template of the first of them.
-/

namespace PaxPivot

open FileStore (Directory)
open PyStr (utf8)

/-! ## What a template names -/

theorem newline_notMem_int (n : Int) : '\n' ∉ (toString n).toList := by
  have digits : ∀ m : Nat, '\n' ∉ (Nat.repr m).toList := by
    intro m h
    rw [Nat.repr, String.toList_ofList] at h
    exact absurd (Nat.isDigit_of_mem_toDigits (by decide) (by decide) h) (by decide)
  cases n with
  | ofNat m => exact digits m
  | negSucc m =>
    show '\n' ∉ ("-" ++ Nat.repr (m + 1)).toList
    rw [String.toList_append, List.mem_append]
    exact not_or.2 ⟨by decide, digits _⟩

theorem newline_notMem_str (u : UUID) : '\n' ∉ u.str.toList := by
  intro h
  exact absurd (UUID.mem_str h) (by decide)

theorem UUID.str_inj {u v : UUID} (h : u.str = v.str) : u = v := by
  have read := congrArg UUID.parse h
  rw [UUID.parse_str, UUID.parse_str] at read
  exact Option.some.inj read

/-- What `capture_corpus` relies on: encoding loses nothing, and a time is one line. -/
structure PlainLocale (lib : CorpusLib) : Prop where
  encode_inj : Function.Injective lib.encodeLocale
  isoformat_line : ∀ t, '\n' ∉ (lib.isoformat t).toList

/-- The line that names the document. -/
def headLine (name sha ext captured : String) : String :=
  s!"# Human-completed labels for {name} ({sha}.{ext}), captured {captured}."

/-- Behind it, a template has one line for its source and one for its time. -/
theorem labelTemplate_lines (name sha ext : String) {captured : String} (u : UUID) (status : Int)
    (line : '\n' ∉ captured.toList) :
    ∃ rest : List String, rest.length = 14 ∧ (∀ line ∈ rest, '\n' ∉ line.toList) ∧
      rest[2]? = some ("source_id: " ++ u.str) ∧ rest[3]? = some ("captured_at: " ++ captured) ∧
      labelTemplate name sha ext captured u.str status =
        "\n".intercalate (headLine name sha ext captured :: rest) := by
  have field : ∀ {key value : String}, '\n' ∉ key.toList → '\n' ∉ value.toList →
      '\n' ∉ (key ++ value).toList := by
    intro key value hkey hvalue
    rw [String.toList_append, List.mem_append]
    exact not_or.2 ⟨hkey, hvalue⟩
  refine ⟨_, rfl, ?_, rfl, rfl, rfl⟩
  simp only [List.forall_mem_cons]
  exact ⟨by decide, by decide, field (by decide) (newline_notMem_str u), field (by decide) line,
    field (by decide) (newline_notMem_int status), by decide, by decide, by decide, by decide,
    by decide, by decide, by decide, by decide, by decide, by simp⟩

/-- **A template tells its source and the kind of its document**, whatever the name of the
source is. -/
theorem labelTemplate_inj {name name' sha captured captured' : String} {source source' : Source}
    {u v : UUID} {status status' : Int} (line : '\n' ∉ captured.toList)
    (line' : '\n' ∉ captured'.toList)
    (h : labelTemplate name sha source.documentExt captured u.str status =
      labelTemplate name' sha source'.documentExt captured' v.str status') :
    u = v ∧ source.documentExt = source'.documentExt := by
  obtain ⟨rest, length, free, names, times, template⟩ :=
    labelTemplate_lines name sha source.documentExt u status line
  obtain ⟨rest', length', free', names', times', template'⟩ :=
    labelTemplate_lines name' sha source'.documentExt v status' line'
  rw [template, template'] at h
  obtain ⟨head, rfl⟩ := PyText.joinedLines_inj (length.trans length'.symm) free free' h
  have same : u.str = v.str := by
    have fields := Option.some.inj (names.symm.trans names')
    exact (String.append_right_inj _).1 fields
  obtain rfl : captured = captured' := by
    have fields := Option.some.inj (times.symm.trans times')
    exact (String.append_right_inj _).1 fields
  refine ⟨UUID.str_inj same, ?_⟩
  unfold headLine at head
  -- The time is the same, so the extensions end the same text.
  replace head := (String.append_left_inj _).1 ((String.append_left_inj _).1
    ((String.append_left_inj _).1 head))
  have last := congrArg (fun text => text.toList.reverse.take 1) head
  obtain ext | ext := documentExt_cases source <;>
    obtain ext' | ext' := documentExt_cases source'
  · rw [ext, ext']
  · rw [ext, ext'] at last
    simp [toString] at last
  · rw [ext, ext'] at last
    simp [toString] at last
  · rw [ext, ext']

/-! ## Captures without edits -/

variable {τ : Type} {lib : CorpusLib} {start directory : Directory String (List UInt8)}
  {calls : List (CorpusCall τ)} {call : CorpusCall τ}

/-- The directory after some captures, with no edit between them. -/
def capturesAfter (lib : CorpusLib) (start : Directory String (List UInt8))
    (calls : List (CorpusCall τ)) : Directory String (List UInt8) :=
  corpusAfter lib start (calls.map .capture)

/-- What a call of a run returned. -/
def Returned (lib : CorpusLib) (start : Directory String (List UInt8)) (calls : List (CorpusCall τ))
    (call : CorpusCall τ) (capture : CorpusCapture) : Prop :=
  ∃ before after, calls = before ++ call :: after ∧
    (captureCorpus lib call (capturesAfter lib start before)).1 = .ok (.ok capture)

theorem returned_iff {capture : CorpusCapture} :
    Returned lib start calls call capture ↔ call ∈ calls ∧
      ∃ pageStatus document, call.Entitled pageStatus document ∧
        capture = call.report lib pageStatus document := by
  constructor
  · rintro ⟨before, after, rfl, answered⟩
    refine ⟨by simp, ?_⟩
    obtain ⟨pageStatus, document, entitled, answer, -⟩ | ⟨refused, -⟩ :=
      captureCorpus_cases lib call (capturesAfter lib start before)
    · rw [answer] at answered
      exact ⟨pageStatus, document, entitled, (Except.ok.inj (Except.ok.inj answered)).symm⟩
    · exact absurd answered (refused capture)
  · rintro ⟨mem, pageStatus, document, entitled, rfl⟩
    obtain ⟨before, after, split⟩ := List.append_of_mem mem
    exact ⟨before, after, split, by rw [captureCorpus_entitled entitled]⟩

/-- The template that a call writes. -/
def CorpusCall.template (lib : CorpusLib) (call : CorpusCall τ) (pageStatus : Int) (sha : String) :
    List UInt8 :=
  lib.encodeLocale (labelTemplate call.source.name.text sha call.source.documentExt
    (lib.isoformat (call.now.getD call.clock)) call.source.sourceId.str pageStatus)

/-- Where there were no labels, a capture leaves its own. -/
theorem write_labels (lib : CorpusLib) (call : CorpusCall τ) (pageStatus : Int)
    (document : PyStr) (h : directory.files (labelsName (lib.digest document)) = none) :
    (call.write lib pageStatus document directory).files (labelsName (lib.digest document)) =
      some (call.template lib pageStatus (lib.digest document)) := by
  have apart := (documentName_ne_labelsName call.source (lib.digest document)
    (lib.digest document)).symm
  unfold CorpusCall.write
  dsimp only
  rw [Directory.put_other _ _ apart, Directory.mkdir_files, h, if_neg (by simp), Directory.put_self]
  rfl

/-- New labels are the template of a call entitled to its document. -/
theorem captureCorpus_new {stem : String}
    (h : (captureCorpus lib call directory).2.files (labelsName stem) ≠
      directory.files (labelsName stem)) :
    ∃ pageStatus document, call.Entitled pageStatus document ∧ stem = lib.digest document ∧
      (captureCorpus lib call directory).2.files (labelsName stem) =
        some (call.template lib pageStatus stem) := by
  have free : directory.files (labelsName stem) = none := by
    by_contra there
    obtain ⟨content, hcontent⟩ := Option.ne_none_iff_exists'.1 there
    rw [captureCorpus_labels hcontent, hcontent] at h
    exact h rfl
  obtain ⟨pageStatus, document, entitled, -, stored⟩ | ⟨-, same⟩ :=
    captureCorpus_cases lib call directory
  · rw [stored] at h ⊢
    have hit : stem = lib.digest document := by
      by_contra other
      apply h
      exact write_other lib call pageStatus document directory
        (documentName_ne_labelsName _ _ _).symm fun same => absurd (labelsName_inj same) other
    subst hit
    exact ⟨pageStatus, document, entitled, rfl, write_labels lib call pageStatus document free⟩
  · rw [same] at h
    exact absurd rfl h

/-- **The labels of a captured hash are the template of a capture with that hash.** -/
theorem labels_of_run (unlabelled : ∀ stem, start.files (labelsName stem) = none)
    {pageStatus : Int} {document : PyStr} (mem : call ∈ calls)
    (entitled : call.Entitled pageStatus document) :
    ∃ first ∈ calls, ∃ pageStatus' document', first.Entitled pageStatus' document' ∧
      lib.digest document' = lib.digest document ∧
      (capturesAfter lib start calls).files (labelsName (lib.digest document)) =
        some (first.template lib pageStatus' (lib.digest document)) := by
  obtain kept | ⟨before, step, after, split, changed, since⟩ := FileStore.foldl_eq_or_changed
    (CorpusStep.apply lib) (fun d => d.files (labelsName (lib.digest document)))
    (calls.map .capture) start
  · -- The capture of the document left labels there.
    obtain ⟨before, after, rfl⟩ := List.append_of_mem mem
    have placed : ∃ content, (captureCorpus lib call (capturesAfter lib start before)).2.files
        (labelsName (lib.digest document)) = some content := by
      cases there : (capturesAfter lib start before).files (labelsName (lib.digest document)) with
      | some content => exact ⟨content, captureCorpus_labels there⟩
      | none =>
        rw [captureCorpus_entitled entitled]
        exact ⟨_, write_labels lib call pageStatus document there⟩
    obtain ⟨content, hcontent⟩ := placed
    have still : (capturesAfter lib start (before ++ call :: after)).files
        (labelsName (lib.digest document)) = some content := by
      unfold capturesAfter
      rw [List.map_append, corpusAfter_append]
      show (corpusAfter lib (captureCorpus lib call (capturesAfter lib start before)).2
        (after.map .capture)).files _ = some content
      exact corpusAfter_labels (by simp) hcontent
    exact absurd (still.symm.trans (kept.trans (unlabelled _))) (by simp)
  · have capture : step ∈ calls.map CorpusStep.capture := by simp [split]
    obtain ⟨first, hfirst, rfl⟩ := List.mem_map.1 capture
    obtain ⟨pageStatus', document', entitled', stem, written⟩ := captureCorpus_new changed
    exact ⟨first, hfirst, pageStatus', document', entitled', stem.symm, since.trans written⟩

/-! ## Labels of the captured source -/

/-- The file at a capture's labels names its source and its document. -/
structure OwnLabels (lib : CorpusLib) (directory : Directory String (List UInt8)) (source : Source)
    (capture : CorpusCapture) : Prop where
  documentPath : capture.documentPath =
    lib.child (documentName capture.sha256 source.documentExt)
  labelsPath : capture.labelsPath = lib.child (labelsName capture.sha256)
  template : ∃ name captured pageStatus, directory.files (labelsName capture.sha256) =
    some (lib.encodeLocale (labelTemplate name capture.sha256 source.documentExt
      (lib.isoformat captured) capture.sourceId pageStatus))

/-- Every capture of the run has labels of its own source, and sources with the same
text have labels apart. -/
structure LabelsBelong (lib : CorpusLib) (start : Directory String (List UInt8))
    (calls : List (CorpusCall τ)) : Prop where
  own : ∀ call capture, Returned lib start calls call capture →
    OwnLabels lib (capturesAfter lib start calls) call.source capture
  apart : ∀ call capture call' capture' pageStatus pageStatus' document,
    Returned lib start calls call capture → Returned lib start calls call' capture' →
    call.source.sourceId ≠ call'.source.sourceId →
    call.Entitled pageStatus document → call'.Entitled pageStatus' document →
    capture.labelsPath ≠ capture'.labelsPath

/-- Documents with one hash come from one source, in one kind of document. -/
def OneSourceEach (lib : CorpusLib) (calls : List (CorpusCall τ)) : Prop :=
  ∀ call ∈ calls, ∀ call' ∈ calls, ∀ pageStatus pageStatus' document document',
    call.Entitled pageStatus document → call'.Entitled pageStatus' document' →
    lib.digest document = lib.digest document' →
    call.source.sourceId = call'.source.sourceId ∧
      call.source.documentExt = call'.source.documentExt

/-- **The labels belong to the captured sources exactly when no hash is captured for two
of them**, or as two kinds of document. -/
theorem labelsBelong_iff (plain : PlainLocale lib)
    (unlabelled : ∀ stem, start.files (labelsName stem) = none) :
    LabelsBelong lib start calls ↔ OneSourceEach lib calls := by
  constructor
  · intro belong call hcall call' hcall' pageStatus pageStatus' document document' entitled
      entitled' same
    obtain ⟨name, captured, status, template⟩ := (belong.own call _
      (returned_iff.2 ⟨hcall, pageStatus, document, entitled, rfl⟩)).template
    obtain ⟨name', captured', status', template'⟩ := (belong.own call' _
      (returned_iff.2 ⟨hcall', pageStatus', document', entitled', rfl⟩)).template
    have stem : (call'.report lib pageStatus' document').sha256 =
        (call.report lib pageStatus document).sha256 := same.symm
    rw [stem, template] at template'
    exact labelTemplate_inj (plain.isoformat_line captured) (plain.isoformat_line captured')
      (plain.encode_inj (Option.some.inj template'))
  · intro each
    refine ⟨?_, ?_⟩
    · intro call capture returned
      obtain ⟨mem, pageStatus, document, entitled, rfl⟩ := returned_iff.1 returned
      obtain ⟨first, hfirst, pageStatus', document', entitled', stem, written⟩ :=
        labels_of_run unlabelled mem entitled
      obtain ⟨sourceId, ext⟩ := each first hfirst call mem _ _ _ _ entitled' entitled stem
      refine ⟨rfl, rfl, first.source.name.text, first.now.getD first.clock, pageStatus', ?_⟩
      unfold CorpusCall.template at written
      rw [sourceId, ext] at written
      exact written
    · intro call capture call' capture' pageStatus pageStatus' document returned returned' other
        entitled entitled'
      have mem := (returned_iff.1 returned).1
      have mem' := (returned_iff.1 returned').1
      exact absurd (each call mem call' mem' _ _ _ _ entitled entitled' rfl).1 other

/-! ## Two pages with one text -/

def utf8CorpusLib : CorpusLib :=
  { plainCorpusLib with encodeLocale := fun text => text.toUTF8.data.toList }

theorem utf8CorpusLib_plain : PlainLocale utf8CorpusLib where
  encode_inj _ _ h := String.toByteArray_inj.1 (ByteArray.ext (Array.toList_inj.1 h))
  isoformat_line _ := by
    show '\n' ∉ "1970-01-01T00:00:00+00:00".toList
    decide

/-- A page captured twice keeps the labels of its source. -/
theorem recapture_own : LabelsBelong utf8CorpusLib .missing [stampedCapture, stampedCapture] := by
  apply (labelsBelong_iff utf8CorpusLib_plain fun _ => rfl).2
  intro call hcall call' hcall' _ _ _ _ _ _ _
  obtain rfl : call = stampedCapture := by simpa using hcall
  obtain rfl : call' = stampedCapture := by simpa using hcall'
  exact ⟨rfl, rfl⟩

/-- The page of another terminal. -/
def otherPage : Source :=
  { fixtureSource 3 with
    identity :=
      { sourceId := 3
        url := { scheme := "https", host := "example.invalid", path := some "/other" }
        authority := .lit "synthetic-other" }
    terminalId := some 2
    adapterId := some firecrawlId }

def sameTextPages : Registry :=
  ⟨[terminalPage (some firecrawlId), otherPage], by
    show [(1 : UUID), 3].Nodup
    decide⟩

/-- Every page of the adapter has the same text. -/
def pageCapture (source : Source) : CorpusCall Unit :=
  { stampedCapture with source, provider := { stampedAdapter with sources := sameTextPages } }

/-- The second page is handed the labels of the first. -/
theorem otherPage_shares :
    ¬ LabelsBelong utf8CorpusLib .missing
      [pageCapture (terminalPage (some firecrawlId)), pageCapture otherPage] := by
  intro belong
  have entitled : ∀ source ∈ sameTextPages.sources, (pageCapture source).Entitled 200
      (PyStr.ofString "<p>Current as of 11 SEPTEMBER 2026 at 0350</p>") := by
    intro source hsource
    obtain rfl | rfl : source = terminalPage (some firecrawlId) ∨ source = otherPage := by
      simpa [sameTextPages] using hsource
    · exact ⟨by decide +kernel, by decide +kernel, rfl, by decide +kernel, by decide, by decide⟩
    · exact ⟨by decide +kernel, by decide +kernel, rfl, by decide +kernel, by decide, by decide⟩
  have first := entitled (terminalPage (some firecrawlId)) (by simp [sameTextPages])
  have second := entitled otherPage (by simp [sameTextPages])
  exact belong.apart _ _ _ _ _ _ _ (returned_iff.2 ⟨by simp, _, _, first, rfl⟩)
    (returned_iff.2 ⟨by simp, _, _, second, rfl⟩) (by decide +kernel) first second rfl

end PaxPivot
