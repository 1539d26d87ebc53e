import PaxPivot.Infrastructure.Providers.PipelineAgreement
import PaxPivot.Library.FileStore

/-!
# Corpus capture

`application/corpus.py`: one page goes into a directory as `<sha>.html` or
`<sha>.md`, next to a label template that a person completes. The directory is
the state; people edit its label files between the captures. Writes succeed.
-/

namespace PyStr

/-- The bytes of a code point in UTF-8, a surrogate like any other. -/
def utf8Point (c : CodePoint) : List UInt8 :=
  let n := c.val
  if n < 0x80 then [.ofNat n]
  else if n < 0x800 then [.ofNat (0xC0 + n / 64), .ofNat (0x80 + n % 64)]
  else if n < 0x10000 then
    [.ofNat (0xE0 + n / 4096), .ofNat (0x80 + n / 64 % 64), .ofNat (0x80 + n % 64)]
  else
    [.ofNat (0xF0 + n / 262144), .ofNat (0x80 + n / 4096 % 64), .ofNat (0x80 + n / 64 % 64),
      .ofNat (0x80 + n % 64)]

/-- `text.encode("utf-8", "surrogatepass")`, also what `write_text` writes so. -/
def utf8 (text : PyStr) : List UInt8 := text.flatMap utf8Point

end PyStr

namespace PaxPivot

open FileStore (Directory)
open PyStr (utf8)

/-- What `capture_corpus` calls and does not compute. -/
structure CorpusLib where
  /-- `hashlib.sha256` of some bytes. -/
  sha256 : List UInt8 → Fin (2 ^ 256)
  /-- `datetime.isoformat`, in the zone of the time. -/
  isoformat : Int → String
  /-- The locale's encoding, that of `write_text` without one. -/
  encodeLocale : String → List UInt8
  /-- `str(directory / name)`. -/
  child : String → String

/-- `LABEL_TEMPLATE`, formatted. -/
def labelTemplate (name sha ext capturedAt sourceId : String) (pageStatus : Int) : String :=
  "\n".intercalate
    [s!"# Human-completed labels for {name} ({sha}.{ext}), captured {capturedAt}.",
     "# Every departure row shown on the page, in page order. " ++
       "Leave `rows: []` if the page shows none.",
     "# Critical fields (SRC-009): date, time, destination, seat_state. " ++
       "Copy the page's own wording.",
     s!"source_id: {sourceId}",
     s!"captured_at: {capturedAt}",
     s!"page_status: {pageStatus}",
     "reviewer: \"\"          # your name; required before TASK-032 may use this file",
     "rows: []",
     "# - date: \"2026-09-12\"",
     "#   time: \"0600\"",
     "#   destination: \"Example destination as printed\"",
     "#   seat_state: \"Seats: 10T\"",
     "#   roll_call: \"0400\"",
     "#   notes: \"\"",
     ""]

structure CorpusCapture where
  sourceId : String
  pageStatus : Int
  sha256 : String
  documentPath : String
  labelsPath : String
  deriving DecidableEq

def foreignAdapter : ApplicationError :=
  { code := .invalidInput, messageKey := identityMismatch, retryable := false }

def pageNotOk : ApplicationError :=
  { code := .unavailable, messageKey := .lit "corpus.page_not_ok", retryable := true }

def documentUnavailable : ApplicationError :=
  { code := .unavailable, messageKey := .lit "corpus.document_unavailable", retryable := true }

/-- A file of the directory: a document or the labels of one. -/
def documentName (sha ext : String) : String := sha ++ "." ++ ext

def labelsName (sha : String) : String := sha ++ ".labels.yaml"

/-- The extension of a source's documents. -/
def Source.documentExt (source : Source) : String :=
  if source.kind = .scheduleArtifact then "md" else "html"

/-- `hashlib.sha256(…).hexdigest()` of a document. -/
@[irreducible] def CorpusLib.digest (lib : CorpusLib) (document : PyStr) : String :=
  String.ofList (PyText.toHex 64 (lib.sha256 (utf8 document)).val)

/-- The arguments of a call but the directory, with what the call reads elsewhere: the
state of the provider and the clock. -/
structure CorpusCall (τ : Type) where
  source : Source
  provider : FirecrawlSourceProvider τ
  switches : List KillSwitch
  now : Option Int
  st : FirecrawlState τ
  clock : Int

variable {τ : Type}

/-- The writes of a capture: the document, and a label template where there is none. -/
def CorpusCall.write (lib : CorpusLib) (call : CorpusCall τ) (pageStatus : Int) (document : PyStr)
    (directory : Directory String (List UInt8)) : Directory String (List UInt8) :=
  let sha := lib.digest document
  let ext := call.source.documentExt
  let written := directory.mkdir.put (documentName sha ext) (some (utf8 document))
  if (written.files (labelsName sha)).isSome then written
  else written.put (labelsName sha) (some (lib.encodeLocale
    (labelTemplate call.source.name.text sha ext (lib.isoformat (call.now.getD call.clock))
      call.source.sourceId.str pageStatus)))

/-- What a capture reports. -/
def CorpusCall.report (lib : CorpusLib) (call : CorpusCall τ) (pageStatus : Int)
    (document : PyStr) : CorpusCapture :=
  let sha := lib.digest document
  { sourceId := call.source.sourceId.str
    pageStatus
    sha256 := sha
    documentPath := lib.child (documentName sha call.source.documentExt)
    labelsPath := lib.child (labelsName sha) }

/-- `capture_corpus`: what it answers or raises, and the directory after it. The state
the provider is left in is that of `fetch_document`. -/
def captureCorpus (lib : CorpusLib) (call : CorpusCall τ)
    (directory : Directory String (List UInt8)) :
    Except PyError (Result CorpusCapture) × Directory String (List UInt8) :=
  match authorizeProcessing call.source .retrieve call.switches with
  | .error failure => (.ok (.error failure), directory)
  | .ok _ =>
    match authorizeProcessing call.source .parse call.switches with
    | .error failure => (.ok (.error failure), directory)
    | .ok _ =>
      if call.source.adapterId ≠ some firecrawlId then (.ok (.error foreignAdapter), directory)
      else match (call.provider.fetchDocument call.source.identity call.st).1 with
        | .error e => (.error e, directory)
        | .ok (.error failure) => (.ok (.error failure), directory)
        | .ok (.ok (pageStatus, document)) =>
          if ¬ (200 ≤ pageStatus ∧ pageStatus < 300) then (.ok (.error pageNotOk), directory)
          else match document with
            -- No document and an empty one are both falsy.
            | none | some [] => (.ok (.error documentUnavailable), directory)
            | some (c :: rest) =>
              (.ok (.ok (call.report lib pageStatus (c :: rest))),
                call.write lib pageStatus (c :: rest) directory)

/-- All that a capture asks for before it writes: both gates, the adapter, and a document
on a page that answered well. -/
structure CorpusCall.Entitled (call : CorpusCall τ) (pageStatus : Int) (document : PyStr) :
    Prop where
  retrieve : Authorized call.source .retrieve call.switches
  parse : Authorized call.source .parse call.switches
  adapter : call.source.adapterId = some firecrawlId
  answered : (call.provider.fetchDocument call.source.identity call.st).1 =
    .ok (.ok (pageStatus, some document))
  well : 200 ≤ pageStatus ∧ pageStatus < 300
  nonempty : document ≠ []

/-- A capture is entitled and writes, or it answers no success and writes nothing. -/
theorem captureCorpus_cases (lib : CorpusLib) (call : CorpusCall τ)
    (directory : Directory String (List UInt8)) :
    (∃ pageStatus document, call.Entitled pageStatus document ∧
      (captureCorpus lib call directory).1 = .ok (.ok (call.report lib pageStatus document)) ∧
      (captureCorpus lib call directory).2 = call.write lib pageStatus document directory) ∨
    ((∀ capture, (captureCorpus lib call directory).1 ≠ .ok (.ok capture)) ∧
      (captureCorpus lib call directory).2 = directory) := by
  unfold captureCorpus
  rcases retrieve : authorizeProcessing call.source .retrieve call.switches with failure | _
  · exact .inr ⟨by simp, rfl⟩
  rcases parse : authorizeProcessing call.source .parse call.switches with failure | _
  · exact .inr ⟨by simp, rfl⟩
  by_cases adapter : call.source.adapterId = some firecrawlId
  swap
  · simp only [adapter, ne_eq, not_false_eq_true, ↓reduceIte]
    exact .inr ⟨by simp, trivial⟩
  simp only [adapter, ne_eq, not_true_eq_false, ↓reduceIte]
  rcases answered : (call.provider.fetchDocument call.source.identity call.st).1 with
    e | failure | ⟨pageStatus, document⟩
  · exact .inr ⟨by simp, rfl⟩
  · exact .inr ⟨by simp, rfl⟩
  by_cases well : 200 ≤ pageStatus ∧ pageStatus < 300
  swap
  · simp only [well, not_false_eq_true, ↓reduceIte]
    exact .inr ⟨by simp, trivial⟩
  simp only [well, and_self, not_true_eq_false, ↓reduceIte]
  match document, answered with
  | none, _ | some [], _ => exact .inr ⟨by simp, rfl⟩
  | some (c :: rest), answered =>
    left
    refine ⟨pageStatus, c :: rest, ?_, rfl, rfl⟩
    exact ⟨isOk_iff.2 ⟨_, retrieve⟩, isOk_iff.2 ⟨_, parse⟩, adapter, answered, well, by simp⟩

/-- An entitled capture writes. -/
theorem captureCorpus_entitled {call : CorpusCall τ} {pageStatus : Int} {document : PyStr}
    (h : call.Entitled pageStatus document) (lib : CorpusLib)
    (directory : Directory String (List UInt8)) :
    captureCorpus lib call directory = (.ok (.ok (call.report lib pageStatus document)),
      call.write lib pageStatus document directory) := by
  obtain ⟨_, retrieve⟩ := isOk_iff.1 h.retrieve
  obtain ⟨_, parse⟩ := isOk_iff.1 h.parse
  obtain ⟨c, rest, rfl⟩ := List.exists_cons_of_ne_nil h.nonempty
  unfold captureCorpus
  rw [retrieve]
  dsimp only
  rw [parse]
  dsimp only
  rw [if_neg (not_not.2 h.adapter), h.answered]
  dsimp only
  rw [if_neg (not_not.2 h.well)]

/-! ## Which files a capture writes -/

variable {lib : CorpusLib} {call : CorpusCall τ} {directory : Directory String (List UInt8)}

theorem documentExt_cases (source : Source) :
    source.documentExt = "md" ∨ source.documentExt = "html" := by
  unfold Source.documentExt
  split
  · exact .inl rfl
  · exact .inr rfl

/-- No document is named like labels: the names end otherwise. -/
theorem documentName_ne_labelsName (source : Source) (sha stem : String) :
    documentName sha source.documentExt ≠ labelsName stem := by
  intro same
  have ends := congrArg (fun name => (name.toList.reverse).take 3) same
  obtain ext | ext := documentExt_cases source
  all_goals
    rw [ext] at ends
    simp [documentName, labelsName] at ends

/-- The document is in place after the writes. -/
theorem write_document (lib : CorpusLib) (call : CorpusCall τ) (pageStatus : Int)
    (document : PyStr) (directory : Directory String (List UInt8)) :
    (call.write lib pageStatus document directory).files
      (documentName (lib.digest document) call.source.documentExt) = some (utf8 document) := by
  unfold CorpusCall.write
  dsimp only
  split
  · exact directory.mkdir.put_self _ _
  · rw [Directory.put_other _ _ (documentName_ne_labelsName _ _ _), Directory.put_self]

/-- The writes reach two names, and the second only when it is free. -/
theorem write_other (lib : CorpusLib) (call : CorpusCall τ) (pageStatus : Int)
    (document : PyStr) (directory : Directory String (List UInt8)) {name : String}
    (hdocument : name ≠ documentName (lib.digest document) call.source.documentExt)
    (hlabels : name = labelsName (lib.digest document) → (directory.files name).isSome = true) :
    (call.write lib pageStatus document directory).files name = directory.files name := by
  have first : ∀ content, (directory.mkdir.put
      (documentName (lib.digest document) call.source.documentExt) content).files name =
        directory.files name := fun content => Directory.put_other _ content hdocument
  unfold CorpusCall.write
  dsimp only
  split
  · exact first _
  case isFalse free =>
    by_cases same : name = labelsName (lib.digest document)
    · rw [← same, first] at free
      exact absurd (hlabels same) free
    · rw [Directory.put_other _ _ same]
      exact first _

/-- **No capture changes labels that exist.** -/
theorem captureCorpus_labels {stem : String} {content : List UInt8}
    (h : directory.files (labelsName stem) = some content) :
    (captureCorpus lib call directory).2.files (labelsName stem) = some content := by
  obtain ⟨pageStatus, document, -, -, stored⟩ | ⟨-, same⟩ :=
    captureCorpus_cases lib call directory
  · rw [stored, ← h]
    exact write_other lib call pageStatus document directory
      (documentName_ne_labelsName _ _ _).symm fun _ => by simp [h]
  · rw [same, h]

/-- What changes besides new labels is one document, of a call entitled to write it. -/
theorem captureCorpus_changed {name : String} (hname : ∀ stem, name ≠ labelsName stem)
    (h : (captureCorpus lib call directory).2.files name ≠ directory.files name) :
    ∃ pageStatus document, call.Entitled pageStatus document ∧
      name = documentName (lib.digest document) call.source.documentExt ∧
      (captureCorpus lib call directory).2.files name = some (utf8 document) := by
  obtain ⟨pageStatus, document, entitled, -, stored⟩ | ⟨-, same⟩ :=
    captureCorpus_cases lib call directory
  · refine ⟨pageStatus, document, entitled, ?_⟩
    rw [stored] at h ⊢
    have hit : name = documentName (lib.digest document) call.source.documentExt := by
      by_contra other
      apply h
      exact write_other lib call pageStatus document directory other
        fun labels => absurd labels (hname _)
    refine ⟨hit, ?_⟩
    rw [hit]
    exact write_document lib call pageStatus document directory
  · rw [same] at h
    exact absurd rfl h

/-! ## Captures between edits -/

/-- A step of a corpus: a capture, or a person who writes or removes labels. -/
inductive CorpusStep (τ : Type) where
  | capture (call : CorpusCall τ)
  | edit (stem : String) (content : Option (List UInt8))

def CorpusStep.apply (lib : CorpusLib) (directory : Directory String (List UInt8)) :
    CorpusStep τ → Directory String (List UInt8)
  | .capture call => (captureCorpus lib call directory).2
  | .edit stem content => directory.put (labelsName stem) content

/-- The directory after some steps. -/
def corpusAfter (lib : CorpusLib) (directory : Directory String (List UInt8))
    (steps : List (CorpusStep τ)) : Directory String (List UInt8) :=
  steps.foldl (CorpusStep.apply lib) directory

/-- What one capture leaves true of the directory it runs in. -/
structure CaptureSound (lib : CorpusLib) (call : CorpusCall τ)
    (directory : Directory String (List UInt8)) : Prop where
  /-- Labels that exist stay as they are. -/
  labels : ∀ stem content, directory.files (labelsName stem) = some content →
    (captureCorpus lib call directory).2.files (labelsName stem) = some content
  /-- A failure leaves all as it was. -/
  failure : ∀ failure, (captureCorpus lib call directory).1 = .ok (.error failure) →
    (captureCorpus lib call directory).2 = directory
  /-- So does an exception of the provider. -/
  raised : ∀ e, (captureCorpus lib call directory).1 = .error e →
    (captureCorpus lib call directory).2 = directory
  /-- A success was entitled, and its document is in place under its hash. -/
  success : ∀ capture, (captureCorpus lib call directory).1 = .ok (.ok capture) →
    ∃ pageStatus document, call.Entitled pageStatus document ∧
      capture.sha256 = lib.digest document ∧
      (captureCorpus lib call directory).2.files
        (documentName capture.sha256 call.source.documentExt) = some (utf8 document)

theorem captureCorpus_sound (lib : CorpusLib) (call : CorpusCall τ)
    (directory : Directory String (List UInt8)) : CaptureSound lib call directory := by
  have labels : ∀ stem content, directory.files (labelsName stem) = some content →
      (captureCorpus lib call directory).2.files (labelsName stem) = some content :=
    fun _ _ => captureCorpus_labels
  obtain ⟨pageStatus, document, entitled, answer, stored⟩ | ⟨refused, same⟩ :=
    captureCorpus_cases lib call directory
  · refine ⟨labels, ?_, ?_, ?_⟩
    · intro failure answered
      rw [answer] at answered
      cases answered
    · intro e answered
      rw [answer] at answered
      cases answered
    · intro capture answered
      rw [answer] at answered
      obtain rfl : call.report lib pageStatus document = capture := by
        simpa using answered
      rw [stored]
      exact ⟨pageStatus, document, entitled, rfl,
        write_document lib call pageStatus document directory⟩
  · exact ⟨labels, fun _ _ => same, fun _ _ => same,
      fun capture answered => absurd answered (refused capture)⟩

/-- Two names of labels are the same only for one stem. -/
theorem labelsName_inj {stem stem' : String} (h : labelsName stem = labelsName stem') :
    stem = stem' := by
  have texts := congrArg String.toList h
  simp only [labelsName, String.toList_append] at texts
  exact String.toList_inj.1 (List.append_cancel_right texts)

/-- A step that does not edit these labels leaves them. -/
theorem apply_labels {step : CorpusStep τ} {stem : String} {content : List UInt8}
    (unedited : ∀ new, step ≠ .edit stem new)
    (h : directory.files (labelsName stem) = some content) :
    (step.apply lib directory).files (labelsName stem) = some content := by
  cases step with
  | capture call => exact (captureCorpus_sound lib call directory).labels stem content h
  | edit stem' new =>
    have other : labelsName stem ≠ labelsName stem' := by
      intro same
      obtain rfl := labelsName_inj same
      exact unedited new rfl
    show (directory.put (labelsName stem') new).files (labelsName stem) = some content
    rw [Directory.put_other _ _ other, h]

theorem corpusAfter_append (lib : CorpusLib) (start : Directory String (List UInt8))
    (before after : List (CorpusStep τ)) :
    corpusAfter lib start (before ++ after) =
      corpusAfter lib (corpusAfter lib start before) after :=
  List.foldl_append

/-- Labels stay until they are edited. -/
theorem corpusAfter_labels {steps : List (CorpusStep τ)} {stem : String} {content : List UInt8}
    (unedited : ∀ new, .edit stem new ∉ steps)
    (h : directory.files (labelsName stem) = some content) :
    (corpusAfter lib directory steps).files (labelsName stem) = some content := by
  apply List.foldlRecOn (motive := fun d => d.files (labelsName stem) = some content) steps
    (CorpusStep.apply lib) h
  intro reached kept step hstep
  apply apply_labels _ kept
  intro new same
  exact unedited new (same ▸ hstep)

/-- A document's name tells its hash. -/
theorem documentName_digest_inj {document document' : PyStr} {ext ext' : String}
    (h : documentName (lib.digest document) ext = documentName (lib.digest document') ext') :
    lib.sha256 (utf8 document) = lib.sha256 (utf8 document') := by
  have texts := congrArg (fun name => name.toList.take 64) h
  have length : ∀ n, (PyText.toHex 64 n).length = 64 := PyText.length_toHex 64
  simp only [documentName, CorpusLib.digest, String.toList_append, String.toList_ofList,
    List.append_assoc, List.take_left' (length _)] at texts
  have back : ∀ n : Fin (2 ^ 256), PyText.int16 (PyText.toHex 64 n.val) = some (n.val : Int) :=
    fun n => PyText.int16_toHex 63 n.val (by omega)
  have values := (back _).symm.trans ((congrArg PyText.int16 texts).trans (back _))
  apply Fin.ext
  simpa using values

/-- No two documents that the captures among some steps are entitled to write have one
hash and different bytes. -/
def NoCollision (lib : CorpusLib) (steps : List (CorpusStep τ)) : Prop :=
  ∀ call call' pageStatus pageStatus' document document',
    .capture call ∈ steps → .capture call' ∈ steps →
    call.Entitled pageStatus document → call'.Entitled pageStatus' document' →
    lib.sha256 (utf8 document) = lib.sha256 (utf8 document') → utf8 document = utf8 document'

/-- A document stays in place: only a capture of the same bytes writes to its name. -/
theorem apply_document {step : CorpusStep τ} {steps : List (CorpusStep τ)} {call : CorpusCall τ}
    {pageStatus : Int} {document : PyStr} (collides : NoCollision lib steps)
    (mine : .capture call ∈ steps) (entitled : call.Entitled pageStatus document)
    (hstep : step ∈ steps)
    (h : directory.files (documentName (lib.digest document) call.source.documentExt) =
      some (utf8 document)) :
    (step.apply lib directory).files
      (documentName (lib.digest document) call.source.documentExt) = some (utf8 document) := by
  have unlabelled := fun stem =>
    documentName_ne_labelsName call.source (lib.digest document) stem
  cases step with
  | edit stem new =>
    show (directory.put (labelsName stem) new).files _ = some (utf8 document)
    rw [Directory.put_other _ _ (unlabelled stem), h]
  | capture call' =>
    show (captureCorpus lib call' directory).2.files _ = some (utf8 document)
    by_cases same : (captureCorpus lib call' directory).2.files
        (documentName (lib.digest document) call.source.documentExt) =
      directory.files (documentName (lib.digest document) call.source.documentExt)
    · rw [same, h]
    · -- The other capture wrote to the same name, so it captured the same bytes.
      obtain ⟨pageStatus', document', entitled', hname, written⟩ :=
        captureCorpus_changed unlabelled same
      have bytes := collides call call' pageStatus pageStatus' document document' mine hstep
        entitled entitled' (documentName_digest_inj hname)
      rw [written, bytes]

/-- **Corpus soundness.** In any captures between any edits of labels: each capture
leaves existing labels alone, and a failure leaves everything; labels stay until they
are edited; every document is one that was there at the start, or the bytes of a page that
some call was entitled to write, under their hash; and, without collisions, whatever
was captured stays in place to the end. -/
theorem corpus_sound (lib : CorpusLib) (start : Directory String (List UInt8))
    (steps : List (CorpusStep τ)) :
    (∀ before call after, steps = before ++ .capture call :: after →
      CaptureSound lib call (corpusAfter lib start before)) ∧
    (∀ before after stem content, steps = before ++ after →
      (corpusAfter lib start before).files (labelsName stem) = some content →
      (∀ new, .edit stem new ∉ after) →
      (corpusAfter lib start steps).files (labelsName stem) = some content) ∧
    (∀ name, (∀ stem, name ≠ labelsName stem) →
      (corpusAfter lib start steps).files name = start.files name ∨
      ∃ before call after pageStatus document, steps = before ++ .capture call :: after ∧
        call.Entitled pageStatus document ∧
        name = documentName (lib.digest document) call.source.documentExt ∧
        (corpusAfter lib start steps).files name = some (utf8 document)) ∧
    (NoCollision lib steps → ∀ before call after capture,
      steps = before ++ .capture call :: after →
      (captureCorpus lib call (corpusAfter lib start before)).1 = .ok (.ok capture) →
      ∃ pageStatus document, call.Entitled pageStatus document ∧
        capture.sha256 = lib.digest document ∧
        (corpusAfter lib start steps).files
          (documentName capture.sha256 call.source.documentExt) = some (utf8 document)) := by
  refine ⟨?_, ?_, ?_, ?_⟩
  · intro before call after _
    exact captureCorpus_sound lib call _
  · intro before after stem content hsplit placed unedited
    rw [hsplit, corpusAfter_append]
    exact corpusAfter_labels unedited placed
  · intro name hname
    obtain kept | ⟨before, step, after, hsplit, changed, since⟩ :=
      FileStore.foldl_eq_or_changed (CorpusStep.apply lib) (fun d => d.files name) steps start
    · exact .inl kept
    · right
      cases step with
      | edit stem new =>
        exact absurd (Directory.put_other _ new (hname stem)) changed
      | capture call =>
        obtain ⟨pageStatus, document, entitled, named, written⟩ :=
          captureCorpus_changed hname changed
        exact ⟨before, call, after, pageStatus, document, hsplit, entitled, named,
          since.trans written⟩
  · intro collides before call after capture hsplit answered
    obtain ⟨pageStatus, document, entitled, hsha, written⟩ :=
      (captureCorpus_sound lib call (corpusAfter lib start before)).success capture answered
    refine ⟨pageStatus, document, entitled, hsha, ?_⟩
    have split : corpusAfter lib start steps = after.foldl (CorpusStep.apply lib)
        (captureCorpus lib call (corpusAfter lib start before)).2 := by
      rw [hsplit, corpusAfter_append]
      rfl
    rw [hsha] at written ⊢
    rw [split]
    apply List.foldlRecOn (motive := fun d => d.files
      (documentName (lib.digest document) call.source.documentExt) = some (utf8 document)) after
      (CorpusStep.apply lib) written
    intro reached kept step hstep
    exact apply_document collides (by simp [hsplit]) entitled (by simp [hsplit, hstep]) kept

/-- A capture of the stamped page. -/
def stampedCapture : CorpusCall Unit where
  source := terminalPage (some firecrawlId)
  provider := stampedAdapter
  switches := []
  now := none
  st := .new ()
  clock := 0

/-- File names without a directory, and the length for a hash. -/
def plainCorpusLib : CorpusLib where
  sha256 bytes := ⟨bytes.length % 2 ^ 256, Nat.mod_lt _ (Nat.two_pow_pos 256)⟩
  isoformat _ := "1970-01-01T00:00:00+00:00"
  encodeLocale text := text.toUTF8.toList
  child name := name

-- The page goes into a new directory under its hash, next to a label template.
example : ((captureCorpus plainCorpusLib stampedCapture .missing).2.files (documentName
      (plainCorpusLib.digest (PyStr.ofString "<p>Current as of 11 SEPTEMBER 2026 at 0350</p>"))
      "html")).isSome = true := by
  decide +kernel

end PaxPivot
