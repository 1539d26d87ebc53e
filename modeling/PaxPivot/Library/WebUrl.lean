import Mathlib

/-!
# Resolving a reference that begins with a slash

The URL Standard's parser on such a reference against an `http` or `https` base: the
cleaning, the authority after two slashes, the path with its dot segments, and the
query. A URL's text is a list of scalar values. Credentials and fragments are read
past and not kept; the host parser is a parameter.

What the path and query states write they read back: that is the normal form.
-/

namespace WebUrl

/-! ## Percent-encoding -/

/-- The C0 controls, DEL and all that is not ASCII. -/
def c0Set (c : Char) : Bool := c.toNat < 0x20 || 0x7E < c.toNat

/-- Besides: space, `"`, `#`, `<` and `>`. -/
def querySet (c : Char) : Bool := c0Set c || [0x20, 0x22, 0x23, 0x3C, 0x3E].contains c.toNat

/-- Besides: `'`. -/
def specialQuerySet (c : Char) : Bool := querySet c || c.toNat == 0x27

/-- Besides those of a query: `?`, `^`, the backtick, and braces. -/
def pathSet (c : Char) : Bool := querySet c || [0x3F, 0x5E, 0x60, 0x7B, 0x7D].contains c.toNat

def hexDigit (n : Nat) : Char := if n < 10 then Char.ofNat (0x30 + n) else Char.ofNat (0x37 + n)

def percentByte (b : UInt8) : List Char := ['%', hexDigit (b.toNat / 16), hexDigit (b.toNat % 16)]

/-- A character, or the bytes of its UTF-8 when it is in the set. -/
def encodeChar (set : Char → Bool) (c : Char) : List Char :=
  if set c then (String.utf8EncodeChar c).flatMap percentByte else [c]

def encode (set : Char → Bool) (text : List Char) : List Char := text.flatMap (encodeChar set)

/-! ## The states of the parser -/

/-- `/`, and `\` in a special URL. -/
def isSlash (c : Char) : Bool := c == '/' || c == '\\'

def asciiLower (text : List Char) : List Char := text.map Char.toLower

def isSingleDot (segment : List Char) : Bool :=
  [['.'], ['%', '2', 'e']].contains (asciiLower segment)

def isDoubleDot (segment : List Char) : Bool :=
  [['.', '.'], ['.', '%', '2', 'e'], ['%', '2', 'e', '.'],
    ['%', '2', 'e', '%', '2', 'e']].contains (asciiLower segment)

/-- A segment ends, before a slash or at the end of the path. -/
def endSegment (path : List (List Char)) (buffer : List Char) (slash : Bool) : List (List Char) :=
  if isDoubleDot buffer then if slash then path.dropLast else path.dropLast ++ [[]]
  else if isSingleDot buffer then if slash then path else path ++ [[]]
  else path ++ [buffer]

/-- The path state: the segments, and the input from `?` or `#` on. -/
def pathState (path : List (List Char)) (buffer : List Char) :
    List Char → List (List Char) × List Char
  | [] => (endSegment path buffer false, [])
  | c :: rest =>
    if isSlash c then pathState (endSegment path buffer true) [] rest
    else if c == '?' || c == '#' then (endSegment path buffer false, c :: rest)
    else pathState path (buffer ++ encodeChar pathSet c) rest

/-- The query state, on what is left of the input after the path. -/
def queryState : List Char → Option (List Char)
  | '?' :: rest => some (encode specialQuerySet (rest.takeWhile (· != '#')))
  | _ => none

inductive Scheme where
  | http | https
  deriving DecidableEq

def Scheme.text : Scheme → String
  | http => "http"
  | https => "https"

def Scheme.defaultPort : Scheme → Nat
  | http => 80
  | https => 443

structure Origin where
  scheme : Scheme
  host : String
  port : Option Nat
  deriving DecidableEq

/-- `url.origin`. -/
def Origin.text (o : Origin) : String :=
  o.scheme.text ++ "://" ++ o.host ++ (match o.port with
    | none => ""
    | some port => ":" ++ toString port)

structure Url where
  origin : Origin
  path : List (List Char)
  query : Option (List Char)
  deriving DecidableEq

def Url.pathname (u : Url) : List Char := u.path.flatMap ('/' :: ·)

/-- `url.search`: empty also for an empty query. -/
def Url.search (u : Url) : List Char :=
  match u.query with
  | none | some [] => []
  | some (c :: rest) => '?' :: c :: rest

/-- The host state up to the colon of a port, which brackets hide. -/
def hostState (inside : Bool) : List Char → List Char × Option (List Char)
  | [] => ([], none)
  | c :: rest =>
    if c == ':' && !inside then ([], some rest)
    else
      let (host, port) := hostState (if c == '[' then true else if c == ']' then false else inside)
        rest
      (c :: host, port)

/-- The port state: `none` for a failure, `some none` for no port or the default one. -/
def portState (scheme : Scheme) (digits : List Char) : Option (Option Nat) :=
  if !digits.all Char.isDigit then none
  else if digits.isEmpty then some none
  else
    let port := Nat.ofDigitChars 10 digits 0
    if 65535 < port then none else some (if port = scheme.defaultPort then none else some port)

/-- Where an authority ends. -/
def isDelimiter (c : Char) : Bool := isSlash c || c == '?' || c == '#'

/-- The authority, the host and the port states: the origin and the input after them. -/
def authority (hostParse : List Char → Option String) (scheme : Scheme) (input : List Char) :
    Option (Origin × List Char) := do
  let chunk := input.takeWhile (!isDelimiter ·)
  -- Credentials end at the last `@`.
  let (host, port) := hostState false ((chunk.reverse.takeWhile (· != '@')).reverse)
  if host.isEmpty then none
  else
    let host ← hostParse host
    let port ← portState scheme (port.getD [])
    some ({ scheme, host, port }, input.dropWhile (!isDelimiter ·))

/-- The path of a URL of `origin`, and the query. -/
def pathAndQuery (origin : Origin) (input : List Char) : Url :=
  let (path, rest) := pathState [] [] input
  { origin, path, query := queryState rest }

/-- What is dropped inside a reference: tab, line feed and carriage return. -/
def isTabOrNewline (c : Char) : Bool := [0x09, 0x0A, 0x0D].contains c.toNat

/-- What is dropped at its ends: C0 controls and spaces. -/
def isTrimmed (c : Char) : Bool := c.toNat ≤ 0x20

def clean (input : List Char) : List Char :=
  (((input.dropWhile isTrimmed).reverse.dropWhile isTrimmed).reverse).filter (!isTabOrNewline ·)

/-- A base URL: of its parts a reference that begins with a slash takes the origin only. -/
abbrev Base := Origin

/-- `new URL(reference, base)` for a reference that begins with a slash; `none` for
`TypeError`, and for any other reference. -/
def resolve (hostParse : List Char → Option String) (base : Base) (reference : List Char) :
    Option Url :=
  match clean reference with
  | [] => none
  | c :: rest =>
    if !isSlash c then none
    else match rest with
      | d :: more =>
        if isSlash d then do
          let (origin, input) ← authority hostParse base.scheme (more.dropWhile isSlash)
          -- The path start state takes one slash.
          some (pathAndQuery origin (match input with
            | e :: after => if isSlash e then after else input
            | [] => []))
        else some (pathAndQuery base rest)
      | [] => some (pathAndQuery base [])

/-! ## What the states write -/

/-- A character that stands in a written path as it is. -/
def plainChar (c : Char) : Bool := !pathSet c && !isSlash c

/-- A segment that the path state writes. -/
structure PlainSegment (segment : List Char) : Prop where
  chars : ∀ c ∈ segment, plainChar c = true
  notSingle : isSingleDot segment = false
  notDouble : isDoubleDot segment = false

/-- **Normal form.** A path of at least one plain segment, and a query in which
nothing is left to encode. -/
structure Url.Normal (u : Url) : Prop where
  segments : ∀ segment ∈ u.path, PlainSegment segment
  nonempty : u.path ≠ []
  query : ∀ q ∈ u.query, ∀ c ∈ q, specialQuerySet c = false

theorem plainSegment_nil : PlainSegment [] := ⟨by simp, by decide, by decide⟩

/-- What a percent escape is written with. -/
def escapeChars : List Char := '%' :: (List.range 16).map hexDigit

theorem hexDigit_plain : ∀ n < 16, pathSet (hexDigit n) = false ∧
    plainChar (hexDigit n) = true ∧ specialQuerySet (hexDigit n) = false := by
  decide

theorem escapeChars_plain {c : Char} (h : c ∈ escapeChars) :
    pathSet c = false ∧ plainChar c = true ∧ specialQuerySet c = false := by
  obtain _ | ⟨_, hdigit⟩ := h
  · decide
  · obtain ⟨n, hn, rfl⟩ := List.mem_map.1 hdigit
    exact hexDigit_plain n (List.mem_range.1 hn)

theorem hexDigit_mem {n : Nat} (h : n < 16) : hexDigit n ∈ escapeChars :=
  List.mem_cons_of_mem _ (List.mem_map_of_mem (List.mem_range.2 h))

theorem mem_percentByte {b : UInt8} {c : Char} (h : c ∈ percentByte b) : c ∈ escapeChars := by
  have hb := b.toNat_lt
  simp only [percentByte, List.mem_cons, List.not_mem_nil, or_false] at h
  obtain rfl | rfl | rfl := h
  · decide
  · exact hexDigit_mem (by omega)
  · exact hexDigit_mem (by omega)

/-- What comes out of encoding is outside the set, when `%` and the digits are. -/
theorem encodeChar_outside {set : Char → Bool}
    (escapes : ∀ c ∈ escapeChars, set c = false) {c d : Char} (h : d ∈ encodeChar set c) :
    set d = false ∧ (d = c ∨ d ∈ escapeChars) := by
  unfold encodeChar at h
  split at h
  · obtain ⟨b, -, hd⟩ := List.mem_flatMap.1 h
    exact ⟨escapes d (mem_percentByte hd), .inr (mem_percentByte hd)⟩
  case isFalse outside =>
    obtain rfl := List.mem_singleton.1 h
    exact ⟨by simpa using outside, .inl rfl⟩

theorem encodeChar_plain {c d : Char} (hc : isSlash c = false) (h : d ∈ encodeChar pathSet c) :
    plainChar d = true := by
  obtain ⟨outside, rfl | escape⟩ :=
    encodeChar_outside (fun c hc => (escapeChars_plain hc).1) h
  · simp [plainChar, outside, hc]
  · exact (escapeChars_plain escape).2.1

/-- A fact about every character of a given text, by going through the text. -/
theorem forall_of_all {p : Char → Prop} [DecidablePred p] {text : List Char}
    (h : text.all (p ·) = true) : ∀ c ∈ text, p c := by
  simpa using h

/-- Nothing outside the set is encoded. -/
theorem encode_eq_self {set : Char → Bool} {text : List Char} (h : ∀ c ∈ text, set c = false) :
    encode set text = text := by
  induction text with
  | nil => rfl
  | cons c rest ih =>
    have hc : encodeChar set c = [c] := by simp [encodeChar, h c (by simp)]
    show encodeChar set c ++ encode set rest = c :: rest
    rw [hc, ih fun d hd => h d (by simp [hd])]
    rfl

theorem encode_append (set : Char → Bool) (a b : List Char) :
    encode set (a ++ b) = encode set a ++ encode set b := List.flatMap_append

/-- Escapes stay as they are when more is encoded. -/
theorem encode_encode {inner outer : Char → Bool} (escapes : ∀ c ∈ escapeChars, outer c = false)
    (text : List Char) :
    encode outer (encode inner text) = encode (fun c => inner c || outer c) text := by
  induction text with
  | nil => rfl
  | cons c rest ih =>
    have first : encode outer (encodeChar inner c) =
        encodeChar (fun c => inner c || outer c) c := by
      unfold encodeChar
      cases hc : inner c with
      | false => simp [encode, encodeChar, hc]
      | true =>
        simp only [hc, ↓reduceIte, Bool.true_or]
        apply encode_eq_self
        intro d hd
        obtain ⟨b, -, hd⟩ := List.mem_flatMap.1 hd
        exact escapes d (mem_percentByte hd)
    show encode outer (encodeChar inner c ++ encode inner rest) = _
    rw [encode_append, first, ih]
    rfl

theorem endSegment_plain {path : List (List Char)} {buffer : List Char} (slash : Bool)
    (hpath : ∀ s ∈ path, PlainSegment s) (hbuffer : ∀ c ∈ buffer, plainChar c = true) :
    ∀ s ∈ endSegment path buffer slash, PlainSegment s := by
  have add : ∀ (before : List (List Char)) last, (∀ s ∈ before, PlainSegment s) →
      PlainSegment last → ∀ s ∈ before ++ [last], PlainSegment s := by
    intro before last hbefore hlast s hs
    obtain hs | hs := List.mem_append.1 hs
    · exact hbefore s hs
    · rw [List.mem_singleton.1 hs]
      exact hlast
  have shorter : ∀ s ∈ path.dropLast, PlainSegment s :=
    fun s hs => hpath s (List.mem_of_mem_dropLast hs)
  unfold endSegment
  split
  · split
    · exact shorter
    · exact add _ _ shorter plainSegment_nil
  case isFalse double =>
    split
    · split
      · exact hpath
      · exact add _ _ hpath plainSegment_nil
    case isFalse single =>
      exact add _ _ hpath ⟨hbuffer, by simpa using single, by simpa using double⟩

theorem endSegment_ne_nil (path : List (List Char)) (buffer : List Char) :
    endSegment path buffer false ≠ [] := by
  unfold endSegment
  split
  · simp
  · split <;> simp

/-- **The path state writes a normal path**, and stops at the end, at `?` or at `#`. -/
theorem pathState_normal {path : List (List Char)} {buffer input : List Char}
    (hpath : ∀ s ∈ path, PlainSegment s) (hbuffer : ∀ c ∈ buffer, plainChar c = true) :
    (∀ s ∈ (pathState path buffer input).1, PlainSegment s) ∧
      (pathState path buffer input).1 ≠ [] := by
  induction input generalizing path buffer with
  | nil => exact ⟨endSegment_plain false hpath hbuffer, endSegment_ne_nil path buffer⟩
  | cons c rest ih =>
    unfold pathState
    split
    · exact ih (endSegment_plain true hpath hbuffer) (by simp)
    case isFalse slash =>
      split
      · exact ⟨endSegment_plain false hpath hbuffer, endSegment_ne_nil path buffer⟩
      · apply ih hpath
        intro d hd
        obtain hd | hd := List.mem_append.1 hd
        · exact hbuffer d hd
        · exact encodeChar_plain (by simpa using slash) hd

theorem queryState_normal {input q : List Char} (h : queryState input = some q) :
    ∀ c ∈ q, specialQuerySet c = false := by
  unfold queryState at h
  split at h
  · obtain rfl := Option.some.inj h
    intro c hc
    obtain ⟨d, -, hd⟩ := List.mem_flatMap.1 hc
    exact (encodeChar_outside (fun c hc => (escapeChars_plain hc).2.2) hd).1
  · cases h

theorem pathAndQuery_normal (origin : Origin) (input : List Char) :
    (pathAndQuery origin input).Normal := by
  obtain ⟨segments, nonempty⟩ := @pathState_normal [] [] input (by simp) (by simp)
  exact ⟨segments, nonempty, fun q hq => queryState_normal hq⟩

/-- **Every URL that the parser returns is in normal form.** -/
theorem resolve_normal {hostParse : List Char → Option String} {base : Base}
    {reference : List Char} {u : Url} (h : resolve hostParse base reference = some u) :
    u.Normal := by
  unfold resolve at h
  split at h
  · cases h
  · split at h
    · cases h
    · split at h
      · split at h
        · obtain ⟨⟨origin, input⟩, -, hu⟩ := Option.bind_eq_some_iff.1 h
          obtain rfl := Option.some.inj hu
          exact pathAndQuery_normal _ _
        · obtain rfl := Option.some.inj h
          exact pathAndQuery_normal _ _
      · obtain rfl := Option.some.inj h
        exact pathAndQuery_normal _ _

/-! ## Reading a normal form back -/

/-- The path and the query as they are written. -/
def Url.pathSearch (u : Url) : List Char := u.pathname ++ u.search

theorem plainChar_iff {c : Char} :
    plainChar c = true ↔ pathSet c = false ∧ isSlash c = false := by
  simp [plainChar]

/-- The encoded characters are those of visible ASCII that a state leaves. -/
theorem visible_of_query {c : Char} (h : querySet c = false) : 0x20 < c.toNat ∧ c.toNat ≤ 0x7E := by
  simp only [querySet, c0Set, Bool.or_eq_false_iff, decide_eq_false_iff_not,
    List.contains_eq_mem, List.mem_cons] at h
  omega

theorem plainChar_visible {c : Char} (h : plainChar c = true) :
    0x20 < c.toNat ∧ c.toNat ≤ 0x7E ∧ c ≠ '?' ∧ c ≠ '#' := by
  obtain ⟨outside, -⟩ := plainChar_iff.1 h
  have query : querySet c = false := by
    simp only [pathSet, Bool.or_eq_false_iff] at outside
    exact outside.1
  refine ⟨(visible_of_query query).1, (visible_of_query query).2, ?_, ?_⟩
  · rintro rfl
    exact absurd outside (by decide)
  · rintro rfl
    exact absurd outside (by decide)

theorem specialQuery_visible {c : Char} (h : specialQuerySet c = false) :
    0x20 < c.toNat ∧ c.toNat ≤ 0x7E ∧ c ≠ '#' := by
  have query : querySet c = false := by
    simp only [specialQuerySet, Bool.or_eq_false_iff] at h
    exact h.1
  refine ⟨(visible_of_query query).1, (visible_of_query query).2, ?_⟩
  rintro rfl
  exact absurd h (by decide)

/-- The path state reads plain characters into its buffer. -/
theorem pathState_chunk {path : List (List Char)} {buffer segment : List Char} (more : List Char)
    (h : ∀ c ∈ segment, plainChar c = true) :
    pathState path buffer (segment ++ more) = pathState path (buffer ++ segment) more := by
  induction segment generalizing buffer with
  | nil => simp
  | cons c rest ih =>
    have hc := h c (by simp)
    obtain ⟨outside, slash⟩ := plainChar_iff.1 hc
    obtain ⟨-, -, hquestion, hhash⟩ := plainChar_visible hc
    have kept : encodeChar pathSet c = [c] := by simp [encodeChar, outside]
    rw [List.cons_append, pathState, if_neg (by simp [slash]),
      if_neg (by simp [hquestion, hhash]), kept, ih fun d hd => h d (by simp [hd])]
    simp

theorem endSegment_of_plain {path : List (List Char)} {segment : List Char}
    (h : PlainSegment segment) (slash : Bool) :
    endSegment path segment slash = path ++ [segment] := by
  unfold endSegment
  rw [if_neg (by simp [h.notDouble]), if_neg (by simp [h.notSingle])]

/-- **The path state reads plain segments as themselves.** -/
theorem pathState_segments {path : List (List Char)} {segment : List Char}
    {more : List (List Char)} {rest : List Char} (hsegment : PlainSegment segment)
    (hmore : ∀ s ∈ more, PlainSegment s) (hrest : ∀ c ∈ rest.head?, c = '?' ∨ c = '#') :
    pathState path [] (segment ++ (more.flatMap ('/' :: ·) ++ rest)) =
      (path ++ segment :: more, rest) := by
  induction more generalizing path segment with
  | nil =>
    rw [pathState_chunk _ hsegment.chars]
    cases rest with
    | nil => simp [pathState, endSegment_of_plain hsegment]
    | cons c rest =>
      have hslash : isSlash c = false := by
        obtain rfl | rfl := hrest c rfl <;> rfl
      have hstop : (c == '?' || c == '#') = true := by simpa using hrest c rfl
      simp [pathState, hslash, hstop, endSegment_of_plain hsegment]
  | cons next more ih =>
    have slash : isSlash '/' = true := rfl
    rw [pathState_chunk _ hsegment.chars, List.flatMap_cons, List.cons_append, List.cons_append,
      pathState, if_pos slash, List.nil_append, endSegment_of_plain hsegment, List.append_assoc,
      ih (hmore next (by simp)) fun s hs => hmore s (by simp [hs])]
    simp

theorem search_head {u : Url} : ∀ c ∈ u.search.head?, c = '?' ∨ c = '#' := by
  unfold Url.search
  split <;> simp

/-- What a normal query reads back as: nothing when it is empty. -/
theorem queryState_search {u : Url} (h : u.Normal) :
    queryState u.search = u.query.filter (· ≠ []) := by
  unfold Url.search
  split
  case h_1 hquery => simp [hquery, queryState]
  case h_2 hquery => simp [hquery, queryState, Option.filter]
  case h_3 c rest hquery =>
    have outside := h.query (c :: rest) hquery
    have whole : (c :: rest).takeWhile (· != '#') = c :: rest := by
      apply List.takeWhile_eq_self_iff.2
      intro d hd
      simpa using (specialQuery_visible (outside d hd)).2.2
    rw [hquery, queryState, whole, encode_eq_self outside]
    simp [Option.filter]

/-- Visible text needs no cleaning. -/
theorem clean_eq_self {text : List Char} (h : ∀ c ∈ text, 0x20 < c.toNat) : clean text = text := by
  have kept : ∀ l : List Char, (∀ c ∈ l, 0x20 < c.toNat) → l.dropWhile isTrimmed = l := by
    intro l hl
    cases l with
    | nil => rfl
    | cons c rest =>
      have hc := hl c (by simp)
      apply List.dropWhile_cons_of_neg
      simp only [isTrimmed, decide_eq_true_eq]
      omega
  unfold clean
  rw [kept text h, kept text.reverse (by simpa using h), List.reverse_reverse]
  apply List.filter_eq_self.2
  intro c hc
  have := h c hc
  simp only [isTabOrNewline, List.contains_eq_mem, List.mem_cons, List.not_mem_nil, or_false,
    Bool.not_eq_true', decide_eq_false_iff_not]
  omega

theorem pathSearch_visible {u : Url} (h : u.Normal) :
    ∀ c ∈ u.pathSearch, 0x20 < c.toNat ∧ c.toNat ≤ 0x7E := by
  intro c hc
  obtain hpath | hsearch := List.mem_append.1 hc
  · obtain ⟨segment, hsegment, hc⟩ := List.mem_flatMap.1 hpath
    obtain _ | ⟨_, hc⟩ := hc
    · decide
    · have := plainChar_visible ((h.segments segment hsegment).chars c hc)
      exact ⟨this.1, this.2.1⟩
  · unfold Url.search at hsearch
    split at hsearch
    · cases hsearch
    · cases hsearch
    case h_3 d rest hquery =>
      obtain _ | ⟨_, hc⟩ := hsearch
      · decide
      · have := specialQuery_visible (h.query _ hquery c hc)
        exact ⟨this.1, this.2.1⟩

/-- A path that a browser takes for a host. -/
def Url.protocolRelative (u : Url) : Bool := ['/', '/'].isPrefixOf u.pathname

/-- The written form begins with a slash, and another slash follows only when the path
is taken for a host. -/
theorem pathSearch_eq_cons {u : Url} (h : u.Normal) (relative : u.protocolRelative = false) :
    ∃ segment more, u.path = segment :: more ∧
      u.pathSearch = '/' :: (segment ++ (more.flatMap ('/' :: ·) ++ u.search)) ∧
      ∀ c ∈ (segment ++ (more.flatMap ('/' :: ·) ++ u.search)).head?, isSlash c = false := by
  obtain ⟨segment, more, hpath⟩ := List.exists_cons_of_ne_nil h.nonempty
  refine ⟨segment, more, hpath, ?_, ?_⟩
  · simp [Url.pathSearch, Url.pathname, hpath]
  have chars := (h.segments segment (by simp [hpath])).chars
  intro c hhead
  cases segment with
  | cons d rest =>
    obtain rfl : d = c := by simpa using hhead
    exact (plainChar_iff.1 (chars d (by simp))).2
  | nil =>
    cases more with
    | cons next more => simp [Url.protocolRelative, Url.pathname, hpath] at relative
    | nil => obtain rfl | rfl := search_head c (by simpa using hhead) <;> rfl

/-- **Plain segments and any visible query resolve to themselves and its encoding.** -/
theorem resolve_plain {segment : List Char} {more : List (List Char)} {rest : List Char}
    (hsegment : PlainSegment segment) (hmore : ∀ s ∈ more, PlainSegment s)
    (hrest : ∀ c ∈ rest.head?, c = '?' ∨ c = '#')
    (visible : ∀ c ∈ '/' :: (segment ++ (more.flatMap ('/' :: ·) ++ rest)), 0x20 < c.toNat)
    (hsecond : ∀ c ∈ (segment ++ (more.flatMap ('/' :: ·) ++ rest)).head?, isSlash c = false)
    (hostParse : List Char → Option String) (base : Base) :
    resolve hostParse base ('/' :: (segment ++ (more.flatMap ('/' :: ·) ++ rest))) =
      some { origin := base, path := segment :: more, query := queryState rest } := by
  have read : pathAndQuery base (segment ++ (more.flatMap ('/' :: ·) ++ rest)) =
      { origin := base, path := segment :: more, query := queryState rest } := by
    unfold pathAndQuery
    rw [pathState_segments hsegment hmore hrest]
    rfl
  have slash : isSlash '/' = true := rfl
  unfold resolve
  rw [clean_eq_self visible]
  simp only [slash, Bool.not_true, Bool.false_eq_true, ↓reduceIte]
  cases htext : segment ++ (more.flatMap ('/' :: ·) ++ rest) with
  | nil => rw [← read, htext]
  | cons d after =>
    have hd : isSlash d = false := hsecond d (by simp [htext])
    simp only [hd, Bool.false_eq_true, ↓reduceIte]
    rw [← read, htext]

/-- **Round trip.** A written normal form resolves to itself on every base, unless it
begins with two slashes. -/
theorem resolve_pathSearch {u : Url} (h : u.Normal) (relative : u.protocolRelative = false)
    (hostParse : List Char → Option String) (base : Base) :
    resolve hostParse base u.pathSearch =
      some { origin := base, path := u.path, query := u.query.filter (· ≠ []) } := by
  obtain ⟨segment, more, hpath, htext, hsecond⟩ := pathSearch_eq_cons h relative
  have visible := fun c hc => (pathSearch_visible h c hc).1
  rw [htext] at visible ⊢
  rw [resolve_plain (h.segments segment (by simp [hpath]))
    (fun s hs => h.segments s (by simp [hpath, hs])) search_head visible hsecond,
    queryState_search h, hpath]

end WebUrl
