import PaxPivot.Web.Trips.TripScreens

/-!
# What the trip pages tell

The pages over an API that has run, with any network and any configuration of the web. What was
created and committed is shown; that there is nothing is said only by who could read that there is
nothing.
-/

namespace PaxPivot

open JsText (ofString fits unit)

/-! ## Ids in paths -/

theorem fits_replicate {p : CodeUnit → Bool} {n : Nat} {text : JsString} (length : text.length = n)
    (h : ∀ u ∈ text, p u = true) : fits (List.replicate n p) text = true := by
  subst length
  induction text with
  | nil => rfl
  | cons u rest ih =>
    rw [List.length_cons, List.replicate_succ, fits, h u List.mem_cons_self,
      ih fun v hv => h v (List.mem_cons_of_mem _ hv)]
    rfl

theorem isHex_unit {c : Char} (h : c ∈ "0123456789abcdef".toList) : isHex (unit c) = true := by
  have all : "0123456789abcdef".toList.all (fun c => isHex (unit c)) = true := by decide
  exact List.all_eq_true.1 all c h

/-- An id in a path: its canonical text. -/
def pathId (id : UUID) : JsString := ofString id.str

theorem str_ascii (id : UUID) : ∀ c ∈ id.str.toList, c.toNat < 0x80 := by
  have all : "0123456789abcdef-".toList.all (fun c => decide (c.toNat < 0x80)) = true := by decide
  intro c hc
  simpa using List.all_eq_true.1 all c (UUID.mem_str hc)

theorem pathId_parse (id : UUID) :
    UUID.parse (String.ofList (JsText.scalars (pathId id))) = some id := by
  have back : JsText.scalars (pathId id) = id.str.toList := JsText.scalars_ofScalars (str_ascii id)
  rw [back, String.ofList_toList, UUID.parse_str]

/-- Some digits and a hyphen in front of a text. -/
theorem fits_group {n : Nat} {front rest : JsString} {more : List (CodeUnit → Bool)}
    (length : front.length = n) (h : ∀ u ∈ front, isHex u = true) (hrest : fits more rest = true) :
    fits (List.replicate n isHex ++ hyphen :: more) (front ++ unit '-' :: rest) = true := by
  refine JsText.fits_append.2 ⟨front, _, rfl, fits_replicate length h, ?_⟩
  have dash : hyphen (unit '-') = true := by decide
  rw [fits, dash, hrest]
  rfl

theorem pathId_shape (id : UUID) : fits tripIdShape (pathId id) = true := by
  have text : pathId id = id.str.toList.map unit := JsText.ofScalars_eq_map (str_ascii id)
  have hex : ∀ part : List Char, part ⊆ PyText.toHex 32 id.val →
      ∀ u ∈ part.map unit, isHex u = true := by
    intro part within u hu
    obtain ⟨c, hc, rfl⟩ := List.mem_map.1 hu
    exact isHex_unit (PyText.mem_toHex (within hc))
  have length := PyText.length_toHex 32 id.val
  have whole : id.str.toList = (PyText.toHex 32 id.val).take 8 ++ '-' ::
      (((PyText.toHex 32 id.val).drop 8).take 4 ++ '-' ::
        (((PyText.toHex 32 id.val).drop 12).take 4 ++ '-' ::
          (((PyText.toHex 32 id.val).drop 16).take 4 ++ '-' ::
            (PyText.toHex 32 id.val).drop 20))) := by
    unfold UUID.str
    rw [String.toList_ofList]
    simp only [List.append_assoc, List.cons_append]
  rw [text, whole]
  generalize PyText.toHex 32 id.val = h at hex length
  have some : ∀ n, (h.drop n).take 4 ⊆ h := fun n c hc =>
    List.mem_of_mem_drop (List.mem_of_mem_take hc)
  simp only [List.map_append, List.map_cons]
  refine fits_group (by simp [length]) (hex _ fun c hc => List.mem_of_mem_take hc) ?_
  refine fits_group (by simp [length]) (hex _ (some 8)) ?_
  refine fits_group (by simp [length]) (hex _ (some 12)) ?_
  refine fits_group (by simp [length]) (hex _ (some 16)) ?_
  exact fits_replicate (by simp [length]) (hex _ fun c hc => List.mem_of_mem_drop hc)

/-! ## The pages after a run -/

section Pages

variable {site : Site} {database : Database} {moves : List ApiMove} {reached : Bool} {now : Int}

/-- A read that is not a page of its own fails on the page. -/
theorem tripsPage_error {failure : ApiFailure} (h : failure ≠ .notConfigured) :
    tripsPage (.error failure) = .failed := by
  cases failure with
  | notConfigured => exact absurd rfl h
  | _ => rfl

/-- **The trips page tells what is committed.** Who is let in sees every committed trip once, newest
first, under the name its origin has by then, unless an instant of one cannot be read; the page says
that there are none only to who is let in, and only when none is committed. Without a configuration
it says so, and all else is its error state. -/
theorem trips_page_true (site : Site) (database : Database) (moves : List ApiMove) (reached : Bool)
    (now : Int) :
    let s := ((Server.start database).run site.api moves).1
    let kept := committedTrips ((Server.start database).run site.api moves).2
    let readable := kept.all TripRow.loads = true
    let page := tripsPage (site.readTrips s reached now)
    (¬ site.Configured → page = .notConfigured) ∧
    (site.Configured → ¬ (Admitted site reached ∧ readable) → page = .failed) ∧
    (Admitted site reached → readable →
      ∃ reads : List TripRead, (reads.map TripRead.row).Perm kept ∧
        (reads.map TripRead.row).Pairwise TripRow.listedBefore ∧
        (∀ read ∈ reads, ShownAs s read.row read) ∧
        page = .shown (if kept = [] then emptyTrips
          else { status := .ready, trips := reads.map toTripCardView })) := by
  intro s kept readable page
  have sound : s.Sound := run_sound
  have log : s.trips = kept := trips_run site.api database moves
  have list := answerRead_trips sound now
  rw [log] at list
  refine ⟨fun unset => ?_, fun set out => ?_, fun admitted loads => ?_⟩
  · show tripsPage (site.readTrips s reached now) = _
    rw [Site.readTrips, Site.readApi, callApi_unset unset]
    rfl
  · show tripsPage (site.readTrips s reached now) = _
    by_cases admitted : Admitted site reached
    · have unread : ¬ readable := fun loads => out ⟨admitted, loads⟩
      rw [if_neg unread] at list
      rw [Site.readTrips, readApi_admitted admitted, list]
      rfl
    · obtain ⟨failure, refused, same⟩ :=
        readApi_refused .trips ApiAnswer.tripsJson now set admitted
      rw [Site.readTrips, same]
      apply tripsPage_error
      rintro rfl
      exact absurd refused (by decide)
  · rw [if_pos loads] at list
    obtain ⟨reads, answer, perm, sorted, shown⟩ := list
    refine ⟨reads, perm, sorted, shown, ?_⟩
    show tripsPage (site.readTrips s reached now) = _
    rw [Site.readTrips, readApi_admitted admitted, answer]
    have length := perm.length_eq
    rw [List.length_map] at length
    show PageAnswer.shown (if reads.length = 0 then _ else _) = _
    simp only [length, List.length_eq_zero_iff]
    rfl

section OnePage

variable (localeCompare : Identifier → Identifier → Ordering) (isoText : Int → String) (id : UUID)

theorem readTrip_pathId (s : Server) :
    site.readTrip s reached now (pathId id) =
      site.readApi s reached now (.trip id) ApiAnswer.tripJson := by
  unfold Site.readTrip
  rw [pathId_parse]

/-- The page of an id by what its read comes to. -/
theorem tripPage_pathId (readTrip : JsString → ApiResult TripRead)
    (readNetwork : ApiResult TerminalNetworkRead)
    (readDetail : UUID → ApiResult TerminalDetailRead) (nowMs : Int) :
    tripPage localeCompare isoText (pathId id) readTrip readNetwork readDetail nowMs =
      match readTrip (pathId id) with
      | .error .notFound | .error .invalid => .notFound
      | .error .notConfigured => .notConfigured
      | .error _ => .failed
      | .ok trip =>
        match toCommercialHandoffViewModel isoText trip with
        | none => .raised
        | some handoff =>
          .shown
            { detail := toTripDetailModel trip
              terminals := readNetwork.toOption.map fun network =>
                toTerminalsToCheckViewModel localeCompare trip network
                  (readTerminalDetails readDetail network) nowMs
              handoff } :=
  if_neg (not_not.2 (pathId_shape id))

/-- The page shows a trip as it was read, or raises under the name of its origin. -/
def PageOf (isoText : Int → String) (read : TripRead) (page : PageAnswer TripPageModel) : Prop :=
  (∃ model, page = .shown model ∧ model.detail = toTripDetailModel read ∧
    toCommercialHandoffViewModel isoText read = some model.handoff) ∨
  page = .raised ∧ read.originTerminalName.text ∈ inheritedFunctions

theorem pageOf_read {read : TripRead} (readTrip : JsString → ApiResult TripRead)
    (h : readTrip (pathId id) = .ok read) (readNetwork : ApiResult TerminalNetworkRead)
    (readDetail : UUID → ApiResult TerminalDetailRead) (nowMs : Int) :
    PageOf isoText read
      (tripPage localeCompare isoText (pathId id) readTrip readNetwork readDetail nowMs) := by
  rw [tripPage_pathId, h]
  dsimp only
  cases hhandoff : toCommercialHandoffViewModel isoText read with
  | some handoff => exact .inl ⟨_, rfl, rfl, hhandoff⟩
  | none =>
    unfold toCommercialHandoffViewModel at hhandoff
    rw [Option.map_eq_none_iff] at hhandoff
    unfold originAirportsForTerminal at hhandoff
    split at hhandoff
    · cases hhandoff
    · split at hhandoff
      case isTrue inherited => exact .inr ⟨rfl, inherited⟩
      case isFalse => cases hhandoff

/-- Who is let in sees a trip of the table on its page. -/
theorem tripPage_kept (now : Int) (readNetwork : ApiResult TerminalNetworkRead)
    (readDetail : UUID → ApiResult TerminalDetailRead) (nowMs : Int) {s : Server} (sound : s.Sound)
    (admitted : Admitted site reached) {r : TripRow} (hr : r ∈ s.trips) :
    let page := tripPage localeCompare isoText (pathId r.tripId) (site.readTrip s reached now)
      readNetwork readDetail nowMs
    if r.loads then ∃ read, ShownAs s r read ∧ PageOf isoText read page
    else page = .failed := by
  intro page
  have read := (answerRead_trip sound now).1 r hr
  split
  case isTrue loads =>
    rw [if_pos loads] at read
    obtain ⟨read, answer, shown⟩ := read
    have found : site.readTrip s reached now (pathId r.tripId) = .ok read := by
      rw [readTrip_pathId, readApi_admitted admitted, answer]
      rfl
    exact ⟨read, shown, pageOf_read localeCompare isoText r.tripId (site.readTrip s reached now)
      found readNetwork readDetail nowMs⟩
  case isFalse unread =>
    rw [if_neg unread] at read
    refine (tripPage_pathId localeCompare isoText r.tripId (site.readTrip s reached now)
      readNetwork readDetail nowMs).trans ?_
    rw [readTrip_pathId, readApi_admitted admitted, read]
    rfl

/-- Who is let in is told of an id that no trip of the table has. -/
theorem tripPage_absent (now : Int) (readNetwork : ApiResult TerminalNetworkRead)
    (readDetail : UUID → ApiResult TerminalDetailRead) (nowMs : Int) {s : Server} (sound : s.Sound)
    (admitted : Admitted site reached) (absent : ∀ r ∈ s.trips, r.tripId ≠ id) :
    tripPage localeCompare isoText (pathId id) (site.readTrip s reached now) readNetwork readDetail
      nowMs = .notFound := by
  rw [tripPage_pathId, readTrip_pathId, readApi_admitted admitted,
    (answerRead_trip sound now).2 id absent]
  rfl

/-- **A trip's page is there exactly when the trip is committed.** Who is let in sees a committed
trip with its facts and its handoff, under the name its origin has by then, and of any other id
that it is not found; who is not let in is never told that a trip is not there. The page of a
committed trip is the error state where an instant of the trip cannot be read, and raises where its
origin has the name of a function that every object inherits. -/
theorem trip_page_true (site : Site) (database : Database) (moves : List ApiMove) (reached : Bool)
    (now : Int) (localeCompare : Identifier → Identifier → Ordering) (isoText : Int → String)
    (readNetwork : ApiResult TerminalNetworkRead)
    (readDetail : UUID → ApiResult TerminalDetailRead) (nowMs : Int) (id : UUID) :
    let s := ((Server.start database).run site.api moves).1
    let kept := committedTrips ((Server.start database).run site.api moves).2
    let page := tripPage localeCompare isoText (pathId id) (site.readTrip s reached now) readNetwork
      readDetail nowMs
    (¬ site.Configured → page = .notConfigured) ∧
    (site.Configured → ¬ Admitted site reached → page = .failed) ∧
    (Admitted site reached → (∀ r ∈ kept, r.tripId ≠ id) → page = .notFound) ∧
    (Admitted site reached → ∀ r ∈ kept, r.tripId = id →
      if r.loads then ∃ read, ShownAs s r read ∧ PageOf isoText read page
      else page = .failed) := by
  intro s kept page
  have sound : s.Sound := run_sound
  have log : s.trips = kept := trips_run site.api database moves
  -- What the page comes to, by what reading the trip comes to.
  have whole := tripPage_pathId localeCompare isoText id (site.readTrip s reached now) readNetwork
    readDetail nowMs
  rw [readTrip_pathId] at whole
  refine ⟨fun unset => whole.trans ?_, fun set refused => whole.trans ?_,
    fun admitted other => ?_, ?_⟩
  · rw [Site.readApi, callApi_unset unset]
  · obtain ⟨failure, reasons, same⟩ :=
      readApi_refused (.trip id) ApiAnswer.tripJson now set refused
    rw [same]
    rcases List.mem_pair.1 reasons with rfl | rfl
    · rfl
    · rfl
  · rw [← log] at other
    exact tripPage_absent localeCompare isoText id now readNetwork readDetail nowMs sound admitted
      other
  · rintro admitted r hr rfl
    rw [← log] at hr
    exact tripPage_kept localeCompare isoText now readNetwork readDetail nowMs sound admitted hr

end OnePage

end Pages

end PaxPivot
