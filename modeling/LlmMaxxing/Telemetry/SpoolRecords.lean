import LlmMaxxing.Telemetry.Spool

/-!
# What an event takes in the spool (`telemetry/writer.py`)

`_append_event` reads the canonical bytes of an event back and writes them into a record with the
end of the chain, the segment and the sequence, and its digest. `length_recordLine_le`: the line is
never longer than the slot that was reserved for it. `appendEvent_ok`: while the sequence and the
segment are safe integers, an append does not raise.
-/

namespace LlmMaxxing.Telemetry

open Json Check

/-! ## Sorting keeps a document compact -/

theorem safeInts_norm (v : Json) : safeInts v.norm = safeInts v := by
  induction v using Json.induct with
  | null => rfl
  | bool b => rfl
  | num n => rfl
  | str s => rfl
  | arr items ih =>
    rw [Json.norm, safeInts, safeInts, Bool.eq_iff_iff, safeItems_iff, safeItems_iff, normItems_eq,
      List.forall_mem_map]
    exact forall₂_congr fun v hv => by rw [ih v hv]
  | obj fields ih =>
    have hperm := SortOn.perm (fun q : String × Json => utf16 q.1)
      (fields.map fun q => (q.1, q.2.norm))
    rw [Json.norm, safeInts, safeInts, Bool.eq_iff_iff, safeFields_iff, safeFields_iff, normFields_eq]
    calc (∀ q ∈ sortOn (fun q : String × Json => utf16 q.1) (fields.map fun q => (q.1, q.2.norm)),
          safeInts q.2 = true)
        ↔ ∀ q ∈ fields.map fun q => (q.1, q.2.norm), safeInts q.2 = true :=
          forall_congr' fun q => imp_congr_left hperm.mem_iff
      _ ↔ ∀ q ∈ fields, safeInts q.2.norm = true := List.forall_mem_map
      _ ↔ ∀ q ∈ fields, safeInts q.2 = true := forall₂_congr fun q hq => by rw [ih q hq]

/-- The document that `json.loads` gives back for the canonical bytes of an event. -/
def EventFields.document (e : EventFields) : Json := e.dump.norm

theorem canonicalEventBytes_eq (e : EventFields) :
    e.canonicalEventBytes = .ok (utf8 e.dump.render) := by
  rw [EventFields.canonicalEventBytes, serialize, if_pos e.compact_dump.safe]

theorem parse_canonicalEventBytes (e : EventFields) :
    parse (utf8 e.dump.render) = some e.document :=
  parse_utf8_render (holds_readable_of_safeInts _ e.compact_dump.distinct e.compact_dump.safe)

theorem safeInts_document (e : EventFields) : safeInts e.document = true := by
  rw [EventFields.document, safeInts_norm]
  exact e.compact_dump.safe

theorem byteBound_document (e : EventFields) : e.document.byteBound ≤ 3098 := by
  rw [EventFields.document, byteBound, boundBy_norm]
  exact e.compact_dump.small

/-- **The fields of an event decide whether it is valid**: every event is small enough. -/
theorem kindFieldsAndSize_of_kindFields {e : EventFields} (h : e.kindFields = .ok ()) :
    e.kindFieldsAndSize = .ok () := by
  have hsmall : (utf8 e.dump.render).length ≤ maxEventBytes :=
    ((utf8_render_length_le _).trans e.compact_dump.small).trans (by decide)
  rw [EventFields.kindFieldsAndSize, h, ok_bind, canonicalEventBytes_eq]
  exact require_eq_ok_iff.mpr hsmall

/-! ## The line of a record -/

section Line

variable {sha256 : Bytes → HexDigest} {previous : HexDigest} {segment sequence : Nat}
  {event : LifecycleEventV1}

/-- The members of an event record with its digest. -/
def eventMembers (previous digest : HexDigest) (segment sequence : Nat) (document : Json) :
    List (String × Json) :=
  recordPayload previous "event" segment sequence ("event", document) ++
    [("digest", .str digest.text)]

theorem safeInts_recordPayload {recordType : String} {body : String × Json} :
    safeInts (.obj (recordPayload previous recordType segment sequence body)) = true ↔
      segment ≤ maxSafeInteger ∧ sequence ≤ maxSafeInteger ∧ safeInts body.2 = true := by
  simp [recordPayload, safeInts, safeFields]

theorem safeInts_eventMembers {digest : HexDigest} {document : Json} :
    safeInts (.obj (eventMembers previous digest segment sequence document)) = true ↔
      segment ≤ maxSafeInteger ∧ sequence ≤ maxSafeInteger ∧ safeInts document = true := by
  simp [eventMembers, recordPayload, safeInts, safeFields]

theorem byteBound_digest (d : HexDigest) : (Json.str d.text).byteBound ≤ 66 :=
  (compact_hex d.valid).small

theorem byteBound_eventMembers {digest : HexDigest} {document : Json}
    (hsegment : segment ≤ maxSafeInteger) (hsequence : sequence ≤ maxSafeInteger)
    (hdocument : document.byteBound ≤ 3098) :
    (Json.obj (eventMembers previous digest segment sequence document)).byteBound ≤ 3347 := by
  have hprevious := byteBound_digest previous
  have hdigest := byteBound_digest digest
  have hnumber : ∀ n : Nat, n ≤ maxSafeInteger → (Json.num n).byteBound ≤ 16 :=
    fun n hn => (compact_num hn).small
  have hseg := hnumber segment hsegment
  have hseq := hnumber sequence hsequence
  have hnames : quotedBytes "previous_digest" = 17 ∧ quotedBytes "record_type" = 13 ∧
      quotedBytes "segment" = 9 ∧ quotedBytes "sequence" = 10 ∧ quotedBytes "event" = 7 ∧
      quotedBytes "digest" = 8 := by
    decide +kernel
  obtain ⟨h₁, h₂, h₃, h₄, h₅, h₆⟩ := hnames
  show boundFieldsBy quotedBytes (eventMembers previous digest segment sequence document) + 2 ≤ 3347
  unfold byteBound at hprevious hdigest hseg hseq hdocument
  have htype : (Json.str "event").boundBy quotedBytes = 7 := h₅
  simp only [eventMembers, recordPayload, List.cons_append, List.nil_append, boundFieldsBy, h₁, h₂,
    h₃, h₄, h₅, h₆, htype]
  omega

theorem recordLine_ok_iff {document : Json} {digest : HexDigest} {line : Bytes} :
    recordLine sha256 previous "event" segment sequence ("event", document) = .ok (digest, line) ↔
      (segment ≤ maxSafeInteger ∧ sequence ≤ maxSafeInteger ∧ safeInts document = true) ∧
        digest = sha256 (recordDomain ++ utf8 (Json.obj
          (recordPayload previous "event" segment sequence ("event", document))).render) ∧
        line = utf8 (Json.obj (eventMembers previous digest segment sequence document)).render ++
          [10] := by
  by_cases hsafe : segment ≤ maxSafeInteger ∧ sequence ≤ maxSafeInteger ∧ safeInts document = true
  · have hpayload : safeInts (.obj (recordPayload previous "event" segment sequence
        ("event", document))) = true := safeInts_recordPayload.mpr hsafe
    have hmembers : ∀ d, safeInts (.obj (recordPayload previous "event" segment sequence
        ("event", document) ++ [("digest", .str (HexDigest.text d))])) = true :=
      fun d => safeInts_eventMembers.mpr hsafe
    simp only [recordLine, serialize, hpayload, hmembers, if_true, ok_bind, pure_eq_ok,
      Except.ok.injEq, Prod.mk.injEq, hsafe, true_and]
    constructor
    · rintro ⟨rfl, rfl⟩
      exact ⟨rfl, rfl⟩
    · rintro ⟨rfl, rfl⟩
      exact ⟨rfl, rfl⟩
  · have hpayload : ¬safeInts (.obj (recordPayload previous "event" segment sequence
        ("event", document))) = true := fun h => hsafe (safeInts_recordPayload.mp h)
    constructor
    · intro h
      rw [recordLine, serialize, if_neg hpayload] at h
      cases h
    · exact fun h => absurd h.1 hsafe

/-- **No event outgrows its slot.** -/
theorem length_recordLine_le {digest : HexDigest} {line : Bytes}
    (h : recordLine sha256 previous "event" segment sequence ("event", event.document) =
      .ok (digest, line)) : line.length ≤ maxEventBytes := by
  obtain ⟨⟨hsegment, hsequence, -⟩, -, rfl⟩ := recordLine_ok_iff.mp h
  have hbound : (Json.obj (eventMembers previous digest segment sequence event.document)).byteBound ≤
      3347 := byteBound_eventMembers hsegment hsequence (byteBound_document event.toEventFields)
  have hlength := (utf8_render_length_le _).trans hbound
  rw [List.length_append]
  show _ + 1 ≤ 4096
  omega

/-- A line that `_append_payload` makes for the event. -/
def MakesLine (sha256 : Bytes → HexDigest) (event : LifecycleEventV1) (line : Bytes) : Prop :=
  ∃ bytes document previous segment sequence digest, event.canonicalEventBytes = .ok bytes ∧
    parse bytes = some document ∧
    recordLine sha256 previous "event" segment sequence ("event", document) = .ok (digest, line)

theorem MakesLine.length_le {line : Bytes} (h : MakesLine sha256 event line) :
    line.length ≤ maxEventBytes := by
  obtain ⟨bytes, document, previous, segment, sequence, digest, hbytes, hparse, hline⟩ := h
  rw [canonicalEventBytes_eq] at hbytes
  obtain rfl := Except.ok.inj hbytes
  rw [parse_canonicalEventBytes] at hparse
  obtain rfl := Option.some.inj hparse
  exact length_recordLine_le hline

theorem recordLine_ok (hsegment : segment ≤ maxSafeInteger) (hsequence : sequence ≤ maxSafeInteger) :
    ∃ digest line, recordLine sha256 previous "event" segment sequence ("event", event.document) =
      .ok (digest, line) :=
  ⟨_, _, recordLine_ok_iff.mpr ⟨⟨hsegment, hsequence, safeInts_document _⟩, rfl, rfl⟩⟩

end Line

/-! ## Appending an event -/

namespace SpoolFiles

variable {sha256 : Bytes → HexDigest} {c : SpoolConfig} {aged : Bool} {nowMs : Nat}
  {event : LifecycleEventV1} {f : SpoolFiles}

/-- The lines that are there stay, and one is added for the event. -/
structure Appends (event : LifecycleEventV1) (f f' : SpoolFiles) : Prop where
  added : ∃ line, f'.appended = f.appended ++ [line] ∧ line.event = event ∧
    line.line.length ≤ maxEventBytes

theorem appended_rotateIfNeeded (lineBytes : Nat) :
    (f.rotateIfNeeded c lineBytes aged nowMs).appended = f.appended := by
  unfold rotateIfNeeded
  split_ifs <;> rfl

theorem le_foldl_max (l : List Nat) (a : Nat) : a ≤ l.foldl max a := by
  induction l generalizing a with
  | nil => exact le_refl a
  | cons b rest ih => exact (le_max_left a b).trans (ih _)

theorem current_le_maxIndex : f.current.index ≤ f.maxIndex := le_foldl_max _ _

/-- The segment after a rotation is the one before it or the next one. -/
theorem index_rotateIfNeeded_le (lineBytes : Nat) :
    (f.rotateIfNeeded c lineBytes aged nowMs).current.index ≤ f.maxIndex + 1 := by
  unfold rotateIfNeeded
  split_ifs
  · exact le_refl _
  · exact current_le_maxIndex.trans (Nat.le_succ _)

/-- **An append does not raise** while the next sequence and the next segment are safe integers. -/
theorem appendEvent_ok (hsequence : f.lastSequence + 1 ≤ maxSafeInteger)
    (hindex : f.maxIndex + 1 ≤ maxSafeInteger) :
    ∃ f', f.appendEvent sha256 c aged nowMs event = (f', .ok ()) ∧ Appends event f f' := by
  have hsegment : f.current.index ≤ maxSafeInteger := by
    have := f.current_le_maxIndex
    omega
  obtain ⟨digest, line, hline⟩ : ∃ digest line, recordLine sha256 f.lastDigest "event"
      f.current.index (f.lastSequence + 1) ("event", event.document) = .ok (digest, line) :=
    recordLine_ok hsegment hsequence
  have hwritten : ∀ g : SpoolFiles, g.appended = f.appended → ∀ digest line,
      line.length ≤ maxEventBytes →
        Appends event f (g.written (f.lastSequence + 1) digest line event) := by
    intro g hg digest line hlength
    refine ⟨⟨g.current.index, f.lastSequence + 1, event, line⟩, ?_, rfl, hlength⟩
    show g.appended ++ _ = _
    rw [hg]
  unfold appendEvent
  rw [canonicalEventBytes_eq]
  dsimp only
  rw [parse_canonicalEventBytes]
  dsimp only
  unfold appendPayload
  dsimp only
  rw [hline]
  dsimp only
  generalize hrotated : f.rotateIfNeeded c line.length aged nowMs = rotated
  have happended : rotated.appended = f.appended := hrotated ▸ appended_rotateIfNeeded _
  have hnext : rotated.current.index ≤ maxSafeInteger := by
    have hle : (f.rotateIfNeeded c line.length aged nowMs).current.index ≤ f.maxIndex + 1 :=
      index_rotateIfNeeded_le line.length
    rw [hrotated] at hle
    omega
  by_cases hsame : rotated.current.index = f.current.index
  · have hlength := length_recordLine_le hline
    rw [if_neg (not_not.mpr hsame)]
    dsimp only
    rw [if_neg (Nat.not_lt.mpr hlength)]
    exact ⟨_, rfl, hwritten rotated happended digest line hlength⟩
  · -- the record was made for the old segment and is made again
    obtain ⟨digest', line', hagain⟩ : ∃ digest line, recordLine sha256 f.lastDigest "event"
        rotated.current.index (f.lastSequence + 1) ("event", event.document) = .ok (digest, line) :=
      recordLine_ok hnext hsequence
    have hlength := length_recordLine_le hagain
    rw [if_pos hsame, hagain]
    dsimp only
    rw [if_neg (Nat.not_lt.mpr hlength)]
    exact ⟨_, rfl, hwritten rotated happended digest' line' hlength⟩

end SpoolFiles

end LlmMaxxing.Telemetry
