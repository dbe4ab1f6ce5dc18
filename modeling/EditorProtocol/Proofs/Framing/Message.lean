import Mathlib.Data.List.Forall2
import EditorProtocol.Framing.Message
import EditorProtocol.Proofs.Codec.Outcome
import EditorProtocol.Proofs.Framing.Header

/-!
Messages that are read back from a stream. With the default settings every frame that was written is
read as its message and nothing behind it is touched; a frame that is cut off is read as none. So of
a stream of frames that ends anywhere exactly the whole ones are read, and then an error tells that
there are no more.
-/

namespace EditorProtocol

variable {m : Value} {rest : Bytes} {k : Nat}

/-! ### The encoding of contents -/

theorem canonicalName_utf8 : canonicalName "utf-8" = "utf_8" := by
  have hname : "utf-8".toList = ['u', 't', 'f', '-', '8'] := by simp
  rw [canonicalName, hname]
  decide

theorem ofName_utf8 (reading : Bool) : Encoding.ofName "utf-8" reading = .ok .utf8 := by
  have hnull : "utf-8".contains '\x00' = false := by simp
  have hnamed : named? encodingNames "utf_8" = some .utf8 := rfl
  rw [Encoding.ofName, canonicalName_utf8, hnull, hnamed]
  rfl

theorem encodeNamed_utf8 (cs : List Char) : encodeNamed "utf-8" cs = .ok (utf8Bytes cs) := by
  rw [encodeNamed, ofName_utf8, ok_bind, encode_utf8]
  rfl

theorem decodeNamed_utf8 (cs : List Char) : decodeNamed "utf-8" (utf8Bytes cs) = .ok cs := by
  have hread : Encoding.utf8.decode (utf8Bytes cs) = .ok cs := readUtf8_utf8Bytes cs "utf-8" 0
  rw [decodeNamed, ofName_utf8]
  dsimp only
  rw [hread]
  split
  · next hempty =>
    rw [List.isEmpty_iff.1 hempty, Encoding.decode, CharReader.readAll] at hread
    exact hread
  · rfl

/-! ### Headers of frames -/

/-- The line that announces the length of a content. -/
def lengthField (n : Nat) : HeaderField := ⟨"Content-Length".toList, ' ' :: Nat.toDigits 10 n⟩

/-- The line that announces what a content is. -/
def typeField (settings : TransportSettings) : HeaderField :=
  ⟨"Content-Type".toList, ' ' :: (settings.contentType ++ "; charset=" ++ settings.encoding).toList⟩

/-- The header of a frame. -/
def frameHeader (settings : TransportSettings) (n : Nat) : List HeaderField :=
  [lengthField n, typeField settings]

theorem headerText_eq (settings : TransportSettings) (n : Nat) :
    (headerText settings n).toList = headerBlock (frameHeader settings n) := by
  have hlength : "Content-Length: ".toList = "Content-Length".toList ++ [':', ' '] := by decide
  have htype : "\r\nContent-Type: ".toList =
      ['\r', '\n'] ++ "Content-Type".toList ++ [':', ' '] := by
    decide
  have hend : "\r\n\r\n".toList = ['\r', '\n', '\r', '\n'] := by decide
  show _ = (lengthField n).line ++ ['\n'] ++
    ((typeField settings).line ++ ['\n'] ++ (['\r'] ++ ['\n']))
  unfold headerText HeaderField.line lengthField typeField
  rw [Nat.toString_eq_ofList_toDigits]
  simp only [String.toList_append, String.toList_ofList, hlength, htype, hend, List.append_assoc,
    List.cons_append, List.nil_append]

theorem typeField_readable : (typeField {}).Readable where
  text := ⟨isAscii_of_all rfl, by decide, by decide⟩
  noColon := by decide

/-- The digits of a length within the limit. -/
theorem length_toDigits_le {n : Nat} (hn : n ≤ defaultLimit.val) :
    (Nat.toDigits 10 n).length ≤ 8 := by
  refine (Nat.length_toDigits_le_iff (by decide) (by decide)).2 ?_
  exact Nat.lt_of_le_of_lt hn (by decide)

theorem lengthField_readable {n : Nat} (hn : n ≤ defaultLimit.val) : (lengthField n).Readable := by
  have hdigits := Numeral.isDigits_toDigits n
  have hline : (lengthField n).line =
      "Content-Length: ".toList ++ (Nat.toDigits 10 n ++ ['\r']) := by
    show "Content-Length".toList ++ ':' :: ' ' :: (Nat.toDigits 10 n ++ ['\r']) = _
    rw [show "Content-Length: ".toList = "Content-Length".toList ++ [':', ' '] by decide,
      List.append_assoc]
    rfl
  have hascii : IsAscii (Nat.toDigits 10 n) := fun c hc =>
    Nat.lt_of_le_of_lt (Numeral.bounds_of_isDigit (hdigits c hc)).2 (by decide)
  have hfeed : '\n' ∉ Nat.toDigits 10 n := fun h => absurd (hdigits _ h) (by decide)
  have hlength := length_toDigits_le hn
  have hcolon : ':' ∉ "Content-Length".toList := by decide
  refine ⟨⟨?_, ?_, ?_⟩, hcolon⟩
  · rw [hline]
    exact .append (isAscii_of_all rfl) (hascii.append (isAscii_of_all rfl))
  · rw [hline, List.mem_append, List.mem_append]
    rintro (h | h | h)
    · exact absurd h (by decide)
    · exact hfeed h
    · exact absurd h (by decide)
  · rw [hline, List.length_append, List.length_append]
    show 16 + ((Nat.toDigits 10 n).length + 1) ≤ 65536
    omega

theorem lengthField_entry (n : Nat) : (lengthField n).entry = (lengthName, Nat.toDigits 10 n) := by
  have hname : (trimBlanks "Content-Length".toList).map Char.toLower = lengthName := by decide
  have hvalue : trimBlanks (' ' :: Nat.toDigits 10 n) = Nat.toDigits 10 n := by
    refine trimBlanks_cons (by decide) fun c hc => ?_
    have low : 48 ≤ c.val.toNat :=
      (Numeral.bounds_of_isDigit (Numeral.isDigits_toDigits n c hc)).1
    rw [isHeaderBlank]
    simp only [Bool.or_eq_false_iff, Bool.and_eq_false_iff, decide_eq_false_iff_not]
    omega
  exact Prod.ext hname hvalue

/-- The length of a content is read from its frame. -/
theorem contentLength_frame {n : Nat} (hn : n ≤ defaultLimit.val) :
    Header.contentLength defaultLimit.val
      ((frameHeader {} n).map HeaderField.entry) = .ok n := by
  have hfind : Header.find? lengthName ((frameHeader {} n).map HeaderField.entry) =
      some (Nat.toDigits 10 n) := by
    have htype : (lengthName == (typeField {}).entry.1) = false := by decide
    show List.lookup lengthName [(typeField {}).entry, (lengthField n).entry] = _
    rw [lengthField_entry, List.lookup_cons, htype]
    rfl
  have hinteger : Numeral.integer? (Nat.toDigits 10 n) = some (n : Int) :=
    Numeral.integer?_toDigits (Nat.le_trans (length_toDigits_le hn) (by decide))
  rw [Header.contentLength, hfind]
  dsimp only
  rw [hinteger]
  dsimp only
  rw [if_neg (by omega)]
  rfl

/-! ### Contents -/

/-- The text of an object is read as this object. -/
theorem readContent_utf8 {text : List Char} {es : List (String × Value)}
    (h : Json.parseChars text = .ok (.object es)) :
    readContent "utf-8" (utf8Bytes text) = .ok (.object es) := by
  rw [readContent, decodeNamed_utf8]
  dsimp only
  rw [h]

/-- A content of the length that its header tells is read as what it is, whatever comes behind
it. -/
theorem receive_block {fs : List HeaderField} (readable : ∀ f ∈ fs, f.Readable) {content : Bytes}
    (hlength : Header.contentLength defaultLimit.val (fs.map HeaderField.entry) =
      .ok content.length)
    (hcontent : readContent "utf-8" content = .ok m) (rest : Bytes) :
    receive {} (asciiBytes (headerBlock fs) ++ (content ++ rest)) =
      { outcome := .ok m, rest, log := [arrivalEntry content.length] } := by
  have hwhole : ¬ (content ++ rest).length < content.length := by
    rw [List.length_append]
    omega
  rw [receive, takeHeader_block readable]
  dsimp only
  rw [hlength]
  dsimp only
  rw [if_neg hwhole, List.take_left, List.drop_left, hcontent]

/-! ### Frames -/

/-- A message that is an object, whose text in JSON is read back as the message and has no more than
the most bytes that are accepted. -/
structure Sendable (m : Value) (content : Bytes) : Prop where
  object : ∃ es, m = .object es
  json : ∃ text, Json.write m = .ok text ∧ Json.parseChars text.toList = .ok m ∧
    content = utf8Bytes text.toList
  bounded : content.length ≤ defaultLimit.val

/-- The frame of a content. -/
def frameOf (content : Bytes) : Bytes :=
  asciiBytes (headerBlock (frameHeader {} content.length)) ++ content

namespace Sendable

variable {content : Bytes} (h : Sendable m content)

include h

theorem readable : ∀ f ∈ frameHeader {} content.length, f.Readable := by
  rintro f (_ | ⟨_, _ | ⟨_, ⟨⟩⟩⟩)
  · exact lengthField_readable h.bounded
  · exact typeField_readable

theorem frame_eq : frame {} m = .ok (frameOf content) := by
  obtain ⟨text, hwrite, _, hcontent⟩ := h.json
  rw [frame, hwrite]
  show (encodeNamed "utf-8" text.toList).mapError SendError.encoding >>= _ = _
  rw [encodeNamed_utf8, ← hcontent]
  show (Encoding.ascii.encode (headerText {} content.length).toList).mapError
    SendError.encoding >>= _ = _
  rw [headerText_eq, encode_ascii (isAscii_headerBlock h.readable)]
  rfl

theorem readContent_eq : readContent "utf-8" content = .ok m := by
  obtain ⟨text, _, hparse, rfl⟩ := h.json
  obtain ⟨es, rfl⟩ := h.object
  exact readContent_utf8 hparse

/-- A frame is read as its message, whatever comes behind it. -/
theorem receive_frame (rest : Bytes) : receive {} (frameOf content ++ rest) =
    { outcome := .ok m, rest, log := [arrivalEntry content.length] } := by
  rw [frameOf, List.append_assoc]
  exact receive_block h.readable (contentLength_frame h.bounded) h.readContent_eq rest

/-- A frame that is cut off is read as no message. -/
theorem receive_cut (hk : k < (frameOf content).length) :
    ∃ e, (receive {} ((frameOf content).take k)).outcome = .error e ∧ e.IsExpected := by
  rw [frameOf, List.length_append, length_asciiBytes] at hk
  by_cases hheader : k < (headerBlock (frameHeader {} content.length)).length
  · obtain ⟨e, he, hexpected⟩ := takeHeader_block_cut h.readable hheader
    refine ⟨e, ?_, hexpected⟩
    rw [frameOf, List.take_append_of_le_length (by rw [length_asciiBytes]; omega),
      take_asciiBytes, receive]
    generalize takeHeader _ = taken at he
    obtain ⟨_ | header, after⟩ := taken
    · cases he
      rfl
    · cases he
  -- The cut is behind the header, which is read, and in the content.
  · let part := content.take (k - (headerBlock (frameHeader {} content.length)).length)
    have hpart : part.length < content.length := by
      rw [List.length_take]
      omega
    refine ⟨.cutOff part.length content.length, ?_, trivial⟩
    rw [frameOf, List.take_append, List.take_of_length_le (by rw [length_asciiBytes]; omega),
      length_asciiBytes, receive, takeHeader_block h.readable]
    dsimp only
    rw [contentLength_frame h.bounded]
    dsimp only
    rw [if_pos hpart]

end Sendable

/-! ### Streams of frames -/

/-- A message takes bytes off the stream. -/
theorem length_receive_lt {settings : TransportSettings} {bytes : Bytes}
    (h : (receive settings bytes).outcome = .ok m) :
    (receive settings bytes).rest.length < bytes.length := by
  unfold receive at h ⊢
  split at h
  · cases h
  · next header rest hheader =>
    have hshorter := length_takeHeader_lt hheader
    split at h
    · cases h
    · next length hlength =>
      split at h
      · cases h
      · next hcut =>
        rw [if_neg hcut, List.length_drop]
        omega

/-- The messages that are read one after the other, and the error that is met after the last. -/
def receiveAll (settings : TransportSettings) (bytes : Bytes) : List Value × ReceiveError :=
  match _h : (receive settings bytes).outcome with
  | .error e => ([], e)
  | .ok m =>
    let (ms, e) := receiveAll settings (receive settings bytes).rest
    (m :: ms, e)
termination_by bytes.length
decreasing_by exact length_receive_lt _h

section All

variable {settings : TransportSettings} {bytes : Bytes}

theorem receiveAll_ok (h : (receive settings bytes).outcome = .ok m) :
    receiveAll settings bytes =
      (m :: (receiveAll settings (receive settings bytes).rest).1,
        (receiveAll settings (receive settings bytes).rest).2) := by
  rw [receiveAll]
  split
  · next e he => cases he.symm.trans h
  · next m' hm =>
    cases hm.symm.trans h
    rfl

theorem receiveAll_error {e : ReceiveError} (h : (receive settings bytes).outcome = .error e) :
    receiveAll settings bytes = ([], e) := by
  rw [receiveAll]
  split
  · next e' he =>
    cases he.symm.trans h
    rfl
  · next m hm => cases hm.symm.trans h

end All

/-- A message as it is in the stream. -/
def IsFrameOf (m : Value) (f : Bytes) : Prop := ∃ content, Sendable m content ∧ f = frameOf content

/-- Of a stream of frames that ends anywhere the whole ones are read, and then an error tells that
there are no more. -/
theorem receiveAll_cut {ms : List Value} {frames : List Bytes}
    (h : List.Forall₂ IsFrameOf ms frames) (k : Nat) :
    ∃ n e, receiveAll {} (frames.flatten.take k) = (ms.take n, e) ∧ e.IsExpected ∧
      n ≤ frames.length ∧ (frames.take n).flatten.length ≤ k ∧
      (n < frames.length → k < (frames.take (n + 1)).flatten.length) := by
  induction h generalizing k with
  | nil =>
      refine ⟨0, .ended, ?_, trivial, Nat.le_refl 0, Nat.zero_le k, fun h => absurd h (by decide)⟩
      rw [List.flatten_nil, List.take_nil]
      exact receiveAll_error (by rw [receive, takeHeader_nil])
  | @cons m f ms frames hframe hrest ih =>
      obtain ⟨content, hsendable, rfl⟩ := hframe
      rw [List.flatten_cons]
      by_cases hk : k < (frameOf content).length
      -- The stream ends in the first frame.
      · obtain ⟨e, he, hexpected⟩ := hsendable.receive_cut hk
        refine ⟨0, e, ?_, hexpected, Nat.zero_le _, Nat.zero_le k, fun _ => ?_⟩
        · rw [List.take_append_of_le_length (Nat.le_of_lt hk)]
          exact receiveAll_error he
        · rwa [List.take_succ_cons, List.take_zero, List.flatten_cons, List.flatten_nil,
            List.append_nil]
      -- The first frame is whole, and the stream ends somewhere behind it.
      · obtain ⟨n, e, hall, hexpected, hn, hwhole, hnext⟩ := ih (k - (frameOf content).length)
        refine ⟨n + 1, e, ?_, hexpected, Nat.succ_le_succ hn, ?_, fun h => ?_⟩
        · rw [List.take_append, List.take_of_length_le (Nat.le_of_not_lt hk),
            receiveAll_ok (by rw [hsendable.receive_frame]), hsendable.receive_frame]
          dsimp only
          rw [hall]
          rfl
        · rw [List.take_succ_cons, List.flatten_cons, List.length_append]
          omega
        · rw [List.take_succ_cons, List.flatten_cons, List.length_append]
          have := hnext (Nat.lt_of_succ_lt_succ h)
          omega

theorem exists_frames {ms : List Value} (h : ∀ m ∈ ms, ∃ content, Sendable m content) :
    ∃ frames, ms.mapM (frame {}) = .ok frames ∧ List.Forall₂ IsFrameOf ms frames := by
  induction ms with
  | nil => exact ⟨[], rfl, .nil⟩
  | cons m ms ih =>
      obtain ⟨⟨content, hsendable⟩, hrest⟩ := List.forall_mem_cons.1 h
      obtain ⟨frames, hframes, hall⟩ := ih hrest
      refine ⟨frameOf content :: frames, ?_, .cons ⟨content, hsendable, rfl⟩ hall⟩
      rw [List.mapM_cons, hsendable.frame_eq, hframes]
      rfl

/-- Messages that were written with the default settings are read back unchanged and in order; of a
stream that ends anywhere exactly those whose frames are whole are read, and then an error tells
that it ended or goes on with no message. -/
theorem whole_frames_received {ms : List Value} (h : ∀ m ∈ ms, ∃ content, Sendable m content) :
    ∃ frames, ms.mapM (frame {}) = .ok frames ∧ frames.length = ms.length ∧
      ∀ k, ∃ n e, receiveAll {} (frames.flatten.take k) = (ms.take n, e) ∧ e.IsExpected ∧
        n ≤ ms.length ∧ (frames.take n).flatten.length ≤ k ∧
        (n < ms.length → k < (frames.take (n + 1)).flatten.length) := by
  obtain ⟨frames, hframes, hall⟩ := exists_frames h
  have hlength := hall.length_eq
  refine ⟨frames, hframes, hlength.symm, fun k => ?_⟩
  rw [hlength]
  exact receiveAll_cut hall k

theorem parseChars_empty : Json.parseChars ['\x7b', '\x7d'] = .ok (.object []) := by
  have hvalue : Json.value ['\x7b', '\x7d'] = .ok ⟨.object [], [], by decide⟩ := by
    rw [Json.value]
    rfl
  rw [Json.parseChars, if_neg (by decide)]
  show Json.value ['\x7b', '\x7d'] >>= _ = _
  rw [hvalue]
  rfl

theorem sendable_empty : Sendable (.object []) (utf8Bytes ['\x7b', '\x7d']) where
  object := ⟨[], rfl⟩
  json := by
    have htext : "\x7b\x7d".toList = ['\x7b', '\x7d'] := by decide
    exact ⟨"\x7b\x7d", rfl, by rw [htext, parseChars_empty], by rw [htext]⟩
  bounded := by decide

/-- Two empty objects, of which the second one is cut off. -/
theorem whole_frames_received_empty :
    ∃ frames, [Value.object [], .object []].mapM (frame {}) = .ok frames ∧
      ∃ n e, receiveAll {} (frames.flatten.take 100) =
        ([Value.object [], .object []].take n, e) ∧ e.IsExpected := by
  have hsendable : ∀ m ∈ [Value.object [], .object []], ∃ content, Sendable m content := by
    rintro m (_ | ⟨_, _ | ⟨_, ⟨⟩⟩⟩)
    · exact ⟨_, sendable_empty⟩
    · exact ⟨_, sendable_empty⟩
  obtain ⟨frames, hframes, _, hcut⟩ := whole_frames_received hsendable
  obtain ⟨n, e, hall, hexpected, _⟩ := hcut 100
  exact ⟨frames, hframes, n, e, hall, hexpected⟩

end EditorProtocol
