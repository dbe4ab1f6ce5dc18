import EditorProtocol.Proofs.Framing.Message
import EditorProtocol.Proofs.Json.Text

/-!
Why reading from a stream fails. Whatever the bytes are, a receiver with the default settings gets
an object of JSON, or is told that the stream ended or is not framed; anything else that it may meet
is due to a line or a number beyond a limit, or to a byte of a header that is no ASCII.
-/

namespace EditorProtocol

variable {bytes rest line : Bytes}

/-! ### Lines of a stream -/

/-- The lines of the header at the front of a stream: those before the first empty one. -/
def headerLines (bytes : Bytes) : List Bytes := (bytes.splitOn 10).takeWhile (· != [13])

/-- A stream begins with a whole line, or is a line without an end. -/
inductive FirstLine : Bytes → Prop
  | whole {line rest : Bytes} (noFeed : 10 ∉ line) : FirstLine (line ++ 10 :: rest)
  | last {line : Bytes} (noFeed : 10 ∉ line) : FirstLine line

theorem firstLine (bytes : Bytes) : FirstLine bytes := by
  by_cases hfeed : 10 ∈ bytes
  · obtain ⟨line, rest, rfl, hline⟩ := List.eq_append_cons_of_mem hfeed
    exact .whole hline
  · exact .last hfeed

theorem headerLines_whole (h : 10 ∉ line) (hne : line ≠ [13]) :
    headerLines (line ++ 10 :: rest) = line :: headerLines rest := by
  rw [headerLines, List.splitOn_append_cons_self_of_not_mem h, List.takeWhile_cons_of_pos]
  · rfl
  · exact bne_iff_ne.2 hne

theorem headerLines_last (h : 10 ∉ line) (hne : line ≠ [13]) : headerLines line = [line] := by
  rw [headerLines, List.splitOn_eq_singleton h, List.takeWhile_cons_of_pos, List.takeWhile_nil]
  exact bne_iff_ne.2 hne

/-! ### Failures of a header -/

/-- A line of a header is longer than a reader takes. -/
def HasLongLine (bytes : Bytes) : Prop := ∃ line ∈ headerLines bytes, lineLimit < line.length

/-- A line of a header has a byte that is no ASCII. -/
def HasForeignByte (bytes : Bytes) : Prop := ∃ line ∈ headerLines bytes, ∃ b ∈ line, 128 ≤ b.toNat

/-- A failure of reading a header, with what it is due to. -/
def ReceiveError.IsOfHeader (bytes : Bytes) : ReceiveError → Prop
  | .fault _ | .ended => True
  | .longLine _ => HasLongLine bytes
  | .encoding _ => HasForeignByte bytes
  | .cutOff _ _ | .tooLong _ => False

/-- Bytes are read one after the other, up to one that is no ASCII. -/
theorem readAscii_cons (scheme : String) (place : Nat) (b : UInt8) (rest : Bytes) :
    readAscii.readAll scheme place (b :: rest) =
      if b < 0x80 then
        readAscii.readAll scheme (place + 1) rest >>= fun more =>
          .ok (Char.ofNat b.toNat :: more)
      else .error (.undecodable scheme place [b] .beyondAscii) := by
  rw [CharReader.readAll, readAscii]
  by_cases hb : b < 0x80
  · rw [if_pos hb, if_pos hb]
    rfl
  · rw [if_neg hb, if_neg hb]
    rfl

/-- Bytes that are no text have one that is no ASCII. -/
theorem exists_of_readAscii {scheme : String} {place : Nat} {e : EncodingError}
    (h : readAscii.readAll scheme place bytes = .error e) : ∃ b ∈ bytes, 128 ≤ b.toNat := by
  induction bytes generalizing place with
  | nil =>
      rw [CharReader.readAll] at h
      cases h
  | cons b rest ih =>
      rw [readAscii_cons] at h
      split at h
      · cases hrest : readAscii.readAll scheme (place + 1) rest with
        | error e' =>
            rw [hrest] at h
            cases h
            obtain ⟨c, hc, hforeign⟩ := ih hrest
            exact ⟨c, List.mem_cons_of_mem _ hc, hforeign⟩
        | ok more =>
            rw [hrest] at h
            cases h
      · next hb =>
        exact ⟨b, List.mem_cons_self, Nat.le_of_not_lt fun hlt => hb (UInt8.lt_iff_toNat_lt.2 hlt)⟩

theorem toNat_ofNat_byte {b : UInt8} (hb : b < 0x80) :
    (Char.ofNat b.toNat).val.toNat = b.toNat := by
  have hvalid : b.toNat.isValidChar := .inl (Nat.lt_trans (UInt8.lt_iff_toNat_lt.1 hb) (by decide))
  rw [Char.ofNat, dif_pos hvalid]
  rfl

/-- A text that was read as ASCII has the bytes that it was read from. -/
theorem asciiBytes_of_readAscii {scheme : String} {place : Nat} {chars : List Char}
    (h : readAscii.readAll scheme place bytes = .ok chars) : asciiBytes chars = bytes := by
  induction bytes generalizing place chars with
  | nil =>
      rw [CharReader.readAll] at h
      cases h
      rfl
  | cons b rest ih =>
      rw [readAscii_cons] at h
      split at h
      · next hb =>
        cases hrest : readAscii.readAll scheme (place + 1) rest with
        | error e =>
            rw [hrest] at h
            cases h
        | ok more =>
            rw [hrest] at h
            cases h
            have hbyte : Char.asciiByte (Char.ofNat b.toNat) = b := by
              rw [Char.asciiByte, toNat_ofNat_byte hb]
              exact UInt8.ofNat_toNat
            exact congrArg₂ List.cons hbyte (ih hrest)
      · cases h

/-- A line that can be read as one of a header ends with a line feed. -/
theorem feed_mem_of_headerLine {chars : List Char} {l : HeaderLine}
    (h : HeaderLine.of chars = .ok l) : '\n' ∈ chars := by
  rw [HeaderLine.of] at h
  split at h
  · next hreturn =>
    rw [hreturn]
    decide
  · split at h
    · next hfield => exact (List.isSuffixOf_iff_suffix.1 hfield.1).mem (by decide)
    · cases h

/-- The lines after a line of a header are lines of the header as well. -/
theorem ReceiveError.IsOfHeader.cons {e : ReceiveError} (h : 10 ∉ line) (hne : line ≠ [13])
    (he : e.IsOfHeader rest) : e.IsOfHeader (line ++ 10 :: rest) := by
  have hlater : ∀ later ∈ headerLines rest, later ∈ headerLines (line ++ 10 :: rest) := by
    intro later hmem
    rw [headerLines_whole h hne]
    exact List.mem_cons_of_mem _ hmem
  cases e with
  | fault f => trivial
  | ended => trivial
  | longLine endSeen =>
      obtain ⟨long, hmem, hlong⟩ := he
      exact ⟨long, hlater long hmem, hlong⟩
  | encoding e =>
      obtain ⟨foreign, hmem, hforeign⟩ := he
      exact ⟨foreign, hlater foreign hmem, hforeign⟩
  | cutOff present expected => exact he
  | tooLong digits => exact he

/-- A line that is as short as an empty one is not too long. -/
theorem ne_return_of_long (h : lineLimit < line.length) : line ≠ [13] := by
  rintro rfl
  exact absurd h (by decide)

theorem takeLine_error {e : ReceiveError} (h : takeLine bytes = (.error e, rest)) :
    e.IsOfHeader bytes := by
  cases firstLine bytes with
  | @whole line after hfeed =>
      rw [takeLine_whole hfeed] at h
      split at h
      · next hlong =>
        cases h
        refine ⟨line, ?_, hlong⟩
        rw [headerLines_whole hfeed (ne_return_of_long hlong)]
        exact List.mem_cons_self
      · cases h
  | last hfeed =>
      rw [takeLine_last hfeed] at h
      split at h
      · next hlong =>
        cases h
        refine ⟨bytes, ?_, hlong⟩
        rw [headerLines_last hfeed (ne_return_of_long hlong)]
        exact List.mem_cons_self
      · split at h <;> cases h
        trivial

/-- What a line that was taken is of its stream. -/
theorem takeLine_ok (h : takeLine bytes = (.ok line, rest)) :
    (∃ text, 10 ∉ text ∧ line = text ++ [10] ∧ bytes = text ++ 10 :: rest) ∨
      10 ∉ line ∧ bytes = line ∧ rest = [] := by
  cases firstLine bytes with
  | @whole text after hfeed =>
      rw [takeLine_whole hfeed] at h
      split at h <;> cases h
      exact .inl ⟨text, hfeed, rfl, rfl⟩
  | last hfeed =>
      rw [takeLine_last hfeed] at h
      split at h
      · cases h
      · split at h <;> cases h
        exact .inr ⟨hfeed, rfl, rfl⟩

/-- An empty line, with its end or without, is text. -/
theorem ne_return_of_foreign {b : UInt8} (hb : b ∈ line) (hforeign : 128 ≤ b.toNat) :
    line ≠ [13] := by
  rintro rfl
  cases List.mem_singleton.1 hb
  exact absurd hforeign (by decide)

/-- A line that is no text has a byte that is no ASCII, and it is a line of the header. -/
theorem takeLine_foreign {e : EncodingError} (h : takeLine bytes = (.ok line, rest))
    (he : readAscii.readAll "ascii" 0 line = .error e) : HasForeignByte bytes := by
  obtain ⟨b, hb, hforeign⟩ := exists_of_readAscii he
  rcases takeLine_ok h with ⟨text, hfeed, rfl, rfl⟩ | ⟨hfeed, rfl, rfl⟩
  · rcases List.mem_append.1 hb with hb | hb
    · refine ⟨text, ?_, b, hb, hforeign⟩
      rw [headerLines_whole hfeed (ne_return_of_foreign hb hforeign)]
      exact List.mem_cons_self
    · cases List.mem_singleton.1 hb
      exact absurd hforeign (by decide)
  · refine ⟨bytes, ?_, b, hb, hforeign⟩
    rw [headerLines_last hfeed (ne_return_of_foreign hb hforeign)]
    exact List.mem_cons_self

/-- A line that is no text ends the reading of a header. -/
theorem takeHeader_foreign {e : EncodingError} (h : takeLine bytes = (.ok line, rest))
    (he : readAscii.readAll "ascii" 0 line = .error e) :
    takeHeader bytes = (.error (.encoding e), rest) := by
  rw [takeHeader]
  split
  · next htaken => cases h.symm.trans htaken
  · next htaken =>
    cases h.symm.trans htaken
    rw [he]

/-- A line with a name and a value is whole, and it is not the empty one. -/
theorem takeLine_field {chars name value : List Char} (h : takeLine bytes = (.ok line, rest))
    (hchars : readAscii.readAll "ascii" 0 line = .ok chars)
    (hfield : HeaderLine.of chars = .ok (.field name value)) :
    ∃ text, 10 ∉ text ∧ text ≠ [13] ∧ bytes = text ++ 10 :: rest := by
  rcases takeLine_ok h with ⟨text, hfeed, rfl, rfl⟩ | ⟨hfeed, rfl, rfl⟩
  · refine ⟨text, hfeed, ?_, rfl⟩
    rintro rfl
    have hreturn : IsAscii ['\r', '\n'] := isAscii_of_all rfl
    cases hchars.symm.trans (readAscii_asciiBytes hreturn _ _)
    cases hfield
  · refine absurd ?_ hfeed
    rw [← asciiBytes_of_readAscii hchars]
    exact List.mem_map_of_mem (f := Char.asciiByte) (feed_mem_of_headerLine hfield)

/-- A header fails for what its lines are. -/
theorem takeHeader_error {e : ReceiveError} (h : (takeHeader bytes).1 = .error e) :
    e.IsOfHeader bytes := by
  fun_induction takeHeader bytes with
  | case1 bytes e' rest hline =>
      cases h
      exact takeLine_error hline
  | case2 bytes line rest hline e' he =>
      cases h
      exact takeLine_foreign hline he
  | case3 bytes line rest hline chars hchars f hf =>
      cases h
      trivial
  | case4 => cases h
  | case5 => cases h
  | case6 bytes line rest hline chars hchars name value hfield e' after hafter ih =>
      cases h
      obtain ⟨text, hfeed, hne, rfl⟩ := takeLine_field hline hchars hfield
      exact (ih (congrArg Prod.fst hafter)).cons hfeed hne

/-! ### Failures of a content -/

/-- The content that the header of a stream announces has a number that is too long. -/
def HasLongContent (bytes : Bytes) : Prop :=
  ∃ header rest length text, takeHeader bytes = (.ok header, rest) ∧
    header.contentLength defaultLimit.val = .ok length ∧
    decodeNamed "utf-8" (rest.take length) = .ok text ∧ Json.HasLongNumeral text

theorem CharReader.undecodable_of_readAll {read : CharReader} {scheme : String} {place : Nat}
    {e : EncodingError} (h : read.readAll scheme place bytes = .error e) :
    ∃ start part fault, e = .undecodable scheme start part fault := by
  fun_induction readAll read scheme place bytes with
  | case1 => cases h
  | case2 place b rest fault n hread =>
      cases h
      exact ⟨_, _, _, rfl⟩
  | case3 place b rest cs n hread ih =>
      cases hmore : read.readAll scheme (place + 1 + n) (rest.drop n) with
      | error e' =>
          rw [hmore] at h
          cases h
          exact ih hmore
      | ok more =>
          rw [hmore] at h
          cases h

/-- Bytes that are no text are so as UTF-8. -/
theorem undecodable_of_decodeNamed {e : EncodingError} (h : decodeNamed "utf-8" bytes = .error e) :
    ∃ scheme start part fault, e = .undecodable scheme start part fault := by
  rw [decodeNamed, ofName_utf8] at h
  dsimp only at h
  split at h
  · cases h
  · cases hread : Encoding.utf8.decode bytes with
    | ok chars =>
        rw [hread] at h
        cases h
    | error e' =>
        rw [hread] at h
        obtain ⟨start, part, fault, rfl⟩ := CharReader.undecodable_of_readAll hread
        cases h
        exact ⟨_, start, part, fault, rfl⟩

/-- A content is read as an object of JSON, or is none, or has a number that is too long. -/
theorem readContent_cases (content : Bytes) :
    match readContent "utf-8" content with
    | .ok m => m.IsJson ∧ ∃ es, m = .object es
    | .error e => (∃ f, e = .fault f) ∨
        ∃ digits text, e = .tooLong digits ∧ decodeNamed "utf-8" content = .ok text ∧
          Json.HasLongNumeral text := by
  rw [readContent]
  cases hread : decodeNamed "utf-8" content with
  | error e =>
      obtain ⟨scheme, start, part, fault, rfl⟩ := undecodable_of_decodeNamed hread
      exact .inl ⟨_, rfl⟩
  | ok chars =>
      dsimp only
      cases hparse : Json.parseChars chars with
      | ok v =>
          have hjson := Json.isJson_of_parseChars hparse
          cases v with
          | object es => exact ⟨hjson, es, rfl⟩
          | _ => exact .inl ⟨_, rfl⟩
      | error f =>
          obtain ⟨cause, left⟩ := f
          cases cause with
          | tooLong digits =>
              exact .inr ⟨digits, chars, rfl, rfl, Json.hasLongNumeral_of_parseChars hparse rfl⟩
          | _ => exact .inl ⟨_, rfl⟩

/-- A failure of a receiver with the default settings, with what it is due to: that the stream ended
or is not framed, or that some part of it is beyond what the receiver takes. -/
def ReceiveError.IsDue (bytes : Bytes) : ReceiveError → Prop
  | .fault _ | .ended | .cutOff _ _ => True
  | .longLine _ => HasLongLine bytes
  | .tooLong _ => HasLongContent bytes
  | .encoding _ => HasForeignByte bytes

/-- A stream that has nothing that a receiver is not prepared for. -/
structure IsPlain (bytes : Bytes) : Prop where
  lines : ¬ HasLongLine bytes
  content : ¬ HasLongContent bytes
  ascii : ¬ HasForeignByte bytes

theorem ReceiveError.IsDue.expected {e : ReceiveError} (h : e.IsDue bytes)
    (hplain : IsPlain bytes) : e.IsExpected := by
  cases e with
  | fault f => trivial
  | ended => trivial
  | cutOff present expected => trivial
  | longLine endSeen => exact hplain.lines h
  | tooLong digits => exact hplain.content h
  | encoding e => exact hplain.ascii h

/-- What a receiver with the default settings gets: an object of JSON, or a failure that is due to
the bytes. -/
theorem receive_cases (bytes : Bytes) :
    match (receive {} bytes).outcome with
    | .ok m => m.IsJson ∧ ∃ es, m = .object es
    | .error e => e.IsDue bytes := by
  cases htaken : takeHeader bytes with
  | mk taken rest =>
      rw [receive, htaken]
      cases taken with
      | error e =>
          have hcause := takeHeader_error (congrArg Prod.fst htaken)
          cases e with
          | cutOff present expected => exact hcause.elim
          | tooLong digits => exact hcause.elim
          | _ => exact hcause
      | ok header =>
          dsimp only
          cases hlength : header.contentLength ({} : TransportSettings).maxContentLength.val with
          | error f => trivial
          | ok length =>
              dsimp only
              by_cases hcut : rest.length < length
              · rw [if_pos hcut]
                trivial
              · rw [if_neg hcut]
                have hcontent := readContent_cases (rest.take length)
                show match readContent "utf-8" (rest.take length) with | .ok m => _ | .error e => _
                cases hread : readContent "utf-8" (rest.take length) with
                | ok m =>
                    rw [hread] at hcontent
                    exact hcontent
                | error e =>
                    rw [hread] at hcontent
                    rcases hcontent with ⟨f, rfl⟩ | ⟨digits, text, rfl, htext, hlong⟩
                    · trivial
                    · exact ⟨header, rest, length, text, htaken, hlength, htext, hlong⟩

end EditorProtocol
