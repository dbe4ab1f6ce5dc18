import Mathlib.Data.List.TakeWhile
import EditorProtocol.Framing.Header
import EditorProtocol.Proofs.Number.Numeral
import EditorProtocol.Proofs.Text.Encoding

/-!
Headers that are read from a stream. A block of lines of names and values is read to its end and no
further, whatever follows it; cut off anywhere, it is told from a whole one: the stream ends where a
line would begin, or what is left of a line is no line of a header.
-/

namespace EditorProtocol

variable {text cs : List Char} {rest : Bytes} {k : Nat}

/-! ### Bytes of texts -/

@[simp] theorem length_asciiBytes (cs : List Char) : (asciiBytes cs).length = cs.length :=
  List.length_map _

@[simp] theorem asciiBytes_append (cs ds : List Char) :
    asciiBytes (cs ++ ds) = asciiBytes cs ++ asciiBytes ds := List.map_append

theorem take_asciiBytes (k : Nat) (cs : List Char) :
    (asciiBytes cs).take k = asciiBytes (cs.take k) := List.map_take.symm

theorem isAscii_of_all (h : cs.all (·.toNat < 128) = true) : IsAscii cs := fun c hc =>
  of_decide_eq_true (List.all_eq_true.1 h c hc)

theorem IsAscii.append {cs ds : List Char} (h : IsAscii cs) (h' : IsAscii ds) :
    IsAscii (cs ++ ds) := List.forall_mem_append.2 ⟨h, h'⟩

theorem IsAscii.take (h : IsAscii cs) (k : Nat) : IsAscii (cs.take k) :=
  fun c hc => h c (List.mem_of_mem_take hc)

/-! ### Lines -/

theorem ne_feed_of_notMem {line : Bytes} (h : 10 ∉ line) : ∀ b ∈ line, (b != 10) = true :=
  fun _ hb => bne_iff_ne.2 fun heq => h (heq ▸ hb)

/-- What is taken off a stream that begins with a whole line. -/
theorem takeLine_whole {line : Bytes} (h : 10 ∉ line) : takeLine (line ++ 10 :: rest) =
    if lineLimit < line.length then (.error (.longLine true), rest)
    else (.ok (line ++ [10]), rest) := by
  unfold takeLine
  dsimp only
  rw [List.takeWhile_append_of_pos (ne_feed_of_notMem h),
    List.dropWhile_append_of_pos (ne_feed_of_notMem h)]
  show (if lineLimit < (line ++ []).length then _ else (Except.ok (line ++ [] ++ [10]), rest)) = _
  rw [List.append_nil]

/-- What is taken off a stream that is one line without an end. -/
theorem takeLine_last {line : Bytes} (h : 10 ∉ line) : takeLine line =
    if lineLimit < line.length then (.error (.longLine false), [])
    else if line.isEmpty then (.error .ended, []) else (.ok line, []) := by
  have hne := ne_feed_of_notMem h
  unfold takeLine
  dsimp only
  rw [List.takeWhile_eq_self_iff.2 hne, List.dropWhile_eq_nil_iff.2 hne]

/-- The text of a line up to its line feed, short enough to be read. -/
structure LineText (text : List Char) : Prop where
  ascii : IsAscii text
  noFeed : '\n' ∉ text
  short : text.length ≤ lineLimit

namespace LineText

theorem take (h : LineText text) (k : Nat) : LineText (text.take k) where
  ascii := h.ascii.take k
  noFeed := fun hmem => h.noFeed (List.mem_of_mem_take hmem)
  short := Nat.le_trans (List.length_take_le' k text) h.short

theorem noFeed_bytes (h : LineText text) : 10 ∉ asciiBytes text := by
  intro hb
  obtain ⟨c, hc, hbyte⟩ := List.mem_map.1 hb
  have hvalue : c.val.toNat = 10 := by
    rw [← Char.toNat_asciiByte (h.ascii c hc), hbyte]
    rfl
  have hchar : c = '\n' := by
    rw [← Char.ofNat_toNat c]
    exact congrArg Char.ofNat hvalue
  exact h.noFeed (hchar ▸ hc)

theorem short_bytes (h : LineText text) : ¬ lineLimit < (asciiBytes text).length := by
  rw [length_asciiBytes]
  exact Nat.not_lt.2 h.short

/-- A whole line is taken with its line feed. -/
theorem takeLine_feed (h : LineText text) (rest : Bytes) :
    takeLine (asciiBytes (text ++ ['\n']) ++ rest) =
      (.ok (asciiBytes (text ++ ['\n'])), rest) := by
  have hfeed : asciiBytes (text ++ ['\n']) = asciiBytes text ++ [10] := asciiBytes_append text _
  rw [hfeed, List.append_assoc, List.singleton_append, takeLine_whole h.noFeed_bytes,
    if_neg h.short_bytes]

/-- The last line of a stream may lack its line feed. -/
theorem takeLine_end (h : LineText text) (hne : text ≠ []) :
    takeLine (asciiBytes text) = (.ok (asciiBytes text), []) := by
  rw [takeLine_last h.noFeed_bytes, if_neg h.short_bytes, if_neg]
  rw [List.isEmpty_iff, asciiBytes, List.map_eq_nil_iff]
  exact hne

end LineText

/-! ### Lines of a header -/

theorem dropBlanks_of_not_blank (h : ∀ c ∈ cs, isHeaderBlank c = false) :
    cs.dropWhile isHeaderBlank = cs := by
  cases cs with
  | nil => rfl
  | cons c rest => exact List.dropWhile_cons_of_neg (Bool.eq_false_iff.1 (h c List.mem_cons_self))

/-- A text without blanks is what is left of it behind a blank. -/
theorem trimBlanks_cons {c : Char} (hc : isHeaderBlank c = true)
    (h : ∀ c ∈ cs, isHeaderBlank c = false) : trimBlanks (c :: cs) = cs := by
  have hreverse : ∀ c ∈ cs.reverse, isHeaderBlank c = false :=
    fun c hmem => h c (List.mem_reverse.1 hmem)
  rw [trimBlanks, List.dropWhile_cons_of_pos hc, dropBlanks_of_not_blank h,
    dropBlanks_of_not_blank hreverse, List.reverse_reverse]

/-- A name and a value as a line of a header has them, with the blanks around them. -/
structure HeaderField where
  name : List Char
  value : List Char

namespace HeaderField

/-- The line up to its line feed. -/
def line (f : HeaderField) : List Char := f.name ++ ':' :: (f.value ++ ['\r'])

/-- What the line is read as. -/
def entry (f : HeaderField) : List Char × List Char :=
  ((trimBlanks f.name).map Char.toLower, trimBlanks f.value)

/-- A line that can be read: the name ends at the first colon. -/
structure Readable (f : HeaderField) : Prop where
  text : LineText f.line
  noColon : ':' ∉ f.name

theorem of_line {f : HeaderField} (h : f.Readable) :
    HeaderLine.of (f.line ++ ['\n']) = .ok (.field f.entry.1 f.entry.2) := by
  have hname : ∀ c ∈ f.name, (c != ':') = true := by
    rintro c hc
    refine bne_iff_ne.2 ?_
    rintro rfl
    exact h.noColon hc
  have hline : f.line ++ ['\n'] = f.name ++ ':' :: f.value ++ ['\r', '\n'] := by
    simp [line]
  have hcontent : (f.name ++ ':' :: f.value ++ ['\r', '\n']).take
      ((f.name ++ ':' :: f.value ++ ['\r', '\n']).length - 2) = f.name ++ ':' :: f.value := by
    rw [List.length_append]
    exact List.take_left
  have hlast : ¬ f.name ++ ':' :: f.value ++ ['\r', '\n'] = ['\r', '\n'] := by
    intro heq
    have hlength := congrArg List.length heq
    simp at hlength
    omega
  have hfield : ['\r', '\n'].isSuffixOf (f.name ++ ':' :: f.value ++ ['\r', '\n']) = true ∧
      ':' ∈ f.name ++ ':' :: f.value ++ ['\r', '\n'] :=
    ⟨List.isSuffixOf_iff_suffix.2 (List.suffix_append _ _), by simp⟩
  rw [hline]
  unfold HeaderLine.of
  rw [if_neg hlast, if_pos hfield]
  dsimp only
  rw [hcontent, List.takeWhile_append_of_pos hname, List.dropWhile_append_of_pos hname]
  show Except.ok (HeaderLine.field ((trimBlanks (f.name ++ [])).map Char.toLower)
    (trimBlanks f.value)) = _
  rw [List.append_nil]
  rfl

end HeaderField

/-- A line without a line feed is no line of a header. -/
theorem HeaderLine.of_cut (h : LineText text) :
    HeaderLine.of text = .error (.badHeader (String.ofList text)) := by
  have hlast : ¬ text = ['\r', '\n'] := by
    rintro rfl
    exact h.noFeed (by decide)
  have hfield : ¬ (['\r', '\n'].isSuffixOf text = true ∧ ':' ∈ text) := by
    rintro ⟨hsuffix, _⟩
    exact h.noFeed ((List.isSuffixOf_iff_suffix.1 hsuffix).mem (by decide))
  rw [HeaderLine.of, if_neg hlast, if_neg hfield]

/-! ### Whole headers -/

/-- A header as it is sent: lines of names and values, and an empty line. -/
def headerBlock : List HeaderField → List Char
  | [] => ['\r'] ++ ['\n']
  | f :: fs => f.line ++ ['\n'] ++ headerBlock fs

theorem isAscii_headerBlock {fs : List HeaderField} (h : ∀ f ∈ fs, f.Readable) :
    IsAscii (headerBlock fs) := by
  induction fs with
  | nil => exact isAscii_of_all rfl
  | cons f fs ih =>
      obtain ⟨hf, hfs⟩ := List.forall_mem_cons.1 h
      exact (hf.text.ascii.append (isAscii_of_all rfl)).append (ih hfs)

/-- What is made of a line whose text is ASCII. -/
theorem takeHeader_line {bytes : Bytes} (hascii : IsAscii text)
    (h : takeLine bytes = (.ok (asciiBytes text), rest)) :
    takeHeader bytes =
      match HeaderLine.of text with
      | .error f => (.error (.fault f), rest)
      | .ok .last => (.ok [], rest)
      | .ok (.field name value) =>
        match takeHeader rest with
        | (.ok header, rest) => (.ok ((name, value) :: header), rest)
        | (.error e, rest) => (.error e, rest) := by
  rw [takeHeader]
  split
  · next e after heq => cases heq.symm.trans h
  · next taken after heq =>
    cases heq.symm.trans h
    split
    · next hread => cases hread.symm.trans (readAscii_asciiBytes hascii _ _)
    · next hread =>
      cases hread.symm.trans (readAscii_asciiBytes hascii _ _)
      rfl

theorem takeHeader_nil : takeHeader [] = (.error .ended, []) := by
  rw [takeHeader]
  rfl

theorem lineText_return : LineText ['\r'] := ⟨isAscii_of_all rfl, by decide, by decide⟩

theorem isAscii_feed : IsAscii ['\n'] := isAscii_of_all rfl

theorem takeHeader_empty (rest : Bytes) :
    takeHeader (asciiBytes (['\r'] ++ ['\n']) ++ rest) = (.ok [], rest) := by
  rw [takeHeader_line (lineText_return.ascii.append isAscii_feed)
    (lineText_return.takeLine_feed rest)]
  rfl

theorem takeHeader_field {f : HeaderField} (h : f.Readable) (rest : Bytes) :
    takeHeader (asciiBytes (f.line ++ ['\n']) ++ rest) =
      match takeHeader rest with
      | (.ok header, rest) => (.ok (f.entry :: header), rest)
      | (.error e, rest) => (.error e, rest) := by
  rw [takeHeader_line (h.text.ascii.append isAscii_feed) (h.text.takeLine_feed rest),
    HeaderField.of_line h]

theorem takeHeader_cut (h : LineText text) (hne : text ≠ []) :
    takeHeader (asciiBytes text) =
      (.error (.fault (.badHeader (String.ofList text))), []) := by
  rw [takeHeader_line h.ascii (h.takeLine_end hne), HeaderLine.of_cut h]

/-- A header is read to its end and no further. -/
theorem takeHeader_block {fs : List HeaderField} (h : ∀ f ∈ fs, f.Readable) (rest : Bytes) :
    takeHeader (asciiBytes (headerBlock fs) ++ rest) =
      (.ok (fs.map HeaderField.entry), rest) := by
  induction fs with
  | nil => exact takeHeader_empty rest
  | cons f fs ih =>
      obtain ⟨hf, hfs⟩ := List.forall_mem_cons.1 h
      rw [headerBlock, asciiBytes_append, List.append_assoc, takeHeader_field hf, ih hfs]
      rfl

/-- An error that a stream which ends, or goes on with something else, is expected to meet. -/
def ReceiveError.IsExpected : ReceiveError → Prop
  | .fault _ | .ended | .cutOff _ _ => True
  | _ => False

/-- A part of a line at the end of a stream is told from a whole line. -/
theorem takeHeader_line_cut (h : LineText text) (hk : k ≤ text.length) :
    ∃ e, (takeHeader (asciiBytes ((text ++ ['\n']).take k))).1 = .error e ∧ e.IsExpected := by
  rw [List.take_append_of_le_length hk]
  by_cases hnil : text.take k = []
  · rw [hnil]
    exact ⟨.ended, congrArg Prod.fst takeHeader_nil, trivial⟩
  · exact ⟨_, congrArg Prod.fst (takeHeader_cut (h.take k) hnil), trivial⟩

/-- A header that is cut off is told from a whole one. -/
theorem takeHeader_block_cut {fs : List HeaderField} (h : ∀ f ∈ fs, f.Readable)
    (hk : k < (headerBlock fs).length) :
    ∃ e, (takeHeader (asciiBytes ((headerBlock fs).take k))).1 = .error e ∧ e.IsExpected := by
  induction fs generalizing k with
  | nil => exact takeHeader_line_cut lineText_return (Nat.le_of_lt_succ hk)
  | cons f fs ih =>
      obtain ⟨hf, hfs⟩ := List.forall_mem_cons.1 h
      rw [headerBlock] at hk ⊢
      by_cases hline : k ≤ f.line.length
      · rw [List.take_append_of_le_length (by rw [List.length_append]; omega)]
        exact takeHeader_line_cut hf.text hline
      -- The cut is behind the line, which is read, and in what follows it.
      · have hlength : (f.line ++ ['\n']).length = f.line.length + 1 := List.length_append
        obtain ⟨e, he, hexpected⟩ := ih hfs (k := k - (f.line ++ ['\n']).length) (by
          rw [List.length_append] at hk
          omega)
        refine ⟨e, ?_, hexpected⟩
        rw [List.take_append, List.take_of_length_le (by omega), asciiBytes_append,
          takeHeader_field hf]
        generalize takeHeader (asciiBytes ((headerBlock fs).take
          (k - (f.line ++ ['\n']).length))) = taken at he
        obtain ⟨_ | header, after⟩ := taken
        · exact he
        · cases he

/-- A header takes bytes off the stream. -/
theorem length_takeHeader_lt {bytes rest : Bytes} {header : Header}
    (h : takeHeader bytes = (.ok header, rest)) : rest.length < bytes.length := by
  fun_induction takeHeader bytes generalizing header rest with
  | case1 => cases h
  | case2 => cases h
  | case3 => cases h
  | case4 bytes line after hline chars hchars hlast =>
      cases h
      exact length_takeLine_lt hline
  | case5 bytes line after hline chars hchars name value hfield header' after' hafter ih =>
      cases h
      exact Nat.lt_trans (ih hafter) (length_takeLine_lt hline)
  | case6 => cases h

end EditorProtocol
