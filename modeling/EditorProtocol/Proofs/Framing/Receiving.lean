import EditorProtocol.Proofs.Framing.Message

/-!
Messages under any header. Of the lines of a header only the last one counts that names the length
of the content, in letters of any case and with blanks around it; what the other lines say, and in
which order all of them come, does not matter.
-/

namespace EditorProtocol

variable {text core cs : List Char} {fs : List HeaderField} {n : Nat}

/-! ### Blanks around a text -/

/-- What is left of a text without the blanks around it. -/
structure TrimsTo (text core : List Char) : Prop where
  around : ∃ before after, text = before ++ (core ++ after) ∧
    (∀ c ∈ before, isHeaderBlank c = true) ∧ ∀ c ∈ after, isHeaderBlank c = true
  first : ∀ c ∈ core.head?, isHeaderBlank c = false
  last : ∀ c ∈ core.getLast?, isHeaderBlank c = false

theorem dropBlanks_append {blanks rest : List Char} (hblanks : ∀ c ∈ blanks, isHeaderBlank c = true)
    (hrest : ∀ c ∈ rest.head?, isHeaderBlank c = false) :
    (blanks ++ rest).dropWhile isHeaderBlank = rest := by
  rw [List.dropWhile_append_of_pos hblanks]
  cases rest with
  | nil => rfl
  | cons c rest => exact List.dropWhile_cons_of_neg (Bool.eq_false_iff.1 (hrest c rfl))

theorem exists_dropBlanks (text : List Char) :
    ∃ blanks, text = blanks ++ text.dropWhile isHeaderBlank ∧
      (∀ c ∈ blanks, isHeaderBlank c = true) ∧
      ∀ c ∈ (text.dropWhile isHeaderBlank).head?, isHeaderBlank c = false := by
  refine ⟨text.takeWhile isHeaderBlank, List.takeWhile_append_dropWhile.symm,
    fun _ hc => List.mem_takeWhile_imp hc, fun c hc => ?_⟩
  have hfirst := List.head?_dropWhile_not isHeaderBlank text
  rwa [Option.mem_def.1 hc] at hfirst

theorem TrimsTo.trimBlanks_eq (h : TrimsTo text core) : trimBlanks text = core := by
  obtain ⟨⟨before, after, rfl, hbefore, hafter⟩, hfirst, hlast⟩ := h
  have hreverse : ∀ c ∈ after.reverse, isHeaderBlank c = true :=
    fun c hc => hafter c (List.mem_reverse.1 hc)
  unfold trimBlanks
  by_cases hcore : core = []
  · have hblank : (before ++ ([] ++ after)).dropWhile isHeaderBlank = [] :=
      List.dropWhile_eq_nil_iff.2 fun c hc => (List.mem_append.1 hc).elim (hbefore c) (hafter c)
    rw [hcore, hblank]
    rfl
  · obtain ⟨c, rest, rfl⟩ := List.exists_cons_of_ne_nil hcore
    have hfront : (before ++ (c :: rest ++ after)).dropWhile isHeaderBlank = c :: rest ++ after :=
      dropBlanks_append hbefore hfirst
    rw [hfront, List.reverse_append, dropBlanks_append hreverse (by rwa [List.head?_reverse]),
      List.reverse_reverse]

theorem trimsTo_trimBlanks (text : List Char) : TrimsTo text (trimBlanks text) := by
  obtain ⟨before, htext, hbefore, hfirst⟩ := exists_dropBlanks text
  obtain ⟨after, hrest, hafter, hlast⟩ := exists_dropBlanks (text.dropWhile isHeaderBlank).reverse
  have hsplit : text.dropWhile isHeaderBlank = trimBlanks text ++ after.reverse := by
    rw [← List.reverse_reverse (text.dropWhile isHeaderBlank), hrest, List.reverse_append]
    rfl
  refine ⟨⟨before, after.reverse, by rw [← hsplit, ← htext], hbefore,
    fun c hc => hafter c (List.mem_reverse.1 hc)⟩, fun c hc => hfirst c ?_, fun c hc => ?_⟩
  · rw [hsplit, List.head?_append, Option.mem_def.1 hc]
    rfl
  · rw [trimBlanks, List.getLast?_reverse] at hc
    exact hlast c hc

theorem trimsTo_iff : TrimsTo text core ↔ trimBlanks text = core :=
  ⟨TrimsTo.trimBlanks_eq, fun h => h ▸ trimsTo_trimBlanks text⟩

/-! ### The line that counts -/

/-- The name of a line, without blanks around it and in letters of any case. -/
def HeaderField.IsNamed (f : HeaderField) (name : List Char) : Prop :=
  ∃ core, TrimsTo f.name core ∧ core.map Char.toLower = name

theorem HeaderField.isNamed_iff {f : HeaderField} {name : List Char} :
    f.IsNamed name ↔ f.entry.1 = name := by
  constructor
  · rintro ⟨core, hcore, hname⟩
    rw [entry, hcore.trimBlanks_eq, hname]
  · exact fun h => ⟨_, trimsTo_trimBlanks f.name, h⟩

/-- A header announces a length in the last line of that name, as a numeral. -/
def Announces (fs : List HeaderField) (n : Nat) : Prop :=
  ∃ before f after numeral, fs = before ++ f :: after ∧ f.IsNamed lengthName ∧
    (∀ g ∈ after, ¬ g.IsNamed lengthName) ∧ TrimsTo f.value numeral ∧
    Numeral.Writes numeral n

theorem Header.find?_last {before after : Header} {name value : List Char}
    (h : ∀ e ∈ after, e.1 ≠ name) :
    Header.find? name (before ++ (name, value) :: after) = some value := by
  have hafter : after.reverse.lookup name = none :=
    List.lookup_eq_none_iff.2 fun e he =>
      bne_iff_ne.2 (h e (List.mem_reverse.1 he)).symm
  rw [find?, List.reverse_append, List.reverse_cons, List.append_assoc, List.lookup_append, hafter,
    Option.none_or, List.singleton_append, List.lookup_cons, beq_self_eq_true]

/-- A length within the limit is read from a header that announces it. -/
theorem Announces.contentLength {limit : Nat} (h : Announces fs n) (hn : n ≤ limit) :
    Header.contentLength limit (fs.map HeaderField.entry) = .ok n := by
  obtain ⟨before, f, after, numeral, rfl, hnamed, hothers, hvalue, hwrites⟩ := h
  have hentry : f.entry = (lengthName, numeral) :=
    Prod.ext (HeaderField.isNamed_iff.1 hnamed) hvalue.trimBlanks_eq
  have hfind : Header.find? lengthName ((before ++ f :: after).map HeaderField.entry) =
      some numeral := by
    rw [List.map_append, List.map_cons, hentry]
    refine Header.find?_last fun e he => ?_
    obtain ⟨g, hg, rfl⟩ := List.mem_map.1 he
    exact fun heq => hothers g hg (HeaderField.isNamed_iff.2 heq)
  rw [Header.contentLength, hfind]
  dsimp only
  rw [hwrites.integer?_eq]
  dsimp only
  rw [if_neg (by omega)]
  rfl

/-! ### Messages -/

/-- Under any header that announces its length, a content is read as the object that it is, and
nothing behind it is touched. -/
theorem receive_announced (readable : ∀ f ∈ fs, f.Readable) {text : List Char}
    (announced : Announces fs (utf8Bytes text).length)
    (bounded : (utf8Bytes text).length ≤ defaultLimit.val) {es : List (String × Value)}
    (parsed : Json.parseChars text = .ok (.object es)) (rest : Bytes) :
    receive {} (asciiBytes (headerBlock fs) ++ (utf8Bytes text ++ rest)) =
      { outcome := .ok (.object es), rest, log := [arrivalEntry (utf8Bytes text).length] } :=
  receive_block readable (announced.contentLength bounded) (readContent_utf8 parsed) rest

/-- The length is told twice, and the right one is written with blanks, capital letters, a sign and
zeros. -/
def unusualLength : HeaderField := ⟨" CONTENT-Length\t".toList, " +002 ".toList⟩

/-- An unusual header of two bytes. -/
def unusualHeader : List HeaderField :=
  [⟨"content-length".toList, "99".toList⟩, ⟨"X-Note".toList, " a: b:c".toList⟩, unusualLength,
    ⟨"length".toList, "7".toList⟩]

theorem unusualHeader_readable : ∀ f ∈ unusualHeader, f.Readable := by
  rintro f (_ | ⟨_, _ | ⟨_, _ | ⟨_, _ | ⟨_, ⟨⟩⟩⟩⟩⟩)
  all_goals exact ⟨⟨isAscii_of_all rfl, by decide, by decide⟩, by decide⟩

theorem announces_unusualHeader :
    Announces unusualHeader (utf8Bytes ['\x7b', '\x7d']).length := by
  refine ⟨[⟨"content-length".toList, "99".toList⟩, ⟨"X-Note".toList, " a: b:c".toList⟩],
    unusualLength, [⟨"length".toList, "7".toList⟩], "+002".toList, rfl,
    HeaderField.isNamed_iff.2 (by decide), ?_, trimsTo_iff.2 (by decide), ?_⟩
  · rintro g (_ | ⟨_, ⟨⟩⟩)
    rw [HeaderField.isNamed_iff]
    decide
  · have hdigits : Numeral.IsDigits "002".toList := List.all_eq_true.1 rfl
    exact .plus hdigits (by decide) (by decide)

/-- An empty object under an unusual header, and two bytes behind it. -/
theorem receive_announced_unusual :
    receive {} (asciiBytes (headerBlock unusualHeader) ++
        (utf8Bytes ['\x7b', '\x7d'] ++ [1, 2])) =
      { outcome := .ok (.object []), rest := [1, 2], log := [arrivalEntry 2] } :=
  receive_announced unusualHeader_readable announces_unusualHeader (by decide) parseChars_empty
    [1, 2]

end EditorProtocol
