import EditorProtocol.Text.Encoding.Coding

/-!
Texts that are read back from their bytes: ASCII ones, and any text in UTF-8. A reader that reads
each character back from its bytes, whatever follows them, does so for whole texts.
-/

namespace EditorProtocol

variable {c : Char} {cs : List Char}

/-! ### Readers -/

/-- A reader takes a character back from bytes, whatever comes after them. -/
def CharReader.Takes (read : CharReader) (c : Char) (bytes : List UInt8) : Prop :=
  ∃ b more, bytes = b :: more ∧ ∀ rest, read b (more ++ rest) = .ok ([c], more.length)

theorem CharReader.readAll_flatMap {read : CharReader} {bytesOf : Char → List UInt8}
    (scheme : String) (h : ∀ c ∈ cs, read.Takes c (bytesOf c)) (place : Nat) :
    read.readAll scheme place (cs.flatMap bytesOf) = .ok cs := by
  induction cs generalizing place with
  | nil =>
      rw [List.flatMap_nil, readAll]
  | cons c cs ih =>
      obtain ⟨⟨b, more, hbytes, hread⟩, hrest⟩ := List.forall_mem_cons.1 h
      rw [List.flatMap_cons, hbytes, List.cons_append, readAll, hread]
      dsimp only
      rw [List.drop_left, ih hrest]
      rfl

/-- A text all of whose characters have bytes is written as these, where no mark is put in front. -/
theorem Encoding.encodeEach_of_bytes {encoding : Encoding} {bytesOf : Char → List UInt8}
    (h : ∀ c ∈ cs, encoding.bytesOf? c = some (bytesOf c)) (hmark : encoding.mark = [] := by rfl) :
    encoding.encodeEach cs = .ok (cs.flatMap bytesOf) := by
  have hnone : cs.findIdx? (fun c => (encoding.bytesOf? c).isNone) = none := by
    rw [List.findIdx?_eq_none_iff]
    intro c hc
    rw [h c hc]
    rfl
  have hbytes : (cs.flatMap fun c => (encoding.bytesOf? c).getD []) = cs.flatMap bytesOf :=
    congrArg List.flatten (List.map_congr_left fun c hc => by rw [h c hc, Option.getD_some])
  unfold encodeEach
  dsimp only
  rw [hnone, hmark, hbytes, List.nil_append]

/-! ### ASCII -/

/-- The byte of an ASCII character. -/
def Char.asciiByte (c : Char) : UInt8 := UInt8.ofNat c.val.toNat

/-- A text of ASCII characters only. -/
def IsAscii (cs : List Char) : Prop := ∀ c ∈ cs, c.val.toNat < 128

instance (cs : List Char) : Decidable (IsAscii cs) :=
  inferInstanceAs (Decidable (∀ c ∈ cs, _))

theorem Char.toNat_asciiByte (h : c.val.toNat < 128) : (Char.asciiByte c).toNat = c.val.toNat := by
  rw [Char.asciiByte, UInt8.toNat_ofNat']
  omega

theorem readAscii_takes (h : c.val.toNat < 128) : readAscii.Takes c [Char.asciiByte c] := by
  refine ⟨_, [], rfl, fun rest => ?_⟩
  rw [readAscii, if_pos (UInt8.lt_iff_toNat_lt.2 ((Char.toNat_asciiByte h).symm ▸ h)),
    Char.toNat_asciiByte h]
  exact congrArg (fun c => Except.ok ([c], 0)) (Char.ofNat_toNat c)

/-- The bytes of an ASCII text, which any of the encodings has that extend ASCII. -/
def asciiBytes (cs : List Char) : List UInt8 := cs.map Char.asciiByte

theorem readAscii_asciiBytes (h : IsAscii cs) (scheme : String) (place : Nat) :
    readAscii.readAll scheme place (asciiBytes cs) = .ok cs := by
  rw [asciiBytes, List.map_eq_flatMap]
  exact CharReader.readAll_flatMap scheme (fun c hc => readAscii_takes (h c hc)) place

theorem encode_ascii (h : IsAscii cs) : Encoding.ascii.encode cs = .ok (asciiBytes cs) := by
  rw [asciiBytes, List.map_eq_flatMap]
  exact Encoding.encodeEach_of_bytes fun c hc => if_pos (h c hc)

/-! ### UTF-8 -/

namespace Utf8Lead

variable {b : UInt8}

theorem of?_two (low : 194 ≤ b.toNat) (high : b.toNat ≤ 223) :
    of? b = some ⟨1, 0x80, 0xBF⟩ := by
  unfold of?
  simp only [UInt8.lt_iff_toNat_lt, UInt8.le_iff_toNat_le, ← UInt8.toNat_inj, UInt8.reduceToNat]
  grind

theorem of?_three (low : 224 ≤ b.toNat) (high : b.toNat ≤ 239) :
    of? b = some ⟨2, if b.toNat = 224 then 0xA0 else 0x80,
      if b.toNat = 237 then 0x9F else 0xBF⟩ := by
  unfold of?
  simp only [UInt8.lt_iff_toNat_lt, UInt8.le_iff_toNat_le, ← UInt8.toNat_inj, UInt8.reduceToNat]
  grind

theorem of?_four (low : 240 ≤ b.toNat) (high : b.toNat ≤ 244) :
    of? b = some ⟨3, if b.toNat = 240 then 0x90 else 0x80,
      if b.toNat = 244 then 0x8F else 0xBF⟩ := by
  unfold of?
  simp only [UInt8.lt_iff_toNat_lt, UInt8.le_iff_toNat_le, ← UInt8.toNat_inj, UInt8.reduceToNat]
  grind

end Utf8Lead

theorem countTails_cons {low high b : UInt8} (rest : List UInt8) (hlow : low.toNat ≤ b.toNat)
    (hhigh : b.toNat ≤ high.toNat) :
    countTails low high (b :: rest) = countTails 0x80 0xBF rest + 1 := by
  rw [countTails, if_pos ⟨UInt8.le_iff_toNat_le.2 hlow, UInt8.le_iff_toNat_le.2 hhigh⟩]

/-- A byte that follows the first byte of a sequence. -/
def tailByte (n : Nat) : UInt8 := UInt8.ofNat (n % 64 + 128)

theorem toNat_tailByte (n : Nat) : (tailByte n).toNat = n % 64 + 128 := by
  rw [tailByte, UInt8.toNat_ofNat']
  omega

theorem countTails_tailByte (n : Nat) (rest : List UInt8) :
    countTails 0x80 0xBF (tailByte n :: rest) = countTails 0x80 0xBF rest + 1 := by
  refine countTails_cons rest ?_ ?_
  · rw [toNat_tailByte]
    exact Nat.le_add_left _ _
  · rw [toNat_tailByte]
    show n % 64 + 128 ≤ 191
    omega

/-- What a first byte and the bytes that it needs are read as. -/
theorem readUtf8_of_lead (base : Nat) {b : UInt8} {tails : List UInt8} {lead : Utf8Lead}
    (hb : 128 ≤ b.toNat) (hlead : Utf8Lead.of? b = some lead) (hbase : 64 >>> lead.count = base)
    (hlength : tails.length = lead.count)
    (hgood : countTails lead.low lead.high tails = tails.length)
    (hchar : Char.ofNat (tails.foldl (fun n t => n * 64 + t.toNat % 64) (b.toNat % base)) = c) :
    readUtf8.Takes c (b :: tails) := by
  have hbyte : ¬ b < 0x80 := by
    rw [UInt8.lt_iff_toNat_lt]
    exact Nat.not_lt.2 hb
  refine ⟨b, tails, rfl, fun rest => ?_⟩
  unfold readUtf8
  rw [if_neg hbyte, hlead]
  dsimp only
  rw [← hlength, List.take_left, hgood, if_neg (Nat.lt_irrefl _), if_neg (Nat.lt_irrefl _), hlength,
    hbase, hchar]

section Sequences

variable {n : Nat} (hn : Char.ofNat n = c)

include hn

theorem readUtf8_two (low : 0x80 ≤ n) (high : n < 0x800) :
    readUtf8.Takes c [UInt8.ofNat (n / 64 % 32 + 192), tailByte n] := by
  have hb : (UInt8.ofNat (n / 64 % 32 + 192)).toNat = n / 64 % 32 + 192 := by
    rw [UInt8.toNat_ofNat']
    omega
  refine readUtf8_of_lead 32 (by omega) (Utf8Lead.of?_two (by omega) (by omega)) rfl rfl
    (countTails_tailByte n []) ?_
  simp only [List.foldl_cons, List.foldl_nil, toNat_tailByte, hb]
  rw [show (n / 64 % 32 + 192) % 32 * 64 + (n % 64 + 128) % 64 = n by omega, hn]

theorem readUtf8_three (low : 0x800 ≤ n) (high : n < 0x10000) (hvalid : n < 0xD800 ∨ 0xDFFF < n) :
    readUtf8.Takes c
      [UInt8.ofNat (n / 4096 % 16 + 224), tailByte (n / 64), tailByte n] := by
  have hb : (UInt8.ofNat (n / 4096 % 16 + 224)).toNat = n / 4096 % 16 + 224 := by
    rw [UInt8.toNat_ofNat']
    omega
  refine readUtf8_of_lead 16 (by omega) (Utf8Lead.of?_three (by omega) (by omega)) rfl
    rfl ?_ ?_
  -- The bounds of the second byte leave out overlong sequences and surrogates.
  · rw [countTails_cons, countTails_tailByte]
    · rfl
    · rw [toNat_tailByte, hb]
      split <;> simp only [UInt8.reduceToNat] <;> omega
    · rw [toNat_tailByte, hb]
      dsimp only
      split <;> simp only [UInt8.reduceToNat] <;> omega
  · simp only [List.foldl_cons, List.foldl_nil, toNat_tailByte, hb]
    rw [show ((n / 4096 % 16 + 224) % 16 * 64 + (n / 64 % 64 + 128) % 64) * 64 +
      (n % 64 + 128) % 64 = n by omega, hn]

theorem readUtf8_four (low : 0x10000 ≤ n) (high : n < 0x110000) :
    readUtf8.Takes c [UInt8.ofNat (n / 262144 % 8 + 240), tailByte (n / 4096), tailByte (n / 64),
      tailByte n] := by
  have hb : (UInt8.ofNat (n / 262144 % 8 + 240)).toNat = n / 262144 % 8 + 240 := by
    rw [UInt8.toNat_ofNat']
    omega
  refine readUtf8_of_lead 8 (by omega) (Utf8Lead.of?_four (by omega) (by omega)) rfl rfl
    ?_ ?_
  -- The bounds of the second byte leave out overlong sequences and what is beyond Unicode.
  · rw [countTails_cons, countTails_tailByte, countTails_tailByte]
    · rfl
    · rw [toNat_tailByte, hb]
      split <;> simp only [UInt8.reduceToNat] <;> omega
    · rw [toNat_tailByte, hb]
      dsimp only
      split <;> simp only [UInt8.reduceToNat] <;> omega
  · simp only [List.foldl_cons, List.foldl_nil, toNat_tailByte, hb]
    rw [show (((n / 262144 % 8 + 240) % 8 * 64 + (n / 4096 % 64 + 128) % 64) * 64 +
      (n / 64 % 64 + 128) % 64) * 64 + (n % 64 + 128) % 64 = n by omega, hn]

end Sequences

theorem readUtf8_ascii (h : c.val.toNat < 128) : readUtf8.Takes c [Char.asciiByte c] := by
  refine ⟨_, [], rfl, fun rest => ?_⟩
  rw [readUtf8, if_pos (UInt8.lt_iff_toNat_lt.2 ((Char.toNat_asciiByte h).symm ▸ h)),
    Char.toNat_asciiByte h]
  exact congrArg (fun c => Except.ok ([c], 0)) (Char.ofNat_toNat c)

/-- Every character is read back from its bytes in UTF-8. -/
theorem readUtf8_takes (c : Char) : readUtf8.Takes c (String.utf8EncodeChar c) := by
  have hn : Char.ofNat c.val.toNat = c := Char.ofNat_toNat c
  have hvalid : c.val.toNat < 0xD800 ∨ 0xDFFF < c.val.toNat ∧ c.val.toNat < 0x110000 := c.valid
  rw [String.utf8EncodeChar]
  split
  · exact readUtf8_ascii (by omega)
  · split
    · exact readUtf8_two hn (by omega) (by omega)
    · split
      · exact readUtf8_three hn (by omega) (by omega) (by omega)
      · exact readUtf8_four hn (by omega) (by omega)

/-- The bytes of a text in UTF-8. -/
def utf8Bytes (cs : List Char) : List UInt8 := cs.flatMap String.utf8EncodeChar

theorem readUtf8_utf8Bytes (cs : List Char) (scheme : String) (place : Nat) :
    readUtf8.readAll scheme place (utf8Bytes cs) = .ok cs :=
  CharReader.readAll_flatMap scheme (fun c _ => readUtf8_takes c) place

theorem encode_utf8 (cs : List Char) : Encoding.utf8.encode cs = .ok (utf8Bytes cs) :=
  Encoding.encodeEach_of_bytes fun _ _ => rfl

end EditorProtocol
