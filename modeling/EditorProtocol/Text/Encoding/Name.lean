import EditorProtocol.Text.Encoding.Coding

/-!
Names of encodings. Case does not count, and whatever stands between letters, digits and points is
the same separator.
-/

namespace EditorProtocol

/-- The letters, digits and points of a name in small letters, an underscore for whatever is between
two of them; `separated` says that something was left out after the last one. -/
def namePieces (separated : Bool) : List Char → List Char
  | [] => []
  | c :: rest =>
    if c.isAlphanum || c == '.' then
      (if separated then ['_', c.toLower] else [c.toLower]) ++ namePieces false rest
    else namePieces true rest

/-- A name as it is looked up: the same for all spellings of it. -/
def canonicalName (name : String) : String :=
  String.ofList ((namePieces false name.toList).dropWhile (· == '_'))

/-- The scripts of the East by the names of their encodings. Where it matters, the yen sign and the
overline stand in the places of the backslash and the tilde. -/
def easternNames : List (List String × EasternScript) :=
  let plain (names : List String) : List String × EasternScript := (names, ⟨names.headD "", []⟩)
  let yen (names : List String) : List String × EasternScript :=
    (names, ⟨names.headD "", [('\u00a5', [0x5C]), ('\u203e', [0x7E]), ('\\', [0x81, 0x5F]),
      ('~', [0x81, 0xB0])]⟩)
  [plain ["big5", "big5_tw", "csbig5", "x_mac_trad_chinese"],
    plain ["big5hkscs", "big5_hkscs", "hkscs"],
    plain ["cp932", "932", "ms932", "mskanji", "ms_kanji"],
    plain ["cp949", "949", "ms949", "uhc"],
    plain ["cp950", "950", "ms950"],
    plain ["euc_jis_2004", "jisx0213", "eucjis2004", "euc_jis2004"],
    plain ["euc_jisx0213", "eucjisx0213"],
    plain ["euc_jp", "eucjp", "ujis", "u_jis"],
    plain ["euc_kr", "euckr", "korean", "ksc5601", "ks_c_5601", "ks_c_5601_1987", "ksx1001",
      "ks_x_1001", "x_mac_korean"],
    plain ["gb18030", "gb18030_2000"],
    plain ["gb2312", "chinese", "csiso58gb231280", "euc_cn", "euccn", "eucgb2312_cn",
      "gb2312_1980", "gb2312_80", "iso_ir_58", "x_mac_simp_chinese"],
    plain ["gbk", "936", "cp936", "ms936"],
    (["hz", "hzgb", "hz_gb", "hz_gb_2312"], ⟨"hz", [('~', [0x7E, 0x7E])]⟩),
    plain ["iso2022_jp", "csiso2022jp", "iso2022jp", "iso_2022_jp"],
    plain ["iso2022_jp_1", "iso2022jp_1", "iso_2022_jp_1"],
    plain ["iso2022_jp_2", "iso2022jp_2", "iso_2022_jp_2"],
    plain ["iso2022_jp_2004", "iso_2022_jp_2004", "iso2022jp_2004"],
    plain ["iso2022_jp_3", "iso2022jp_3", "iso_2022_jp_3"],
    plain ["iso2022_jp_ext", "iso2022jp_ext", "iso_2022_jp_ext"],
    plain ["iso2022_kr", "csiso2022kr", "iso2022kr", "iso_2022_kr"],
    plain ["johab", "cp1361", "ms1361"],
    plain ["shift_jis", "csshiftjis", "shiftjis", "sjis", "s_jis", "x_mac_japanese"],
    yen ["shift_jis_2004", "shiftjis2004", "sjis_2004", "s_jis_2004"],
    yen ["shift_jisx0213", "shiftjisx0213", "sjisx0213", "s_jisx0213"]]

/-- The code pages by name. -/
def pageNames : List (List String × CodePage) :=
  CodePage.standard ++ CodePage.windows ++ CodePage.personal ++ CodePage.desktop ++
    CodePage.mainframe

/-- The names of the encodings: the proper one first, then others. -/
def encodingNames : List (List String × Encoding) :=
  [(["ascii", "646", "ansi_x3.4_1968", "ansi_x3_4_1968", "ansi_x3.4_1986", "cp367", "csascii",
      "ibm367", "iso646_us", "iso_646.irv_1991", "iso_ir_6", "us", "us_ascii"], .ascii),
    (["latin_1", "8859", "cp819", "csisolatin1", "ibm819", "iso8859", "iso8859_1", "iso_8859_1",
      "iso_8859_1_1987", "iso_ir_100", "l1", "latin", "latin1"], .latin),
    (["charmap"], .latin),
    (["utf_7", "u7", "utf7", "unicode_1_1_utf_7"], .utf7),
    (["utf_8", "u8", "utf", "utf8", "utf8_ucs2", "utf8_ucs4", "cp65001"], .utf8),
    (["utf_8_sig"], .markedUtf8),
    (["utf_16", "u16", "utf16"], .utf16 none),
    (["utf_16_be", "unicodebigunmarked", "utf_16be"], .utf16 (some .big)),
    (["utf_16_le", "unicodelittleunmarked", "utf_16le"], .utf16 (some .little)),
    (["utf_32", "u32", "utf32"], .utf32 none),
    (["utf_32_be", "utf_32be"], .utf32 (some .big)),
    (["utf_32_le", "utf_32le"], .utf32 (some .little)),
    (["unicode_escape"], .escaped true),
    (["raw_unicode_escape"], .escaped false),
    (["punycode"], .punycode),
    (["idna"], .labels),
    (["undefined"], .undefined)] ++
    pageNames.map (fun e => (e.1, .page e.2)) ++ easternNames.map fun e => (e.1, .eastern e.2)

/-- The names of what turns bytes into bytes, or texts into texts. -/
def transformNames : List (List String × Unit) := [
  (["base64_codec", "base64", "base_64"], ()),
  (["bz2_codec", "bz2"], ()),
  (["hex_codec", "hex"], ()),
  (["quopri_codec", "quopri", "quoted_printable", "quotedprintable"], ()),
  (["rot_13", "rot13"], ()),
  (["uu_codec", "uu"], ()),
  (["zlib_codec", "zip", "zlib"], ())]

/-- What has a canonical name. In a name with points they may also stand for underscores, but not in
a proper one. -/
def named? {α : Type} (names : List (List String × α)) (name : String) : Option α :=
  let underscored := String.ofList (name.toList.map fun c => if c = '.' then '_' else c)
  let matching (others : List String) : Bool :=
    others.contains name || others.tail.contains underscored
  (names.find? fun e => matching e.1).map Prod.snd

/-- The encoding that a name stands for. -/
def Encoding.ofName (name : String) (reading : Bool) : Except EncodingError Encoding :=
  let canonical := canonicalName name
  if name.contains '\x00' then .error .nullInName
  else
    match named? encodingNames canonical, named? transformNames canonical with
    | some encoding, _ => .ok encoding
    | none, some _ => .error (.notText name reading)
    | none, none => .error (.unknown name)

/-- An error of an encoding under the name that was asked for. -/
def EncodingError.under (name : String) : EncodingError → EncodingError
  | .failed _ reading reason => .failed name reading reason
  | e => e

/-- The text that bytes are in a named encoding. No bytes are the empty text under any name. -/
def decodeNamed (name : String) (bytes : List UInt8) : Except EncodingError (List Char) :=
  match Encoding.ofName name true with
  | .ok encoding =>
    if bytes.isEmpty then .ok [] else (encoding.decode bytes).mapError (.under name)
  | .error .nullInName => .error .nullInName
  | .error e => if bytes.isEmpty then .ok [] else .error e

/-- The bytes of a text in a named encoding. -/
def encodeNamed (name : String) (text : List Char) : Except EncodingError (List UInt8) := do
  ((← Encoding.ofName name false).encode text).mapError (.under name)

end EditorProtocol
