import EditorProtocol.Text.Encoding.Basic

/-!
Reading a text from bytes. Each encoding says what a first byte and some of the bytes after it stand
for; a text is read by repeating that until no byte is left.
-/

namespace EditorProtocol

/-- The characters that a byte starts, and how many of the further bytes they take; or what is
wrong and how many bytes, the first included, are at fault. -/
abbrev CharReader := UInt8 → List UInt8 → Except (ByteFault × Nat) (List Char × Nat)

/-- The text of all bytes, the first of which has the given place. -/
def CharReader.readAll (read : CharReader) (scheme : String) (place : Nat) :
    List UInt8 → Except EncodingError (List Char)
  | [] => .ok []
  | b :: rest =>
    match read b rest with
    | .error (fault, n) => .error (.undecodable scheme place ((b :: rest).take n) fault)
    | .ok (cs, n) => do
      let more ← readAll read scheme (place + 1 + n) (rest.drop n)
      return cs ++ more
termination_by bytes => bytes.length
decreasing_by
  simp only [List.length_drop, List.length_cons]
  omega

def readAscii : CharReader := fun b _ =>
  if b < 0x80 then .ok ([Char.ofNat b.toNat], 0) else .error (.beyondAscii, 1)

def readLatin : CharReader := fun b _ => .ok ([Char.ofNat b.toNat], 0)

def readPage (p : CodePage) : CharReader := fun b _ =>
  match p.charOf? b with
  | some c => .ok ([c], 0)
  | none => .error (.undefined, 1)

/-- A byte of an Eastern script; without its tables, there is no telling what bytes beyond ASCII
stand for. -/
def readEastern (s : EasternScript) : CharReader := fun b rest =>
  match s.others.find? fun e => e.2.isPrefixOf (b :: rest) with
  | some (c, bytes) => .ok ([c], bytes.length - 1)
  | none =>
    if b < 0x80 && !s.others.any (·.2.head? == some b) then .ok ([Char.ofNat b.toNat], 0)
    else .error (if rest.isEmpty then .incompleteSequence else .illegalSequence, 1)

/-- What may follow the first byte of a sequence: how many bytes, and the bounds of their first. -/
structure Utf8Lead where
  count : Nat
  low : UInt8
  high : UInt8
deriving DecidableEq, Repr

/-- What may follow a first byte beyond ASCII. The bounds leave out overlong sequences,
surrogates, and numbers that no character has. -/
def Utf8Lead.of? (b : UInt8) : Option Utf8Lead :=
  if b < 0xC2 then none
  else if b ≤ 0xDF then some ⟨1, 0x80, 0xBF⟩
  else if b = 0xE0 then some ⟨2, 0xA0, 0xBF⟩
  else if b = 0xED then some ⟨2, 0x80, 0x9F⟩
  else if b ≤ 0xEF then some ⟨2, 0x80, 0xBF⟩
  else if b = 0xF0 then some ⟨3, 0x90, 0xBF⟩
  else if b ≤ 0xF3 then some ⟨3, 0x80, 0xBF⟩
  else if b = 0xF4 then some ⟨3, 0x80, 0x8F⟩
  else none

/-- How many bytes at the front can follow, the first of them between the bounds. -/
def countTails (low high : UInt8) : List UInt8 → Nat
  | [] => 0
  | b :: rest => if low ≤ b ∧ b ≤ high then countTails 0x80 0xBF rest + 1 else 0

def readUtf8 : CharReader := fun b rest =>
  if b < 0x80 then .ok ([Char.ofNat b.toNat], 0)
  else
    match Utf8Lead.of? b with
    | none => .error (.badStart, 1)
    | some lead =>
      let tails := rest.take lead.count
      let good := countTails lead.low lead.high tails
      if good < tails.length then .error (.badContinuation, good + 1)
      else if tails.length < lead.count then .error (.earlyEnd, tails.length + 1)
      else
        let top := b.toNat % (64 >>> lead.count)
        .ok ([Char.ofNat (tails.foldl (fun n t => n * 64 + t.toNat % 64) top)], lead.count)

/-- The number that two bytes write. -/
def ByteOrder.pair : ByteOrder → UInt8 → UInt8 → Nat
  | .little, a, b => b.toNat * 256 + a.toNat
  | .big, a, b => a.toNat * 256 + b.toNat

def readUtf16 (order : ByteOrder) : CharReader := fun a rest =>
  match rest with
  | [] => .error (.truncated, 1)
  | b :: rest =>
    let high := order.pair a b
    if high < 0xD800 ∨ 0xE000 ≤ high then .ok ([Char.ofNat high], 1)
    else if 0xDC00 ≤ high then .error (.loneLow, 2)
    else
      match rest with
      | c :: d :: _ =>
        let low := order.pair c d
        if 0xDC00 ≤ low ∧ low < 0xE000 then
          .ok ([Char.ofNat (0x10000 + (high - 0xD800) * 0x400 + (low - 0xDC00))], 3)
        else .error (.loneHigh, 2)
      | rest => .error (.earlyEnd, 2 + rest.length)

/-- The number that four bytes write. -/
def ByteOrder.quad : ByteOrder → UInt8 → UInt8 → UInt8 → UInt8 → Nat
  | .little, a, b, c, d => ByteOrder.little.pair c d * 65536 + ByteOrder.little.pair a b
  | .big, a, b, c, d => ByteOrder.big.pair a b * 65536 + ByteOrder.big.pair c d

def readUtf32 (order : ByteOrder) : CharReader := fun a rest =>
  match rest with
  | b :: c :: d :: _ =>
    let n := order.quad a b c d
    if 0x110000 ≤ n then .error (.beyondRange, 4)
    else if 0xD800 ≤ n ∧ n < 0xE000 then .error (.surrogate, 4)
    else .ok ([Char.ofNat n], 3)
  | rest => .error (.truncated, rest.length + 1)

/-- The name under which faults of a family of units of a byte order are told. -/
def ByteOrder.schemeName (family : String) : ByteOrder → String
  | .little => family ++ "-le"
  | .big => family ++ "-be"

/-- A byte order told by a mark at the front, with the length of the mark. -/
def markedOrder (littleMark bytes : List UInt8) : ByteOrder × Nat :=
  if littleMark.isPrefixOf bytes then (.little, littleMark.length)
  else if littleMark.reverse.isPrefixOf bytes then (.big, littleMark.length)
  else (.little, 0)

/-- The marks at the front of a text, in little order. -/
def utf16Mark : List UInt8 := [0xFF, 0xFE]

def utf32Mark : List UInt8 := [0xFF, 0xFE, 0, 0]

def utf8Mark : List UInt8 := [0xEF, 0xBB, 0xBF]

end EditorProtocol
