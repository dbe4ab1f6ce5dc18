import EditorProtocol.Number.Numeral
import EditorProtocol.Text.Parsed
import EditorProtocol.Value.Order

/-!
Reading a JSON text. Every reader takes a list of characters and gives back what it read with the
rest, which is shorter. A failure is known by its cause and by how much of the text was left at
it; besides standard JSON the names of not-a-number and the infinities are numbers.
-/

namespace EditorProtocol.Json

/-- Why a text is no JSON text. -/
inductive Cause where
  | expectedValue
  | expectedName
  | expectedColon
  | expectedComma
  | unterminated
  | badEscape
  | badUnicodeEscape
  | controlCharacter
  | extraData
  | byteOrderMark
  /-- An integer with too many digits; it makes no difference where it is. -/
  | tooLong (digits : Nat)
deriving DecidableEq, Repr

def Cause.message : Cause → String
  | .expectedValue => "Expecting value"
  | .expectedName => "Expecting property name enclosed in double quotes"
  | .expectedColon => "Expecting ':' delimiter"
  | .expectedComma => "Expecting ',' delimiter"
  | .unterminated => "Unterminated string starting at"
  | .badEscape => "Invalid \\escape"
  | .badUnicodeEscape => "Invalid \\uXXXX escape"
  | .controlCharacter => "Invalid control character at"
  | .extraData => "Extra data"
  | .byteOrderMark => "Unexpected UTF-8 BOM (decode using utf-8-sig)"
  | .tooLong digits => Numeral.excessText (some digits)

/-- A cause and the number of characters left where it was met. -/
structure Failure where
  cause : Cause
  left : Nat
deriving DecidableEq, Repr

/-- Whether a text fails although it is a JSON text. -/
def Failure.isLimit (f : Failure) : Bool :=
  match f.cause with
  | .tooLong _ => true
  | _ => false

/-- The failure with its place in the whole text: line, column and characters before it. -/
def Failure.message (text : List Char) (f : Failure) : String :=
  let before := text.take (text.length - f.left)
  let line := before.count '\n' + 1
  let column := (before.reverse.takeWhile (· != '\n')).length + 1
  if f.isLimit then f.cause.message
  else
    f.cause.message ++ ": line " ++ toString line ++ " column " ++ toString column ++
      " (char " ++ toString before.length ++ ")"

def isBlank (c : Char) : Bool := c == ' ' || c == '\t' || c == '\n' || c == '\r'

def skipBlanks (s : List Char) : List Char := s.dropWhile isBlank

theorem length_skipBlanks_le (s : List Char) : (skipBlanks s).length ≤ s.length :=
  (List.dropWhile_suffix _).length_le

/-- What follows the first character after blanks. -/
theorem length_lt_of_skipBlanks {t r : List Char} {c : Char} (h : skipBlanks t = c :: r) :
    r.length < t.length := by
  have le := length_skipBlanks_le t
  rw [h, List.length_cons] at le
  exact le

/-- What follows a separator between blanks, where the text before it is part of another one. -/
theorem length_skipBlanks_lt {s t r : List Char} {c : Char} (shorter : t.length < s.length)
    (h : skipBlanks t = c :: r) : (skipBlanks r).length < s.length :=
  Nat.lt_of_le_of_lt (length_skipBlanks_le r) (Nat.lt_trans (length_lt_of_skipBlanks h) shorter)

/-- The number that four hexadecimal digits at the front of a text write; another character has to
follow them. -/
def hexQuad? : List Char → Option Nat
  | a :: b :: c :: d :: _ :: _ => do
    let a ← Numeral.digit? a
    let b ← Numeral.digit? b
    let c ← Numeral.digit? c
    let d ← Numeral.digit? d
    return ((a * 16 + b) * 16 + c) * 16 + d
  | _ => none

/-- The character of a single code unit; half of a surrogate pair is replaced. -/
def unitChar (n : Nat) : Char :=
  if 0xD800 ≤ n ∧ n < 0xE000 then Char.ofNat 0xFFFD else Char.ofNat n

/-- The character that a short escape writes. -/
def shortEscape? : Char → Option Char
  | '"' => some '"'
  | '\\' => some '\\'
  | '/' => some '/'
  | 'b' => some '\x08'
  | 'f' => some '\x0c'
  | 'n' => some '\n'
  | 'r' => some '\r'
  | 't' => some '\t'
  | _ => none

/-- The character that an escape writes, given what follows its letter u, and how much of that
belongs to the escape. Two escapes that write a surrogate pair write one character. -/
def unicodeEscape (rest : List Char) : Except Failure (Char × Nat) :=
  match hexQuad? rest with
  | none => .error ⟨.badUnicodeEscape, rest.length + 1⟩
  | some n =>
    match rest.drop 4 with
    | '\\' :: 'u' :: low =>
      if 0xD800 ≤ n ∧ n < 0xDC00 ∧ !(low.drop 4).isEmpty then
        match hexQuad? low with
        | none => .error ⟨.badUnicodeEscape, low.length + 1⟩
        | some m =>
          if 0xDC00 ≤ m ∧ m < 0xE000 then
            .ok (Char.ofNat (0x10000 + (n - 0xD800) * 0x400 + (m - 0xDC00)), 10)
          else .ok (unitChar n, 4)
      else .ok (unitChar n, 4)
    | _ => .ok (unitChar n, 4)

theorem length_drop_le_cons (n : Nat) (a b : Char) (s : List Char) :
    (s.drop n).length < (a :: b :: s).length := by
  simp only [List.length_drop, List.length_cons]
  omega

/-- The characters of a string after its opening quote; `start` is the text from that quote on. -/
def stringBody (start : List Char) (s : List Char) : Except Failure (Parsed (List Char) s) :=
  match s with
  | [] => .error ⟨.unterminated, start.length⟩
  | '"' :: rest => .ok ⟨[], rest, by simp⟩
  | ['\\'] => .error ⟨.unterminated, start.length⟩
  | '\\' :: 'u' :: rest => do
    let (c, n) ← unicodeEscape rest
    let p ← stringBody start (rest.drop n)
    return p.cons c (Nat.le_of_lt (length_drop_le_cons n _ _ rest))
  | '\\' :: c :: rest =>
    match shortEscape? c with
    | none => .error ⟨.badEscape, rest.length + 2⟩
    | some d => do
      let p ← stringBody start rest
      return p.cons d (by simp only [List.length_cons]; omega)
  | c :: rest =>
    if c.val < 32 then .error ⟨.controlCharacter, rest.length + 1⟩
    else do
      let p ← stringBody start rest
      return p.cons c (by simp)
termination_by s.length
decreasing_by
  · exact length_drop_le_cons _ _ _ rest
  · simp only [List.length_cons]
    omega
  · simp only [List.length_cons]
    omega

/-- The digits of a number's integer part: a zero alone, or digits that start with another one. -/
def integerPart : List Char → List Char × List Char
  | '0' :: rest => (['0'], rest)
  | s => (s.takeWhile Numeral.isDecimal, s.dropWhile Numeral.isDecimal)

/-- The digits of a fraction; the point counts only if a digit follows it. -/
def fractionPart : List Char → List Char × List Char
  | '.' :: d :: rest =>
    if Numeral.isDecimal d then
      (d :: rest.takeWhile Numeral.isDecimal, rest.dropWhile Numeral.isDecimal)
    else ([], '.' :: d :: rest)
  | s => ([], s)

/-- The exponent of a number, if digits follow its letter and sign. -/
def exponentPart (s : List Char) : Option Int × List Char :=
  match s with
  | e :: rest =>
    let unsigned := Numeral.sign rest
    let ds := unsigned.2.takeWhile Numeral.isDecimal
    if (e == 'e' || e == 'E') && !ds.isEmpty then
      (some (Numeral.withSign unsigned.1 (Numeral.value 10 ds)),
        unsigned.2.dropWhile Numeral.isDecimal)
    else (none, s)
  | [] => (none, s)

theorem length_integerPart_lt {s : List Char} (h : (integerPart s).1.isEmpty = false) :
    (integerPart s).2.length < s.length := by
  revert h
  unfold integerPart
  split
  · simp
  · intro h
    have parts := congrArg List.length (List.takeWhile_append_dropWhile (p := Numeral.isDecimal)
      (l := s))
    have some : 0 < (s.takeWhile Numeral.isDecimal).length :=
      List.length_pos_iff.2 fun none => by simp [none] at h
    rw [List.length_append] at parts
    show (s.dropWhile Numeral.isDecimal).length < s.length
    omega

theorem length_fractionPart_le (s : List Char) : (fractionPart s).2.length ≤ s.length := by
  unfold fractionPart
  split
  · rename_i rest
    split
    · have := (List.dropWhile_suffix Numeral.isDecimal (l := rest)).length_le
      simp only [List.length_cons]
      omega
    · simp
  · simp

theorem length_sign_le (s : List Char) : (Numeral.sign s).2.length ≤ s.length := by
  unfold Numeral.sign
  split <;> simp

theorem length_exponentPart_le (s : List Char) : (exponentPart s).2.length ≤ s.length := by
  unfold exponentPart
  split
  · rename_i e rest
    dsimp only
    split
    · have dropped (r : List Char) : (r.dropWhile Numeral.isDecimal).length ≤ r.length :=
        (List.dropWhile_suffix _).length_le
      exact Nat.le_succ_of_le (Nat.le_trans (dropped _) (length_sign_le rest))
    · simp
  · simp

/-- A number without its sign; without fraction and exponent it is an integer. -/
def unsignedNumber (negative : Bool) (s : List Char) : Option (Parsed Value s) :=
  let i := integerPart s
  if h : i.1.isEmpty then none
  else
    let f := fractionPart i.2
    let e := exponentPart f.2
    let v : Value :=
      if f.1.isEmpty && e.1.isNone then
        .int (Numeral.withSign negative (Numeral.value 10 i.1))
      else
        .float (.ofDecimal negative (Numeral.value 10 (i.1 ++ f.1))
          (e.1.getD 0 - (f.1.length : Int)))
    some ⟨v, e.2, Nat.lt_of_le_of_lt (length_exponentPart_le f.2)
      (Nat.lt_of_le_of_lt (length_fractionPart_le i.2)
        (length_integerPart_lt (Bool.eq_false_iff.2 h)))⟩

/-- The names of values, by their first characters and the others. -/
def literals : List ((Char × List Char) × Value) :=
  let name (s : String) : Char × List Char := (s.toList.headD ' ', s.toList.tail)
  [(name "null", .null), (name "true", .bool true), (name "false", .bool false),
    (name "NaN", .float .nan), (name "Infinity", .float (.infinity false)),
    (name "-Infinity", .float (.infinity true))]

/-- A value that is named or a number. -/
def atom? (s : List Char) : Option (Parsed Value s) :=
  match s with
  | [] => none
  | c :: rest =>
    match literals.find? fun l => l.1.1 == c && l.1.2.isPrefixOf rest with
    | some (name, v) =>
      some ⟨v, rest.drop name.2.length, Nat.lt_succ_of_le (List.length_drop ▸ Nat.sub_le _ _)⟩
    | none =>
      if c = '-' then (unsignedNumber true rest).map fun p => p.after id (Nat.le_succ _)
      else unsignedNumber false (c :: rest)

/-- How many digits an integer was written with, if they are too many. -/
def excess? : Value → Option Nat
  | .int n => if Numeral.isTooLong n then some (Nat.toDigits 10 n.natAbs).length else none
  | _ => none

mutual

/-- The value at the front of a text. -/
def value (s : List Char) : Except Failure (Parsed Value s) :=
  match s with
  | '"' :: rest => do
    let p ← stringBody ('"' :: rest) rest
    return p.after (fun cs => .text (String.ofList cs)) (Nat.le_succ _)
  | '{' :: rest =>
    match _h : skipBlanks rest with
    | '}' :: rest' => .ok ⟨.object [], rest', Nat.lt_succ_of_lt (length_lt_of_skipBlanks _h)⟩
    | inner => do
      let p ← members inner
      return p.after Value.ofEntries (_h ▸ Nat.le_succ_of_le (length_skipBlanks_le rest))
  | '[' :: rest =>
    match _h : skipBlanks rest with
    | ']' :: rest' => .ok ⟨.list [], rest', Nat.lt_succ_of_lt (length_lt_of_skipBlanks _h)⟩
    | inner => do
      let p ← items inner
      return p.after Value.list (_h ▸ Nat.le_succ_of_le (length_skipBlanks_le rest))
  | s =>
    match atom? s with
    | some p =>
      match excess? p.value with
      | some digits => .error ⟨.tooLong digits, s.length⟩
      | none => .ok p
    | none => .error ⟨.expectedValue, s.length⟩
termination_by (s.length, 0)
decreasing_by
  · exact Prod.Lex.left _ _ (_h ▸ Nat.lt_succ_of_le (length_skipBlanks_le rest))
  · exact Prod.Lex.left _ _ (_h ▸ Nat.lt_succ_of_le (length_skipBlanks_le rest))

/-- The items of an array up to its closing bracket. -/
def items (s : List Char) : Except Failure (Parsed (List Value) s) := do
  let p ← value s
  match _h : skipBlanks p.rest with
  | ']' :: rest =>
    .ok ⟨[p.value], rest, Nat.lt_trans (length_lt_of_skipBlanks _h) p.shorter⟩
  | ',' :: rest => do
    let q ← items (skipBlanks rest)
    return q.after (p.value :: ·) (Nat.le_of_lt (length_skipBlanks_lt p.shorter _h))
  | rest => .error ⟨.expectedComma, rest.length⟩
termination_by (s.length, 1)
decreasing_by
  · exact Prod.Lex.right _ Nat.zero_lt_one
  · exact Prod.Lex.left _ _ (length_skipBlanks_lt p.shorter _h)

/-- The entries of an object up to its closing brace. -/
def members (s : List Char) : Except Failure (Parsed (List (String × Value)) s) :=
  match s with
  | '"' :: afterQuote => do
    let name ← stringBody ('"' :: afterQuote) afterQuote
    match _hc : skipBlanks name.rest with
    | ':' :: afterColon => do
      let p ← value (skipBlanks afterColon)
      let shorter :=
        Nat.lt_trans p.shorter (length_skipBlanks_lt (Nat.lt_succ_of_lt name.shorter) _hc)
      match _h : skipBlanks p.rest with
      | '}' :: rest =>
        .ok ⟨[(String.ofList name.value, p.value)], rest,
          Nat.lt_trans (length_lt_of_skipBlanks _h) shorter⟩
      | ',' :: rest => do
        let q ← members (skipBlanks rest)
        return q.after ((String.ofList name.value, p.value) :: ·)
          (Nat.le_of_lt (length_skipBlanks_lt shorter _h))
      | rest => .error ⟨.expectedComma, rest.length⟩
    | rest => .error ⟨.expectedColon, rest.length⟩
  | s => .error ⟨.expectedName, s.length⟩
termination_by (s.length, 1)
decreasing_by
  · exact Prod.Lex.left _ _ (length_skipBlanks_lt (Nat.lt_succ_of_lt name.shorter) _hc)
  · exact Prod.Lex.left _ _ (length_skipBlanks_lt shorter _h)

end

/-- The value that a whole text is. -/
def parseChars (s : List Char) : Except Failure Value :=
  if s.head? = some (Char.ofNat 0xFEFF) then .error ⟨.byteOrderMark, s.length⟩
  else do
    let p ← value (skipBlanks s)
    let rest := skipBlanks p.rest
    if rest.isEmpty then return p.value else .error ⟨.extraData, rest.length⟩

/-- The value that a text is, or why it is none. -/
def parse (text : String) : Except String Value :=
  (parseChars text.toList).mapError (Failure.message text.toList)

end EditorProtocol.Json
