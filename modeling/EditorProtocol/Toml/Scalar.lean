import EditorProtocol.Number.Numeral
import EditorProtocol.Text.Parsed
import EditorProtocol.Toml.Node

/-!
Texts, keys, numbers and moments as TOML writes them. A reader gives nothing where the text breaks a
rule, and does not tell which one; only an integer with too many digits is told apart.
-/

namespace EditorProtocol.Toml

/-- Why a text describes no table. -/
inductive Failure where
  | malformed
  | tooLong (digits : Nat)
deriving DecidableEq, Repr

/-- What was read, or else the text breaks a rule. -/
def ofReader {α : Type} : Option α → Except Failure α
  | some a => .ok a
  | none => .error .malformed

def isBlank (c : Char) : Bool := c == ' ' || c == '\t'

def isFiller (c : Char) : Bool := isBlank c || c == '\n'

/-- Whether a character may stand in a text or a comment: all but the controls, tab excepted, and a
line feed where lines may break. -/
def isAllowed (multiline : Bool) (c : Char) : Bool :=
  c == '\t' || (multiline && c == '\n') || (decide (32 ≤ c.val.toNat) && c.val.toNat != 127)

def skipBlanks (s : List Char) : List Char := s.dropWhile isBlank

theorem length_skipBlanks_le (s : List Char) : (skipBlanks s).length ≤ s.length :=
  (List.dropWhile_suffix _).length_le

/-! ## Texts -/

/-- The character of a short escape. -/
def shortEscape? : Char → Option Char
  | 'b' => some '\x08'
  | 't' => some '\t'
  | 'n' => some '\n'
  | 'e' => some '\x1b'
  | 'f' => some '\x0c'
  | 'r' => some '\r'
  | '"' => some '"'
  | '\\' => some '\\'
  | _ => none

/-- The character that a count of hexadecimal digits writes; surrogates are none. -/
def numberedChar? (count : Nat) (s : List Char) : Option (Char × List Char) :=
  let digits := s.take count
  let n := Numeral.value 16 digits
  if digits.length = count ∧ digits.all (Numeral.isDigitOf 16) ∧
      (n < 0xD800 ∨ 0xE000 ≤ n ∧ n < 0x110000) then
    some (Char.ofNat n, s.drop count)
  else none

/-- What an escape writes, after its backslash. Where lines may break, a backslash at the end of
one skips to the next text. -/
def escape? (multiline : Bool) (s : List Char) : Option (List Char × List Char) :=
  match s with
  | [] => none
  | 'x' :: rest => (numberedChar? 2 rest).map fun (c, rest) => ([c], rest)
  | 'u' :: rest => (numberedChar? 4 rest).map fun (c, rest) => ([c], rest)
  | 'U' :: rest => (numberedChar? 8 rest).map fun (c, rest) => ([c], rest)
  | c :: rest =>
    if multiline && isFiller c then
      match skipBlanks s with
      | [] => some ([], [])
      | '\n' :: rest => some ([], rest.dropWhile isFiller)
      | _ => none
    else (shortEscape? c).map fun d => ([d], rest)

/-- The text between double quotes, after the opening ones: one, or three where lines may break. -/
def basicBody? (multiline : Bool) (s : List Char) : Option (Parsed (List Char) s) :=
  match s with
  | [] => none
  | '"' :: rest =>
    if multiline then
      if ['"', '"'].isPrefixOf rest then Parsed.ofShorter? _ [] (rest.drop 2)
      else do
        let p ← basicBody? multiline rest
        return p.cons '"' (by simp)
    else Parsed.ofShorter? _ [] rest
  | '\\' :: rest =>
    match escape? multiline rest with
    | none => none
    | some (cs, rest') =>
      if h : rest'.length < rest.length + 1 then do
        let p ← basicBody? multiline rest'
        return p.after (cs ++ ·) (by simp only [List.length_cons]; omega)
      else none
  | c :: rest =>
    if isAllowed multiline c then do
      let p ← basicBody? multiline rest
      return p.cons c (by simp)
    else none
termination_by s.length

/-- The text between single quotes, after the opening ones. -/
def literalBody? (multiline : Bool) : List Char → Option (List Char × List Char)
  | [] => none
  | c :: rest =>
    let closing := if multiline then ['\'', '\'', '\''] else ['\'']
    if closing.isPrefixOf (c :: rest) then some ([], (c :: rest).drop closing.length)
    else if isAllowed multiline c then
      (literalBody? multiline rest).map fun (cs, rest) => (c :: cs, rest)
    else none

/-- A text of several lines may end in up to two quotes besides the closing ones. -/
def withFurtherQuotes (quote : Char) (cs rest : List Char) : List Char × List Char :=
  let extra := (rest.take 2).takeWhile (· == quote)
  (cs ++ extra, rest.drop extra.length)

/-- A text in quotes on one line. -/
def lineText? : List Char → Option (List Char × List Char)
  | '"' :: rest => (basicBody? false rest).map fun p => (p.value, p.rest)
  | '\'' :: rest => literalBody? false rest
  | _ => none

/-- A text in quotes. A line feed right after three opening quotes does not count. -/
def text? (s : List Char) : Option (List Char × List Char) :=
  let body := match s.drop 3 with
    | '\n' :: rest => rest
    | rest => rest
  if ['"', '"', '"'].isPrefixOf s then
    (basicBody? true body).map fun p => withFurtherQuotes '"' p.value p.rest
  else if ['\'', '\'', '\''].isPrefixOf s then
    (literalBody? true body).map fun (cs, rest) => withFurtherQuotes '\'' cs rest
  else lineText? s

/-! ## Keys -/

def isBareKey (c : Char) : Bool :=
  c.isAlphanum || c == '-' || c == '_'

/-- One name of a key. -/
def keyPart? (s : List Char) : Option (List Char × List Char) :=
  match s with
  | c :: _ =>
    if isBareKey c then some (s.takeWhile isBareKey, s.dropWhile isBareKey) else lineText? s
  | [] => none

/-- The names of a key, between points; blanks around them do not count. -/
def key? (s : List Char) : Option (Parsed Path s) := do
  let (name, rest) ← keyPart? s
  let first ← Parsed.ofShorter? s (String.ofList name) (skipBlanks rest)
  match _h : first.rest with
  | '.' :: more => do
    let p ← key? (skipBlanks more)
    return p.after (first.value :: ·) (by
      have := length_skipBlanks_le more
      have := first.shorter
      simp only [_h, List.length_cons] at this
      omega)
  | rest => some ⟨[first.value], first.rest, first.shorter⟩
termination_by s.length
decreasing_by
  have := length_skipBlanks_le more
  have := first.shorter
  simp only [_h, List.length_cons] at this
  omega

/-! ## Numbers -/

/-- The fraction or exponent that digits after its opening make; without digits it is none. -/
def digitsAfter? (s : List Char) : Option (List Char × List Char) :=
  let (digits, rest) := Numeral.grouped 10 s
  if digits.isEmpty then none else some (digits, rest)

/-- The digits of a fraction, if there is one. -/
def fraction (s : List Char) : List Char × List Char :=
  match s with
  | '.' :: rest => (digitsAfter? rest).getD ([], s)
  | _ => ([], s)

/-- An exponent, if there is one. -/
def exponent (s : List Char) : Option Int × List Char :=
  match s with
  | c :: rest =>
    if c == 'e' || c == 'E' then
      let (negative, digits) := Numeral.sign rest
      match digitsAfter? digits with
      | some (ds, rest) => (some (Numeral.withSign negative (Numeral.value 10 ds)), rest)
      | none => (none, s)
    else (none, s)
  | [] => (none, s)

/-- The base that a letter after a zero announces. -/
def base? : Char → Option Nat
  | 'x' => some 16
  | 'o' => some 8
  | 'b' => some 2
  | _ => none

/-- An integer in another base. -/
def based? : List Char → Option (Node × List Char)
  | '0' :: letter :: digits => do
    let base ← base? letter
    let (ds, rest) := Numeral.grouped base digits
    if ds.isEmpty then none else some (.int (Numeral.value base ds), rest)
  | _ => none

/-- The digits before a point: a zero alone, or digits that start with another one. -/
def wholeDigits : List Char → List Char × List Char
  | '0' :: rest => (['0'], rest)
  | s => Numeral.grouped 10 s

/-- A number in decimal digits; with a fraction or an exponent it is a float, and then its digits
are not counted. -/
def decimal? (s : List Char) : Except Failure (Node × List Char) :=
  let (negative, unsigned) := Numeral.sign s
  let (whole, rest) := wholeDigits unsigned
  if whole.isEmpty then .error .malformed
  else
    let (fraction, rest) := fraction rest
    let (exponent, rest) := exponent rest
    if fraction.isEmpty && exponent.isNone then
      if Numeral.maxDigits < whole.length then .error (.tooLong whole.length)
      else .ok (.int (Numeral.withSign negative (Numeral.value 10 whole)), rest)
    else
      let scale := exponent.getD 0 - (fraction.length : Int)
      .ok (.float (.ofDecimal negative (Numeral.value 10 (whole ++ fraction)) scale), rest)

/-- The names of values, some with a sign. -/
def literals : List (List Char × Node) :=
  [("true".toList, .bool true), ("false".toList, .bool false),
    ("inf".toList, .float (.infinity false)), ("+inf".toList, .float (.infinity false)),
    ("-inf".toList, .float (.infinity true)), ("nan".toList, .float .nan),
    ("+nan".toList, .float .nan), ("-nan".toList, .float .nan)]

def literal? (s : List Char) : Option (Node × List Char) :=
  (literals.find? fun l => l.1.isPrefixOf s).map fun (name, node) => (node, s.drop name.length)

/-! ## Moments -/

/-- A number of exactly so many digits within bounds. -/
def field? (count low high : Nat) (s : List Char) : Option (Nat × List Char) :=
  let digits := s.take count
  let n := Numeral.value 10 digits
  if digits.length = count ∧ digits.all Numeral.isDecimal ∧ low ≤ n ∧ n ≤ high then
    some (n, s.drop count)
  else none

/-- What follows a character at the front. -/
def afterChar? (c : Char) : List Char → Option (List Char)
  | d :: rest => if c = d then some rest else none
  | [] => none

/-- What follows the seconds of a time of day; a point counts only if a digit follows it. -/
def afterSeconds? (s : List Char) : Option (List Char) := do
  let (_, s) ← field? 2 0 59 (← afterChar? ':' s)
  match s with
  | '.' :: d :: rest =>
    if Numeral.isDecimal d then some (rest.dropWhile Numeral.isDecimal) else some s
  | s => some s

/-- What follows a time of day, of which the seconds may be left out. -/
def afterTime? (s : List Char) : Option (List Char) := do
  let (_, s) ← field? 2 0 23 s
  let (_, s) ← field? 2 0 59 (← afterChar? ':' s)
  return (afterSeconds? s).getD s

/-- What follows an offset from universal time. -/
def afterOffset? (s : List Char) : Option (List Char) := do
  let c ← s.head?
  if c = 'Z' ∨ c = 'z' then some s.tail
  else if c = '+' ∨ c = '-' then
    let (_, s) ← field? 2 0 23 s.tail
    let (_, s) ← field? 2 0 59 (← afterChar? ':' s)
    some s
  else none

/-- What follows a time of day and its offset, after a date. -/
def afterDayTime? (s : List Char) : Option (List Char) := do
  let c ← s.head?
  if c = 'T' ∨ c = 't' ∨ c = ' ' then
    let s ← afterTime? s.tail
    some ((afterOffset? s).getD s)
  else none

def isLeap (year : Nat) : Bool := year % 4 == 0 && (year % 100 != 0 || year % 400 == 0)

def daysIn (year month : Nat) : Nat :=
  if month = 2 then (if isLeap year then 29 else 28)
  else if month = 4 ∨ month = 6 ∨ month = 9 ∨ month = 11 then 30
  else 31

/-- A date: its year, month and day, and what follows. -/
def date? (s : List Char) : Option (Nat × Nat × Nat × List Char) := do
  let (year, s) ← field? 4 0 9999 s
  let (month, s) ← field? 2 1 12 (← afterChar? '-' s)
  let (day, s) ← field? 2 1 31 (← afterChar? '-' s)
  return (year, month, day, s)

/-- A date, a time of day, or both; a date has to be in the calendar. -/
def moment? (s : List Char) : Option (Option (Node × List Char)) :=
  match date? s with
  | some (year, month, day, rest) =>
    if year = 0 ∨ daysIn year month < day then some none
    else some (some (.moment, (afterDayTime? rest).getD rest))
  | none => (afterTime? s).map fun rest => some (.moment, rest)

/-- A value without parts. -/
def scalar? (s : List Char) : Except Failure (Node × List Char) :=
  match s with
  | '"' :: _ | '\'' :: _ => ofReader ((text? s).map fun (cs, rest) => (.text cs, rest))
  | _ =>
    match moment? s with
    | some m => ofReader m
    | none =>
      match based? s with
      | some n => .ok n
      | none =>
        match decimal? s with
        | .error .malformed => ofReader (literal? s)
        | r => r

end EditorProtocol.Toml
