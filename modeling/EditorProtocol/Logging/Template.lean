import EditorProtocol.Number.Numeral
import EditorProtocol.Value.Render

/-!
Message templates: text in which a percent sign starts the place of an argument. A place says how
its argument is written, how wide at least and how precisely, and which entry of a single
dictionary argument it takes, if it names one. Arguments that are left over or missing, and
arguments of the wrong kind, leave no message.
-/

namespace EditorProtocol.Template

/-- How the place of an argument is filled up. -/
structure Flags where
  left : Bool
  plus : Bool
  blank : Bool
  alternate : Bool
  zero : Bool
deriving DecidableEq, Repr, Inhabited

/-- What is still to be taken of the arguments. -/
structure Arguments where
  rest : List Value
  /-- The dictionary whose entries the places may name. -/
  entries : Option Value
deriving Repr

namespace Arguments

/-- A dictionary that is the only argument may be used by entry, and need not be used at all. -/
def of (args : List Value) : Arguments :=
  match args with
  | [.object (e :: es)] => ⟨args, some (.object (e :: es))⟩
  | [.table (e :: es)] => ⟨args, some (.table (e :: es))⟩
  | _ => ⟨args, none⟩

def next? (a : Arguments) : Option (Value × Arguments) :=
  match a.rest with
  | [] => none
  | v :: rest => some (v, { a with rest })

/-- Whether nothing that had to be used is left over. -/
def areUsed (a : Arguments) : Bool := a.rest.isEmpty || a.entries.isSome

end Arguments

/-- A written form with an escape for every character beyond ASCII. -/
def escaped (s : String) : String :=
  String.ofList <| s.toList.flatMap fun c =>
    let n := c.val.toNat
    if n < 128 then [c]
    else if n < 256 then '\\' :: 'x' :: Text.hex 2 n
    else if n < 65536 then '\\' :: 'u' :: Text.hex 4 n
    else '\\' :: 'U' :: Text.hex 8 n

/-- A text filled up to a width; a number may be filled with zeros after its sign. -/
def padded (flags : Flags) (width : Nat) (sign body : String) (zeros : Bool) : String :=
  let missing := width - (sign.length + body.length)
  if flags.left then sign ++ body ++ String.ofList (List.replicate missing ' ')
  else if zeros && flags.zero then sign ++ String.ofList (List.replicate missing '0') ++ body
  else String.ofList (List.replicate missing ' ') ++ sign ++ body

/-- The sign of a number as the flags ask for it. -/
def signOf (flags : Flags) (negative : Bool) : String :=
  if negative then "-" else if flags.plus then "+" else if flags.blank then " " else ""

/-- The integer that a number is, its fraction cut off. -/
def wholeNumber? (v : Value) : Option Int :=
  match v.numeral? with
  | some (.int n) => some n
  | some (.float x) => x.truncated?
  | none => none

/-- The integer that a value is, a boolean being one, too. -/
def integral? (v : Value) : Option Int :=
  match v.numeral? with
  | some (.int n) => some n
  | _ => none

/-- Digits of a number in a base, at least as many as the precision asks for. -/
def digitsOf (base : Nat) (upper : Bool) (precision : Option Nat) (n : Nat) : String :=
  let ds := (Nat.toDigits base n).map fun c => if upper then c.toUpper else c
  String.ofList (List.replicate ((precision.getD 0) - ds.length) '0' ++ ds)

def integerText (flags : Flags) (width : Nat) (precision : Option Nat) (base : Nat)
    (upper : Bool) (mark : String) (n : Int) : String :=
  let sign := signOf flags (n < 0) ++ (if flags.alternate then mark else "")
  padded flags width sign (digitsOf base upper precision n.natAbs) true

/-- The magnitude of a number with a fixed count of decimal places. -/
def fixed (places : Nat) (num den : Nat) (point : Bool) : String :=
  let n := Double.roundHalfEven (num * Nat.pow 10 places) den
  let ds := (Nat.toDigits 10 n)
  let ds := List.replicate (places + 1 - ds.length) '0' ++ ds
  let whole := String.ofList (ds.take (ds.length - places))
  if places = 0 then whole ++ (if point then "." else "")
  else whole ++ "." ++ String.ofList (ds.drop (ds.length - places))

/-- A magnitude rounded to a count of digits after the leading one: the digits, and the exponent
of the leading one. -/
def rounded (places : Nat) (num den : Nat) : Nat × Int :=
  if num = 0 then (0, 0)
  else
    let lead := Double.leadingExponent num den
    let (n, d) := Double.decimallyScaled num den (lead - places)
    let m := Double.roundHalfEven n d
    if m = Nat.pow 10 (places + 1) then (Nat.pow 10 places, lead + 1) else (m, lead)

def exponentText (e : Int) : String :=
  let ds := Nat.toDigits 10 e.natAbs
  (if e < 0 then "-" else "+") ++ String.ofList (if ds.length < 2 then '0' :: ds else ds)

/-- The magnitude of a number with an exponent. -/
def scientific (places : Nat) (num den : Nat) (point upper : Bool) : String :=
  let (m, e) := rounded places num den
  let ds := Nat.toDigits 10 m
  let ds := ds ++ List.replicate (places + 1 - ds.length) '0'
  let tail := ds.drop 1
  String.ofList (ds.take 1) ++ (if tail.isEmpty && !point then "" else ".") ++
    String.ofList tail ++ (if upper then "E" else "e") ++ exponentText e

/-- A decimal text without zeros at the end of its fraction. -/
def withoutTrailingZeros (s : String) : String :=
  if s.toList.contains '.' then
    let kept := (s.toList.reverse.dropWhile (· == '0')).dropWhile (· == '.')
    String.ofList kept.reverse
  else s

/-- The magnitude of a number with a count of significant digits, an exponent only where it is
far from the point. -/
def general (digits : Nat) (num den : Nat) (alternate upper : Bool) : String :=
  let digits := max digits 1
  let (_, e) := rounded (digits - 1) num den
  if -4 ≤ e ∧ e < digits then
    let s := fixed ((digits : Int) - 1 - e).toNat num den alternate
    if alternate then s else withoutTrailingZeros s
  else
    let (m, e) := rounded (digits - 1) num den
    let ds := Nat.toDigits 10 m
    let body := String.ofList (ds.take 1) ++ "." ++ String.ofList (ds.drop 1)
    let body := if alternate then body else withoutTrailingZeros body
    body ++ (if upper then "E" else "e") ++ exponentText e

/-- The number that a value is, as a binary64. -/
def double? (v : Value) : Option Double :=
  match v.numeral? with
  | some (.int n) => Double.ofInt? n
  | some (.float x) => some x
  | none => none

def doubleText (flags : Flags) (width : Nat) (precision : Option Nat) (kind : Char)
    (x : Double) : String :=
  let upper := kind.isUpper
  let sign := signOf flags (x.negative && !x.isNaN)
  if !x.isFinite then
    let name := if x.isNaN then "nan" else "inf"
    padded flags width sign (if upper then name.toUpper else name) true
  else
    let (num, den) := x.ratio
    let places := precision.getD 6
    let body :=
      match kind.toLower with
      | 'f' => fixed places num den flags.alternate
      | 'e' => scientific places num den flags.alternate upper
      | _ => general places num den flags.alternate upper
    padded flags width sign body true

/-- The text of an argument in its place. Decimal integers with too many digits have none. -/
def argumentText (flags : Flags) (width : Nat) (precision : Option Nat) (kind : Char)
    (v : Value) : Option String :=
  let cut (s : String) : String :=
    match precision with
    | some n => String.ofList (s.toList.take n)
    | none => s
  let written (s : String) : Option String :=
    if v.hasLongInteger then none else some (padded flags width "" (cut s) false)
  match kind with
  | 's' => written v.plain
  | 'r' => written v.render
  | 'a' => written (escaped v.render)
  | 'c' =>
    match v.text?.map String.toList, integral? v with
    | some [c], _ => some (padded flags width "" (String.ofList [c]) false)
    | none, some n =>
      if 0 ≤ n ∧ n < 0x110000 then
        some (padded flags width "" (String.ofList [Char.ofNat n.toNat]) false)
      else none
    | _, _ => none
  | 'd' | 'i' | 'u' =>
    ((wholeNumber? v).filter fun n => !Numeral.isTooLong n).map
      (integerText flags width precision 10 false "")
  | 'o' => (integral? v).map (integerText flags width precision 8 false "0o")
  | 'x' => (integral? v).map (integerText flags width precision 16 false "0x")
  | 'X' => (integral? v).map (integerText flags width precision 16 true "0X")
  | 'e' | 'E' | 'f' | 'F' | 'g' | 'G' => (double? v).map (doubleText flags width precision kind)
  | _ => none

/-- Flags at the front of a place. -/
def flagsOf : List Char → Flags → Flags × List Char
  | '-' :: s, f => flagsOf s { f with left := true }
  | '+' :: s, f => flagsOf s { f with plus := true }
  | ' ' :: s, f => flagsOf s { f with blank := true }
  | '#' :: s, f => flagsOf s { f with alternate := true }
  | '0' :: s, f => flagsOf s { f with zero := true }
  | s, f => (f, s)

/-- The largest width or precision that a place may ask for. -/
def maxSize : Nat := 2147483647

/-- A size that a place writes out or takes from the arguments, and none beyond the largest. -/
def sizeOf? (s : List Char) (a : Arguments) : Option (Int × List Char × Arguments) := do
  let (n, rest, a) ←
    match s with
    | '*' :: rest => do
      let (v, a) ← a.next?
      let n ← integral? v
      pure (n, rest, a)
    | s =>
      let digits := s.takeWhile Numeral.isDecimal
      pure ((Numeral.value 10 digits : Int), s.dropWhile Numeral.isDecimal, a)
  guard (n.natAbs ≤ maxSize)
  return (n, rest, a)

/-- The name of an entry up to its closing parenthesis; parentheses inside of it come in pairs. -/
def entryName : Nat → List Char → Option (List Char × List Char)
  | _, [] => none
  | 0, ')' :: rest => some ([], rest)
  | depth, c :: rest =>
    let depth := if c = '(' then depth + 1 else if c = ')' then depth - 1 else depth
    (entryName depth rest).map fun (name, rest) => (c :: name, rest)

/-- The text of the place after a percent sign, and what follows it. A second percent sign right
after the first stands for itself. A named entry is from then on the one argument that is left. -/
def place (s : List Char) (a : Arguments) : Option (String × List Char × Arguments) := do
  if let '%' :: rest := s then return ("%", rest, a)
  let (s, a) ←
    match s with
    | '(' :: rest => do
      let (name, rest) ← entryName 0 rest
      let entries ← a.entries
      let v ← entries.at? (String.ofList name)
      pure (rest, { a with rest := [v] })
    | s => pure (s, a)
  let (flags, s) := flagsOf s ⟨false, false, false, false, false⟩
  let (width, s, a) ← sizeOf? s a
  let flags := if width < 0 then { flags with left := true } else flags
  let (precision, s, a) ←
    match s with
    | '.' :: rest => do
      let (n, rest, a) ← sizeOf? rest a
      pure (some n.toNat, rest, a)
    | s => pure (none, s, a)
  let s :=
    match s with
    | 'h' :: rest => rest
    | 'l' :: rest => rest
    | 'L' :: rest => rest
    | s => s
  match s with
  | kind :: rest =>
    let (v, a) ← a.next?
    return (← argumentText flags width.natAbs precision kind v, rest, a)
  | [] => none

/-- The text of a template from a place on; as many steps as there are characters suffice. -/
def fillFrom : Nat → List Char → Arguments → Option (List Char)
  | 0, _, a => if a.areUsed then some [] else none
  | _, [], a => if a.areUsed then some [] else none
  | steps + 1, '%' :: rest, a => do
    let (text, rest, a) ← place rest a
    return text.toList ++ (← fillFrom steps rest a)
  | steps + 1, c :: rest, a => do return c :: (← fillFrom steps rest a)

/-- The message of a template with its arguments. Without arguments the template is the message. -/
def fill (template : String) (args : List Value) : Option String :=
  if args.isEmpty then some template
  else (fillFrom template.length template.toList (.of args)).map String.ofList

end EditorProtocol.Template
