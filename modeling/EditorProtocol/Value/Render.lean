import EditorProtocol.Value.Order
import EditorProtocol.Text.Quoted

/-!
How values are written in messages: in full, and abbreviated. An abbreviated value shows a limited
number of elements at a limited depth, sorts the keys of a dictionary, and cuts the middle out of
long texts, long integers and the full form of everything else.
-/

namespace EditorProtocol

/-- The full form of a value without parts. -/
def Scalar.render : Scalar → String
  | .null => "None"
  | .bool true => "True"
  | .bool false => "False"
  | .int n => toString n
  | .float x => x.render
  | .text s => Text.quoted s

/-- The full form of an enumeration member. -/
def EnumMember.render (m : EnumMember) : String :=
  "<" ++ m.enumeration ++ "." ++ m.name ++ ": " ++ m.code.render ++ ">"

namespace Value

/-- Items between brackets; a tuple of one item keeps a comma. -/
def bracketed (left right : String) (comma : Bool) (items : List String) : String :=
  left ++ ", ".intercalate items ++ (if comma && items.length == 1 then "," else "") ++ right

mutual

/-- The full form of a value. -/
def render : Value → String
  | .null => "None"
  | .bool true => "True"
  | .bool false => "False"
  | .int n => toString n
  | .float x => x.render
  | .text s => Text.quoted s
  | .bytes bs => Text.quotedBytes bs
  | .list xs => bracketed "[" "]" false (renderAll xs)
  | .tuple xs => bracketed "(" ")" true (renderAll xs)
  | .set xs => if xs.isEmpty then "set()" else bracketed "\x7b" "\x7d" false (renderAll xs)
  | .object es => bracketed "\x7b" "\x7d" false (renderEntries es)
  | .table es => bracketed "\x7b" "\x7d" false (renderRows es)
  | .member m => m.render
  | .record model slots => model.name ++ bracketed "(" ")" false (renderSlots slots)

def renderAll : List Value → List String
  | [] => []
  | v :: vs => v.render :: renderAll vs

def renderEntries : List (String × Value) → List String
  | [] => []
  | (k, v) :: es => (Text.quoted k ++ ": " ++ v.render) :: renderEntries es

def renderRows : List (Value × Value) → List String
  | [] => []
  | (k, v) :: es => (k.render ++ ": " ++ v.render) :: renderRows es

def renderSlots : List (Slot Value) → List String
  | [] => []
  | s :: ss =>
    if s.isDeclared then (s.name ++ "=" ++ s.value.render) :: renderSlots ss else renderSlots ss

end

/-- The plain text of a value, as opposed to its full form. -/
def plain : Value → String
  | .text s => s
  | .member m =>
    match m.base, m.code with
    | .plain, _ => m.enumeration ++ "." ++ m.name
    | _, .text s => s
    | _, code => code.render
  | .record _ slots => " ".intercalate (renderSlots slots)
  | v => v.render

end Value

/-- How much of a value an abbreviated form shows. -/
structure Abbreviation where
  depth : Nat
  elements : Nat
  entries : Nat
  texts : Nat
  integers : Nat
  others : Nat
deriving Repr

/-- What is shown of a value where nothing else is said. -/
def Abbreviation.brief : Abbreviation := ⟨6, 6, 4, 30, 40, 30⟩

/-- What is shown of a value that does not have its shape. -/
def Abbreviation.report : Abbreviation := ⟨6, 6, 4, 80, 40, 80⟩

namespace Abbreviation

/-- The characters kept at both ends when a form is cut to a limit with three dots inside. -/
def ends (limit : Nat) : Nat × Nat :=
  let head := (limit - 3) / 2
  (head, limit - 3 - head)

/-- A form cut in the middle to a limit. -/
def cut (limit : Nat) (s : String) : String :=
  let cs := s.toList
  if limit < cs.length then
    let (i, j) := ends limit
    String.ofList (cs.take i ++ "...".toList ++ cs.drop (cs.length - j))
  else s

/-- The last characters of a text. From one that is too short as many are left out as it falls
short by, and a text of less than half the count stays whole. -/
def lastChars (count : Nat) (cs : List Char) : List Char :=
  cs.drop (if count ≤ cs.length then cs.length - count else 2 * cs.length - count)

/-- A quoted text cut in the middle: what is cut out is left out before quoting, too. -/
def text (limit : Nat) (s : String) : String :=
  let cs := s.toList
  let whole := Text.quotedChars (cs.take limit)
  if limit < whole.length then
    let (i, j) := ends limit
    let both := Text.quotedChars (cs.take i ++ lastChars j cs)
    String.ofList (both.take i ++ "...".toList ++ both.drop (both.length - j))
  else String.ofList whole

/-- Forms of the first items, three dots standing for the others. -/
def shown (limit : Nat) (forms : List String) : List String :=
  if limit < forms.length then forms.take limit ++ ["..."] else forms

/-- Items of a sequence, or three dots for them where no depth is left. -/
def sequence (a : Abbreviation) (depth : Nat) (left right : String) (comma : Bool)
    (forms : List String) : String :=
  if depth = 0 && !forms.isEmpty then left ++ "..." ++ right
  else Value.bracketed left right comma (shown a.elements forms)

/-- Entries of a dictionary in the order of their keys, or three dots where no depth is left. -/
def dictionary (a : Abbreviation) (depth : Nat) (forms : List (Value × String)) : String :=
  if depth = 0 && !forms.isEmpty then "\x7b...\x7d"
  else
    Value.bracketed "\x7b" "\x7d" false
      (shown a.entries ((Value.sortedOn (·.1) forms).map (·.2)))

mutual

/-- The abbreviated form of a value at a remaining depth. -/
def value (a : Abbreviation) (depth : Nat) : Value → String
  | .text s => Abbreviation.text a.texts s
  | .int n => cut a.integers (toString n)
  | .list xs => a.sequence depth "[" "]" false (a.values (depth - 1) xs)
  | .tuple xs => a.sequence depth "(" ")" true (a.values (depth - 1) xs)
  | .set xs =>
    if xs.isEmpty then "set()"
    else a.sequence depth "\x7b" "\x7d" false (a.values (depth - 1) xs)
  | .object es => a.dictionary depth (a.objectForms (depth - 1) es)
  | .table es => a.dictionary depth (a.tableForms (depth - 1) es)
  | v => cut a.others v.render

def values (a : Abbreviation) (depth : Nat) : List Value → List String
  | [] => []
  | v :: vs => a.value depth v :: a.values depth vs

def objectForms (a : Abbreviation) (depth : Nat) : List (String × Value) → List (Value × String)
  | [] => []
  | (k, v) :: es =>
    (.text k, Abbreviation.text a.texts k ++ ": " ++ a.value depth v) :: a.objectForms depth es

def tableForms (a : Abbreviation) (depth : Nat) : List (Value × Value) → List (Value × String)
  | [] => []
  | (k, v) :: es =>
    (k, a.value depth k ++ ": " ++ a.value depth v) :: a.tableForms depth es

end

end Abbreviation

/-- The form in which a value appears in a report. -/
def Value.abbreviated (a : Abbreviation) (v : Value) : String := a.value a.depth v

end EditorProtocol
