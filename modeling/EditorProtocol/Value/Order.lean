import EditorProtocol.Value.Equality

/-!
Order of values. Numbers of all kinds compare by size, texts by code points, bytes and sequences
by the first place where they differ, positions by line and character; values of other kinds have
no order. Not-a-number is neither below nor above a number. Values sort by insertion, as far as
they have an order.
-/

namespace EditorProtocol

namespace Value

/-- Why two values have no order. -/
inductive Incomparable where
  /-- Values of their kinds have none. -/
  | kinds (left right : String)
  /-- A record lacks an attribute that its place depends on. -/
  | incomplete (model name : String)
deriving DecidableEq, Repr

/-- How one value without parts stands to another. -/
def compareParts (v w : Value) : Except Incomparable (Option Ordering) :=
  match v.text?, w.text?, v.numeral?, w.numeral? with
  | some s, some t, _, _ => .ok (some (compareOfLessAndEq s t))
  | _, _, some a, some b => .ok (a.compare? b)
  | _, _, _, _ => .error (.kinds v.kindName w.kindName)

/-- The line and the character of a position of some model. -/
def coordinates (model : ModelRef) (slots : List (Slot Value)) :
    Except Incomparable (Value × Value) := do
  let part (name : String) : Except Incomparable Value :=
    (attribute? slots name).elim (.error (.incomplete model.name name)) .ok
  return (← part "line", ← part "character")

/-- How the coordinates of one position stand to those of another: by line, then by character. -/
def compareCoordinates : Value × Value → Value × Value → Except Incomparable (Option Ordering)
  | (line, character), (line', character') =>
    if line.agrees false line' then
      if character.agrees false character' then .ok (some .eq)
      else compareParts character character'
    else compareParts line line'

mutual

/-- How one value stands to another; there is nothing to say about not-a-number. -/
def compare : Value → Value → Except Incomparable (Option Ordering)
  | .bytes a, .bytes b => .ok (some (compareOfLessAndEq a b))
  | .list xs, .list ys => compareAll xs ys
  | .tuple xs, .tuple ys => compareAll xs ys
  | .record m ss, .record n ts =>
    if m.kind = .position ∧ n.kind = .position then do
      compareCoordinates (← coordinates m ss) (← coordinates n ts)
    else .error (.kinds m.name n.name)
  | v, w => compareParts v w

def compareAll : List Value → List Value → Except Incomparable (Option Ordering)
  | [], [] => .ok (some .eq)
  | [], _ :: _ => .ok (some .lt)
  | _ :: _, [] => .ok (some .gt)
  | x :: xs, y :: ys => if x.agrees false y then compareAll xs ys else x.compare y

end

/-- Whether a value comes before another one, where they have an order. -/
def below? (v w : Value) : Option Bool :=
  match v.compare w with
  | .ok o => some (o == some .lt)
  | .error _ => none

end Value

/-! ## Sorting -/

namespace Sorting

variable {α : Type} (below? : α → α → Option Bool)

/-- The place of an item among sorted ones: after those that it is not below, as far as halving
the places between `low` and `high` finds them. -/
def place? (sorted : Array α) (x : α) (low high : Nat) : Option Nat :=
  if low < high then
    let middle := (low + high) / 2
    match sorted[middle]? with
    | none => none
    | some y =>
      match below? x y with
      | none => none
      | some true => place? sorted x low middle
      | some false => place? sorted x (middle + 1) high
  else some low
termination_by high - low

/-- Items put to their places among sorted ones, one after the other. -/
def insertAll? : Array α → List α → Option (Array α)
  | sorted, [] => some sorted
  | sorted, x :: rest => do
    let i ← place? below? sorted x 0 sorted.size
    insertAll? (sorted.insertIdxIfInBounds i x) rest

/-- The first items as far as each one is below the one before it, or as far as none is, and the
items that follow. -/
def run? (falling : Bool) (last : α) : List α → Option (List α × List α)
  | [] => some ([], [])
  | x :: rest => do
    if (← below? x last) == falling then
      let (run, others) ← run? falling x rest
      return (x :: run, others)
    else return ([], x :: rest)

/-- The items sorted, if they have an order as far as it is asked for. -/
def sort? : List α → Option (List α)
  | x :: y :: rest => do
    let falling ← below? y x
    let (run, others) ← run? below? falling x (y :: rest)
    let sorted := if falling then (x :: run).reverse else x :: run
    return (← insertAll? below? sorted.toArray others).toList
  | xs => some xs

end Sorting

namespace Value

/-- Items sorted by a key if the keys have an order, otherwise as they are. -/
def sortedOn {α : Type} (key : α → Value) (xs : List α) : List α :=
  (Sorting.sort? (fun a b => (key a).below? (key b)) xs).getD xs

/-- A set from its members, in order where they have one. -/
def setOf (xs : List Value) : Value :=
  let distinct :=
    xs.foldl (fun acc x => if acc.any (·.agrees false x) then acc else acc ++ [x]) []
  .set (sortedOn id distinct)

end Value

end EditorProtocol
