/-!
Arguments of a command, sorted into options and the rest. A long option starts with two hyphens and
may have its value after an equals sign; short options may be joined behind one hyphen. After two
hyphens alone everything is an argument.
-/

namespace EditorProtocol.CommandLine

/-- An option of a command. -/
structure OptionForm (κ : Type) where
  key : κ
  /-- All names of the option, with their hyphens. -/
  names : List String
  takesValue : Bool

/-- Options in their order, each with its value, and the other arguments. -/
structure Arguments (κ : Type) where
  options : List (κ × String) := []
  positional : List String := []

variable {κ : Type}

/-- The option of a name. -/
def optionOf? (forms : List (OptionForm κ)) (name : String) : Option (OptionForm κ) :=
  forms.find? fun f => f.names.contains name

/-- The value of an option: the one written with it, or else the next argument. The number tells
whether that was used. -/
def valueOf? (written : Option String) (next : List String) : Option (String × Nat) :=
  match written, next with
  | some v, _ => some (v, 0)
  | none, v :: _ => some (v, 1)
  | none, [] => none

/-- A long option, with the value after its equals sign. -/
def longOption? (form : OptionForm κ) (written : Option String) (next : List String) :
    Option (List (κ × String) × Nat) :=
  if form.takesValue then (valueOf? written next).map fun (v, n) => ([(form.key, v)], n)
  else if written.isSome then none
  else some ([(form.key, "")], 0)

/-- Short options of which one that takes a value is the last. -/
def shortOptions? (forms : List (OptionForm κ)) (next : List String) :
    List Char → Option (List (κ × String) × Nat)
  | [] => some ([], 0)
  | c :: rest => do
    let form ← optionOf? forms (String.ofList ['-', c])
    if form.takesValue then
      let (v, n) ← valueOf? (if rest.isEmpty then none else some (String.ofList rest)) next
      some ([(form.key, v)], n)
    else
      let (options, n) ← shortOptions? forms next rest
      some ((form.key, "") :: options, n)

/-- The name of a long option and the value after its first equals sign. -/
def splitLong (arg : List Char) : String × Option String :=
  let name := String.ofList (arg.takeWhile (· != '='))
  match arg.dropWhile (· != '=') with
  | _ :: v => (name, some (String.ofList v))
  | [] => (name, none)

/-- The options that one argument writes, given the arguments after it. -/
def optionsOf? (forms : List (OptionForm κ)) (arg : String) (next : List String) :
    Option (List (κ × String) × Nat) :=
  let (name, written) := splitLong arg.toList
  match if name.startsWith "--" then optionOf? forms name else none with
  | some form => longOption? form written next
  | none => if arg.startsWith "--" then none else shortOptions? forms next (arg.toList.drop 1)

/-- Whether an argument writes options. -/
def isOption (arg : String) : Bool := arg.startsWith "-" && decide (1 < arg.length)

/-- The arguments sorted; where options do not mix with the others, the first of those ends them. -/
def Arguments.parse? (forms : List (OptionForm κ)) (mixed : Bool) :
    List String → Option (Arguments κ)
  | [] => some {}
  | arg :: next =>
    if arg = "--" then some { positional := next }
    else if isOption arg then do
      let (options, n) ← optionsOf? forms arg next
      let rest ← parse? forms mixed (next.drop n)
      return { rest with options := options ++ rest.options }
    else if mixed then do
      let rest ← parse? forms mixed next
      return { rest with positional := arg :: rest.positional }
    else some { positional := arg :: next }
termination_by args => args.length
decreasing_by
  · simp only [List.length_drop, List.length_cons]
    omega
  · simp

/-- The last value of an option. -/
def Arguments.value? [BEq κ] (args : Arguments κ) (key : κ) : Option String :=
  args.options.reverse.lookup key

def Arguments.has [BEq κ] (args : Arguments κ) (key : κ) : Bool := (args.value? key).isSome

end EditorProtocol.CommandLine
