import EditorProtocol.Document.Position

/-!
The rules that a given value may break: it cannot be read as a value of the type that is wanted, it
is outside of its bounds, or it is missing or unknown. Every rule has a name and a wording.
-/

namespace EditorProtocol

/-- A rule that something given breaks. -/
inductive Breach where
  | missing
  | unknown
  | notInteger
  | noNumeral
  | fractional
  | unbounded
  | tooLarge
  | notFloat
  | noDecimal
  | notText
  | notUtf8
  | notBoolean
  | noBooleanWord
  | notNull
  | notList
  | notMember (codes : List String)
  | notLiteral (codes : List String)
  | notRecord (model : String)
  | above (bound : Int)
  | aboveOrEqual (bound : Int)
  | below (bound : Int)
  | belowOrEqual (bound : Int)
  | reversed (span : Span)
deriving DecidableEq, Repr

namespace Breach

/-- The name of the kind of a broken rule. -/
def kindName : Breach → String
  | .missing => "missing"
  | .unknown => "extra_forbidden"
  | .notInteger => "int_type"
  | .noNumeral => "int_parsing"
  | .fractional => "int_from_float"
  | .unbounded => "finite_number"
  | .tooLarge => "int_parsing_size"
  | .notFloat => "float_type"
  | .noDecimal => "float_parsing"
  | .notText => "string_type"
  | .notUtf8 => "string_unicode"
  | .notBoolean => "bool_type"
  | .noBooleanWord => "bool_parsing"
  | .notNull => "none_required"
  | .notList => "list_type"
  | .notMember _ => "enum"
  | .notLiteral _ => "literal_error"
  | .notRecord _ => "model_type"
  | .above _ => "less_than_equal"
  | .aboveOrEqual _ => "less_than"
  | .below _ => "greater_than_equal"
  | .belowOrEqual _ => "greater_than"
  | .reversed _ => "value_error"

/-- Codes in a sentence, the last two joined by a word. -/
def oneOf : List String → String
  | [] => ""
  | [c] => c
  | [c, d] => c ++ " or " ++ d
  | c :: rest => c ++ ", " ++ oneOf rest

def message : Breach → String
  | .missing => "Field required"
  | .unknown => "Extra inputs are not permitted"
  | .notInteger => "Input should be a valid integer"
  | .noNumeral => "Input should be a valid integer, unable to parse string as an integer"
  | .fractional => "Input should be a valid integer, got a number with a fractional part"
  | .unbounded => "Input should be a finite number"
  | .tooLarge => "Unable to parse input string as an integer, exceeded maximum size"
  | .notFloat => "Input should be a valid number"
  | .noDecimal => "Input should be a valid number, unable to parse string as a number"
  | .notText => "Input should be a valid string"
  | .notUtf8 => "Input should be a valid string, unable to parse raw data as a unicode string"
  | .notBoolean => "Input should be a valid boolean"
  | .noBooleanWord => "Input should be a valid boolean, unable to interpret input"
  | .notNull => "Input should be None"
  | .notList => "Input should be a valid list"
  | .notMember codes => "Input should be " ++ oneOf codes
  | .notLiteral codes => "Input should be " ++ oneOf codes
  | .notRecord model => "Input should be a valid dictionary or instance of " ++ model
  | .above n => "Input should be less than or equal to " ++ toString n
  | .aboveOrEqual n => "Input should be less than " ++ toString n
  | .below n => "Input should be greater than or equal to " ++ toString n
  | .belowOrEqual n => "Input should be greater than " ++ toString n
  | .reversed span =>
    "Value error, Range start (" ++ span.start.render ++ ") is after its end (" ++
      span.stop.render ++ ")"

end Breach

end EditorProtocol
