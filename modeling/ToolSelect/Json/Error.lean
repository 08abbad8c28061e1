import ToolSelect.Decimal.Shortest
import ToolSelect.Json.Cursor
import ToolSelect.Text.Quoted

/-!
# Problems with a JSON text

What can be wrong with a text that is read as a value of a certain shape, and
how each problem is worded.
-/

namespace ToolSelect.Json

inductive Construct where
  | value
  | text
  | list
  | object
deriving DecidableEq, Repr

/-- A value of another shape than the one that is wanted. -/
inductive Found where
  | null
  | boolean (value : Bool)
  | integer (value : Int)
  | decimal (negative : Bool) (value : Decimal.Binary64)
  | text (value : String)
  | list
  | object
deriving DecidableEq, Repr

inductive Problem where
  | endOfText (within : Construct)
  | expectedValue
  | expectedWord
  | expectedColon
  | expectedItemOrEnd
  | expectedFieldOrEnd
  | trailingComma
  | trailingCharacters
  | keyNotText
  | invalidNumber
  | numberOutOfRange
  | controlCharacter
  | invalidEscape
  | endOfSurrogate
  | loneSurrogate
  | wrongShape (found : Found) (expected : String)
  | wrongLength (length : Nat) (expected : String)
  | unknownVariant (name : String) (expected : List String)
  | unknownField (name : String) (expected : List String)
  | duplicateField (name : String)
  | missingField (name : String)
  | refused (reason : String)
deriving DecidableEq, Repr

/-- The three sorts of problems: the text ends too early, it is no JSON, or its
value is not of the shape that is wanted. -/
inductive ProblemSort where
  | incomplete
  | malformed
  | unfitting
deriving DecidableEq, Repr

def Construct.name : Construct → String
  | .value => "a value"
  | .text => "a string"
  | .list => "a list"
  | .object => "an object"

def Found.name : Found → String
  | .null => "null"
  | .boolean true => "boolean `true`"
  | .boolean false => "boolean `false`"
  | .integer value => "integer `" ++ toString value ++ "`"
  | .decimal negative value =>
    "floating point `" ++ (if negative then "-" else "") ++
      String.ofList value.display ++ "`"
  | .text value => "string " ++ Text.quoted value
  | .list => "sequence"
  | .object => "map"

def choiceOf : List String → String
  | [] => "there are no names"
  | [name] => "expected `" ++ name ++ "`"
  | [first, second] => "expected `" ++ first ++ "` or `" ++ second ++ "`"
  | names =>
    "expected one of " ++
      ", ".intercalate (names.map fun name => "`" ++ name ++ "`")

namespace Problem

def sort : Problem → ProblemSort
  | .endOfText _ => .incomplete
  | .wrongShape .. | .wrongLength .. | .unknownVariant .. | .unknownField ..
  | .duplicateField _ | .missingField _ | .refused _ => .unfitting
  | _ => .malformed

def message : Problem → String
  | .endOfText within => "EOF while parsing " ++ within.name
  | .expectedValue => "expected value"
  | .expectedWord => "expected ident"
  | .expectedColon => "expected `:`"
  | .expectedItemOrEnd => "expected `,` or `]`"
  | .expectedFieldOrEnd => "expected `,` or `\x7d`"
  | .trailingComma => "trailing comma"
  | .trailingCharacters => "trailing characters"
  | .keyNotText => "key must be a string"
  | .invalidNumber => "invalid number"
  | .numberOutOfRange => "number out of range"
  | .controlCharacter =>
    "control character (\\u0000-\\u001F) found while parsing a string"
  | .invalidEscape => "invalid escape"
  | .endOfSurrogate => "unexpected end of hex escape"
  | .loneSurrogate => "lone leading surrogate in hex escape"
  | .wrongShape found expected =>
    "invalid type: " ++ found.name ++ ", expected " ++ expected
  | .wrongLength length expected =>
    "invalid length " ++ toString length ++ ", expected " ++ expected
  | .unknownVariant name expected =>
    "unknown variant `" ++ name ++ "`, " ++ choiceOf expected
  | .unknownField name expected =>
    "unknown field `" ++ name ++ "`, " ++ choiceOf expected
  | .duplicateField name => "duplicate field `" ++ name ++ "`"
  | .missingField name => "missing field `" ++ name ++ "`"
  | .refused reason => reason

end Problem

/-- A problem with the position where it shows, if it has one. -/
structure Error where
  problem : Problem
  position : Option Position
deriving DecidableEq, Repr

def Error.message (error : Error) : String :=
  match error.position with
  | some position =>
    error.problem.message ++ " at line " ++ toString position.line ++
      " column " ++ toString position.column
  | none => error.problem.message

end ToolSelect.Json
