/-
What can be wrong with a JSON text, and where: the causes with their wording, and places as line
and column.
-/
import EntitlementClient.Calendar.Date
import EntitlementClient.Json.Writer
import EntitlementClient.Text.Quoted
import EntitlementClient.Text.Utf8

namespace EntitlementClient.Json

open EntitlementClient.Text

/-! ## Causes -/

/-- A value that is not bracketed. -/
inductive Scalar
  | null
  | bool (value : Bool)
  | number (value : JsonNumber)
  | text (value : String)

/-- What stands in the text where a value of another kind is wanted. -/
inductive Found
  | scalar (value : Scalar)
  | sequence
  | map

/-- What is wanted at a place of the text. -/
inductive Expected
  | text
  | flag
  | unsigned
  | signed
  | date
  | sequence
  | map
  | model (name : String)

/-- What is wrong with a text. -/
inductive Cause
  | endInValue
  | endInString
  | endInList
  | endInObject
  | expectedValue
  | expectedLiteral
  | expectedColon
  | expectedCommaOrBracket
  | expectedCommaOrBrace
  | nameNotString
  | trailingComma
  | trailingCharacters
  | invalidNumber
  | numberOutOfRange
  | invalidEscape
  | loneSurrogate
  | unfinishedSurrogatePair
  | controlCharacter
  | tooDeep
  | wrongKind (found : Found) (expected : Expected)
  | wrongRange (value : Int) (expected : Expected)
  | tooFewItems (count : Nat) (model : String) (fields : Nat)
  | missingField (name : String)
  | duplicateField (name : String)
  | badDate (error : Date.TextError)

/-- The wording for a value that is not bracketed. -/
def Scalar.wording : Scalar → String
  | .null => "null"
  | .bool true => "boolean `true`"
  | .bool false => "boolean `false`"
  | .number (.integer n low high) =>
    "integer `" ++ String.ofList (JsonNumber.write (.integer n low high)) ++ "`"
  | .number (.double negative x) =>
    "floating point `" ++ String.ofList (JsonNumber.write (.double negative x)) ++ "`"
  | .text s => "string " ++ Quoted.quote s

/-- The wording for what stands in the text. -/
def Found.wording : Found → String
  | .scalar value => value.wording
  | .sequence => "sequence"
  | .map => "map"

/-- The wording for what is wanted. -/
def Expected.wording : Expected → String
  | .text => "a string"
  | .flag => "a boolean"
  | .unsigned => "u64"
  | .signed => "i64"
  | .date => "a formatted date string"
  | .sequence => "a sequence"
  | .map => "a map"
  | .model name => "struct " ++ name

/-- The wording for a text that is no date. -/
def dateWording : Date.TextError → String
  | .outOfRange => "input is out of range"
  | .invalid => "input contains invalid characters"
  | .tooShort => "premature end of input"
  | .tooLong => "trailing input"

/-- The wording of a cause. -/
def Cause.wording : Cause → String
  | .endInValue => "EOF while parsing a value"
  | .endInString => "EOF while parsing a string"
  | .endInList => "EOF while parsing a list"
  | .endInObject => "EOF while parsing an object"
  | .expectedValue => "expected value"
  | .expectedLiteral => "expected ident"
  | .expectedColon => "expected `:`"
  | .expectedCommaOrBracket => "expected `,` or `]`"
  | .expectedCommaOrBrace => "expected `,` or `\x7d`"
  | .nameNotString => "key must be a string"
  | .trailingComma => "trailing comma"
  | .trailingCharacters => "trailing characters"
  | .invalidNumber => "invalid number"
  | .numberOutOfRange => "number out of range"
  | .invalidEscape => "invalid escape"
  | .loneSurrogate => "lone leading surrogate in hex escape"
  | .unfinishedSurrogatePair => "unexpected end of hex escape"
  | .controlCharacter =>
    "control character (\\u0000-\\u001F) found while parsing a string"
  | .tooDeep => "recursion limit exceeded"
  | .wrongKind found expected =>
    "invalid type: " ++ found.wording ++ ", expected " ++ expected.wording
  | .wrongRange n expected =>
    "invalid value: integer `" ++ String.ofList (writeInt n) ++ "`, expected " ++ expected.wording
  | .tooFewItems count model fields =>
    "invalid length " ++ toString count ++ ", expected struct " ++ model ++ " with " ++
      toString fields ++ (if fields = 1 then " element" else " elements")
  | .missingField name => "missing field `" ++ name ++ "`"
  | .duplicateField name => "duplicate field `" ++ name ++ "`"
  | .badDate error => dateWording error

/-! ## Places -/

/-- A fault in a text: its cause, and how many bytes of the text come after its place. -/
structure Fault where
  cause : Cause
  left : Nat

namespace Fault

/-- A fault right before `rest`. -/
def before (cause : Cause) (rest : List Char) : Fault :=
  ⟨cause, Utf8.length rest⟩

/-- A fault at the first byte of `rest`, or at its end if it is empty. -/
def within (cause : Cause) (rest : List Char) : Fault :=
  ⟨cause, Utf8.length rest - 1⟩

end Fault

/-- A line counted from one, and how many bytes of the line come up to the place. -/
structure Place where
  line : Nat
  column : Nat
deriving DecidableEq

/-- Goes `n` bytes forward in a text. -/
def Place.advance (p : Place) : List Char → Nat → Place
  | [], _ => p
  | _, 0 => p
  | c :: s, n + 1 =>
    if c = '\n' then Place.advance ⟨p.line + 1, 0⟩ s n
    else Place.advance ⟨p.line, p.column + min c.utf8Size (n + 1)⟩ s (n + 1 - c.utf8Size)

/-- The place of a fault in the text it belongs to. -/
def Fault.place (f : Fault) (text : List Char) : Place :=
  Place.advance ⟨1, 0⟩ text (Utf8.length text - f.left)

/-- The wording of a fault with its place. -/
def Fault.message (f : Fault) (text : List Char) : String :=
  let place := f.place text
  f.cause.wording ++ " at line " ++ toString place.line ++ " column " ++ toString place.column

end EntitlementClient.Json
