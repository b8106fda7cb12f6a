import WampClient.Json.Value
import WampClient.Text.Quoted

/-! # Faults in JSON texts

What can be wrong with a text, and where. A place is a line, counted from one, and the number of
bytes of that line up to the fault.
-/

namespace WampClient.Json

inductive Found where
  | null
  | bool (b : Bool)
  | whole (n : Whole)
  | double (x : Double)
  | string (s : String)
  | list
  | object
  deriving Repr, DecidableEq

def Found.text : Found → String
  | .null => "null"
  | .bool b => "boolean `" ++ (if b then "true" else "false") ++ "`"
  | .whole n => "integer `" ++ String.ofList (Decimal.renderInt n.toInt) ++ "`"
  | .double x => "floating point `" ++ String.ofList x.render ++ "`"
  | .string s => "string " ++ Text.quoted s
  | .list => "sequence"
  | .object => "map"

inductive Cause where
  | endOfValue
  | endOfList
  | endOfObject
  | endOfString
  | expectedValue
  | expectedIdent
  | expectedColon
  | expectedListEnd
  | expectedObjectEnd
  | invalidEscape
  | invalidNumber
  | numberOutOfRange
  | invalidCodePoint
  | controlCharacter
  | keyNotString
  | loneSurrogate
  | endOfHexEscape
  | trailingComma
  | trailingCharacters
  | tooDeep
  | wrongType (found : Found) (expected : String)
  | wrongValue (found : Found) (expected : String)
  | duplicateField (name : String)
  deriving Repr, DecidableEq

def Cause.text : Cause → String
  | .endOfValue => "EOF while parsing a value"
  | .endOfList => "EOF while parsing a list"
  | .endOfObject => "EOF while parsing an object"
  | .endOfString => "EOF while parsing a string"
  | .expectedValue => "expected value"
  | .expectedIdent => "expected ident"
  | .expectedColon => "expected `:`"
  | .expectedListEnd => "expected `,` or `]`"
  | .expectedObjectEnd => "expected `,` or `\x7d`"
  | .invalidEscape => "invalid escape"
  | .invalidNumber => "invalid number"
  | .numberOutOfRange => "number out of range"
  | .invalidCodePoint => "invalid unicode code point"
  | .controlCharacter => "control character (\\u0000-\\u001F) found while parsing a string"
  | .keyNotString => "key must be a string"
  | .loneSurrogate => "lone leading surrogate in hex escape"
  | .endOfHexEscape => "unexpected end of hex escape"
  | .trailingComma => "trailing comma"
  | .trailingCharacters => "trailing characters"
  | .tooDeep => "recursion limit exceeded"
  | .wrongType found expected => "invalid type: " ++ found.text ++ ", expected " ++ expected
  | .wrongValue found expected => "invalid value: " ++ found.text ++ ", expected " ++ expected
  | .duplicateField name => "duplicate field `" ++ name ++ "`"

structure Fault where
  cause : Cause
  line : Nat
  column : Nat
  deriving Repr, DecidableEq

namespace Fault

/-- The fault that shows after the first `read` bytes of a text. -/
def after (cause : Cause) (text : Bytes) (read : Nat) : Fault :=
  let before := text.take read
  { cause
    line := before.count 0x0A + 1
    column := (before.reverse.takeWhile (· ≠ 0x0A)).length }

def text (f : Fault) : String :=
  f.cause.text ++ " at line " ++ Decimal.text f.line ++ " column " ++ Decimal.text f.column

end Fault

end WampClient.Json
