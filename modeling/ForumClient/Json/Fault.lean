import ForumClient.Decimal.Shortest
import ForumClient.Text.Quoted

namespace ForumClient.Json

inductive Found
  | null
  | bool : Bool → Found
  | integer : Int → Found
  | float : Text → Found
  | string : Text → Found
  | sequence
  | map
  deriving DecidableEq, Repr

def Found.text : Found → Text
  | .null => "null".toList
  | .bool b => "boolean `".toList ++ (if b then "true" else "false").toList ++ ['`']
  | .integer z =>
    "integer `".toList ++ (if z < 0 then ['-'] else []) ++ Numeral.write z.natAbs ++ ['`']
  | .float t => "floating point `".toList ++ t ++ ['`']
  | .string t => "string ".toList ++ Quoted.quote t
  | .sequence => "sequence".toList
  | .map => "map".toList

inductive Cause
  | eofList
  | eofObject
  | eofString
  | eofValue
  | expectedColon
  | expectedListCommaOrEnd
  | expectedObjectCommaOrEnd
  | expectedIdent
  | expectedValue
  | invalidEscape
  | invalidNumber
  | numberOutOfRange
  | controlCharacter
  | keyNotString
  | loneSurrogate
  | trailingComma
  | trailingCharacters
  | endOfHexEscape
  | invalidType : Found → (expected : String) → Cause
  | invalidValue : Found → (expected : String) → Cause
  | duplicateField : String → Cause
  deriving DecidableEq, Repr

def Cause.text : Cause → Text
  | .eofList => "EOF while parsing a list".toList
  | .eofObject => "EOF while parsing an object".toList
  | .eofString => "EOF while parsing a string".toList
  | .eofValue => "EOF while parsing a value".toList
  | .expectedColon => "expected `:`".toList
  | .expectedListCommaOrEnd => "expected `,` or `]`".toList
  | .expectedObjectCommaOrEnd => "expected `,` or `\x7d`".toList
  | .expectedIdent => "expected ident".toList
  | .expectedValue => "expected value".toList
  | .invalidEscape => "invalid escape".toList
  | .invalidNumber => "invalid number".toList
  | .numberOutOfRange => "number out of range".toList
  | .controlCharacter =>
    "control character (\\u0000-\\u001F) found while parsing a string".toList
  | .keyNotString => "key must be a string".toList
  | .loneSurrogate => "lone leading surrogate in hex escape".toList
  | .trailingComma => "trailing comma".toList
  | .trailingCharacters => "trailing characters".toList
  | .endOfHexEscape => "unexpected end of hex escape".toList
  | .invalidType f expected => "invalid type: ".toList ++ f.text ++ ", expected ".toList ++
    expected.toList
  | .invalidValue f expected => "invalid value: ".toList ++ f.text ++ ", expected ".toList ++
    expected.toList
  | .duplicateField name => "duplicate field `".toList ++ name.toList ++ ['`']

structure Fault where
  cause : Cause
  left : Nat
  deriving DecidableEq, Repr

namespace Fault

def before (cause : Cause) (rest : Text) : Fault := ⟨cause, rest.byteLength⟩

def onFirst (cause : Cause) (rest : Text) : Fault := ⟨cause, rest.byteLength - 1⟩

def atEnd (cause : Cause) : Fault := ⟨cause, 0⟩

def position : Nat → Text → Nat × Nat → Nat × Nat
  | _, [], p => p
  | bytes, c :: s, (line, column) =>
    if bytes = 0 then (line, column)
    else if c = '\n' then position (bytes - 1) s (line + 1, 0)
    else position (bytes - c.utf8Size) s (line, column + min bytes c.utf8Size)

def text (f : Fault) (source : Text) : Text :=
  let (line, column) := position (source.byteLength - f.left) source (1, 0)
  f.cause.text ++ " at line ".toList ++ Numeral.write line ++ " column ".toList ++
    Numeral.write column

end Fault

end ForumClient.Json
