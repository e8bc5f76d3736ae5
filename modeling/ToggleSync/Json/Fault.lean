-- What can be wrong with a JSON text, and where. A fault keeps the number of bytes that were
-- still unread, so that it can be raised without knowing what came before.
import ToggleSync.Text.Blank

namespace ToggleSync.Json

inductive Cause
  | endInValue
  | endInList
  | endInObject
  | endInText
  | expectedValue
  | expectedWord
  | expectedColon
  | expectedListEnd
  | expectedObjectEnd
  | trailingComma
  | keyNotText
  | invalidNumber
  | numberTooLarge
  | invalidEscape
  | loneSurrogate
  | unfinishedPair
  | controlCharacter
  | trailingText
  | tooDeep
  deriving DecidableEq, Repr

def Cause.message : Cause → String
  | .endInValue => "EOF while parsing a value"
  | .endInList => "EOF while parsing a list"
  | .endInObject => "EOF while parsing an object"
  | .endInText => "EOF while parsing a string"
  | .expectedValue => "expected value"
  | .expectedWord => "expected ident"
  | .expectedColon => "expected `:`"
  | .expectedListEnd => "expected `,` or `]`"
  | .expectedObjectEnd => "expected `,` or `\x7d`"
  | .trailingComma => "trailing comma"
  | .keyNotText => "key must be a string"
  | .invalidNumber => "invalid number"
  | .numberTooLarge => "number out of range"
  | .invalidEscape => "invalid escape"
  | .loneSurrogate => "lone leading surrogate in hex escape"
  | .unfinishedPair => "unexpected end of hex escape"
  | .controlCharacter => "control character (\\u0000-\\u001F) found while parsing a string"
  | .trailingText => "trailing characters"
  | .tooDeep => "recursion limit exceeded"

structure Fault where
  cause : Cause
  /-- The bytes from the fault to the end of the text. -/
  left : Nat
  deriving DecidableEq, Repr

/-- A fault seen before the next byte is looked at. -/
def Fault.before (cause : Cause) (rest : List Char) : Fault := ⟨cause, byteCount rest⟩

/-- A fault in the next byte. At the end of the text there is none to count. -/
def Fault.within (cause : Cause) (rest : List Char) : Fault := ⟨cause, byteCount rest - 1⟩

structure Position where
  line : Nat
  column : Nat
  deriving DecidableEq, Repr

/-- Goes on from a position over `n` bytes. Columns count bytes since the last line feed. -/
def Position.advance (p : Position) : List Char → Nat → Position
  | [], _ => p
  | c :: cs, n =>
    if n < c.utf8Size then ⟨p.line, p.column + n⟩
    else if c == '\n' then advance ⟨p.line + 1, 0⟩ cs (n - c.utf8Size)
    else advance ⟨p.line, p.column + c.utf8Size⟩ cs (n - c.utf8Size)

def Fault.position (f : Fault) (text : List Char) : Position :=
  Position.advance ⟨1, 0⟩ text (byteCount text - f.left)

/-- A fault and its place, as they are reported. -/
structure Report where
  cause : Cause
  position : Position
  deriving DecidableEq, Repr

def Fault.report (f : Fault) (text : String) : Report := ⟨f.cause, f.position text.toList⟩

def Report.message (r : Report) : String :=
  s!"{r.cause.message} at line {r.position.line} column {r.position.column}"

/-- Takes one thing from the front of a text: gives it, and the rest. -/
abbrev Reader (α : Type) := List Char → Except Fault (α × List Char)

end ToggleSync.Json
