-- Reading JSON. A text is read from the front; the first fault ends the reading. `Value.read`
-- wants every part of the text to stand for something. `Value.skim?` lets parts stand that
-- no one may look at, and gives `broken` for them.
import ToggleSync.Json.Number
import ToggleSync.Json.Quoted

namespace ToggleSync.Json

/-- How numbers and quoted texts are read. -/
structure Leaves where
  number : Literal → List Char → Except Fault Value
  text : Reader (Option String)

/-- Space between the parts of a text. -/
def isSpace (c : Char) : Bool := c == ' ' || c == '\n' || c == '\t' || c == '\r'

def skipSpace (cs : List Char) : List Char := cs.dropWhile isSpace

def readWord (v : Value) : List Char → Reader Value
  | [], r => .ok (v, r)
  | _ :: _, [] => .error (.before .endInValue [])
  | e :: es, c :: r => if c == e then readWord v es r else .error (.within .expectedWord (c :: r))

def Leaves.readNumber (leaves : Leaves) (negative : Bool) (cs : List Char) :
    Except Fault (Value × List Char) := do
  let (lit, r) ← Literal.read negative cs
  let v ← leaves.number lit r
  .ok (v, r)

def Leaves.readString (leaves : Leaves) (cs : List Char) : Except Fault (Value × List Char) := do
  let (s, r) ← leaves.text cs
  .ok ((s.map Value.text).getD .broken, r)

/-! ## Lists of items and members -/

/-- Items up to the closing bracket. The fuel counts characters, of which each turn takes at
least one. -/
def readItems (item : Reader Value) : Nat → Bool → Reader (List Value)
  | 0, _, _ => .error (.before .endInList [])
  | n + 1, first, cs => do
    let next (cs : List Char) : Except Fault (List Value × List Char) := do
      let (v, r) ← item cs
      let (vs, r) ← readItems item n false r
      .ok (v :: vs, r)
    match skipSpace cs with
    | [] => .error (.before .endInList [])
    | ']' :: r => .ok ([], r)
    | c :: r =>
      if first then next (c :: r)
      else if c == ',' then
        match skipSpace r with
        | [] => .error (.before .endInValue [])
        | ']' :: r => .error (.within .trailingComma (']' :: r))
        | r => next r
      else .error (.within .expectedListEnd (c :: r))

/-- The value of a member, after its key. -/
def readMemberValue (item : Reader Value) (cs : List Char) : Except Fault (Value × List Char) :=
  match skipSpace cs with
  | [] => .error (.before .endInObject [])
  | ':' :: r => item r
  | r => .error (.within .expectedColon r)

abbrev Members := List (Option String × Value)

/-- Members up to the closing brace, each with its key if that stands for a text. -/
def readMembers (leaves : Leaves) (item : Reader Value) :
    Nat → Bool → Reader Members
  | 0, _, _ => .error (.before .endInObject [])
  | n + 1, first, cs => do
    let next (cs : List Char) : Except Fault (Members × List Char) := do
      let (k, r) ← leaves.text cs
      let (v, r) ← readMemberValue item r
      let (ms, r) ← readMembers leaves item n false r
      .ok ((k, v) :: ms, r)
    match skipSpace cs with
    | [] => .error (.before .endInObject [])
    | '}' :: r => .ok ([], r)
    | c :: r =>
      if first then
        if c == '"' then next r else .error (.within .keyNotText (c :: r))
      else if c == ',' then
        match skipSpace r with
        | [] => .error (.before .endInValue [])
        | '"' :: r => next r
        | '}' :: r => .error (.within .trailingComma ('}' :: r))
        | r => .error (.within .keyNotText r)
      else .error (.within .expectedObjectEnd (c :: r))

/-- An object of which a key is no text cannot be used. -/
def Value.ofMembers (ms : Members) : Value :=
  match ms.mapM fun (k, v) => k.map (·, v) with
  | some ms => .object ms
  | none => .broken

/-! ## Values -/

/-- Reads a value, with `nested` for what follows an opening bracket. -/
def Leaves.readValue (leaves : Leaves) (nested : Char → Reader Value)
    (cs : List Char) : Except Fault (Value × List Char) :=
  match skipSpace cs with
  | [] => .error (.before .endInValue [])
  | 'n' :: r => readWord .null ['u', 'l', 'l'] r
  | 't' :: r => readWord (.bool true) ['r', 'u', 'e'] r
  | 'f' :: r => readWord (.bool false) ['a', 'l', 's', 'e'] r
  | '-' :: r => leaves.readNumber true r
  | '"' :: r => leaves.readString r
  | '[' :: r => nested '[' r
  | '{' :: r => nested '{' r
  | c :: r => if isAsciiDigit c then leaves.readNumber false (c :: r)
    else .error (.within .expectedValue (c :: r))

/-- Reads a value with at most `depth` brackets open at a time; `deep` takes over at one more. -/
def Leaves.readNested (leaves : Leaves) (deep : Char → Reader Value) :
    Nat → Reader Value
  | 0 => leaves.readValue deep
  | depth + 1 => leaves.readValue fun c r => do
    let item := leaves.readNested deep depth
    if c == '[' then
      let (vs, r) ← readItems item (r.length + 1) true r
      .ok (.array vs, r)
    else
      let (ms, r) ← readMembers leaves item (r.length + 1) true r
      .ok (Value.ofMembers ms, r)

def maxDepth : Nat := 127

def tooDeep (_ : Char) (r : List Char) : Except Fault (Value × List Char) :=
  .error (.before .tooDeep r)

/-- Every number has a value and every text stands for characters. -/
def Leaves.exact : Leaves where
  number lit r := match lit.value with
    | .ok v => .ok v
    | .error unread => .error ⟨.numberTooLarge, byteCount r + unread⟩
  text cs := do
    let (s, r) ← readText cs
    .ok (some s, r)

/-- Numbers and texts that stand for nothing are passed over. -/
def Leaves.lenient : Leaves where
  number lit _ := match lit.value with
    | .ok v => .ok v
    | .error _ => .ok .broken
  text := skimText

/-- Passes over a value of any depth. -/
def skipNested (c : Char) (r : List Char) : Except Fault (Value × List Char) := do
  let (_, r) ← Leaves.lenient.readNested tooDeep (r.length + 1) (c :: r)
  .ok (.broken, r)

/-- Wants nothing but space behind a value. -/
def readEnd (r : List Char) : Except Fault Unit :=
  match skipSpace r with
  | [] => .ok ()
  | r => .error (.within .trailingText r)

/-- The value at the front of a text, and what is behind it. -/
def Value.readFront (text : String) : Except Fault (Value × List Char) :=
  Leaves.exact.readNested tooDeep maxDepth text.toList

def Value.read (text : String) : Except Fault Value := do
  let (v, r) ← Value.readFront text
  readEnd r
  .ok v

def Value.skim? (text : String) : Option Value :=
  match Leaves.lenient.readNested skipNested maxDepth text.toList with
  | .ok (v, r) => if (skipSpace r).isEmpty then some v else none
  | .error _ => none

end ToggleSync.Json
