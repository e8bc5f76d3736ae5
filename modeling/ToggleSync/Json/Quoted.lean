-- Quoted texts: from the character after the opening quote to the closing one.
import ToggleSync.Json.Fault

namespace ToggleSync.Json

/-- Four digits in base sixteen. They are cut off as four bytes before they are looked at. -/
def readHex (cs : List Char) : Except Fault (Nat × List Char) :=
  match cs with
  | a :: b :: c :: d :: r =>
    match hexValue? a, hexValue? b, hexValue? c, hexValue? d with
    | some a, some b, some c, some d => .ok (a * 4096 + b * 256 + c * 16 + d, r)
    | _, _, _, _ =>
      if byteCount cs < 4 then .error ⟨.endInText, 0⟩ else .error ⟨.invalidEscape, byteCount cs - 4⟩
  | cs =>
    if byteCount cs < 4 then .error ⟨.endInText, 0⟩ else .error ⟨.invalidEscape, byteCount cs - 4⟩

def isHighSurrogate (n : Nat) : Bool := 0xD800 ≤ n && n ≤ 0xDBFF

def isLowSurrogate (n : Nat) : Bool := 0xDC00 ≤ n && n ≤ 0xDFFF

/-- The second half of a pair, which has to follow at once. -/
def readLowHalf (high : Nat) (cs : List Char) : Except Fault (Char × List Char) :=
  match cs with
  | [] => .error ⟨.endInText, 0⟩
  | '\\' :: [] => .error ⟨.endInText, 0⟩
  | '\\' :: 'u' :: r => do
    let (low, r) ← readHex r
    if isLowSurrogate low then
      .ok (Char.ofNat ((high - 0xD800) * 1024 + (low - 0xDC00) + 0x10000), r)
    else .error (.before .loneSurrogate r)
  | '\\' :: r => .error (.within .unfinishedPair r)
  | r => .error (.within .unfinishedPair r)

/-- The character that a code unit stands for, with the unit after it where two make one. -/
def readUnit (cs : List Char) : Except Fault (Char × List Char) := do
  let (n, r) ← readHex cs
  if isLowSurrogate n then .error (.before .loneSurrogate r)
  else if isHighSurrogate n then readLowHalf n r
  else .ok (Char.ofNat n, r)

/-- The characters that a letter after a backslash stands for. -/
def unescape? (c : Char) : Option Char :=
  match c with
  | '"' => some '"'
  | '\\' => some '\\'
  | '/' => some '/'
  | 'b' => some '\x08'
  | 'f' => some '\x0c'
  | 'n' => some '\n'
  | 'r' => some '\r'
  | 't' => some '\t'
  | _ => none

/-- The character that an escape stands for; the text starts after the backslash. -/
def readEscape (cs : List Char) : Except Fault (Char × List Char) :=
  match cs with
  | [] => .error ⟨.endInText, 0⟩
  | 'u' :: r => readUnit r
  | c :: r =>
    match unescape? c with
    | some x => .ok (x, r)
    | none => .error (.within .invalidEscape (c :: r))

/-- Passes over an escape without asking whether it stands for a character. -/
def skipEscape (cs : List Char) : Except Fault (Option Char × List Char) :=
  match cs with
  | 'u' :: r =>
    match readUnit r with
    | .ok (c, r) => .ok (some c, r)
    | .error _ => do
      let (_, r) ← readHex r
      .ok (none, r)
  | cs => do
    let (c, r) ← readEscape cs
    .ok (some c, r)

/-- The characters of a text up to its closing quote, read with `esc` for what stands behind a
backslash. The fuel counts characters, of which each turn takes at least one. -/
def readChars {α : Type} (esc : Reader α) (plain : Char → α) :
    Nat → Reader (List α)
  | 0, _ => .error ⟨.endInText, 0⟩
  | n + 1, cs =>
    match cs with
    | [] => .error ⟨.endInText, 0⟩
    | '"' :: r => .ok ([], r)
    | '\\' :: r => do
      let (x, r) ← esc r
      let (xs, r) ← readChars esc plain n r
      .ok (x :: xs, r)
    | c :: r =>
      if c.toNat < 0x20 then .error (.within .controlCharacter (c :: r))
      else do
        let (xs, r) ← readChars esc plain n r
        .ok (plain c :: xs, r)

def readText (cs : List Char) : Except Fault (String × List Char) := do
  let (xs, r) ← readChars readEscape id (cs.length + 1) cs
  .ok (String.ofList xs, r)

/-- Reads a text that may hold escapes which stand for no character: then there is no text. -/
def skimText (cs : List Char) : Except Fault (Option String × List Char) := do
  let (xs, r) ← readChars skipEscape some (cs.length + 1) cs
  .ok ((xs.mapM id).map String.ofList, r)

end ToggleSync.Json
