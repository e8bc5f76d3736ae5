-- Text as bytes: UTF-8 both ways, where bytes stop being text, and bytes in base 16.
import ToggleSync.Text.Blank

namespace ToggleSync

def textBytes (s : String) : List UInt8 := s.toUTF8.toList

def hexText (bytes : List UInt8) : String :=
  String.ofList (bytes.flatMap fun b => [hexDigit (b.toNat / 16), hexDigit (b.toNat % 16)])

/-- Reads bytes in base 16. -/
def hexBytes? : List Char → Option (List UInt8)
  | [] => some []
  | a :: b :: cs => do
    let a ← hexValue? a
    let b ← hexValue? b
    let rest ← hexBytes? cs
    some (.ofNat (a * 16 + b) :: rest)
  | [_] => none

namespace Utf8

/-- The ranges of the bytes that follow the first byte of a character, or none if no character
begins with that byte. -/
def tails (first : Nat) : Option (List (Nat × Nat)) :=
  let any := (0x80, 0xBF)
  if first < 0x80 then some []
  else if first < 0xC2 then none
  else if first < 0xE0 then some [any]
  else if first = 0xE0 then some [(0xA0, 0xBF), any]
  else if first = 0xED then some [(0x80, 0x9F), any]
  else if first < 0xF0 then some [any, any]
  else if first = 0xF0 then some [(0x90, 0xBF), any, any]
  else if first < 0xF4 then some [any, any, any]
  else if first = 0xF4 then some [(0x80, 0x8F), any, any]
  else none

/-- How many bytes in a row lie in their ranges. -/
def matching : List (Nat × Nat) → List UInt8 → Nat
  | r :: rs, b :: bs => if r.1 ≤ b.toNat && b.toNat ≤ r.2 then matching rs bs + 1 else 0
  | _, _ => 0

/-- The bits of a first byte that count, given the number of bytes after it. -/
def leadBits (first tailCount : Nat) : Nat :=
  if tailCount = 0 then first else first % Nat.pow 2 (6 - tailCount)

def assemble (first : Nat) (tail : List UInt8) : Char :=
  Char.ofNat (tail.foldl (fun n b => n * 64 + b.toNat % 64) (leadBits first tail.length))

/-- What stands at the beginning of some bytes. -/
inductive Head
  | char (c : Char)
  /-- The bytes are no character, and more bytes would not make them one. -/
  | bad
  /-- The bytes end before the character does. -/
  | cut
  deriving DecidableEq, Repr

/-- The head of bytes, and how many bytes after the first belong to it. -/
def head (first : UInt8) (rest : List UInt8) : Head × Nat :=
  match tails first.toNat with
  | none => (.bad, 0)
  | some ranges =>
    let n := matching ranges rest
    if n = ranges.length then (.char (assemble first.toNat (rest.take n)), n)
    else if n = rest.length then (.cut, n)
    else (.bad, n)

/-- Where bytes stop being text: after so many bytes, with a part of so many that is no character.
A part without length is cut off by the end. -/
structure Flaw where
  index : Nat
  length : Option Nat
  deriving DecidableEq, Repr

def Flaw.message (f : Flaw) : String :=
  match f.length with
  | some n => s!"invalid utf-8 sequence of {n} bytes from index {f.index}"
  | none => s!"incomplete utf-8 byte sequence from index {f.index}"

/-! ## Decoding -/

/-- The text up to the first flaw. -/
def scan (index : Nat) : List UInt8 → List Char × Option Flaw
  | [] => ([], none)
  | first :: rest =>
    match head first rest with
    | (.char c, n) =>
      let r := scan (index + n + 1) (rest.drop n)
      (c :: r.1, r.2)
    | (.bad, n) => ([], some ⟨index, some (n + 1)⟩)
    | (.cut, _) => ([], some ⟨index, none⟩)
termination_by bytes => bytes.length
decreasing_by simp only [List.length_drop, List.length_cons]; omega

def decode? (bytes : List UInt8) : Option String :=
  match scan 0 bytes with
  | (cs, none) => some (String.ofList cs)
  | _ => none

/-- Every part that is no character becomes one replacement character. -/
def repair : List UInt8 → List Char
  | [] => []
  | first :: rest =>
    let h := head first rest
    let c := match h.1 with
      | .char c => c
      | _ => '\uFFFD'
    c :: repair (rest.drop h.2)
termination_by bytes => bytes.length
decreasing_by simp only [List.length_drop, List.length_cons]; omega

def decodeLossy (bytes : List UInt8) : String := String.ofList (repair bytes)

end Utf8

end ToggleSync
