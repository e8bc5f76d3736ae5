-- The addresses that a URL may name in the place of a domain.
import ToggleSync.Url.Domain

namespace ToggleSync.Url

/-! ## Version 4 -/

/-- The value of digits in a base, if all of them are digits in it. -/
def valueIn? (base : Nat) (digits : List Char) : Option Nat :=
  digits.foldlM (fun n c =>
    (hexValue? c).bind fun d => if d < base then some (n * base + d) else none) 0

/-- A number in base 16 behind `0x`, in base 8 behind `0`, or else in base 10. -/
def number? : List Char → Option Nat
  | [] => none
  | '0' :: 'x' :: digits => valueIn? 16 digits
  | '0' :: 'X' :: digits => valueIn? 16 digits
  | ['0'] => some 0
  | '0' :: digits => valueIn? 8 digits
  | digits => valueIn? 10 digits

/-- The parts between dots, without an empty one at the end. -/
def dottedParts (cs : List Char) : List (List Char) :=
  let parts := splitAt (· == '.') cs
  if 1 < parts.length && parts.getLast?.all (·.isEmpty) then parts.dropLast else parts

/-- A name whose last part is a number is meant to be an address. -/
def endsInNumber (cs : List Char) : Bool :=
  match (dottedParts cs).getLast? with
  | none => false
  | some part => (!part.isEmpty && part.all isAsciiDigit) || (number? part).isSome

/-- Each number but the last is a byte, and the last one fills the bytes that are left. -/
def ipv4? (cs : List Char) : Option Nat := do
  let parts := dottedParts cs
  let numbers ← parts.mapM number?
  let last ← numbers.getLast?
  let leading := numbers.dropLast
  if parts.length ≤ 4 && leading.all (· < 256) && last < Nat.pow 256 (4 - leading.length) then
    some (leading.foldl (fun n b => n * 256 + b) 0 * Nat.pow 256 (4 - leading.length) + last)
  else none

/-! ## Version 6 -/

/-- A group of one to four digits in base 16. -/
def group? (cs : List Char) : Option Nat :=
  if cs.isEmpty || 4 < cs.length then none else valueIn? 16 cs

/-- A byte in base 10, without a leading zero. -/
def decimalByte? (cs : List Char) : Option Nat := do
  let n ← if cs.isEmpty || 3 < cs.length || !cs.all isAsciiDigit then none else valueIn? 10 cs
  if n < 256 && (cs.length = 1 || cs.head? ≠ some '0') then some n else none

/-- The last two groups may be written as an address of version 4. -/
def tailGroups? (cs : List Char) : Option (List Nat) :=
  match splitAt (· == '.') cs with
  | [part] => (group? part).map ([·])
  | [a, b, c, d] => do
    let a ← decimalByte? a
    let b ← decimalByte? b
    let c ← decimalByte? c
    let d ← decimalByte? d
    some [a * 256 + b, c * 256 + d]
  | _ => none

/-- The groups between colons. Nothing at all is no groups. -/
def groups? (cs : List Char) : Option (List Nat) :=
  if cs.isEmpty then some []
  else do
    let parts := splitAt (· == ':') cs
    let leading ← parts.dropLast.mapM group?
    let last ← (parts.getLast?).bind tailGroups?
    some (leading ++ last)

/-- Groups before a double colon are never written as an address of version 4. -/
def leadingGroups? (cs : List Char) : Option (List Nat) :=
  if cs.isEmpty then some [] else (splitAt (· == ':') cs).mapM group?

/-- What stands before and behind the first double colon. -/
def splitDoubleColon? : List Char → Option (List Char × List Char)
  | ':' :: ':' :: rest => some ([], rest)
  | c :: rest => (splitDoubleColon? rest).map fun p => (c :: p.1, p.2)
  | [] => none

/-- Eight groups, or fewer around one double colon, which stands for the ones that are missing. -/
def ipv6? (cs : List Char) : Option (List Nat) :=
  match splitDoubleColon? cs with
  | none => (groups? cs).filter (·.length = 8)
  | some (before, behind) => do
    let front ← leadingGroups? before
    let back ← groups? behind
    if front.length + back.length < 8 then
      some (front ++ List.replicate (8 - front.length - back.length) 0 ++ back)
    else none

end ToggleSync.Url
