-- JSON values, and their compact text.
import ToggleSync.Text.Blank

namespace ToggleSync.Json

inductive Value
  | null
  | bool (b : Bool)
  /-- A whole number from 0 to 2^64 - 1, written without fraction and exponent. -/
  | natural (n : Nat)
  /-- Any other number, as it was written. No record of this library holds one. -/
  | number (literal : String)
  | text (s : String)
  | array (items : List Value)
  | object (members : List (String × Value))
  /-- A value that can be passed over and not be used: a number or a text that stands for
  nothing, or one nested too deep. -/
  | broken
  deriving Repr

/-! ## Writing -/

/-- How a character stands in a quoted text. -/
def escape (c : Char) : List Char :=
  match c with
  | '"' => ['\\', '"']
  | '\\' => ['\\', '\\']
  | '\x08' => ['\\', 'b']
  | '\t' => ['\\', 't']
  | '\n' => ['\\', 'n']
  | '\x0c' => ['\\', 'f']
  | '\r' => ['\\', 'r']
  | c =>
    if c.toNat < 0x20 then
      ['\\', 'u', '0', '0', hexDigit (c.toNat / 16), hexDigit (c.toNat % 16)]
    else [c]

def quote (s : String) : List Char := '"' :: s.toList.flatMap escape ++ ['"']

mutual

/-- The compact text of a value: no space, members in their order. -/
def Value.chars : Value → List Char
  | .null => ['n', 'u', 'l', 'l']
  | .bool true => ['t', 'r', 'u', 'e']
  | .bool false => ['f', 'a', 'l', 's', 'e']
  | .natural n => Nat.toDigits 10 n
  | .number literal => literal.toList
  | .text s => quote s
  | .array [] => ['[', ']']
  | .array (v :: vs) => '[' :: v.chars ++ itemChars vs
  | .object [] => ['{', '}']
  | .object ((k, v) :: ms) => '{' :: quote k ++ ':' :: v.chars ++ memberChars ms
  | .broken => ['n', 'u', 'l', 'l']

/-- What follows an item of an array. -/
def itemChars : List Value → List Char
  | [] => [']']
  | v :: vs => ',' :: v.chars ++ itemChars vs

/-- What follows a member of an object. -/
def memberChars : List (String × Value) → List Char
  | [] => ['}']
  | (k, v) :: ms => ',' :: quote k ++ ':' :: v.chars ++ memberChars ms

end

def Value.render (v : Value) : String := String.ofList v.chars

/-! ## Parts that cannot be used -/

mutual

/-- No part of the value is broken. -/
def Value.isSound : Value → Bool
  | .broken => false
  | .array vs => itemsSound vs
  | .object ms => membersSound ms
  | _ => true

def itemsSound : List Value → Bool
  | [] => true
  | v :: vs => v.isSound && itemsSound vs

def membersSound : List (String × Value) → Bool
  | [] => true
  | (_, v) :: ms => v.isSound && membersSound ms

end

end ToggleSync.Json
