-- Sets and tables of characters, read from lines of words. A word begins with a code point in base
-- 16, or with the first and the last one of a range. What characters stand for comes behind a
-- colon, with full stops between code points; behind an arrow there is the first of as many code
-- points. A tilde in place of the hyphen takes every other code point of the range.
import ToggleSync.Text.Blank
import ToggleSync.Text.Parts

namespace ToggleSync.Unicode

/-! ## Words -/

def readCode (digits : List Char) : Nat :=
  digits.foldl (fun n c => n * 16 + (hexValue? c).getD 0) 0

def isHex (c : Char) : Bool := (hexValue? c).isSome

/-- Code points from the first to the last. -/
structure Range where
  first : Nat
  last : Nat
  deriving DecidableEq, Repr

/-- The range that a word begins with, and the rest of the word. -/
def readRange (word : List Char) : Range × List Char :=
  let first := readCode (word.takeWhile isHex)
  match word.dropWhile isHex with
  | '-' :: rest => (⟨first, readCode (rest.takeWhile isHex)⟩, rest.dropWhile isHex)
  | rest => (⟨first, first⟩, rest)

def wordsOf (lines : List String) : List (List Char) :=
  lines.flatMap fun line => splitAt (· == ' ') line.toList

/-! ## Sets -/

def readRanges (lines : List String) : List Range :=
  (wordsOf lines).map fun word => (readRange word).1

def Range.holds (r : Range) (n : Nat) : Bool := r.first ≤ n && n ≤ r.last

def inRanges (ranges : List Range) (c : Char) : Bool := ranges.any (·.holds c.toNat)

/-! ## Tables -/

/-- What the code points of a range stand for. -/
inductive Image
  /-- All for the same code points. -/
  | same (codes : List Nat)
  /-- Every one, or every other one, for the code point that is as far from `first` as it is from
  the first one of the range. -/
  | shifted (stride first : Nat)
  deriving DecidableEq, Repr

structure Entry where
  range : Range
  image : Image
  deriving DecidableEq, Repr

def readImage : List Char → Image
  | '>' :: first => .shifted 1 (readCode first)
  | ':' :: codes => .same ((splitAt (· == '.') codes).map readCode)
  | _ => .same []

def readEntry (word : List Char) : Entry :=
  match readRange word with
  | (r, '~' :: rest) =>
    ⟨⟨r.first, readCode (rest.takeWhile isHex)⟩,
      .shifted 2 (readCode ((rest.dropWhile isHex).drop 1))⟩
  | (r, rest) => ⟨r, readImage rest⟩

def readEntries (lines : List String) : List Entry := (wordsOf lines).map readEntry

/-- What a code point stands for, if the entry says so. -/
def Entry.codes? (e : Entry) (n : Nat) : Option (List Nat) :=
  if e.range.holds n then
    match e.image with
    | .same codes => some codes
    | .shifted stride first =>
      if (n - e.range.first) % stride = 0 then some [first + (n - e.range.first)] else none
  else none

def codesAt? (entries : List Entry) (c : Char) : Option (List Nat) :=
  entries.findSome? (·.codes? c.toNat)

def charsAt? (entries : List Entry) (c : Char) : Option (List Char) :=
  (codesAt? entries c).map (·.map Char.ofNat)

end ToggleSync.Unicode
