-- The composed form of a text: of the sequences of characters that are the same, the one with
-- marks in the order of their classes and with as few characters as there can be.
import ToggleSync.Unicode.Decomposition
import ToggleSync.Unicode.Mark

namespace ToggleSync.Unicode

/-! ## Syllables of Hangul -/

def firstSyllable : Nat := 0xAC00

def firstLead : Nat := 0x1100

def firstVowel : Nat := 0x1161

/-- One before the first tail: a syllable may have no tail. -/
def noTail : Nat := 0x11A7

def leadCount : Nat := 19

def vowelCount : Nat := 21

def tailCount : Nat := 28

def syllableCount : Nat := leadCount * vowelCount * tailCount

/-- The letters of a syllable. -/
def syllable? (n : Nat) : Option (List Nat) :=
  let i := n - firstSyllable
  if n < firstSyllable || syllableCount ≤ i then none
  else
    let letters := [firstLead + i / (vowelCount * tailCount),
      firstVowel + i / tailCount % vowelCount]
    some (if i % tailCount = 0 then letters else letters ++ [noTail + i % tailCount])

/-- A lead and a vowel make a syllable, and a syllable without tail takes one. -/
def joinSyllable? (a b : Nat) : Option Nat :=
  if firstLead ≤ a && a < firstLead + leadCount &&
      firstVowel ≤ b && b < firstVowel + vowelCount then
    some (firstSyllable + ((a - firstLead) * vowelCount + (b - firstVowel)) * tailCount)
  else if firstSyllable ≤ a && a < firstSyllable + syllableCount &&
      (a - firstSyllable) % tailCount = 0 && noTail < b && b < noTail + tailCount then
    some (a + (b - noTail))
  else none

/-! ## Taking apart -/

/-- The longest sequence that a character is the same as. -/
def decompose (c : Char) : List Char :=
  match syllable? c.toNat with
  | some letters => letters.map Char.ofNat
  | none => ((charsAt? composable c).or (charsAt? replaced c)).getD [c]

/-- Puts a mark before the first character that it may not pass. -/
def insertMark (c : Char) : List Char → List Char
  | [] => [c]
  | d :: ds =>
    if 0 < combiningClass d && combiningClass d < combiningClass c then d :: insertMark c ds
    else c :: d :: ds

/-- Puts marks in the order of their classes. -/
def orderMarks (cs : List Char) : List Char := cs.foldr insertMark []

/-! ## Putting together -/

/-- The character that is the same as two. -/
def compose? (a b : Char) : Option Char :=
  match joinSyllable? a.toNat b.toNat with
  | some n => some (Char.ofNat n)
  | none =>
    let codes := (decompose a ++ [b]).map (·.toNat)
    (composable.find? (·.image == .same codes)).map fun e => Char.ofNat e.range.first

/-- A character does not go with the one before some marks if the last of these stands in its
way. -/
def isBlocked (marks : List Char) (c : Char) : Bool :=
  marks.getLast?.any fun m => combiningClass c ≤ combiningClass m

/-- Lets a character take up what goes with it, and goes on behind that. -/
def absorb (a : Char) (marks : List Char) : List Char → List Char
  | [] => a :: marks
  | c :: cs =>
    match if isBlocked marks c then none else compose? a c with
    | some b => absorb b marks cs
    | none =>
      if combiningClass c = 0 then a :: marks ++ absorb c [] cs else absorb a (marks ++ [c]) cs

/-- Marks in front have nothing to go with. -/
def composeAll : List Char → List Char
  | [] => []
  | c :: cs => if combiningClass c = 0 then absorb c [] cs else c :: composeAll cs

def composed (cs : List Char) : List Char := composeAll (orderMarks (cs.flatMap decompose))

end ToggleSync.Unicode
