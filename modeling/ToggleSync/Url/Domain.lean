-- The domains that a URL may name: labels between full stops.
import ToggleSync.Unicode.Composed
import ToggleSync.Unicode.Direction
import ToggleSync.Unicode.Joining
import ToggleSync.Url.HostMapping
import ToggleSync.Url.Punycode

namespace ToggleSync.Url

open Unicode

/-! ## Characters -/

/-- The characters of ASCII that no domain holds: controls, the space, and what means something
else in a URL. -/
def isForbidden (c : Char) : Bool :=
  c.toNat ≤ 0x20 || c.toNat == 0x7F || "%#/:<>?@[\\]^|".toList.contains c

/-- What the characters of a name stand for, in composed form. -/
def mappedName? (cs : List Char) : Option (List Char) := do
  let name := composed (← cs.mapM hostImage?).flatten
  if name.any isForbidden then none else some name

/-! ## Labels -/

/-- The nearest character that joins has to be of the right kind, marks aside. -/
def nearestJoins (joins : Char → Bool) (cs : List Char) : Bool :=
  (cs.dropWhile fun c => !joins c && isTransparent c).head?.any joins

/-- A joiner follows a virama. One that keeps letters apart may also stand between letters that
would join without it. The characters before the joiner are given in reverse. -/
def isJoinerAllowed (before : List Char) (joiner : Char) (behind : List Char) : Bool :=
  before.head?.any isVirama ||
    (joiner == '\u200c' && nearestJoins joinsAhead before && nearestJoins joinsBack behind)

/-- Zero width joiner and non-joiner. -/
def isJoiner (c : Char) : Bool := c == '\u200c' || c == '\u200d'

def joinersAllowed (before : List Char) : List Char → Bool
  | [] => true
  | c :: cs => (!isJoiner c || isJoinerAllowed before c cs) && joinersAllowed (c :: before) cs

def isAscii (cs : List Char) : Bool := cs.all (·.toNat < 0x80)

/-- So many characters a label may have that is not ASCII. -/
def longestLabel : Nat := 1000

/-- So many characters a label may have in ASCII, behind its first four, if it stands for one that
is not. -/
def longestForm : Nat := 2000

def isLabel (label : List Char) : Bool :=
  !label.head?.any isMark && joinersAllowed [] label &&
    (isAscii label || label.length ≤ longestLabel)

/-- The label that an ASCII form stands for. No other name stands for that label, so that all of
its characters stand for themselves. -/
def labelOfForm? (form : List Char) : Option (List Char) := do
  if !isAscii form || form.getLast?.all (· == '-') || longestForm < form.length then none
  let label ← Punycode.decode? form
  if mappedName? label = some label && !label.contains '.' && isLabel label then some label
  else none

/-- The label that is meant by a part of a name. -/
def label? : List Char → Option (List Char)
  | 'x' :: 'n' :: '-' :: '-' :: form => labelOfForm? form
  | label => if isLabel label then some label else none

/-! ## Directions -/

def writesBack (d : Direction) : Bool := d = .rightToLeft || d = .arabicNumber

/-- What may stand in a label that is written from left to right. -/
def goesLeftToRight (d : Direction) : Bool := d ≠ .rightToLeft && d ≠ .arabicNumber

/-- What may stand in a label that is written from right to left. -/
def goesRightToLeft (d : Direction) : Bool := d ≠ .leftToRight

/-- A label is written in the direction of its first character, which has to be a letter. It ends
with a letter or a number, marks aside. From right to left, numbers of one kind only go together. -/
def isDirected : List Direction → Bool
  | [] => true
  | first :: rest =>
    let last := ((first :: rest).reverse.dropWhile (· = .nonspacing)).head?
    match first with
    | .leftToRight =>
      rest.all goesLeftToRight && last.all fun d => d = .leftToRight || d = .europeanNumber
    | .rightToLeft =>
      rest.all goesRightToLeft && last.all (fun d => d ≠ .neutral) &&
        !(rest.contains .europeanNumber && rest.contains .arabicNumber)
    | _ => false

/-- Once something is written from right to left, the direction of every label counts. -/
def areDirected (labels : List (List Char)) : Bool :=
  let directions := labels.map (·.map direction)
  !directions.any (·.any writesBack) || directions.all isDirected

/-! ## Domains -/

/-- The domain that a text names, in lower case. -/
def domain? (cs : List Char) : Option (List Char) := do
  let name ← mappedName? cs
  let labels ← (splitAt (· == '.') name).mapM label?
  if areDirected labels then some name else none

end ToggleSync.Url
