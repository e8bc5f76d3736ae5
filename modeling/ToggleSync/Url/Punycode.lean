-- Labels of hosts in ASCII. A label that is not ASCII is written with the ASCII characters that it
-- has, and behind a hyphen with numbers that say which other characters go where.
import ToggleSync.Text.Blank

namespace ToggleSync.Url.Punycode

/-- The digits of numbers: the letters for 0 to 25, and then the digits. -/
def digit? (c : Char) : Option Nat :=
  if isAsciiDigit c then some (digitValue c + 26)
  else if 'a' ≤ c && c ≤ 'z' then some (c.toNat - 'a'.toNat)
  else none

def base : Nat := 36

/-- Numbers have to fit into 32 bits, also those on the way to a result. -/
def fit? (n : Nat) : Option Nat := if n < UInt32.size then some n else none

/-- The largest value that a digit may have as the last one of its number. -/
def threshold (place bias : Nat) : Nat := min 26 (max 1 (place - bias))

/-- Brings a number down to where it moves the bias by less than a digit. -/
def shrink (delta place : Nat) : Nat × Nat :=
  if 455 < delta then shrink (delta / 35) (place + base) else (delta, place)
termination_by delta

/-- The bias for the next number, from the last one. -/
def adapt (delta count : Nat) (first : Bool) : Nat :=
  let delta := if first then delta / 700 else delta / 2
  let (delta, place) := shrink (delta + delta / count) 0
  place + base * delta / (delta + 38)

/-- Adds a number with digits of growing weight, and gives what is left. -/
def addNumber? (bias : Nat) : Nat → Nat → Nat → List Char → Option (Nat × List Char)
  | _, _, _, [] => none
  | sum, weight, place, c :: cs => do
    let d ← digit? c
    let sum ← fit? (sum + (← fit? (d * weight)))
    let t := threshold place bias
    if d < t then some (sum, cs)
    else addNumber? bias sum (← fit? (weight * (base - t))) (place + base) cs

/-- A number has at least one digit. -/
theorem length_addNumber? {bias sum weight place : Nat} {cs : List Char} {r : Nat × List Char}
    (h : addNumber? bias sum weight place cs = some r) : r.2.length < cs.length := by
  induction cs generalizing sum weight place with
  | nil => simp [addNumber?] at h
  | cons c cs ih =>
    simp only [addNumber?, Option.bind_eq_bind, Option.bind_eq_some_iff] at h
    obtain ⟨d, -, p, -, s, -, h⟩ := h
    split at h
    · simp only [Option.some.injEq] at h
      simp [← h]
    · obtain ⟨w, -, h⟩ := Option.bind_eq_some_iff.mp h
      exact Nat.lt_succ_of_lt (ih h)

/-- Puts characters into a label, each where its number says. -/
def insertCoded (out : List Char) (code index bias : Nat) (cs : List Char) : Option (List Char) :=
  if cs.isEmpty then some out
  else
    match _number : addNumber? bias index 1 base cs with
    | none => none
    | some (sum, rest) =>
      let count := out.length + 1
      let place := sum % count
      match fit? (code + sum / count) with
      | none => none
      | some code =>
        if code.isValidChar then
          insertCoded (out.take place ++ Char.ofNat code :: out.drop place) code (place + 1)
            (adapt (sum - index) count (index = 0)) rest
        else none
termination_by cs.length
decreasing_by exact length_addNumber? (by assumption)

/-- The characters before the last hyphen, and those behind it. A hyphen in front separates
nothing. -/
def splitHyphen (cs : List Char) : List Char × List Char :=
  let behind := (cs.reverse.takeWhile (· != '-')).reverse
  let before := cs.take (cs.length - behind.length - 1)
  if before.isEmpty then ([], cs) else (before, behind)

/-- The label that is written so. -/
def decode? (form : List Char) : Option (List Char) :=
  let (plain, coded) := splitHyphen form
  insertCoded plain 128 0 72 coded

end ToggleSync.Url.Punycode
