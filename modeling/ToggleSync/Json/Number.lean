-- Numbers of a JSON text: how one is written, and what it stands for.
import ToggleSync.Json.Fault
import ToggleSync.Json.Value

namespace ToggleSync.Json

/-- A number as it is written. -/
structure Literal where
  negative : Bool
  whole : List Char
  fraction : List Char
  /-- The sign (true below zero) and the digits of the exponent. -/
  exponent : Option (Bool × List Char)
  /-- Written with digits only, so that it stands for a whole number. -/
  plain : Bool

/-! ## Reading the digits -/

def Literal.readExponent (lit : Literal) (cs : List Char) : Except Fault (Literal × List Char) :=
  let (negative, cs) := match cs with
    | '+' :: r => (false, r)
    | '-' :: r => (true, r)
    | r => (false, r)
  match cs with
  | [] => .error (.before .endInValue [])
  | c :: _ =>
    if isAsciiDigit c then
      .ok ({ lit with exponent := some (negative, cs.takeWhile isAsciiDigit), plain := false },
        cs.dropWhile isAsciiDigit)
    else .error (.within .invalidNumber cs)

def Literal.readEnd (lit : Literal) (cs : List Char) : Except Fault (Literal × List Char) :=
  match cs with
  | 'e' :: r => lit.readExponent r
  | 'E' :: r => lit.readExponent r
  | r => .ok (lit, r)

def Literal.readFraction (lit : Literal) (cs : List Char) : Except Fault (Literal × List Char) :=
  match cs with
  | '.' :: r =>
    match r with
    | [] => .error (.within .endInValue [])
    | c :: _ =>
      if isAsciiDigit c then
        Literal.readEnd { lit with fraction := r.takeWhile isAsciiDigit, plain := false }
          (r.dropWhile isAsciiDigit)
      else .error (.within .invalidNumber r)
  | r => lit.readEnd r

/-- Reads a number after its sign. A zero in front is the whole of the whole part. -/
def Literal.read (negative : Bool) (cs : List Char) : Except Fault (Literal × List Char) :=
  let lit (whole : List Char) : Literal := ⟨negative, whole, [], none, true⟩
  match cs with
  | [] => .error (.before .endInValue [])
  | '0' :: r =>
    if (r.head?.map isAsciiDigit).getD false then .error (.within .invalidNumber r)
    else (lit ['0']).readFraction r
  | c :: _ =>
    if isAsciiDigit c then
      (lit (cs.takeWhile isAsciiDigit)).readFraction (cs.dropWhile isAsciiDigit)
    else .error (.within .invalidNumber cs)

def Literal.render (lit : Literal) : String :=
  let sign := if lit.negative then ['-'] else []
  let fraction := if lit.fraction.isEmpty then [] else '.' :: lit.fraction
  let exponent := match lit.exponent with
    | none => []
    | some (negative, ds) => 'e' :: (if negative then '-' :: ds else ds)
  String.ofList (sign ++ lit.whole ++ fraction ++ exponent)

/-! ## What a number stands for -/

/-- Takes digits as long as the value stays below the limit, and gives the digits left over. -/
def gather (limit n : Nat) : List Char → Nat × List Char
  | [] => (n, [])
  | c :: cs =>
    if n * 10 + digitValue c < limit then gather limit (n * 10 + digitValue c) cs else (n, c :: cs)

/-- The number with 53 significant bits that is nearest, the even one of two. -/
def round53 (n : Nat) : Nat :=
  if n < Nat.pow 2 53 then n
  else
    let k := n.log2 - 52
    let q := n / Nat.pow 2 k
    let r := n % Nat.pow 2 k
    let half := Nat.pow 2 (k - 1)
    (if half < r || (r == half && q % 2 == 1) then q + 1 else q) * Nat.pow 2 k

/-- Whether n · 10^e lies above the finite numbers of double precision. Both factors are rounded
to double precision before they are multiplied, and so is their product. -/
def exceedsDouble (n : Nat) (e : Int) : Bool :=
  let limit := Nat.pow 2 1024 - Nat.pow 2 970
  n != 0 && (308 < e || (0 ≤ e && limit ≤ round53 n * round53 (Nat.pow 10 e.toNat)))

/-- The value of a number, or how many of its digits are behind the one with which it became too
large. Digits that do not fit 64 bits only shift the decimal point. -/
def Literal.value (lit : Literal) : Except Nat Value :=
  let (n, surplus) := gather UInt64.size 0 lit.whole
  if lit.plain && surplus.isEmpty && !lit.negative then .ok (.natural n)
  else
    let (m, dropped) := gather UInt64.size n lit.fraction
    let shift : Int := surplus.length - (lit.fraction.length - dropped.length)
    match lit.exponent with
    | none => if exceedsDouble m shift then .error 0 else .ok (.number lit.render)
    | some (negative, ds) =>
      let (x, unread) := gather 2147483648 0 ds
      if unread.isEmpty then
        if exceedsDouble m (if negative then shift - x else shift + x) then .error 0
        else .ok (.number lit.render)
      else if m != 0 && !negative then .error (unread.length - 1)
      else .ok (.number lit.render)

end ToggleSync.Json
