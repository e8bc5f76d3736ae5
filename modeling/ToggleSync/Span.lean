-- Lengths of time, in whole nanoseconds.

namespace ToggleSync

structure Span where
  nanos : Nat
  deriving DecidableEq, Repr, Inhabited

namespace Span

def ofMillis (n : Nat) : Span := ⟨n * 1000000⟩

def ofSeconds (n : Nat) : Span := ⟨n * 1000000000⟩

def zero : Span := ⟨0⟩

def isZero (s : Span) : Bool := s.nanos == 0

/-- The whole milliseconds of a span. -/
def millis (s : Span) : Nat := s.nanos / 1000000

/-- The whole milliseconds of a span, of which 64 bits are kept. -/
def wordMillis (s : Span) : Nat := s.millis % UInt64.size

/-- The seconds that a clock counts to. -/
def clockReach : Span := .ofSeconds (UInt64.size / 2 - 1)

/-- What is waited in the place of a span that no clock counts to the end of: thirty years. -/
def farFuture : Span := .ofSeconds (30 * 365 * 24 * 60 * 60)

/-- The milliseconds that a clock which ticks in milliseconds lets pass for a span: a started one
counts. -/
def ticks (s : Span) : Nat :=
  ((if clockReach.nanos ≤ s.nanos then farFuture else s).nanos + 999999) / 1000000

def min (a b : Span) : Span := if a.nanos ≤ b.nanos then a else b

end Span

end ToggleSync
