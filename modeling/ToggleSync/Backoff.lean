-- How long a client waits before it connects to a stream again.
import ToggleSync.Span

namespace ToggleSync

structure Backoff where
  base : Span
  max : Span
  /-- The number of failed attempts in a row to give up after; 0 for never. -/
  attempts : Nat
  /-- Doubles the wait with each failure. -/
  exponential : Bool
  deriving DecidableEq, Repr

namespace Backoff

def standard : Backoff := ⟨.ofSeconds 1, .ofSeconds 30, 0, true⟩

/-- The wait after so many failures in a row. It stops growing with the tenth. -/
def delay (b : Backoff) (failures : Nat) : Span :=
  if b.exponential then
    let grown := Nat.min (b.base.wordMillis * Nat.pow 2 (Nat.min failures 10)) (UInt64.size - 1)
    .ofMillis (Nat.min grown b.max.wordMillis)
  else b.base

end Backoff

end ToggleSync
