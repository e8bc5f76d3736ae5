-- When a client gives up on streaming. Some failures decide at once; others count, and decide
-- when enough of them lie within a window of time.
import ToggleSync.Failure
import ToggleSync.Instant
import ToggleSync.Span

namespace ToggleSync

def Instant.toNanos (i : Instant) : Int := i.second * 1000000000 + i.nano

/-- The point in time a span earlier, whether or not it is one that an instant can lie in. It may
still be within the leap second of the later one; before that no leap seconds are counted. -/
def Instant.back (i : Instant) (s : Span) : Instant :=
  let n := i.toNanos - s.nanos
  if 1000000000 + s.nanos ≤ i.nano then ⟨i.second, i.nano - s.nanos⟩
  else ⟨n / 1000000000, (n % 1000000000).toNat⟩

/-- The point in time a span earlier, where there is one. -/
def Instant.earlier? (i : Instant) (s : Span) : Option Instant :=
  if s.nanos ≤ (UInt64.size / 2 - 1) * 1000000 && (i.back s).inRange then some (i.back s) else none

namespace Failover

inductive Kind
  | network (message : String)
  | status (code : Nat) (message : String)
  | hint (text : String)
  deriving DecidableEq, Repr

structure Incident where
  kind : Kind
  time : Instant
  deriving DecidableEq, Repr

def Kind.ofFailure (f : Failure) : Kind :=
  match f.status? with
  | some code => .status code f.message
  | none => .network f.message

/-! ## Rules -/

structure Rules where
  maxFailures : Nat
  window : Span
  deriving DecidableEq, Repr

def Rules.standard : Rules := ⟨5, .ofSeconds 60⟩

def hardStatuses : List Nat := [401, 403, 404, 429, 501]

def softStatuses : List Nat := [408, 500, 502, 503, 504]

def pollingHint : String := "polling"

/-- What an incident does: decides at once, or counts. -/
inductive Verdict
  | decided (failOver : Bool)
  | counted
  deriving DecidableEq, Repr

def Kind.verdict : Kind → Verdict
  | .network _ => .counted
  | .status code _ =>
    if hardStatuses.contains code then .decided true
    else if softStatuses.contains code then .counted
    else .decided false
  | .hint text => .decided (text == pollingHint)

/-- Orders two points in time, leap seconds included. -/
def notBefore (a b : Instant) : Bool :=
  b.second < a.second || (a.second == b.second && b.nano ≤ a.nano)

/-- The incidents that still count. A window without beginning keeps all. -/
def Rules.retain (rules : Rules) (now : Instant) (past : List Incident) : List Incident :=
  match now.earlier? rules.window with
  | some cutoff => past.filter (notBefore ·.time cutoff)
  | none => past

/-- Takes an incident at the time `now`; says whether to give up, and what counts from then on. -/
def Rules.step (rules : Rules) (past : List Incident) (incident : Incident) (now : Instant) :
    Bool × List Incident :=
  match incident.kind.verdict with
  | .decided failOver => (failOver, past)
  | .counted =>
    let counted := rules.retain now past ++ [incident]
    (rules.maxFailures ≤ counted.length, counted)

end Failover

end ToggleSync
