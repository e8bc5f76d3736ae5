-- Drills: tasks whose runs take set times, to see how tasks are run.
import ToggleSync.Clockwork
import ToggleSync.Span

namespace ToggleSync.Drill

structure Run where
  ticks : Nat
  stubborn : Bool
  deriving DecidableEq, Repr, Inhabited

/-- A run that takes no time. -/
def Run.instant : Run := ⟨0, false⟩

structure Exercise where
  /-- Tells this exercise from all others. -/
  serial : Nat
  id : String
  /-- The first runs, and the one that is taken when they are used up. -/
  runs : List Run
  rest : Run

inductive Mark
  | start
  | finish
  | cancelled
  deriving DecidableEq, Repr

structure Record where
  id : String
  mark : Mark
  time : Nat
  deriving DecidableEq, Repr

structure State where
  /-- The exercises of all runs so far. -/
  begun : List Nat
  records : List Record

def State.note (s : State) (id : String) (mark : Mark) (time : Nat) : State :=
  { s with records := s.records ++ [⟨id, mark, time⟩] }

/-- The run that comes next for an exercise. -/
def State.nextRun (s : State) (x : Exercise) : Run := x.runs.getD (s.begun.count x.serial) x.rest

def behaviour : Behaviour State Exercise String where
  begin now s x :=
    let run := s.nextRun x
    let s := { s.note x.id .start now with begun := x.serial :: s.begun }
    if run.ticks = 0 then (s.note x.id .finish now, none)
    else (s, some ⟨run.ticks, run.stubborn, x.id⟩)
  finish now s id cancelled := s.note id (if cancelled then .cancelled else .finish) now

abbrev Ground := Clockwork State Exercise String

def Ground.new : Ground := Clockwork.new ⟨[], []⟩

end ToggleSync.Drill
