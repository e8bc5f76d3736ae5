-- Named background tasks. A task that is started gets a loop, which runs it, rests, and runs it
-- again. A loop that is stopped ends as soon as its run lets it. A task that is started again
-- while its last loop has not ended gets a new loop, and the new loop waits for the last one.
--
-- Time is a count of ticks. What a task does is left open: `J` names it, and `P` is what it
-- remembers while one of its runs waits for something.
import ToggleSync.Failure

namespace ToggleSync

structure TaskSpec (J : Type) where
  name : String
  /-- The ticks from the end of a run to the next one. A task without interval runs once. -/
  interval : Nat
  /-- Runs as soon as it is started, and not only after an interval. -/
  eager : Bool
  job : J

/-- What a run waits for: so many ticks. A stubborn run waits them out when it is stopped. -/
structure Wait (P : Type) where
  ticks : Nat
  stubborn : Bool
  pending : P

inductive Phase (P : Type)
  /-- Not begun, or waiting for the loop before it. -/
  | queued
  | resting (due : Nat)
  | running (due : Nat) (stubborn : Bool) (pending : P)
  | ended

def Phase.isEnded {P : Type} : Phase P → Bool
  | .ended => true
  | _ => false

/-- Loops are known by their number, counted from the first one that was ever started. -/
structure Loop (J P : Type) where
  task : TaskSpec J
  /-- The name of the token that stops the loop along with others. -/
  token : String
  stopped : Bool
  /-- The loop of the same task that has to end first. -/
  previous : Option Nat
  phase : Phase P

structure Slot (J : Type) where
  task : TaskSpec J
  token : String
  /-- The last loop of the task. -/
  run : Option Nat

/-! ## Loops -/

/-- Whether a loop is stopped, by itself or by its token. -/
def Loop.isStopped {J P : Type} (l : Loop J P) (cancelled : List String) : Bool :=
  l.stopped || cancelled.contains l.token

inductive Move
  | rest (due : Nat)
  | begin
  | finish (cancelled : Bool)
  | leave
  deriving DecidableEq, Repr

/-- What a loop can do without time passing. -/
def Loop.move? {J P : Type} (l : Loop J P) (cancelled : List String) (previousEnded : Bool)
    (now : Nat) : Option Move :=
  let stopped := l.isStopped cancelled
  match l.phase with
  | .queued =>
    if !previousEnded then none
    else if stopped then some .leave
    else if l.task.interval ≠ 0 && !l.task.eager then some (.rest (now + l.task.interval))
    else some .begin
  | .resting due =>
    if stopped then some .leave else if due ≤ now then some .begin else none
  | .running due stubborn _ =>
    if stopped && !stubborn then some (.finish true)
    else if due ≤ now then some (.finish false)
    else none
  | .ended => none

/-- Where a loop is after a run. -/
def TaskSpec.afterRun {J : Type} (P : Type) (task : TaskSpec J) (now : Nat) : Phase P :=
  if task.interval = 0 then .ended else .resting (now + task.interval)

def Phase.due? {P : Type} : Phase P → Option Nat
  | .resting due => some due
  | .running due _ _ => some due
  | _ => none

structure Tasks (J P : Type) where
  slots : List (Slot J)
  loops : List (Loop J P)
  shutDown : Bool

namespace Tasks

variable {J P : Type}

def empty : Tasks J P := ⟨[], [], false⟩

instance : Inhabited (Tasks J P) := ⟨empty⟩

def names (t : Tasks J P) : List String := t.slots.map (·.task.name)

def slot? (t : Tasks J P) (name : String) : Option (Slot J) := t.slots.find? (·.task.name == name)

def hasEnded (t : Tasks J P) (i : Nat) : Bool := ((t.loops[i]?).map (·.phase.isEnded)).getD true

/-! ## Stopping -/

def stopLoop (t : Tasks J P) (i : Nat) : Tasks J P :=
  { t with loops := t.loops.modify i fun l => { l with stopped := true } }

def setPhase (t : Tasks J P) (i : Nat) (phase : Phase P) : Tasks J P :=
  { t with loops := t.loops.modify i fun l => { l with phase } }

/-- A loop that is neither stopped nor at its end. -/
def isLive (t : Tasks J P) (cancelled : List String) (i : Nat) : Bool :=
  match t.loops[i]? with
  | some l => !l.isStopped cancelled && !l.phase.isEnded
  | none => false

def isRunning (t : Tasks J P) (cancelled : List String) (name : String) : Bool :=
  (((t.slot? name).bind (·.run)).map (t.isLive cancelled)).getD false

/-! ## Operations -/

def setRun (t : Tasks J P) (name : String) (run : Option Nat) : Tasks J P :=
  { t with slots := t.slots.map fun s => if s.task.name == name then { s with run } else s }

/-- Starts the loop of a task, unless it is live. -/
def start (t : Tasks J P) (cancelled : List String) (name : String) :
    Except Failure (Tasks J P) :=
  if t.shutDown then .error .clientClosed
  else
    match t.slot? name with
    | none => .error (.unknownTask name)
    | some s =>
      if (s.run.map (t.isLive cancelled)).getD false then .ok t
      else
        let l : Loop J P := ⟨s.task, s.token, false, s.run, .queued⟩
        .ok { (t.setRun name (some t.loops.length)) with loops := t.loops ++ [l] }

def stop (t : Tasks J P) (name : String) : Except Failure (Tasks J P) :=
  match t.slot? name with
  | none => .error (.unknownTask name)
  | some s => .ok ((s.run.map t.stopLoop).getD t)

def putSlot (s : Slot J) : List (Slot J) → List (Slot J)
  | [] => [s]
  | x :: xs => if x.task.name == s.task.name then s :: xs else x :: putSlot s xs

/-- Puts a task in the place of the one with its name. The loop of that one is stopped, and
the new task does not know it. -/
def configure (t : Tasks J P) (task : TaskSpec J) (token : String) : Tasks J P :=
  let t' := match (t.slot? task.name).bind (·.run) with
    | some i => t.stopLoop i
    | none => t
  { t' with slots := putSlot ⟨task, token, none⟩ t'.slots }

/-- Puts a task in its place and starts it. A task that cannot be started stays where it is. -/
def configureAndStart (t : Tasks J P) (cancelled : List String) (task : TaskSpec J)
    (token : String) : Tasks J P :=
  let t := t.configure task token
  match t.start cancelled task.name with
  | .ok t => t
  | .error _ => t

/-- The tasks with a loop, and the loops. -/
def runs (t : Tasks J P) : List (String × Nat) :=
  t.slots.filterMap fun s => s.run.map (s.task.name, ·)

/-- Stops every loop for good. -/
def close (t : Tasks J P) : Tasks J P :=
  let t' := t.runs.foldl (fun t r => t.stopLoop r.2) t
  { t' with slots := t'.slots.map fun s => { s with run := none }, shutDown := true }

/-! ## What comes next -/

/-- The first loop that can do something, and what. -/
def next? (t : Tasks J P) (cancelled : List String) (now : Nat) : Option (Nat × Move) :=
  (t.loops.zipIdx).findSome? fun (l, i) =>
    (l.move? cancelled ((l.previous.map t.hasEnded).getD true) now).map (i, ·)

/-- The next time at which a loop can do something by itself. -/
def due? (t : Tasks J P) : Option Nat := (t.loops.filterMap (·.phase.due?)).min?

end Tasks

end ToggleSync
