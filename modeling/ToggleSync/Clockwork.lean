-- Background tasks and what they work on, under one clock. The clock stands still while anything
-- can be done without it, and moves only to where something is due.
import ToggleSync.Tasks

namespace ToggleSync

/-- What the jobs of tasks do to the state they work on: at the beginning of a run, up to the
first thing that takes time, and after it. A run that was cancelled gets no result. -/
structure Behaviour (σ J P : Type) where
  begin : Nat → σ → J → σ × Option (Wait P)
  finish : Nat → σ → P → Bool → σ

structure Clockwork (σ J P : Type) where
  now : Nat
  /-- The tokens that are cancelled. -/
  cancelled : List String
  tasks : Tasks J P
  state : σ

namespace Clockwork

variable {σ J P : Type}

def new (state : σ) : Clockwork σ J P := ⟨0, [], .empty, state⟩

def cancel (c : Clockwork σ J P) (token : String) : Clockwork σ J P :=
  { c with cancelled := token :: c.cancelled }

def isCancelled (c : Clockwork σ J P) (token : String) : Bool := c.cancelled.contains token

def isRunning (c : Clockwork σ J P) (name : String) : Bool := c.tasks.isRunning c.cancelled name

/-! ## Moves -/

/-- Lets a loop begin a run. -/
def beginRun (b : Behaviour σ J P) (c : Clockwork σ J P) (i : Nat) (l : Loop J P) :
    Clockwork σ J P :=
  let (state, wait) := b.begin c.now c.state l.task.job
  let phase := match wait with
    | none => l.task.afterRun P c.now
    | some w => .running (c.now + w.ticks) w.stubborn w.pending
  { c with state, tasks := c.tasks.setPhase i phase }

/-- Lets a loop end its run. -/
def finishRun (b : Behaviour σ J P) (c : Clockwork σ J P) (i : Nat) (l : Loop J P)
    (cancelled : Bool) : Clockwork σ J P :=
  match l.phase with
  | .running _ _ pending =>
    { c with
      state := b.finish c.now c.state pending cancelled
      tasks := c.tasks.setPhase i (l.task.afterRun P c.now) }
  | _ => c

def move (b : Behaviour σ J P) (c : Clockwork σ J P) (i : Nat) (m : Move) :
    Clockwork σ J P :=
  match c.tasks.loops[i]? with
  | none => c
  | some l =>
    match m with
    | .rest due => { c with tasks := c.tasks.setPhase i (.resting due) }
    | .begin => c.beginRun b i l
    | .finish cancelled => c.finishRun b i l cancelled
    | .leave => { c with tasks := c.tasks.setPhase i .ended }

def settleWithin (b : Behaviour σ J P) : Nat → Clockwork σ J P → Clockwork σ J P
  | 0, c => c
  | n + 1, c =>
    match c.tasks.next? c.cancelled c.now with
    | none => c
    | some (i, m) => settleWithin b n (c.move b i m)

/-- Lets every loop do what it can without time passing. Each has at most four moves to make
until it rests or ends. -/
def settle (b : Behaviour σ J P) (c : Clockwork σ J P) : Clockwork σ J P :=
  settleWithin b (4 * c.tasks.loops.length) c

/-! ## Waiting -/

/-- Goes from one due time to the next until something is so, or the deadline is reached. Each
turn moves the clock by at least a tick. -/
def runWithin (b : Behaviour σ J P) (done : Clockwork σ J P → Bool) (deadline : Nat) :
    Nat → Clockwork σ J P → Clockwork σ J P
  | 0, c => { c with now := max c.now deadline }
  | n + 1, c =>
    let c := c.settle b
    if done c then c
    else
      match c.tasks.due? with
      | some due =>
        if due ≤ deadline then runWithin b done deadline n { c with now := max c.now due }
        else { c with now := max c.now deadline }
      | none => { c with now := max c.now deadline }

/-- Waits until something is so, for at most so many ticks. A wait of no ticks only looks. -/
def waitUntil (b : Behaviour σ J P) (done : Clockwork σ J P → Bool) (ticks : Nat)
    (c : Clockwork σ J P) : Clockwork σ J P :=
  if done c || ticks = 0 then c else runWithin b done (c.now + ticks) (ticks + 1) c

/-- Lets time pass. -/
def advance (b : Behaviour σ J P) (ticks : Nat) (c : Clockwork σ J P) : Clockwork σ J P :=
  (waitUntil b (fun _ => false) ticks c).settle b

/-! ## The task manager -/

def startTask (c : Clockwork σ J P) (name : String) : Except Failure (Clockwork σ J P) :=
  (c.tasks.start c.cancelled name).map fun tasks => { c with tasks }

def stopTask (c : Clockwork σ J P) (name : String) : Except Failure (Clockwork σ J P) :=
  (c.tasks.stop name).map fun tasks => { c with tasks }

def configure (c : Clockwork σ J P) (task : TaskSpec J) (token : String) (start : Bool) :
    Clockwork σ J P :=
  { c with
    tasks := if start then c.tasks.configureAndStart c.cancelled task token
      else c.tasks.configure task token }

/-- Waits for the end of a loop. One that does not end in time is given up, and the first of
those is kept. -/
def awaitEnd (b : Behaviour σ J P) (timeout : Nat)
    (acc : Clockwork σ J P × Option String) (run : String × Nat) :
    Clockwork σ J P × Option String :=
  let c := acc.1.waitUntil b (·.tasks.hasEnded run.2) timeout
  if c.tasks.hasEnded run.2 then (c, acc.2)
  else ({ c with tasks := c.tasks.setPhase run.2 .ended }, acc.2.or (some run.1))

/-- Ends all tasks for good. A second time there is nothing to do. -/
def shutdown (b : Behaviour σ J P) (timeout : Nat) (c : Clockwork σ J P) :
    Clockwork σ J P × Except Failure Unit :=
  if c.tasks.shutDown then (c, .ok ())
  else
    let runs := c.tasks.runs
    let closed := { c with tasks := c.tasks.close }
    match runs.foldl (awaitEnd b timeout) (closed, none) with
    | (c, none) => (c, .ok ())
    | (c, some name) => (c, .error (.taskShutdownTimeout name))

end Clockwork

end ToggleSync
