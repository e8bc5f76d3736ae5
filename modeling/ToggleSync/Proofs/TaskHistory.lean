-- What happens to one task from when it is set up. Its steps are any order of calls, of moves of
-- loops and of time that passes, and each leaves what it does to the task in a history. A run may
-- end whenever it likes: it need not heed that it is cancelled, nor take the time it said.
import ToggleSync.Proofs.Moves

namespace ToggleSync

def Phase.isRunning {P : Type} : Phase P → Bool
  | .running _ _ _ => true
  | _ => false

/-- Something that happens to a task. Its loops go by their numbers. -/
inductive TaskEvent
  /-- A call to start it, and the loop that came of it, if one did. -/
  | started (loop : Option Nat)
  /-- A call to stop it. -/
  | stopped
  /-- Its token is cancelled. -/
  | cancelled
  /-- All tasks are shut down. -/
  | closed
  /-- A loop need not wait any longer for the loop before it, and goes on. -/
  | tookOver (loop : Nat)
  /-- A loop begins a run. -/
  | began (loop : Nat)
  | ended (loop : Nat)
  /-- A loop is at its end. -/
  | left (loop : Nat)

/-- What has happened to a task, and when. What came last stands first. -/
abbrev TaskHistory := List (Nat × TaskEvent)

namespace TaskHistory

/-- Events of one moment, in their order. -/
def record (h : TaskHistory) (now : Nat) (events : List TaskEvent) : TaskHistory :=
  events.foldl (fun h e => (now, e) :: h) h

def Has (h : TaskHistory) (e : TaskEvent) : Prop := ∃ t, (t, e) ∈ h

/-- The loops whose run has begun and not ended. -/
def underWay : TaskHistory → List Nat
  | [] => []
  | (_, .began i) :: past => i :: underWay past
  | (_, .ended i) :: past => (underWay past).filter (· ≠ i)
  | _ :: past => underWay past

/-- Whether the last call that started or stopped the task was one that started it. -/
def isStarted : TaskHistory → Bool
  | [] => false
  | (_, .started _) :: _ => true
  | (_, .stopped) :: _ => false
  | _ :: past => isStarted past

/-- The calls that started the task, each with the loop that came of it. -/
def starts (h : TaskHistory) : List (Option Nat) :=
  h.filterMap fun e => match e.2 with
    | .started i => some i
    | _ => none

/-- The loops that came of starts. -/
def loops (h : TaskHistory) : List Nat := h.starts.filterMap id

/-- The loops that began runs, once for each run. -/
def runs (h : TaskHistory) : List Nat :=
  h.filterMap fun e => match e.2 with
    | .began i => some i
    | _ => none

end TaskHistory

/-! ## What a step means for the task -/

namespace TaskEvent

variable {P : Type}

/-- The loop that an event is about, if it is not a call. -/
def loop? : TaskEvent → Option Nat
  | .tookOver i => some i
  | .began i => some i
  | .ended i => some i
  | .left i => some i
  | _ => none

/-- What it means that a run leaves a loop in a phase. -/
def ofRun (i : Nat) : Phase P → List TaskEvent
  | .running _ _ _ => []
  | .ended => [.ended i, .left i]
  | _ => [.ended i]

/-- What a move of a loop means, by its phases before and after. -/
def ofMove (i : Nat) (before after : Phase P) : Move → List TaskEvent
  | .rest _ => [.tookOver i]
  | .begin =>
    match before with
    | .queued => .tookOver i :: .began i :: ofRun i after
    | _ => .began i :: ofRun i after
  | .finish _ => ofRun i after
  | .leave => [.left i]

/-- What it means that a loop is given up. -/
def ofGivingUp (i : Nat) : Phase P → List TaskEvent
  | .running _ _ _ => [.ended i, .left i]
  | .ended => []
  | _ => [.left i]

end TaskEvent

/-- The loop that a call has added. -/
def Tasks.added? {J P : Type} (before after : Tasks J P) : Option Nat :=
  if before.loops.length < after.loops.length then some before.loops.length else none

namespace Clockwork

variable {σ J P : Type}

/-- What it means for a task that loop `i`, which was `l`, has made a move. -/
def told (name : String) (i : Nat) (l : Loop J P) (m : Move) (c : Clockwork σ J P) :
    List TaskEvent :=
  if l.task.name = name then
    (c.tasks.loops[i]?).elim [] fun l' => TaskEvent.ofMove i l.phase l'.phase m
  else []

/-- A step, and what it means for the task. -/
inductive Step (b : Behaviour σ J P) (task : TaskSpec J) (token : String) :
    Clockwork σ J P → List TaskEvent → Clockwork σ J P → Prop
  | move {c : Clockwork σ J P} {i : Nat} {l : Loop J P} {m : Move} : c.CanMove i l m →
      Step b task token c (told task.name i l m (c.move b i m)) (c.move b i m)
  /-- A run ends earlier or later than it said, and whether or not it is cancelled. -/
  | finish {c : Clockwork σ J P} {i : Nat} {l : Loop J P} {due : Nat} {stubborn : Bool}
      {pending : P} (cancelled : Bool) :
      c.tasks.loops[i]? = some l → l.phase = .running due stubborn pending →
      Step b task token c
        (told task.name i l (.finish cancelled) (c.finishRun b i l cancelled))
        (c.finishRun b i l cancelled)
  | pass {c : Clockwork σ J P} {now : Nat} : c.now ≤ now → Step b task token c [] { c with now }
  /-- Anything else changes what the jobs work on. -/
  | work (c : Clockwork σ J P) (state : σ) : Step b task token c [] { c with state }
  | start {c c' : Clockwork σ J P} {name : String} : c.startTask name = .ok c' →
      Step b task token c
        (if name = task.name then [.started (c.tasks.added? c'.tasks)] else []) c'
  | stop {c c' : Clockwork σ J P} {name : String} : c.stopTask name = .ok c' →
      Step b task token c (if name = task.name then [.stopped] else []) c'
  | cancel (c : Clockwork σ J P) (other : String) :
      Step b task token c (if other = token then [.cancelled] else []) (c.cancel other)
  /-- Another task is set up. -/
  | configure (c : Clockwork σ J P) {other : TaskSpec J} (otherToken : String) (start : Bool) :
      other.name ≠ task.name → Step b task token c [] (c.configure other otherToken start)
  /-- A shutdown begins. -/
  | close (c : Clockwork σ J P) : Step b task token c [.closed] { c with tasks := c.tasks.close }
  /-- A shutdown does not wait any longer for the end of a loop. -/
  | giveUp {c : Clockwork σ J P} {i : Nat} {l : Loop J P} : c.tasks.shutDown = true →
      c.tasks.loops[i]? = some l →
      Step b task token c
        (if l.task.name = task.name then TaskEvent.ofGivingUp i l.phase else [])
        { c with tasks := c.tasks.setPhase i .ended }

/-- There was no task of this name. -/
structure Unknown (c : Clockwork σ J P) (name : String) : Prop where
  slot : c.tasks.slot? name = none
  loops : ∀ l ∈ c.tasks.loops, l.task.name ≠ name

/-- What ends the task and was there before it. -/
def already (c : Clockwork σ J P) (token : String) : List TaskEvent :=
  (if c.isCancelled token then [.cancelled] else []) ++
    if c.tasks.shutDown then [.closed] else []

/-- A task that was set up once, and some steps after that, with all that has happened to it. -/
inductive Reached (b : Behaviour σ J P) (task : TaskSpec J) (token : String) :
    Clockwork σ J P → TaskHistory → Prop
  | configured {c : Clockwork σ J P} : c.Unknown task.name →
      Reached b task token (c.configure task token false)
        (TaskHistory.record [] c.now (c.already token))
  | step {c c' : Clockwork σ J P} {h : TaskHistory} {events : List TaskEvent} :
      Reached b task token c h → Step b task token c events c' →
      Reached b task token c' (h.record c.now events)

/-! ## Whole operations -/

variable {b : Behaviour σ J P} {task : TaskSpec J} {token : String} {c : Clockwork σ J P}
  {Q : Clockwork σ J P → Prop}

/-- Something that every step keeps. -/
structure Steady (b : Behaviour σ J P) (task : TaskSpec J) (token : String)
    (Q : Clockwork σ J P → Prop) : Prop where
  step : ∀ {c c' : Clockwork σ J P} {events : List TaskEvent}, Q c →
    Step b task token c events c' → Q c'

theorem Steady.stable (h : Steady b task token Q) : Stable b Q where
  move hc hm := h.step hc (.move hm)
  pass hc ht := h.step hc (.pass ht)

/-- Setting the task up and starting it at once is setting it up, and then starting it. -/
theorem Steady.configure (h : Steady b task token Q) (hc : Q (c.configure task token false))
    (start : Bool) : Q (c.configure task token start) := by
  cases start with
  | false => exact hc
  | true =>
    unfold Clockwork.configure Tasks.configureAndStart
    simp only [if_true]
    split
    · rename_i t hstart
      apply h.step hc (.start _)
      · exact task.name
      · simp only [startTask]
        exact congrArg _ hstart
    · exact hc

/-- It holds, and all tasks are being shut down. -/
def IsClosing (Q : Clockwork σ J P → Prop) (c : Clockwork σ J P) : Prop :=
  Q c ∧ c.tasks.shutDown = true

theorem Steady.closing (h : Steady b task token Q) : Stable b (IsClosing Q) where
  move hc hm := by
    obtain ⟨⟨phase, ht⟩, _⟩ := hm.tasks b
    refine ⟨h.step hc.1 (.move hm), ?_⟩
    rw [ht]
    exact hc.2
  pass hc ht := ⟨h.step hc.1 (.pass ht), hc.2⟩

theorem Steady.awaitEnd (h : Steady b task token Q) {acc : Clockwork σ J P × Option String}
    (hacc : IsClosing Q acc.1) (timeout : Nat) (run : String × Nat) :
    IsClosing Q (Clockwork.awaitEnd b timeout acc run).1 := by
  have hwait := h.closing.waitUntil (·.tasks.hasEnded run.2) timeout hacc
  unfold Clockwork.awaitEnd
  generalize acc.1.waitUntil b (·.tasks.hasEnded run.2) timeout = c at hwait ⊢
  simp only
  cases hend : c.tasks.hasEnded run.2 with
  | true => exact hwait
  | false =>
    cases hl : c.tasks.loops[run.2]? with
    | none => simp [Tasks.hasEnded, hl] at hend
    | some l => exact ⟨h.step hwait.1 (.giveUp hwait.2 hl), hwait.2⟩

/-- A shutdown is nothing but steps. -/
theorem Steady.shutdown (h : Steady b task token Q) (hc : Q c) (timeout : Nat) :
    Q (c.shutdown b timeout).1 := by
  have hall : ∀ (runs : List (String × Nat)) (acc : Clockwork σ J P × Option String),
      IsClosing Q acc.1 → IsClosing Q (runs.foldl (Clockwork.awaitEnd b timeout) acc).1 := by
    intro runs
    induction runs with
    | nil => exact fun _ hacc => hacc
    | cons run runs ih => exact fun _ hacc => ih _ (h.awaitEnd hacc timeout run)
  unfold Clockwork.shutdown
  split
  · exact hc
  · have hclosed := hall c.tasks.runs ({ c with tasks := c.tasks.close }, none)
      ⟨h.step hc (.close c), rfl⟩
    simp only
    split
    · rename_i hfold
      rw [hfold] at hclosed
      exact hclosed.1
    · rename_i hfold
      rw [hfold] at hclosed
      exact hclosed.1

/-! ## Calls -/

/-- What can be asked of tasks, and time that is let pass. -/
inductive Call (J : Type)
  | configure (task : TaskSpec J) (token : String) (start : Bool)
  | start (name : String)
  | stop (name : String)
  | cancel (token : String)
  | advance (ticks : Nat)
  | shutdown (timeout : Nat)

/-- A call that fails changes nothing. -/
def call (b : Behaviour σ J P) (c : Clockwork σ J P) : Call J → Clockwork σ J P
  | .configure task token start => c.configure task token start
  | .start name =>
    match c.startTask name with
    | .ok c' => c'
    | .error _ => c
  | .stop name =>
    match c.stopTask name with
    | .ok c' => c'
    | .error _ => c
  | .cancel token => c.cancel token
  | .advance ticks => c.advance b ticks
  | .shutdown timeout => (c.shutdown b timeout).1

theorem Steady.call (h : Steady b task token Q) (hc : Q c) (x : Call J)
    (hx : ∀ other otherToken start, x = .configure other otherToken start →
      other.name ≠ task.name) : Q (c.call b x) := by
  cases x with
  | configure other otherToken start => exact h.step hc (.configure c _ _ (hx _ _ _ rfl))
  | start name =>
    simp only [Clockwork.call]
    split
    · rename_i hs
      exact h.step hc (.start hs)
    · exact hc
  | stop name =>
    simp only [Clockwork.call]
    split
    · rename_i hs
      exact h.step hc (.stop hs)
    · exact hc
  | cancel other => exact h.step hc (.cancel c other)
  | advance ticks => exact h.stable.advance ticks hc
  | shutdown timeout => exact h.shutdown hc timeout

/-- Reached with whatever history. -/
def IsReached (b : Behaviour σ J P) (task : TaskSpec J) (token : String)
    (c : Clockwork σ J P) : Prop :=
  ∃ h, Reached b task token c h

theorem steady_isReached (b : Behaviour σ J P) (task : TaskSpec J) (token : String) :
    Steady b task token (IsReached b task token) where
  step := fun ⟨_, hr⟩ hs => ⟨_, hr.step hs⟩

theorem isReached_configure (b : Behaviour σ J P) (h : c.Unknown task.name) (start : Bool) :
    IsReached b task token (c.configure task token start) :=
  (steady_isReached b task token).configure ⟨_, .configured h⟩ start

/-- A task that is set up once is reached through all calls, whatever comes when. -/
theorem isReached_calls (b : Behaviour σ J P) (h : c.Unknown task.name) (start : Bool)
    (calls : List (Call J))
    (hx : ∀ other otherToken start, .configure other otherToken start ∈ calls →
      other.name ≠ task.name) :
    IsReached b task token (calls.foldl (Clockwork.call b) (c.configure task token start)) := by
  have hset : IsReached b task token (c.configure task token start) := isReached_configure b h start
  generalize c.configure task token start = c at hset ⊢
  induction calls generalizing c with
  | nil => exact hset
  | cons x calls ih =>
    apply ih
    · exact fun other otherToken start hm => hx other otherToken start (List.mem_cons_of_mem _ hm)
    · apply (steady_isReached b task token).call hset x
      rintro other otherToken start rfl
      exact hx other otherToken start List.mem_cons_self

end Clockwork

end ToggleSync
