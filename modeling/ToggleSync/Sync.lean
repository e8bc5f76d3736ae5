-- The parts of a client that keep its toggles up to date, and what they do to each other.
import ToggleSync.Clockwork
import ToggleSync.Identity
import ToggleSync.Ready
import ToggleSync.Streaming

namespace ToggleSync

/-- Something that happened in a client and can be seen from outside. -/
inductive Entry
  | notice (n : Notice)
  | announced
  | asked (q : Polling.Question)
  | streamStarted (refused : Bool)
  | streamStopped (wasOpen : Bool)
  | registered (r : Registration)
  | reported (m : Metrics)
  | saved (b : Backup)
  | read (slot : Backup.Slot)
  | wrote (slot : Backup.Slot) (text : String)

/-- Where backups go. -/
inductive Keeping
  | nowhere
  | files (store : Backup.Store) (disk : Backup.Disk)

structure Sync where
  engine : Engine
  polling : Polling
  streaming : Streaming
  ready : Ready
  backend : Backend
  keeping : Keeping
  /-- A failure of the first question is one of the start. -/
  mustSucceedFirst : Bool
  rules : Failover.Rules
  /-- The mode changes that were asked for and not made yet. -/
  requests : List Mode
  /-- Whether anyone takes requests. -/
  listening : Bool
  /-- The time of the calendar. The clock of the tasks does not move it. -/
  calendar : Instant
  log : List (Nat × Entry)

namespace Sync

def new (backend : Backend) (tag : Option String) (mustSucceedFirst : Bool)
    (rules : Failover.Rules) (keeping : Keeping) : Sync where
  engine := .new .epoch
  polling := .new tag
  streaming := .new
  ready := .new
  backend
  keeping
  mustSucceedFirst
  rules
  requests := []
  listening := true
  calendar := .epoch
  log := []

def note (s : Sync) (now : Nat) (e : Entry) : Sync := { s with log := s.log ++ [(now, e)] }

def raise (s : Sync) (now : Nat) (n : Notice) : Sync := s.note now (.notice n)

/-! ## Effects -/

def noteWrite (now : Nat) (s : Sync) (w : Backup.Slot × String) : Sync :=
  s.note now (.wrote w.1 w.2)

def save (s : Sync) (now : Nat) (b : Backup) : Sync :=
  let s := s.note now (.saved b)
  match s.keeping with
  | .nowhere => s
  | .files store disk =>
    let w := store.save disk b
    let s := { w.attempted.foldl (noteWrite now) s with keeping := .files store w.medium }
    match w.failure with
    | none => s
    | some f => s.raise now (.error .togglesBackup (.io f))

def noteRead (now : Nat) (s : Sync) (slot : Backup.Slot) : Sync := s.note now (.read slot)

/-- The backup to begin with. One that cannot be read is as good as none. -/
def loadBackup (s : Sync) (now : Nat) : Sync × Backup :=
  match s.keeping with
  | .nowhere => (s, .empty)
  | .files store disk =>
    let reading := store.load fun slot => disk.read (store.location.path slot)
    let s := reading.slots.foldl (noteRead now) s
    match reading.result with
    | .ok b => (s, b)
    | .error f => (s.raise now (.error .fileCache (.io f)), .empty)

def fireReady (s : Sync) (now : Nat) : Sync :=
  if s.ready.canFire then { s with ready := s.ready.fire }.raise now .ready else s

def request (s : Sync) (mode : Mode) : Sync :=
  if s.listening then { s with requests := s.requests ++ [mode] } else s

def perform (now : Nat) (s : Sync) : Effect → Sync
  | .notice n => s.raise now n
  | .save b => s.save now b
  | .announce => (s.note now .announced).fireReady now
  | .request mode => s.request mode

/-! ## Asking the server -/

/-- Sends the question of a cycle, and finds out what comes back for it. -/
def ask (s : Sync) (now : Nat) : Sync × Polling.Question × Answer :=
  let q := s.polling.ask s.mustSucceedFirst
  let (answer, backend) := s.backend.next
  ({ s with backend }.note now (.asked q), q, answer)

/-- What a cycle hears of an outcome. -/
def hear (s : Sync) (now : Nat) (q : Polling.Question) (outcome : Except Failure Fetched) :
    Sync × Except Failure Fetched :=
  if s.backend.overHttp then
    match hearFetched q.mustSucceed outcome with
    | (heard, some f) => (s.raise now (.error .client f), heard)
    | (heard, none) => (s, heard)
  else (s, outcome)

def conclude (s : Sync) (now : Nat) (q : Polling.Question) (outcome : Except Failure Fetched) :
    Sync × Except Failure Unit :=
  let (s, outcome) := s.hear now q outcome
  let c := s.polling.conclude s.engine q outcome
  (c.effects.foldl (perform now) { s with polling := c.polling, engine := c.engine }, c.result)

/-! ## The stream -/

def startStream (s : Sync) (now : Nat) : Sync × Except Failure Unit :=
  match s.backend.startFailure with
  | some f =>
    let s := (s.note now (.streamStarted true)).raise now (.error .client f)
    ({ s with streaming := s.streaming.closed }, .error (.reported f))
  | none =>
    ({ s with
      streaming := { s.streaming with phase := .connecting }
      backend := { s.backend with streamOpen := true, linked := true } }.note now
        (.streamStarted false), .ok ())

def stopStream (s : Sync) (now : Nat) : Sync :=
  { s with
    streaming := s.streaming.closed
    backend := { s.backend with streamOpen := false } }.note now
      (.streamStopped s.backend.streamOpen)

def handleOpen (s : Sync) : Sync := { s with streaming := s.streaming.opened }

def handleClosed (s : Sync) : Sync := { s with streaming := s.streaming.closed }

def handleMessage (s : Sync) (now : Nat) (m : StreamMessage) : Sync × Control :=
  let r := s.streaming.message s.engine s.rules s.calendar m
  (r.effects.foldl (perform now) { s with streaming := r.streaming, engine := r.engine }, r.control)

def handleError (s : Sync) (now : Nat) (f : Failure) : Sync :=
  let (streaming, effects) := s.streaming.failed s.rules s.calendar f
  effects.foldl (perform now) { s with streaming }

end Sync

/-! ## Background tasks -/

inductive Job
  | fetch
  | register (r : Registration)
  | report (i : Identity)
  /-- Says that there are toggles. -/
  | announce

/-- What a cycle remembers while it waits for its answer. -/
structure Asked where
  question : Polling.Question
  outcome : Except Failure Fetched

namespace Sync

/-- Takes what was counted and hands it over, if anything was. -/
def report (s : Sync) (now : Nat) (i : Identity) : Sync :=
  let (usage, engine) := s.engine.takeUsage s.calendar
  let s := { s with engine }
  match usage with
  | none => s
  | some bucket => s.note now (.reported ⟨i.appName, i.instanceId, i.connectionId, bucket⟩)

def behaviour : Behaviour Sync Job Asked where
  begin now s job :=
    match job with
    | .fetch =>
      let (s, question, a) := s.ask now
      if a.ticks = 0 then ((s.conclude now question a.outcome).1, none)
      else (s, some ⟨a.ticks, a.stubborn, ⟨question, a.outcome⟩⟩)
    | .register r => (s.note now (.registered r), none)
    | .report i => (s.report now i, none)
    | .announce => (s.fireReady now, none)
  finish now s asked cancelled :=
    (s.conclude now asked.question (if cancelled then .error .cancelled else asked.outcome)).1

end Sync

/-- A client's parts with its tasks and its clock. -/
abbrev Machine := Clockwork Sync Job Asked

namespace Machine

/-- The token that ends everything a client does. -/
def clientToken : String := "client"

def fetchTask : String := "fetch-toggles"

def update (m : Machine) (f : Sync → Sync) : Machine := { m with state := f m.state }

def settled (m : Machine) : Machine := m.settle Sync.behaviour

/-! ## Polling -/

/-- Sets the fetch task up, not started yet. -/
def withPolling (m : Machine) (interval : Nat) (eager : Bool) : Machine :=
  m.configure ⟨fetchTask, interval, eager, .fetch⟩ clientToken false

/-- Runs a cycle at once, and not as part of a loop. -/
def runCycle (m : Machine) : Machine × Except Failure Unit :=
  if m.isCancelled clientToken then (m, .error .cancelled)
  else
    let (s, question, a) := m.state.ask m.now
    let m := { m with state := s }.waitUntil Sync.behaviour (fun _ => false) a.ticks
    let (s, result) := m.state.conclude m.now question a.outcome
    ({ m with state := s }, result)

/-- Starts the fetch task. A synchronous start gets the first toggles before that. -/
def startPolling (m : Machine) (synchronous : Bool) : Machine × Except Failure Unit :=
  let (m, first) := if synchronous && !m.state.polling.fetched then m.runCycle else (m, .ok ())
  match first with
  | .error f => (m, .error f)
  | .ok _ =>
    match m.startTask fetchTask with
    | .ok m => (m, .ok ())
    | .error f => (m, .error f)

def stopPolling (m : Machine) : Machine × Except Failure Unit :=
  match m.stopTask fetchTask with
  | .ok m => (m, .ok ())
  | .error f => (m, .error f)

/-! ## Streaming -/

def startStream (m : Machine) : Machine × Except Failure Unit :=
  let (s, result) := m.state.startStream m.now
  ({ m with state := s }, result)

def stopStream (m : Machine) : Machine := m.update (·.stopStream m.now)

/-- Waits until the client is ready, for at most so many ticks. -/
def awaitReady (m : Machine) (ticks : Nat) : Machine × Bool :=
  let m := m.waitUntil Sync.behaviour (·.state.ready.fired) ticks
  (m, m.state.ready.fired)

def shutdown (m : Machine) (timeout : Nat) : Machine × Except Failure Unit :=
  Clockwork.shutdown Sync.behaviour timeout m

end Machine

end ToggleSync
