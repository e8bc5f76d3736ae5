-- The client: begins with the toggles of a backup, keeps them up to date, and answers questions
-- about them.
import ToggleSync.Coordinator
import ToggleSync.Http.Header
import ToggleSync.Reporter

namespace ToggleSync

structure Client where
  settings : Settings
  identity : Identity
  coordinator : Coordinator
  closed : Bool
  /-- Someone is told when toggles are asked for. -/
  hasListener : Bool

namespace Client

def sync (c : Client) : Sync := c.coordinator.sync

def now (c : Client) : Nat := c.coordinator.machine.now

def update (c : Client) (f : Sync → Sync) : Client :=
  { c with coordinator := c.coordinator.update f }

/-- Does everything that can be done without time passing. -/
def settled (c : Client) : Client := { c with coordinator := c.coordinator.settled }

/-! ## Building -/

/-- Takes the state of a backup. The tag of a state that is refused is not used. -/
def restore (s : Sync) (now : Nat) : Sync :=
  let (s, backup) := s.loadBackup now
  let (s, tag) :=
    if backup.isEmpty then (s, backup.tag)
    else
      match s.engine.takeState backup.state with
      | .ok engine => ({ s with engine }, backup.tag)
      | .error e => (s.raise now (.error .fileCache (.state e)), none)
  { s with polling := .new tag }

/-- What a client is built over: its server, and where its backups go. -/
structure Parts where
  backend : Backend
  keeping : Keeping
  hasListener : Bool

/-- Starts a client with settings that are valid. It is given also when the start fails, for what
was seen of it. -/
def start (s : Settings) (i : Identity) (p : Parts) : Client × Except Failure Unit :=
  let sync := restore (.new p.backend none s.mustSucceedFirst s.failover p.keeping) 0
  let machine := (Machine.startReports (.new sync) s.metricsInterval i).1
  let options : Coordinator.Options := ⟨s.fetchInterval.ticks, s.eager, s.synchronous⟩
  let (coordinator, result) := Coordinator.start machine options s.initialMode
  (⟨s, i, coordinator, false, p.hasListener⟩, result)

/-- Builds a client. Settings that are refused leave nothing to be seen. -/
def build (s : Settings) (i : Identity) (p : Parts) :
    Except Failure (Client × Except Failure Unit) := do
  s.validate
  if p.backend.overHttp then Http.check s i
  return start s i p

/-! ## Running -/

def setMode (c : Client) (mode : Mode) : Client × Except Failure Unit :=
  if c.closed then (c, .error .clientClosed)
  else
    let (coordinator, result) := c.coordinator.changeMode mode
    ({ c with coordinator }, result)

def awaitReady (c : Client) (ticks : Nat) : Client × Bool :=
  let (machine, ready) := c.coordinator.machine.awaitReady ticks
  ({ c with coordinator := { c.coordinator with machine } }, ready)

/-- A client that is closed still answers, from the toggles that it has. -/
def close (c : Client) : Client × Except Failure Unit :=
  if c.closed then (c, .ok ())
  else
    let (coordinator, result) := c.coordinator.dispose
    ({ c with closed := true, coordinator }, result)

/-! ## Questions -/

/-- The context that a question is asked for. -/
def contextFor (c : Client) (context : Context) : Context :=
  context.withDefaults c.settings.appName c.settings.environment

/-- Tells that a toggle was asked for, if anyone listens. -/
def tell (c : Client) (kind : ImpressionKind) (toggle : String) (enabled : Bool)
    (variant : Option String) (context : Context) : Client :=
  if c.hasListener then
    c.update (·.raise c.now
      (.impression ⟨kind, toggle, enabled, variant, context, context.fingerprint toggle⟩))
  else c

def isEnabled (c : Client) (name : String) (context : Context) (default : Bool) : Client × Bool :=
  let context := c.contextFor context
  let (outcome, engine) := c.sync.engine.isEnabled name
  let c := c.update ({ · with engine })
  match outcome with
  | none => (c, default)
  | some o =>
    (if o.impressionData then c.tell .isEnabled name o.enabled none context else c, o.enabled)

/-- A context without stickiness value takes the key `spare`. -/
def variant (c : Client) (name : String) (context : Context) (default : Variant) (spare : String) :
    Client × Variant :=
  let context := c.contextFor context
  let (given, engine) := c.sync.engine.variant name context spare
  let c := c.update ({ · with engine })
  match given with
  | none => (c, default)
  | some v =>
    (if engine.impressionData name then
      c.tell .getVariant name v.featureEnabled (some v.name) context
    else c, v)

def known (c : Client) : List KnownToggle := c.sync.engine.known

/-- Asks for every toggle of a list, and puts the answers into a table. -/
def askAll (context : Context) (acc : Client × Table Bool) (name : String) : Client × Table Bool :=
  let (c, enabled) := acc.1.isEnabled name context false
  (c, acc.2.put name enabled)

def all (c : Client) (context : Context) : Client × Table Bool :=
  (c.known.map (·.name)).foldl (askAll context) (c, ∅)

end Client

end ToggleSync
