-- The coordinator: keeps one of polling and streaming active, and changes between them when the
-- application or a failing stream asks for it.
import ToggleSync.Sync

namespace ToggleSync

structure Coordinator where
  machine : Machine
  active : Option Mode
  disposed : Bool
  /-- The first toggles are fetched before the start is over. -/
  synchronous : Bool
  /-- How long to wait for a task that is to end. -/
  shutdownTicks : Nat

namespace Coordinator

def sync (c : Coordinator) : Sync := c.machine.state

def isCancelled (c : Coordinator) : Bool := c.machine.isCancelled Machine.clientToken

def update (c : Coordinator) (f : Sync → Sync) : Coordinator :=
  { c with machine := c.machine.update f }

/-! ## Changing the mode -/

/-- Makes a mode the active one, once the parts are started and stopped for it. -/
def enter (c : Coordinator) (mode : Mode) (initial : Bool) : Coordinator :=
  let c := { c with active := some mode }
  if initial then c else c.update (·.raise c.machine.now (.modeChanged mode))

def enterPolling (c : Coordinator) (initial : Bool) : Coordinator × Except Failure Unit :=
  let (machine, result) := c.machine.stopStream.startPolling (initial && c.synchronous)
  let c := { c with machine }
  match result with
  | .error f => (c, .error f)
  | .ok _ => (c.enter .polling initial, .ok ())

/-- When the stream cannot be started, polling goes on if it was active. -/
def enterStreaming (c : Coordinator) (initial : Bool) : Coordinator × Except Failure Unit :=
  let (machine, stopped) := c.machine.stopPolling
  match stopped with
  | .error f => ({ c with machine }, .error f)
  | .ok _ =>
    let (machine, started) := machine.startStream
    match started with
    | .ok _ => ({ c with machine }.enter .streaming initial, .ok ())
    | .error f =>
      if c.active = some .polling then
        let (machine, resumed) := machine.startPolling false
        ({ c with machine }, match resumed with
          | .error g => .error g
          | .ok _ => .error f)
      else ({ c with machine }, .error f)

def activate (c : Coordinator) (mode : Mode) (initial : Bool) : Coordinator × Except Failure Unit :=
  if c.disposed || c.active = some mode then (c, .ok ())
  else
    match mode with
    | .polling => c.enterPolling initial
    | .streaming => c.enterStreaming initial

def changeMode (c : Coordinator) (mode : Mode) : Coordinator × Except Failure Unit :=
  c.activate mode false

/-- Makes the changes that were asked for, in order. A change that fails leaves it at that. No
one makes them any more once the client's token is cancelled. -/
def attend (c : Coordinator) : Coordinator :=
  let requests := c.sync.requests
  let c := c.update ({ · with requests := [] })
  if c.isCancelled then c else requests.foldl (fun c mode => (c.changeMode mode).1) c

/-- Does everything that can be done without time passing. -/
def settled (c : Coordinator) : Coordinator :=
  let c := c.attend
  { c with machine := c.machine.settled }

/-! ## Ending -/

def release (c : Coordinator) : Coordinator :=
  let machine : Machine := c.machine.cancel Machine.clientToken
  let machine := machine.stopStream.stopPolling.1
  { c with
    machine := machine.update ({ · with requests := [], listening := false })
    active := none
    disposed := true }

def dispose (c : Coordinator) : Coordinator × Except Failure Unit :=
  if c.disposed then (c, .ok ())
  else
    let c := c.release.update fun s => { s with ready := s.ready.disarm }
    let (machine, result) := c.machine.shutdown c.shutdownTicks
    ({ c with machine }, result)

/-! ## Starting -/

structure Options where
  interval : Nat
  /-- Polls as soon as polling starts. -/
  eager : Bool
  synchronous : Bool

/-- Starts in a mode. A start that fails is undone. -/
def start (machine : Machine) (options : Options) (mode : Mode) :
    Coordinator × Except Failure Unit :=
  let c : Coordinator :=
    ⟨machine.withPolling options.interval options.eager, none, false, options.synchronous, 1000⟩
  match c.activate mode true with
  | (c, .ok _) => (c, .ok ())
  | (c, .error f) => (c.dispose.1, .error f)

end Coordinator

end ToggleSync
