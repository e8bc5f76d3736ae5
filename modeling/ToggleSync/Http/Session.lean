-- A client whose server is reached over HTTP: its stream is a link, and the attempts of the link
-- come between everything else that the client does.
import ToggleSync.Client
import ToggleSync.Http.Link

namespace ToggleSync.Http

structure Session where
  client : Client
  link : Link
  /-- The link was started for the stream that is open. -/
  following : Bool

/-- The parts of a client listen to its link. -/
def listener (now : Nat) : Listener Sync := fun s c =>
  match c with
  | .opened => (s.handleOpen, .goOn)
  | .message e => s.handleMessage now (.ofEvent e.name e.data)
  | .failed f => (s.handleError now f, .goOn)
  | .closed => (s.handleClosed, .goOn)

namespace Session

def new (client : Client) : Session := ⟨client.settled, .new client.settings.backoff, false⟩

/-- Starts and stops the link as the client opens and closes its stream. -/
def follow (s : Session) : Session :=
  match s.client.sync.backend.streamOpen, s.following with
  | true, false => { s with link := s.link.start.toOption.getD s.link, following := true }
  | false, true => { s with link := s.link.stop, following := false }
  | _, _ => s

def update (s : Session) (f : Client → Client) : Session :=
  { s with client := (f s.client).settled }

def advance (s : Session) (ticks : Nat) : Session :=
  s.update fun c =>
    { c with coordinator := { c.coordinator with
        machine := c.coordinator.machine.advance Sync.behaviour ticks } }

/-- Makes the attempt that is due, or lets time pass. -/
def turn (news : List Link.News) (s : Session) : Session :=
  let s := s.follow
  match s.link.phase with
  | .connecting =>
    let (link, sync) := s.link.hearAll (listener s.client.now) s.client.sync news
    ({ s with link }.update (·.update fun _ => sync)).follow
  | .waiting delay => { s.advance delay.ticks with link := s.link.resume }
  | _ => s.advance 1

def isReady (s : Session) : Bool := s.client.sync.ready.fired

/-- Takes turns until the client is ready, but not more than so many. -/
def awaitReady (news : List Link.News) : Nat → Session → Session × Bool
  | 0, s => (s, s.isReady)
  | n + 1, s => if s.isReady then (s, true) else awaitReady news n (s.turn news)

end Session

end ToggleSync.Http
