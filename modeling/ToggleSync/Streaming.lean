-- Streaming: the server sends toggles over a stream that stays open.
import ToggleSync.Failover
import ToggleSync.Polling
import ToggleSync.StreamMessage

namespace ToggleSync

inductive StreamPhase
  | disconnected
  | connecting
  | connected
  /-- Connected, and toggles have come. -/
  | ready
  deriving DecidableEq, Repr

def StreamPhase.name : StreamPhase → String
  | .disconnected => "disconnected"
  | .connecting => "connecting"
  | .connected => "connected"
  | .ready => "ready"

/-- What is to be done with a stream after a message. -/
inductive Control
  | goOn
  | reconnect
  deriving DecidableEq, Repr

structure Streaming where
  phase : StreamPhase
  announced : Bool
  /-- The failures that count for giving up on streaming. -/
  incidents : List Failover.Incident
  deriving DecidableEq, Repr

namespace Streaming

def new : Streaming := ⟨.disconnected, false, []⟩

structure Reaction where
  streaming : Streaming
  engine : Engine
  effects : List Effect
  control : Control

/-- Takes a failure into account. If it is one too many, polling is asked for. -/
def record (s : Streaming) (rules : Failover.Rules) (kind : Failover.Kind) (time : Instant) :
    Streaming × List Effect :=
  let (failOver, incidents) := rules.step s.incidents ⟨kind, time⟩ time
  ({ s with incidents }, if failOver then [.request .polling] else [])

/-- Takes a state from the stream. Its backup has no tag. -/
def apply (s : Streaming) (engine : Engine) (state : String) : Reaction :=
  match engine.takeState state with
  | .error e => ⟨s, engine, [.notice (.error .togglesUpdate (.state e))], .reconnect⟩
  | .ok engine =>
    ⟨{ s with phase := .ready, announced := true }, engine,
      [.save ⟨engine.state, none⟩, .notice .updated] ++ (if s.announced then [] else [.announce]),
      .goOn⟩

def message (s : Streaming) (engine : Engine) (rules : Failover.Rules) (time : Instant)
    (m : StreamMessage) : Reaction :=
  match m with
  | .connected state => s.apply engine state
  | .updated state => s.apply engine state
  | .fetchMode hint =>
    let (s, effects) := s.record rules (.hint (trim hint)) time
    ⟨s, engine, effects, .goOn⟩
  | .unknown _ _ => ⟨s, engine, [], .goOn⟩

def failed (s : Streaming) (rules : Failover.Rules) (time : Instant) (f : Failure) :
    Streaming × List Effect :=
  let (s, effects) := s.record rules (.ofFailure f) time
  (s, .notice (.error .client f) :: effects)

def opened (s : Streaming) : Streaming := { s with phase := .connected }

def closed (s : Streaming) : Streaming := { s with phase := .disconnected }

end Streaming

end ToggleSync
