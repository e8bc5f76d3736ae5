-- Polling: a cycle asks the server for toggles that are newer than the ones of a tag, and takes
-- what it gets.
import ToggleSync.Backend
import ToggleSync.Backup.Store
import ToggleSync.Engine
import ToggleSync.Notice

namespace ToggleSync

/-- What keeping toggles up to date does to the rest of a client. -/
inductive Effect
  | notice (n : Notice)
  | save (b : Backup)
  /-- Says that there are toggles. -/
  | announce
  | request (mode : Mode)
  deriving DecidableEq

structure Polling where
  /-- The tag of the state that was taken last. -/
  tag : Option String
  /-- The server has answered. -/
  fetched : Bool
  announced : Bool
  deriving DecidableEq, Repr

namespace Polling

def new (tag : Option String) : Polling := ⟨tag.filter (!·.isEmpty), false, false⟩

/-- A question to the server: for toggles newer than those of the tag. -/
structure Question where
  tag : Option String
  /-- A failure ends the start of the client. -/
  mustSucceed : Bool
  deriving DecidableEq, Repr

def ask (p : Polling) (mustSucceedFirst : Bool) : Question :=
  ⟨p.tag, mustSucceedFirst && !p.fetched⟩

/-! ## Cycles -/

/-- The state and the tag that an answer brings, if there is anything new in it: a tag other than
the one that was sent, and a state. -/
def news? (sent : Option String) (f : Fetched) : Option (String × String) := do
  let tag ← f.tag.filter (!·.isEmpty)
  let state ← f.state.filter (!isBlankText ·)
  if f.hasChanged && sent ≠ some tag then some (state, tag) else none

structure Cycle where
  polling : Polling
  engine : Engine
  effects : List Effect
  result : Except Failure Unit

def announcement (p : Polling) : List Effect := if p.announced then [] else [.announce]

/-- Ends a cycle with the outcome of its question. -/
def conclude (p : Polling) (engine : Engine) (q : Question) (outcome : Except Failure Fetched) :
    Cycle :=
  match outcome with
  | .error .cancelled => ⟨p, engine, [], .error .cancelled⟩
  | .error f =>
    ⟨p, engine, [.notice (.error .client f)],
      if q.mustSucceed then .error (.reported f) else .ok ()⟩
  | .ok fetched =>
    let p := { p with fetched := true }
    match news? q.tag fetched with
    | none => ⟨{ p with announced := true }, engine, p.announcement, .ok ()⟩
    | some (state, tag) =>
      match engine.takeState state with
      | .error e =>
        ⟨p, engine, [.notice (.error .togglesUpdate (.state e))], .error (.reported (.state e))⟩
      | .ok engine =>
        ⟨{ p with tag := some tag, announced := true }, engine,
          [.save ⟨state, some tag⟩, .notice .updated] ++ p.announcement, .ok ()⟩

end Polling

end ToggleSync
