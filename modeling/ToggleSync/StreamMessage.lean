-- The messages of an event stream that mean something to a client.

namespace ToggleSync

inductive StreamMessage
  | connected (state : String)
  | updated (state : String)
  | fetchMode (hint : String)
  | unknown (event data : String)
  deriving DecidableEq, Repr

namespace StreamMessage

def ofEvent (event data : String) : StreamMessage :=
  if event = "flags-connected" then .connected data
  else if event = "flags-updated" then .updated data
  else if event = "fetch-mode" then .fetchMode data
  else .unknown event data

def event : StreamMessage → String
  | .connected _ => "flags-connected"
  | .updated _ => "flags-updated"
  | .fetchMode _ => "fetch-mode"
  | .unknown event _ => event

def data : StreamMessage → String
  | .connected data => data
  | .updated data => data
  | .fetchMode data => data
  | .unknown _ data => data

/-- The state that a message brings. -/
def state? : StreamMessage → Option String
  | .connected state => some state
  | .updated state => some state
  | _ => none

def isKnown : StreamMessage → Bool
  | .unknown _ _ => false
  | _ => true

end StreamMessage

end ToggleSync
