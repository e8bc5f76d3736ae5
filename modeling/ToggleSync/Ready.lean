-- The signal that a client has toggles. It fires once at most.

namespace ToggleSync

structure Ready where
  fired : Bool
  /-- A signal that is not armed does not fire any more. -/
  armed : Bool
  deriving DecidableEq, Repr

namespace Ready

def new : Ready := ⟨false, true⟩

/-- Whether firing the signal now makes it go off. -/
def canFire (r : Ready) : Bool := r.armed && !r.fired

def fire (r : Ready) : Ready := if r.canFire then { r with fired := true } else r

def disarm (r : Ready) : Ready := { r with armed := false }

end Ready

end ToggleSync
