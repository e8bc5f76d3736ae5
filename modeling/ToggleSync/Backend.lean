-- The server, as far as a client sees it: what it answers, in order, and whether its stream is
-- open.
import ToggleSync.Failure

namespace ToggleSync

/-- What a server answers to the question for its toggles. -/
structure Fetched where
  hasChanged : Bool
  state : Option String
  tag : Option String
  deriving DecidableEq, Repr

def Fetched.unchanged : Fetched := ⟨false, none, none⟩

/-- An answer, and the time it takes. A stubborn one cannot be called off. -/
structure Answer where
  outcome : Except Failure Fetched
  ticks : Nat
  stubborn : Bool

structure Backend where
  answers : List Answer
  /-- What is answered when no answers are left. -/
  otherwise : Except Failure Fetched
  /-- Over HTTP, failures are told of by the one who asks. -/
  overHttp : Bool
  /-- Why a stream cannot be opened. -/
  startFailure : Option Failure
  streamOpen : Bool
  /-- A stream was opened at some time, so that there is one to deliver messages. -/
  linked : Bool

/-- Over HTTP, what the one who asks hears of an outcome, and the failure that is told of besides:
one that need not be handed on is heard as no change. -/
def hearFetched (mustSucceed : Bool) :
    Except Failure Fetched → Except Failure Fetched × Option Failure
  | .ok f => (.ok f, none)
  | .error .cancelled => (.error .cancelled, none)
  | .error f => if mustSucceed then (.error f, none) else (.ok .unchanged, some f)

namespace Backend

/-- A server that says, once it has no answers any more, that nothing has changed. -/
def new (answers : List Answer) (startFailure : Option Failure) : Backend where
  answers
  otherwise := .ok .unchanged
  overHttp := false
  startFailure
  streamOpen := false
  linked := false

/-- The next answer. -/
def next (b : Backend) : Answer × Backend :=
  match b.answers with
  | [] => (⟨b.otherwise, 0, false⟩, b)
  | a :: rest => (a, { b with answers := rest })

end Backend

end ToggleSync
