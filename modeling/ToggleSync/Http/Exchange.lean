-- What comes back for a request over HTTP, and what a client makes of it.
import ToggleSync.Backend
import ToggleSync.Http.Header

namespace ToggleSync.Http

structure Reply where
  status : Nat
  /-- The tag of the state in the body. -/
  tag : Option String
  body : List UInt8
  /-- The connection broke before the end of the body. -/
  truncated : Bool
  deriving DecidableEq, Repr

/-- A request may stay without an answer, because there is no server, or it goes away, or time runs
out. -/
inductive Exchange
  | unanswered
  | answered (reply : Reply)
  deriving DecidableEq, Repr

namespace Reply

def isSuccess (r : Reply) : Bool := 200 ≤ r.status && r.status < 300

def isUnchanged (r : Reply) : Bool := r.status == 304

/-- The body as text. Parts of it that are not text are replaced. -/
def text? (r : Reply) : Option String :=
  if r.truncated then none else some (Utf8.decodeLossy r.body)

/-- The failure that a status stands for. A body that is not complete is left out. -/
def failure (r : Reply) : Failure := .serverError r.status (r.text?.getD "")

/-- Tags that are not written in visible characters do not count. -/
def visibleTag? (r : Reply) : Option String :=
  r.tag.filter (·.toList.all fun c => c == '\t' || (0x20 ≤ c.toNat && c.toNat < 0x7F))

/-- The toggles that a reply brings. -/
def fetched (r : Reply) : Except Failure Fetched :=
  if r.isUnchanged then .ok .unchanged
  else if !r.isSuccess then .error r.failure
  else
    match r.text? with
    | some state => .ok ⟨true, some state, r.visibleTag?⟩
    | none => .error .requestFailed

end Reply

namespace Exchange

/-! ## Requests -/

/-- What the question for toggles comes to. A tag that cannot be a header cannot be asked with. -/
def fetched (tag : Option String) : Exchange → Except Failure Fetched
  | .unanswered => .error .requestFailed
  | .answered r => if tag.all isValue then r.fetched else .error .requestFailed

/-- What a report comes to. -/
def accepted : Exchange → Except Failure Unit
  | .unanswered => .error .requestFailed
  | .answered r => if r.isSuccess then .ok () else .error r.failure

end Exchange

/-! ## Telling of failures -/

/-- Asks for toggles. What is heard of the outcome, and the failure that is told of besides. -/
def Exchange.ask (e : Exchange) (tag : Option String) (mustSucceed : Bool) :
    Except Failure Fetched × Option Failure :=
  hearFetched mustSucceed (e.fetched (tag.filter (!·.isEmpty)))

/-- Sends a report. Whether it was taken, and the failure that is told of otherwise. -/
def Exchange.post (e : Exchange) : Bool × Option Failure :=
  match e.accepted with
  | .ok _ => (true, none)
  | .error f => (false, some f)

end ToggleSync.Http
