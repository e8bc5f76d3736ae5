-- The link of a client to an event stream: it connects, hands on what comes, and connects again
-- when the stream ends.
import ToggleSync.Http.EventStream
import ToggleSync.Http.Exchange
import ToggleSync.Streaming

namespace ToggleSync.Http

/-- What the link tells the one who listens to it. -/
inductive Callback
  | opened
  | message (e : EventStream.Event)
  | failed (failure : Failure)
  | closed
  deriving DecidableEq, Repr

/-- One who listens: takes a callback, and answers a message. -/
abbrev Listener (σ : Type) := σ → Callback → σ × Control

/-- A listener that writes down what it is told, and takes its answers from a list. -/
structure Recorder where
  log : List Callback
  answers : List Control
  deriving DecidableEq, Repr

/-- When the answers are used up the stream is to go on. -/
def record : Listener Recorder := fun s c =>
  let written := { s with log := s.log ++ [c] }
  match c with
  | .message _ => ({ written with answers := s.answers.drop 1 }, s.answers.head?.getD .goOn)
  | _ => (written, .goOn)

inductive Link.Phase
  | idle
  | connecting
  | listening
  /-- So long until the next attempt. -/
  | waiting (delay : Span)
  deriving DecidableEq, Repr

structure Link where
  rules : Backoff
  phase : Link.Phase
  /-- The erroneous outcomes in a row. -/
  failures : Nat
  connected : Bool
  /-- The waits between attempts, since the link was made. -/
  waits : UInt64
  /-- The messages that were handed on, since the link was made. -/
  received : UInt64
  /-- Its runs were ended from outside, and there are to be no more. -/
  cancelled : Bool
  deriving DecidableEq, Repr

namespace Link

def new (rules : Backoff) : Link := ⟨rules, .idle, 0, false, 0, 0, false⟩

/-- Begins to connect. A run that was going on is given up without a word, and the link counts as
connected if it was. -/
def start (l : Link) : Except Failure Link :=
  if l.cancelled then .error .cancelled
  else .ok { l with phase := .connecting, failures := 0 }

def stop (l : Link) : Link := { l with phase := .idle, connected := false }

/-- Ends the run from outside, for good. Nobody says that the link is not connected any more. -/
def cancel (l : Link) : Link := { l with phase := .idle, cancelled := true }

/-- There is no run, or it has come to its end. -/
def isIdle (l : Link) : Bool := l.phase = .idle

/-! ## What happens to a connection -/

inductive News
  | refused (failure : Failure)
  | opened
  | message (e : EventStream.Event)
  | ended
  | broken (failure : Failure)
  deriving DecidableEq, Repr

/-- Failures are counted in 32 bits, and the count stays at its largest value. -/
def maxFailures : Nat := UInt32.size - 1

/-- Waits for the next attempt, or gives up after as many failures in a row as are allowed. -/
def rest (l : Link) : Link :=
  if 0 < l.rules.attempts && l.rules.attempts ≤ l.failures then { l with phase := .idle }
  else { l with phase := .waiting (l.rules.delay l.failures), waits := l.waits + 1 }

/-- Ends an attempt, with a failure or without. -/
def conclude {σ : Type} (h : Listener σ) (l : Link) (s : σ) (failure : Option Failure) : Link × σ :=
  let s := if l.connected then (h s .closed).1 else s
  let l := { l with connected := false }
  match failure with
  | none => ({ l with failures := 0 }.rest, s)
  | some f => ({ l with failures := min (l.failures + 1) maxFailures }.rest, (h s (.failed f)).1)

def hear {σ : Type} (h : Listener σ) (l : Link) (s : σ) (n : News) : Link × σ :=
  match l.phase, n with
  | .connecting, .refused f => l.conclude h s (some f)
  | .connecting, .opened => ({ l with phase := .listening, connected := true }, (h s .opened).1)
  | .listening, .message e =>
    let l := { l with received := l.received + 1 }
    match h s (.message e) with
    | (s, .goOn) => (l, s)
    | (s, .reconnect) => l.conclude h s none
  | .listening, .ended => l.conclude h s none
  | .listening, .broken f => l.conclude h s (some f)
  | _, _ => (l, s)

def hearAll {σ : Type} (h : Listener σ) (l : Link) (s : σ) (news : List News) : Link × σ :=
  news.foldl (fun acc n => acc.1.hear h acc.2 n) (l, s)

/-- Connects again after a wait. -/
def resume (l : Link) : Link :=
  match l.phase with
  | .waiting _ => { l with phase := .connecting }
  | _ => l

/-! ## Runs -/

/-- There is an attempt to make, now or after a wait. -/
def isTrying (l : Link) : Bool :=
  match l.phase with
  | .connecting => true
  | .waiting _ => true
  | _ => false

/-- Makes one attempt after the other until enough was heard, or there are none to make. -/
def run {σ : Type} (h : Listener σ) (next : σ → List News) (done : σ → Bool) :
    Nat → Link → σ → Link × σ
  | 0, l, s => (l, s)
  | n + 1, l, s =>
    if done s || !l.isTrying then (l, s)
    else
      let l := l.resume
      let (l, s) := l.hearAll h s (next s)
      run h next done n l s

/-- Makes attempts that all come to the same, until so many callbacks are written down. Says
whether that came to be. -/
def awaitCallbacks (l : Link) (r : Recorder) (news : List News) (count : Nat) :
    Link × Recorder × Bool :=
  let (l, r) := l.run record (fun _ => news) (count ≤ ·.log.length) count r
  (l, r, count ≤ r.log.length)

/-- Makes attempts that all come to the same, until there are none to make any more. -/
def awaitEnd (l : Link) (r : Recorder) (news : List News) : Link × Recorder × Bool :=
  let (l, r) := l.run record (fun _ => news) (fun _ => false) l.rules.attempts r
  (l, r, l.isIdle)

end Link

/-! ## Streams over HTTP -/

def brokenBody : Failure := .stream "Transport error: error decoding response body"

/-- What a stream brings that was answered. A stream that stays open does not end. -/
def Reply.news (r : Reply) (staysOpen : Bool) : List Link.News :=
  if !r.isSuccess then [.refused r.failure]
  else
    let (es, flaw) := EventStream.read r.body
    let ending := match flaw with
      | some flaw => [Link.News.broken (.stream ("UTF8 error: " ++ flaw.message))]
      | none => if staysOpen then [] else if r.truncated then [.broken brokenBody] else [.ended]
    .opened :: es.map .message ++ ending

def Exchange.news (staysOpen : Bool) : Exchange → List Link.News
  | .unanswered => [.refused .requestFailed]
  | .answered r => r.news staysOpen

end ToggleSync.Http
