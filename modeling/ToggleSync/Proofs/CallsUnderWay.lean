-- A coordinator while calls of it are under way. A change of the mode and the disposal wait: for
-- each other, for the stream, for the first toggles, for loops to end. Between two waits anything
-- else may come. One of them at a time may go on, the one that holds the switch. A call that is
-- made while nothing else goes on is nothing but these pieces, one after the other.
import ToggleSync.Proofs.SignalMoves
import ToggleSync.Proofs.StreamingRun

namespace ToggleSync

open Machine (clientToken)

/-! ## The pieces of opening and closing a stream -/

namespace Sync

def dial (s : Sync) : Sync := { s with streaming := { s.streaming with phase := .connecting } }

/-- Asks for a stream. If it is refused, the reason is handed on. -/
def connect (s : Sync) (now : Nat) : Sync × Option Failure :=
  match s.backend.startFailure with
  | some f => (s.note now (.streamStarted true), some f)
  | none =>
    ({ s with backend := { s.backend with streamOpen := true, linked := true } }.note now
      (.streamStarted false), none)

/-- Gives up a stream that was refused. -/
def putDown (s : Sync) (now : Nat) (f : Failure) : Sync :=
  (s.raise now (.error .client f)).handleClosed

def hangUp (s : Sync) (now : Nat) : Sync :=
  { s with backend := { s.backend with streamOpen := false } }.note now
    (.streamStopped s.backend.streamOpen)

theorem startStream_eq (s : Sync) (now : Nat) :
    s.startStream now =
      match s.dial.connect now with
      | (t, none) => (t, .ok ())
      | (t, some f) => (t.putDown now f, .error (.reported f)) := by
  unfold startStream connect
  rw [show s.dial.backend = s.backend from rfl]
  cases s.backend.startFailure <;> rfl

/-- What a request came to, as the cycle hears it that sent it. -/
def told (s : Sync) (a : Asked) : Happening := .asked a.question (s.heard a.question a.outcome)

end Sync

/-! ## Calls -/

/-- How far a change of the mode has come that holds the switch. -/
inductive Switchover
  /-- It closes the stream, to poll. -/
  | closing (initial : Bool)
  | closed (initial : Bool)
  /-- It waits for the first toggles. -/
  | fetching (initial : Bool) (asked : Asked)
  /-- It opens the stream; the mode before it goes on if that fails. -/
  | opening (initial : Bool) (previous : Option Mode)
  | opened (initial : Bool) (previous : Option Mode) (refusal : Option Failure)

/-- How far the disposal has come. -/
inductive Leaving
  | staying
  /-- The coordinator counts as disposed of. -/
  | flagged
  /-- The client's token is cancelled. -/
  | called
  /-- The disposal holds the switch, and closes the stream. -/
  | closing
  | closed
  /-- It waits for these loops to end, and knows the first one that was late. -/
  | ending (runs : List (String × Nat)) (late : Option String)
  | returned (result : Except Failure Unit)

namespace Leaving

def isFlagged : Leaving → Bool
  | .staying => false
  | _ => true

def isCalled : Leaving → Bool
  | .staying => false
  | .flagged => false
  | _ => true

/-- It has held the switch. -/
def isAlone : Leaving → Bool
  | .staying => false
  | .flagged => false
  | .called => false
  | _ => true

/-- It has closed the stream. -/
def isHungUp : Leaving → Bool
  | .closed => true
  | .ending _ _ => true
  | .returned _ => true
  | _ => false

/-- It has stopped everything. -/
def isDone : Leaving → Bool
  | .ending _ _ => true
  | .returned _ => true
  | _ => false

def isReturned : Leaving → Bool
  | .returned _ => true
  | _ => false

/-- It holds the switch. -/
def isHolding (l : Leaving) : Bool := l.isAlone && !l.isReturned

end Leaving

namespace Coordinator

/-- Begins a change that may switch. One that has nothing to do is over at once. -/
def begin (c : Coordinator) (mode : Mode) (initial : Bool) : Coordinator × Option Switchover :=
  if c.disposed || c.active = some mode then (c, none)
  else
    match mode with
    | .polling => (c, some (.closing initial))
    | .streaming =>
      match c.machine.stopPolling with
      | (machine, .error _) => ({ c with machine }, none)
      | (machine, .ok _) =>
        ({ c with machine := machine.update Sync.dial }, some (.opening initial c.active))

/-- Starts the fetch task, and enters polling if it could be started. -/
def pollOn (c : Coordinator) (initial : Bool) : Coordinator :=
  match c.machine.startPolling false with
  | (machine, .error _) => { c with machine }
  | (machine, .ok _) => { c with machine }.enter .polling initial

/-- Polls on, if the first toggles were got. -/
def pollAfter (c : Coordinator) (initial : Bool) : Machine × Except Failure Unit → Coordinator
  | (machine, .error _) => { c with machine }
  | (machine, .ok _) => { c with machine }.pollOn initial

/-- Asks for the first toggles, unless that was called off. -/
def fetchFirst (c : Coordinator) (initial : Bool) : Coordinator × Option Switchover :=
  if c.isCancelled then (c, none)
  else
    let (s, q, a) := c.sync.ask c.machine.now
    (c.update fun _ => s, some (.fetching initial ⟨q, a.outcome⟩))

/-- Takes the first toggles when they come. -/
def welcome (c : Coordinator) (initial : Bool) (a : Asked) : Coordinator :=
  let (s, result) := c.sync.conclude c.machine.now a.question a.outcome
  c.pollAfter initial ({ c.machine with state := s }, result)

/-- Goes on with a change when its wait is over. The wait for the first toggles ends otherwise. -/
def proceed (c : Coordinator) : Switchover → Coordinator × Option Switchover
  | .closing initial => (c.update (·.hangUp c.machine.now), some (.closed initial))
  | .closed initial =>
    let c := c.update (·.handleClosed)
    if initial && c.synchronous && !c.sync.polling.fetched then c.fetchFirst initial
    else (c.pollOn initial, none)
  | .fetching initial a => (c, some (.fetching initial a))
  | .opening initial previous =>
    let (s, refusal) := c.sync.connect c.machine.now
    (c.update fun _ => s, some (.opened initial previous refusal))
  | .opened initial _ none => (c.enter .streaming initial, none)
  | .opened _ previous (some f) =>
    let c := c.update (·.putDown c.machine.now f)
    if previous = some .polling then
      ({ c with machine := (c.machine.startPolling false).1 }, none)
    else (c, none)

/-- Stops everything, once the stream is closed. -/
def halt (c : Coordinator) : Coordinator :=
  let machine := (c.machine.update (·.handleClosed)).stopPolling.1
  { c with
    machine := machine.update fun s =>
      { s with requests := [], listening := false, ready := s.ready.disarm }
    active := none }

/-- Stops everything, and every task for good. Gives the loops whose end is to be awaited. -/
def windDown (c : Coordinator) : Coordinator × List (String × Nat) :=
  let c := c.halt
  if c.machine.tasks.shutDown then (c, [])
  else
    ({ c with machine := { c.machine with tasks := c.machine.tasks.close } }, c.machine.tasks.runs)

end Coordinator

/-- What a disposal comes to that knows the first loop that was late. -/
def disposalResult : Option String → Except Failure Unit
  | none => .ok ()
  | some name => .error (.taskShutdownTimeout name)

/-! ## Steps -/

/-- What goes on beside the calls, and what comes from the server in it. -/
inductive Machine.Beside : Machine → List Happening → Machine → Prop
  | move {m : Machine} {i : Nat} {l : Loop Job Asked} {v : Move} : m.CanMove i l v →
      Beside m ((m.ends? l v).toList.map m.state.told) (m.move Sync.behaviour i v)
  | pass {m : Machine} {now : Nat} : m.now ≤ now → Beside m [] { m with now }
  /-- The stream calls, whether it is open or not. -/
  | call (m : Machine) (call : StreamCall) :
      Beside m (call.payload?.toList.map .streamed) (m.update fun s => (s.listen call).1)
  /-- The client's token is cancelled by someone else. -/
  | cancel (m : Machine) : Beside m [] (m.cancel clientToken)
  /-- The server changes what it answers. -/
  | serve (m : Machine) (answers : List Answer) (startFailure : Option Failure) :
      Beside m [] (m.update fun s =>
        { s with backend := { s.backend with answers, startFailure } })
  /-- The application asks for toggles. -/
  | count (m : Machine) (usage : Usage) :
      Beside m [] (m.update fun s => { s with engine := { s.engine with usage } })
  | tell (m : Machine) (i : Impression) : Beside m [] (m.update (·.raise m.now (.impression i)))
  /-- Requests for a mode are taken, or there is no one left to take any. -/
  | take (m : Machine) (requests : List Mode) (listening : Bool) :
      Beside m [] (m.update fun s => { s with requests, listening := s.listening && listening })

/-- A coordinator with the calls that are under way: the change that holds the switch, if one does,
and the disposal. -/
structure Underway where
  coordinator : Coordinator
  change : Option Switchover
  leaving : Leaving

namespace Underway

def machine (x : Underway) : Machine := x.coordinator.machine

def sync (x : Underway) : Sync := x.coordinator.sync

def withMachine (x : Underway) (machine : Machine) : Underway :=
  { x with coordinator := { x.coordinator with machine } }

/-- A coordinator that is about to start in a mode. -/
def starting (machine : Machine) (o : Coordinator.Options) (mode : Mode) : Underway :=
  let c : Coordinator :=
    ⟨machine.withPolling o.interval o.eager, none, false, o.synchronous, 1000⟩
  ⟨(c.begin mode true).1, (c.begin mode true).2, .staying⟩

/-- A step, and what comes from the server in it. Calls that wait for the switch are not seen. -/
inductive Step : Underway → List Happening → Underway → Prop
  | beside {x : Underway} {items : List Happening} {machine : Machine} :
      x.machine.Beside items machine → Step x items (x.withMachine machine)
  /-- A change gets the switch, whoever asks for it, and however long ago. -/
  | change {x : Underway} (mode : Mode) : x.change = none → x.leaving.isHolding = false →
      Step x [] { x with
        coordinator := (x.coordinator.begin mode false).1
        change := (x.coordinator.begin mode false).2 }
  | proceed {x : Underway} {change : Switchover} : x.change = some change →
      Step x [] { x with
        coordinator := (x.coordinator.proceed change).1
        change := (x.coordinator.proceed change).2 }
  /-- The first toggles come, or the wait for them is called off. -/
  | answer {x : Underway} {initial : Bool} {a : Asked} : x.change = some (.fetching initial a) →
      Step x [x.sync.told a] { x with
        coordinator := x.coordinator.welcome initial a
        change := none }
  | callOff {x : Underway} {initial : Bool} {a : Asked} : x.change = some (.fetching initial a) →
      x.coordinator.isCancelled = true →
      Step x [] { x with change := some (.fetching initial ⟨a.question, .error .cancelled⟩) }
  /-- A caller drops a change while it waits. -/
  | drop (x : Underway) : Step x [] { x with change := none }
  /-- The disposal begins. -/
  | dispose {x : Underway} : x.leaving = .staying →
      Step x [] { x with
        coordinator := { x.coordinator with disposed := true }
        leaving := .flagged }
  | cancelAll {x : Underway} : x.leaving = .flagged →
      Step x [] { x.withMachine (x.machine.cancel clientToken) with leaving := .called }
  /-- The disposal gets the switch. -/
  | hold {x : Underway} : x.leaving = .called → x.change = none →
      Step x [] { x with leaving := .closing }
  | hangUp {x : Underway} : x.leaving = .closing →
      Step x [] { x.withMachine (x.machine.update (·.hangUp x.machine.now)) with
        leaving := .closed }
  | windDown {x : Underway} : x.leaving = .closed →
      Step x [] { x with
        coordinator := x.coordinator.windDown.1
        leaving := .ending x.coordinator.windDown.2 none }
  | ended {x : Underway} {run : String × Nat} {runs : List (String × Nat)} {late : Option String} :
      x.leaving = .ending (run :: runs) late → x.machine.tasks.hasEnded run.2 = true →
      Step x [] { x with leaving := .ending runs late }
  /-- A loop that does not end in time is given up. -/
  | late {x : Underway} {run : String × Nat} {runs : List (String × Nat)} {late : Option String} :
      x.leaving = .ending (run :: runs) late →
      Step x [] { x.withMachine { x.machine with
          tasks := x.machine.tasks.setPhase run.2 .ended } with
        leaving := .ending runs (late.or (some run.1)) }
  | done {x : Underway} {late : Option String} : x.leaving = .ending [] late →
      Step x [] { x with leaving := .returned (disposalResult late) }

/-- Any number of steps, with everything that comes from the server in them. -/
inductive Run : Underway → List Happening → Underway → Prop
  | refl (x : Underway) : Run x [] x
  | step {x y z : Underway} {history more : List Happening} : Run x history y → Step y more z →
      Run x (history ++ more) z

/-! ## Calls that nothing comes between -/

/-- Some steps lead from one to the other. -/
def Leads (x y : Underway) : Prop := ∃ history, Run x history y

theorem Leads.refl (x : Underway) : Leads x x := ⟨[], .refl x⟩

theorem Leads.step {x y z : Underway} {more : List Happening} (h : Leads x y)
    (hs : Step y more z) : Leads x z := by
  obtain ⟨history, hr⟩ := h
  exact ⟨_, hr.step hs⟩

theorem Leads.trans {x y z : Underway} (h : Leads x y) (h' : Leads y z) : Leads x z := by
  obtain ⟨history, hr⟩ := h'
  induction hr with
  | refl => exact h
  | step _ hs ih => exact ih.step hs

theorem Leads.stable (x y : Underway) : Clockwork.Stable Sync.behaviour
    fun machine => Leads x (y.withMachine machine) where
  move h hm := h.step (.beside (.move hm))
  pass h ht := h.step (.beside (.pass ht))

end Underway

namespace Machine

theorem startPolling_eq (m : Machine) (synchronous : Bool) :
    m.startPolling synchronous =
      if synchronous && !m.state.polling.fetched then
        match m.runCycle with
        | (m, .error f) => (m, .error f)
        | (m, .ok _) => m.startPolling false
      else m.startPolling false := by
  unfold startPolling
  simp only [Bool.false_and, Bool.false_eq_true, if_false]
  cases synchronous && !m.state.polling.fetched with
  | false => rfl
  | true =>
    simp only [if_true]
    generalize m.runCycle = cycled
    obtain ⟨m', result⟩ := cycled
    cases result <;> rfl

theorem shutdown_eq (m : Machine) (timeout : Nat) :
    m.shutdown timeout =
      if m.tasks.shutDown then (m, disposalResult none)
      else
        let closed : Machine := { m with tasks := m.tasks.close }
        let ended := m.tasks.runs.foldl (Clockwork.awaitEnd Sync.behaviour timeout) (closed, none)
        (ended.1, disposalResult ended.2) := by
  unfold shutdown Clockwork.shutdown
  split
  · rfl
  · simp only
    split <;> rename_i heq <;> rw [heq] <;> rfl

end Machine

namespace Coordinator

/-- To enter polling is to close the stream, to get the first toggles if they are wanted at once,
and to poll on. -/
theorem enterPolling_eq (c : Coordinator) (initial : Bool) :
    (c.enterPolling initial).1 =
      let quiet := { c with machine := c.machine.stopStream }
      if initial && c.synchronous && !c.sync.polling.fetched then
        quiet.pollAfter initial quiet.machine.runCycle
      else quiet.pollOn initial := by
  unfold enterPolling
  rw [Machine.startPolling_eq]
  have hfetched : c.machine.stopStream.state.polling = c.sync.polling := rfl
  rw [hfetched]
  cases initial && c.synchronous && !c.sync.polling.fetched with
  | false =>
    simp only [Bool.false_eq_true, if_false]
    unfold pollOn
    generalize c.machine.stopStream.startPolling false = started
    obtain ⟨machine, result⟩ := started
    cases result <;> rfl
  | true =>
    simp only [if_true]
    generalize c.machine.stopStream.runCycle = cycled
    obtain ⟨machine, result⟩ := cycled
    cases result with
    | error f => rfl
    | ok u =>
      unfold pollAfter pollOn
      simp only
      generalize machine.startPolling false = started
      obtain ⟨later, result⟩ := started
      cases result <;> rfl

/-- To open the stream, once the fetch task is stopped, is to dial and to wait for the answer. -/
theorem enterStreaming_eq (c : Coordinator) (initial : Bool) :
    (c.enterStreaming initial).1 =
      match c.machine.stopPolling with
      | (machine, .error _) => { c with machine }
      | (machine, .ok _) =>
        let (s, refusal) := machine.state.dial.connect machine.now
        ({ c with machine := { machine with state := s } }.proceed
          (.opened initial c.active refusal)).1 := by
  unfold enterStreaming
  simp only
  generalize c.machine.stopPolling = stopped
  obtain ⟨machine, result⟩ := stopped
  cases result with
  | error f => rfl
  | ok u =>
    simp only [Machine.startStream, Sync.startStream_eq]
    generalize machine.state.dial.connect machine.now = connected
    obtain ⟨s, refusal⟩ := connected
    cases refusal with
    | none => rfl
    | some f =>
      simp only [proceed]
      by_cases hp : c.active = some .polling
      · simp only [hp, if_true]
        rfl
      · simp only [hp, if_false]
        rfl

theorem disposed_activate (c : Coordinator) (mode : Mode) (initial : Bool) :
    (c.activate mode initial).1.disposed = c.disposed := by
  unfold activate
  split
  · rfl
  · cases mode with
    | polling => exact (c.calm_enterPolling initial).2
    | streaming => exact (c.calm_enterStreaming initial).disposed

/-- With the answer to its request for a stream a change is over. -/
theorem proceed_opened (c : Coordinator) (initial : Bool) (previous : Option Mode)
    (refusal : Option Failure) : (c.proceed (.opened initial previous refusal)).2 = none := by
  cases refusal with
  | none => rfl
  | some f =>
    simp only [proceed]
    split <;> rfl

end Coordinator

namespace Underway

section

variable {x : Underway} {c : Coordinator} {leaving : Leaving}

theorem leads_proceed {change : Switchover} (h : Leads x ⟨c, some change, leaving⟩) :
    Leads x ⟨(c.proceed change).1, (c.proceed change).2, leaving⟩ :=
  h.step (.proceed rfl)

/-- To get the first toggles is a cycle that nothing else waits for. -/
theorem leads_fetchFirst {initial : Bool}
    (h : Leads x ⟨(c.fetchFirst initial).1, (c.fetchFirst initial).2, leaving⟩) :
    Leads x ⟨c.pollAfter initial c.machine.runCycle, none, leaving⟩ := by
  unfold Coordinator.fetchFirst at h
  unfold Machine.runCycle
  cases hc : c.isCancelled with
  | true =>
    have hm : c.machine.isCancelled clientToken = true := hc
    rw [hc, if_pos rfl] at h
    rw [if_pos hm]
    exact h
  | false =>
    have hm : c.machine.isCancelled clientToken = false := hc
    rw [hc, if_neg Bool.false_ne_true] at h
    rw [hm, if_neg Bool.false_ne_true]
    let asked := c.sync.ask c.machine.now
    let y : Underway := ⟨c.update fun _ => asked.1,
      some (.fetching initial ⟨asked.2.1, asked.2.2.outcome⟩), leaving⟩
    have hasked : Leads x (y.withMachine y.machine) := h
    have hwaited := (Leads.stable x y).waitUntil (fun _ => false) asked.2.2.ticks hasked
    have hanswered := hwaited.step (.answer rfl)
    exact hanswered

/-- A change that goes on closes the stream and polls on. -/
theorem leads_enterPolling {initial : Bool} (h : Leads x ⟨c, some (.closing initial), leaving⟩) :
    Leads x ⟨(c.enterPolling initial).1, none, leaving⟩ := by
  have hclosed := leads_proceed (leads_proceed h)
  have hquiet : (c.update (·.hangUp c.machine.now)).update (·.handleClosed) =
      { c with machine := c.machine.stopStream } := rfl
  have hfetched : { c with machine := c.machine.stopStream }.sync.polling = c.sync.polling := rfl
  rw [Coordinator.enterPolling_eq]
  unfold Coordinator.proceed at hclosed
  simp only [hquiet, hfetched] at hclosed ⊢
  cases hw : initial && c.synchronous && !c.sync.polling.fetched with
  | false =>
    simp only [hw, Bool.false_eq_true, if_false] at hclosed ⊢
    exact hclosed
  | true =>
    simp only [hw, if_true] at hclosed ⊢
    exact leads_fetchFirst hclosed

/-- A change that gets the switch while nothing comes between does what it does in one piece. -/
theorem leads_activate {mode : Mode} {initial : Bool}
    (h : Leads x ⟨(c.begin mode initial).1, (c.begin mode initial).2, leaving⟩) :
    Leads x ⟨(c.activate mode initial).1, none, leaving⟩ := by
  unfold Coordinator.begin at h
  unfold Coordinator.activate
  by_cases hb : (c.disposed || decide (c.active = some mode)) = true
  · rw [if_pos hb] at h ⊢
    exact h
  · rw [if_neg hb] at h ⊢
    cases mode with
    | polling => exact leads_enterPolling h
    | streaming =>
      simp only at h ⊢
      rw [Coordinator.enterStreaming_eq]
      generalize c.machine.stopPolling = stopped at h ⊢
      obtain ⟨machine, result⟩ := stopped
      cases result with
      | error f => exact h
      | ok u =>
        have hdialed : Leads x ⟨{ c with machine := machine.update Sync.dial },
            some (.opening initial c.active), leaving⟩ := h
        have hconnected : Leads x ⟨{ c with machine := { machine with
              state := (machine.state.dial.connect machine.now).1 } },
            some (.opened initial c.active (machine.state.dial.connect machine.now).2),
            leaving⟩ := leads_proceed hdialed
        have hopened := leads_proceed hconnected
        rw [Coordinator.proceed_opened] at hopened
        exact hopened

/-- A change of the mode is a run that nothing else comes between. -/
theorem leads_changeMode (c : Coordinator) (mode : Mode) (h : leaving.isHolding = false) :
    Leads ⟨c, none, leaving⟩ ⟨(c.changeMode mode).1, none, leaving⟩ :=
  leads_activate ((Leads.refl _).step (.change mode rfl h))

/-- So is all that is done without time passing. -/
theorem leads_settled (c : Coordinator) (h : leaving.isHolding = false) :
    Leads ⟨c, none, leaving⟩ ⟨c.settled, none, leaving⟩ := by
  have hchanges : ∀ (requests : List Mode) {c d : Coordinator},
      Leads ⟨c, none, leaving⟩ ⟨d, none, leaving⟩ →
      Leads ⟨c, none, leaving⟩
        ⟨requests.foldl (fun c mode => (c.changeMode mode).1) d, none, leaving⟩ := by
    intro requests
    induction requests with
    | nil => exact fun hd => hd
    | cons mode requests ih => exact fun hd => ih (hd.trans (leads_changeMode _ mode h))
  have htaken : Leads ⟨c, none, leaving⟩ ⟨c.update ({ · with requests := [] }), none, leaving⟩ := by
    have htake := (Leads.refl ⟨c, none, leaving⟩).step (.beside (.take c.machine [] true))
    simp only [Bool.and_true] at htake
    exact htake
  have hattended : Leads ⟨c, none, leaving⟩ ⟨c.attend, none, leaving⟩ := by
    unfold Coordinator.attend
    simp only
    split
    · exact htaken
    · exact hchanges _ htaken
  exact (Leads.stable _ ⟨c.attend, none, leaving⟩).settle hattended

/-- To await the end of a loop is to let time pass until it has ended, or to give it up. -/
theorem leads_awaitEnd {run : String × Nat} {runs : List (String × Nat)} (timeout : Nat)
    (acc : Machine × Option String)
    (h : Leads x ⟨{ c with machine := acc.1 }, none, .ending (run :: runs) acc.2⟩) :
    let acc := Clockwork.awaitEnd Sync.behaviour timeout acc run
    Leads x ⟨{ c with machine := acc.1 }, none, .ending runs acc.2⟩ := by
  have hwaited := (Leads.stable x ⟨c, none, .ending (run :: runs) acc.2⟩).waitUntil
    (·.tasks.hasEnded run.2) timeout h
  unfold Clockwork.awaitEnd
  simp only
  split
  · rename_i he
    exact hwaited.step (.ended rfl he)
  · exact hwaited.step (.late rfl)

theorem leads_ending {runs : List (String × Nat)} (timeout : Nat) (acc : Machine × Option String)
    (h : Leads x ⟨{ c with machine := acc.1 }, none, .ending runs acc.2⟩) :
    let acc := runs.foldl (Clockwork.awaitEnd Sync.behaviour timeout) acc
    Leads x ⟨{ c with machine := acc.1 }, none, .ending [] acc.2⟩ := by
  induction runs generalizing acc with
  | nil => exact h
  | cons run runs ih => exact ih _ (leads_awaitEnd timeout acc h)

/-- A disposal is a run that nothing else comes between. -/
theorem leads_dispose (c : Coordinator) (hc : c.disposed = false) :
    Leads ⟨c, none, .staying⟩ ⟨c.dispose.1, none, .returned c.dispose.2⟩ := by
  let alone : Coordinator := { c with machine := c.machine.cancel clientToken, disposed := true }
  let gone := (alone.update (·.hangUp c.machine.now)).halt
  have hreleased : (c.release.update fun s => { s with ready := s.ready.disarm }) = gone := rfl
  have hcalled := ((Leads.refl ⟨c, none, .staying⟩).step (.dispose rfl)).step (.cancelAll rfl)
  have hdown : Leads ⟨c, none, .staying⟩ ⟨(alone.update (·.hangUp c.machine.now)).windDown.1, none,
      .ending (alone.update (·.hangUp c.machine.now)).windDown.2 none⟩ :=
    ((hcalled.step (.hold rfl rfl)).step (.hangUp rfl)).step (.windDown rfl)
  unfold Coordinator.windDown at hdown
  unfold Coordinator.dispose
  rw [hc, if_neg Bool.false_ne_true, hreleased]
  simp only [Machine.shutdown_eq] at hdown ⊢
  by_cases hs : gone.machine.tasks.shutDown = true
  · rw [if_pos hs] at hdown ⊢
    have hdone := hdown.step (.done rfl)
    exact hdone
  · rw [if_neg hs] at hdown ⊢
    let closed : Machine := { gone.machine with tasks := gone.machine.tasks.close }
    have hended := leads_ending gone.shutdownTicks (closed, none) hdown
    exact hended.step (.done rfl)

/-- A start is a run that nothing else comes between. One that fails is disposed of. -/
theorem leads_start (m : Machine) (o : Coordinator.Options) (mode : Mode) :
    ∃ leaving, Leads (starting m o mode) ⟨(Coordinator.start m o mode).1, none, leaving⟩ ∧
      match (Coordinator.start m o mode).2 with
      | .ok _ => leaving = .staying
      | .error _ => ∃ result, leaving = .returned result := by
  let c : Coordinator :=
    ⟨m.withPolling o.interval o.eager, none, false, o.synchronous, 1000⟩
  have hactive : Leads (starting m o mode) ⟨(c.activate mode true).1, none, .staying⟩ :=
    leads_activate (.refl _)
  have hd : (c.activate mode true).1.disposed = false := c.disposed_activate mode true
  have hgone := leads_dispose _ hd
  unfold Coordinator.start
  simp only
  generalize c.activate mode true = activated at hactive hgone ⊢
  obtain ⟨d, result⟩ := activated
  cases result with
  | ok u => exact ⟨_, hactive, rfl⟩
  | error f => exact ⟨_, hactive.trans hgone, _, rfl⟩

end

end Underway

end ToggleSync
