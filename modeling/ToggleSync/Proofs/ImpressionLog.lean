-- The impressions that a client has raised, read off its log. Nothing that a client does by itself
-- raises one: neither its start, nor a move of a loop, a call of the stream, a change of the mode
-- or the end.
import ToggleSync.Proofs.ClientSteps
import ToggleSync.Proofs.StartFailures

namespace ToggleSync

open Machine (clientToken)

def View.impressions : View Impression where
  see
    | .notice (.impression i) => some i
    | _ => none
  skips_write _ _ := rfl
  skips_error _ _ := rfl
  skips_announced := rfl
  skips_ready := rfl

theorem View.aside_impressions : impressions.Aside := by
  constructor <;> intros <;> rfl

namespace Sync

variable {s t u : Sync}

/-- Between two states of a client no impression was raised. -/
def Discreet (s t : Sync) : Prop := t.seen .impressions = s.seen .impressions

theorem Discreet.refl (s : Sync) : Discreet s s := rfl

theorem Discreet.trans (h : Discreet s t) (h' : Discreet t u) : Discreet s u :=
  Eq.trans h' h

theorem discreet_of_log (h : t.log = s.log) : Discreet s t := seen_of_log h _

theorem discreet_note (s : Sync) (now : Nat) {e : Entry} (h : View.impressions.see e = none) :
    Discreet s (s.note now e) := by
  rw [Discreet, seen_note, h]
  exact List.append_nil _

theorem discreet_stopStream (s : Sync) (now : Nat) : Discreet s (s.stopStream now) := by
  rw [Discreet, stopStream, seen_note]
  exact List.append_nil _

theorem discreet_startStream (s : Sync) (now : Nat) : Discreet s (s.startStream now).1 := by
  unfold startStream
  split
  · exact ((discreet_note s now rfl).trans (discreet_note _ now rfl)).trans (discreet_of_log rfl)
  · rw [Discreet, seen_note]
    exact List.append_nil _

theorem discreet_ask (s : Sync) (now : Nat) : Discreet s (s.ask now).1 := by
  rw [Discreet, seen_ask, View.aside_impressions.asked]
  exact List.append_nil _

theorem discreet_conclude (s : Sync) (now : Nat) (q : Polling.Question)
    (outcome : Except Failure Fetched) : Discreet s (s.conclude now q outcome).1 := by
  have hplain := plain_conclude s.polling s.engine q (s.heard q outcome)
  rw [Discreet, (s.concluded now q outcome).seen, cycleOf, View.aside_impressions.shows hplain]
  exact List.append_nil _

theorem discreet_report (s : Sync) (now : Nat) (i : Identity) : Discreet s (s.report now i) := by
  unfold report
  generalize s.engine.takeUsage s.calendar = taken
  obtain ⟨usage, engine⟩ := taken
  have hengine : Discreet s { s with engine } := discreet_of_log rfl
  cases usage with
  | none => exact hengine
  | some bucket => exact hengine.trans (discreet_note _ now rfl)

theorem discreet_listen (s : Sync) (x : StreamCall) : Discreet s (s.listen x).1 := by
  have hplain := plain_takes s.streaming s.engine s.rules x
  rw [Discreet, listen_eq, seen_performAll, View.aside_impressions.shows hplain, List.append_nil]
  exact seen_of_log rfl _

theorem discreet_restore (s : Sync) (now : Nat) : Discreet s (Client.restore s now) :=
  Client.along_restore (fun t _ h => h.trans (t.discreet_note now rfl))
    (fun t _ h => h.trans (t.discreet_note now rfl))
    (fun _ _ _ h => h.trans (discreet_of_log rfl)) (.refl s)

/-! ## Jobs -/

theorem discreet_begin (s : Sync) (now : Nat) (job : Job) :
    Discreet s (behaviour.begin now s job).1 := by
  cases job with
  | fetch =>
    have hask := s.discreet_ask now
    simp only [behaviour]
    split
    · exact hask.trans (discreet_conclude _ now _ _)
    · exact hask
  | register r => exact s.discreet_note now rfl
  | report i => exact s.discreet_report now i
  | announce => exact seen_fireReady s now _

end Sync

namespace Machine

variable {m : Machine}

theorem discreet_move (m : Machine) (i : Nat) (v : Move) :
    m.state.Discreet (m.move Sync.behaviour i v).state := by
  unfold Clockwork.move
  split
  · exact .refl _
  · rename_i l _
    cases v with
    | rest due => exact .refl _
    | leave => exact .refl _
    | begin => exact m.state.discreet_begin m.now l.task.job
    | finish cancelled =>
      simp only [Clockwork.finishRun]
      split
      · exact m.state.discreet_conclude m.now _ _
      · exact .refl _

theorem discreet_stable (s : Sync) :
    Clockwork.Stable Sync.behaviour fun m : Machine => s.Discreet m.state where
  move h _ := h.trans (discreet_move _ _ _)
  pass h _ := h

theorem discreet_shutdown (m : Machine) (timeout : Nat) :
    m.state.Discreet (m.shutdown timeout).1.state :=
  (discreet_stable m.state).shutdown id (fun _ => id) timeout (.refl _)

theorem discreet_runCycle (m : Machine) : m.state.Discreet m.runCycle.1.state := by
  cases ht : m.isCancelled clientToken with
  | true =>
    unfold runCycle
    rw [ht]
    exact .refl _
  | false =>
    have hwaited : m.state.Discreet m.waited.state :=
      (discreet_stable m.state).waitUntil _ _ (m.state.discreet_ask m.now)
    rw [runCycle_eq ht]
    exact hwaited.trans (Sync.discreet_conclude _ _ _ _)

theorem discreet_startPolling (m : Machine) (synchronous : Bool) :
    m.state.Discreet (m.startPolling synchronous).1.state := by
  rw [state_startPolling]
  unfold afterFirst
  split
  · exact m.discreet_runCycle
  · exact .refl _

end Machine

namespace Coordinator

theorem discreet_enter (c : Coordinator) (mode : Mode) (initial : Bool) :
    c.sync.Discreet (c.enter mode initial).sync := by
  cases initial with
  | true => exact .refl _
  | false => exact c.sync.discreet_note c.machine.now rfl

theorem discreet_enterPolling (c : Coordinator) (initial : Bool) :
    c.sync.Discreet (c.enterPolling initial).1.sync := by
  have hstop : c.sync.Discreet c.machine.stopStream.state :=
    c.sync.discreet_stopStream c.machine.now
  have hstart := c.machine.stopStream.discreet_startPolling (initial && c.synchronous)
  unfold enterPolling
  generalize c.machine.stopStream.startPolling (initial && c.synchronous) = started at hstart
  obtain ⟨machine, result⟩ := started
  cases result with
  | error f => exact hstop.trans hstart
  | ok u => exact (hstop.trans hstart).trans (discreet_enter { c with machine } .polling initial)

theorem discreet_enterStreaming (c : Coordinator) (initial : Bool) :
    c.sync.Discreet (c.enterStreaming initial).1.sync := by
  have hstop : c.machine.stopPolling.1.state = c.sync := c.machine.state_stopPolling
  unfold enterStreaming
  simp only
  generalize c.machine.stopPolling = stopped at hstop
  obtain ⟨quiet, result⟩ := stopped
  have hquiet : c.sync.Discreet quiet.state := Sync.discreet_of_log (congrArg Sync.log hstop)
  cases result with
  | error f => exact hquiet
  | ok u =>
    have hstart : c.sync.Discreet quiet.startStream.1.state :=
      hquiet.trans (quiet.state.discreet_startStream quiet.now)
    simp only
    generalize quiet.startStream = started at hstart
    obtain ⟨machine, result⟩ := started
    cases result with
    | ok u => exact hstart.trans (discreet_enter { c with machine } .streaming initial)
    | error f =>
      simp only
      split
      · exact hstart.trans (machine.discreet_startPolling false)
      · exact hstart

theorem discreet_activate (c : Coordinator) (mode : Mode) (initial : Bool) :
    c.sync.Discreet (c.activate mode initial).1.sync := by
  unfold activate
  split
  · exact .refl _
  · cases mode with
    | polling => exact c.discreet_enterPolling initial
    | streaming => exact c.discreet_enterStreaming initial

theorem discreet_release (c : Coordinator) : c.sync.Discreet c.release.sync := by
  let m : Machine := c.machine.cancel Machine.clientToken
  have hstop : c.sync.Discreet m.stopStream.stopPolling.1.state := by
    rw [m.stopStream.state_stopPolling]
    exact c.sync.discreet_stopStream c.machine.now
  exact hstop.trans (Sync.discreet_of_log rfl)

theorem discreet_dispose (c : Coordinator) : c.sync.Discreet c.dispose.1.sync := by
  unfold dispose
  split
  · exact .refl _
  · let gone := c.release.update fun s => { s with ready := s.ready.disarm }
    have hgone : c.sync.Discreet gone.sync :=
      c.discreet_release.trans (Sync.discreet_of_log rfl)
    exact hgone.trans (gone.machine.discreet_shutdown c.release.shutdownTicks)

theorem discreet_start (m : Machine) (o : Options) (mode : Mode) :
    m.state.Discreet (start m o mode).1.sync := by
  let c : Coordinator :=
    ⟨m.withPolling o.interval o.eager, none, false, o.synchronous, 1000⟩
  have hactivate : m.state.Discreet (c.activate mode true).1.sync := c.discreet_activate mode true
  unfold start
  simp only
  generalize c.activate mode true = activated at hactivate ⊢
  obtain ⟨d, result⟩ := activated
  cases result with
  | ok u => exact hactivate
  | error f => exact hactivate.trans d.discreet_dispose

end Coordinator

/-- A client that was built has raised no impression yet. -/
theorem Client.impressions_of_build {s : Settings} {i : Identity} {p : Parts} {c : Client}
    {result : Except Failure Unit} (h : build s i p = .ok (c, result)) :
    c.sync.seen .impressions = [] := by
  obtain rfl : c = (start s i p).1 := congrArg Prod.fst (start_of_build h)
  let m := Machine.base (begun s p) s.metricsInterval i
  have hbase : m.state = begun s p := Machine.state_base _ _ _
  have hbegun : (begun s p).seen .impressions = [] := Sync.discreet_restore _ 0
  have hstart := Coordinator.discreet_start m
    ⟨s.fetchInterval.ticks, s.eager, s.synchronous⟩ s.initialMode
  calc (start s i p).1.sync.seen .impressions
    _ = m.state.seen .impressions := hstart
    _ = [] := by rw [hbase, hbegun]

end ToggleSync
