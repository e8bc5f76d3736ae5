-- What it takes to change the mode. The fetch task can be stopped at any time and started once it
-- is stopped, the stream can be refused, and the first cycle of a start that is to get toggles at
-- once runs before there is any other.
import ToggleSync.Proofs.CycleMoves
import ToggleSync.Reporter

namespace ToggleSync

open Machine (fetchTask clientToken)

/-! ## The stream -/

namespace Sync

/-- The server holds no stream open, and the last that was seen of it is a stop. -/
def StreamStopped (s : Sync) : Prop :=
  s.backend.streamOpen = false ∧ (s.seen .streamTurns).getLast? = some false

/-- The server holds a stream open, and the last that was seen of it is a start. -/
def StreamStarted (s : Sync) : Prop :=
  s.backend.streamOpen = true ∧ (s.seen .streamTurns).getLast? = some true

theorem StreamStopped.along {s s' : Sync} (h : s.StreamStopped) (hp : SamePath s s') :
    s'.StreamStopped := by
  unfold StreamStopped
  rw [hp.streamOpen, hp.turns]
  exact h

theorem StreamStarted.along {s s' : Sync} (h : s.StreamStarted) (hp : SamePath s s') :
    s'.StreamStarted := by
  unfold StreamStarted
  rw [hp.streamOpen, hp.turns]
  exact h

theorem streamStopped_stopStream (s : Sync) (now : Nat) : (s.stopStream now).StreamStopped := by
  refine ⟨rfl, ?_⟩
  unfold stopStream
  rw [seen_note]
  exact List.getLast?_concat

theorem modes_stopStream (s : Sync) (now : Nat) :
    (s.stopStream now).seen .modes = s.seen .modes := by
  unfold stopStream
  rw [seen_note]
  exact List.append_nil _

theorem polled_stopStream (s : Sync) (now : Nat) : Polled s [] (s.stopStream now) :=
  polled_of_entry rfl rfl rfl rfl rfl

/-- A stream that is not refused is open from then on. -/
theorem startStream_of_open {s : Sync} (h : s.backend.startFailure = none) (now : Nat) :
    ∃ s', s.startStream now = (s', .ok ()) ∧ s'.StreamStarted ∧ s'.seen .modes = s.seen .modes ∧
      Polled s [] s' := by
  unfold startStream
  rw [h]
  refine ⟨_, rfl, ⟨rfl, ?_⟩, ?_, polled_of_entry rfl rfl rfl rfl rfl⟩
  · rw [seen_note]
    exact List.getLast?_concat
  · rw [seen_note]
    exact List.append_nil _

/-- A stream that is refused leaves everything as it was, but for a failure that is told of. -/
theorem startStream_of_refused {s : Sync} {f : Failure} (h : s.backend.startFailure = some f)
    (now : Nat) :
    ∃ s', s.startStream now = (s', .error (.reported f)) ∧ SamePath s s' ∧ Polled s [] s' := by
  unfold startStream
  rw [h]
  have hlog : ∀ {α : Type} (v : View α), v.see (.streamStarted true) = none →
      ((s.note now (.streamStarted true)).raise now (.error .client f)).seen v = s.seen v := by
    intro α v hv
    rw [seen_raise_error, seen_note, hv]
    exact List.append_nil _
  refine ⟨_, rfl, ⟨rfl, hlog _ rfl, hlog _ rfl⟩, rfl, rfl, ?_, ?_⟩
  · rw [List.append_nil]
    exact hlog .backups rfl
  · rw [List.length_nil, Nat.add_zero]
    exact congrArg List.length (hlog .updates rfl)

end Sync

/-! ## The fetch task -/

namespace Machine

variable {o : Coordinator.Options} {m : Machine}

/-- Nothing that a task waits for is new. -/
theorem stopPolling_of_kept (h : m.tasks.Kept o) :
    ∃ tasks, m.stopPolling = ({ m with tasks }, .ok ()) ∧ tasks.Kept o ∧ tasks.Still ∧
      ∀ asked, tasks.Awaits asked → m.tasks.Awaits asked := by
  obtain ⟨tasks, hstop, hrest⟩ := h.stop
  refine ⟨tasks, ?_, hrest⟩
  simp only [stopPolling, Clockwork.stopTask, hstop]
  rfl

theorem startPolling_of_still (h : m.tasks.Kept o) (hs : m.tasks.Still)
    (hc : m.cancelled.contains clientToken = false) :
    ∃ tasks, m.startPolling false = ({ m with tasks }, .ok ()) ∧ tasks.Kept o ∧ tasks.Live o ∧
      tasks.isRunning m.cancelled fetchTask = true ∧
      ∀ asked, tasks.Awaits asked → m.tasks.Awaits asked := by
  obtain ⟨tasks, hstart, hrest⟩ := h.start hs hc
  refine ⟨tasks, ?_, hrest⟩
  simp only [startPolling, Clockwork.startTask, Bool.false_and, Bool.false_eq_true, if_false,
    hstart]
  rfl

/-- A start that is to get toggles at once runs a cycle first, and then is like any other. -/
theorem startPolling_of_ok {synchronous : Bool} (h : (m.startPolling synchronous).2 = .ok ()) :
    m.startPolling synchronous =
      (if synchronous && !m.state.polling.fetched then m.runCycle.1 else m).startPolling false := by
  unfold startPolling at h ⊢
  simp only [Bool.false_and, Bool.false_eq_true, if_false]
  by_cases hb : (synchronous && !m.state.polling.fetched) = true
  · simp only [hb, if_true] at h ⊢
    cases hr : m.runCycle.2 with
    | error f =>
      rw [hr] at h
      cases h
    | ok u => rfl
  · simp only [hb, if_false, Bool.false_eq_true]

end Machine

/-! ## The first cycle -/

/-- A machine without any loop of the fetch task, and what was taken since a state of the client. -/
structure Machine.Bare (o : Coordinator.Options) (s : Sync) (accepted : List Backup) (m : Machine) :
    Prop where
  kept : m.tasks.Kept o
  token : m.cancelled.contains clientToken = false
  bare : ∀ {i : Nat} {l : Loop Job Asked}, ¬ m.tasks.HasLoop fetchTask i l
  path : SamePath s m.state
  polled : Polled s accepted m.state

namespace Machine.Bare

variable {o : Coordinator.Options} {s : Sync} {accepted : List Backup} {m : Machine}

theorem still (h : m.Bare o s accepted) : m.tasks.Still := fun hl => absurd hl h.bare

theorem not_fetch (h : m.Bare o s accepted) {i : Nat} {l : Loop Job Asked}
    (hl : m.tasks.loops[i]? = some l) : l.task.job ≠ .fetch :=
  fun hj => h.bare ⟨hl, h.kept.fetching hl hj⟩

theorem awaits_nothing (h : m.Bare o s accepted) (asked : Asked) : ¬ m.tasks.Awaits asked := by
  rintro ⟨i, l, due, stubborn, hl, hp⟩
  exact h.not_fetch hl (h.kept.waiting hl hp)

/-- The loops of the other tasks take no states. -/
theorem brings_nothing (h : m.Bare o s accepted) {i : Nat} {l : Loop Job Asked} {v : Move}
    (hm : m.CanMove i l v) : m.brings l v = [] := by
  have hj := h.not_fetch hm.loop
  unfold brings ends?
  cases v with
  | rest due => rfl
  | leave => rfl
  | begin =>
    cases hjob : l.task.job with
    | fetch => exact absurd hjob hj
    | register r => rfl
    | report r => rfl
    | announce => rfl
  | finish cancelled =>
    cases hm.able with
    | finish _ due stubborn asked hp => exact absurd (h.kept.waiting hm.loop hp) hj

/-- The account begins anew with any change of the client. -/
theorem anew (h : m.Bare o s accepted) (s' : Sync) : Bare o s' [] { m with state := s' } :=
  ⟨h.kept, h.token, h.bare, .refl _, .refl _⟩

theorem stable (o : Coordinator.Options) (s : Sync) :
    Clockwork.Stable Sync.behaviour (Bare o s []) where
  move {m i l v} h hm := by
    obtain ⟨hpath, hpolled⟩ := move_keeps hm
    rw [h.brings_nothing hm] at hpolled
    refine ⟨h.kept.move hm, ?_, ?_, h.path.trans hpath, h.polled.trans hpolled⟩
    · rw [hm.cancelled]
      exact h.token
    · intro j k hk
      obtain ⟨⟨phase, ht⟩, _⟩ := hm.tasks Sync.behaviour
      rw [ht, Tasks.setPhase_eq_alter] at hk
      obtain ⟨k', hk', _⟩ := Tasks.hasLoop_of_alter hk (fun _ => rfl)
      exact h.bare hk'
  pass h _ := ⟨h.kept, h.token, h.bare, h.path, h.polled⟩

/-- The first cycle takes at most what is accepted of the answer to it. -/
theorem runCycle (h : m.Bare o m.state []) :
    ∃ sent outcome, m.runCycle.1.Bare o m.state (accepted? sent outcome).toList := by
  have hasked : Bare o m.state [] { m with state := (m.state.ask m.now).1 } :=
    ⟨h.kept, h.token, h.bare, samePath_ask _ _, Sync.polled_ask _ _⟩
  have hwaited := (stable o m.state).waitUntil (fun _ => false) (m.state.ask m.now).2.2.ticks hasked
  refine ⟨(m.state.ask m.now).2.1.tag, (m.state.ask m.now).2.2.outcome, ?_⟩
  unfold Machine.runCycle
  rw [show m.isCancelled clientToken = false from h.token]
  simp only [Bool.false_eq_true, if_false]
  exact ⟨hwaited.kept, hwaited.token, hwaited.bare,
    hwaited.path.trans (samePath_conclude _ _ _ _),
    hwaited.polled.trans (Sync.polled_conclude _ _ _ _)⟩

end Machine.Bare

/-! ## Before the start -/

namespace Machine

/-- The machine of a client before it polls or streams: there are its reports, if it has any. -/
def base (sync : Sync) (reports : Option Span) (i : Identity) : Machine :=
  (startReports (.new sync) reports i).1

/-- No task has begun, and none of them fetches. -/
structure Fresh (m : Machine) : Prop where
  opened : m.tasks.shutDown = false
  token : m.cancelled.contains clientToken = false
  slot : m.tasks.slot? fetchTask = none
  queued : ∀ l ∈ m.tasks.loops, l.task.name ≠ fetchTask ∧ l.task.job ≠ .fetch ∧ l.phase = .queued

theorem fresh_base (sync : Sync) (reports : Option Span) (i : Identity) :
    (base sync reports i).Fresh := by
  unfold base startReports
  split
  · exact ⟨rfl, rfl, rfl, by intro l hl; cases hl⟩
  · rename_i interval _
    refine ⟨rfl, rfl, rfl, ?_⟩
    intro l hl
    have hloops : l = ⟨⟨registerTask, 0, true, .register (i.registration interval sync.calendar)⟩,
        clientToken, false, none, .queued⟩ ∨
        l = ⟨⟨reportTask, interval.ticks, false, .report i⟩, clientToken, false, none, .queued⟩ :=
      (List.mem_cons.mp hl).imp_right List.mem_singleton.mp
    rcases hloops with rfl | rfl
    · exact ⟨(by decide : registerTask ≠ fetchTask), by simp, rfl⟩
    · exact ⟨(by decide : reportTask ≠ fetchTask), by simp, rfl⟩

theorem state_base (sync : Sync) (reports : Option Span) (i : Identity) :
    (base sync reports i).state = sync := by
  unfold base startReports
  split <;> rfl

end Machine

/-- Setting the fetch task up gives it no loop yet. -/
theorem Machine.Fresh.withPolling {m : Machine} (h : m.Fresh) (o : Coordinator.Options) :
    (m.withPolling o.interval o.eager).Bare o m.state [] := by
  have htasks : (m.withPolling o.interval o.eager).tasks =
      { m.tasks with slots := Tasks.putSlot ⟨o.fetchSpec, clientToken, none⟩ m.tasks.slots } := by
    show m.tasks.configure o.fetchSpec clientToken = _
    unfold Tasks.configure
    rw [show o.fetchSpec.name = fetchTask from rfl, h.slot]
    rfl
  have hslot := Tasks.find?_putSlot ⟨o.fetchSpec, clientToken, none⟩ m.tasks.slots
  have hnone : ∀ {i : Nat} {l : Loop Job Asked}, ¬ m.tasks.HasLoop fetchTask i l :=
    fun hl => (h.queued _ (List.mem_of_getElem? hl.1)).1 hl.2
  refine ⟨?_, h.token, ?_, .refl _, .refl _⟩
  · rw [htasks]
    refine ⟨⟨none, hslot⟩, ?_, ?_, fun hl => absurd hl hnone, ?_, fun _ hl => absurd hl hnone,
      h.opened⟩
    · refine ⟨fun hl => absurd hl hnone, fun hl => absurd hl hnone, fun _ hl => absurd hl hnone, ?_⟩
      intro s p hs hrun
      cases Option.some.inj (hs.symm.trans hslot)
      cases hrun
    · exact fun hl hj => absurd hj (h.queued _ (List.mem_of_getElem? hl)).2.1
    · intro i l due stubborn asked hl hp
      rw [(h.queued _ (List.mem_of_getElem? hl)).2.2] at hp
      cases hp
  · rw [htasks]
    exact hnone

/-! ## Starting -/

namespace Coordinator

variable {m : Machine} {o : Options}

theorem start_of_ok {initial : Mode} (h : (start m o initial).2 = .ok ()) :
    (⟨m.withPolling o.interval o.eager, none, false, o.synchronous, 1000⟩ :
      Coordinator).activate initial true = ((start m o initial).1, .ok ()) := by
  unfold start at h ⊢
  simp only at h ⊢
  split at h
  · rename_i c u hact
    rw [hact]
  · cases h

/-- A start in polling may take the state of its first cycle, and leaves the fetch task live. -/
theorem start_polling (hm : m.Fresh) (h : (start m o .polling).2 = .ok ()) :
    ∃ (m' : Machine) (tasks : Tasks Job Asked) (sent : Option String)
        (outcome : Except Failure Fetched),
      m'.Bare o (m.state.stopStream m.now) (accepted? sent outcome).toList ∧
      tasks.Kept o ∧ tasks.Live o ∧ (∀ asked, ¬ tasks.Awaits asked) ∧
      (start m o .polling).1 =
        ⟨{ m' with tasks }, some .polling, false, o.synchronous, 1000⟩ := by
  have hstopped := (hm.withPolling o).anew (m.state.stopStream m.now)
  have hact := start_of_ok h
  simp only [activate, enterPolling, Bool.false_or, decide_eq_true_eq, reduceCtorEq, if_false,
    Bool.true_and] at hact
  obtain ⟨m', sent, outcome, hbare, heq⟩ : ∃ (m' : Machine) (sent : Option String)
      (outcome : Except Failure Fetched),
      m'.Bare o (m.state.stopStream m.now) (accepted? sent outcome).toList ∧
      (m.withPolling o.interval o.eager).stopStream.startPolling o.synchronous =
        m'.startPolling false := by
    cases hr : (m.withPolling o.interval o.eager).stopStream.startPolling o.synchronous with
    | mk machine result =>
      cases result with
      | error f =>
        rw [hr] at hact
        have hbad : (.error f : Except Failure Unit) = .ok () := congrArg Prod.snd hact
        cases hbad
      | ok u =>
        have hfirst := Machine.startPolling_of_ok (congrArg Prod.snd hr)
        rw [← hr, hfirst]
        split
        · obtain ⟨sent, outcome, hcycle⟩ := Machine.Bare.runCycle
            (m := (m.withPolling o.interval o.eager).stopStream) hstopped
          exact ⟨_, sent, outcome, hcycle, rfl⟩
        · exact ⟨_, none, .error .cancelled, hstopped, rfl⟩
  obtain ⟨tasks, hstart, hkept, hlive, _, hawaits⟩ :=
    Machine.startPolling_of_still hbare.kept hbare.still hbare.token
  refine ⟨m', tasks, sent, outcome, hbare, hkept, hlive, ?_, ?_⟩
  · exact fun asked ha => hbare.awaits_nothing asked (hawaits asked ha)
  · rw [heq, hstart] at hact
    exact (congrArg Prod.fst hact).symm

/-- A start in streaming takes nothing yet. -/
theorem start_streaming (hm : m.Fresh) (h : (start m o .streaming).2 = .ok ()) :
    ∃ (tasks : Tasks Job Asked) (s : Sync), tasks.Kept o ∧ tasks.Still ∧
      (∀ asked, ¬ tasks.Awaits asked) ∧ s.StreamStarted ∧ s.seen .modes = m.state.seen .modes ∧
      Polled m.state [] s ∧
      (start m o .streaming).1 =
        ⟨{ m with tasks, state := s }, some .streaming, false, o.synchronous, 1000⟩ := by
  have hbare := hm.withPolling o
  have hact := start_of_ok h
  obtain ⟨tasks, hstop, hkept, hstill, hawaits⟩ := Machine.stopPolling_of_kept hbare.kept
  simp only [activate, enterStreaming, Bool.false_or, decide_eq_true_eq, reduceCtorEq, if_false,
    hstop, Machine.startStream] at hact
  cases hf : m.state.backend.startFailure with
  | some f =>
    obtain ⟨s, hs, _⟩ := Sync.startStream_of_refused hf m.now
    have hs' : Sync.startStream (m.withPolling o.interval o.eager).state
        (m.withPolling o.interval o.eager).now = _ := hs
    rw [hs'] at hact
    have hbad : (.error (.reported f) : Except Failure Unit) = .ok () := congrArg Prod.snd hact
    cases hbad
  | none =>
    obtain ⟨s, hs, hstarted, hmodes, hpolled⟩ := Sync.startStream_of_open hf m.now
    have hs' : Sync.startStream (m.withPolling o.interval o.eager).state
        (m.withPolling o.interval o.eager).now = _ := hs
    rw [hs'] at hact
    refine ⟨tasks, s, hkept, hstill, ?_, hstarted, hmodes, hpolled,
      (congrArg Prod.fst hact).symm⟩
    exact fun asked ha => hbare.awaits_nothing asked (hawaits asked ha)

/-! ## Changing -/

section

variable {c : Coordinator}

theorem changeMode_of_active {mode : Mode} (h : c.active = some mode) :
    c.changeMode mode = (c, .ok ()) := by
  simp [changeMode, activate, h]

/-- The coordinator after a change that was made and told of. -/
def changed (c : Coordinator) (mode : Mode) (tasks : Tasks Job Asked) (s : Sync) : Coordinator :=
  { c with
    machine := { c.machine with tasks, state := s.raise c.machine.now (.modeChanged mode) }
    active := some mode }

theorem change_to_polling (hd : c.disposed = false) (ha : c.active = some .streaming)
    (hk : c.machine.tasks.Kept o) (hs : c.machine.tasks.Still)
    (hc : c.machine.cancelled.contains clientToken = false) :
    ∃ tasks, c.changeMode .polling =
        (c.changed .polling tasks (c.sync.stopStream c.machine.now), .ok ()) ∧
      tasks.Kept o ∧ tasks.Live o ∧ tasks.isRunning c.machine.cancelled fetchTask = true ∧
      ∀ asked, tasks.Awaits asked → c.machine.tasks.Awaits asked := by
  obtain ⟨tasks, hstart, hrest⟩ :=
    Machine.startPolling_of_still (m := c.machine.stopStream) hk hs hc
  refine ⟨tasks, ?_, hrest⟩
  simp only [changeMode, activate, changed, hd, ha, enterPolling, Bool.false_and, Bool.false_or,
    Option.some.injEq, reduceCtorEq, decide_false, Bool.false_eq_true, if_false, hstart]
  rfl

theorem change_to_streaming (hd : c.disposed = false) (ha : c.active = some .polling)
    (hk : c.machine.tasks.Kept o) (hopen : c.sync.backend.startFailure = none) :
    ∃ (tasks : Tasks Job Asked) (s : Sync),
      c.changeMode .streaming = (c.changed .streaming tasks s, .ok ()) ∧
      tasks.Kept o ∧ tasks.Still ∧ (∀ asked, tasks.Awaits asked → c.machine.tasks.Awaits asked) ∧
      s.StreamStarted ∧ s.seen .modes = c.sync.seen .modes ∧ Polled c.sync [] s := by
  obtain ⟨tasks, hstop, hkept, hstill, hawaits⟩ := Machine.stopPolling_of_kept hk
  obtain ⟨s, hs, hrest⟩ := Sync.startStream_of_open hopen c.machine.now
  refine ⟨tasks, s, ?_, hkept, hstill, hawaits, hrest⟩
  simp only [changeMode, activate, changed, hd, ha, enterStreaming, Bool.false_or,
    Option.some.injEq, reduceCtorEq, decide_false, Bool.false_eq_true, if_false, hstop,
    Machine.startStream]
  have hs' : c.machine.state.startStream c.machine.now = _ := hs
  rw [hs']
  rfl

/-- When the stream is refused, polling is stopped and started again, and the failure is handed
on. -/
theorem change_refused {f : Failure} (hd : c.disposed = false) (ha : c.active = some .polling)
    (hk : c.machine.tasks.Kept o) (hc : c.machine.cancelled.contains clientToken = false)
    (hf : c.sync.backend.startFailure = some f) :
    ∃ (tasks : Tasks Job Asked) (s : Sync),
      c.changeMode .streaming =
        ({ c with machine := { c.machine with tasks, state := s } }, .error (.reported f)) ∧
      tasks.Kept o ∧ tasks.Live o ∧ tasks.isRunning c.machine.cancelled fetchTask = true ∧
      (∀ asked, tasks.Awaits asked → c.machine.tasks.Awaits asked) ∧
      SamePath c.sync s ∧ Polled c.sync [] s := by
  obtain ⟨stopped, hstop, hkept, hstill, hawaits⟩ := Machine.stopPolling_of_kept hk
  obtain ⟨s, hs, hrest⟩ := Sync.startStream_of_refused hf c.machine.now
  obtain ⟨tasks, hstart, hkept', hlive, hrunning, hawaits'⟩ :=
    Machine.startPolling_of_still (m := { c.machine with tasks := stopped, state := s })
      hkept hstill hc
  refine ⟨tasks, s, ?_, hkept', hlive, hrunning, fun a h => hawaits a (hawaits' a h), hrest⟩
  simp only [changeMode, activate, hd, ha, enterStreaming, Bool.false_or, Option.some.injEq,
    reduceCtorEq, decide_false, Bool.false_eq_true, if_false, hstop, Machine.startStream]
  have hs' : c.machine.state.startStream c.machine.now = _ := hs
  rw [hs']
  simp only [hstart, if_true]

/-- What a request for a mode can lead to, as long as nothing was disposed of. -/
inductive Switched (o : Options) (c : Coordinator) : Mode → Coordinator → Prop
  | stay {mode : Mode} : c.active = some mode → Switched o c mode c
  | polling {tasks : Tasks Job Asked} : c.active = some .streaming → tasks.Kept o → tasks.Live o →
      (∀ asked, tasks.Awaits asked → c.machine.tasks.Awaits asked) →
      Switched o c .polling (c.changed .polling tasks (c.sync.stopStream c.machine.now))
  | streaming {tasks : Tasks Job Asked} {s : Sync} : c.active = some .polling → tasks.Kept o →
      tasks.Still → (∀ asked, tasks.Awaits asked → c.machine.tasks.Awaits asked) →
      s.StreamStarted → s.seen .modes = c.sync.seen .modes → Polled c.sync [] s →
      Switched o c .streaming (c.changed .streaming tasks s)
  | refused {tasks : Tasks Job Asked} {s : Sync} : c.active = some .polling → tasks.Kept o →
      tasks.Live o → (∀ asked, tasks.Awaits asked → c.machine.tasks.Awaits asked) →
      SamePath c.sync s → Polled c.sync [] s →
      Switched o c .streaming { c with machine := { c.machine with tasks, state := s } }

theorem switched {mode : Mode} (hd : c.disposed = false) (ha : c.active = some mode)
    (hk : c.machine.tasks.Kept o) (hc : c.machine.cancelled.contains clientToken = false)
    (hs : mode = .streaming → c.machine.tasks.Still) (request : Mode) :
    Switched o c request (c.changeMode request).1 := by
  by_cases heq : mode = request
  · rw [changeMode_of_active (heq ▸ ha)]
    exact .stay (heq ▸ ha)
  · cases request with
    | polling =>
      cases mode with
      | polling => exact absurd rfl heq
      | streaming =>
        obtain ⟨tasks, hchange, hkept, hlive, _, hawaits⟩ := change_to_polling hd ha hk (hs rfl) hc
        rw [hchange]
        exact .polling ha hkept hlive hawaits
    | streaming =>
      cases mode with
      | streaming => exact absurd rfl heq
      | polling =>
        cases hf : c.sync.backend.startFailure with
        | none =>
          obtain ⟨tasks, s, hchange, hkept, hstill, hawaits, hstarted, hmodes, hp⟩ :=
            change_to_streaming hd ha hk hf
          rw [hchange]
          exact .streaming ha hkept hstill hawaits hstarted hmodes hp
        | some f =>
          obtain ⟨tasks, s, hchange, hkept, hlive, _, hawaits, hpath, hp⟩ :=
            change_refused hd ha hk hc hf
          rw [hchange]
          exact .refused ha hkept hlive hawaits hpath hp

end

end Coordinator

end ToggleSync
