-- A start that fails leaves nothing running. By then the reports have been started, a first cycle
-- may have been waited for, or a stream may have been refused. Nothing of it tells that the client
-- is ready, or tells of a mode; the start is undone by a disposal, and a disposal is final.
import ToggleSync.Proofs.Disposal
import ToggleSync.Proofs.StartFailures

namespace ToggleSync

open Machine (clientToken)

/-! ## What is told of -/

/-- Between two states a client told neither that it is ready nor of a change of the mode. -/
structure Sync.Untold (s t : Sync) : Prop where
  readies : t.readies = s.readies
  modes : t.seen .modes = s.seen .modes

/-- A cycle that fails does not say that there are toggles. -/
theorem Polling.unannounced_of_error {p : Polling} {e : Engine} {q : Question}
    {outcome : Except Failure Fetched} {f : Failure}
    (h : (p.conclude e q outcome).result = .error f) :
    (p.conclude e q outcome).effects.contains .announce = false := by
  rcases outcome with g | fetched
  · cases g <;> rfl
  · cases hn : news? q.tag fetched with
    | none => simp [conclude, hn] at h
    | some new =>
      obtain ⟨state, tag⟩ := new
      cases ht : e.takeState state with
      | error x =>
        simp only [conclude, hn, ht]
        rfl
      | ok engine => simp [conclude, hn, ht] at h

namespace Sync

variable {s t u : Sync}

theorem Untold.refl (s : Sync) : Untold s s := ⟨rfl, rfl⟩

theorem Untold.trans (h : Untold s t) (h' : Untold t u) : Untold s u :=
  ⟨h'.readies.trans h.readies, h'.modes.trans h.modes⟩

theorem Calm.untold (h : Calm s t) (hm : t.seen .modes = s.seen .modes) : Untold s t :=
  ⟨h.rang.readies, hm⟩

theorem untold_note (s : Sync) (now : Nat) {e : Entry} (hr : e.isReady = false)
    (hm : View.modes.see e = none) : Untold s (s.note now e) := by
  refine (s.calm_note now hr).untold ?_
  rw [seen_note, hm]
  exact List.append_nil _

theorem untold_restore (s : Sync) (now : Nat) : Untold s (Client.restore s now) :=
  Client.along_restore (fun t _ h => h.trans (untold_note t now rfl rfl))
    (fun t _ h => h.trans (untold_note t now rfl rfl)) (fun _ _ _ h => h.trans ⟨rfl, rfl⟩) (.refl s)

theorem untold_stopStream (s : Sync) (now : Nat) : Untold s (s.stopStream now) :=
  (s.calm_stopStream now).untold (s.modes_stopStream now)

theorem untold_startStream (s : Sync) (now : Nat) : Untold s (s.startStream now).1 := by
  refine (s.calm_startStream now).untold ?_
  cases h : s.backend.startFailure with
  | none =>
    obtain ⟨t, heq, _, hmodes, _⟩ := startStream_of_open h now
    rw [heq]
    exact hmodes
  | some f =>
    obtain ⟨t, heq, hpath, _⟩ := startStream_of_refused h now
    rw [heq]
    exact hpath.modes

theorem untold_conclude {now : Nat} {q : Polling.Question} {outcome : Except Failure Fetched}
    {f : Failure} (h : (s.conclude now q outcome).2 = .error f) :
    Untold s (s.conclude now q outcome).1 := by
  obtain ⟨hrang, _⟩ := s.rang_conclude now q outcome
  rw [result_conclude, cycleOf] at h
  rw [cycleOf, Polling.unannounced_of_error h] at hrang
  exact ⟨hrang.readies, (samePath_conclude s now q outcome).modes⟩

end Sync

/-! ## A start that fails -/

namespace Machine

variable {m m' : Machine} {o : Coordinator.Options}

/-- While a first cycle waits for its answer, only reports go on. -/
theorem untold_stable (s : Sync) : Clockwork.Stable Sync.behaviour
    fun m : Machine => s.Untold m.state ∧ m.Idle where
  move := by
    rintro m i l v ⟨hs, hidle⟩ hm
    obtain ⟨hcalm, hstill⟩ := hidle.move hm
    exact ⟨hs.trans (hcalm.untold (move_keeps hm).1.modes), hstill⟩
  pass h _ := h

theorem Idle.untold_runCycle (hidle : m.Idle) {f : Failure} (h : m.runCycle.2 = .error f) :
    m.state.Untold m.runCycle.1.state := by
  cases ht : m.isCancelled clientToken with
  | true =>
    unfold Machine.runCycle
    rw [ht]
    exact .refl _
  | false =>
    have hasked : m.state.Untold (m.state.ask m.now).1 :=
      (m.state.calm_ask m.now).untold (samePath_ask _ _).modes
    have hwaited : m.state.Untold m.waited.state ∧ m.waited.Idle :=
      (untold_stable m.state).waitUntil _ _ ⟨hasked, hidle⟩
    rw [runCycle_eq ht] at h ⊢
    exact hwaited.1.trans (Sync.untold_conclude h)

/-- The fetch task can always be started, so polling fails only where its first cycle does. -/
theorem Bare.untold_startPolling (hm : m.Bare o m.state []) (hidle : m.Idle) (synchronous : Bool)
    (f : Failure) (h : (m.startPolling synchronous).2 = .error f) :
    m.state.Untold (m.startPolling synchronous).1.state := by
  rw [state_startPolling]
  rw [startPolling_eq] at h
  unfold afterFirst
  cases hb : synchronous && !m.state.polling.fetched with
  | false => exact .refl _
  | true =>
    obtain ⟨sent, outcome, hcycled⟩ := hm.runCycle
    obtain ⟨tasks, hstart, _⟩ := startPolling_of_still hcycled.kept hcycled.still hcycled.token
    rw [if_pos rfl]
    refine hidle.untold_runCycle (f := f) ?_
    rw [hb, if_pos rfl] at h
    generalize m.runCycle = cycled at h hstart ⊢
    obtain ⟨m', result⟩ := cycled
    cases result with
    | error g => exact h
    | ok u =>
      have hstarted : (m'.startPolling false).2 = .ok () := congrArg Prod.snd hstart
      cases hstarted.symm.trans h

end Machine

namespace Coordinator

variable {c : Coordinator} {o : Options} {m : Machine} {mode : Mode} {f : Failure}

/-- A first mode that cannot be entered was not told of. -/
theorem untold_activate (hm : c.machine.Bare o c.sync []) (hidle : c.machine.Idle)
    (ha : c.active = none) (h : (c.activate mode true).2 = .error f) :
    c.sync.Untold (c.activate mode true).1.sync := by
  unfold activate at h ⊢
  by_cases hb : (c.disposed || decide (c.active = some mode)) = true
  · rw [if_pos hb] at h
    cases h
  · rw [if_neg hb] at h ⊢
    cases mode with
    | polling =>
      have hstop : c.sync.Untold c.machine.stopStream.state :=
        c.sync.untold_stopStream c.machine.now
      have hbare : c.machine.stopStream.Bare o c.machine.stopStream.state [] := hm.anew _
      have hquiet : c.machine.stopStream.Idle := hidle
      have hstart := hbare.untold_startPolling hquiet (true && c.synchronous)
      simp only [enterPolling] at h ⊢
      generalize c.machine.stopStream.startPolling (true && c.synchronous) = started at h hstart ⊢
      obtain ⟨machine, result⟩ := started
      cases result with
      | error g => exact hstop.trans (hstart g rfl)
      | ok u => cases h
    | streaming =>
      have hstop := c.machine.state_stopPolling
      simp only [enterStreaming] at h ⊢
      generalize c.machine.stopPolling = stopped at h hstop ⊢
      obtain ⟨quiet, result⟩ := stopped
      have hquiet : c.sync.Untold quiet.state := by
        rw [show quiet.state = c.sync from hstop]
        exact .refl _
      cases result with
      | error g => exact hquiet
      | ok u =>
        have hstart : quiet.state.Untold quiet.startStream.1.state :=
          quiet.state.untold_startStream quiet.now
        simp only at h ⊢
        generalize quiet.startStream = started at h hstart ⊢
        obtain ⟨machine, result⟩ := started
        cases result with
        | error g =>
          simp only [ha, reduceCtorEq, if_false]
          exact hquiet.trans hstart
        | ok u => cases h

end Coordinator

/-! ## Its undoing -/

/-- What ends in time while a client is wound down comes too late to be told of. -/
theorem Machine.untold_shutdown {m : Machine} (htacit : m.tasks.Guarded IsTacit)
    (ha : m.state.ready.armed = false) (timeout : Nat) :
    m.state.Untold (m.shutdown timeout).1.state := by
  let late (m' : Machine) : Prop :=
    m'.tasks.Guarded IsTacit ∧ m'.state.ready.armed = false ∧ m.state.Untold m'.state
  have hlate : Clockwork.Stable Sync.behaviour late := by
    refine ⟨?_, fun h _ => h⟩
    rintro m' i l v ⟨htacit', ha', hm'⟩ hv
    have hbeside := Machine.Beside.move hv
    obtain ⟨fire, hrang, _⟩ := (hbeside.heeds htacit').rang
    have hreadies := (hrang.silent ha').2
    exact ⟨hbeside.guarded htacit', hrang.armed.trans ha',
      hm'.trans ⟨hreadies, hbeside.samePath.modes⟩⟩
  have hshut : late (m.shutdown timeout).1 := by
    refine hlate.shutdown ?_ ?_ timeout ⟨htacit, ha, .refl _⟩
    · exact fun h => ⟨h.1.close (Tasks.lasting_guarded _), h.2⟩
    · exact fun i h => ⟨h.1.setPhase i .ended, h.2⟩
  exact hshut.2.2

namespace Coordinator

variable {c : Coordinator} {o : Options} {m : Machine} {mode : Mode} {f : Failure}

theorem untold_release (c : Coordinator) : c.sync.Untold c.release.sync := by
  let called : Machine := c.machine.cancel clientToken
  have hstop : called.stopStream.stopPolling.1.state = c.sync.stopStream c.machine.now :=
    called.stopStream.state_stopPolling
  refine c.calm_release.state.untold ?_
  have hlog : called.stopStream.stopPolling.1.state.log =
      (c.sync.stopStream c.machine.now).log := congrArg Sync.log hstop
  exact (Sync.seen_of_log hlog .modes).trans (c.sync.modes_stopStream c.machine.now)

theorem guarded_release {Q : TaskSpec Job → String → Prop} (h : c.machine.tasks.Guarded Q) :
    c.release.machine.tasks.Guarded Q := by
  let called : Machine := c.machine.cancel clientToken
  exact (worked_stopPolling { c with machine := called.stopStream }).tasks h

theorem untold_dispose (h : c.machine.tasks.Guarded IsTacit) :
    c.sync.Untold c.dispose.1.sync := by
  unfold dispose
  split
  · exact .refl _
  · let gone := c.release.update fun s => { s with ready := s.ready.disarm }
    have hdisarmed : c.release.sync.Untold gone.sync := ⟨rfl, rfl⟩
    have hgone : gone.machine.tasks.Guarded IsTacit := guarded_release h
    have hshut := Machine.untold_shutdown hgone rfl c.shutdownTicks
    exact (c.untold_release.trans hdisarmed).trans hshut

/-- Of a start that fails nothing was told. -/
theorem untold_start (hm : m.Fresh)
    (honly : m.tasks.Only (fun j => j ≠ .fetch ∧ j ≠ .announce) fun _ => False)
    (h : (start m o mode).2 = .error f) : m.state.Untold (start m o mode).1.sync := by
  let c : Coordinator :=
    ⟨m.withPolling o.interval o.eager, none, false, o.synchronous, 1000⟩
  have hidle : c.machine.Idle := Tasks.Loops.configure honly.loops _ _
  have htacit : c.machine.tasks.Guarded IsTacit :=
    (honly.guarded fun _ _ hj => hj.2).configure (fun _ => id) nofun
  have hactivate : ∀ g, (c.activate mode true).2 = .error g →
      m.state.Untold (c.activate mode true).1.sync :=
    fun g hg => untold_activate (hm.withPolling o) hidle rfl hg
  have hactive : (c.activate mode true).1.machine.tasks.Guarded IsTacit := by
    obtain ⟨history, hrun⟩ := Underway.leads_activate (.refl ⟨(c.begin mode true).1,
      (c.begin mode true).2, .staying⟩)
    exact hrun.guarded ((c.worked_begin mode true).tasks htacit)
  unfold start at h ⊢
  simp only at h ⊢
  generalize c.activate mode true = activated at h hactivate hactive ⊢
  obtain ⟨d, result⟩ := activated
  cases result with
  | ok u => cases h
  | error g => exact (hactivate g rfl).trans (untold_dispose hactive)

theorem isCancelled_update (c : Coordinator) (g : Sync → Sync) :
    (c.update g).isCancelled = c.isCancelled := rfl

theorem attend_of_cancelled (h : c.isCancelled = true) :
    c.attend = c.update ({ · with requests := [] }) := by
  unfold attend
  simp only [isCancelled_update, h, if_true]

end Coordinator

/-! ## What is left -/

/-- The client's token stops it. -/
def IsOwn (_ : TaskSpec Job) (token : String) : Prop := token = clientToken

/-- Reports are stopped with the client. -/
theorem Machine.own_base (s : Sync) (reports : Option Span) (i : Identity) :
    (base s reports i).tasks.Guarded IsOwn := by
  have hnone : (.empty : Tasks Job Asked).Only (fun _ => False) fun _ => False := Tasks.only_empty
  have hempty : (.empty : Tasks Job Asked).Guarded IsOwn := hnone.guarded fun _ _ hj => hj.elim
  have hlast := Tasks.lasting_guarded (P := Asked) IsOwn
  unfold base startReports
  split
  · exact hempty
  · simp only [Clockwork.configure, if_true]
    exact (hempty.configureAndStart hlast rfl _).configureAndStart hlast rfl _

namespace Underway

variable {x y : Underway}

/-- Nothing of a client goes on: its token is cancelled, its stream is stopped, no run of any of its
tasks can begin, and neither a request for a mode nor a call changes anything. -/
structure Extinct (x : Underway) : Prop where
  cancelled : x.coordinator.isCancelled = true
  inactive : x.coordinator.active = none
  stopped : x.sync.StreamStopped
  idle : ∀ (i : Nat) (l : Loop Job Asked), ¬ x.machine.CanMove i l .begin
  unchanged : ∀ mode, x.coordinator.changeMode mode = (x.coordinator, .ok ())
  deaf : x.coordinator.attend = x.coordinator.update ({ · with requests := [] })

theorem Sound.extinct (h : x.Sound) (hown : x.machine.tasks.Guarded IsOwn)
    {result : Except Failure Unit} (hx : x.leaving = .returned result) : x.Extinct := by
  have hdisposed := h.disposed (by rw [hx]; rfl)
  have hcancelled := h.cancelled (by rw [hx]; rfl)
  refine ⟨hcancelled, (h.done (by rw [hx]; rfl)).1, h.hungUp (by rw [hx]; rfl), ?_, ?_,
    Coordinator.attend_of_cancelled hcancelled⟩
  · intro i l hbegin
    have htoken : l.token = clientToken := hown.loops l (List.mem_of_getElem? hbegin.loop)
    exact Machine.token_of_begin hcancelled hbegin htoken
  · intro mode
    unfold Coordinator.changeMode Coordinator.activate
    rw [hdisposed, Bool.true_or, if_pos rfl]

end Underway

/-! ## The law of failed starts -/

namespace Client

/-- A build whose settings are valid fails, whatever its backup and its server give, because the
first toggles are not got or the stream is refused. The start was undone by a disposal that has
returned. Then, and after whatever else comes, late runs, calls of the stream, changes of the mode
and requests for one: the client's token is cancelled, the stream is stopped, no run of any task can
begin, and no one changes the mode. That the client is ready and that its mode has changed was never
told of, and never is. -/
theorem a_failed_build_leaves_nothing_running {s : Settings} {i : Identity} {p : Parts} {c : Client}
    {f : Failure} (h : build s i p = .ok (c, .error f)) :
    ∃ result, ∀ (later : List Happening) (y : Underway),
      Underway.Run ⟨c.coordinator, none, .returned result⟩ later y →
        y.Extinct ∧ y.sync.readies = 0 ∧ y.sync.seen .modes = [] := by
  let m := Machine.base (begun s p) s.metricsInterval i
  let o : Coordinator.Options := ⟨s.fetchInterval.ticks, s.eager, s.synchronous⟩
  have honly := Machine.only_base (begun s p) s.metricsInterval i
  obtain ⟨hclient, hresult⟩ := Prod.ext_iff.mp (start_of_build h)
  have hfailed : (Coordinator.start m o s.initialMode).2 = .error f := hresult.symm
  have hcoordinator : c.coordinator = (Coordinator.start m o s.initialMode).1 :=
    congrArg Client.coordinator hclient
  -- nothing was told of up to the start, and nothing by it
  have hbegun := (Sync.new p.backend none s.mustSucceedFirst s.failover p.keeping).untold_restore 0
  have hbase : (begun s p).Untold m.state := by
    rw [Machine.state_base]
    exact .refl _
  have hstart := Coordinator.untold_start (Machine.fresh_base _ _ _) honly hfailed
  have huntold := (hbegun.trans hbase).trans hstart
  -- the disposal that undoes it is a run of the coordinator
  obtain ⟨leaving, ⟨history, hrun⟩, hleaving⟩ := Underway.leads_start m o s.initialMode
  rw [hfailed] at hleaving
  obtain ⟨result, rfl⟩ := hleaving
  refine ⟨result, fun later y hlater => ?_⟩
  rw [hcoordinator] at hlater
  have hsound := (Underway.sound_starting honly o s.initialMode).run hrun
  have hstill := hsound.rest rfl hlater
  have hown : (Underway.starting m o s.initialMode).machine.tasks.Guarded IsOwn :=
    Underway.guarded_starting o s.initialMode (Machine.own_base _ _ _) rfl
  refine ⟨(hsound.run hlater).extinct (hlater.guarded (hrun.guarded hown)) hstill.leaving, ?_, ?_⟩
  · exact hstill.readies.trans huntold.readies
  · exact hstill.path.modes.trans huntold.modes

/-! ### A stream that is refused -/

/-- Settings of a client that begins with streaming, and reports every minute. -/
def reporting : Settings :=
  { prompt false with
    streaming := true
    metricsInterval := some (.ofSeconds 60) }

/-- A server that refuses the stream. -/
def refusing : Parts where
  backend := .new [] (some (.stream "connection refused"))
  keeping := .nowhere
  hasListener := false

/-- Two tasks had been started by then, and neither of them can begin a run. -/
theorem a_refused_stream_leaves_nothing_running :
    let c := (start reporting promptIdentity refusing).1
    build reporting promptIdentity refusing =
        .ok (c, .error (.reported (.stream "connection refused"))) ∧
      c.coordinator.machine.tasks.loops.map (·.task.name) =
        [Machine.registerTask, Machine.reportTask] ∧
      ∃ result, Underway.Extinct ⟨c.coordinator, none, .returned result⟩ ∧
        c.sync.readies = 0 ∧ c.sync.seen .modes = [] := by
  intro c
  have hvalid : reporting.validate = .ok () := by decide +kernel
  have hresult : (start reporting promptIdentity refusing).2 =
      .error (.reported (.stream "connection refused")) := by decide +kernel
  have hbuild : build reporting promptIdentity refusing =
      .ok (c, .error (.reported (.stream "connection refused"))) := by
    rw [build_of_valid hvalid fun ho => absurd ho Bool.false_ne_true, ← hresult]
  obtain ⟨result, hleft⟩ := a_failed_build_leaves_nothing_running hbuild
  obtain ⟨hextinct, hreadies, hmodes⟩ := hleft _ _ (.refl _)
  exact ⟨hbuild, by decide +kernel, result, hextinct, hreadies, hmodes⟩

end Client

end ToggleSync
