-- What runs beside a client has nothing to do with its ready signal, but for the cycles that end.
-- No task says by itself that there are toggles, whatever a run waits for was asked of the server,
-- and neither a change of the mode nor the end of a client fires the signal.
import ToggleSync.Proofs.ReadySignal
import ToggleSync.Proofs.Switches

namespace ToggleSync

/-! ## Jobs -/

namespace Tasks

variable {J P : Type} {S Q : J → Prop} {R : P → Prop} {t t' : Tasks J P}

/-- What the jobs of loops are like, and all that runs under way wait for. -/
def Loops (Q : J → Prop) (R : P → Prop) (t : Tasks J P) : Prop :=
  ∀ l ∈ t.loops, Q l.task.job ∧ ∀ due stubborn p, l.phase = .running due stubborn p → R p

theorem loops_iff_each : t.Loops Q R ↔ t.Each (fun _ => True) fun l =>
    Q l.task.job ∧ ∀ due stubborn p, l.phase = .running due stubborn p → R p :=
  ⟨fun h => ⟨fun _ _ => trivial, h⟩, fun h => h.loops⟩

theorem Loops.setPhase (h : t.Loops Q R) (i : Nat) {phase : Phase P}
    (hp : ∀ due stubborn p, phase = .running due stubborn p → R p) :
    (t.setPhase i phase).Loops Q R := by
  rw [setPhase_eq_alter, loops_iff_each]
  exact (loops_iff_each.mp h).alter i fun l hl => ⟨(h l hl).1, hp⟩

theorem Loops.configure (h : t.Loops Q R) (task : TaskSpec J) (token : String) :
    (t.configure task token).Loops Q R :=
  loops_iff_each.mpr ((loops_iff_each.mp h).configure (fun _ => id) trivial)

/-- What the jobs of tasks are like, started or not, and all that runs under way wait for. -/
structure Only (Q : J → Prop) (R : P → Prop) (t : Tasks J P) : Prop where
  slots : ∀ s ∈ t.slots, Q s.task.job
  loops : t.Loops Q R

theorem only_iff_each : t.Only Q R ↔ t.Each (fun s => Q s.task.job) fun l =>
    Q l.task.job ∧ ∀ due stubborn p, l.phase = .running due stubborn p → R p :=
  ⟨fun h => ⟨h.slots, h.loops⟩, fun h => ⟨h.slots, h.loops⟩⟩

/-- A loop that was just started does not wait for anything. -/
theorem lasting_only (Q : J → Prop) (R : P → Prop) :
    Lasting (fun s : Slot J => Q s.task.job) fun l =>
      Q l.task.job ∧ ∀ due stubborn p, l.phase = .running due stubborn p → R p :=
  ⟨fun _ _ => id, fun _ => id, fun _ hq => ⟨hq, nofun⟩⟩

theorem only_empty : Only Q R (.empty : Tasks J P) := ⟨nofun, nofun⟩

theorem Only.mono {Q' : J → Prop} {R' : P → Prop} (h : Only Q R t) (hq : ∀ j, Q j → Q' j)
    (hr : ∀ p, R p → R' p) : Only Q' R' t where
  slots s hs := hq _ (h.slots s hs)
  loops l hl := by
    obtain ⟨hjob, hpending⟩ := h.loops l hl
    exact ⟨hq _ hjob, fun due stubborn p hp => hr p (hpending due stubborn p hp)⟩

theorem Only.setPhase (h : Only Q R t) (i : Nat) {phase : Phase P}
    (hp : ∀ due stubborn p, phase = .running due stubborn p → R p) :
    Only Q R (t.setPhase i phase) := ⟨h.slots, h.loops.setPhase i hp⟩

theorem Only.stop (h : Only Q R t) {name : String} (hs : t.stop name = .ok t') : Only Q R t' :=
  only_iff_each.mpr ((only_iff_each.mp h).stop (lasting_only Q R).stop hs)

theorem Only.start (h : Only Q R t) {cancelled : List String} {name : String}
    (hs : t.start cancelled name = .ok t') : Only Q R t' :=
  only_iff_each.mpr ((only_iff_each.mp h).start (lasting_only Q R) hs)

theorem Only.configure (h : Only Q R t) {task : TaskSpec J} (hq : Q task.job) (token : String) :
    Only Q R (t.configure task token) :=
  only_iff_each.mpr ((only_iff_each.mp h).configure (lasting_only Q R).stop hq)

theorem Only.configureAndStart (h : Only Q R t) {task : TaskSpec J} (hq : Q task.job)
    (cancelled : List String) (token : String) :
    Only Q R (t.configureAndStart cancelled task token) :=
  only_iff_each.mpr ((only_iff_each.mp h).configureAndStart (lasting_only Q R) hq cancelled)

theorem Only.close (h : Only Q R t) : Only Q R t.close :=
  only_iff_each.mpr ((only_iff_each.mp h).close (lasting_only Q R))

end Tasks

/-! ## Moves -/

theorem overHttp_next (b : Backend) : b.next.2.overHttp = b.overHttp := by
  unfold Backend.next
  split <;> rfl

namespace Machine

variable {m : Machine} {i : Nat} {l : Loop Job Asked} {v : Move}

/-- A move of a loop either ends a cycle, or has nothing to do with the signal. -/
theorem move_ends (h : m.CanMove i l v) (hj : l.task.job ≠ .announce) :
    match m.ends? l v with
    | none => m.state.Calm (m.move Sync.behaviour i v).state
    | some a => ∃ s, m.state.Calm s ∧ s.backend.overHttp = m.state.backend.overHttp ∧
        (m.move Sync.behaviour i v).state = (s.conclude m.now a.question a.outcome).1 := by
  unfold Clockwork.move ends?
  rw [h.loop]
  cases v with
  | rest due => exact .refl _
  | leave => exact .refl _
  | begin =>
    simp only [Clockwork.beginRun]
    cases hjob : l.task.job with
    | fetch =>
      by_cases ht : m.state.backend.next.1.ticks = 0
      · simp only [Sync.begin_fetch_eq_cycle _ _ ht, ht, if_true]
        exact ⟨_, m.state.calm_ask m.now, overHttp_next m.state.backend, rfl⟩
      · simp only [Sync.begin_fetch_of_wait _ _ ht, ht, if_false]
        exact m.state.calm_ask m.now
    | register r => exact m.state.calm_note m.now rfl
    | report r => exact m.state.calm_report m.now r
    | announce => exact absurd hjob hj
  | finish cancelled =>
    simp only [Clockwork.finishRun]
    cases hp : l.phase with
    | running due stubborn asked => exact ⟨_, .refl _, rfl, rfl⟩
    | queued => exact .refl _
    | resting due => exact .refl _
    | ended => exact .refl _

/-- What is waited for after a move was waited for before, or was asked just now. -/
theorem loops_move {Q : Job → Prop} {R : Asked → Prop} (h : m.tasks.Loops Q R)
    (hm : m.CanMove i l v)
    (hasked : l.task.job = .fetch → R ⟨m.state.question, m.state.backend.next.1.outcome⟩) :
    (m.move Sync.behaviour i v).tasks.Loops Q R := by
  have hafter : (m.tasks.setPhase i (l.task.afterRun Asked m.now)).Loops Q R :=
    h.setPhase i fun due stubborn p hp =>
      absurd hp (Tasks.afterRun_ne_running l.task m.now due stubborn p)
  have hmoved := hm.moved Sync.behaviour
  generalize m.move Sync.behaviour i v = m' at hmoved ⊢
  cases hmoved with
  | rest due _ => exact h.setPhase i nofun
  | pass _ _ => exact hafter
  | wait _ hb =>
    refine h.setPhase i ?_
    intro due stubborn p hp
    cases hp
    have hjob := Tasks.fetch_of_wait hb
    rw [hjob] at hb
    by_cases ht : m.state.backend.next.1.ticks = 0
    · rw [Sync.begin_fetch_eq_cycle _ _ ht] at hb
      cases hb
    · rw [Sync.begin_fetch_of_wait _ _ ht] at hb
      cases hb
      exact hasked hjob
  | finish _ _ => exact hafter
  | leave _ => exact h.setPhase i nofun

theorem only_move {Q : Job → Prop} {R : Asked → Prop} (h : m.tasks.Only Q R)
    (hm : m.CanMove i l v)
    (hasked : l.task.job = .fetch → R ⟨m.state.question, m.state.backend.next.1.outcome⟩) :
    (m.move Sync.behaviour i v).tasks.Only Q R := by
  refine ⟨?_, loops_move h.loops hm hasked⟩
  obtain ⟨⟨phase, hphase⟩, _⟩ := hm.tasks Sync.behaviour
  rw [hphase]
  exact h.slots

/-- The cycle that a move ends was waited for before, or was asked just now. It may have been called
off. -/
theorem sound_ends {Q : Job → Prop} {R : Asked → Prop} (h : m.tasks.Loops Q R)
    (hm : m.CanMove i l v)
    (hasked : R ⟨m.state.question, m.state.backend.next.1.outcome⟩)
    (hcancelled : ∀ a, R a → R ⟨a.question, .error .cancelled⟩) {a : Asked}
    (ha : m.ends? l v = some a) : R a := by
  have hloop := h l (List.mem_of_getElem? hm.loop)
  unfold ends? at ha
  cases v with
  | rest due => cases ha
  | leave => cases ha
  | begin =>
    simp only at ha
    split at ha
    · split at ha
      · cases ha
        exact hasked
      · cases ha
    · cases ha
  | finish cancelled =>
    simp only at ha
    split at ha
    · rename_i due stubborn asked hp
      have hr := hloop.2 due stubborn asked hp
      cases ha
      cases cancelled with
      | true => exact hcancelled asked hr
      | false => exact hr
    · cases ha

/-- No task says by itself that there are toggles. -/
def Tacit (m : Machine) : Prop := m.tasks.Only (· ≠ .announce) fun _ => True

/-- Since a state of the client the signal was fired or left alone. -/
def Since (s : Sync) (m : Machine) : Prop := (∃ fire, s.Rang fire m.state) ∧ m.Tacit

theorem Tacit.loop (h : m.Tacit) (hm : m.CanMove i l v) : l.task.job ≠ .announce :=
  (h.loops l (List.mem_of_getElem? hm.loop)).1

theorem Since.move {s : Sync} (h : Since s m) (hm : m.CanMove i l v) :
    Since s (m.move Sync.behaviour i v) := by
  obtain ⟨⟨fire, hrang⟩, htacit⟩ := h
  have hends := move_ends hm (htacit.loop hm)
  refine ⟨?_, only_move htacit hm fun _ => trivial⟩
  cases he : m.ends? l v with
  | none =>
    rw [he] at hends
    exact ⟨_, hrang.trans hends.rang⟩
  | some a =>
    rw [he] at hends
    obtain ⟨s', hcalm, _, heq⟩ := hends
    rw [heq]
    exact ⟨_, (hrang.trans hcalm.rang).trans (s'.rang_conclude m.now a.question a.outcome).1⟩

theorem Since.stable (s : Sync) : Clockwork.Stable Sync.behaviour (Since s) where
  move h hm := h.move hm
  pass h _ := h

theorem Since.shutdown {s : Sync} (h : Since s m) (timeout : Nat) :
    Since s (m.shutdown timeout).1 := by
  refine (Since.stable s).shutdown ?_ ?_ timeout h
  · exact fun h => ⟨h.1, h.2.close⟩
  · exact fun i h => ⟨h.1, h.2.setPhase i nofun⟩

/-! ## The operations of a coordinator -/

/-- Neither the signal nor what tasks may do to it differs between two machines. -/
structure Calm (m m' : Machine) : Prop where
  state : m.state.Calm m'.state
  only : ∀ {Q : Job → Prop} {R : Asked → Prop}, m.tasks.Only Q R → m'.tasks.Only Q R

theorem Calm.refl (m : Machine) : Calm m m := ⟨.refl _, id⟩

theorem Calm.trans {m₁ m₂ m₃ : Machine} (h : Calm m₁ m₂) (h' : Calm m₂ m₃) : Calm m₁ m₃ :=
  ⟨h.state.trans h'.state, fun ho => h'.only (h.only ho)⟩

theorem calm_update {f : Sync → Sync} (h : m.state.Calm (f m.state)) : m.Calm (m.update f) :=
  ⟨h, id⟩

theorem calm_stopStream (m : Machine) : m.Calm m.stopStream :=
  calm_update (m.state.calm_stopStream m.now)

theorem calm_startStream (m : Machine) : m.Calm m.startStream.1 :=
  ⟨m.state.calm_startStream m.now, id⟩

theorem calm_stopPolling (m : Machine) : m.Calm m.stopPolling.1 := by
  unfold stopPolling Clockwork.stopTask
  cases h : m.tasks.stop fetchTask with
  | error f => exact .refl m
  | ok tasks => exact ⟨.refl _, fun ho => ho.stop h⟩

theorem calm_startTask (m : Machine) : m.Calm (m.startPolling false).1 := by
  unfold startPolling Clockwork.startTask
  simp only [Bool.false_and, Bool.false_eq_true, if_false]
  cases h : m.tasks.start m.cancelled fetchTask with
  | error f => exact .refl m
  | ok tasks => exact ⟨.refl _, fun ho => ho.start h⟩

/-- What a start of polling begins with: a first cycle, if there is to be one. -/
def afterFirst (m : Machine) (synchronous : Bool) : Machine :=
  if synchronous && !m.state.polling.fetched then m.runCycle.1 else m

/-- To start to poll has nothing to do with the signal, apart from the first cycle. -/
theorem calm_startPolling (m : Machine) (synchronous : Bool) :
    (m.afterFirst synchronous).Calm (m.startPolling synchronous).1 := by
  unfold startPolling afterFirst
  cases hb : synchronous && !m.state.polling.fetched with
  | false => exact m.calm_startTask
  | true =>
    simp only [if_true]
    cases hr : m.runCycle.2 with
    | error f => exact .refl _
    | ok u => exact m.runCycle.1.calm_startTask

theorem state_startTask (m : Machine) : (m.startPolling false).1.state = m.state := by
  unfold startPolling Clockwork.startTask
  simp only [Bool.false_and, Bool.false_eq_true, if_false]
  cases m.tasks.start m.cancelled fetchTask <;> rfl

/-- To start to poll changes nothing but tasks, apart from the first cycle. -/
theorem state_startPolling (m : Machine) (synchronous : Bool) :
    (m.startPolling synchronous).1.state = (m.afterFirst synchronous).state := by
  unfold startPolling afterFirst
  cases synchronous && !m.state.polling.fetched with
  | false => exact m.state_startTask
  | true =>
    simp only [if_true]
    cases m.runCycle.2 with
    | error f => rfl
    | ok u => exact m.runCycle.1.state_startTask

theorem state_stopPolling (m : Machine) : m.stopPolling.1.state = m.state := by
  unfold stopPolling Clockwork.stopTask
  cases m.tasks.stop fetchTask <;> rfl

end Machine

namespace Coordinator

/-- Neither the signal, nor what tasks may do to it, nor whether the coordinator was disposed of,
differs between two coordinators. -/
structure Calm (c c' : Coordinator) : Prop where
  machine : c.machine.Calm c'.machine
  disposed : c'.disposed = c.disposed

theorem Calm.refl (c : Coordinator) : Calm c c := ⟨.refl _, rfl⟩

theorem Calm.trans {c₁ c₂ c₃ : Coordinator} (h : Calm c₁ c₂) (h' : Calm c₂ c₃) : Calm c₁ c₃ :=
  ⟨h.machine.trans h'.machine, h'.disposed.trans h.disposed⟩

theorem calm_update {c : Coordinator} {f : Sync → Sync} (h : c.sync.Calm (f c.sync)) :
    c.Calm (c.update f) := ⟨Machine.calm_update h, rfl⟩

theorem calm_enter (c : Coordinator) (mode : Mode) (initial : Bool) :
    c.Calm (c.enter mode initial) := by
  cases initial with
  | true => exact ⟨.refl _, rfl⟩
  | false => exact ⟨⟨c.machine.state.calm_raise c.machine.now rfl, id⟩, rfl⟩

/-- To enter polling has nothing to do with the signal either, apart from the first cycle. -/
theorem calm_enterPolling (c : Coordinator) (initial : Bool) :
    (c.machine.stopStream.afterFirst (initial && c.synchronous)).Calm
        (c.enterPolling initial).1.machine ∧
      (c.enterPolling initial).1.disposed = c.disposed := by
  have hstart := c.machine.stopStream.calm_startPolling (initial && c.synchronous)
  unfold enterPolling
  generalize c.machine.stopStream.startPolling (initial && c.synchronous) = started at hstart
  obtain ⟨machine, result⟩ := started
  cases result with
  | error f => exact ⟨hstart, rfl⟩
  | ok _ =>
    have henter := calm_enter { c with machine } .polling initial
    exact ⟨hstart.trans henter.machine, henter.disposed⟩

theorem calm_enterStreaming (c : Coordinator) (initial : Bool) :
    c.Calm (c.enterStreaming initial).1 := by
  have hstop := c.machine.calm_stopPolling
  unfold enterStreaming
  simp only
  generalize c.machine.stopPolling = stopped at hstop
  obtain ⟨quiet, result⟩ := stopped
  cases result with
  | error f => exact ⟨hstop, rfl⟩
  | ok _ =>
    have hstart := quiet.calm_startStream
    simp only
    generalize quiet.startStream = started at hstart
    obtain ⟨machine, result⟩ := started
    have hmachine : c.machine.Calm machine := hstop.trans hstart
    cases result with
    | ok _ =>
      have henter := calm_enter { c with machine } .streaming initial
      exact ⟨hmachine.trans henter.machine, henter.disposed⟩
    | error f =>
      simp only
      split
      · exact ⟨hmachine.trans (machine.calm_startPolling false), rfl⟩
      · exact ⟨hmachine, rfl⟩

/-- A change of mode has nothing to do with the signal. -/
theorem calm_changeMode (c : Coordinator) (mode : Mode) : c.Calm (c.changeMode mode).1 := by
  unfold changeMode activate
  split
  · exact ⟨.refl _, rfl⟩
  · cases mode with
    | polling =>
      have henter := c.calm_enterPolling false
      exact ⟨c.machine.calm_stopStream.trans henter.1, henter.2⟩
    | streaming => exact c.calm_enterStreaming false

theorem calm_release (c : Coordinator) : c.machine.Calm c.release.machine := by
  let m : Machine := c.machine.cancel Machine.clientToken
  have hcancel : c.machine.Calm m := ⟨.refl _, id⟩
  have hstop := m.calm_stopStream.trans m.stopStream.calm_stopPolling
  have hdeaf : ∀ m : Machine, m.Calm (m.update ({ · with requests := [], listening := false })) :=
    fun m => Machine.calm_update ⟨Sync.rang_of_log rfl rfl, rfl, rfl, rfl, id⟩
  exact (hcancel.trans hstop).trans (hdeaf _)

end Coordinator

/-! ## Clients -/

/-- Reports neither ask for toggles nor say that there are any. -/
theorem Machine.only_base (s : Sync) (reports : Option Span) (i : Identity) :
    (base s reports i).tasks.Only (fun j => j ≠ .fetch ∧ j ≠ .announce) fun _ => False := by
  unfold base startReports
  split
  · exact Tasks.only_empty
  · simp only [Clockwork.configure, if_true]
    refine (Tasks.only_empty.configureAndStart ?_ _ _).configureAndStart ?_ _ _
    · exact ⟨nofun, nofun⟩
    · exact ⟨nofun, nofun⟩

namespace Client

theorem calm_tell (c : Client) (kind : ImpressionKind) (toggle : String) (enabled : Bool)
    (variant : Option String) (context : Context) :
    c.coordinator.Calm (c.tell kind toggle enabled variant context).coordinator := by
  unfold tell
  split
  · exact Coordinator.calm_update (Sync.calm_raise _ _ rfl)
  · exact .refl _

theorem calm_isEnabled (c : Client) (name : String) (context : Context) (default : Bool) :
    c.coordinator.Calm (c.isEnabled name context default).1.coordinator := by
  unfold isEnabled
  generalize c.sync.engine.isEnabled name = asked
  obtain ⟨outcome, engine⟩ := asked
  have hengine : c.coordinator.Calm (c.update ({ · with engine })).coordinator :=
    Coordinator.calm_update (c.sync.calm_engine engine)
  cases outcome with
  | none => exact hengine
  | some o =>
    simp only
    split
    · exact hengine.trans (calm_tell _ _ _ _ _ _)
    · exact hengine

theorem calm_variant (c : Client) (name : String) (context : Context) (default : Variant)
    (spare : String) : c.coordinator.Calm (c.variant name context default spare).1.coordinator := by
  unfold variant
  simp only
  generalize c.sync.engine.variant name (c.contextFor context) spare = asked
  obtain ⟨given, engine⟩ := asked
  have hengine : c.coordinator.Calm (c.update ({ · with engine })).coordinator :=
    Coordinator.calm_update (c.sync.calm_engine engine)
  cases given with
  | none => exact hengine
  | some v =>
    simp only
    split
    · exact hengine.trans (calm_tell _ _ _ _ _ _)
    · exact hengine

end Client

end ToggleSync
