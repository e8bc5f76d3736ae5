-- What the pieces of calls do to a client. Tasks are started, stopped and moved on by them, and
-- never change what they are or what stops them; the ready signal is fired by no piece but the one
-- that takes the first toggles.
import ToggleSync.Proofs.CallsUnderWay

namespace ToggleSync

open Machine (fetchTask clientToken)

/-! ## Tasks -/

namespace Tasks

variable {J P : Type} {Q : TaskSpec J → String → Prop} {t t' : Tasks J P}

/-- What tasks and their loops are like, along with the tokens that stop them. -/
def Guarded (Q : TaskSpec J → String → Prop) (t : Tasks J P) : Prop :=
  t.Each (fun s => Q s.task s.token) fun l => Q l.task l.token

theorem lasting_guarded (Q : TaskSpec J → String → Prop) :
    Lasting (P := P) (fun s : Slot J => Q s.task s.token) fun l => Q l.task l.token :=
  ⟨fun _ _ => id, fun _ => id, fun _ => id⟩

theorem Only.guarded {S : J → Prop} {R : P → Prop} (h : t.Only S R)
    (hq : ∀ task token, S task.job → Q task token) : t.Guarded Q :=
  ⟨fun s hs => hq _ _ (h.slots s hs), fun l hl => hq _ _ (h.loops l hl).1⟩

theorem Guarded.setPhase (h : t.Guarded Q) (i : Nat) (phase : Phase P) :
    (t.setPhase i phase).Guarded Q := by
  rw [setPhase_eq_alter]
  exact h.alter i h.loops

end Tasks

/-! ## The stream -/

namespace Sync

theorem calm_hangUp (s : Sync) (now : Nat) : s.Calm (s.hangUp now) :=
  ⟨⟨rfl, readies_note _ now _⟩, rfl, rfl, rfl, fun h => ⟨h.overHttp, h.answers, h.otherwise⟩⟩

theorem calm_streaming (s : Sync) {streaming : Streaming}
    (h : streaming.announced = s.streaming.announced) : s.Calm { s with streaming } :=
  ⟨rang_of_log rfl rfl, rfl, rfl, h, id⟩

theorem calm_connect (s : Sync) (now : Nat) : s.Calm (s.connect now).1 := by
  unfold connect
  split
  · exact s.calm_note now rfl
  · exact ⟨⟨rfl, readies_note _ now _⟩, rfl, rfl, rfl,
      fun h => ⟨h.overHttp, h.answers, h.otherwise⟩⟩

theorem calm_putDown (s : Sync) (now : Nat) (f : Failure) : s.Calm (s.putDown now f) :=
  (s.calm_raise now rfl).trans (calm_streaming _ rfl)

end Sync

/-! ## The pieces of calls -/

namespace Coordinator

/-- Between two coordinators tasks were at most started and stopped. Neither the ready signal nor
what guards it differs, and neither is cancelled or disposed of where the other is not. -/
structure Worked (c c' : Coordinator) : Prop where
  calm : c.sync.Calm c'.sync
  tasks : ∀ {Q : TaskSpec Job → String → Prop}, c.machine.tasks.Guarded Q →
    c'.machine.tasks.Guarded Q
  cancelled : c'.machine.cancelled = c.machine.cancelled
  disposed : c'.disposed = c.disposed

theorem Worked.refl (c : Coordinator) : Worked c c := ⟨.refl _, id, rfl, rfl⟩

theorem Worked.trans {c₁ c₂ c₃ : Coordinator} (h : Worked c₁ c₂) (h' : Worked c₂ c₃) :
    Worked c₁ c₃ where
  calm := h.calm.trans h'.calm
  tasks ht := h'.tasks (h.tasks ht)
  cancelled := h'.cancelled.trans h.cancelled
  disposed := h'.disposed.trans h.disposed

theorem worked_update {c : Coordinator} {f : Sync → Sync} (h : c.sync.Calm (f c.sync)) :
    Worked c (c.update f) := ⟨h, id, rfl, rfl⟩

theorem worked_stopPolling (c : Coordinator) :
    Worked c { c with machine := c.machine.stopPolling.1 } := by
  unfold Machine.stopPolling Clockwork.stopTask
  cases h : c.machine.tasks.stop fetchTask with
  | error f => exact .refl c
  | ok tasks => exact ⟨.refl _, fun ht => ht.stop (fun _ => id) h, rfl, rfl⟩

theorem worked_startPolling (c : Coordinator) :
    Worked c { c with machine := (c.machine.startPolling false).1 } := by
  unfold Machine.startPolling Clockwork.startTask
  simp only [Bool.false_and, Bool.false_eq_true, if_false]
  cases h : c.machine.tasks.start c.machine.cancelled fetchTask with
  | error f => exact .refl c
  | ok tasks => exact ⟨.refl _, fun ht => ht.start (Tasks.lasting_guarded _) h, rfl, rfl⟩

theorem worked_enter (c : Coordinator) (mode : Mode) (initial : Bool) :
    Worked c (c.enter mode initial) := by
  cases initial with
  | true => exact ⟨.refl _, id, rfl, rfl⟩
  | false => exact ⟨c.machine.state.calm_raise c.machine.now rfl, id, rfl, rfl⟩

theorem worked_pollOn (c : Coordinator) (initial : Bool) : Worked c (c.pollOn initial) := by
  have hstart := c.worked_startPolling
  unfold pollOn
  generalize c.machine.startPolling false = started at hstart ⊢
  obtain ⟨machine, result⟩ := started
  cases result with
  | error f => exact hstart
  | ok u => exact hstart.trans (worked_enter _ .polling initial)

theorem worked_fetchFirst (c : Coordinator) (initial : Bool) :
    Worked c (c.fetchFirst initial).1 := by
  unfold fetchFirst
  split
  · exact .refl c
  · exact worked_update (c.sync.calm_ask c.machine.now)

theorem worked_begin (c : Coordinator) (mode : Mode) (initial : Bool) :
    Worked c (c.begin mode initial).1 := by
  have hstop := c.worked_stopPolling
  unfold begin
  split
  · exact .refl c
  · cases mode with
    | polling => exact .refl c
    | streaming =>
      simp only
      generalize c.machine.stopPolling = stopped at hstop ⊢
      obtain ⟨machine, result⟩ := stopped
      cases result with
      | error f => exact hstop
      | ok u => exact hstop.trans (worked_update (Sync.calm_streaming _ rfl))

theorem worked_proceed (c : Coordinator) (change : Switchover) :
    Worked c (c.proceed change).1 := by
  cases change with
  | closing initial => exact worked_update (c.sync.calm_hangUp c.machine.now)
  | closed initial =>
    have hclosed : Worked c (c.update (·.handleClosed)) :=
      worked_update (c.sync.calm_streaming rfl)
    simp only [proceed]
    split
    · exact hclosed.trans (worked_fetchFirst _ initial)
    · exact hclosed.trans (worked_pollOn _ initial)
  | fetching initial a => exact .refl c
  | opening initial previous => exact worked_update (c.sync.calm_connect c.machine.now)
  | opened initial previous refusal =>
    cases refusal with
    | none => exact c.worked_enter .streaming initial
    | some f =>
      have hdown : Worked c (c.update (·.putDown c.machine.now f)) :=
        worked_update (c.sync.calm_putDown c.machine.now f)
      simp only [proceed]
      split
      · exact hdown.trans (worked_startPolling _)
      · exact hdown

/-- To take the first toggles is to end a cycle, and to go on from there. -/
theorem worked_welcome (c : Coordinator) (initial : Bool) (a : Asked) :
    Worked (c.update fun s => (s.conclude c.machine.now a.question a.outcome).1)
      (c.welcome initial a) := by
  unfold welcome
  have hstate : (c.update fun s => (s.conclude c.machine.now a.question a.outcome).1) =
      { c with machine := { c.machine with
        state := (c.sync.conclude c.machine.now a.question a.outcome).1 } } := rfl
  rw [hstate]
  generalize c.sync.conclude c.machine.now a.question a.outcome = concluded
  obtain ⟨s, result⟩ := concluded
  cases result with
  | error f => exact .refl _
  | ok u => exact worked_pollOn _ initial

/-- What is left of a coordinator when everything is stopped. -/
structure Halted (c c' : Coordinator) : Prop where
  sync : c'.sync = { c.sync.handleClosed with
    requests := [], listening := false, ready := c.sync.ready.disarm }
  tasks : ∀ {Q : TaskSpec Job → String → Prop}, c.machine.tasks.Guarded Q →
    c'.machine.tasks.Guarded Q
  cancelled : c'.machine.cancelled = c.machine.cancelled
  disposed : c'.disposed = c.disposed
  active : c'.active = none

theorem halted_windDown (c : Coordinator) : Halted c c.windDown.1 := by
  have hstop := (c.machine.update (·.handleClosed)).state_stopPolling
  have hworked := (c.update (·.handleClosed)).worked_stopPolling
  have hhalt : Halted c c.halt := by
    refine ⟨?_, hworked.tasks, hworked.cancelled, rfl, rfl⟩
    exact congrArg (fun s : Sync =>
      { s with requests := [], listening := false, ready := s.ready.disarm }) hstop
  unfold windDown
  simp only
  split
  · exact hhalt
  · have htasks : ∀ {Q : TaskSpec Job → String → Prop}, c.machine.tasks.Guarded Q →
        c.halt.machine.tasks.close.Guarded Q :=
      fun ht => (hhalt.tasks ht).close (Tasks.lasting_guarded _)
    exact ⟨hhalt.sync, htasks, hhalt.cancelled, rfl, rfl⟩

end Coordinator

/-! ## Steps -/

section

variable {Q : TaskSpec Job → String → Prop}

theorem Machine.Beside.guarded {m m' : Machine} {items : List Happening}
    (h : m.Beside items m') (hm : m.tasks.Guarded Q) : m'.tasks.Guarded Q := by
  cases h with
  | move hv =>
    obtain ⟨⟨phase, hphase⟩, _⟩ := hv.tasks Sync.behaviour
    rw [hphase]
    exact hm.setPhase _ phase
  | pass _ => exact hm
  | call call => exact hm
  | cancel => exact hm
  | serve answers startFailure => exact hm
  | count usage => exact hm
  | tell i => exact hm
  | take requests listening => exact hm

namespace Underway

variable {x y : Underway} {items : List Happening}

/-- No step changes what a task is, or what stops it. -/
theorem Step.guarded (h : Step x items y) (hx : x.machine.tasks.Guarded Q) :
    y.machine.tasks.Guarded Q := by
  cases h with
  | beside hb => exact hb.guarded hx
  | change mode _ _ => exact (x.coordinator.worked_begin mode false).tasks hx
  | proceed _ => exact (x.coordinator.worked_proceed _).tasks hx
  | answer _ => exact (x.coordinator.worked_welcome _ _).tasks hx
  | callOff _ _ => exact hx
  | drop => exact hx
  | dispose _ => exact hx
  | cancelAll _ => exact hx
  | hold _ _ => exact hx
  | hangUp _ => exact hx
  | windDown _ => exact x.coordinator.halted_windDown.tasks hx
  | ended _ _ => exact hx
  | late _ => exact hx.setPhase _ .ended
  | done _ => exact hx

theorem Run.guarded {history : List Happening} (h : Run x history y)
    (hx : x.machine.tasks.Guarded Q) : y.machine.tasks.Guarded Q := by
  induction h with
  | refl => exact hx
  | step _ hs ih => exact hs.guarded ih

/-- A coordinator starts with the tasks that it is given, and its own. -/
theorem guarded_starting {m : Machine} (o : Coordinator.Options) (mode : Mode)
    (hm : m.tasks.Guarded Q) (hq : Q o.fetchSpec clientToken) :
    (starting m o mode).machine.tasks.Guarded Q := by
  have hset : (m.withPolling o.interval o.eager).tasks.Guarded Q :=
    hm.configure (fun _ => id) hq
  exact (Coordinator.worked_begin _ mode true).tasks hset

end Underway

end

end ToggleSync
