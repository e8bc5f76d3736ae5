-- The law of the active mode. In polling the stream is stopped and the fetch task is live; in
-- streaming the stream is started and no cycle can begin. A refused stream leaves polling live, and
-- the changes that are told of lead from the first mode to the active one, each to the other mode.
import Mathlib.Data.List.Chain
import ToggleSync.Proofs.CoordinatorSteps

namespace ToggleSync

open Machine (fetchTask clientToken)

namespace Coordinator

/-! ## The changes that were told of -/

/-- The changes lead from one mode to another: each of them is a change, and the last one is to the
mode in the end. -/
def Led (initial : Mode) (changes : List Mode) (mode : Mode) : Prop :=
  (initial :: changes).IsChain (· ≠ ·) ∧ (initial :: changes).getLast? = some mode

theorem Led.start (mode : Mode) : Led mode [] mode := ⟨.singleton mode, rfl⟩

theorem Led.snoc {initial mode next : Mode} {changes : List Mode} (h : Led initial changes mode)
    (hne : mode ≠ next) : Led initial (changes ++ [next]) next := by
  unfold Led
  rw [← List.cons_append]
  refine ⟨List.isChain_append.mpr ⟨h.1, .singleton next, ?_⟩, List.getLast?_concat⟩
  intro x hx y hy
  rw [h.2] at hx
  cases hx
  cases hy
  exact hne

/-! ## The invariant -/

/-- The stream and the fetch task are as a mode needs them. -/
def Tuned (o : Options) (m : Machine) : Mode → Prop
  | .polling => m.state.StreamStopped ∧ m.tasks.Live o
  | .streaming => m.state.StreamStarted ∧ m.tasks.Still

/-- What every step of a coordinator keeps until it is disposed of. The changes of mode are those
after the ones that were there before. -/
structure Sound (o : Options) (before : List Mode) (initial : Mode) (c : Coordinator) : Prop where
  kept : c.machine.tasks.Kept o
  token : c.machine.cancelled.contains clientToken = false
  undisposed : c.disposed = false
  path : ∃ mode changes, c.active = some mode ∧ Tuned o c.machine mode ∧
    c.sync.seen .modes = before ++ changes ∧ Led initial changes mode

theorem Tuned.along {o : Options} {m : Machine} {mode : Mode} {s : Sync} (h : Tuned o m mode)
    (hp : SamePath m.state s) : Tuned o { m with state := s } mode := by
  cases mode with
  | polling => exact ⟨h.1.along hp, h.2⟩
  | streaming => exact ⟨h.1.along hp, h.2⟩

section

variable {o : Options} {before : List Mode} {initial : Mode} {c : Coordinator}

/-- Whatever leaves the path alone may be done to the parts of a client. -/
theorem Sound.update (h : Sound o before initial c) {f : Sync → Sync}
    (hp : SamePath c.sync (f c.sync)) : Sound o before initial (c.update f) := by
  obtain ⟨mode, changes, ha, htuned, hmodes, hled⟩ := h.path
  exact ⟨h.kept, h.token, h.undisposed, mode, changes, ha, htuned.along hp, hp.modes.trans hmodes,
    hled⟩

theorem Sound.move (h : Sound o before initial c) {i : Nat} {l : Loop Job Asked} {v : Move}
    (hm : c.machine.CanMove i l v) :
    Sound o before initial { c with machine := c.machine.move Sync.behaviour i v } := by
  obtain ⟨mode, changes, ha, htuned, hmodes, hled⟩ := h.path
  have hp := (Machine.move_keeps hm).1
  refine ⟨h.kept.move hm, ?_, h.undisposed, mode, changes, ha, ?_, hp.modes.trans hmodes, hled⟩
  · rw [hm.cancelled]
    exact h.token
  · cases mode with
    | polling => exact ⟨htuned.1.along hp, htuned.2.move h.kept h.token hm⟩
    | streaming => exact ⟨htuned.1.along hp, Tasks.Still.move htuned.2 hm⟩

theorem modes_raise (s : Sync) (now : Nat) (mode : Mode) :
    (s.raise now (.modeChanged mode)).seen .modes = s.seen .modes ++ [mode] := by
  rw [Sync.raise, Sync.seen_note]
  rfl

theorem turns_raise (s : Sync) (now : Nat) (mode : Mode) :
    (s.raise now (.modeChanged mode)).seen .streamTurns = s.seen .streamTurns := by
  rw [Sync.raise, Sync.seen_note]
  exact List.append_nil _

theorem Sound.switched (h : Sound o before initial c) (request : Mode) :
    Switched o c request (c.changeMode request).1 := by
  obtain ⟨mode, changes, ha, htuned, _, _⟩ := h.path
  refine Coordinator.switched h.undisposed ha h.kept h.token ?_ request
  rintro rfl
  exact htuned.2

theorem Sound.change (h : Sound o before initial c) (request : Mode) :
    Sound o before initial (c.changeMode request).1 := by
  obtain ⟨mode, changes, ha, htuned, hmodes, hled⟩ := h.path
  have hswitched := h.switched request
  generalize (c.changeMode request).1 = c' at hswitched ⊢
  cases hswitched with
  | stay _ => exact h
  | polling ha' hkept hlive _ =>
    obtain rfl : mode = .streaming := Option.some.inj (ha.symm.trans ha')
    refine ⟨hkept, h.token, h.undisposed, .polling, changes ++ [.polling], rfl, ⟨?_, hlive⟩, ?_,
      hled.snoc (by decide)⟩
    · have hstopped := Sync.streamStopped_stopStream c.sync c.machine.now
      exact ⟨hstopped.1, (congrArg _ (turns_raise _ _ _)).trans hstopped.2⟩
    · have hsame := Sync.modes_stopStream c.sync c.machine.now
      exact (modes_raise _ _ _).trans (by rw [hsame, hmodes, List.append_assoc])
  | streaming ha' hkept hstill _ hstarted hsame _ =>
    obtain rfl : mode = .polling := Option.some.inj (ha.symm.trans ha')
    refine ⟨hkept, h.token, h.undisposed, .streaming, changes ++ [.streaming], rfl, ⟨?_, hstill⟩,
      ?_, hled.snoc (by decide)⟩
    · exact ⟨hstarted.1, (congrArg _ (turns_raise _ _ _)).trans hstarted.2⟩
    · exact (modes_raise _ _ _).trans (by rw [hsame, hmodes, List.append_assoc])
  | refused ha' hkept hlive _ hp _ =>
    obtain rfl : mode = .polling := Option.some.inj (ha.symm.trans ha')
    exact ⟨hkept, h.token, h.undisposed, .polling, changes, ha, ⟨htuned.1.along hp, hlive⟩,
      hp.modes.trans hmodes, hled⟩

theorem Sound.step (h : Sound o before initial c) {c' : Coordinator} {taken : List Backup}
    (hs : Step c taken c') : Sound o before initial c' := by
  cases hs with
  | move hm => exact h.move hm
  | pass _ => exact ⟨h.kept, h.token, h.undisposed, h.path⟩
  | change mode => exact h.change mode
  | takeRequests => exact h.update (samePath_of_log rfl rfl)
  | message m => exact h.update (samePath_message _ _ m)
  | failure f => exact h.update (samePath_failure _ _ f)
  | opened => exact h.update (samePath_of_log rfl rfl)
  | closed => exact h.update (samePath_of_log rfl rfl)
  | server answers startFailure => exact h.update (samePath_of_log rfl rfl)
  | count usage => exact h.update (samePath_of_log rfl rfl)
  | tell i =>
    have hnone : ∀ {α : Type} (v : View α), v.see (.notice (.impression i)) = none →
        (c.sync.raise c.machine.now (.impression i)).seen v = c.sync.seen v := by
      intro α v hv
      rw [Sync.raise, Sync.seen_note, hv]
      exact List.append_nil _
    exact h.update ⟨rfl, hnone _ rfl, hnone _ rfl⟩
  | fireReady => exact h.update (samePath_fireReady _ _)

end

section

variable {m : Machine} {o : Options} {initial : Mode} {c : Coordinator} {history : List Backup}

theorem sound_start (hm : m.Fresh) (h : (start m o initial).2 = .ok ()) :
    Sound o (m.state.seen .modes) initial (start m o initial).1 := by
  cases initial with
  | polling =>
    obtain ⟨m', tasks, sent, outcome, hbare, hkept, hlive, _, hc⟩ := start_polling hm h
    rw [hc]
    refine ⟨hkept, hbare.token, rfl, .polling, [], rfl, ⟨?_, hlive⟩, ?_, .start _⟩
    · exact (Sync.streamStopped_stopStream m.state m.now).along hbare.path
    · rw [List.append_nil]
      exact hbare.path.modes.trans (Sync.modes_stopStream m.state m.now)
  | streaming =>
    obtain ⟨tasks, s, hkept, hstill, _, hstarted, hmodes, _, hc⟩ := start_streaming hm h
    rw [hc]
    refine ⟨hkept, hm.token, rfl, .streaming, [], rfl, ⟨hstarted, hstill⟩, ?_, .start _⟩
    rw [List.append_nil]
    exact hmodes

theorem Reached.sound (hm : m.Fresh) (h : Reached m o initial c history) :
    Sound o (m.state.seen .modes) initial c := by
  induction h with
  | start hok => exact sound_start hm hok
  | step _ hs ih => exact ih.step hs

end

/-! ## The law -/

/-- While every loop of the fetch task is stopped, no cycle begins, now or later. -/
theorem no_cycle_begins {o : Options} {m : Machine} (hk : m.tasks.Kept o) (hs : m.tasks.Still)
    {l : Loop Job Asked} (hl : l ∈ m.tasks.loops) (hj : l.task.job = .fetch) (free : Bool)
    (now : Nat) : l.move? m.cancelled free now ≠ some .begin := by
  intro hmove
  obtain ⟨i, hi⟩ := List.mem_iff_getElem?.mp hl
  have hstopped : l.stopped = true := hs ⟨hi, hk.fetching hi hj⟩
  cases Loop.able_of_move hmove with
  | begin hlive _ =>
    rw [Loop.isStopped, hstopped] at hlive
    cases hlive

/-- From any start and after any steps, whatever was asked for and whatever failed: exactly one mode
is active, its path is open and the other one is shut, and the changes that were told of lead to it
from the first mode, each to the other mode. A request for the active mode does nothing. A change to
polling always works. A change to streaming works unless the stream is refused; then the failure is
handed on, polling stays active and live, and no change is told of. -/
theorem one_path_is_active_at_any_time (sync : Sync) (reports : Option Span) (i : Identity)
    (o : Options) (initial : Mode) {c : Coordinator} {history : List Backup}
    (h : Reached (Machine.base sync reports i) o initial c history) :
    ∃ mode changes, c.active = some mode ∧
      c.sync.seen .modes = sync.seen .modes ++ changes ∧
      (initial :: changes).IsChain (· ≠ ·) ∧ (initial :: changes).getLast? = some mode ∧
      c.changeMode mode = (c, .ok ()) ∧
      match mode with
      | .polling =>
        (c.sync.seen .streamTurns).getLast? = some false ∧ c.sync.backend.streamOpen = false ∧
        (o.interval ≠ 0 → c.machine.isRunning fetchTask = true) ∧
        let (c', result) := c.changeMode .streaming
        match c.sync.backend.startFailure with
        | none => result = .ok () ∧ c'.active = some .streaming ∧
            c'.sync.seen .modes = c.sync.seen .modes ++ [.streaming]
        | some f => result = .error (.reported f) ∧ c'.active = some .polling ∧
            c'.machine.isRunning fetchTask = true ∧
            c'.sync.seen .modes = c.sync.seen .modes ∧
            c'.sync.seen .streamTurns = c.sync.seen .streamTurns
      | .streaming =>
        (c.sync.seen .streamTurns).getLast? = some true ∧ c.sync.backend.streamOpen = true ∧
        (∀ l ∈ c.machine.tasks.loops, l.task.job = .fetch → ∀ free now,
          l.move? c.machine.cancelled free now ≠ some .begin) ∧
        let (c', result) := c.changeMode .polling
        result = .ok () ∧ c'.active = some .polling ∧ c'.machine.isRunning fetchTask = true ∧
          c'.sync.seen .modes = c.sync.seen .modes ++ [.polling] := by
  have hs := h.sound (Machine.fresh_base sync reports i)
  rw [Machine.state_base] at hs
  obtain ⟨mode, changes, ha, htuned, hmodes, hled⟩ := hs.path
  refine ⟨mode, changes, ha, hmodes, hled.1, hled.2, changeMode_of_active ha, ?_⟩
  cases mode with
  | polling =>
    refine ⟨htuned.1.2, htuned.1.1, ?_, ?_⟩
    · exact fun ho => Tasks.isRunning_of_live hs.kept htuned.2 ho hs.token
    · cases hf : c.sync.backend.startFailure with
      | none =>
        obtain ⟨tasks, s, hc, _, _, _, _, hsame, _⟩ :=
          change_to_streaming hs.undisposed ha hs.kept hf
        rw [hc]
        exact ⟨rfl, rfl, (modes_raise _ _ _).trans (by rw [hsame])⟩
      | some f =>
        obtain ⟨tasks, s, hc, _, _, hrunning, _, hp, _⟩ :=
          change_refused hs.undisposed ha hs.kept hs.token hf
        rw [hc]
        exact ⟨rfl, ha, hrunning, hp.modes, hp.turns⟩
  | streaming =>
    refine ⟨htuned.1.2, htuned.1.1, ?_, ?_⟩
    · exact fun l hl hj free now => no_cycle_begins hs.kept htuned.2 hl hj free now
    · obtain ⟨tasks, hc, _, _, hrunning, _⟩ :=
        change_to_polling hs.undisposed ha hs.kept htuned.2 hs.token
      rw [hc]
      exact ⟨rfl, rfl, hrunning, (modes_raise _ _ _).trans (by rw [Sync.modes_stopStream])⟩

/-- So for a client that starts in streaming, changes to polling, and is refused the stream. -/
theorem one_path_is_active_when_the_stream_is_refused :
    ∃ (c : Coordinator) (history : List Backup),
      Reached (Machine.base (.new (.new [] none) none false .standard .nowhere) none
        ⟨"", "", "", ""⟩) ⟨1000, true, false⟩ .streaming c history ∧
      c.active = some .polling ∧ c.machine.isRunning fetchTask = true ∧
      c.sync.seen .modes = [.polling] ∧
      (c.changeMode .streaming).2 = .error (.reported .clientClosed) ∧
      (c.changeMode .streaming).1.machine.isRunning fetchTask = true := by
  have hstart : Reached (Machine.base (.new (.new [] none) none false .standard .nowhere) none
      ⟨"", "", "", ""⟩) ⟨1000, true, false⟩ .streaming _ _ := .start rfl
  have h := (hstart.step (.change _ .polling)).step (.server _ [] (some .clientClosed))
  obtain ⟨mode, changes, ha, hmodes, _, _, _, hpath⟩ :=
    one_path_is_active_at_any_time _ _ _ _ _ h
  have hmode : mode = .polling := Option.some.inj ha.symm
  subst hmode
  refine ⟨_, _, h, ha, hpath.2.2.1 (by decide), rfl, hpath.2.2.2.1, hpath.2.2.2.2.2.1⟩

end Coordinator

end ToggleSync
