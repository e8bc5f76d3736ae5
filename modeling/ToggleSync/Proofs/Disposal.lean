-- A disposal is final. It counts from the moment on that it is called, but a change of the mode may
-- be under way by then, and goes on to its end; only when the disposal holds the switch is it alone.
-- Once it has returned, nothing is left that could begin anything, in time or not.
import ToggleSync.Proofs.FirstQuestion
import ToggleSync.Proofs.ReadyOnce

namespace ToggleSync

open Machine (clientToken)

/-- If it fetches, the client's token stops it. -/
def IsLeashed (task : TaskSpec Job) (token : String) : Prop :=
  task.job = .fetch → token = clientToken

namespace Sync

theorem Rang.armed {s t : Sync} {fire : Bool} (h : Rang fire s t) :
    t.ready.armed = s.ready.armed := by
  rw [h.ready]
  cases fire with
  | false => rfl
  | true =>
    simp only [if_true, Ready.fire]
    split <;> rfl

theorem samePath_listen (s : Sync) (x : StreamCall) : SamePath s (s.listen x).1 := by
  rw [listen_eq]
  let r := s.streaming.takes s.engine s.rules x
  have hset : SamePath s
      { s with calendar := x.time, streaming := r.streaming, engine := r.engine } :=
    samePath_of_log rfl rfl
  exact hset.trans (samePath_performAll _ x.tick (plain_takes s.streaming s.engine s.rules x))

theorem samePath_raise (s : Sync) (now : Nat) {n : Notice} (h : View.modes.see (.notice n) = none) :
    SamePath s (s.raise now n) := by
  refine ⟨rfl, ?_, ?_⟩
  · rw [raise, seen_note]
    exact List.append_nil _
  · rw [raise, seen_note, h]
    exact List.append_nil _

end Sync

/-! ## What goes on beside the calls -/

namespace Machine

variable {m m' : Machine} {items : List Happening} {i : Nat} {l : Loop Job Asked}

theorem Beside.samePath (h : m.Beside items m') : SamePath m.state m'.state := by
  cases h with
  | move hv => exact (move_keeps hv).1
  | pass _ => exact .refl _
  | call call => exact m.state.samePath_listen call
  | cancel => exact .refl _
  | serve answers startFailure => exact samePath_of_log rfl rfl
  | count usage => exact samePath_of_log rfl rfl
  | tell i => exact m.state.samePath_raise m.now rfl
  | take requests listening => exact samePath_of_log rfl rfl

theorem Beside.cancelled (h : m.Beside items m') : m.cancelled ⊆ m'.cancelled := by
  cases h with
  | move hv =>
    rw [hv.cancelled Sync.behaviour]
    exact List.Subset.refl _
  | cancel => exact List.subset_cons_self _ _
  | pass _ => exact List.Subset.refl _
  | call call => exact List.Subset.refl _
  | serve answers startFailure => exact List.Subset.refl _
  | count usage => exact List.Subset.refl _
  | tell i => exact List.Subset.refl _
  | take requests listening => exact List.Subset.refl _

/-- No run begins of a loop that the client's token stops, once it is cancelled. -/
theorem token_of_begin (hc : m.isCancelled clientToken = true) (h : m.CanMove i l .begin) :
    l.token ≠ clientToken := by
  intro htoken
  have hable := h.able
  cases hable with
  | begin hs _ =>
    unfold Clockwork.isCancelled at hc
    rw [Loop.isStopped, htoken, hc, Bool.or_true] at hs
    cases hs

/-- No cycle begins once the client's token is cancelled. -/
theorem not_fetch_of_cancelled (hm : m.tasks.Guarded IsLeashed)
    (hc : m.isCancelled clientToken = true) (h : m.CanMove i l .begin) : l.task.job ≠ .fetch :=
  fun hjob => token_of_begin hc h (hm.loops l (List.mem_of_getElem? h.loop) hjob)

theorem Beside.questions (h : m.Beside items m') (hm : m.tasks.Guarded IsLeashed)
    (hc : m.isCancelled clientToken = true) :
    m'.state.seen .questions = m.state.seen .questions := by
  cases h with
  | @move i l v hv =>
    have hnone : m.asks? l v = none := by
      unfold asks?
      cases v with
      | begin =>
        have hjob := not_fetch_of_cancelled hm hc hv
        cases hj : l.task.job with
        | fetch => exact absurd hj hjob
        | register r => rfl
        | report i => rfl
        | announce => rfl
      | rest due => rfl
      | finish cancelled => rfl
      | leave => rfl
    rw [questions_move hv, hnone]
    exact List.append_nil _
  | pass _ => rfl
  | call call => exact (m.state.unasked_listen call).questions
  | cancel => rfl
  | serve answers startFailure => rfl
  | count usage => rfl
  | tell i => exact (m.state.unasked_note m.now rfl).questions
  | take requests listening => rfl

end Machine

/-! ## Steps -/

namespace Leaving

variable {l : Leaving}

theorem isHungUp_of_isDone (h : l.isDone = true) : l.isHungUp = true := by
  cases l <;> first | rfl | cases h

theorem isAlone_of_isHungUp (h : l.isHungUp = true) : l.isAlone = true := by
  cases l <;> first | rfl | cases h

theorem isCalled_of_isAlone (h : l.isAlone = true) : l.isCalled = true := by
  cases l <;> first | rfl | cases h

theorem isFlagged_of_isCalled (h : l.isCalled = true) : l.isFlagged = true := by
  cases l <;> first | rfl | cases h

end Leaving

namespace Underway

variable {x y z : Underway} {items history : List Happening}

/-- A coordinator is as far as its disposal. -/
structure Sound (x : Underway) : Prop where
  tacit : x.machine.tasks.Guarded IsTacit
  leashed : x.machine.tasks.Guarded IsLeashed
  disposed : x.leaving.isFlagged = true → x.coordinator.disposed = true
  cancelled : x.leaving.isCalled = true → x.coordinator.isCancelled = true
  alone : x.leaving.isAlone = true → x.change = none
  hungUp : x.leaving.isHungUp = true → x.sync.StreamStopped
  done : x.leaving.isDone = true → x.coordinator.active = none ∧ x.sync.ready.armed = false

theorem Step.cancelled (h : Step x items y) : x.machine.cancelled ⊆ y.machine.cancelled := by
  have hsame : ∀ {z : Underway}, z.machine.cancelled = x.machine.cancelled →
      x.machine.cancelled ⊆ z.machine.cancelled := by
    intro z hz
    rw [hz]
    exact List.Subset.refl _
  cases h with
  | beside hb => exact hb.cancelled
  | change mode _ _ => exact hsame (x.coordinator.worked_begin mode false).cancelled
  | proceed _ => exact hsame (x.coordinator.worked_proceed _).cancelled
  | answer _ => exact hsame (x.coordinator.worked_welcome _ _).cancelled
  | cancelAll _ => exact List.subset_cons_self _ _
  | windDown _ => exact hsame x.coordinator.halted_windDown.cancelled
  | callOff _ _ => exact hsame rfl
  | drop => exact hsame rfl
  | dispose _ => exact hsame rfl
  | hold _ _ => exact hsame rfl
  | hangUp _ => exact hsame rfl
  | ended _ _ => exact hsame rfl
  | late _ => exact hsame rfl
  | done _ => exact hsame rfl

/-- Before the disposal has held the switch not much has to be so. -/
theorem sound_of_early (htacit : x.machine.tasks.Guarded IsTacit)
    (hleashed : x.machine.tasks.Guarded IsLeashed)
    (hd : x.leaving.isFlagged = true → x.coordinator.disposed = true)
    (hc : x.leaving.isCalled = true → x.coordinator.isCancelled = true)
    (ha : x.leaving.isAlone = false) : x.Sound := by
  have hnot : x.leaving.isHungUp ≠ true := by
    intro hh
    rw [Leaving.isAlone_of_isHungUp hh] at ha
    cases ha
  refine ⟨htacit, hleashed, hd, hc, ?_, fun hh => absurd hh hnot, ?_⟩
  · rw [ha]
    exact nofun
  · exact fun hh => absurd (Leaving.isHungUp_of_isDone hh) hnot

/-- Once the disposal has stopped everything, it makes no difference to the rest how far it is. -/
theorem Sound.of_done (h : x.Sound) (hx : x.leaving.isDone = true) {tasks : Tasks Job Asked}
    (leaving : Leaving) (htacit : tasks.Guarded IsTacit) (hleashed : tasks.Guarded IsLeashed) :
    Sound { x.withMachine { x.machine with tasks } with leaving } := by
  have hhung := Leaving.isHungUp_of_isDone hx
  have halone := Leaving.isAlone_of_isHungUp hhung
  have hcalled := Leaving.isCalled_of_isAlone halone
  exact ⟨htacit, hleashed, fun _ => h.disposed (Leaving.isFlagged_of_isCalled hcalled),
    fun _ => h.cancelled hcalled, fun _ => h.alone halone, fun _ => h.hungUp hhung,
    fun _ => h.done hx⟩

/-- A change that gets the switch after a disposal was called does nothing. -/
theorem Sound.change_idle (h : x.Sound) (hf : x.leaving.isFlagged = true)
    (hc : x.change = none) (mode : Mode) :
    { x with
      coordinator := (x.coordinator.begin mode false).1
      change := (x.coordinator.begin mode false).2 } = x := by
  have hbegin : x.coordinator.begin mode false = (x.coordinator, none) := by
    unfold Coordinator.begin
    rw [h.disposed hf, Bool.true_or, if_pos rfl]
  rw [hbegin, ← hc]

/-- What one step keeps. -/
theorem Sound.step (h : x.Sound) (hs : Step x items y) : y.Sound := by
  have htacit := hs.guarded h.tacit
  have hleashed := hs.guarded h.leashed
  have hcancelled : x.coordinator.isCancelled = true → y.coordinator.isCancelled = true := by
    intro hc
    have hmem : clientToken ∈ x.machine.cancelled := List.contains_iff_mem.mp hc
    exact List.contains_iff_mem.mpr (hs.cancelled hmem)
  -- while a change holds the switch, the disposal does not
  have hfree : ∀ {change : Switchover}, x.change = some change → x.leaving.isAlone = false := by
    intro change hc
    rw [← Bool.not_eq_true]
    intro ha
    rw [h.alone ha] at hc
    cases hc
  cases hs with
  | beside hb =>
    obtain ⟨fire, hrang, _⟩ := (hb.heeds h.tacit).rang
    refine ⟨htacit, hleashed, h.disposed, fun hl => hcancelled (h.cancelled hl), h.alone, ?_, ?_⟩
    · exact fun hl => (h.hungUp hl).along hb.samePath
    · exact fun hl => ⟨(h.done hl).1, hrang.armed.trans (h.done hl).2⟩
  | change mode hc _ =>
    cases hf : x.leaving.isFlagged with
    | true =>
      rw [h.change_idle hf hc mode]
      exact h
    | false =>
      have hcalled : x.leaving.isCalled ≠ true := by
        intro hcalled
        rw [Leaving.isFlagged_of_isCalled hcalled] at hf
        cases hf
      refine sound_of_early htacit hleashed ?_ (fun hl => absurd hl hcalled) ?_
      · rw [hf]
        exact nofun
      · rw [← Bool.not_eq_true]
        exact fun ha => hcalled (Leaving.isCalled_of_isAlone ha)
  | proceed hc =>
    have hworked := x.coordinator.worked_proceed
    exact sound_of_early htacit hleashed (fun hl => (hworked _).disposed.trans (h.disposed hl))
      (fun hl => hcancelled (h.cancelled hl)) (hfree hc)
  | answer hc =>
    have hworked := x.coordinator.worked_welcome
    exact sound_of_early htacit hleashed (fun hl => (hworked _ _).disposed.trans (h.disposed hl))
      (fun hl => hcancelled (h.cancelled hl)) (hfree hc)
  | callOff hc _ => exact sound_of_early htacit hleashed h.disposed h.cancelled (hfree hc)
  | drop => exact ⟨htacit, hleashed, h.disposed, h.cancelled, fun _ => rfl, h.hungUp, h.done⟩
  | dispose _ => exact sound_of_early htacit hleashed (fun _ => rfl) nofun rfl
  | cancelAll hl =>
    have hd := h.disposed (by rw [hl]; rfl)
    refine sound_of_early htacit hleashed (fun _ => hd) (fun _ => ?_) rfl
    exact List.contains_iff_mem.mpr List.mem_cons_self
  | hold hl hc =>
    have hd := h.disposed (by rw [hl]; rfl)
    have hcalled := h.cancelled (by rw [hl]; rfl)
    exact ⟨htacit, hleashed, fun _ => hd, fun _ => hcalled, fun _ => hc, nofun, nofun⟩
  | hangUp hl =>
    have hd := h.disposed (by rw [hl]; rfl)
    have hcalled := h.cancelled (by rw [hl]; rfl)
    have halone := h.alone (by rw [hl]; rfl)
    have hstopped := x.sync.streamStopped_stopStream x.machine.now
    exact ⟨htacit, hleashed, fun _ => hd, fun _ => hcalled, fun _ => halone, fun _ => hstopped,
      nofun⟩
  | windDown hl =>
    have hhalted := x.coordinator.halted_windDown
    have hd := hhalted.disposed.trans (h.disposed (by rw [hl]; rfl))
    have hcalled := hcancelled (h.cancelled (by rw [hl]; rfl))
    have halone := h.alone (by rw [hl]; rfl)
    have hpath : SamePath x.sync x.coordinator.windDown.1.sync := by
      rw [hhalted.sync]
      exact samePath_of_log rfl rfl
    have hstopped := (h.hungUp (by rw [hl]; rfl)).along hpath
    have harmed := congrArg (·.ready.armed) hhalted.sync
    exact ⟨htacit, hleashed, fun _ => hd, fun _ => hcalled, fun _ => halone, fun _ => hstopped,
      fun _ => ⟨hhalted.active, harmed⟩⟩
  | ended hl _ => exact h.of_done (by rw [hl]; rfl) _ htacit hleashed
  | late hl => exact h.of_done (by rw [hl]; rfl) _ htacit hleashed
  | done hl => exact h.of_done (by rw [hl]; rfl) _ htacit hleashed

theorem Sound.run (h : x.Sound) (hr : Run x items y) : y.Sound := by
  induction hr with
  | refl => exact h
  | step _ hs ih => exact ih.step hs

theorem sound_starting {m : Machine}
    (hm : m.tasks.Only (fun j => j ≠ .fetch ∧ j ≠ .announce) fun _ => False)
    (o : Coordinator.Options) (mode : Mode) : (starting m o mode).Sound := by
  have htacit : m.tasks.Guarded IsTacit := hm.guarded fun _ _ hj => hj.2
  have hleashed : m.tasks.Guarded IsLeashed := hm.guarded fun _ _ hj hf => absurd hf hj.1
  exact sound_of_early (guarded_starting o mode htacit nofun)
    (guarded_starting o mode hleashed fun _ => rfl) nofun nofun rfl

/-! ## After the end -/

/-- Nothing was begun between two states: no mode was entered, no stream was started or stopped, no
question was asked, and no one was told that the client is ready. -/
structure Still (x y : Underway) : Prop where
  leaving : y.leaving = x.leaving
  path : SamePath x.sync y.sync
  questions : y.sync.seen .questions = x.sync.seen .questions
  ready : y.sync.ready = x.sync.ready
  readies : y.sync.readies = x.sync.readies

theorem Still.refl (x : Underway) : Still x x := ⟨rfl, .refl _, rfl, rfl, rfl⟩

theorem Still.trans (h : Still x y) (h' : Still y z) : Still x z where
  leaving := h'.leaving.trans h.leaving
  path := h.path.trans h'.path
  questions := h'.questions.trans h.questions
  ready := h'.ready.trans h.ready
  readies := h'.readies.trans h.readies

/-- After the disposal only what goes on beside the calls goes on. -/
theorem Sound.still (h : x.Sound) {result : Except Failure Unit} (hx : x.leaving = .returned result)
    (hs : Step x items y) : Still x y := by
  have hflagged : x.leaving.isFlagged = true := by rw [hx]; rfl
  have halone : x.change = none := h.alone (by rw [hx]; rfl)
  have hno : ∀ {leaving : Leaving}, x.leaving = leaving → leaving = .returned result :=
    fun hl => hl.symm.trans hx
  cases hs with
  | beside hb =>
    have hcancelled := h.cancelled (by rw [hx]; rfl)
    obtain ⟨fire, hrang, _⟩ := (hb.heeds h.tacit).rang
    obtain ⟨hready, hreadies⟩ := hrang.silent (h.done (by rw [hx]; rfl)).2
    exact ⟨rfl, hb.samePath, hb.questions h.leashed hcancelled, hready, hreadies⟩
  | change mode hc _ =>
    rw [h.change_idle hflagged hc mode]
    exact .refl x
  | drop => exact ⟨rfl, .refl _, rfl, rfl, rfl⟩
  | proceed hc => cases halone.symm.trans hc
  | answer hc => cases halone.symm.trans hc
  | callOff hc _ => cases halone.symm.trans hc
  | dispose hl => cases hno hl
  | cancelAll hl => cases hno hl
  | hold hl _ => cases hno hl
  | hangUp hl => cases hno hl
  | windDown hl => cases hno hl
  | ended hl _ => cases hno hl
  | late hl => cases hno hl
  | done hl => cases hno hl

theorem Sound.rest (h : x.Sound) {result : Except Failure Unit} (hx : x.leaving = .returned result)
    (hr : Run x items y) : Still x y := by
  induction hr with
  | refl => exact .refl x
  | step hr hs ih => exact ih.trans ((h.run hr).still (ih.leaving.trans hx) hs)

/-- Whatever changes of the mode, requests for one and calls of the stream a disposal has met with,
once it has returned, in time or not, and for ever after: the client's token is cancelled, no mode
is active, the stream is stopped, and no cycle can begin; to change the mode or to dispose again
does nothing, and is no failure. Since the disposal no mode was entered, no stream started, no
question asked, and no one told that the client is ready. -/
theorem a_disposal_is_final {m : Machine}
    (hm : m.tasks.Only (fun j => j ≠ .fetch ∧ j ≠ .announce) fun _ => False)
    {o : Coordinator.Options} {mode : Mode} {later : List Happening}
    {result : Except Failure Unit} (hx : Run (starting m o mode) history x)
    (hreturned : x.leaving = .returned result) (hy : Run x later y) :
    y.coordinator.isCancelled = true ∧ y.coordinator.active = none ∧ y.sync.StreamStopped ∧
      (∀ {i : Nat} {l : Loop Job Asked}, y.machine.CanMove i l .begin → l.task.job ≠ .fetch) ∧
      (∀ mode, y.coordinator.changeMode mode = (y.coordinator, .ok ())) ∧
      y.coordinator.dispose = (y.coordinator, .ok ()) ∧ Still x y := by
  have hsound := (sound_starting hm o mode).run hx
  have hstill := hsound.rest hreturned hy
  have h := hsound.run hy
  have hy' : y.leaving = .returned result := hstill.leaving.trans hreturned
  have hdisposed := h.disposed (by rw [hy']; rfl)
  have hcancelled := h.cancelled (by rw [hy']; rfl)
  refine ⟨hcancelled, (h.done (by rw [hy']; rfl)).1, h.hungUp (by rw [hy']; rfl),
    Machine.not_fetch_of_cancelled h.leashed hcancelled, ?_, ?_, hstill⟩
  · intro mode
    unfold Coordinator.changeMode Coordinator.activate
    rw [hdisposed, Bool.true_or, if_pos rfl]
  · unfold Coordinator.dispose
    rw [hdisposed, if_pos rfl]

/-! ### A disposal that meets with a change -/

/-- A disposal that is called while the stream is opened, waits for that change, and gives up a loop
that does not end in time. -/
theorem a_late_disposal_is_final :
    unchanging.tasks.Only (fun j => j ≠ .fetch ∧ j ≠ .announce) (fun _ => False) ∧
      ∃ x, Run (starting unchanging ⟨60, true, false⟩ .polling) [] x ∧
        x.leaving = .returned (.error (.taskShutdownTimeout Machine.fetchTask)) ∧
        x.sync.seen .modes = [.streaming] ∧ x.coordinator.active = none ∧
        x.coordinator.changeMode .polling = (x.coordinator, .ok ()) := by
  have hpolling := ((Run.refl (starting unchanging ⟨60, true, false⟩ .polling)).step
    (.proceed rfl)).step (.proceed rfl)
  have hopening := (hpolling.step (.change .streaming rfl rfl)).step (.dispose rfl)
  have hopened := ((hopening.step (.proceed rfl)).step (.cancelAll rfl)).step (.proceed rfl)
  have hstopped := ((hopened.step (.hold rfl rfl)).step (.hangUp rfl)).step (.windDown rfl)
  have hreturned := (hstopped.step (.late rfl)).step (.done rfl)
  obtain ⟨_, hactive, _, _, hchange, _⟩ :=
    a_disposal_is_final Tasks.only_empty hreturned rfl (.refl _)
  exact ⟨Tasks.only_empty, _, hreturned, rfl, rfl, hactive, hchange .polling⟩

end Underway

end ToggleSync
