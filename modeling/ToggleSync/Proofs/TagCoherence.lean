-- What a skipped cycle leaves a client with. The tag of polling is the one of the last state that
-- came with a tag. A state of the stream comes without one and leaves that tag as it was, so a
-- server that still answers to the tag keeps the client on what was streamed since.
import ToggleSync.Proofs.ActivePath
import ToggleSync.Proofs.StateText

namespace ToggleSync

open Machine (fetchTask clientToken)

/-! ## Histories -/

/-- The tag of the last state that came with one. -/
def heldNow (history : List Backup) : Option String := (history.filterMap (·.tag)).getLast?

theorem heldNow_append_untagged (history : List Backup) {taken : List Backup}
    (h : ∀ b ∈ taken, b.tag = none) :
    heldNow (history ++ taken) = heldNow history := by
  have hnone : taken.filterMap (·.tag) = [] := List.filterMap_eq_nil_iff.mpr h
  unfold heldNow
  rw [List.filterMap_append, hnone, List.append_nil]

/-- What polling accepts comes with a tag, which is held from then on. -/
theorem heldAfter_accepted (history : List Backup) (sent : Option String)
    (outcome : Except Failure Fetched) :
    heldAfter (heldNow history) (accepted? sent outcome).toList =
      heldNow (history ++ (accepted? sent outcome).toList) := by
  cases h : accepted? sent outcome with
  | none =>
    rw [Option.toList_none, List.append_nil]
    rfl
  | some b =>
    obtain ⟨state, tag, _, rfl, _⟩ := accepted?_eq_some h
    simp [heldNow, heldAfter]

/-- The state of the held tag, and what was taken since. -/
theorem tagged_of_held {history : List Backup} {tag : String} (h : heldNow history = some tag) :
    ∃ before state since, history = before ++ ⟨state, some tag⟩ :: since ∧
      ∀ b ∈ since, b.tag = none := by
  unfold heldNow at h
  obtain ⟨tags, htags⟩ := List.getLast?_eq_some_iff.mp h
  obtain ⟨l₁, l₂, rfl, _, hlast⟩ := List.filterMap_eq_append_iff.mp htags
  obtain ⟨between, b, since, rfl, hbetween, hb, hsince⟩ := List.filterMap_eq_cons_iff.mp hlast
  obtain ⟨state, t⟩ := b
  cases hb
  refine ⟨l₁ ++ between, state, since, by rw [List.append_assoc], ?_⟩
  exact List.filterMap_eq_nil_iff.mp hsince

theorem afterAll_append (c : Collection) (as bs : List Backup) :
    c.afterAll (as ++ bs) = (c.afterAll as).afterAll bs := List.foldl_append

theorem untagged_brings (m : StreamMessage) : ∀ b ∈ m.brings, b.tag = none := by
  intro b hb
  unfold StreamMessage.brings at hb
  rw [Option.mem_toList, Option.map_eq_some_iff] at hb
  obtain ⟨state, _, rfl⟩ := hb
  rfl

/-! ## Messages -/

theorem apply_takes (s : Streaming) (e : Engine) (state : String) :
    (s.apply e state).engine.snapshot =
      e.snapshot.afterAll (((some state).filter isReadable).map fun x => ⟨x, none⟩).toList := by
  unfold Streaming.apply
  cases h : isReadable state with
  | true =>
    rw [takeState_of_readable e h]
    simp [Option.filter_some, h, Collection.afterAll]
  | false =>
    obtain ⟨x, hx⟩ := takeState_of_unreadable e h
    rw [hx]
    simp [Option.filter_some, h, Collection.afterAll]

/-- A message takes the state that it brings, and leaves polling and its tag alone. -/
theorem message_takes (s : Sync) (now : Nat) (m : StreamMessage) :
    (s.handleMessage now m).1.polling = s.polling ∧
      (s.handleMessage now m).1.engine.snapshot = s.engine.snapshot.afterAll m.brings := by
  let r := s.streaming.message s.engine s.rules s.calendar m
  have hp := Sync.sameParts_performAll now r.effects
    { s with streaming := r.streaming, engine := r.engine }
  refine ⟨hp.polling, (congrArg Engine.snapshot hp.engine).trans ?_⟩
  cases m with
  | connected state => exact apply_takes s.streaming s.engine state
  | updated state => exact apply_takes s.streaming s.engine state
  | fetchMode hint => rfl
  | unknown event data => rfl

/-! ## The invariant -/

namespace Coordinator

/-- The parts of a client agree with the history of what was taken since its first toggles. -/
structure Coherent (first : Collection) (c : Coordinator) (history : List Backup) : Prop where
  tag : c.sync.polling.tag = heldNow history
  snapshot : c.sync.engine.snapshot = first.afterAll history
  /-- Whatever answer is waited for, its question was sent with the tag that is held. -/
  asked : ∀ asked, c.machine.tasks.Awaits asked → asked.question.tag = heldNow history

section

variable {first : Collection} {c c' : Coordinator} {history : List Backup}

/-- Where nothing is taken and nothing new is waited for, nothing changes. -/
theorem Coherent.along (h : Coherent first c history) (hp : Polled c.sync [] c'.sync)
    (ha : ∀ asked, c'.machine.tasks.Awaits asked → c.machine.tasks.Awaits asked) :
    Coherent first c' history :=
  ⟨hp.tag.trans h.tag, hp.snapshot.trans h.snapshot, fun a hw => h.asked a (ha a hw)⟩

theorem Coherent.move {o : Options} (h : Coherent first c history) (hk : c.machine.tasks.Kept o)
    {i : Nat} {l : Loop Job Asked} {v : Move} (hm : c.machine.CanMove i l v) :
    Coherent first { c with machine := c.machine.move Sync.behaviour i v }
      (history ++ c.machine.brings l v) := by
  have hp := (Machine.move_keeps hm).2
  constructor
  · have htag : heldAfter c.sync.polling.tag (c.machine.brings l v) =
        heldNow (history ++ c.machine.brings l v) := by
      rw [h.tag]
      unfold Machine.brings
      cases c.machine.ends? l v with
      | none =>
        rw [Option.bind_none, Option.toList_none, List.append_nil]
        rfl
      | some asked => exact heldAfter_accepted history asked.question.tag asked.outcome
    exact hp.tag.trans htag
  · rw [afterAll_append, ← h.snapshot]
    exact hp.snapshot
  · intro asked ha
    obtain ⟨hnone, hold | hnew⟩ := hk.awaits_move hm ha
    · rw [hnone, List.append_nil]
      exact h.asked asked hold
    · rw [hnone, List.append_nil, hnew]
      exact h.tag

/-- A cycle that ends was sent with the tag that is held. -/
theorem Coherent.question (h : Coherent first c history) {i : Nat} {l : Loop Job Asked} {v : Move}
    (hm : c.machine.CanMove i l v) {asked : Asked} (he : c.machine.ends? l v = some asked) :
    asked.question.tag = heldNow history := by
  unfold Machine.ends? at he
  cases v with
  | rest due => cases he
  | leave => cases he
  | begin =>
    cases hj : l.task.job with
    | fetch =>
      simp only [hj] at he
      split at he
      · cases he
        exact h.tag
      · cases he
    | register r =>
      simp only [hj] at he
      cases he
    | report r =>
      simp only [hj] at he
      cases he
    | announce =>
      simp only [hj] at he
      cases he
  | finish cancelled =>
    cases hm.able with
    | finish _ due stubborn pending hp =>
      simp only [hp] at he
      cases he
      exact h.asked pending ⟨i, l, due, stubborn, hm.loop, hp⟩

theorem polled_changed {mode : Mode} {tasks : Tasks Job Asked} {s : Sync}
    (h : Polled c.sync [] s) : Polled c.sync [] (c.changed mode tasks s).sync :=
  h.trans (polled_of_entry rfl rfl rfl rfl rfl)

theorem Coherent.change {o : Options} {before : List Mode} {initial : Mode}
    (h : Coherent first c history) (hs : Sound o before initial c) (request : Mode) :
    Coherent first (c.changeMode request).1 history := by
  have hswitched := hs.switched request
  generalize (c.changeMode request).1 = c' at hswitched ⊢
  cases hswitched with
  | stay _ => exact h
  | polling _ _ _ hawaits => exact h.along (polled_changed (Sync.polled_stopStream _ _)) hawaits
  | streaming _ _ _ hawaits _ _ hp => exact h.along (polled_changed hp) hawaits
  | refused _ _ _ hawaits _ hp => exact h.along hp hawaits

theorem Coherent.message (h : Coherent first c history) (m : StreamMessage) :
    Coherent first (c.update fun s => (s.handleMessage c.machine.now m).1)
      (history ++ m.brings) := by
  obtain ⟨hpolling, hsnapshot⟩ := message_takes c.sync c.machine.now m
  have hheld := heldNow_append_untagged history (untagged_brings m)
  constructor
  · rw [hheld, ← h.tag]
    exact congrArg Polling.tag hpolling
  · rw [afterAll_append, ← h.snapshot]
    exact hsnapshot
  · rw [hheld]
    exact h.asked

theorem Coherent.step {o : Options} {before : List Mode} {initial : Mode}
    (h : Coherent first c history) (hs : Sound o before initial c) {taken : List Backup}
    (hstep : Step c taken c') : Coherent first c' (history ++ taken) := by
  have hquiet : Polled c.sync [] c'.sync → c'.machine.tasks = c.machine.tasks →
      Coherent first c' (history ++ []) := by
    intro hp ht
    rw [List.append_nil]
    exact h.along hp fun _ ha => ht ▸ ha
  cases hstep with
  | move hm => exact h.move hs.kept hm
  | pass _ => exact hquiet (.refl _) rfl
  | change mode =>
    rw [List.append_nil]
    exact h.change hs mode
  | takeRequests => exact hquiet (polled_of_log rfl rfl rfl) rfl
  | message m => exact h.message m
  | failure f =>
    have hp := Sync.sameParts_performAll c.machine.now
      (c.sync.streaming.failed c.sync.rules c.sync.calendar f).2
      { c.sync with
        streaming := (c.sync.streaming.failed c.sync.rules c.sync.calendar f).1 }
    rw [List.append_nil]
    refine ⟨(congrArg Polling.tag hp.polling).trans h.tag,
      (congrArg Engine.snapshot hp.engine).trans h.snapshot, h.asked⟩
  | opened => exact hquiet (polled_of_log rfl rfl rfl) rfl
  | closed => exact hquiet (polled_of_log rfl rfl rfl) rfl
  | server answers startFailure => exact hquiet (polled_of_log rfl rfl rfl) rfl
  | count usage => exact hquiet (polled_of_log rfl rfl rfl) rfl
  | tell i => exact hquiet (polled_of_entry rfl rfl rfl rfl rfl) rfl
  | fireReady => exact hquiet (polled_fireReady _ _) rfl

end

section

variable {m : Machine} {o : Options} {initial : Mode} {c : Coordinator} {history : List Backup}

theorem coherent_start (hm : m.Fresh) (ht : m.state.polling.tag = none)
    (h : (start m o initial).2 = .ok ()) :
    Coherent m.state.engine.snapshot (start m o initial).1
      (((start m o initial).1.sync.seen .backups).drop (m.state.seen .backups).length) := by
  -- what polling took since the machine was set up is what was handed over to be kept since
  have hbegin : ∀ {c : Coordinator} (sent : Option String) (outcome : Except Failure Fetched),
      Polled m.state (accepted? sent outcome).toList c.sync →
      (∀ asked, ¬ c.machine.tasks.Awaits asked) →
      Coherent m.state.engine.snapshot c
        ((c.sync.seen .backups).drop (m.state.seen .backups).length) := by
    intro c sent outcome hp ha
    rw [hp.backups, List.drop_left]
    refine ⟨?_, hp.snapshot, fun asked hw => absurd hw (ha asked)⟩
    rw [hp.tag, ht]
    exact heldAfter_accepted [] sent outcome
  cases initial with
  | polling =>
    obtain ⟨m', tasks, sent, outcome, hbare, _, _, hawaits, hc⟩ := start_polling hm h
    rw [hc]
    exact hbegin sent outcome ((Sync.polled_stopStream _ _).trans hbare.polled) hawaits
  | streaming =>
    obtain ⟨tasks, s, _, _, hawaits, _, _, hp, hc⟩ := start_streaming hm h
    rw [hc]
    exact hbegin none (.error .cancelled) hp hawaits

theorem Reached.coherent (hm : m.Fresh) (ht : m.state.polling.tag = none)
    (h : Reached m o initial c history) : Coherent m.state.engine.snapshot c history := by
  induction h with
  | start hok => exact coherent_start hm ht hok
  | step hr hs ih => exact ih.step (hr.sound hm) hs

end

theorem Reached.coherent_base {sync : Sync} {reports : Option Span} {i : Identity} {o : Options}
    {initial : Mode} {c : Coordinator} {history : List Backup} (ht : sync.polling.tag = none)
    (h : Reached (Machine.base sync reports i) o initial c history) :
    Coherent sync.engine.snapshot c history := by
  have hc := h.coherent (Machine.fresh_base sync reports i) (by rw [Machine.state_base]; exact ht)
  rw [Machine.state_base] at hc
  exact hc

/-! ## Skipped cycles -/

/-- Neither an answer without news nor one under the tag that was sent is accepted. -/
theorem accepted?_of_skipped {sent : Option String} {f : Fetched} {tag : String}
    (hsent : sent = some tag) (hskip : f.hasChanged = false ∨ f.tag = some tag) :
    accepted? sent (.ok f) = none := by
  cases h : accepted? sent (.ok f) with
  | none => rfl
  | some b =>
    obtain ⟨state, t, houtcome, _, _, hne, _⟩ := accepted?_eq_some h
    cases houtcome
    rcases hskip with hchanged | htag
    · cases hchanged
    · exact absurd (hsent.trans htag.symm) hne

/-- A cycle that is skipped was sent with the held tag, and leaves everything as it was. -/
theorem Coherent.skip {first : Collection} {c : Coordinator} {history : List Backup} {o : Options}
    (h : Coherent first c history) (hk : c.machine.tasks.Kept o) {i : Nat} {l : Loop Job Asked}
    {v : Move} (hm : c.machine.CanMove i l v) {q : Polling.Question} {f : Fetched}
    (he : c.machine.ends? l v = some ⟨q, .ok f⟩) {tag : String} (hsent : q.tag = some tag)
    (hskip : f.hasChanged = false ∨ f.tag = some tag) :
    heldNow history = some tag ∧
      Coherent first { c with machine := c.machine.move Sync.behaviour i v } history := by
  have hnone : c.machine.brings l v = [] := by
    unfold Machine.brings
    rw [he, Option.bind_some, accepted?_of_skipped hsent hskip]
    rfl
  have hmoved := h.move hk hm
  rw [hnone, List.append_nil] at hmoved
  exact ⟨(h.question hm he).symm.trans hsent, hmoved⟩

/-! ## A client that drifts -/

/-- A server that answers with a first state, and from then on that nothing has changed. -/
def driftSync (first : String) : Sync :=
  .new (.new [⟨.ok ⟨true, some first, some "v1"⟩, 0, false⟩] none) none false .standard .nowhere

def driftMachine (first : String) : Machine := .base (driftSync first) none ⟨"", "", "", ""⟩

def driftOptions : Options := ⟨1000, true, false⟩

def driftLoop (stopped : Bool) (previous : Option Nat) (phase : Phase Asked) : Loop Job Asked :=
  ⟨driftOptions.fetchSpec, clientToken, stopped, previous, phase⟩

/-- The client in a mode, with the loops of its fetch task. -/
def driftAt (mode : Mode) (run : Nat) (loops : List (Loop Job Asked)) (s : Sync) : Coordinator :=
  ⟨⟨0, [], ⟨[⟨driftOptions.fetchSpec, clientToken, some run⟩], loops, false⟩, s⟩, some mode, false,
    false, 1000⟩

section

variable {first later : String}

/-- The first cycle takes the first state. -/
theorem drift_polls (hblank : isBlankText first = false) (hfirst : isReadable first = true)
    {s : Sync} (htag : s.polling.tag = none)
    (hnext : s.backend.next.1 = ⟨.ok ⟨true, some first, some "v1"⟩, 0, false⟩) :
    Step (driftAt .polling 0 [driftLoop false none .queued] s) [⟨first, some "v1"⟩]
      (driftAt .polling 0 [driftLoop false none (.resting 1000)]
        (s.cycle ⟨0, 0, s.backend.next.1.outcome⟩).1) := by
  let m := (driftAt .polling 0 [driftLoop false none .queued] s).machine
  have hstep := Step.move (c := driftAt .polling 0 [driftLoop false none .queued] s) (i := 0)
    (l := driftLoop false none .queued) (v := .begin) ⟨rfl, rfl⟩
  have hticks : s.backend.next.1.ticks = 0 := by rw [hnext]
  have hmove := Machine.move_of_pass (m := m) (i := 0) (l := driftLoop false none .queued) rfl
    (Sync.begin_fetch_eq_cycle s 0 hticks)
  have htaken : m.brings (driftLoop false none .queued) .begin = [⟨first, some "v1"⟩] := by
    have hends : m.ends? (driftLoop false none .queued) .begin =
        some ⟨s.question, s.backend.next.1.outcome⟩ := if_pos hticks
    have hsent : s.question.tag = none := htag
    rw [Machine.brings, hends, Option.bind_some, hsent, hnext]
    simp [accepted?, hblank, hfirst]
  rw [hmove, htaken] at hstep
  exact hstep

theorem drift_to_streaming {s s' : Sync} (h : s.startStream 0 = (s', .ok ()))
    (phase : Phase Asked) :
    ((driftAt .polling 0 [driftLoop false none phase] s).changeMode .streaming).1 =
      driftAt .streaming 0 [driftLoop true none phase] (s'.raise 0 (.modeChanged .streaming)) := by
  have hstop : (driftAt .polling 0 [driftLoop false none phase] s).machine.stopPolling =
      ((driftAt .polling 0 [driftLoop true none phase] s).machine, .ok ()) := rfl
  have hstart : (driftAt .polling 0 [driftLoop true none phase] s).machine.startStream =
      ((driftAt .polling 0 [driftLoop true none phase] s').machine, .ok ()) := by
    have hs : (driftAt .polling 0 [driftLoop true none phase] s).machine.state.startStream
        (driftAt .polling 0 [driftLoop true none phase] s).machine.now = (s', .ok ()) := h
    unfold Machine.startStream
    rw [hs]
    rfl
  simp only [changeMode, activate, enterStreaming, hstop, hstart]
  rfl

/-- The stream brings a later state. -/
theorem drift_streams (hlater : isReadable later = true) (s : Sync)
    (loops : List (Loop Job Asked)) :
    Step (driftAt .streaming 0 loops s) [⟨later, none⟩]
      (driftAt .streaming 0 loops (s.handleMessage 0 (.connected later)).1) := by
  have hstep := Step.message (driftAt .streaming 0 loops s) (.connected later)
  have htaken : (StreamMessage.connected later).brings = [⟨later, none⟩] := by
    simp [StreamMessage.brings, StreamMessage.state?, Option.filter_some, hlater]
  rw [htaken] at hstep
  exact hstep

/-- So it holds a streamed state when it polls again, and has heard of the tag of the first. -/
theorem drift_reached (hblank : isBlankText first = false) (hfirst : isReadable first = true)
    (hlater : isReadable later = true) :
    ∃ s : Sync, s.backend.next.1 = ⟨.ok .unchanged, 0, false⟩ ∧
      Reached (driftMachine first) driftOptions .polling
        (driftAt .polling 1 [driftLoop true none .ended, driftLoop false (some 0) .queued] s)
        [⟨first, some "v1"⟩, ⟨later, none⟩] := by
  let s₀ := (driftSync first).stopStream 0
  have hstart : Reached (driftMachine first) driftOptions .polling
      (driftAt .polling 0 [driftLoop false none .queued] s₀) [] := .start rfl
  have hpolled := hstart.step (drift_polls hblank hfirst rfl rfl)
  let s₁ := (s₀.cycle ⟨0, 0, s₀.backend.next.1.outcome⟩).1
  have hb₁ : s₁.backend = (s₀.ask 0).1.backend := (Sync.concluded _ _ _ _).backend
  have hopen : s₁.startStream 0 = ((s₁.startStream 0).1, .ok ()) := by
    unfold Sync.startStream
    rw [hb₁]
    rfl
  let s₂ := (s₁.startStream 0).1.raise 0 (.modeChanged .streaming)
  have hb₂ : s₂.backend = { s₁.backend with streamOpen := true, linked := true } := by
    show (s₁.startStream 0).1.backend = _
    unfold Sync.startStream
    rw [hb₁]
    rfl
  have hstreaming := hpolled.step (.change _ .streaming)
  rw [drift_to_streaming hopen] at hstreaming
  let s₃ := (s₂.handleMessage 0 (.connected later)).1
  have hb₃ : s₃.backend = s₂.backend := (Sync.sameParts_performAll _ _ _).backend
  have hpolling := (hstreaming.step (drift_streams hlater s₂ _)).step (.change _ .polling)
  have hleft := hpolling.step (.move (i := 0) (v := .leave) ⟨rfl, rfl⟩)
  refine ⟨(s₃.stopStream 0).raise 0 (.modeChanged .polling), ?_, hleft⟩
  show ({ s₃.backend with streamOpen := false } : Backend).next.1 = _
  rw [hb₃, hb₂, hb₁]
  rfl

end

theorem read_render_full (c : Collection) : Update.read c.render = .ok (.full c) :=
  read_render (.full c)

theorem isReadable_render (c : Collection) : isReadable c.render = true := by
  rw [isReadable, read_render_full]
  rfl

theorem after_render (current c : Collection) : current.after c.render = c := by
  rw [Collection.after, read_render_full]
  rfl

/-- The next cycle of the client that drifts is skipped, and leaves it with the later toggles. -/
theorem drift_skips (first later : Collection) :
    ∃ (c : Coordinator) (l : Loop Job Asked) (q : Polling.Question),
      Reached (driftMachine first.render) driftOptions .polling c
        [⟨first.render, some "v1"⟩, ⟨later.render, none⟩] ∧
      c.machine.CanMove 1 l .begin ∧ c.machine.ends? l .begin = some ⟨q, .ok .unchanged⟩ ∧
      q.tag = some "v1" ∧
      (c.machine.move Sync.behaviour 1 .begin).state.engine.snapshot = later := by
  have hblank : isBlankText first.render = false := not_blank_render (.full first)
  obtain ⟨s, hnext, h⟩ :=
    drift_reached hblank (isReadable_render first) (isReadable_render later)
  have hm : (driftAt .polling 1 [driftLoop true none .ended, driftLoop false (some 0) .queued]
      s).machine.CanMove 1 (driftLoop false (some 0) .queued) .begin := ⟨rfl, rfl⟩
  have hend : (driftAt .polling 1 [driftLoop true none .ended, driftLoop false (some 0) .queued]
      s).machine.ends? (driftLoop false (some 0) .queued) .begin =
      some ⟨s.question, .ok .unchanged⟩ := by
    show (if s.backend.next.1.ticks = 0 then some (Asked.mk s.question s.backend.next.1.outcome)
      else none) = _
    rw [hnext]
    rfl
  have hs := h.sound (Machine.fresh_base _ _ _)
  have hc := h.coherent_base rfl
  have hsent : s.question.tag = some "v1" := hc.question hm hend
  obtain ⟨_, hc'⟩ := hc.skip hs.kept hm hend hsent (Or.inl rfl)
  refine ⟨_, _, s.question, h, hm, hend, hsent, hc'.snapshot.trans ?_⟩
  simp only [Collection.afterAll, List.foldl_cons, List.foldl_nil, after_render]

/-! ## The law -/

/-- A client starts without a tag and runs on, in any order of steps. Whenever a cycle takes nothing
because the answer is that nothing has changed, or comes under the tag that was sent, the client
is left with the state that came with that tag and with every state that was streamed since, in
order. So it holds the state of the tag exactly if what was streamed since makes no difference. -/
theorem a_skipped_cycle_keeps_what_was_streamed_since_the_tag (sync : Sync)
    (reports : Option Span) (i : Identity) (o : Options) (initial : Mode) {c : Coordinator}
    {history : List Backup} (hfresh : sync.polling.tag = none)
    (h : Reached (Machine.base sync reports i) o initial c history) {k : Nat}
    {l : Loop Job Asked} {v : Move} (hm : c.machine.CanMove k l v) {q : Polling.Question}
    {f : Fetched} (hend : c.machine.ends? l v = some ⟨q, .ok f⟩) {tag : String}
    (hsent : q.tag = some tag) (hskip : f.hasChanged = false ∨ f.tag = some tag) :
    let s' := (c.machine.move Sync.behaviour k v).state
    s'.polling.tag = some tag ∧
      ∃ before state streamed, history = before ++ ⟨state, some tag⟩ :: streamed ∧
        (∀ b ∈ streamed, b.tag = none) ∧
        let tagged := (sync.engine.snapshot.afterAll before).after state
        s'.engine.snapshot = tagged.afterAll streamed ∧
        (s'.engine.snapshot = tagged ↔ tagged.afterAll streamed = tagged) := by
  intro s'
  have hs := h.sound (Machine.fresh_base sync reports i)
  have hc := h.coherent_base hfresh
  obtain ⟨hheld, hc'⟩ := hc.skip hs.kept hm hend hsent hskip
  obtain ⟨before, state, streamed, hhistory, huntagged⟩ := tagged_of_held hheld
  have hsnapshot : s'.engine.snapshot =
      ((sync.engine.snapshot.afterAll before).after state).afterAll streamed := by
    have hfold : s'.engine.snapshot = sync.engine.snapshot.afterAll history := hc'.snapshot
    rw [hfold, hhistory, afterAll_append]
    rfl
  refine ⟨hc'.tag.trans hheld, before, state, streamed, hhistory, huntagged, hsnapshot, ?_⟩
  rw [hsnapshot]

/-- So a client that drifts holds the tag of the first state. -/
theorem a_skipped_cycle_keeps_the_tag_of_a_drifting_client :
    ∃ (c : Coordinator) (history : List Backup) (l : Loop Job Asked) (q : Polling.Question),
      (driftSync (Collection.mk 2 []).render).polling.tag = none ∧
      Reached (driftMachine (Collection.mk 2 []).render) driftOptions .polling c history ∧
      c.machine.CanMove 1 l .begin ∧ c.machine.ends? l .begin = some ⟨q, .ok .unchanged⟩ ∧
      q.tag = some "v1" ∧
      (c.machine.move Sync.behaviour 1 .begin).state.polling.tag = some "v1" := by
  obtain ⟨c, l, q, h, hm, hend, hsent, _⟩ := drift_skips ⟨2, []⟩ ⟨7, []⟩
  exact ⟨c, _, l, q, rfl, h, hm, hend, hsent,
    (a_skipped_cycle_keeps_what_was_streamed_since_the_tag
      (driftSync (Collection.mk 2 []).render) none ⟨"", "", "", ""⟩ driftOptions .polling rfl h hm
      hend hsent (Or.inl rfl)).1⟩

/-- The server has told of one state only, says that it is still the one, and the client holds
another: the tag that it sends is that of a state which the stream has taken the place of. -/
theorem a_skipped_cycle_may_leave_a_streamed_state :
    ∃ (c : Coordinator) (history : List Backup) (l : Loop Job Asked) (q : Polling.Question),
      (driftSync (Collection.mk 2 []).render).polling.tag = none ∧
      Reached (driftMachine (Collection.mk 2 []).render) driftOptions .polling c history ∧
      c.machine.CanMove 1 l .begin ∧ c.machine.ends? l .begin = some ⟨q, .ok .unchanged⟩ ∧
      q.tag = some "v1" ∧
      history = [⟨(Collection.mk 2 []).render, some "v1"⟩, ⟨(Collection.mk 7 []).render, none⟩] ∧
      (c.machine.move Sync.behaviour 1 .begin).state.engine.snapshot ≠
        (driftSync (Collection.mk 2 []).render).engine.snapshot.after
          (Collection.mk 2 []).render := by
  obtain ⟨c, l, q, h, hm, hend, hsent, hsnapshot⟩ := drift_skips ⟨2, []⟩ ⟨7, []⟩
  refine ⟨c, _, l, q, rfl, h, hm, hend, hsent, rfl, ?_⟩
  rw [hsnapshot, after_render]
  decide

end Coordinator

end ToggleSync
