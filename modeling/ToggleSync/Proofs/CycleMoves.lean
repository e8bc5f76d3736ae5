-- What the moves of a client's loops do to its parts. A move takes at most the state of the cycle
-- that it ends, and never touches the stream, the mode, or which loops are stopped.
import ToggleSync.Proofs.FetchLoops
import ToggleSync.Proofs.PollingRun

namespace ToggleSync

open Machine (fetchTask clientToken)

/-! ## What leaves the path alone -/

/-- Neither the stream nor the mode was touched between two states of a client. -/
structure SamePath (s s' : Sync) : Prop where
  streamOpen : s'.backend.streamOpen = s.backend.streamOpen
  turns : s'.seen .streamTurns = s.seen .streamTurns
  modes : s'.seen .modes = s.seen .modes

theorem SamePath.refl (s : Sync) : SamePath s s := ⟨rfl, rfl, rfl⟩

theorem SamePath.trans {s t u : Sync} (h : SamePath s t) (h' : SamePath t u) : SamePath s u := by
  constructor
  · rw [h'.streamOpen, h.streamOpen]
  · rw [h'.turns, h.turns]
  · rw [h'.modes, h.modes]

theorem samePath_of_aside {s s' : Sync} (ho : s'.backend.streamOpen = s.backend.streamOpen)
    (h : ∀ {α : Type} {v : View α}, v.Aside → s'.seen v = s.seen v) : SamePath s s' :=
  ⟨ho, h View.aside_streamTurns, h View.aside_modes⟩

theorem samePath_of_log {s s' : Sync} (ho : s'.backend.streamOpen = s.backend.streamOpen)
    (hl : s'.log = s.log) : SamePath s s' :=
  ⟨ho, Sync.seen_of_log hl _, Sync.seen_of_log hl _⟩

theorem samePath_fireReady (s : Sync) (now : Nat) : SamePath s (s.fireReady now) := by
  apply samePath_of_aside
  · rw [(Sync.sameParts_fireReady s now).backend]
  · intro α v _
    exact Sync.seen_fireReady s now v

theorem samePath_performAll (s : Sync) (now : Nat) {es : List Effect}
    (h : es.all Effect.isPlain = true) : SamePath s (es.foldl (Sync.perform now) s) := by
  apply samePath_of_aside
  · rw [(Sync.sameParts_performAll now es s).backend]
  · intro α v hv
    rw [Sync.seen_performAll, hv.shows h, List.append_nil]

theorem plain_announcement (p : Polling) : p.announcement.all Effect.isPlain = true := by
  unfold Polling.announcement
  split <;> rfl

theorem plain_conclude (p : Polling) (e : Engine) (q : Polling.Question)
    (outcome : Except Failure Fetched) :
    (p.conclude e q outcome).effects.all Effect.isPlain = true := by
  unfold Polling.conclude
  split
  · rfl
  · rfl
  · split
    · exact plain_announcement _
    · split
      · rfl
      · rw [List.all_append, plain_announcement]
        rfl

theorem plain_record (s : Streaming) (rules : Failover.Rules) (kind : Failover.Kind)
    (time : Instant) : (s.record rules kind time).2.all Effect.isPlain = true := by
  unfold Streaming.record
  generalize rules.step s.incidents ⟨kind, time⟩ time = r
  obtain ⟨failOver, incidents⟩ := r
  cases failOver <;> rfl

theorem plain_apply (s : Streaming) (e : Engine) (state : String) :
    (s.apply e state).effects.all Effect.isPlain = true := by
  unfold Streaming.apply
  split
  · rfl
  · cases s.announced <;> rfl

theorem plain_message (s : Streaming) (e : Engine) (rules : Failover.Rules) (time : Instant)
    (m : StreamMessage) : (s.message e rules time m).effects.all Effect.isPlain = true := by
  cases m with
  | connected state => exact plain_apply s e state
  | updated state => exact plain_apply s e state
  | fetchMode hint => exact plain_record s rules (.hint (trim hint)) time
  | unknown event data => rfl

theorem plain_failed (s : Streaming) (rules : Failover.Rules) (time : Instant) (f : Failure) :
    (s.failed rules time f).2.all Effect.isPlain = true := by
  unfold Streaming.failed
  simp only [List.all_cons, plain_record, Effect.isPlain]
  rfl

theorem streamOpen_next (b : Backend) : b.next.2.streamOpen = b.streamOpen := by
  unfold Backend.next
  split <;> rfl

theorem samePath_ask (s : Sync) (now : Nat) : SamePath s (s.ask now).1 := by
  apply samePath_of_aside
  · exact streamOpen_next s.backend
  · intro α v hv
    rw [Sync.seen_ask, hv.asked]
    simp

theorem samePath_conclude (s : Sync) (now : Nat) (q : Polling.Question)
    (outcome : Except Failure Fetched) : SamePath s (s.conclude now q outcome).1 := by
  have hc := Sync.concluded s now q outcome
  apply samePath_of_aside
  · rw [hc.backend]
  · intro α v hv
    have hplain := plain_conclude s.polling s.engine q (s.heard q outcome)
    rw [hc.seen, Sync.cycleOf, hv.shows hplain, List.append_nil]

theorem samePath_cycle (s : Sync) (t : Turn) : SamePath s (s.cycle t).1 :=
  (samePath_ask s t.asked).trans (samePath_conclude _ _ _ _)

theorem samePath_message (s : Sync) (now : Nat) (m : StreamMessage) :
    SamePath s (s.handleMessage now m).1 := by
  let r := s.streaming.message s.engine s.rules s.calendar m
  have hp := samePath_performAll { s with streaming := r.streaming, engine := r.engine } now
    (plain_message s.streaming s.engine s.rules s.calendar m)
  exact ⟨hp.streamOpen, hp.turns, hp.modes⟩

theorem samePath_failure (s : Sync) (now : Nat) (f : Failure) :
    SamePath s (s.handleError now f) := by
  let r := s.streaming.failed s.rules s.calendar f
  have hp := samePath_performAll { s with streaming := r.1 } now
    (plain_failed s.streaming s.rules s.calendar f)
  exact ⟨hp.streamOpen, hp.turns, hp.modes⟩

/-! ## The jobs of tasks -/

theorem polled_of_log {s s' : Sync} (hp : s'.polling = s.polling)
    (he : s'.engine.snapshot = s.engine.snapshot) (hl : s'.log = s.log) : Polled s [] s' := by
  constructor
  · rw [hp]
    rfl
  · exact he
  · rw [Sync.seen_of_log hl, List.append_nil]
  · rw [Sync.seen_of_log hl]
    rfl

/-- An entry of another kind is as good as none. -/
theorem polled_of_entry {s s' : Sync} {now : Nat} {e : Entry} (hp : s'.polling = s.polling)
    (he : s'.engine.snapshot = s.engine.snapshot) (hl : s'.log = s.log ++ [(now, e)])
    (hb : View.backups.see e = none) (hu : View.updates.see e = none) : Polled s [] s' := by
  have hlog : s'.log = (s.note now e).log := hl
  constructor
  · rw [hp]
    rfl
  · exact he
  · rw [Sync.seen_of_log hlog, Sync.seen_note, hb]
    rfl
  · rw [Sync.seen_of_log hlog, Sync.seen_note, hu]
    simp

theorem polled_fireReady (s : Sync) (now : Nat) : Polled s [] (s.fireReady now) := by
  have hp := Sync.sameParts_fireReady s now
  constructor
  · rw [hp.polling]
    rfl
  · rw [hp.engine]
    rfl
  · rw [Sync.seen_fireReady, List.append_nil]
  · rw [Sync.seen_fireReady]
    rfl

/-- A report takes what was counted, and leaves the toggles and the path. -/
theorem report_keeps (s : Sync) (now : Nat) (i : Identity) :
    SamePath s (s.report now i) ∧ Polled s [] (s.report now i) := by
  have hrest : ∀ e : Engine, e.snapshot = s.engine.snapshot →
      SamePath s { s with engine := e } ∧ Polled s [] { s with engine := e } :=
    fun e he => ⟨samePath_of_log rfl rfl, polled_of_log rfl he rfl⟩
  have hnote : ∀ (t : Sync) (m : Metrics),
      SamePath t (t.note now (.reported m)) ∧ Polled t [] (t.note now (.reported m)) := by
    intro t m
    refine ⟨samePath_of_aside rfl ?_, polled_of_entry rfl rfl rfl rfl rfl⟩
    intro α v hv
    rw [Sync.seen_note, hv.reported]
    simp
  have hsnap : (s.engine.takeUsage s.calendar).2.snapshot = s.engine.snapshot := by
    unfold Engine.takeUsage
    split <;> rfl
  have hr := hrest _ hsnap
  unfold Sync.report
  generalize s.engine.takeUsage s.calendar = taken at hr ⊢
  obtain ⟨usage, engine⟩ := taken
  cases usage with
  | none => exact hr
  | some bucket =>
    have hn := hnote { s with engine } ⟨i.appName, i.instanceId, i.connectionId, bucket⟩
    exact ⟨hr.1.trans hn.1, hr.2.trans hn.2⟩

namespace Machine

/-- The cycle that a move of a loop ends, if it ends one: what was asked, and what came of it. -/
def ends? (m : Machine) (l : Loop Job Asked) : Move → Option Asked
  | .begin =>
    match l.task.job with
    | .fetch =>
      let a := m.state.backend.next.1
      if a.ticks = 0 then some ⟨m.state.question, a.outcome⟩ else none
    | _ => none
  | .finish cancelled =>
    match l.phase with
    | .running _ _ asked =>
      some ⟨asked.question, if cancelled then .error .cancelled else asked.outcome⟩
    | _ => none
  | _ => none

/-- The states that a move takes, each with its tag: at most that of the cycle that it ends. -/
def brings (m : Machine) (l : Loop Job Asked) (move : Move) : List Backup :=
  ((m.ends? l move).bind fun a => accepted? a.question.tag a.outcome).toList

/-! ## Moves -/

/-- A run that is over at once leaves the loop where it is after a run. -/
theorem move_of_pass {m : Machine} {i : Nat} {l : Loop Job Asked} {s : Sync}
    (hl : m.tasks.loops[i]? = some l)
    (hb : Sync.behaviour.begin m.now m.state l.task.job = (s, none)) :
    m.move Sync.behaviour i .begin =
      { m with state := s, tasks := m.tasks.setPhase i (l.task.afterRun Asked m.now) } := by
  unfold Clockwork.move
  rw [hl]
  simp only [Clockwork.beginRun, hb]

/-- The states before and after a move, and what the move takes. -/
theorem move_keeps {m : Machine} {i : Nat} {l : Loop Job Asked} {v : Move}
    (h : m.CanMove i l v) :
    SamePath m.state (m.move Sync.behaviour i v).state ∧
      Polled m.state (m.brings l v) (m.move Sync.behaviour i v).state := by
  unfold Clockwork.move brings ends?
  rw [h.loop]
  cases v with
  | rest due => exact ⟨.refl _, .refl _⟩
  | leave => exact ⟨.refl _, .refl _⟩
  | begin =>
    simp only [Clockwork.beginRun]
    cases hj : l.task.job with
    | fetch =>
      by_cases ht : m.state.backend.next.1.ticks = 0
      · simp only [Sync.begin_fetch_eq_cycle _ _ ht, ht, if_true, Option.bind_some]
        exact ⟨samePath_cycle _ _,
          Sync.polled_cycle m.state ⟨m.now, m.now, m.state.backend.next.1.outcome⟩⟩
      · simp only [Sync.begin_fetch_of_wait _ _ ht, ht, if_false, Option.bind_none]
        exact ⟨samePath_ask _ _, Sync.polled_ask _ _⟩
    | register r =>
      refine ⟨samePath_of_aside rfl ?_, polled_of_entry rfl rfl rfl rfl rfl⟩
      intro α w hw
      simp only [Sync.behaviour]
      rw [Sync.seen_note, hw.registered]
      simp
    | report r => exact report_keeps m.state m.now r
    | announce => exact ⟨samePath_fireReady _ _, polled_fireReady _ _⟩
  | finish cancelled =>
    simp only [Clockwork.finishRun]
    cases hp : l.phase with
    | running due stubborn asked =>
      exact ⟨samePath_conclude _ _ _ _, Sync.polled_conclude _ _ _ _⟩
    | queued => exact ⟨.refl _, .refl _⟩
    | resting due => exact ⟨.refl _, .refl _⟩
    | ended => exact ⟨.refl _, .refl _⟩

end Machine

/-! ## The fetch task -/

namespace Tasks

variable {o : Coordinator.Options} {m : Machine} {i : Nat} {l : Loop Job Asked} {v : Move}

/-- Only a cycle that has to wait for its answer makes a loop run on. -/
theorem fetch_of_wait {s s' : Sync} {now : Nat} {job : Job} {w : Wait Asked}
    (h : Sync.behaviour.begin now s job = (s', some w)) : job = .fetch := by
  cases job with
  | fetch => rfl
  | register r => cases h
  | report r => cases h
  | announce => cases h

theorem Kept.move (h : m.tasks.Kept o) (hm : m.CanMove i l v) :
    (m.move Sync.behaviour i v).tasks.Kept o := by
  obtain ⟨_, hne, hfree⟩ := hm.tasks Sync.behaviour
  have hset : ∀ phase : Phase Asked, (∀ due stubborn asked,
      phase = .running due stubborn asked → l.task.job = .fetch) →
      (m.tasks.setPhase i phase).Kept o := fun _ hw => h.setPhase hm.loop hne hfree hw
  have hafter : (m.tasks.setPhase i (l.task.afterRun Asked m.now)).Kept o := by
    apply hset
    intro due stubborn asked hp
    unfold TaskSpec.afterRun at hp
    split at hp <;> cases hp
  have hmoved := hm.moved Sync.behaviour
  generalize m.move Sync.behaviour i v = m' at hmoved ⊢
  cases hmoved with
  | rest due _ => exact hset _ (by simp)
  | pass _ _ => exact hafter
  | wait _ hb => exact hset _ fun _ _ _ _ => fetch_of_wait hb
  | finish _ _ => exact hafter
  | leave _ => exact hset _ (by simp)

theorem Still.move (h : m.tasks.Still) (hm : m.CanMove i l v) :
    (m.move Sync.behaviour i v).tasks.Still := by
  obtain ⟨⟨phase, hp⟩, _⟩ := hm.tasks Sync.behaviour
  rw [hp]
  exact h.setPhase i phase

/-- A live loop goes on, for what ends a loop is to be stopped or to have run its one run. -/
theorem Live.move (h : m.tasks.Live o) (hk : m.tasks.Kept o)
    (hc : m.cancelled.contains clientToken = false) (hm : m.CanMove i l v) :
    (m.move Sync.behaviour i v).tasks.Live o := by
  have hset : ∀ phase : Phase Asked,
      (l.task = o.fetchSpec → l.isStopped m.cancelled = false → phase = .ended → o.interval = 0) →
      (m.tasks.setPhase i phase).Live o := by
    intro phase hend
    apply h.setPhase
    intro k hi hs
    obtain rfl := eq_of_hasLoop hi hm.loop
    obtain ⟨htask, htoken⟩ := hk.ours hi
    refine hend htask ?_
    rw [Loop.isStopped, hs, htoken, hc]
    rfl
  have hafter : (m.tasks.setPhase i (l.task.afterRun Asked m.now)).Live o := by
    apply hset
    intro htask _ hp
    unfold TaskSpec.afterRun at hp
    split at hp
    · rename_i hz
      rw [htask] at hz
      exact hz
    · cases hp
  have hmoved := hm.moved Sync.behaviour
  generalize m.move Sync.behaviour i v = m' at hmoved ⊢
  cases hmoved with
  | rest due _ => exact hset _ (by simp)
  | pass _ _ => exact hafter
  | wait _ _ => exact hset _ (by simp)
  | finish _ _ => exact hafter
  | leave hs => exact hset _ fun _ hn _ => absurd (hn.symm.trans hs) (by simp)

theorem awaits_setPhase {t : Tasks Job Asked} {i : Nat} {phase : Phase Asked} {asked : Asked}
    (h : (t.setPhase i phase).Awaits asked) :
    (∃ due stubborn, phase = .running due stubborn asked) ∨
      ∃ j l due stubborn, i ≠ j ∧ t.loops[j]? = some l ∧
        l.phase = .running due stubborn asked := by
  obtain ⟨j, l, due, stubborn, hl, hp⟩ := h
  rw [setPhase_eq_alter] at hl
  obtain ⟨k, hk, rfl⟩ := hasLoop_of_alter ⟨hl, rfl⟩ (fun _ => rfl)
  by_cases hij : i = j
  · rw [if_pos hij] at hp
    exact Or.inl ⟨due, stubborn, hp⟩
  · rw [if_neg hij] at hp
    exact Or.inr ⟨j, k, due, stubborn, hij, hk.1, hp⟩

/-- While a loop of the fetch task can move, no other one waits for an answer. -/
theorem Kept.alone {m : Machine} (h : m.tasks.Kept o) {i j : Nat} {l k : Loop Job Asked}
    {v : Move} (hm : m.CanMove i l v) (hjob : l.task.job = .fetch)
    (hk : m.tasks.loops[j]? = some k) {due : Nat} {stubborn : Bool} {asked : Asked}
    (hp : k.phase = .running due stubborn asked) : i = j := by
  obtain ⟨_, hne, hfree⟩ := hm.tasks Sync.behaviour
  have hi : m.tasks.HasLoop fetchTask i l := ⟨hm.loop, h.fetching hm.loop hjob⟩
  have hj : m.tasks.HasLoop fetchTask j k := ⟨hk, h.fetching hk (h.waiting hk hp)⟩
  rcases Nat.lt_trichotomy i j with hlt | heq | hlt
  · exact absurd (h.chained.ordered hi hj hlt (by simp [hp])) hne
  · exact heq
  · have hend := h.chained.ended_before hj hi hlt hfree
    rw [hp] at hend
    cases hend

theorem afterRun_ne_running (task : TaskSpec Job) (now due : Nat) (stubborn : Bool)
    (asked : Asked) : task.afterRun Asked now ≠ .running due stubborn asked := by
  unfold TaskSpec.afterRun
  split <;> simp

/-- What is waited for after a move was waited for before, or was asked just now. Then the move
has taken nothing: a cycle does not end while another one is under way. -/
theorem Kept.awaits_move {m : Machine} (h : m.tasks.Kept o) {i : Nat} {l : Loop Job Asked}
    {v : Move} (hm : m.CanMove i l v) {asked : Asked}
    (ha : (m.move Sync.behaviour i v).tasks.Awaits asked) :
    m.brings l v = [] ∧ (m.tasks.Awaits asked ∨ asked.question = m.state.question) := by
  have hother : ∀ {phase : Phase Asked}, (m.tasks.setPhase i phase).Awaits asked →
      (∀ due stubborn, phase ≠ .running due stubborn asked) →
      m.tasks.Awaits asked ∧ l.task.job ≠ .fetch := by
    intro phase hs hn
    rcases awaits_setPhase hs with ⟨due, stubborn, hp⟩ | ⟨j, k, due, stubborn, hij, hk, hp⟩
    · exact absurd hp (hn due stubborn)
    · refine ⟨⟨j, k, due, stubborn, hk, hp⟩, ?_⟩
      exact fun hj => hij (h.alone hm hj hk hp)
  unfold Clockwork.move at ha
  rw [hm.loop] at ha
  unfold Machine.brings Machine.ends?
  cases v with
  | rest due =>
    obtain ⟨hold, _⟩ := hother ha (by simp)
    exact ⟨rfl, Or.inl hold⟩
  | leave =>
    obtain ⟨hold, _⟩ := hother ha (by simp)
    exact ⟨rfl, Or.inl hold⟩
  | begin =>
    simp only [Clockwork.beginRun] at ha
    cases hj : l.task.job with
    | fetch =>
      rw [hj] at ha
      by_cases ht : m.state.backend.next.1.ticks = 0
      · simp only [Sync.begin_fetch_eq_cycle _ _ ht] at ha
        exact absurd hj (hother ha (afterRun_ne_running l.task m.now · · asked)).2
      · simp only [Sync.begin_fetch_of_wait _ _ ht] at ha
        simp only [ht, if_false, Option.bind_none, Option.toList_none, true_and]
        rcases awaits_setPhase ha with ⟨due, stubborn, hp⟩ | ⟨j, k, due, stubborn, _, hk, hp⟩
        · cases hp
          exact Or.inr rfl
        · exact Or.inl ⟨j, k, due, stubborn, hk, hp⟩
    | register r =>
      rw [hj] at ha
      exact ⟨rfl, Or.inl (hother ha (afterRun_ne_running l.task m.now · · asked)).1⟩
    | report r =>
      rw [hj] at ha
      exact ⟨rfl, Or.inl (hother ha (afterRun_ne_running l.task m.now · · asked)).1⟩
    | announce =>
      rw [hj] at ha
      exact ⟨rfl, Or.inl (hother ha (afterRun_ne_running l.task m.now · · asked)).1⟩
  | finish cancelled =>
    cases hm.able with
    | finish _ due stubborn pending hp =>
      simp only [Clockwork.finishRun, hp] at ha
      have hj := h.waiting hm.loop hp
      exact absurd hj (hother ha (afterRun_ne_running l.task m.now · · asked)).2

end Tasks

end ToggleSync
