-- The runs of a task, whatever is called at whatever times, and however long they take. Every call
-- keeps the order of the task as every move does, so its history is lawful: its runs never overlap,
-- and none begins before its time or after the task was stopped.
import ToggleSync.Drill
import ToggleSync.Proofs.TaskTurns

namespace ToggleSync.Clockwork

open TaskHistory

variable {σ J P : Type} {task : TaskSpec J} {token : String} {c c' : Clockwork σ J P}
  {h : TaskHistory} {i j : Nat} {l : Loop J P}

/-! ## Calls -/

/-- A call that gives the task no new loop. -/
theorem Orderly.noted (o : Orderly task token c h) {e : TaskEvent} (he : e.loop? = none)
    (hloops : loops ((c.now, e) :: h) = h.loops)
    (hgo : ∀ i l, c.Going task.name i l → isStarted ((c.now, e) :: h) = true)
    (hcancelled : e = .cancelled → c.isCancelled token = true)
    (hclosed : e = .closed → c.tasks.shutDown = true) :
    Orderly task token c ((c.now, e) :: h) := by
  have hother : ∀ i, e.loop? ≠ some i := by simp [he]
  have hlets : Lets task h c.now e := by
    cases e with
    | began i => cases he
    | tookOver i => cases he
    | ended i => cases he
    | left i => cases he
    | started i =>
      cases i with
      | none => trivial
      | some i => exact absurd hloops (List.cons_ne_self i _)
    | _ => trivial
  constructor
  case slot => exact o.slot
  case own => exact o.own
  case chained => exact o.chained
  case single => exact o.single
  case wanted =>
    intro i l hg
    obtain ⟨hslot, hshut, _⟩ := o.wanted hg
    exact ⟨hslot, hshut, hgo i l hg⟩
  case cancelled =>
    intro hc
    rcases has_cons.mp hc with heq | hc
    · exact hcancelled heq.symm
    · exact o.cancelled hc
  case closed =>
    intro hc
    rcases has_cons.mp hc with heq | hc
    · exact hclosed heq.symm
    · exact o.closed hc
  case times => exact o.times.cons _
  case launched =>
    intro i
    rw [hloops]
    exact o.launched i
  case tells => exact fun hl => (o.tells hl).cons (hother _)
  case lawful => exact .cons o.lawful hlets

/-- Where nothing goes on, nothing is left to want. -/
theorem Orderly.hushed (o : Orderly task token c h) {e : TaskEvent} (he : e.loop? = none)
    (hloops : loops ((c.now, e) :: h) = h.loops) (hgo : ∀ i l, ¬ c.Going task.name i l)
    (hcancelled : e = .cancelled → c.isCancelled token = true)
    (hclosed : e = .closed → c.tasks.shutDown = true) :
    Orderly task token c ((c.now, e) :: h) :=
  o.noted he hloops (fun i l hg => absurd hg (hgo i l)) hcancelled hclosed

theorem Orderly.launch (o : Orderly task token c h) (hshut : c.tasks.shutDown = false)
    {s : Slot J} (hslot : c.tasks.slot? task.name = some s)
    (hlive : (s.run.map (c.tasks.isLive c.cancelled)).getD false = false) :
    Orderly task token { c with tasks := c.tasks.launch task.name s }
      ((c.now, .started (some c.tasks.loops.length)) :: h) := by
  have hs : s = ⟨task, token, s.run⟩ := by
    obtain ⟨run, hrun, _⟩ := o.slot
    rw [hslot] at hrun
    cases hrun
    rfl
  let t := c.tasks.launch task.name s
  -- a loop from before the launch is no longer wanted
  have hold : ∀ i l, ¬ c.Going task.name i l := by
    intro i l hg
    obtain ⟨hwanted, _, _⟩ := o.wanted hg
    rw [hslot] at hwanted
    cases hwanted
    have hend : l.phase.isEnded = false := by
      cases hp : l.phase with
      | ended => exact absurd hp hg.unended
      | _ => rfl
    simp [Tasks.isLive, hg.loop.1, hg.unstopped, hend] at hlive
  have hnew : t.HasLoop task.name c.tasks.loops.length ⟨s.task, s.token, false, s.run, .queued⟩ :=
    Tasks.hasLoop_launch_new hslot
  have hhas : ∀ {e : TaskEvent}, (∀ i, e ≠ .started i) →
      Has ((c.now, .started (some c.tasks.loops.length)) :: h) e → h.Has e :=
    fun hne he => (has_cons.mp he).resolve_left (hne _)
  have hfresh : c.tasks.loops.length ∉ h.loops := by
    intro hi
    obtain ⟨l, hl⟩ := (o.launched _).mp hi
    have hlt := (List.getElem?_eq_some_iff.mp hl.1).1
    omega
  constructor
  case slot =>
    rw [hs]
    refine ⟨_, Tasks.slot?_launch (hs ▸ hslot), fun hc => ?_⟩
    cases hshut.symm.trans hc
  case own =>
    intro i l hl
    rcases Tasks.hasLoop_launch hl with ⟨_, rfl⟩ | ⟨_, hl⟩
    · rw [hs]
      exact ⟨rfl, rfl⟩
    · exact o.own hl
  case chained => exact fun _ => (o.chained hshut).launch hslot
  case single =>
    intro i j l l' hl hl' h1 h2 h3 h4
    rcases Tasks.hasLoop_launch hl with ⟨_, rfl⟩ | ⟨_, hl⟩
    · exact absurd rfl h1
    · rcases Tasks.hasLoop_launch hl' with ⟨_, rfl⟩ | ⟨_, hl'⟩
      · exact absurd rfl h3
      · exact o.single hl hl' h1 h2 h3 h4
  case wanted =>
    rintro i l ⟨hl, hstop, hne⟩
    rcases Tasks.hasLoop_launch hl with ⟨rfl, _⟩ | ⟨_, hl⟩
    · refine ⟨?_, hshut, rfl⟩
      rw [hs]
      exact Tasks.slot?_launch (hs ▸ hslot)
    · exact absurd ⟨hl, hstop, hne⟩ (hold i l)
  case cancelled => exact fun hc => o.cancelled (hhas (by simp) hc)
  case closed => exact fun hc => o.closed (hhas (by simp) hc)
  case times => exact o.times.cons _
  case launched =>
    intro i
    constructor
    · intro hi
      rcases List.mem_cons.mp hi with rfl | hi
      · exact ⟨_, hnew⟩
      · obtain ⟨l, hl⟩ := (o.launched i).mp hi
        exact ⟨l, hl.launch s⟩
    · rintro ⟨l, hl⟩
      rcases Tasks.hasLoop_launch hl with ⟨rfl, _⟩ | ⟨_, hl⟩
      · exact List.mem_cons_self
      · exact List.mem_cons_of_mem _ ((o.launched i).mpr ⟨l, hl⟩)
  case tells =>
    intro i l hl
    rcases Tasks.hasLoop_launch hl with ⟨rfl, rfl⟩ | ⟨_, hl⟩
    · refine .queued fun hb => ?_
      exact hfresh (o.lawful.runs_subset (mem_runs.mpr (hhas (by simp) hb)))
    · exact (o.tells hl).cons (by simp [TaskEvent.loop?])
  case lawful => exact .cons o.lawful hfresh

theorem Orderly.start (o : Orderly task token c h) {t : Tasks J P}
    (hs : c.tasks.start c.cancelled task.name = .ok t) :
    Orderly task token { c with tasks := t } ((c.now, .started (c.tasks.added? t)) :: h) := by
  obtain ⟨hshut, s, hslot, rfl | ⟨hlive, rfl⟩⟩ := Tasks.start_cases hs
  · have hnone : c.tasks.added? c.tasks = none := by simp [Tasks.added?]
    rw [hnone]
    exact o.noted rfl rfl (fun _ _ _ => rfl) (by simp) (by simp)
  · have hsome : c.tasks.added? (c.tasks.launch task.name s) = some c.tasks.loops.length := by
      simp [Tasks.added?, Tasks.launch]
    rw [hsome]
    exact o.launch hshut hslot hlive

theorem Orderly.stop (o : Orderly task token c h) {t : Tasks J P}
    (hs : c.tasks.stop task.name = .ok t) :
    Orderly task token { c with tasks := t } ((c.now, .stopped) :: h) := by
  obtain ⟨run, hslot, _⟩ := o.slot
  simp only [Tasks.stop, hslot, Except.ok.injEq] at hs
  cases run with
  | none =>
    subst hs
    refine o.hushed rfl rfl ?_ (by simp) (by simp)
    intro i l hg
    obtain ⟨hwanted, _⟩ := o.wanted hg
    rw [hslot] at hwanted
    cases hwanted
  | some p =>
    subst hs
    have ho : Orderly task token { c with tasks := c.tasks.stopLoop p } h :=
      o.quiet (quiet_stopLoop c p)
    refine ho.hushed rfl rfl ?_ (by simp) (by simp)
    intro i l hg
    obtain ⟨hwanted, _⟩ := ho.wanted hg
    have hp : some (⟨task, token, some p⟩ : Slot J) = some ⟨task, token, some i⟩ :=
      hslot.symm.trans hwanted
    cases hp
    have hstop := hg.unstopped
    simp [Loop.isStopped, Tasks.stopped_stopLoop hg.loop.1] at hstop

theorem Orderly.cancel (o : Orderly task token c h) :
    Orderly task token (c.cancel token) ((c.now, .cancelled) :: h) := by
  have ho : Orderly task token (c.cancel token) h := o.quiet (quiet_cancel c token)
  have htoken : (c.cancel token).isCancelled token = true := by
    simp [Clockwork.cancel, isCancelled]
  refine ho.hushed rfl rfl ?_ (fun _ => htoken) (by simp)
  rintro i l ⟨hl, hstop, _⟩
  unfold isCancelled at htoken
  rw [Loop.isStopped, (ho.own hl).2, htoken, Bool.or_true] at hstop
  cases hstop

/-- Stopping some loops, one by one. -/
theorem quiet_stopAll (name : String) (c : Clockwork σ J P) (runs : List (String × Nat)) :
    Quiet name c { c with tasks := runs.foldl (fun t r => t.stopLoop r.2) c.tasks } := by
  induction runs generalizing c with
  | nil => exact quiet_pass (Nat.le_refl _)
  | cons r runs ih => exact (quiet_stopLoop c r.2).trans (ih { c with tasks := _ })

theorem stopped_stopAll {name n : String} (c : Clockwork σ J P) {runs : List (String × Nat)}
    (hr : (n, i) ∈ runs)
    (hl : (runs.foldl (fun t r => t.stopLoop r.2) c.tasks).HasLoop name i l) :
    l.stopped = true := by
  induction runs generalizing c with
  | nil => cases hr
  | cons r runs ih =>
    rcases List.mem_cons.mp hr with rfl | hr
    · obtain ⟨k, hk, ht⟩ := (quiet_stopAll name { c with tasks := c.tasks.stopLoop i } runs).was hl
      exact ht.stopped (Tasks.stopped_stopLoop hk.1)
    · exact ih { c with tasks := c.tasks.stopLoop r.2 } hr hl

/-- Nothing goes on after a shutdown. -/
theorem Orderly.close (o : Orderly task token c h) :
    Orderly task token { c with tasks := c.tasks.close } ((c.now, .closed) :: h) := by
  have hq := quiet_stopAll task.name c c.tasks.runs
  have ho := o.quiet hq
  have hquiet : ∀ i l, ¬ Going { c with tasks := c.tasks.close } task.name i l := by
    rintro i l ⟨hl, hstop, hne⟩
    obtain ⟨hwanted, _⟩ := ho.wanted ⟨hl, hstop, hne⟩
    rw [hq.slot] at hwanted
    have hrun : (task.name, i) ∈ c.tasks.runs :=
      List.mem_filterMap.mpr ⟨_, List.mem_of_find?_eq_some hwanted, rfl⟩
    simp [Loop.isStopped, stopped_stopAll c hrun hl] at hstop
  have hclosed : Orderly task token { c with tasks := c.tasks.close } h := by
    constructor
    case slot =>
      obtain ⟨run, hslot, _⟩ := ho.slot
      refine ⟨none, ?_, fun _ => rfl⟩
      unfold Tasks.slot? at hslot ⊢
      simp only [Tasks.close, List.find?_map]
      exact congrArg (Option.map _) hslot
    case own => exact ho.own
    case chained =>
      intro hs
      cases hs
    case single => exact ho.single
    case wanted => exact fun hg => absurd hg (hquiet _ _)
    case cancelled => exact ho.cancelled
    case closed => exact fun _ => rfl
    case times => exact ho.times
    case launched => exact ho.launched
    case tells => exact ho.tells
    case lawful => exact ho.lawful
  exact hclosed.hushed rfl rfl hquiet (by simp) (fun _ => rfl)

/-! ## The law -/

theorem told_of_own {name : String} (hl : c.tasks.loops[i]? = some l) (hn : l.task.name = name)
    (m : Move) (phase : Phase P) (state : σ) :
    told name i l m { c with state, tasks := c.tasks.setPhase i phase } =
      TaskEvent.ofMove i l.phase phase m := by
  simp [told, hn, Tasks.setPhase_eq_alter, Tasks.getElem?_alter, hl]

theorem Orderly.move (o : Orderly task token c h) (hl : c.tasks.loops[i]? = some l) {m : Move}
    {phase : Phase P} {state : σ} (ht : Turn c l m phase)
    (hc : c' = { c with state, tasks := c.tasks.setPhase i phase }) :
    Orderly task token c' (h.record c.now (told task.name i l m c')) := by
  subst hc
  by_cases hn : l.task.name = task.name
  · rw [told_of_own hl hn]
    exact o.turn ⟨hl, hn⟩ ht state
  · unfold told
    rw [if_neg hn]
    exact o.quiet (quiet_setPhase hl hn phase state)

theorem Orderly.step {b : Behaviour σ J P} {events : List TaskEvent}
    (o : Orderly task token c h) (hs : Step b task token c events c') :
    Orderly task token c' (h.record c.now events) := by
  cases hs with
  | move hm =>
    obtain ⟨phase, state, ht, hc⟩ := turn_of_canMove hm b
    exact o.move hm.loop ht hc
  | finish cancelled hl hp =>
    obtain ⟨state, hc⟩ := finishRun_of_running (c := c) b hp cancelled
    exact o.move hl (.finish cancelled _ _ _ hp) hc
  | pass hn => exact o.quiet (quiet_pass hn)
  | work state => exact o.quiet (quiet_of_hasLoop rfl rfl rfl rfl Iff.rfl)
  | @start _ name hs =>
    unfold startTask at hs
    cases ht : c.tasks.start c.cancelled name with
    | error f => simp [ht, Except.map] at hs
    | ok t =>
      simp only [ht, Except.map, Except.ok.injEq] at hs
      subst hs
      by_cases hn : name = task.name
      · subst hn
        rw [if_pos rfl]
        exact o.start ht
      · rw [if_neg hn]
        exact o.quiet (quiet_start ht hn)
  | @stop _ name hs =>
    unfold stopTask at hs
    cases ht : c.tasks.stop name with
    | error f => simp [ht, Except.map] at hs
    | ok t =>
      simp only [ht, Except.map, Except.ok.injEq] at hs
      subst hs
      by_cases hn : name = task.name
      · subst hn
        rw [if_pos rfl]
        exact o.stop ht
      · rw [if_neg hn]
        exact o.quiet (quiet_stop ht)
  | cancel other =>
    by_cases ho : other = token
    · subst ho
      rw [if_pos rfl]
      exact o.cancel
    · rw [if_neg ho]
      exact o.quiet (quiet_cancel c other)
  | configure otherToken start hne => exact o.quiet (quiet_configure c hne otherToken start)
  | close => exact o.close
  | @giveUp i l hshut hl =>
    by_cases hn : l.task.name = task.name
    · rw [if_pos hn]
      exact o.giveUp ⟨hl, hn⟩ hshut
    · rw [if_neg hn]
      exact o.quiet (quiet_setPhase hl hn .ended c.state)

theorem orderly_configure (token : String) (hu : c.Unknown task.name) :
    Orderly task token (c.configure task token false) (record [] c.now (c.already token)) := by
  have htasks : c.tasks.configure task token =
      { c.tasks with slots := Tasks.putSlot ⟨task, token, none⟩ c.tasks.slots } := by
    unfold Tasks.configure
    rw [hu.slot]
    rfl
  have hslot : (c.tasks.configure task token).slot? task.name = some ⟨task, token, none⟩ := by
    rw [htasks]
    exact Tasks.find?_putSlot ⟨task, token, none⟩ c.tasks.slots
  have hnone : ∀ {i : Nat} {l : Loop J P},
      ¬ (c.tasks.configure task token).HasLoop task.name i l := by
    rintro i l ⟨hl, hn⟩
    rw [htasks] at hl
    exact hu.loops l (List.mem_of_getElem? hl) hn
  have hnew : Orderly task token (c.configure task token false) [] := by
    constructor
    case slot => exact ⟨none, hslot, fun _ => rfl⟩
    case own => exact fun hl => absurd hl hnone
    case chained =>
      intro _
      constructor
      case linked => exact fun hl => absurd hl hnone
      case ordered => exact fun hl => absurd hl hnone
      case latest => exact fun _ hl => absurd hl hnone
      case own =>
        intro s p hs hrun
        cases hslot.symm.trans hs
        cases hrun
    case single => exact fun hl => absurd hl hnone
    case wanted => exact fun hg => absurd hg.loop hnone
    case cancelled => exact fun hc => absurd hc has_nil
    case closed => exact fun hc => absurd hc has_nil
    case times => exact fun _ hx => absurd hx List.not_mem_nil
    case launched =>
      intro i
      constructor
      · exact fun hi => absurd hi List.not_mem_nil
      · exact fun ⟨_, hl⟩ => absurd hl hnone
    case tells => exact fun hl => absurd hl hnone
    case lawful => exact .nil
  have hgo : ∀ i l, ¬ (c.configure task token false).Going task.name i l :=
    fun _ _ hg => hnone hg.loop
  have hshut : (c.tasks.configure task token).shutDown = c.tasks.shutDown := by rw [htasks]
  have hcancelled : c.isCancelled token = true → ∀ {h : TaskHistory},
      Orderly task token (c.configure task token false) h →
      Orderly task token (c.configure task token false) ((c.now, .cancelled) :: h) :=
    fun hc _ ho => ho.hushed rfl rfl hgo (fun _ => hc) (by simp)
  have hclosed : c.tasks.shutDown = true → ∀ {h : TaskHistory},
      Orderly task token (c.configure task token false) h →
      Orderly task token (c.configure task token false) ((c.now, .closed) :: h) :=
    fun hc _ ho => ho.hushed rfl rfl hgo (by simp) (fun _ => hshut.trans hc)
  unfold already
  cases hc : c.isCancelled token with
  | false =>
    cases hs : c.tasks.shutDown with
    | false => exact hnew
    | true => exact hclosed hs hnew
  | true =>
    cases hs : c.tasks.shutDown with
    | false => exact hcancelled hc hnew
    | true => exact hclosed hs (hcancelled hc hnew)

theorem Reached.orderly {b : Behaviour σ J P} (hr : Reached b task token c h) :
    Orderly task token c h := by
  induction hr with
  | configured hu => exact orderly_configure token hu
  | step _ hs ih => exact ih.step hs

/-- What the history says is under way is what is under way. -/
theorem Orderly.underWay_iff (o : Orderly task token c h) :
    i ∈ h.underWay ↔ ∃ l, c.tasks.HasLoop task.name i l ∧ l.phase.isRunning = true := by
  constructor
  · intro hi
    obtain ⟨l, hl⟩ := o.underWay hi
    exact ⟨l, hl, (o.tells hl).underWay_iff.mp hi⟩
  · rintro ⟨l, hl, hp⟩
    exact (o.tells hl).underWay_iff.mpr hp

/-- Starting a task whose loop is live changes nothing. -/
theorem Orderly.start_of_running (o : Orderly task token c h)
    (hr : c.isRunning task.name = true) : c.startTask task.name = .ok c := by
  obtain ⟨run, hslot, hopen⟩ := o.slot
  simp only [isRunning, Tasks.isRunning, hslot, Option.bind_some] at hr
  have hshut : c.tasks.shutDown = false := by
    cases hs : c.tasks.shutDown with
    | false => rfl
    | true =>
      rw [hopen hs] at hr
      cases hr
  unfold startTask Tasks.start
  simp only [hshut, hslot, hr]
  rfl

/-- Runs of one task never overlap, whatever is called at whatever times, and however long its
runs take. What the history says is under way is what is under way, and it is one run at most. A
loop takes over when all others of the task have left, and begins each run in time: no other run is
under way, the task was not stopped since its last start, neither is its token cancelled nor are
all tasks shut down, and with an interval, one has passed since each earlier run of the loop, and
since it took over if the task does not run at once. To start a task whose loop is live changes
nothing. Each start gives a loop of its own, if any, and without interval each loop runs at most
once. -/
theorem runs_of_a_task_never_overlap {b : Behaviour σ J P} (hr : Reached b task token c h) :
    (∀ i, i ∈ h.underWay ↔ ∃ l, c.tasks.HasLoop task.name i l ∧ l.phase.isRunning = true) ∧
    (∀ past : TaskHistory, past <:+ h → past.underWay.length ≤ 1) ∧
    (∀ t i (past : TaskHistory), (t, .tookOver i) :: past <:+ h →
      ∀ j ∈ past.loops, j ≠ i → past.Has (.left j)) ∧
    (∀ t i (past : TaskHistory), (t, .began i) :: past <:+ h → Timely task past t i) ∧
    (c.isRunning task.name = true → c.startTask task.name = .ok c) ∧
    h.loops.Nodup ∧ h.runs ⊆ h.loops ∧
    (task.interval = 0 → h.runs.Nodup ∧ h.runs.length ≤ h.starts.length) := by
  have o := hr.orderly
  refine ⟨fun i => o.underWay_iff, ?_, ?_, ?_, o.start_of_running, ?_, ?_, ?_⟩
  · exact fun past hs => (o.lawful.suffix hs).underWay_le
  · exact fun t i past hs => o.lawful.lets hs
  · exact fun t i past hs => o.lawful.lets hs
  · exact o.lawful.nodup_loops
  · exact o.lawful.runs_subset
  · exact fun h0 => ⟨o.lawful.nodup_runs h0, o.lawful.runs_le h0⟩

/-- A run of fifty ticks that does not heed that it is stopped. The task is started twice more
while it goes on, and gets two more loops, but the first run stays the only one. -/
theorem one_stubborn_run_is_under_way_after_three_starts :
    let slow : TaskSpec Drill.Exercise := ⟨"slow", 10, true, ⟨0, "slow", [], ⟨50, true⟩⟩⟩
    let calls : List (Call Drill.Exercise) :=
      [.advance 1, .stop "slow", .start "slow", .stop "slow", .start "slow", .advance 20]
    let c : Drill.Ground :=
      calls.foldl (call Drill.behaviour) (Drill.Ground.new.configure slow "all" true)
    ∃ h, Reached Drill.behaviour slow "all" c h ∧ c.tasks.loops.length = 3 ∧ 0 ∈ h.underWay ∧
      h.underWay.length ≤ 1 ∧ c.startTask "slow" = .ok c := by
  intro slow calls c
  have hnew : Unknown Drill.Ground.new slow.name := ⟨rfl, nofun⟩
  obtain ⟨h, hr⟩ : IsReached Drill.behaviour slow "all" c :=
    isReached_calls Drill.behaviour hnew true calls (by simp [calls])
  obtain ⟨hunder, hone, _, _, hstart, _⟩ := runs_of_a_task_never_overlap hr
  have hrunning : c.isRunning "slow" = true := by decide +kernel
  have hthree : c.tasks.loops.length = 3 := by decide +kernel
  have hany : (c.tasks.loops[0]?).any (fun l => l.task.name == "slow" && l.phase.isRunning) =
      true := by decide +kernel
  obtain ⟨l, hl, hrun⟩ := (Option.any_eq_true _ _).mp hany
  rw [Bool.and_eq_true, beq_iff_eq] at hrun
  have hfirst : 0 ∈ h.underWay := (hunder 0).mpr ⟨l, ⟨hl, hrun.1⟩, hrun.2⟩
  exact ⟨h, hr, hthree, hfirst, hone h (List.suffix_refl h), hstart hrunning⟩

end ToggleSync.Clockwork
