-- A task that is put in the place of another one of its name. The loops of the task before are
-- stopped, but the new task does not know them: it keeps the order among its own loops, and waits
-- for none of theirs. With those loops set aside, all that is said of a task that is set up once
-- holds of the new one.
import ToggleSync.Proofs.TasksAside

namespace ToggleSync

namespace Clockwork

variable {σ J P : Type} {b : Behaviour σ J P} {task : TaskSpec J} {token name : String}
  {c c' : Clockwork σ J P} {i n : Nat} {l : Loop J P}

/-! ## Loops that are over -/

/-- What was stopped stays stopped, and what has ended stays at its end. -/
structure Aged (c c' : Clockwork σ J P) : Prop where
  loop : ∀ {i : Nat} {l : Loop J P}, c.tasks.loops[i]? = some l →
    ∃ l', c'.tasks.loops[i]? = some l' ∧ l'.task = l.task ∧
      (l.isStopped c.cancelled = true → l'.isStopped c'.cancelled = true) ∧
      (l.phase = .ended → l'.phase = .ended)

theorem Aged.refl (c : Clockwork σ J P) : Aged c c := ⟨fun hl => ⟨_, hl, rfl, id, id⟩⟩

theorem Aged.trans {c'' : Clockwork σ J P} (h1 : Aged c c') (h2 : Aged c' c'') : Aged c c'' := by
  constructor
  intro i l hl
  obtain ⟨l', hl', htask, hstopped, hended⟩ := h1.loop hl
  obtain ⟨l'', hl'', htask', hstopped', hended'⟩ := h2.loop hl'
  exact ⟨l'', hl'', htask'.trans htask, fun hs => hstopped' (hstopped hs),
    fun he => hended' (hended he)⟩

/-- No loop is lost. -/
theorem Aged.length_le (h : Aged c c') : c.tasks.loops.length ≤ c'.tasks.loops.length := by
  by_contra hlt
  rw [Nat.not_le] at hlt
  obtain ⟨l', hl', -⟩ := h.loop (List.getElem?_eq_getElem hlt)
  have := (List.getElem?_eq_some_iff.mp hl').1
  omega

/-- A loop from before, as it was. -/
theorem Aged.was (h : Aged c c') {l' : Loop J P} (hl' : c'.tasks.HasLoop name i l')
    (hi : i < c.tasks.loops.length) :
    ∃ l, c.tasks.HasLoop name i l ∧
      (l.isStopped c.cancelled = true → l'.isStopped c'.cancelled = true) ∧
      (l.phase = .ended → l'.phase = .ended) := by
  have hl := List.getElem?_eq_getElem hi
  obtain ⟨k, hk, htask, hstopped, hended⟩ := h.loop hl
  cases Tasks.eq_of_hasLoop hl' hk
  refine ⟨_, ⟨hl, ?_⟩, hstopped, hended⟩
  rw [← htask]
  exact hl'.2

/-- What no task notices is of this kind. -/
theorem aged_of_quiet (h : ∀ name, Quiet name c c') : Aged c c' := by
  constructor
  intro i l hl
  obtain ⟨l', hl', ht⟩ := (h l.task.name).stays ⟨hl, rfl⟩
  refine ⟨l', hl'.1, ht.task, ?_, fun he => ht.phase.trans he⟩
  intro hs
  by_contra hgoing
  rw [Bool.not_eq_true] at hgoing
  rw [ht.going (h l.task.name).cancelled hgoing] at hs
  cases hs

theorem aged_setPhase (hl : c.tasks.loops[i]? = some l) {phase : Phase P}
    (hne : l.phase = .ended → phase = .ended) (state : σ) :
    Aged c { c with state, tasks := c.tasks.setPhase i phase } := by
  constructor
  intro j k hk
  simp only [Tasks.setPhase_eq_alter, Tasks.getElem?_alter, hk, Option.map_some]
  refine ⟨_, rfl, ?_⟩
  by_cases hij : i = j
  · subst hij
    cases hl.symm.trans hk
    rw [if_pos rfl]
    exact ⟨rfl, id, hne⟩
  · rw [if_neg hij]
    exact ⟨rfl, id, id⟩

theorem aged_start {t : Tasks J P} (hs : c.tasks.start c.cancelled name = .ok t) :
    Aged c { c with tasks := t } := by
  obtain ⟨-, s, -, rfl | ⟨-, rfl⟩⟩ := Tasks.start_cases hs
  · exact .refl c
  · constructor
    intro i l hl
    have hnew : i ≠ c.tasks.loops.length := by
      have := (List.getElem?_eq_some_iff.mp hl).1
      omega
    refine ⟨l, ?_, rfl, id, id⟩
    simp only [Tasks.getElem?_launch, if_neg hnew]
    exact hl

theorem aged_configure (c : Clockwork σ J P) (task : TaskSpec J) (token : String) (start : Bool) :
    Aged c (c.configure task token start) := by
  have hset : Aged c { c with tasks := c.tasks.configure task token } := by
    unfold Tasks.configure
    cases (c.tasks.slot? task.name).bind (·.run) with
    | none => exact ⟨fun hl => ⟨_, hl, rfl, id, id⟩⟩
    | some i =>
      have hstop : Aged c { c with tasks := c.tasks.stopLoop i } :=
        aged_of_quiet fun _ => quiet_stopLoop c i
      exact ⟨hstop.loop⟩
  unfold configure
  cases start with
  | false => exact hset
  | true =>
    simp only [if_true, Tasks.configureAndStart]
    split
    · rename_i t hs
      exact hset.trans (aged_start (c := { c with tasks := _ }) hs)
    · exact hset

theorem Step.aged {events : List TaskEvent} (hs : Step b task token c events c') :
    Aged c c' := by
  cases hs with
  | move hm =>
    obtain ⟨phase, state, -, hc⟩ := turn_of_canMove hm b
    rw [hc]
    exact aged_setPhase hm.loop (fun he => absurd he hm.able.phase.1) state
  | finish cancelled hl hp =>
    obtain ⟨state, hc⟩ := finishRun_of_running (c := c) b hp cancelled
    rw [hc]
    refine aged_setPhase hl ?_ state
    rw [hp]
    simp
  | pass hn => exact aged_of_quiet fun _ => quiet_pass hn
  | work state => exact ⟨fun hl => ⟨_, hl, rfl, id, id⟩⟩
  | @start _ other hs =>
    unfold startTask at hs
    cases ht : c.tasks.start c.cancelled other with
    | error f => simp [ht, Except.map] at hs
    | ok t =>
      simp only [ht, Except.map, Except.ok.injEq] at hs
      subst hs
      exact aged_start ht
  | @stop _ other hs =>
    unfold stopTask at hs
    cases ht : c.tasks.stop other with
    | error f => simp [ht, Except.map] at hs
    | ok t =>
      simp only [ht, Except.map, Except.ok.injEq] at hs
      subst hs
      exact aged_of_quiet fun _ => quiet_stop ht
  | cancel other => exact aged_of_quiet fun _ => quiet_cancel c other
  | configure otherToken start _ => exact aged_configure c _ otherToken start
  | close =>
    have hstopped := aged_of_quiet fun name => quiet_stopAll name c c.tasks.runs
    exact ⟨hstopped.loop⟩
  | giveUp _ hl => exact aged_setPhase hl (fun _ => rfl) c.state

/-! ## The invariant -/

/-- The loops below `n` that go by the name are over: each is stopped or at its end. -/
structure Retired (c : Clockwork σ J P) (name : String) (n : Nat) : Prop where
  finished : ∀ {i : Nat} {l : Loop J P}, c.tasks.HasLoop name i l → i < n →
    l.isStopped c.cancelled = true ∨ l.phase = .ended

theorem Retired.aged (h : c.Retired name n) (hn : n ≤ c.tasks.loops.length) (ha : Aged c c') :
    c'.Retired name n := by
  constructor
  intro i l' hl' hi
  obtain ⟨l, hl, hstopped, hended⟩ := ha.was hl' (by omega)
  exact (h.finished hl hi).imp hstopped hended

/-- A task that was set up when there were `n` loops, perhaps in the place of others. The loops of
those are over, and without them the task is in order. -/
structure InPlace (task : TaskSpec J) (token : String) (n : Nat) (c : Clockwork σ J P) : Prop where
  bound : n ≤ c.tasks.loops.length
  retired : c.Retired task.name n
  orderly : ∃ h, Orderly task token (c.aside task.name n) h

theorem InPlace.step {events : List TaskEvent} (p : InPlace task token n c)
    (hs : Step b task token c events c') : InPlace task token n c' := by
  have ha := hs.aged
  refine ⟨Nat.le_trans p.bound ha.length_le, p.retired.aged p.bound ha, ?_⟩
  obtain ⟨h, ho⟩ := p.orderly
  obtain ⟨events', hs'⟩ := hs.aside task.name p.bound
  exact ⟨_, ho.step hs'⟩

/-! ### Setting a task up -/

theorem slot?_configure (t : Tasks J P) (task : TaskSpec J) (token : String) :
    (t.configure task token).slot? task.name = some ⟨task, token, none⟩ := by
  unfold Tasks.configure
  exact Tasks.find?_putSlot ⟨task, token, none⟩ _

/-- A task of which there is no loop yet is in order. -/
theorem orderly_of_no_loops (hslot : c.tasks.slot? task.name = some ⟨task, token, none⟩)
    (hnone : ∀ {i : Nat} {l : Loop J P}, ¬ c.tasks.HasLoop task.name i l) :
    ∃ h, Orderly task token c h := by
  let bare : Clockwork σ J P := { c with tasks := ⟨[], [], c.tasks.shutDown⟩ }
  have hbare : bare.Unknown task.name := ⟨rfl, nofun⟩
  have hempty : ∀ {i : Nat} {l : Loop J P},
      ¬ (bare.configure task token false).tasks.HasLoop task.name i l := by
    rintro i l ⟨hl, -⟩
    cases hl
  refine ⟨_, (orderly_configure token hbare).quiet (quiet_of_hasLoop ?_ rfl rfl rfl ?_)⟩
  · exact hslot.trans (slot?_configure bare.tasks task token).symm
  · exact ⟨fun hl => absurd hl hnone, fun hl => absurd hl hempty⟩

theorem inPlace_of_retired {task : TaskSpec J} (token : String)
    (hr : (c.configure task token false).Retired task.name c.tasks.loops.length) :
    InPlace task token c.tasks.loops.length (c.configure task token false) := by
  have hlength : (c.configure task token false).tasks.loops.length = c.tasks.loops.length :=
    Tasks.length_configure c.tasks task token
  refine ⟨Nat.le_of_eq hlength.symm, hr, ?_⟩
  apply orderly_of_no_loops
  · exact slot?_configure c.tasks task token
  · intro i l hl
    obtain ⟨hi, hl⟩ := Tasks.hasLoop_aside.mp hl
    have := (List.getElem?_eq_some_iff.mp hl.1).1
    omega

theorem inPlace_configure (token : String) (hu : c.Unknown task.name) :
    InPlace task token c.tasks.loops.length (c.configure task token false) := by
  apply inPlace_of_retired
  constructor
  intro i l' hl' hi
  obtain ⟨l, hl, -⟩ := (aged_configure c task token false).was hl' hi
  exact absurd hl.2 (hu.loops l (List.mem_of_getElem? hl.1))

/-- When a task is put in the place of another one, all loops of that one are over: the one that
went on was the last one, and is stopped now. -/
theorem InPlace.replace (p : InPlace task token n c) {other : TaskSpec J}
    (hname : other.name = task.name) (otherToken : String) :
    InPlace other otherToken c.tasks.loops.length (c.configure other otherToken false) := by
  apply inPlace_of_retired
  have ha := aged_configure c other otherToken false
  have hretired := p.retired.aged p.bound ha
  rw [hname]
  constructor
  intro i l' hl' hi
  by_cases hin : i < n
  · exact hretired.finished hl' hin
  · obtain ⟨l, hl, hstopped, hended⟩ := ha.was hl' hi
    by_cases hover : l.isStopped c.cancelled = true ∨ l.phase = .ended
    · exact hover.imp hstopped hended
    · left
      rw [not_or, Bool.not_eq_true] at hover
      obtain ⟨h, ho⟩ := p.orderly
      have hgoing : (c.aside task.name n).Going task.name i l :=
        ⟨Tasks.hasLoop_aside.mpr ⟨by omega, hl⟩, hover.1, hover.2⟩
      have hslot : c.tasks.slot? task.name = some ⟨task, token, some i⟩ := (ho.wanted hgoing).1
      have hloops : (c.configure other otherToken false).tasks.loops =
          (c.tasks.stopLoop i).loops := by
        simp [configure, Tasks.configure, hname, hslot]
      have hl'' := hl'.1
      rw [hloops] at hl''
      simp [Loop.isStopped, Tasks.stopped_stopLoop hl'']

/-! ## Whatever is called -/

/-- What a manager of tasks comes to after a task of the name was set up, with any steps since,
among them to set up others in its place. With it, how many loops there were when that was done
last. -/
inductive Served (b : Behaviour σ J P) (name : String) : Clockwork σ J P → Nat → Prop
  | configured {c : Clockwork σ J P} {task : TaskSpec J} (token : String) : task.name = name →
      c.Unknown name → Served b name (c.configure task token false) c.tasks.loops.length
  | replaced {c : Clockwork σ J P} {n : Nat} {task : TaskSpec J} (token : String) :
      Served b name c n → task.name = name →
      Served b name (c.configure task token false) c.tasks.loops.length
  | step {c c' : Clockwork σ J P} {n : Nat} {task : TaskSpec J} {token : String}
      {events : List TaskEvent} : Served b name c n → task.name = name →
      Step b task token c events c' → Served b name c' n

/-- A step of one task is a step of any other one of its name. -/
theorem Step.of_name {events : List TaskEvent} (hs : Step b task token c events c')
    {other : TaskSpec J} (hname : other.name = task.name) (otherToken : String) :
    ∃ events', Step b other otherToken c events' c' := by
  cases hs with
  | move hm => exact ⟨_, .move hm⟩
  | finish cancelled hl hp => exact ⟨_, .finish cancelled hl hp⟩
  | pass hn => exact ⟨_, .pass hn⟩
  | work state => exact ⟨_, .work c state⟩
  | start hs => exact ⟨_, .start hs⟩
  | stop hs => exact ⟨_, .stop hs⟩
  | cancel other => exact ⟨_, .cancel c other⟩
  | configure token start hne => exact ⟨_, .configure c token start (hname ▸ hne)⟩
  | close => exact ⟨_, .close c⟩
  | giveUp hshut hl => exact ⟨_, .giveUp hshut hl⟩

theorem Served.inPlace (h : Served b name c n) :
    ∃ task token, task.name = name ∧ InPlace task token n c := by
  induction h with
  | configured token hname hu =>
    subst hname
    exact ⟨_, token, rfl, inPlace_configure token hu⟩
  | replaced token _ hname ih =>
    obtain ⟨task, _, htask, p⟩ := ih
    exact ⟨_, token, hname, p.replace (hname.trans htask.symm) token⟩
  | step _ hname hs ih =>
    obtain ⟨task, token, htask, p⟩ := ih
    obtain ⟨_, hs'⟩ := hs.of_name (htask.trans hname.symm) token
    exact ⟨task, token, htask, p.step hs'⟩

theorem steady_served {task : TaskSpec J} (hname : task.name = name) (token : String) :
    Steady b task token fun c => ∃ n, Served b name c n where
  step := fun ⟨n, h⟩ hs => ⟨n, h.step hname hs⟩

/-- From the first task of the name on, any calls are of this kind, also those that set up another
task in its place. -/
theorem served_calls {first : TaskSpec J} (hname : first.name = name) (hu : c.Unknown name)
    (token : String) (start : Bool) (calls : List (Call J)) :
    ∃ n, Served b name (calls.foldl (call b) (c.configure first token start)) n := by
  have hset : ∃ n, Served b name (c.configure first token start) n :=
    (steady_served hname token).configure ⟨_, .configured token hname hu⟩ start
  generalize c.configure first token start = c at hset ⊢
  induction calls generalizing c with
  | nil => exact hset
  | cons x calls ih =>
    apply ih
    by_cases hx : ∃ task token start, x = .configure task token start ∧ task.name = name
    · obtain ⟨task, token, start, rfl, htask⟩ := hx
      obtain ⟨n, h⟩ := hset
      exact (steady_served htask token).configure ⟨_, .replaced token h htask⟩ start
    · apply (steady_served hname token).call hset x
      rintro task token start rfl htask
      exact hx ⟨task, token, start, rfl, htask.trans hname⟩

/-! ## What is waited for -/

theorem stable_hasEnded (b : Behaviour σ J P) (i : Nat) :
    Stable b fun c : Clockwork σ J P => c.tasks.hasEnded i = true where
  move {c j l m} hc hm := by
    obtain ⟨⟨phase, ht⟩, hne, -⟩ := hm.tasks b
    have hij : j ≠ i := by
      rintro rfl
      simp only [Tasks.hasEnded, hm.loop, Option.map_some, Option.getD_some] at hc
      cases hp : l.phase <;> simp_all [Phase.isEnded]
    have hsame : (c.tasks.setPhase j phase).loops[i]? = c.tasks.loops[i]? := by
      rw [Tasks.setPhase_eq_alter, Tasks.getElem?_alter]
      simp [hij]
    unfold Tasks.hasEnded at hc ⊢
    rw [ht, hsame]
    exact hc
  pass hc _ := hc

theorem hasEnded_setPhase (t : Tasks J P) (i j : Nat) (h : i = j ∨ t.hasEnded j = true) :
    (t.setPhase i .ended).hasEnded j = true := by
  unfold Tasks.hasEnded at h ⊢
  rw [Tasks.setPhase_eq_alter, Tasks.getElem?_alter]
  cases hl : t.loops[j]? with
  | none => rfl
  | some l =>
    rw [hl] at h
    by_cases hij : i = j
    · simp [hij, Phase.isEnded]
    · simpa [hij] using h

theorem hasEnded_close (t : Tasks J P) (i : Nat) : t.close.hasEnded i = t.hasEnded i := by
  have hstop : ∀ (t : Tasks J P) (j : Nat), (t.stopLoop j).hasEnded i = t.hasEnded i := by
    intro t j
    unfold Tasks.hasEnded
    rw [Tasks.stopLoop_eq_alter, Tasks.getElem?_alter]
    cases t.loops[i]? with
    | none => rfl
    | some l => by_cases hij : j = i <;> simp [hij]
  have hall : ∀ (runs : List (String × Nat)) (t : Tasks J P),
      (runs.foldl (fun t r => t.stopLoop r.2) t).hasEnded i = t.hasEnded i := by
    intro runs
    induction runs with
    | nil => exact fun _ => rfl
    | cons r runs ih => exact fun t => (ih _).trans (hstop t r.2)
  exact hall t.runs t

/-- A wait for a loop is over when it has ended, if need be because it is given up. Loops that had
ended before stay so. -/
theorem hasEnded_awaitEnd (b : Behaviour σ J P) (timeout : Nat)
    (acc : Clockwork σ J P × Option String) (run : String × Nat)
    (h : run.2 = i ∨ acc.1.tasks.hasEnded i = true) :
    (awaitEnd b timeout acc run).1.tasks.hasEnded i = true := by
  have hwait : run.2 = i ∨
      (acc.1.waitUntil b (·.tasks.hasEnded run.2) timeout).tasks.hasEnded i = true :=
    h.imp_right ((stable_hasEnded b i).waitUntil _ timeout)
  unfold awaitEnd
  simp only
  split
  · rename_i hended
    rcases hwait with rfl | hwait
    · exact hended
    · exact hwait
  · exact hasEnded_setPhase _ _ _ hwait

/-- After a shutdown each loop that a slot knew has ended. -/
theorem hasEnded_shutdown (b : Behaviour σ J P) (timeout : Nat) (hopen : c.tasks.shutDown = false)
    {run : String × Nat} (hr : run ∈ c.tasks.runs) :
    (c.shutdown b timeout).1.tasks.hasEnded run.2 = true := by
  have hall : ∀ (runs : List (String × Nat)) (acc : Clockwork σ J P × Option String),
      run ∈ runs ∨ acc.1.tasks.hasEnded run.2 = true →
      (runs.foldl (awaitEnd b timeout) acc).1.tasks.hasEnded run.2 = true := by
    intro runs
    induction runs with
    | nil => exact fun _ h => h.resolve_left List.not_mem_nil
    | cons r runs ih =>
      intro acc h
      apply ih
      rcases h with h | h
      · rcases List.mem_cons.mp h with rfl | h
        · exact .inr (hasEnded_awaitEnd b timeout acc run (.inl rfl))
        · exact .inl h
      · exact .inr (hasEnded_awaitEnd b timeout acc r (.inr h))
  have hended := hall c.tasks.runs ({ c with tasks := c.tasks.close }, none) (.inl hr)
  unfold shutdown
  rw [hopen]
  simp only [Bool.false_eq_true, if_false]
  split <;> rename_i hfold <;> rw [hfold] at hended <;> exact hended

/-- A shutdown waits only for the loops that slots know. If these have ended, it is over at once,
whatever else is under way. -/
theorem shutdown_of_ended (b : Behaviour σ J P) (timeout : Nat) (hopen : c.tasks.shutDown = false)
    (hall : ∀ run ∈ c.tasks.runs, c.tasks.hasEnded run.2 = true) :
    c.shutdown b timeout = ({ c with tasks := c.tasks.close }, .ok ()) := by
  let closed : Clockwork σ J P := { c with tasks := c.tasks.close }
  have hawait : ∀ run ∈ c.tasks.runs, awaitEnd b timeout (closed, none) run = (closed, none) := by
    intro run hr
    have hended : closed.tasks.hasEnded run.2 = true :=
      (hasEnded_close c.tasks run.2).trans (hall run hr)
    simp [awaitEnd, waitUntil, hended]
  have hfold : ∀ runs : List (String × Nat), (∀ run ∈ runs, run ∈ c.tasks.runs) →
      runs.foldl (awaitEnd b timeout) (closed, none) = (closed, none) := by
    intro runs
    induction runs with
    | nil => exact fun _ => rfl
    | cons r runs ih =>
      intro hsub
      rw [List.foldl_cons, hawait r (hsub r List.mem_cons_self)]
      exact ih fun run hr => hsub run (List.mem_cons_of_mem _ hr)
  have hdone := hfold c.tasks.runs fun _ hr => hr
  unfold shutdown
  rw [hopen]
  simp only [Bool.false_eq_true, if_false]
  rw [hdone]

/-! ## The laws -/

/-- A loop that can begin a run is one of the present task, and all its other loops are at their
end. -/
theorem Served.begins (h : Served b name c n) (hl : l.task.name = name)
    (hm : c.CanMove i l .begin) :
    n ≤ i ∧ ∀ {j : Nat} {l' : Loop J P}, n ≤ j → c.tasks.HasLoop name j l' → j ≠ i →
      l'.phase = .ended := by
  obtain ⟨task, token, rfl, p⟩ := h.inPlace
  have hloop : c.tasks.HasLoop task.name i l := ⟨hm.loop, hl⟩
  cases hm.able with
  | begin hgoing hidle =>
    obtain ⟨hne, hfree⟩ := hidle.phase
    have hi : n ≤ i := by
      by_contra hlt
      rcases p.retired.finished hloop (by omega) with hs | he
      · rw [hgoing] at hs
        cases hs
      · exact hne he
    refine ⟨hi, ?_⟩
    intro j l' hj hl' hji
    obtain ⟨_, ho⟩ := p.orderly
    have hg : (c.aside task.name n).Going task.name i l :=
      ⟨Tasks.hasLoop_aside.mpr ⟨hi, hloop⟩, hgoing, hne⟩
    refine ho.others hg ?_ (Tasks.hasLoop_aside.mpr ⟨hj, hl'⟩) hji
    rw [isFree_aside]
    exact hfree

theorem begun_of_isRunning (h : l.phase.isRunning = true) :
    l.phase ≠ .queued ∧ l.phase ≠ .ended := by
  constructor <;> intro hp <;> rw [hp] at h <;> cases h

/-- Of the runs of the present task at most one is under way. -/
theorem Served.single (h : Served b name c n) {j : Nat} {l' : Loop J P} (hi : n ≤ i) (hj : n ≤ j)
    (hl : c.tasks.HasLoop name i l) (hl' : c.tasks.HasLoop name j l')
    (hr : l.phase.isRunning = true) (hr' : l'.phase.isRunning = true) : i = j := by
  obtain ⟨task, token, rfl, p⟩ := h.inPlace
  obtain ⟨_, ho⟩ := p.orderly
  obtain ⟨h1, h2⟩ := begun_of_isRunning hr
  obtain ⟨h3, h4⟩ := begun_of_isRunning hr'
  exact ho.single (Tasks.hasLoop_aside.mpr ⟨hi, hl⟩) (Tasks.hasLoop_aside.mpr ⟨hj, hl'⟩) h1 h2 h3 h4

/-- The loop that a slot knows is one of the present task. -/
theorem Served.known (h : Served b name c n) {s : Slot J} (hs : c.tasks.slot? name = some s)
    (hr : s.run = some i) : n ≤ i := by
  obtain ⟨task, token, rfl, p⟩ := h.inPlace
  obtain ⟨_, ho⟩ := p.orderly
  obtain ⟨run, hslot, hclosed⟩ := ho.slot
  cases hshut : c.tasks.shutDown with
  | true =>
    have hnone := hclosed hshut
    cases hslot.symm.trans hs
    rw [hnone] at hr
    cases hr
  | false =>
    obtain ⟨k, hk⟩ := (ho.chained hshut).own hs hr
    exact (Tasks.hasLoop_aside.mp hk).1

/-- The loop of a task that is started when it is set up waits for no other one. -/
theorem configure_eq_launch (c : Clockwork σ J P) (task : TaskSpec J) (token : String)
    (hopen : c.tasks.shutDown = false) :
    c.configure task token true =
      { c with
        tasks := (c.tasks.configure task token).launch task.name ⟨task, token, none⟩ } := by
  have hshut : (c.tasks.configure task token).shutDown = false := by
    unfold Tasks.configure
    split <;> exact hopen
  have hlive : ((none : Option Nat).map
      ((c.tasks.configure task token).isLive c.cancelled)).getD false = false := rfl
  have hstart := Tasks.start_eq_launch hshut (slot?_configure c.tasks task token) hlive
  unfold configure Tasks.configureAndStart
  simp only [if_true, hstart]

/-- A task that is to run at once can do so when it is put in its place, and no run that is under
way is over by then. -/
theorem overlap_of_configure (c : Clockwork σ J P) (task : TaskSpec J) (token : String)
    (hopen : c.tasks.shutDown = false) (htoken : c.isCancelled token = false)
    (hfirst : task.interval = 0 ∨ task.eager = true) :
    (c.configure task token true).CanMove c.tasks.loops.length
        ⟨task, token, false, none, .queued⟩ .begin ∧
      ∀ {j : Nat} {k : Loop J P}, c.tasks.loops[j]? = some k →
        ∃ k', (c.configure task token true).tasks.loops[j]? = some k' ∧ k'.phase = k.phase := by
  have hlength := Tasks.length_configure c.tasks task token
  rw [configure_eq_launch c task token hopen]
  constructor
  case left =>
    constructor
    case loop => simp only [Tasks.getElem?_launch, hlength, if_true]
    case turn =>
      have hgoing : Loop.isStopped (⟨task, token, false, none, .queued⟩ : Loop J P)
          c.cancelled = false := htoken
      have hnow : (decide (task.interval ≠ 0) && !task.eager) = false := by
        rcases hfirst with h | h <;> simp [h]
      simp only [Loop.move?, isFree, Option.map_none, Option.getD_none, Bool.not_true,
        Bool.false_eq_true, if_false, hgoing, hnow]
  case right =>
    intro j k hk
    have hj := (List.getElem?_eq_some_iff.mp hk).1
    have hne : j ≠ (c.tasks.configure task token).loops.length := by omega
    simp only [Tasks.getElem?_launch, if_neg hne]
    unfold Tasks.configure
    split
    · simp only [Tasks.stopLoop_eq_alter, Tasks.getElem?_alter, hk, Option.map_some]
      exact ⟨_, rfl, by split <;> rfl⟩
    · exact ⟨k, hk, rfl⟩

/-- Whatever is called, and also if other tasks are put in the place of one of this name. Only a
loop of the present task begins a run, when all other loops of that task are at their end, and of
its runs at most one is under way. So runs under the name overlap only with those of tasks that were
replaced; but for these nothing waits. A new task that is to run at once can do so though a run is
under way, and that run goes on. The loop that the next start and a shutdown wait for is one of the
present task, and a shutdown is over at once when there are only others. -/
theorem runs_overlap_only_with_those_of_replaced_tasks {b : Behaviour σ J P} {name : String}
    {c : Clockwork σ J P} {n : Nat} (h : Served b name c n) :
    (∀ i l, c.tasks.HasLoop name i l → c.CanMove i l .begin →
      n ≤ i ∧ ∀ j l', n ≤ j → c.tasks.HasLoop name j l' → j ≠ i → l'.phase = .ended) ∧
    (∀ i j l l', n ≤ i → n ≤ j → c.tasks.HasLoop name i l → c.tasks.HasLoop name j l' →
      l.phase.isRunning = true → l'.phase.isRunning = true → i = j) ∧
    ((∀ i l, i < n → c.tasks.HasLoop name i l → l.phase.isRunning = false) →
      (∀ i j l l', c.tasks.HasLoop name i l → c.tasks.HasLoop name j l' →
        l.phase.isRunning = true → l'.phase.isRunning = true → i = j) ∧
      ∀ i l, c.tasks.HasLoop name i l → c.CanMove i l .begin →
        ∀ j l', c.tasks.HasLoop name j l' → l'.phase.isRunning = false) ∧
    (∀ (task : TaskSpec J) (token : String), task.name = name → c.tasks.shutDown = false →
      c.isCancelled token = false → (task.interval = 0 ∨ task.eager = true) →
      let c' := c.configure task token true
      (∃ l, c'.CanMove c.tasks.loops.length l .begin ∧ l.task = task) ∧
      ∀ (j : Nat) (k : Loop J P), c.tasks.loops[j]? = some k →
        ∃ k', c'.tasks.loops[j]? = some k' ∧ k'.phase = k.phase) ∧
    (∀ s i, c.tasks.slot? name = some s → s.run = some i → n ≤ i) ∧
    (c.tasks.shutDown = false → ∀ timeout,
      (∀ run ∈ c.tasks.runs, (c.shutdown b timeout).1.tasks.hasEnded run.2 = true) ∧
      ((∀ run ∈ c.tasks.runs, c.tasks.hasEnded run.2 = true) →
        c.shutdown b timeout = ({ c with tasks := c.tasks.close }, .ok ()))) := by
  refine ⟨?_, ?_, ?_, ?_, ?_, ?_⟩
  · intro i l hl hm
    obtain ⟨hi, hothers⟩ := h.begins hl.2 hm
    exact ⟨hi, fun _ _ => hothers⟩
  · intro i j l l' hi hj
    exact h.single hi hj
  · intro hreplaced
    have hpresent : ∀ {i : Nat} {l : Loop J P}, c.tasks.HasLoop name i l →
        l.phase.isRunning = true → n ≤ i := by
      intro i l hl hr
      by_contra hlt
      rw [hreplaced i l (by omega) hl] at hr
      cases hr
    constructor
    · intro i j l l' hl hl' hr hr'
      exact h.single (hpresent hl hr) (hpresent hl' hr') hl hl' hr hr'
    · intro i l hl hm j l' hl'
      by_contra hr
      rw [Bool.not_eq_false] at hr
      obtain ⟨-, hothers⟩ := h.begins hl.2 hm
      by_cases hji : j = i
      · -- a loop that can begin a run has none under way
        subst hji
        cases Tasks.eq_of_hasLoop hl' hm.loop
        cases hm.able with
        | begin _ hidle =>
          cases hidle with
          | queued hp _ => simp [hp, Phase.isRunning] at hr
          | resting due hp => simp [hp, Phase.isRunning] at hr
      · have hend := hothers (hpresent hl' hr) hl' hji
        simp [hend, Phase.isRunning] at hr
  · intro task token _ hopen htoken hfirst
    obtain ⟨hm, hkept⟩ := overlap_of_configure c task token hopen htoken hfirst
    exact ⟨⟨_, hm, rfl⟩, fun _ _ => hkept⟩
  · intro s i
    exact h.known
  · intro hopen timeout
    exact ⟨fun _ => hasEnded_shutdown b timeout hopen, shutdown_of_ended b timeout hopen⟩

/-- A run that does not heed that it is stopped, and a task that takes its place. -/
theorem a_new_task_need_not_wait_for_a_stubborn_run :
    let slow : TaskSpec Drill.Exercise := ⟨"slow", 100, true, ⟨0, "old", [], ⟨50, true⟩⟩⟩
    let quick : TaskSpec Drill.Exercise := ⟨"slow", 100, true, ⟨1, "new", [], ⟨5, false⟩⟩⟩
    let c : Drill.Ground :=
      [Call.advance 1].foldl (call Drill.behaviour) (Drill.Ground.new.configure slow "all" true)
    ∃ n, Served Drill.behaviour "slow" c n ∧
      (c.tasks.loops[0]?).any (·.phase.isRunning) = true ∧
      ∃ l, (c.configure quick "all" true).CanMove c.tasks.loops.length l .begin ∧
        l.task = quick := by
  intro slow quick c
  have hname : slow.name = "slow" := rfl
  have hnew : Unknown Drill.Ground.new "slow" := ⟨rfl, nofun⟩
  obtain ⟨n, h⟩ : ∃ n, Served Drill.behaviour "slow" c n :=
    served_calls hname hnew "all" true [Call.advance 1]
  obtain ⟨-, -, -, hnext, -, -⟩ := runs_overlap_only_with_those_of_replaced_tasks h
  have hopen : c.tasks.shutDown = false := by decide +kernel
  have htoken : c.isCancelled "all" = false := by decide +kernel
  exact ⟨n, h, by decide +kernel, (hnext quick "all" rfl hopen htoken (.inr rfl)).1⟩

/-- So two runs under one name are under way at once, and a shutdown then ends well while the run of
the task that was replaced goes on. -/
theorem two_runs_under_one_name_are_under_way :
    let slow : TaskSpec Drill.Exercise := ⟨"slow", 100, true, ⟨0, "old", [], ⟨50, true⟩⟩⟩
    let quick : TaskSpec Drill.Exercise := ⟨"slow", 100, true, ⟨1, "new", [], ⟨5, false⟩⟩⟩
    let calls : List (Call Drill.Exercise) := [.advance 1, .configure quick "all" true, .advance 1]
    let c : Drill.Ground :=
      calls.foldl (call Drill.behaviour) (Drill.Ground.new.configure slow "all" true)
    let closed := c.shutdown Drill.behaviour 1000
    (∃ n, Served Drill.behaviour "slow" c n) ∧
      (c.tasks.loops.filter fun l => l.task.name == "slow" && l.phase.isRunning).length = 2 ∧
      closed.2 = .ok () ∧ closed.1.now = 2 ∧
      (closed.1.tasks.loops[0]?).any (·.phase.isRunning) = true := by
  intro slow quick calls c closed
  have hname : slow.name = "slow" := rfl
  have hnew : Unknown Drill.Ground.new "slow" := ⟨rfl, nofun⟩
  exact ⟨served_calls hname hnew "all" true calls, by decide +kernel, by decide +kernel,
    by decide +kernel, by decide +kernel⟩

end Clockwork

end ToggleSync
