-- What the loops of a task do, one at a time. A loop that takes over, or begins a run, may do so;
-- one whose run has ended rests or leaves. So every move of a loop keeps the order of its task, and
-- so does giving a loop up.
import ToggleSync.Proofs.TaskOrder

namespace ToggleSync.Clockwork

open TaskHistory

variable {σ J P : Type} {task : TaskSpec J} {token : String} {c c' : Clockwork σ J P}
  {h : TaskHistory} {i j : Nat} {l : Loop J P}

/-! ## Another phase -/

theorem hasLoop_of_setPhase {phase : Phase P} {l' : Loop J P}
    (hl : c.tasks.HasLoop task.name i l)
    (hl' : (c.tasks.setPhase i phase).HasLoop task.name j l') :
    (j = i ∧ l' = { l with phase }) ∨ (j ≠ i ∧ c.tasks.HasLoop task.name j l') := by
  rw [Tasks.setPhase_eq_alter] at hl'
  obtain ⟨k, hk, rfl⟩ := Tasks.hasLoop_of_alter hl' fun _ => rfl
  by_cases hij : i = j
  · subst hij
    rw [Tasks.eq_of_hasLoop hk hl.1]
    simp
  · rw [if_neg hij]
    exact Or.inr ⟨fun h => hij h.symm, hk⟩

theorem hasLoop_setPhase_other {l' : Loop J P} (hl' : c.tasks.HasLoop task.name j l')
    (phase : Phase P) : ∃ k, (c.tasks.setPhase i phase).HasLoop task.name j k := by
  rw [Tasks.setPhase_eq_alter]
  exact Tasks.hasLoop_alter (f := fun l => { l with phase }) (fun _ => rfl) hl' i

/-- What there has to be said of a loop that comes to another phase, when all that happens is about
this loop. -/
theorem Orderly.turned (o : Orderly task token c h) (hl : c.tasks.HasLoop task.name i l)
    {phase : Phase P} {events : List TaskEvent} (state : σ)
    (hfree : c.tasks.shutDown = false → l.phase = .queued → c.isFree l = true)
    (hne : c.tasks.shutDown = false ∨ phase ≠ .ended → l.phase ≠ .ended)
    (hbusy : l.phase = .queued → phase ≠ .ended → ∀ {j : Nat} {l' : Loop J P},
      c.tasks.HasLoop task.name j l' → j ≠ i → l'.phase = .ended)
    (he : ∀ e ∈ events, e.loop? = some i)
    (htells : Tells task (h.record c.now events) i phase)
    (hlaw : Lawful task (h.record c.now events)) :
    Orderly task token { c with state, tasks := c.tasks.setPhase i phase }
      (h.record c.now events) := by
  have hmore : MoreOf task i c.now h (h.record c.now events) := moreOf_record he
  constructor
  case slot => exact o.slot
  case own =>
    intro j l' hl'
    have hown : l.task = task ∧ l.token = token := o.own hl
    rcases hasLoop_of_setPhase hl hl' with ⟨_, rfl⟩ | ⟨_, hk⟩
    · exact hown
    · exact o.own hk
  case chained =>
    intro hshut
    exact (o.chained hshut).setPhase hl.1 (hne (Or.inl hshut)) (hfree hshut) phase
  case single =>
    -- a loop that was not under way comes to be so only when all others are at their end
    have honly : ∀ {j : Nat} {l' : Loop J P}, c.tasks.HasLoop task.name j l' → j ≠ i →
        phase ≠ .ended → l'.phase ≠ .queued → l'.phase ≠ .ended → False := by
      intro j l' hk hji hp h1 h2
      by_cases hq : l.phase = .queued
      · exact h2 (hbusy hq hp hk hji)
      · exact hji (o.single hk hl h1 h2 hq (hne (Or.inr hp)))
    intro a b la lb ha hb h1 h2 h3 h4
    rcases hasLoop_of_setPhase hl ha with ⟨rfl, rfl⟩ | ⟨hai, hka⟩
    · rcases hasLoop_of_setPhase hl hb with ⟨rfl, _⟩ | ⟨hbi, hkb⟩
      · rfl
      · exact absurd (honly hkb hbi h2 h3 h4) id
    · rcases hasLoop_of_setPhase hl hb with ⟨rfl, rfl⟩ | ⟨_, hkb⟩
      · exact absurd (honly hka hai h4 h1 h2) id
      · exact o.single hka hkb h1 h2 h3 h4
  case wanted =>
    rintro j l' ⟨hl', hs, hp⟩
    have hgoing : ∃ k, c.Going task.name j k := by
      rcases hasLoop_of_setPhase hl hl' with ⟨rfl, rfl⟩ | ⟨_, hk⟩
      · exact ⟨l, hl, hs, hne (Or.inr hp)⟩
      · exact ⟨l', hk, hs, hp⟩
    obtain ⟨k, hg⟩ := hgoing
    rw [hmore.isStarted]
    exact o.wanted hg
  case cancelled => exact fun hc => o.cancelled ((hmore.calls rfl).mp hc)
  case closed => exact fun hc => o.closed ((hmore.calls rfl).mp hc)
  case times => exact hmore.times o.times
  case launched =>
    intro j
    rw [hmore.loops, o.launched]
    constructor
    · exact fun ⟨_, hk⟩ => hasLoop_setPhase_other hk phase
    · rintro ⟨l', hl'⟩
      rcases hasLoop_of_setPhase hl hl' with ⟨rfl, _⟩ | ⟨_, hk⟩
      · exact ⟨l, hl⟩
      · exact ⟨l', hk⟩
  case tells =>
    intro j l' hl'
    rcases hasLoop_of_setPhase hl hl' with ⟨rfl, rfl⟩ | ⟨hji, hk⟩
    · exact htells
    · exact hmore.tells hji (o.tells hk)
  case lawful => exact hlaw

/-! ## Moves -/

/-- The phases that a run leaves a loop in, by what it waits for. -/
inductive Outcome (now : Nat) (l : Loop J P) : Phase P → Prop
  | done : Outcome now l (l.task.afterRun P now)
  | waits (due : Nat) (stubborn : Bool) (pending : P) :
      Outcome now l (.running due stubborn pending)

/-- What a move of a loop comes to, and when it can be made. -/
inductive Turn (c : Clockwork σ J P) (l : Loop J P) : Move → Phase P → Prop
  | leave : l.Idle (c.isFree l) → Turn c l .leave .ended
  | rest : l.isStopped c.cancelled = false → l.phase = .queued → c.isFree l = true →
      l.task.interval ≠ 0 →
      Turn c l (.rest (c.now + l.task.interval)) (.resting (c.now + l.task.interval))
  /-- The first run of a loop that need not rest before it. -/
  | first (phase : Phase P) : l.isStopped c.cancelled = false → l.phase = .queued →
      c.isFree l = true → l.task.interval = 0 ∨ l.task.eager = true → Outcome c.now l phase →
      Turn c l .begin phase
  | again (due : Nat) (phase : Phase P) : l.isStopped c.cancelled = false →
      l.phase = .resting due → due ≤ c.now → Outcome c.now l phase → Turn c l .begin phase
  | finish (cancelled : Bool) (due : Nat) (stubborn : Bool) (pending : P) :
      l.phase = .running due stubborn pending →
      Turn c l (.finish cancelled) (l.task.afterRun P c.now)

theorem outcome_beginRun (b : Behaviour σ J P) (c : Clockwork σ J P) (i : Nat) (l : Loop J P) :
    ∃ phase state, Outcome c.now l phase ∧
      c.beginRun b i l = { c with state, tasks := c.tasks.setPhase i phase } := by
  unfold beginRun
  cases hb : b.begin c.now c.state l.task.job with
  | mk state wait =>
    cases wait with
    | none => exact ⟨_, state, .done, rfl⟩
    | some w => exact ⟨_, state, .waits _ _ _, rfl⟩

theorem finishRun_of_running (b : Behaviour σ J P) {due : Nat} {stubborn : Bool} {pending : P}
    (hp : l.phase = .running due stubborn pending) (cancelled : Bool) :
    ∃ state, c.finishRun b i l cancelled =
      { c with state, tasks := c.tasks.setPhase i (l.task.afterRun P c.now) } := by
  unfold finishRun
  rw [hp]
  exact ⟨_, rfl⟩

theorem turn_of_canMove {m : Move} (hm : c.CanMove i l m) (b : Behaviour σ J P) :
    ∃ phase state, Turn c l m phase ∧
      c.move b i m = { c with state, tasks := c.tasks.setPhase i phase } := by
  have hturn := hm.turn
  unfold move
  rw [hm.loop]
  cases hm.able with
  | leave _ hi => exact ⟨.ended, c.state, .leave hi, rfl⟩
  | finish cancelled due stubborn pending hp =>
    obtain ⟨state, hstate⟩ := finishRun_of_running (c := c) (i := i) b hp cancelled
    exact ⟨_, state, .finish cancelled due stubborn pending hp, hstate⟩
  | rest due hs hi =>
    unfold Loop.move? at hturn
    cases hi with
    | queued hq hf =>
      simp only [hs, hq, hf, Bool.not_true, Bool.false_eq_true, if_false] at hturn
      split at hturn
      · rename_i hrest
        simp only [ne_eq, decide_not, Bool.and_eq_true, Bool.not_eq_eq_eq_not, Bool.not_true,
          decide_eq_false_iff_not] at hrest
        cases hturn
        exact ⟨_, c.state, .rest hs hq hf hrest.1, rfl⟩
      · cases hturn
    | resting due hr => simp [hs, hr] at hturn
  | begin hs hi =>
    obtain ⟨phase, state, ho, hstate⟩ := outcome_beginRun b c i l
    refine ⟨phase, state, ?_, hstate⟩
    unfold Loop.move? at hturn
    cases hi with
    | queued hq hf =>
      simp [hs, hq, hf] at hturn
      refine .first phase hs hq hf ?_ ho
      by_cases h0 : l.task.interval = 0
      · exact Or.inl h0
      · exact Or.inr (hturn h0)
    | resting due hr =>
      simp [hs, hr] at hturn
      exact .again due phase hs hr hturn ho

/-! ## What a move tells -/

theorem not_underWay_ended (h : TaskHistory) (now i : Nat) :
    i ∉ underWay ((now, .ended i) :: h) := by
  simp [underWay]

theorem lawful_ofRun {x : TaskHistory} (hx : Lawful task x) (hi : i ∈ x.underWay) (now : Nat)
    (phase : Phase P) : Lawful task (x.record now (TaskEvent.ofRun i phase)) := by
  cases phase with
  | running due stubborn pending => exact hx
  | ended => exact .cons (.cons hx hi) (not_underWay_ended x now i)
  | queued => exact .cons hx hi
  | resting due => exact .cons hx hi

/-- After a run a loop rests for an interval, or is at its end. -/
theorem tells_afterRun {x : TaskHistory} {now : Nat} (htimes : x.Until now)
    (htook : x.Has (.tookOver i)) :
    Tells task (x.record now (TaskEvent.ofRun i (task.afterRun P now))) i
      (task.afterRun P now) := by
  have hover : i ∉ underWay ((now, .ended i) :: x) := not_underWay_ended x now i
  unfold TaskSpec.afterRun
  by_cases h0 : task.interval = 0
  · rw [if_pos h0]
    exact .ended ⟨now, List.mem_cons_self⟩ hover
  · rw [if_neg h0]
    have hnow := htimes.cons (.ended i)
    exact .resting _ h0 (htook.cons now _) (fun t ht => Nat.add_le_add_right (hnow _ ht) _)
      (fun _ t ht => Nat.add_le_add_right (hnow _ ht) _) hover

/-- A loop begins a run when it may. -/
theorem tells_beginRun {past : TaskHistory} {now : Nat} {phase : Phase P}
    (hpast : Lawful task past) (htimely : Timely task past now i)
    (htimes : past.Until now) (hl : l.task = task) (ho : Outcome now l phase) :
    let begun := record ((now, .began i) :: past) now (TaskEvent.ofRun i phase)
    Tells task begun i phase ∧ Lawful task begun := by
  intro begun
  have htook : Has ((now, .began i) :: past) (.tookOver i) := htimely.tookOver.cons now _
  have hlaw : Lawful task ((now, .began i) :: past) := .cons hpast htimely
  refine ⟨?_, lawful_ofRun hlaw List.mem_cons_self now phase⟩
  cases ho with
  | done =>
    subst hl
    exact tells_afterRun (htimes.cons _) htook
  | waits due stubborn pending => exact .running due stubborn pending htook List.mem_cons_self

theorem loop?_ofRun (i : Nat) (phase : Phase P) :
    ∀ e ∈ TaskEvent.ofRun i phase, e.loop? = some i := by
  cases phase <;> simp [TaskEvent.ofRun, TaskEvent.loop?]

theorem loop?_ofMove (i : Nat) (before after : Phase P) (m : Move) :
    ∀ e ∈ TaskEvent.ofMove i before after m, e.loop? = some i := by
  have hrun := loop?_ofRun i after
  cases m with
  | rest due => simp [TaskEvent.ofMove, TaskEvent.loop?]
  | leave => simp [TaskEvent.ofMove, TaskEvent.loop?]
  | finish cancelled => exact hrun
  | begin => cases before <;> simpa [TaskEvent.ofMove, TaskEvent.loop?] using hrun

/-- All other loops have left when one takes over. -/
theorem Orderly.lets_takeOver (o : Orderly task token c h) (hg : c.Going task.name i l)
    (hf : c.isFree l = true) : Lets task h c.now (.tookOver i) := by
  intro j hj hji
  obtain ⟨l', hl'⟩ := (o.launched j).mp hj
  have htells := o.tells hl'
  rw [o.others hg (fun _ => hf) hl' hji] at htells
  cases htells with
  | ended hleft _ => exact hleft

/-- A loop that has just taken over may run at once, if it need not rest. -/
theorem Orderly.timely_first (o : Orderly task token c h) (hg : c.Going task.name i l)
    (hq : l.phase = .queued) (hf : c.isFree l = true)
    (hfirst : task.interval = 0 ∨ task.eager = true) :
    Timely task ((c.now, .tookOver i) :: h) c.now i := by
  obtain ⟨hstarted, hcancelled, hclosed⟩ := o.goesOn hg
  have htells := o.tells hg.loop
  rw [hq] at htells
  cases htells with
  | queued hb =>
    have hold : ∀ {e : TaskEvent}, e ≠ .tookOver i →
        Has ((c.now, .tookOver i) :: h) e → h.Has e :=
      fun hne he => (has_cons.mp he).resolve_left hne
    constructor
    case alone => exact o.alone hg (fun _ => hf) fun hi => hb (began_of_underWay hi)
    case isStarted => exact hstarted
    case notCancelled => exact mt (hold (by simp)) hcancelled
    case notClosed => exact mt (hold (by simp)) hclosed
    case launched => exact (o.launched i).mpr ⟨l, hg.loop⟩
    case tookOver => exact ⟨c.now, List.mem_cons_self⟩
    case once => exact fun _ => mt (hold (by simp)) hb
    case rested => exact fun _ t ht => absurd (o.lawful.began_of_ended (hold (by simp) ⟨t, ht⟩)) hb
    case waited =>
      intro h0 hlazy
      rcases hfirst with hfirst | hfirst
      · exact absurd hfirst h0
      · rw [hlazy] at hfirst
        cases hfirst

/-- A loop that has rested long enough may run again. -/
theorem Orderly.timely_again (o : Orderly task token c h) (hg : c.Going task.name i l)
    {due : Nat} (hr : l.phase = .resting due) (hdue : due ≤ c.now) : Timely task h c.now i := by
  obtain ⟨hstarted, hcancelled, hclosed⟩ := o.goesOn hg
  have htells := o.tells hg.loop
  rw [hr] at htells
  cases htells with
  | resting _ h0 htook hended hwaited hu =>
    constructor
    case alone =>
      apply o.alone hg _ hu
      simp [hr]
    case isStarted => exact hstarted
    case notCancelled => exact hcancelled
    case notClosed => exact hclosed
    case launched => exact (o.launched i).mpr ⟨l, hg.loop⟩
    case tookOver => exact htook
    case once => exact fun h => absurd h h0
    case rested => exact fun _ t ht => Nat.le_trans (hended t ht) hdue
    case waited => exact fun _ hlazy t ht => Nat.le_trans (hwaited hlazy t ht) hdue

/-- Every move of a loop keeps the order of its task. -/
theorem Orderly.turn (o : Orderly task token c h) (hl : c.tasks.HasLoop task.name i l)
    {m : Move} {phase : Phase P} (ht : Turn c l m phase) (state : σ) :
    Orderly task token { c with state, tasks := c.tasks.setPhase i phase }
      (h.record c.now (TaskEvent.ofMove i l.phase phase m)) := by
  have htask : l.task = task := (o.own hl).1
  have hloop := loop?_ofMove i l.phase phase m
  have htells := o.tells hl
  cases ht with
  | leave hidle =>
    have hout : i ∉ h.underWay := by
      rw [htells.underWay_iff]
      cases hidle with
      | queued hq _ => simp [hq, Phase.isRunning]
      | resting due hr => simp [hr, Phase.isRunning]
    obtain ⟨hne, hfree⟩ := hidle.phase
    refine o.turned hl state (fun _ => hfree) (fun _ => hne) ?_ hloop ?_ ?_
    · exact fun _ hp => absurd rfl hp
    · exact .ended ⟨c.now, List.mem_cons_self⟩ hout
    · exact .cons o.lawful hout
  | rest hs hq hf h0 =>
    rw [hq] at htells
    have hne : l.phase ≠ .ended := by simp [hq]
    have hg : c.Going task.name i l := ⟨hl, hs, hne⟩
    have hnow := o.times.cons (.tookOver i)
    refine o.turned hl state (fun _ _ => hf) (fun _ => hne) ?_ hloop ?_ ?_
    · exact fun _ _ => o.others hg fun _ => hf
    · cases htells with
      | queued hb =>
        subst htask
        exact .resting _ h0 ⟨c.now, List.mem_cons_self⟩
          (fun t ht => Nat.add_le_add_right (hnow _ ht) _)
          (fun _ t ht => Nat.add_le_add_right (hnow _ ht) _) fun hi => hb (began_of_underWay hi)
    · exact .cons o.lawful (o.lets_takeOver hg hf)
  | first phase hs hq hf hfirst ho =>
    rw [htask] at hfirst
    have hne : l.phase ≠ .ended := by simp [hq]
    have hg : c.Going task.name i l := ⟨hl, hs, hne⟩
    have hlaw : Lawful task ((c.now, .tookOver i) :: h) :=
      .cons o.lawful (o.lets_takeOver hg hf)
    obtain ⟨htold, hlawful⟩ :=
      tells_beginRun hlaw (o.timely_first hg hq hf hfirst) (o.times.cons _) htask ho
    rw [hq] at hloop ⊢
    refine o.turned hl state (fun _ _ => hf) (fun _ => hne) ?_ hloop htold hlawful
    exact fun _ _ => o.others hg fun _ => hf
  | again due phase hs hr hdue ho =>
    have hne : l.phase ≠ .ended := by simp [hr]
    obtain ⟨htold, hlawful⟩ :=
      tells_beginRun o.lawful (o.timely_again ⟨hl, hs, hne⟩ hr hdue) o.times htask ho
    rw [hr] at hloop ⊢
    refine o.turned hl state ?_ (fun _ => hne) ?_ hloop htold hlawful
    · simp [hr]
    · simp [hr]
  | finish cancelled due stubborn pending hp =>
    rw [hp] at htells
    subst htask
    cases htells with
    | running _ _ _ htook hunder =>
      refine o.turned hl state ?_ ?_ ?_ hloop (tells_afterRun o.times htook)
        (lawful_ofRun o.lawful hunder _ _)
      · simp [hp]
      · simp [hp]
      · simp [hp]

/-! ## Giving up -/

theorem Orderly.giveUp (o : Orderly task token c h) (hl : c.tasks.HasLoop task.name i l)
    (hshut : c.tasks.shutDown = true) :
    Orderly task token { c with tasks := c.tasks.setPhase i .ended }
      (h.record c.now (TaskEvent.ofGivingUp i l.phase)) := by
  have htells := o.tells hl
  have hopen : c.tasks.shutDown ≠ false := by simp [hshut]
  have hgiven : Tells task (h.record c.now (TaskEvent.ofGivingUp i l.phase)) i (.ended : Phase P) ∧
      Lawful task (h.record c.now (TaskEvent.ofGivingUp i l.phase)) := by
    generalize l.phase = phase at htells ⊢
    cases htells with
    | queued hb =>
      have hout : i ∉ h.underWay := fun hi => hb (began_of_underWay hi)
      exact ⟨.ended ⟨c.now, List.mem_cons_self⟩ hout, .cons o.lawful hout⟩
    | resting due _ _ _ _ hu =>
      exact ⟨.ended ⟨c.now, List.mem_cons_self⟩ hu, .cons o.lawful hu⟩
    | running due stubborn pending _ hu =>
      have hout := not_underWay_ended h c.now i
      exact ⟨.ended ⟨c.now, List.mem_cons_self⟩ hout, .cons (.cons o.lawful hu) hout⟩
    | ended hleft hu => exact ⟨.ended hleft hu, o.lawful⟩
  have hloop : ∀ e ∈ TaskEvent.ofGivingUp i l.phase, e.loop? = some i := by
    cases l.phase <;> simp [TaskEvent.ofGivingUp, TaskEvent.loop?]
  refine o.turned hl c.state (fun hs => absurd hs hopen) ?_ ?_ hloop hgiven.1 hgiven.2
  · rintro (hs | hp)
    · exact absurd hs hopen
    · exact absurd rfl hp
  · exact fun _ hp => absurd rfl hp

end ToggleSync.Clockwork
