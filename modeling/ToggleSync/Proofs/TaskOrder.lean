-- The order that a task's loops are kept in: of all of them at most one goes on, the one that the
-- last start gave it, and the history knows of each as much as it needs. Whatever the task does not
-- notice, such as time that passes or what is done to other tasks, keeps this order.
import ToggleSync.Proofs.TaskLaw

namespace ToggleSync.Clockwork

open TaskHistory

variable {σ J P : Type} {task : TaskSpec J} {token : String} {c c' : Clockwork σ J P}
  {h : TaskHistory} {i j : Nat} {l : Loop J P}

/-! ## The invariant -/

/-- Loop `i` of the task is `l`, and neither stopped nor at its end. -/
structure Going (c : Clockwork σ J P) (name : String) (i : Nat) (l : Loop J P) : Prop where
  loop : c.tasks.HasLoop name i l
  unstopped : l.isStopped c.cancelled = false
  unended : l.phase ≠ .ended

/-- A task is as its history has it. -/
structure Orderly (task : TaskSpec J) (token : String) (c : Clockwork σ J P) (h : TaskHistory) :
    Prop where
  slot : ∃ run, c.tasks.slot? task.name = some ⟨task, token, run⟩ ∧
    (c.tasks.shutDown = true → run = none)
  own : ∀ {i : Nat} {l : Loop J P}, c.tasks.HasLoop task.name i l →
    l.task = task ∧ l.token = token
  chained : c.tasks.shutDown = false → c.tasks.Chained task.name
  /-- Of its loops at most one has begun and not ended. -/
  single : ∀ {i j : Nat} {l l' : Loop J P}, c.tasks.HasLoop task.name i l →
    c.tasks.HasLoop task.name j l' → l.phase ≠ .queued → l.phase ≠ .ended →
    l'.phase ≠ .queued → l'.phase ≠ .ended → i = j
  /-- A loop that goes on is the last one, and wanted. -/
  wanted : ∀ {i : Nat} {l : Loop J P}, c.Going task.name i l →
    c.tasks.slot? task.name = some ⟨task, token, some i⟩ ∧ c.tasks.shutDown = false ∧
      h.isStarted = true
  cancelled : h.Has .cancelled → c.isCancelled token = true
  closed : h.Has .closed → c.tasks.shutDown = true
  times : h.Until c.now
  launched : ∀ i, i ∈ h.loops ↔ ∃ l, c.tasks.HasLoop task.name i l
  tells : ∀ {i : Nat} {l : Loop J P}, c.tasks.HasLoop task.name i l → Tells task h i l.phase
  lawful : Lawful task h

/-- Only loops of the task run. -/
theorem Orderly.underWay (o : Orderly task token c h) (hi : i ∈ h.underWay) :
    ∃ l, c.tasks.HasLoop task.name i l :=
  (o.launched i).mp (o.lawful.runs_subset (mem_runs.mpr (began_of_underWay hi)))

/-- When a loop goes on, and is free if it waits, all others are at their end. -/
theorem Orderly.others (o : Orderly task token c h) (hg : c.Going task.name i l)
    (hfree : l.phase = .queued → c.isFree l = true) {l' : Loop J P}
    (hl' : c.tasks.HasLoop task.name j l') (hji : j ≠ i) : l'.phase = .ended := by
  obtain ⟨hslot, hshut, _⟩ := o.wanted hg
  have hchain := o.chained hshut
  obtain ⟨p, _, hrun, hjp, _⟩ := hchain.latest hslot hl'
  cases hrun
  exact hchain.ended_before hl' hg.loop (by omega) hfree

/-- No run of the task is under way when a loop begins one. -/
theorem Orderly.alone (o : Orderly task token c h) (hg : c.Going task.name i l)
    (hfree : l.phase = .queued → c.isFree l = true) (hi : i ∉ h.underWay) : h.underWay = [] := by
  rw [List.eq_nil_iff_forall_not_mem]
  intro j hj
  obtain ⟨l', hl'⟩ := o.underWay hj
  by_cases hji : j = i
  · exact hi (hji ▸ hj)
  · have hend := o.others hg hfree hl' hji
    have htells := o.tells hl'
    rw [hend] at htells
    cases htells with
    | ended _ hu => exact hu hj

/-- What a loop that goes on may count on. -/
theorem Orderly.goesOn (o : Orderly task token c h) (hg : c.Going task.name i l) :
    h.isStarted = true ∧ ¬ h.Has .cancelled ∧ ¬ h.Has .closed := by
  obtain ⟨_, hshut, hstarted⟩ := o.wanted hg
  refine ⟨hstarted, ?_, ?_⟩
  · intro hc
    have htoken := o.cancelled hc
    have hs := hg.unstopped
    unfold isCancelled at htoken
    rw [Loop.isStopped, (o.own hg.loop).2, htoken, Bool.or_true] at hs
    cases hs
  · intro hc
    rw [o.closed hc] at hshut
    cases hshut

/-! ## Steps that the task does not notice -/

/-- The same loop, at most stopped. -/
structure Tamed (l l' : Loop J P) : Prop where
  task : l'.task = l.task
  token : l'.token = l.token
  previous : l'.previous = l.previous
  phase : l'.phase = l.phase
  stopped : l.stopped = true → l'.stopped = true

theorem Tamed.refl (l : Loop J P) : Tamed l l := ⟨rfl, rfl, rfl, rfl, id⟩

theorem Tamed.trans {l' l'' : Loop J P} (h1 : Tamed l l') (h2 : Tamed l' l'') : Tamed l l'' :=
  ⟨h2.task.trans h1.task, h2.token.trans h1.token, h2.previous.trans h1.previous,
    h2.phase.trans h1.phase, fun hs => h2.stopped (h1.stopped hs)⟩

theorem Tamed.going {l' : Loop J P} {before after : List String} (ht : Tamed l l')
    (hc : before ⊆ after) (hs : l'.isStopped after = false) : l.isStopped before = false := by
  unfold Loop.isStopped at hs ⊢
  rw [ht.token] at hs
  simp only [Bool.or_eq_false_iff, List.contains_eq_mem, decide_eq_false_iff_not] at hs ⊢
  refine ⟨?_, fun hm => hs.2 (hc hm)⟩
  cases hl : l.stopped with
  | false => rfl
  | true =>
    rw [ht.stopped hl] at hs
    exact hs.1

/-- Nothing but time has passed for a task. At most some of its loops were stopped. -/
structure Quiet (name : String) (c c' : Clockwork σ J P) : Prop where
  slot : c'.tasks.slot? name = c.tasks.slot? name
  shutDown : c'.tasks.shutDown = c.tasks.shutDown
  cancelled : c.cancelled ⊆ c'.cancelled
  now : c.now ≤ c'.now
  was : ∀ {i : Nat} {l' : Loop J P}, c'.tasks.HasLoop name i l' →
    ∃ l, c.tasks.HasLoop name i l ∧ Tamed l l'
  stays : ∀ {i : Nat} {l : Loop J P}, c.tasks.HasLoop name i l →
    ∃ l', c'.tasks.HasLoop name i l' ∧ Tamed l l'

theorem Quiet.trans {name : String} {c'' : Clockwork σ J P} (h1 : Quiet name c c')
    (h2 : Quiet name c' c'') : Quiet name c c'' := by
  refine ⟨h2.slot.trans h1.slot, h2.shutDown.trans h1.shutDown, ?_,
    Nat.le_trans h1.now h2.now, ?_, ?_⟩
  · exact fun _ hm => h2.cancelled (h1.cancelled hm)
  · intro i l'' hl''
    obtain ⟨l', hl', ht'⟩ := h2.was hl''
    obtain ⟨l, hl, ht⟩ := h1.was hl'
    exact ⟨l, hl, ht.trans ht'⟩
  · intro i l hl
    obtain ⟨l', hl', ht⟩ := h1.stays hl
    obtain ⟨l'', hl'', ht'⟩ := h2.stays hl'
    exact ⟨l'', hl'', ht.trans ht'⟩

theorem Quiet.chained {name : String} (q : Quiet name c c') (hc : c.tasks.Chained name) :
    c'.tasks.Chained name := by
  constructor
  case linked =>
    intro a b la lb ha hb hab
    obtain ⟨ka, hka, _⟩ := q.was ha
    obtain ⟨kb, hkb, htb⟩ := q.was hb
    obtain ⟨p, k, hprev, h1, h2, hk⟩ := hc.linked hka hkb hab
    obtain ⟨k', hk', _⟩ := q.stays hk
    exact ⟨p, k', htb.previous.trans hprev, h1, h2, hk'⟩
  case ordered =>
    intro a b la lb ha hb hab hbq
    obtain ⟨ka, hka, hta⟩ := q.was ha
    obtain ⟨kb, hkb, htb⟩ := q.was hb
    rw [htb.phase] at hbq
    rw [hta.phase]
    exact hc.ordered hka hkb hab hbq
  case latest =>
    intro s a la hs ha
    rw [q.slot] at hs
    obtain ⟨ka, hka, _⟩ := q.was ha
    obtain ⟨p, k, hrun, h1, hk⟩ := hc.latest hs hka
    obtain ⟨k', hk', _⟩ := q.stays hk
    exact ⟨p, k', hrun, h1, hk'⟩
  case own =>
    intro s p hs hrun
    rw [q.slot] at hs
    obtain ⟨k, hk⟩ := hc.own hs hrun
    obtain ⟨k', hk', _⟩ := q.stays hk
    exact ⟨k', hk'⟩

theorem Orderly.quiet (o : Orderly task token c h) (q : Quiet task.name c c') :
    Orderly task token c' h := by
  constructor
  case slot =>
    rw [q.slot, q.shutDown]
    exact o.slot
  case own =>
    intro i l' hl'
    obtain ⟨l, hl, ht⟩ := q.was hl'
    rw [ht.task, ht.token]
    exact o.own hl
  case chained =>
    intro hshut
    rw [q.shutDown] at hshut
    exact q.chained (o.chained hshut)
  case single =>
    intro i j l l' hl hl' h1 h2 h3 h4
    obtain ⟨k, hk, ht⟩ := q.was hl
    obtain ⟨k', hk', ht'⟩ := q.was hl'
    rw [ht.phase] at h1 h2
    rw [ht'.phase] at h3 h4
    exact o.single hk hk' h1 h2 h3 h4
  case wanted =>
    intro i l' hg
    obtain ⟨l, hl, ht⟩ := q.was hg.loop
    rw [q.slot, q.shutDown]
    exact o.wanted ⟨hl, ht.going q.cancelled hg.unstopped, ht.phase ▸ hg.unended⟩
  case cancelled =>
    intro hc
    have htoken := o.cancelled hc
    unfold isCancelled at htoken ⊢
    rw [List.contains_iff_mem] at htoken ⊢
    exact q.cancelled htoken
  case closed =>
    intro hc
    rw [q.shutDown]
    exact o.closed hc
  case times => exact fun x hx => Nat.le_trans (o.times x hx) q.now
  case launched =>
    intro i
    rw [o.launched]
    constructor
    · rintro ⟨l, hl⟩
      obtain ⟨l', hl', _⟩ := q.stays hl
      exact ⟨l', hl'⟩
    · rintro ⟨l', hl'⟩
      obtain ⟨l, hl, _⟩ := q.was hl'
      exact ⟨l, hl⟩
  case tells =>
    intro i l' hl'
    obtain ⟨l, hl, ht⟩ := q.was hl'
    rw [ht.phase]
    exact o.tells hl
  case lawful => exact o.lawful

/-! ### Which steps these are -/

section

variable {name other : String}

/-- Its own loops are as they were. -/
theorem quiet_of_hasLoop (hslot : c'.tasks.slot? name = c.tasks.slot? name)
    (hshut : c'.tasks.shutDown = c.tasks.shutDown) (hc : c'.cancelled = c.cancelled)
    (hn : c'.now = c.now)
    (hl : ∀ {i : Nat} {l : Loop J P}, c'.tasks.HasLoop name i l ↔ c.tasks.HasLoop name i l) :
    Quiet name c c' := by
  refine ⟨hslot, hshut, ?_, Nat.le_of_eq hn.symm, ?_, ?_⟩
  · rw [hc]
    exact List.Subset.refl _
  · exact fun h' => ⟨_, hl.mp h', .refl _⟩
  · exact fun h' => ⟨_, hl.mpr h', .refl _⟩

theorem quiet_pass {now : Nat} (hn : c.now ≤ now) : Quiet name c { c with now } :=
  ⟨rfl, rfl, List.Subset.refl _, hn, fun hl => ⟨_, hl, .refl _⟩, fun hl => ⟨_, hl, .refl _⟩⟩

theorem quiet_cancel (c : Clockwork σ J P) (other : String) : Quiet name c (c.cancel other) :=
  ⟨rfl, rfl, List.subset_cons_self _ _, Nat.le_refl _, fun hl => ⟨_, hl, .refl _⟩,
    fun hl => ⟨_, hl, .refl _⟩⟩

theorem quiet_stopLoop (c : Clockwork σ J P) (i : Nat) :
    Quiet name c { c with tasks := c.tasks.stopLoop i } := by
  have htamed : ∀ (j : Nat) (l : Loop J P),
      Tamed l (if i = j then { l with stopped := true } else l) := by
    intro j l
    split
    · exact ⟨rfl, rfl, rfl, rfl, fun _ => rfl⟩
    · exact .refl l
  refine ⟨rfl, rfl, List.Subset.refl _, Nat.le_refl _, ?_, ?_⟩
  · intro j l' hl'
    obtain ⟨l, hl, rfl⟩ := Tasks.hasLoop_of_alter hl' fun _ => rfl
    exact ⟨l, hl, htamed j l⟩
  · intro j l hl
    refine ⟨_, ⟨?_, ?_⟩, htamed j l⟩
    · simp only [Tasks.stopLoop_eq_alter, Tasks.getElem?_alter, hl.1, Option.map_some]
    · rw [(htamed j l).task]
      exact hl.2

/-- A loop of another task goes on. -/
theorem quiet_setPhase {k : Loop J P} (hk : c.tasks.loops[i]? = some k) (hne : k.task.name ≠ name)
    (phase : Phase P) (state : σ) :
    Quiet name c { c with state, tasks := c.tasks.setPhase i phase } := by
  refine quiet_of_hasLoop rfl rfl rfl rfl ?_
  intro j l
  simp only [Tasks.HasLoop, Tasks.setPhase_eq_alter, Tasks.getElem?_alter]
  by_cases hij : i = j
  · subst hij
    rw [hk]
    constructor
    · rintro ⟨hl, hn⟩
      cases hl
      simp only [if_true] at hn
      exact absurd hn hne
    · rintro ⟨hl, hn⟩
      cases hl
      exact absurd hn hne
  · simp [hij]

theorem quiet_launch {s : Slot J} (hs : c.tasks.slot? other = some s) (hne : other ≠ name) :
    Quiet name c { c with tasks := c.tasks.launch other s } := by
  refine quiet_of_hasLoop (Tasks.slot?_setRun_other c.tasks hne _) rfl rfl rfl ?_
  intro i l
  constructor
  · intro hl
    rcases Tasks.hasLoop_launch hl with ⟨_, rfl⟩ | ⟨_, hl'⟩
    · exact absurd ((Tasks.slot?_name hs).symm.trans hl.2) hne
    · exact hl'
  · exact fun hl => hl.launch s

end

theorem quiet_start {name other : String} {t : Tasks J P}
    (hs : c.tasks.start c.cancelled other = .ok t) (hne : other ≠ name) :
    Quiet name c { c with tasks := t } := by
  obtain ⟨_, s, hslot, rfl | ⟨_, rfl⟩⟩ := Tasks.start_cases hs
  · exact quiet_pass (Nat.le_refl _)
  · exact quiet_launch hslot hne

theorem quiet_stop {name : String} {t : Tasks J P} {other : String}
    (hs : c.tasks.stop other = .ok t) : Quiet name c { c with tasks := t } := by
  unfold Tasks.stop at hs
  cases hslot : c.tasks.slot? other with
  | none => simp [hslot] at hs
  | some s =>
    simp only [hslot, Except.ok.injEq] at hs
    subst hs
    cases s.run with
    | none => exact quiet_pass (Nat.le_refl _)
    | some i => exact quiet_stopLoop c i

theorem quiet_configure {name : String} (c : Clockwork σ J P) {other : TaskSpec J}
    (hne : other.name ≠ name) (otherToken : String) (start : Bool) :
    Quiet name c (c.configure other otherToken start) := by
  have hset : ∀ c : Clockwork σ J P,
      Quiet name c { c with tasks := c.tasks.configure other otherToken } := by
    intro c
    let slots (c : Clockwork σ J P) := Tasks.putSlot ⟨other, otherToken, none⟩ c.tasks.slots
    have hput : ∀ c : Clockwork σ J P,
        Quiet name c { c with tasks := { c.tasks with slots := slots c } } :=
      fun c => quiet_of_hasLoop (Tasks.find?_putSlot_other hne _) rfl rfl rfl Iff.rfl
    unfold Tasks.configure
    cases (c.tasks.slot? other.name).bind (·.run) with
    | none => exact hput c
    | some i => exact (quiet_stopLoop c i).trans (hput _)
  unfold configure
  cases start with
  | false => exact hset c
  | true =>
    simp only [if_true, Tasks.configureAndStart]
    split
    · rename_i t hs
      exact (hset c).trans (quiet_start (c := { c with tasks := _ }) hs hne)
    · exact hset c

end ToggleSync.Clockwork
