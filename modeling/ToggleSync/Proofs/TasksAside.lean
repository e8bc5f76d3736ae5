-- Tasks with some of their loops set aside. The first loops are given another name, so that a task
-- is seen without those of its loops that it no longer knows. What can be done does not rest on the
-- names of loops, only on those of slots, and so the same steps can be taken.
import ToggleSync.Proofs.TaskRuns

namespace ToggleSync

variable {σ J P : Type}

/-! ## Loops that are set aside -/

/-- The loop under another name. -/
def Loop.rename (l : Loop J P) (name : String) : Loop J P :=
  { l with task := { l.task with name } }

/-- The name that loops get which are set aside. -/
def asideName (name : String) : String := name ++ "'"

theorem asideName_ne (name : String) : asideName name ≠ name := by
  intro h
  have hlength := congrArg String.length h
  simp [asideName] at hlength

namespace Tasks

variable {t t' : Tasks J P} {name : String} {n : Nat}

/-- The first loops no longer go by the name. -/
def aside (t : Tasks J P) (name : String) (n : Nat) : Tasks J P :=
  { t with
    loops := t.loops.mapIdx fun i l => if i < n then l.rename (asideName name) else l }

theorem getElem?_aside (t : Tasks J P) (name : String) (n i : Nat) :
    (t.aside name n).loops[i]? =
      t.loops[i]?.map fun l => if i < n then l.rename (asideName name) else l := by
  simp [aside]

theorem hasLoop_aside {i : Nat} {l : Loop J P} :
    (t.aside name n).HasLoop name i l ↔ n ≤ i ∧ t.HasLoop name i l := by
  unfold HasLoop
  rw [getElem?_aside, Option.map_eq_some_iff]
  constructor
  · rintro ⟨⟨k, hk, rfl⟩, hname⟩
    by_cases hi : i < n
    · rw [if_pos hi] at hname
      exact absurd hname (asideName_ne name)
    · rw [if_neg hi] at hname ⊢
      exact ⟨by omega, hk, hname⟩
  · rintro ⟨hi, hl, hname⟩
    have hnot : ¬ i < n := by omega
    exact ⟨⟨l, hl, by rw [if_neg hnot]⟩, hname⟩

theorem hasEnded_aside (t : Tasks J P) (name : String) (n i : Nat) :
    (t.aside name n).hasEnded i = t.hasEnded i := by
  unfold hasEnded
  rw [getElem?_aside]
  cases t.loops[i]? with
  | none => rfl
  | some l =>
    by_cases hi : i < n <;> simp [hi, Loop.rename]

theorem isLive_aside (t : Tasks J P) (cancelled : List String) (name : String) (n i : Nat) :
    (t.aside name n).isLive cancelled i = t.isLive cancelled i := by
  unfold isLive
  rw [getElem?_aside]
  cases t.loops[i]? with
  | none => rfl
  | some l =>
    by_cases hi : i < n <;> simp [hi, Loop.rename, Loop.isStopped]

/-! ### Operations -/

theorem aside_alter (t : Tasks J P) (name : String) (n i : Nat) {f : Loop J P → Loop J P}
    (hf : ∀ (l : Loop J P) (other : String), f (l.rename other) = (f l).rename other) :
    (t.alter i f).aside name n = (t.aside name n).alter i f := by
  have hloops : ((t.alter i f).aside name n).loops = ((t.aside name n).alter i f).loops := by
    apply List.ext_getElem?
    intro j
    rw [getElem?_aside, getElem?_alter, getElem?_alter, getElem?_aside]
    cases t.loops[j]? with
    | none => rfl
    | some l =>
      by_cases hj : j < n <;> by_cases hij : i = j <;> simp [hj, hij, hf]
  exact congrArg (fun loops => { t with loops }) hloops

theorem aside_setPhase (t : Tasks J P) (name : String) (n i : Nat) (phase : Phase P) :
    (t.setPhase i phase).aside name n = (t.aside name n).setPhase i phase :=
  aside_alter t name n i fun _ _ => rfl

theorem aside_stopLoop (t : Tasks J P) (name : String) (n i : Nat) :
    (t.stopLoop i).aside name n = (t.aside name n).stopLoop i :=
  aside_alter t name n i fun _ _ => rfl

theorem aside_launch (hn : n ≤ t.loops.length) (other : String) (s : Slot J) :
    (t.launch other s).aside name n = (t.aside name n).launch other s := by
  have hlength : (t.aside name n).loops.length = t.loops.length := by simp [aside]
  have hnew : ¬ t.loops.length < n := by omega
  unfold launch
  rw [hlength]
  simp [aside, setRun, List.mapIdx_append, hnew]

/-- Whether a start comes to anything does not rest on the loops that are set aside. -/
theorem start_aside (name : String) (hn : n ≤ t.loops.length) (cancelled : List String)
    (other : String) :
    (t.aside name n).start cancelled other =
      (t.start cancelled other).map (·.aside name n) := by
  have hslot' : (t.aside name n).slot? other = t.slot? other := rfl
  have hshut' : (t.aside name n).shutDown = t.shutDown := rfl
  cases hshut : t.shutDown with
  | true => simp [start, hshut', hshut, Except.map]
  | false =>
    cases hslot : t.slot? other with
    | none => simp [start, hshut', hshut, hslot', hslot, Except.map]
    | some s =>
      have hlive : (s.run.map ((t.aside name n).isLive cancelled)).getD false =
          (s.run.map (t.isLive cancelled)).getD false := by
        cases s.run with
        | none => rfl
        | some i => simp [isLive_aside]
      by_cases h : (s.run.map (t.isLive cancelled)).getD false = true
      · simp [start, hshut', hshut, hslot', hslot, hlive, h, Except.map]
      · rw [Bool.not_eq_true] at h
        rw [start_eq_launch hshut hslot h,
          start_eq_launch (hshut'.trans hshut) (hslot'.trans hslot) (hlive.trans h)]
        exact congrArg Except.ok (aside_launch hn other s).symm

theorem stop_aside (t : Tasks J P) (name : String) (n : Nat) (other : String) :
    (t.aside name n).stop other = (t.stop other).map (·.aside name n) := by
  have hslot' : (t.aside name n).slot? other = t.slot? other := rfl
  cases hslot : t.slot? other with
  | none => simp [stop, hslot', hslot, Except.map]
  | some s =>
    cases hrun : s.run with
    | none => simp [stop, hslot', hslot, hrun, Except.map]
    | some i => simp [stop, hslot', hslot, hrun, Except.map, aside_stopLoop]

theorem aside_configure (t : Tasks J P) (name : String) (n : Nat) (task : TaskSpec J)
    (token : String) :
    (t.configure task token).aside name n = (t.aside name n).configure task token := by
  have hslot : (t.aside name n).slot? task.name = t.slot? task.name := rfl
  unfold configure
  rw [hslot]
  cases (t.slot? task.name).bind (·.run) with
  | none => rfl
  | some i => simp only [← aside_stopLoop]; rfl

theorem length_configure (t : Tasks J P) (task : TaskSpec J) (token : String) :
    (t.configure task token).loops.length = t.loops.length := by
  unfold configure
  split <;> simp [stopLoop]

theorem aside_configureAndStart (name : String) (hn : n ≤ t.loops.length)
    (cancelled : List String) (task : TaskSpec J) (token : String) :
    (t.configureAndStart cancelled task token).aside name n =
      (t.aside name n).configureAndStart cancelled task token := by
  have hset : n ≤ (t.configure task token).loops.length := by
    rw [length_configure]
    exact hn
  unfold configureAndStart
  simp only [← aside_configure, start_aside name hset]
  cases (t.configure task token).start cancelled task.name <;> rfl

theorem aside_close (t : Tasks J P) (name : String) (n : Nat) :
    t.close.aside name n = (t.aside name n).close := by
  have hall : ∀ (runs : List (String × Nat)) (t : Tasks J P),
      (runs.foldl (fun t r => t.stopLoop r.2) t).aside name n =
        runs.foldl (fun t r => t.stopLoop r.2) (t.aside name n) := by
    intro runs
    induction runs with
    | nil => exact fun _ => rfl
    | cons r runs ih =>
      intro t
      rw [List.foldl_cons, List.foldl_cons, ih, aside_stopLoop]
  have hruns : (t.aside name n).runs = t.runs := rfl
  unfold close
  simp only [hruns, ← hall]
  rfl

end Tasks

namespace Clockwork

variable {b : Behaviour σ J P} {task : TaskSpec J} {token name : String} {c c' : Clockwork σ J P}
  {i n : Nat} {l : Loop J P} {m : Move}

def aside (c : Clockwork σ J P) (name : String) (n : Nat) : Clockwork σ J P :=
  { c with tasks := c.tasks.aside name n }

theorem isFree_aside (c : Clockwork σ J P) (name : String) (n : Nat) (l : Loop J P) :
    (c.aside name n).isFree l = c.isFree l := by
  unfold isFree
  cases l.previous with
  | none => rfl
  | some p => exact Tasks.hasEnded_aside c.tasks name n p

/-- What a loop can do does not rest on its name. -/
theorem CanMove.aside (h : c.CanMove i l m) (name : String) (n : Nat) :
    (c.aside name n).CanMove i (if i < n then l.rename (asideName name) else l) m := by
  constructor
  case loop =>
    unfold Clockwork.aside
    rw [Tasks.getElem?_aside, h.loop]
    rfl
  case turn =>
    have hturn := h.turn
    split
    · rw [isFree_aside]
      exact hturn
    · rw [isFree_aside]
      exact hturn

theorem aside_setPhase (c : Clockwork σ J P) (name : String) (n i : Nat) (phase : Phase P)
    (state : σ) :
    ({ c with state, tasks := c.tasks.setPhase i phase } : Clockwork σ J P).aside name n =
      { c.aside name n with state, tasks := (c.aside name n).tasks.setPhase i phase } := by
  unfold aside
  simp only [Tasks.aside_setPhase]

theorem aside_beginRun (b : Behaviour σ J P) (c : Clockwork σ J P) (name : String) (n i : Nat)
    (l : Loop J P) (other : String) :
    (c.beginRun b i l).aside name n = (c.aside name n).beginRun b i (l.rename other) :=
  aside_setPhase c name n i _ _

theorem aside_finishRun (b : Behaviour σ J P) (c : Clockwork σ J P) (name : String) (n i : Nat)
    (l : Loop J P) (other : String) (cancelled : Bool) :
    (c.finishRun b i l cancelled).aside name n =
      (c.aside name n).finishRun b i (l.rename other) cancelled := by
  have hphase : (l.rename other).phase = l.phase := rfl
  unfold finishRun
  rw [hphase]
  cases l.phase with
  | running due stubborn pending => exact aside_setPhase c name n i _ _
  | queued => rfl
  | resting due => rfl
  | ended => rfl

/-- A loop that was set aside, or was not, has some name. -/
theorem rename_or (l : Loop J P) (name : String) (n i : Nat) :
    ∃ other, (if i < n then l.rename name else l) = l.rename other := by
  split
  · exact ⟨name, rfl⟩
  · exact ⟨l.task.name, rfl⟩

theorem aside_move (b : Behaviour σ J P) (c : Clockwork σ J P) (name : String) (n i : Nat)
    (m : Move) : (c.move b i m).aside name n = (c.aside name n).move b i m := by
  have hl : (c.aside name n).tasks.loops[i]? = _ := Tasks.getElem?_aside c.tasks name n i
  unfold move
  rw [hl]
  cases c.tasks.loops[i]? with
  | none => rfl
  | some l =>
    obtain ⟨other, hother⟩ := rename_or l (asideName name) n i
    simp only [Option.map_some, hother]
    cases m with
    | rest due => exact aside_setPhase c name n i _ c.state
    | leave => exact aside_setPhase c name n i _ c.state
    | begin => exact aside_beginRun b c name n i l other
    | finish cancelled => exact aside_finishRun b c name n i l other cancelled

theorem startTask_aside (name : String) (hn : n ≤ c.tasks.loops.length) (other : String) :
    (c.aside name n).startTask other = (c.startTask other).map (·.aside name n) := by
  have hstart : (c.aside name n).tasks.start c.cancelled other = _ :=
    Tasks.start_aside name hn c.cancelled other
  unfold startTask
  cases ht : c.tasks.start c.cancelled other with
  | error f =>
    rw [ht] at hstart
    exact congrArg _ hstart
  | ok t =>
    rw [ht] at hstart
    exact congrArg _ hstart

theorem stopTask_aside (c : Clockwork σ J P) (name : String) (n : Nat) (other : String) :
    (c.aside name n).stopTask other = (c.stopTask other).map (·.aside name n) := by
  have hstop : (c.aside name n).tasks.stop other = _ := Tasks.stop_aside c.tasks name n other
  unfold stopTask
  cases ht : c.tasks.stop other with
  | error f =>
    rw [ht] at hstop
    exact congrArg _ hstop
  | ok t =>
    rw [ht] at hstop
    exact congrArg _ hstop

theorem aside_configure (name : String) (hn : n ≤ c.tasks.loops.length) (task : TaskSpec J)
    (token : String) (start : Bool) :
    (c.configure task token start).aside name n =
      (c.aside name n).configure task token start := by
  cases start with
  | false =>
    exact congrArg (fun tasks => { c with tasks }) (Tasks.aside_configure c.tasks name n task token)
  | true =>
    exact congrArg (fun tasks => { c with tasks })
      (Tasks.aside_configureAndStart name hn c.cancelled task token)

/-- With loops set aside the same steps can be taken. -/
theorem Step.aside {events : List TaskEvent} (hs : Step b task token c events c') (name : String)
    (hn : n ≤ c.tasks.loops.length) :
    ∃ events', Step b task token (c.aside name n) events' (c'.aside name n) := by
  have hloop : ∀ {i : Nat} {l : Loop J P}, c.tasks.loops[i]? = some l →
      ∃ other, (c.aside name n).tasks.loops[i]? = some (l.rename other) := by
    intro i l hl
    obtain ⟨other, hother⟩ := rename_or l (asideName name) n i
    refine ⟨other, (Tasks.getElem?_aside c.tasks name n i).trans ?_⟩
    rw [hl, ← hother]
    rfl
  cases hs with
  | move hm =>
    rw [aside_move]
    exact ⟨_, .move (hm.aside name n)⟩
  | @finish i l due stubborn pending cancelled hl hp =>
    obtain ⟨other, hl'⟩ := hloop hl
    rw [aside_finishRun b c name n i l other]
    exact ⟨_, .finish cancelled hl' hp⟩
  | pass hnow => exact ⟨_, .pass (c := c.aside name n) hnow⟩
  | work state => exact ⟨_, .work (c.aside name n) state⟩
  | @start _ other hs =>
    have hstart := startTask_aside name hn other
    rw [hs] at hstart
    exact ⟨_, .start hstart⟩
  | @stop _ other hs =>
    have hstop := stopTask_aside c name n other
    rw [hs] at hstop
    exact ⟨_, .stop hstop⟩
  | cancel other => exact ⟨_, .cancel (c.aside name n) other⟩
  | @configure other otherToken start hne =>
    rw [aside_configure name hn]
    exact ⟨_, .configure (c.aside name n) otherToken start hne⟩
  | close =>
    have hclose : ({ c with tasks := c.tasks.close } : Clockwork σ J P).aside name n =
        { c.aside name n with tasks := (c.aside name n).tasks.close } :=
      congrArg (fun tasks => { c with tasks }) (Tasks.aside_close c.tasks name n)
    rw [hclose]
    exact ⟨_, .close (c.aside name n)⟩
  | @giveUp i l hshut hl =>
    obtain ⟨other, hl'⟩ := hloop hl
    rw [aside_setPhase]
    exact ⟨_, .giveUp hshut hl'⟩

end Clockwork

end ToggleSync
