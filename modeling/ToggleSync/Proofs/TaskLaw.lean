-- The law of a task's history: what has to have happened before a loop takes over, before it
-- begins a run and before it ends one. A history in which all that happens was let by what came
-- before it is lawful. In a lawful history no two runs overlap, and each run is of a loop that was
-- started.
import Mathlib.Data.List.Perm.Subperm
import ToggleSync.Proofs.TaskHistory

namespace ToggleSync.TaskHistory

variable {J : Type} {task : TaskSpec J} {h past : TaskHistory} {t now i j : Nat} {e : TaskEvent}

/-! ## One event more -/

theorem has_cons {e' : TaskEvent} : Has ((t, e') :: h) e ↔ e = e' ∨ h.Has e := by
  constructor
  · rintro ⟨t', ht⟩
    rcases List.mem_cons.mp ht with heq | ht
    · cases heq
      exact Or.inl rfl
    · exact Or.inr ⟨t', ht⟩
  · rintro (rfl | ⟨t', ht⟩)
    · exact ⟨t, List.mem_cons_self⟩
    · exact ⟨t', List.mem_cons_of_mem _ ht⟩

theorem Has.cons (hh : h.Has e) (t : Nat) (e' : TaskEvent) : Has ((t, e') :: h) e :=
  has_cons.mpr (Or.inr hh)

theorem has_nil : ¬ Has [] e := nofun

/-- All of it has happened by a time. -/
def Until (now : Nat) (h : TaskHistory) : Prop := ∀ x ∈ h, x.1 ≤ now

theorem Until.cons (hh : Until now h) (e : TaskEvent) : Until now ((now, e) :: h) := by
  intro x hx
  rcases List.mem_cons.mp hx with rfl | hx
  · exact Nat.le_refl _
  · exact hh x hx

/-! ## The law -/

/-- Loop `i` may begin a run at the time `t`, after all that is past. -/
structure Timely (task : TaskSpec J) (past : TaskHistory) (t i : Nat) : Prop where
  /-- No other run is under way. -/
  alone : past.underWay = []
  /-- The task was not stopped since it was last started, nor is its token cancelled, nor are all
  tasks shut down. -/
  isStarted : past.isStarted = true
  notCancelled : ¬ past.Has .cancelled
  notClosed : ¬ past.Has .closed
  launched : i ∈ past.loops
  tookOver : past.Has (.tookOver i)
  /-- Without interval there is one run. -/
  once : task.interval = 0 → ¬ past.Has (.began i)
  /-- An interval has passed since the last run of the loop. -/
  rested : task.interval ≠ 0 → ∀ t', (t', .ended i) ∈ past → t' + task.interval ≤ t
  /-- An interval has passed since the loop took over, unless the task runs at once. -/
  waited : task.interval ≠ 0 → task.eager = false →
    ∀ t', (t', .tookOver i) ∈ past → t' + task.interval ≤ t

/-- What is past lets something happen. A loop comes of one start, and takes over when all others
have left. Only a run that is under way ends, and no loop leaves before its run has ended. -/
def Lets (task : TaskSpec J) (past : TaskHistory) (t : Nat) : TaskEvent → Prop
  | .started (some i) => i ∉ past.loops
  | .began i => Timely task past t i
  | .tookOver i => ∀ j ∈ past.loops, j ≠ i → past.Has (.left j)
  | .ended i => i ∈ past.underWay
  | .left i => i ∉ past.underWay
  | _ => True

/-- Each event was let by those before it. -/
inductive Lawful (task : TaskSpec J) : TaskHistory → Prop
  | nil : Lawful task []
  | cons {past : TaskHistory} {t : Nat} {e : TaskEvent} :
      Lawful task past → Lets task past t e → Lawful task ((t, e) :: past)

theorem Lawful.lets (hl : Lawful task h) (hs : (t, e) :: past <:+ h) : Lets task past t e := by
  induction hl with
  | nil => cases List.suffix_nil.mp hs
  | cons _ he ih =>
    rcases List.suffix_cons_iff.mp hs with heq | hs
    · cases heq
      exact he
    · exact ih hs

theorem Lawful.suffix (hl : Lawful task h) (hs : past <:+ h) : Lawful task past := by
  induction hl with
  | nil =>
    rw [List.suffix_nil.mp hs]
    exact .nil
  | cons hl' he ih =>
    rcases List.suffix_cons_iff.mp hs with rfl | hs
    · exact .cons hl' he
    · exact ih hs

theorem Lawful.underWay_le (hl : Lawful task h) : h.underWay.length ≤ 1 := by
  induction hl with
  | nil => simp [underWay]
  | @cons past t e _ he ih =>
    cases e with
    | began i => simp [underWay, he.alone]
    | ended i => exact Nat.le_trans (List.length_filter_le _ _) ih
    | _ => exact ih

theorem mem_runs : i ∈ h.runs ↔ h.Has (.began i) := by
  unfold runs Has
  rw [List.mem_filterMap]
  constructor
  · rintro ⟨⟨t, e⟩, he, hi⟩
    cases e <;> simp only [Option.some.injEq, reduceCtorEq] at hi
    subst hi
    exact ⟨t, he⟩
  · rintro ⟨t, ht⟩
    exact ⟨_, ht, rfl⟩

theorem began_of_underWay (hi : i ∈ h.underWay) : h.Has (.began i) := by
  induction h with
  | nil => cases hi
  | cons x h ih =>
    obtain ⟨t, e⟩ := x
    cases e with
    | began k =>
      rcases List.mem_cons.mp hi with rfl | hi
      · exact ⟨t, List.mem_cons_self⟩
      · exact (ih hi).cons t _
    | ended k => exact (ih (List.mem_filter.mp hi).1).cons t _
    | _ => exact (ih hi).cons t _

theorem Lawful.began_of_ended (hl : Lawful task h) (hi : h.Has (.ended i)) : h.Has (.began i) := by
  induction hl with
  | nil => exact absurd hi has_nil
  | @cons past t e _ he ih =>
    rcases has_cons.mp hi with rfl | hi
    · exact (began_of_underWay he).cons _ _
    · exact (ih hi).cons t e

theorem loops_subset_cons : h.loops ⊆ loops ((t, e) :: h) := by
  intro i hi
  unfold loops starts at *
  rw [List.filterMap_cons]
  split
  · exact hi
  · rw [List.filterMap_cons]
    split
    · exact hi
    · exact List.mem_cons_of_mem _ hi

/-- Only a loop that was started runs. -/
theorem Lawful.runs_subset (hl : Lawful task h) : h.runs ⊆ h.loops := by
  induction hl with
  | nil => exact List.nil_subset _
  | @cons past t e _ he ih =>
    intro i hi
    apply loops_subset_cons
    cases e with
    | began k =>
      rcases List.mem_cons.mp hi with rfl | hi
      · exact he.launched
      · exact ih hi
    | _ => exact ih hi

/-- No two starts give the task the same loop. -/
theorem Lawful.nodup_loops (hl : Lawful task h) : h.loops.Nodup := by
  induction hl with
  | nil => exact List.nodup_nil
  | @cons past t e _ he ih =>
    cases e with
    | started i =>
      cases i with
      | none => exact ih
      | some i => exact List.nodup_cons.mpr ⟨he, ih⟩
    | _ => exact ih

/-- Without interval no loop runs twice. -/
theorem Lawful.nodup_runs (hl : Lawful task h) (h0 : task.interval = 0) : h.runs.Nodup := by
  induction hl with
  | nil => exact List.nodup_nil
  | @cons past t e _ he ih =>
    cases e with
    | began k =>
      refine List.nodup_cons.mpr ⟨?_, ih⟩
      intro hk
      exact he.once h0 (mem_runs.mp hk)
    | _ => exact ih

theorem Lawful.runs_le (hl : Lawful task h) (h0 : task.interval = 0) :
    h.runs.length ≤ h.starts.length :=
  calc h.runs.length ≤ h.loops.length :=
        (List.subperm_of_subset (hl.nodup_runs h0) hl.runs_subset).length_le
    _ ≤ h.starts.length := List.length_filterMap_le _ _

/-! ## What a history tells of one loop -/

theorem mem_of_other {e' : TaskEvent} {t' : Nat} (hne : e'.loop? ≠ e.loop?) :
    (t', e') ∈ (t, e) :: h ↔ (t', e') ∈ h := by
  constructor
  · intro hm
    rcases List.mem_cons.mp hm with heq | hm
    · cases heq
      exact absurd rfl hne
    · exact hm
  · exact List.mem_cons_of_mem _

theorem mem_underWay_of_other (hne : e.loop? ≠ some j) :
    j ∈ underWay ((t, e) :: h) ↔ j ∈ h.underWay := by
  cases e with
  | began i =>
    have hij : j ≠ i := fun hji => hne (congrArg some hji.symm)
    simp [underWay, hij]
  | ended i =>
    have hij : j ≠ i := fun hji => hne (congrArg some hji.symm)
    simp [underWay, hij]
  | _ => exact Iff.rfl

/-- What a history tells of loop `i`, by its phase. -/
inductive Tells {P : Type} (task : TaskSpec J) (h : TaskHistory) (i : Nat) : Phase P → Prop
  | queued : ¬ h.Has (.began i) → Tells task h i .queued
  /-- It rests for at least an interval. -/
  | resting (due : Nat) : task.interval ≠ 0 → h.Has (.tookOver i) →
      (∀ t, (t, .ended i) ∈ h → t + task.interval ≤ due) →
      (task.eager = false → ∀ t, (t, .tookOver i) ∈ h → t + task.interval ≤ due) →
      i ∉ h.underWay → Tells task h i (.resting due)
  | running (due : Nat) (stubborn : Bool) (pending : P) : h.Has (.tookOver i) →
      i ∈ h.underWay → Tells task h i (.running due stubborn pending)
  | ended : h.Has (.left i) → i ∉ h.underWay → Tells task h i .ended

/-- What is told of a loop does not change with what happens to others. -/
theorem Tells.cons {P : Type} {phase : Phase P} (ht : Tells task h j phase)
    (hne : e.loop? ≠ some j) : Tells task ((t, e) :: h) j phase := by
  have hmem : ∀ {e' : TaskEvent} {t' : Nat}, e'.loop? = some j →
      ((t', e') ∈ (t, e) :: h ↔ (t', e') ∈ h) := by
    intro e' t' he'
    apply mem_of_other
    rw [he']
    exact hne.symm
  have hhas : ∀ {e' : TaskEvent}, e'.loop? = some j → (Has ((t, e) :: h) e' ↔ h.Has e') :=
    fun he' => exists_congr fun _ => hmem he'
  have hunder := mem_underWay_of_other (t := t) (h := h) hne
  cases ht with
  | queued hb => exact .queued (mt (hhas rfl).mp hb)
  | resting due hi ho he ho' hu =>
    refine .resting due hi ((hhas rfl).mpr ho) ?_ ?_ (mt hunder.mp hu)
    · exact fun t' ht' => he t' ((hmem rfl).mp ht')
    · exact fun hlazy t' ht' => ho' hlazy t' ((hmem rfl).mp ht')
  | running due stubborn pending ho hu =>
    exact .running due stubborn pending ((hhas rfl).mpr ho) (hunder.mpr hu)
  | ended hl hu => exact .ended ((hhas rfl).mpr hl) (mt hunder.mp hu)

/-- What the history says is under way is what is under way. -/
theorem Tells.underWay_iff {P : Type} {phase : Phase P} (ht : Tells task h i phase) :
    i ∈ h.underWay ↔ phase.isRunning = true := by
  cases ht with
  | queued hb => simpa [Phase.isRunning] using mt began_of_underWay hb
  | resting _ _ _ _ _ hu => simpa [Phase.isRunning] using hu
  | running _ _ _ _ hu => simpa [Phase.isRunning] using hu
  | ended _ hu => simpa [Phase.isRunning] using hu

/-- A later history, by events at one time that are all about loop `i`. -/
structure MoreOf (task : TaskSpec J) (i now : Nat) (h h' : TaskHistory) : Prop where
  isStarted : h'.isStarted = h.isStarted
  loops : h'.loops = h.loops
  calls : ∀ {e : TaskEvent}, e.loop? = none → (h'.Has e ↔ h.Has e)
  times : Until now h → Until now h'
  tells : ∀ {P : Type} {j : Nat} {phase : Phase P}, j ≠ i → Tells task h j phase →
    Tells task h' j phase

theorem moreOf_record {events : List TaskEvent} (he : ∀ e ∈ events, e.loop? = some i) :
    MoreOf task i now h (h.record now events) := by
  induction events generalizing h with
  | nil => exact ⟨rfl, rfl, fun _ => Iff.rfl, id, fun _ ht => ht⟩
  | cons e events ih =>
    have hi : e.loop? = some i := he e List.mem_cons_self
    have hrest : MoreOf task i now ((now, e) :: h) (record ((now, e) :: h) now events) :=
      ih fun e' he' => he e' (List.mem_cons_of_mem _ he')
    have hother : ∀ {j : Nat}, j ≠ i → e.loop? ≠ some j := by
      intro j hj heq
      rw [hi] at heq
      exact hj (Option.some.inj heq).symm
    constructor
    case isStarted =>
      refine hrest.isStarted.trans ?_
      cases e with
      | started _ => cases hi
      | stopped => cases hi
      | _ => rfl
    case loops =>
      refine hrest.loops.trans ?_
      cases e with
      | started _ => cases hi
      | _ => rfl
    case calls =>
      intro e' he'
      refine (hrest.calls he').trans (exists_congr fun _ => mem_of_other ?_)
      rw [he', hi]
      simp
    case times => exact fun hh => hrest.times (hh.cons e)
    case tells => exact fun hj ht => hrest.tells hj (ht.cons (hother hj))

end ToggleSync.TaskHistory
