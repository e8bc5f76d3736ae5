-- The fetch task of a client and its loops. All loops but the last are stopped. While polling is
-- active the last is not, and while it is not active no loop can begin a cycle.
import ToggleSync.Coordinator
import ToggleSync.Proofs.Moves

namespace ToggleSync

open Machine (fetchTask clientToken)

def Coordinator.Options.fetchSpec (o : Coordinator.Options) : TaskSpec Job :=
  ⟨fetchTask, o.interval, o.eager, .fetch⟩

namespace Tasks

variable {o : Coordinator.Options} {t : Tasks Job Asked}

/-- The slot of the fetch task holds this loop as the last one. -/
def FetchRun (o : Coordinator.Options) (t : Tasks Job Asked) (run : Option Nat) : Prop :=
  t.slot? fetchTask = some ⟨o.fetchSpec, clientToken, run⟩

/-- The fetch task is set up, and its loops are in order. -/
structure Kept (o : Coordinator.Options) (t : Tasks Job Asked) : Prop where
  slot : ∃ run, t.FetchRun o run
  chained : t.Chained fetchTask
  /-- No other task fetches. -/
  fetching : ∀ {i : Nat} {l : Loop Job Asked}, t.loops[i]? = some l → l.task.job = .fetch →
    l.task.name = fetchTask
  ours : ∀ {i : Nat} {l : Loop Job Asked}, t.HasLoop fetchTask i l →
    l.task = o.fetchSpec ∧ l.token = clientToken
  /-- Only cycles wait for something. -/
  waiting : ∀ {i : Nat} {l : Loop Job Asked} {due : Nat} {stubborn : Bool} {asked : Asked},
    t.loops[i]? = some l → l.phase = .running due stubborn asked → l.task.job = .fetch
  halted : ∀ {run : Option Nat} {i : Nat} {l : Loop Job Asked}, t.FetchRun o run →
    t.HasLoop fetchTask i l → run ≠ some i → l.stopped = true
  opened : t.shutDown = false

/-- Every loop of the fetch task is stopped. -/
def Still (t : Tasks Job Asked) : Prop :=
  ∀ {i : Nat} {l : Loop Job Asked}, t.HasLoop fetchTask i l → l.stopped = true

/-- The last loop of the fetch task is not stopped, and does not end by itself unless it is to run
once only. -/
def Live (o : Coordinator.Options) (t : Tasks Job Asked) : Prop :=
  ∃ i l, t.FetchRun o (some i) ∧ t.HasLoop fetchTask i l ∧ l.stopped = false ∧
    (l.phase = .ended → o.interval = 0)

/-- A loop waits for the answer to this question. -/
def Awaits (t : Tasks Job Asked) (asked : Asked) : Prop :=
  ∃ (i : Nat) (l : Loop Job Asked) (due : Nat) (stubborn : Bool),
    t.loops[i]? = some l ∧ l.phase = .running due stubborn asked

theorem isLive_of_not_stopped {cancelled : List String} {i : Nat} {l : Loop Job Asked}
    (h : t.loops[i]? = some l) (hs : l.stopped = false) (ht : cancelled.contains l.token = false)
    (hp : l.phase.isEnded = false) : t.isLive cancelled i = true := by
  simp [isLive, h, Loop.isStopped, hs, hp]
  simpa using ht

theorem isRunning_of_live (h : t.Kept o) (hl : t.Live o) (ho : o.interval ≠ 0)
    {cancelled : List String} (hc : cancelled.contains clientToken = false) :
    t.isRunning cancelled fetchTask = true := by
  obtain ⟨i, l, hslot, hloop, hs, hend⟩ := hl
  have hp : l.phase.isEnded = false := by
    cases hph : l.phase with
    | ended => exact absurd (hend hph) ho
    | queued => rfl
    | resting due => rfl
    | running due stubborn asked => rfl
  unfold isRunning
  rw [hslot]
  exact isLive_of_not_stopped hloop.1 hs (by rw [(h.ours hloop).2]; exact hc) hp

/-! ## One loop changed -/

/-- A change of one loop keeps the fetch task in order if it stays the same loop of the same chain,
is not set free again, and waits only for cycles. -/
theorem Kept.alter (h : t.Kept o) (j : Nat) {f : Loop Job Asked → Loop Job Asked}
    (htask : ∀ l, (f l).task = l.task) (htoken : ∀ l, (f l).token = l.token)
    (hstop : ∀ l, l.stopped = true → (f l).stopped = true)
    (hchain : (t.alter j f).Chained fetchTask)
    (hwait : ∀ {l : Loop Job Asked} {due : Nat} {stubborn : Bool} {asked : Asked},
      t.loops[j]? = some l → (f l).phase = .running due stubborn asked → l.task.job = .fetch) :
    (t.alter j f).Kept o := by
  have hback : ∀ {i : Nat} {l : Loop Job Asked}, (t.alter j f).loops[i]? = some l →
      ∃ k, t.loops[i]? = some k ∧ l = if j = i then f k else k := by
    intro i l hi
    obtain ⟨k, hk, hl⟩ := hasLoop_of_alter ⟨hi, rfl⟩ htask
    exact ⟨k, hk.1, hl⟩
  constructor
  · exact h.slot
  · exact hchain
  · intro i l hi hjob
    obtain ⟨k, hk, rfl⟩ := hback hi
    split at hjob
    · rw [if_pos ‹_›, htask]
      rw [htask] at hjob
      exact h.fetching hk hjob
    · rw [if_neg ‹_›]
      exact h.fetching hk hjob
  · intro i l hi
    obtain ⟨k, hk, rfl⟩ := hasLoop_of_alter hi htask
    split
    · rw [htask, htoken]
      exact h.ours hk
    · exact h.ours hk
  · intro i l due stubborn asked hi hp
    obtain ⟨k, hk, rfl⟩ := hback hi
    by_cases hji : j = i
    · subst hji
      rw [if_pos rfl] at hp ⊢
      rw [htask]
      exact hwait hk hp
    · rw [if_neg hji] at hp ⊢
      exact h.waiting hk hp
  · intro run i l hrun hi hne
    obtain ⟨k, hk, rfl⟩ := hasLoop_of_alter hi htask
    have hs := h.halted hrun hk hne
    split
    · exact hstop k hs
    · exact hs
  · exact h.opened

/-- A move of a loop keeps the fetch task as it is, provided that only cycles are made to wait. -/
theorem Kept.setPhase (h : t.Kept o) {j : Nat} {k : Loop Job Asked} {phase : Phase Asked}
    (hk : t.loops[j]? = some k) (hne : k.phase ≠ .ended)
    (hfree : k.phase = .queued → ((k.previous.map t.hasEnded).getD true) = true)
    (hw : ∀ due stubborn asked, phase = .running due stubborn asked → k.task.job = .fetch) :
    (t.setPhase j phase).Kept o := by
  rw [setPhase_eq_alter]
  refine h.alter j (fun _ => rfl) (fun _ => rfl) (fun _ hs => hs)
    (h.chained.setPhase hk hne hfree phase) ?_
  intro l due stubborn asked hl hp
  rw [Option.some.inj (hl.symm.trans hk)]
  exact hw due stubborn asked hp

theorem Kept.stopLoop (h : t.Kept o) (j : Nat) : (t.stopLoop j).Kept o := by
  rw [stopLoop_eq_alter]
  exact h.alter j (fun _ => rfl) (fun _ => rfl) (fun _ _ => rfl) (h.chained.stopLoop j) h.waiting

theorem Still.setPhase (h : t.Still) (j : Nat) (phase : Phase Asked) :
    (t.setPhase j phase).Still := by
  intro i l hi
  obtain ⟨k, hk, rfl⟩ := hasLoop_of_alter hi (fun _ => rfl)
  have := h hk
  split <;> exact this

/-- A live loop stays live when it moves, unless the move is one to the end. -/
theorem Live.setPhase (h : t.Live o) {j : Nat} {phase : Phase Asked}
    (hend : ∀ l, t.HasLoop fetchTask j l → l.stopped = false → phase = .ended → o.interval = 0) :
    (t.setPhase j phase).Live o := by
  obtain ⟨i, l, hrun, hl, hs, hp⟩ := h
  refine ⟨i, if j = i then { l with phase } else l, hrun, ⟨?_, ?_⟩, ?_, ?_⟩
  · rw [setPhase_eq_alter, getElem?_alter, hl.1]
    rfl
  · split <;> exact hl.2
  · split <;> exact hs
  · by_cases hji : j = i
    · subst hji
      rw [if_pos rfl]
      exact hend l hl hs
    · rw [if_neg hji]
      exact hp

/-! ## Stopping and starting -/

theorem fetchRun_unique {run run' : Option Nat} (h : t.FetchRun o run) (h' : t.FetchRun o run') :
    run = run' := by
  have := h.symm.trans h'
  cases this
  rfl

/-- Stopping the fetch task always works, and then no loop of it is left to begin. -/
theorem Kept.stop (h : t.Kept o) : ∃ t', t.stop fetchTask = .ok t' ∧ t'.Kept o ∧ t'.Still ∧
    ∀ asked, t'.Awaits asked → t.Awaits asked := by
  obtain ⟨run, hrun⟩ := h.slot
  unfold Tasks.stop
  rw [hrun]
  cases run with
  | none =>
    refine ⟨t, rfl, h, ?_, fun _ ha => ha⟩
    intro i l hi
    exact h.halted hrun hi (by simp)
  | some j =>
    refine ⟨t.stopLoop j, rfl, h.stopLoop j, ?_, ?_⟩
    · intro i l hi
      obtain ⟨k, hk, rfl⟩ := hasLoop_of_alter hi (fun _ => rfl)
      split
      · rfl
      · rename_i hne
        exact h.halted hrun hk (by simpa using hne)
    · rintro asked ⟨i, l, due, stubborn, hi, hp⟩
      obtain ⟨k, hk, rfl⟩ := hasLoop_of_alter ⟨hi, rfl⟩ (fun _ => rfl)
      refine ⟨i, k, due, stubborn, hk.1, ?_⟩
      split at hp <;> exact hp

theorem fetchRun_launch {run : Option Nat} (h : t.FetchRun o run) :
    (t.launch fetchTask ⟨o.fetchSpec, clientToken, run⟩).FetchRun o (some t.loops.length) :=
  slot?_launch h

theorem Kept.launch (h : t.Kept o) (hs : t.Still) {run : Option Nat} (hrun : t.FetchRun o run) :
    (t.launch fetchTask ⟨o.fetchSpec, clientToken, run⟩).Kept o := by
  have hback : ∀ {i : Nat} {l : Loop Job Asked},
      (t.launch fetchTask ⟨o.fetchSpec, clientToken, run⟩).loops[i]? = some l →
      l = ⟨o.fetchSpec, clientToken, false, run, .queued⟩ ∨ t.loops[i]? = some l := by
    intro i l hi
    rw [getElem?_launch] at hi
    split at hi
    · exact Or.inl (Option.some.inj hi).symm
    · exact Or.inr hi
  constructor
  · exact ⟨_, fetchRun_launch hrun⟩
  · exact h.chained.launch hrun
  · intro i l hi hj
    rcases hback hi with rfl | hi
    · rfl
    · exact h.fetching hi hj
  · intro i l hi
    rcases hasLoop_launch hi with ⟨_, rfl⟩ | ⟨_, hi⟩
    · exact ⟨rfl, rfl⟩
    · exact h.ours hi
  · intro i l due stubborn asked hi hp
    rcases hback hi with rfl | hi
    · cases hp
    · exact h.waiting hi hp
  · intro run' i l hrun' hi hne
    have hlast := fetchRun_unique (fetchRun_launch hrun) hrun'
    rcases hasLoop_launch hi with ⟨rfl, _⟩ | ⟨_, hi⟩
    · exact absurd hlast.symm hne
    · exact hs hi
  · exact h.opened

/-- Starting the fetch task always works once all of its loops are stopped. The new loop is live at
once, also one that is to run once only. -/
theorem Kept.start (h : t.Kept o) (hs : t.Still) {cancelled : List String}
    (hc : cancelled.contains clientToken = false) :
    ∃ t', t.start cancelled fetchTask = .ok t' ∧ t'.Kept o ∧ t'.Live o ∧
      t'.isRunning cancelled fetchTask = true ∧ ∀ asked, t'.Awaits asked → t.Awaits asked := by
  obtain ⟨run, hrun⟩ := h.slot
  have hidle : (run.map (t.isLive cancelled)).getD false = false := by
    cases run with
    | none => rfl
    | some i =>
      obtain ⟨l, hl⟩ := h.chained.own hrun rfl
      simp [isLive, hl.1, Loop.isStopped, hs hl]
  have hnew : (t.launch fetchTask ⟨o.fetchSpec, clientToken, run⟩).HasLoop fetchTask
      t.loops.length ⟨o.fetchSpec, clientToken, false, run, .queued⟩ := hasLoop_launch_new hrun
  refine ⟨_, start_eq_launch h.opened hrun hidle, h.launch hs hrun,
    ⟨_, _, fetchRun_launch hrun, hnew, rfl, by simp⟩, ?_, ?_⟩
  · unfold isRunning
    rw [fetchRun_launch hrun]
    exact isLive_of_not_stopped hnew.1 rfl hc rfl
  · rintro asked ⟨i, l, due, stubborn, hi, hp⟩
    rcases hasLoop_launch ⟨hi, rfl⟩ with ⟨_, rfl⟩ | ⟨_, hi⟩
    · cases hp
    · exact ⟨i, l, due, stubborn, hi.1, hp⟩

end Tasks

end ToggleSync
