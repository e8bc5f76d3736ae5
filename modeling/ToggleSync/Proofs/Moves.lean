-- What the moves of loops do, one at a time. Whatever every move and the passing of time keep is
-- kept by settling, waiting and advancing, for these are nothing but moves and time.
import ToggleSync.Proofs.TaskLoops

namespace ToggleSync.Clockwork

variable {σ J P : Type}

/-- The loop before this one has ended, or there is none. -/
def isFree (c : Clockwork σ J P) (l : Loop J P) : Bool :=
  (l.previous.map c.tasks.hasEnded).getD true

/-- Loop `i` is `l`, and can make the move `m`. -/
structure CanMove (c : Clockwork σ J P) (i : Nat) (l : Loop J P) (m : Move) : Prop where
  loop : c.tasks.loops[i]? = some l
  turn : l.move? c.cancelled (c.isFree l) c.now = some m

theorem CanMove.able {c : Clockwork σ J P} {i : Nat} {l : Loop J P} {m : Move}
    (h : c.CanMove i l m) : l.Able c.cancelled (c.isFree l) m := Loop.able_of_move h.turn

theorem canMove_of_next? {c : Clockwork σ J P} {i : Nat} {m : Move}
    (h : c.tasks.next? c.cancelled c.now = some (i, m)) : ∃ l, c.CanMove i l m := by
  unfold Tasks.next? at h
  obtain ⟨⟨l, j⟩, hmem, hl⟩ := List.exists_of_findSome?_eq_some h
  rw [List.mem_zipIdx_iff_getElem?] at hmem
  simp only [Option.map_eq_some_iff, Prod.mk.injEq] at hl
  obtain ⟨m', hm, rfl, rfl⟩ := hl
  exact ⟨l, hmem, hm⟩

/-! ## One move -/

/-- What a move leaves behind. -/
inductive Moved (b : Behaviour σ J P) (c : Clockwork σ J P) (i : Nat) (l : Loop J P) :
    Clockwork σ J P → Prop
  | rest (due : Nat) : l.isStopped c.cancelled = false →
      Moved b c i l { c with tasks := c.tasks.setPhase i (.resting due) }
  /-- A run that is over at once. -/
  | pass {s : σ} : l.isStopped c.cancelled = false →
      b.begin c.now c.state l.task.job = (s, none) →
      Moved b c i l { c with state := s, tasks := c.tasks.setPhase i (l.task.afterRun P c.now) }
  /-- A run that has to wait. -/
  | wait {s : σ} {w : Wait P} : l.isStopped c.cancelled = false →
      b.begin c.now c.state l.task.job = (s, some w) →
      Moved b c i l { c with
        state := s
        tasks := c.tasks.setPhase i (.running (c.now + w.ticks) w.stubborn w.pending) }
  | finish {due : Nat} {stubborn : Bool} {pending : P} (cancelled : Bool) :
      l.phase = .running due stubborn pending →
      Moved b c i l { c with
        state := b.finish c.now c.state pending cancelled
        tasks := c.tasks.setPhase i (l.task.afterRun P c.now) }
  | leave : l.isStopped c.cancelled = true →
      Moved b c i l { c with tasks := c.tasks.setPhase i .ended }

theorem CanMove.moved {c : Clockwork σ J P} {i : Nat} {l : Loop J P} {m : Move}
    (h : c.CanMove i l m) (b : Behaviour σ J P) : Moved b c i l (c.move b i m) := by
  unfold move
  rw [h.loop]
  cases h.able with
  | rest due hs _ => exact .rest due hs
  | begin hs _ =>
    cases hb : b.begin c.now c.state l.task.job with
    | mk s wait =>
      cases wait with
      | none =>
        simp only [beginRun, hb]
        exact .pass hs hb
      | some w =>
        simp only [beginRun, hb]
        exact .wait hs hb
  | finish cancelled due stubborn pending hp =>
    simp only [finishRun, hp]
    exact .finish cancelled hp
  | leave hs _ => exact .leave hs

/-- A move changes the tasks by the phase of one loop, which was not at its end, and which had
been free to begin. -/
theorem CanMove.tasks {c : Clockwork σ J P} {i : Nat} {l : Loop J P} {m : Move}
    (h : c.CanMove i l m) (b : Behaviour σ J P) :
    (∃ phase, (c.move b i m).tasks = c.tasks.setPhase i phase) ∧ l.phase ≠ .ended ∧
      (l.phase = .queued → c.isFree l = true) := by
  refine ⟨?_, h.able.phase⟩
  have hm := h.moved b
  generalize c.move b i m = c' at hm ⊢
  cases hm with
  | rest due _ => exact ⟨_, rfl⟩
  | pass _ _ => exact ⟨_, rfl⟩
  | wait _ _ => exact ⟨_, rfl⟩
  | finish _ _ => exact ⟨_, rfl⟩
  | leave _ => exact ⟨_, rfl⟩

theorem CanMove.cancelled {c : Clockwork σ J P} {i : Nat} {l : Loop J P} {m : Move}
    (h : c.CanMove i l m) (b : Behaviour σ J P) : (c.move b i m).cancelled = c.cancelled := by
  have hm := h.moved b
  generalize c.move b i m = c' at hm ⊢
  cases hm <;> rfl

/-! ## Many moves -/

/-- Something that moves and the passing of time keep. -/
structure Stable (b : Behaviour σ J P) (Q : Clockwork σ J P → Prop) : Prop where
  move : ∀ {c : Clockwork σ J P} {i : Nat} {l : Loop J P} {m : Move}, Q c → c.CanMove i l m →
    Q (c.move b i m)
  pass : ∀ {c : Clockwork σ J P} {now : Nat}, Q c → c.now ≤ now → Q { c with now }

variable {b : Behaviour σ J P} {Q : Clockwork σ J P → Prop}

theorem Stable.settleWithin (h : Stable b Q) (n : Nat) {c : Clockwork σ J P} (hc : Q c) :
    Q (c.settleWithin b n) := by
  induction n generalizing c with
  | zero => exact hc
  | succ n ih =>
    unfold Clockwork.settleWithin
    split
    · exact hc
    · rename_i i m hn
      obtain ⟨l, hl⟩ := canMove_of_next? hn
      exact ih (h.move hc hl)

theorem Stable.settle (h : Stable b Q) {c : Clockwork σ J P} (hc : Q c) : Q (c.settle b) :=
  h.settleWithin _ hc

theorem Stable.runWithin (h : Stable b Q) (done : Clockwork σ J P → Bool) (deadline n : Nat)
    {c : Clockwork σ J P} (hc : Q c) : Q (c.runWithin b done deadline n) := by
  induction n generalizing c with
  | zero => exact h.pass hc (Nat.le_max_left _ _)
  | succ n ih =>
    have hs : Q (c.settle b) := h.settle hc
    unfold Clockwork.runWithin
    simp only
    split
    · exact hs
    · split
      · split
        · exact ih (h.pass hs (Nat.le_max_left _ _))
        · exact h.pass hs (Nat.le_max_left _ _)
      · exact h.pass hs (Nat.le_max_left _ _)

theorem Stable.waitUntil (h : Stable b Q) (done : Clockwork σ J P → Bool) (ticks : Nat)
    {c : Clockwork σ J P} (hc : Q c) : Q (c.waitUntil b done ticks) := by
  unfold Clockwork.waitUntil
  split
  · exact hc
  · exact h.runWithin _ _ _ hc

theorem Stable.advance (h : Stable b Q) (ticks : Nat) {c : Clockwork σ J P} (hc : Q c) :
    Q (c.advance b ticks) :=
  h.settle (h.waitUntil _ _ hc)

/-- The end of all tasks keeps what moves and time keep, if to stop every loop and to give a loop up
keep it too. -/
theorem Stable.shutdown (h : Stable b Q)
    (hclose : ∀ {c : Clockwork σ J P}, Q c → Q { c with tasks := c.tasks.close })
    (hend : ∀ {c : Clockwork σ J P} (i : Nat), Q c →
      Q { c with tasks := c.tasks.setPhase i .ended })
    (timeout : Nat) {c : Clockwork σ J P} (hc : Q c) : Q (c.shutdown b timeout).1 := by
  have hfold : ∀ (runs : List (String × Nat)) (acc : Clockwork σ J P × Option String), Q acc.1 →
      Q (runs.foldl (awaitEnd b timeout) acc).1 := by
    intro runs
    induction runs with
    | nil => exact fun _ hacc => hacc
    | cons run runs ih =>
      intro acc hacc
      apply ih
      have hwaited := h.waitUntil (·.tasks.hasEnded run.2) timeout hacc
      unfold awaitEnd
      simp only
      split
      · exact hwaited
      · exact hend run.2 hwaited
  have hdone := hfold c.tasks.runs ({ c with tasks := c.tasks.close }, none) (hclose hc)
  unfold Clockwork.shutdown
  split
  · exact hc
  · simp only
    split <;> rename_i heq <;> rw [heq] at hdone <;> exact hdone

end ToggleSync.Clockwork
