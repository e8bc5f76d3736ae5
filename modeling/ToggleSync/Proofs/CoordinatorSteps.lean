-- The runs of a coordinator from its start to its disposal. A run is any order of small steps: a
-- move of a task's loop, time that passes, a mode that is asked for, a message or a failure of the
-- stream, another server, a question of the application. What is taken on the way is its history.
import ToggleSync.Proofs.Switches

namespace ToggleSync

/-! ## Steps -/

/-- The state that a message brings, if it can be read. It comes without a tag. -/
def StreamMessage.brings (m : StreamMessage) : List Backup :=
  ((m.state?.filter isReadable).map fun state => ⟨state, none⟩).toList

namespace Coordinator

/-- A step, and the states that are taken in it, each with its tag. -/
inductive Step : Coordinator → List Backup → Coordinator → Prop
  | move {c : Coordinator} {i : Nat} {l : Loop Job Asked} {v : Move} : c.machine.CanMove i l v →
      Step c (c.machine.brings l v) { c with machine := c.machine.move Sync.behaviour i v }
  | pass {c : Coordinator} {now : Nat} : c.machine.now ≤ now →
      Step c [] { c with machine := { c.machine with now } }
  /-- A mode is asked for: by the application, or because the stream fails. -/
  | change (c : Coordinator) (mode : Mode) : Step c [] (c.changeMode mode).1
  /-- What the failing stream asked for is about to be done. -/
  | takeRequests (c : Coordinator) : Step c [] (c.update ({ · with requests := [] }))
  | message (c : Coordinator) (m : StreamMessage) :
      Step c m.brings (c.update fun s => (s.handleMessage c.machine.now m).1)
  | failure (c : Coordinator) (f : Failure) : Step c [] (c.update (·.handleError c.machine.now f))
  | opened (c : Coordinator) : Step c [] (c.update (·.handleOpen))
  | closed (c : Coordinator) : Step c [] (c.update (·.handleClosed))
  /-- The server has other answers to come, or lets streams be opened, or not. -/
  | server (c : Coordinator) (answers : List Answer) (startFailure : Option Failure) :
      Step c [] (c.update fun s => { s with backend := { s.backend with answers, startFailure } })
  /-- The application asks for a toggle, which is counted. -/
  | count (c : Coordinator) (usage : Usage) :
      Step c [] (c.update fun s => { s with engine := { s.engine with usage } })
  | tell (c : Coordinator) (i : Impression) :
      Step c [] (c.update (·.raise c.machine.now (.impression i)))
  | fireReady (c : Coordinator) : Step c [] (c.update (·.fireReady c.machine.now))

/-- Some steps after a start that did not fail, with everything that was taken since. A start takes
what it hands over to be kept. -/
inductive Reached (m : Machine) (o : Options) (initial : Mode) : Coordinator → List Backup → Prop
  | start : (start m o initial).2 = .ok () → Reached m o initial (start m o initial).1
      (((start m o initial).1.sync.seen .backups).drop (m.state.seen .backups).length)
  | step {c c' : Coordinator} {history taken : List Backup} : Reached m o initial c history →
      Step c taken c' → Reached m o initial c' (history ++ taken)

/-! ## Whole operations -/

section

variable {m : Machine} {o : Options} {initial : Mode} {c : Coordinator} {history : List Backup}

/-- A coordinator that was reached, with whatever history. -/
def IsReached (m : Machine) (o : Options) (initial : Mode) (c : Coordinator) : Prop :=
  ∃ history, Reached m o initial c history

theorem IsReached.step (h : IsReached m o initial c) {c' : Coordinator} {taken : List Backup}
    (hs : Step c taken c') : IsReached m o initial c' := by
  obtain ⟨history, hr⟩ := h
  exact ⟨_, hr.step hs⟩

theorem IsReached.stable (c : Coordinator) : Clockwork.Stable Sync.behaviour
    fun machine => IsReached m o initial { c with machine } where
  move h hm := h.step (.move hm)
  pass h ht := h.step (.pass ht)

/-- Letting time pass is nothing but steps. -/
theorem IsReached.advance (h : IsReached m o initial c) (ticks : Nat) :
    IsReached m o initial { c with machine := c.machine.advance Sync.behaviour ticks } :=
  (stable c).advance ticks h

theorem IsReached.awaitReady (h : IsReached m o initial c) (ticks : Nat) :
    IsReached m o initial { c with machine := (c.machine.awaitReady ticks).1 } :=
  (stable c).waitUntil (·.state.ready.fired) ticks h

/-- Nor is doing what the failing stream asked for, in order. -/
theorem IsReached.attend (h : IsReached m o initial c) : IsReached m o initial c.attend := by
  have hchanges : ∀ (modes : List Mode) {c : Coordinator}, IsReached m o initial c →
      IsReached m o initial (modes.foldl (fun c mode => (c.changeMode mode).1) c) := by
    intro modes
    induction modes with
    | nil => exact fun hc => hc
    | cons mode modes ih => exact fun hc => ih (hc.step (.change _ mode))
  unfold Coordinator.attend
  simp only
  split
  · exact h.step (.takeRequests c)
  · exact hchanges _ (h.step (.takeRequests c))

theorem IsReached.settled (h : IsReached m o initial c) : IsReached m o initial c.settled :=
  (stable c.attend).settle h.attend

end

end Coordinator

end ToggleSync
