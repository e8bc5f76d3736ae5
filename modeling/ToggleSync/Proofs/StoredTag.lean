-- The law of saving. The state is written before the tag, and the tag only if the state could be
-- written. So whatever fails, and wherever a process stops, the tag on the disk is never one of a
-- later save than the state beside it.
import Mathlib.Data.List.Induction
import ToggleSync.Proofs.BackupPaths
import ToggleSync.Proofs.SyncLog

namespace ToggleSync

namespace Backup

/-! ## Saves that may fail or stop -/

/-- One save: what is to be kept, the failures by path that writing has meanwhile, and the number
of writes after which the process stops, if it does. -/
structure Attempt where
  backup : Backup
  failures : Table IoFailure
  stop : Option Nat

/-- A save of a process that stops after so many writes. -/
def Store.saveFirst (s : Store) (n : Nat) (d : Disk) (b : Backup) : Writing Disk :=
  writeAll (fun d slot text => d.write (s.location.path slot) text) d (b.writes.take n)

def Attempt.writing (a : Attempt) (s : Store) (d : Disk) : Writing Disk :=
  let d := { d with writeFailures := a.failures }
  match a.stop with
  | none => s.save d a.backup
  | some n => s.saveFirst n d a.backup

/-- The files after saves, of one process after another. -/
def Store.afterAttempts (s : Store) (d : Disk) (attempts : List Attempt) : Disk :=
  attempts.foldl (fun d a => (a.writing s d).medium) d

namespace Attempt

/-- The process is still there for this write. -/
def reaches (a : Attempt) (n : Nat) : Bool := a.stop.all (n ≤ ·)

def writesState (a : Attempt) (l : Location) : Bool :=
  a.reaches 1 && (a.failures.get? l.state).isNone

/-- Both writes of the save succeed. -/
def writesTag (a : Attempt) (l : Location) : Bool :=
  a.writesState l && a.reaches 2 && (a.failures.get? l.tag).isNone

/-- The writes that are attempted: never one of the tag after a failed one of the state. -/
def attempted (a : Attempt) (l : Location) : List (Slot × String) :=
  (if a.reaches 1 then [(.state, a.backup.state)] else []) ++
    (if a.writesState l && a.reaches 2 then [(.tag, a.backup.tag.getD "")] else [])

/-- What there is to complain of in a save that goes on to its end: the first write that fails. -/
def complaint (a : Attempt) (l : Location) : Option IoFailure :=
  (a.failures.get? l.state).or (a.failures.get? l.tag)

end Attempt

/-! ## One save -/

theorem save_eq_saveFirst (s : Store) (d : Disk) (b : Backup) :
    s.save d b = s.saveFirst 2 d b := rfl

theorem writing_eq_saveFirst (a : Attempt) (s : Store) (d : Disk) :
    a.writing s d =
      s.saveFirst (a.stop.getD 2) { d with writeFailures := a.failures } a.backup := by
  unfold Attempt.writing
  cases a.stop with
  | none => exact save_eq_saveFirst s _ _
  | some n => rfl

theorem saveFirst_zero (s : Store) (d : Disk) (b : Backup) :
    s.saveFirst 0 d b = ⟨[], d, none⟩ := rfl

theorem saveFirst_one (s : Store) (d : Disk) (b : Backup) :
    s.saveFirst 1 d b = ⟨[(.state, b.state)],
      (d.write s.location.state b.state).1, (d.write s.location.state b.state).2⟩ := by
  unfold Store.saveFirst writes
  rw [List.take_succ_cons, List.take_zero, writeAll]
  simp only [Location.path]
  cases h : d.write s.location.state b.state with
  | mk medium failure => cases failure <;> rfl

theorem saveFirst_both (s : Store) (d : Disk) (b : Backup) (n : Nat) :
    s.saveFirst (n + 2) d b =
      match d.writeFailures.get? s.location.state, d.writeFailures.get? s.location.tag with
      | some f, _ => ⟨[(.state, b.state)], d, some f⟩
      | none, some f => ⟨b.writes, { d with files := d.files.put s.location.state b.state }, some f⟩
      | none, none =>
        let states := d.files.put s.location.state b.state
        ⟨b.writes, { d with files := states.put s.location.tag (b.tag.getD "") }, none⟩ := by
  unfold Store.saveFirst writes
  rw [List.take_of_length_le (by simp)]
  cases h : d.writeFailures.get? s.location.state with
  | some f => simp [writeAll, Disk.write, Location.path, h]
  | none =>
    cases ht : d.writeFailures.get? s.location.tag <;>
      simp [writeAll, Disk.write, Location.path, h, ht]

theorem reaches_eq (a : Attempt) {n : Nat} (hn : n ≤ 2) :
    a.reaches n = decide (n ≤ a.stop.getD 2) := by
  unfold Attempt.reaches
  cases a.stop <;> simp [hn]

/-- What is in a file after a save. -/
theorem get?_writing (a : Attempt) (s : Store) (d : Disk) (path : String)
    (hl : s.location.state ≠ s.location.tag) :
    (a.writing s d).medium.files.get? path =
      if path = s.location.state ∧ a.writesState s.location then some a.backup.state
      else if path = s.location.tag ∧ a.writesTag s.location then some (a.backup.tag.getD "")
      else d.files.get? path := by
  rw [writing_eq_saveFirst]
  unfold Attempt.writesTag Attempt.writesState
  rw [reaches_eq a (Nat.le_succ 1), reaches_eq a (Nat.le_refl 2)]
  rcases a.stop.getD 2 with _ | _ | n
  · simp [saveFirst_zero]
  · rw [saveFirst_one]
    cases hf : a.failures.get? s.location.state <;> simp [Disk.write, hf, Table.get?_put]
  · rw [saveFirst_both]
    cases hf : a.failures.get? s.location.state with
    | some f => simp
    | none =>
      cases ht : a.failures.get? s.location.tag with
      | some f => simp [Table.get?_put]
      | none =>
        by_cases hp : path = s.location.state
        · simp [Table.get?_put, hp, hl]
        · simp [Table.get?_put, hp]

theorem attempted_writing (a : Attempt) (s : Store) (d : Disk) :
    (a.writing s d).attempted = a.attempted s.location := by
  rw [writing_eq_saveFirst]
  unfold Attempt.attempted Attempt.writesState
  rw [reaches_eq a (Nat.le_succ 1), reaches_eq a (Nat.le_refl 2)]
  rcases a.stop.getD 2 with _ | _ | n
  · simp [saveFirst_zero]
  · simp [saveFirst_one]
  · rw [saveFirst_both]
    cases a.failures.get? s.location.state <;>
      cases a.failures.get? s.location.tag <;> simp [writes]

theorem failure_save (s : Store) (d : Disk) (b : Backup) :
    (s.save d b).failure =
      (d.writeFailures.get? s.location.state).or (d.writeFailures.get? s.location.tag) := by
  rw [save_eq_saveFirst, saveFirst_both s d b 0]
  cases d.writeFailures.get? s.location.state <;>
    cases d.writeFailures.get? s.location.tag <;> rfl

/-! ## Many saves -/

/-- The last save of a kind, and its number. -/
def latest? (kind : Attempt → Bool) (attempts : List Attempt) : Option (Attempt × Nat) :=
  (attempts.zipIdx.filter (kind ·.1)).getLast?

theorem latest?_snoc (kind : Attempt → Bool) (attempts : List Attempt) (a : Attempt) :
    latest? kind (attempts ++ [a]) =
      if kind a then some (a, attempts.length) else latest? kind attempts := by
  unfold latest?
  rw [List.zipIdx_append, List.filter_append]
  by_cases h : kind a <;> simp [h]

theorem number_of_latest {kind : Attempt → Bool} {attempts : List Attempt} {a : Attempt} {i : Nat}
    (h : latest? kind attempts = some (a, i)) : i < attempts.length := by
  have hmem := List.mem_of_getLast? h
  have := List.mem_zipIdx_iff_getElem?.mp (List.mem_filter.mp hmem).1
  exact (List.getElem?_eq_some_iff.mp this).1

theorem afterAttempts_snoc (s : Store) (d : Disk) (attempts : List Attempt) (a : Attempt) :
    s.afterAttempts d (attempts ++ [a]) = (a.writing s (s.afterAttempts d attempts)).medium := by
  simp [Store.afterAttempts]

section

variable (s : Store) (d : Disk) (attempts : List Attempt)

theorem stored_state (hl : s.location.state ≠ s.location.tag) :
    (s.afterAttempts d attempts).files.get? s.location.state =
      match latest? (·.writesState s.location) attempts with
      | some (a, _) => some a.backup.state
      | none => d.files.get? s.location.state := by
  induction attempts using List.reverseRecOn with
  | nil => rfl
  | append_singleton attempts a ih =>
    rw [afterAttempts_snoc, get?_writing _ _ _ _ hl, latest?_snoc, ih]
    by_cases h : a.writesState s.location <;> simp [h, hl]

theorem stored_tag (hl : s.location.state ≠ s.location.tag) :
    (s.afterAttempts d attempts).files.get? s.location.tag =
      match latest? (·.writesTag s.location) attempts with
      | some (a, _) => some (a.backup.tag.getD "")
      | none => d.files.get? s.location.tag := by
  induction attempts using List.reverseRecOn with
  | nil => rfl
  | append_singleton attempts a ih =>
    rw [afterAttempts_snoc, get?_writing _ _ _ _ hl, latest?_snoc, ih]
    by_cases h : a.writesTag s.location <;> simp [h, hl.symm]

theorem stored_elsewhere (hl : s.location.state ≠ s.location.tag) {path : String}
    (h1 : path ≠ s.location.state) (h2 : path ≠ s.location.tag) :
    (s.afterAttempts d attempts).files.get? path = d.files.get? path := by
  induction attempts using List.reverseRecOn with
  | nil => rfl
  | append_singleton attempts a ih =>
    rw [afterAttempts_snoc, get?_writing _ _ _ _ hl, ih]
    simp [h1, h2]

/-- The last save that wrote its tag is the last one that wrote its state, or an earlier one. -/
theorem tag_not_ahead (l : Location) {a : Attempt} {i : Nat}
    (h : latest? (·.writesTag l) attempts = some (a, i)) :
    ∃ b j, latest? (·.writesState l) attempts = some (b, j) ∧ i ≤ j := by
  induction attempts using List.reverseRecOn with
  | nil => cases h
  | append_singleton attempts last ih =>
    rw [latest?_snoc] at h ⊢
    by_cases hs : last.writesState l
    · refine ⟨last, attempts.length, by rw [if_pos hs], ?_⟩
      split at h
      · cases h
        exact Nat.le_refl _
      · exact Nat.le_of_lt (number_of_latest h)
    · have ht : last.writesTag l = false := by simp [Attempt.writesTag, hs]
      rw [ht] at h
      rw [if_neg hs]
      exact ih h

end

end Backup

/-! ## What a client tells -/

namespace Sync

/-- The writes that were attempted. -/
def written (s : Sync) : List (Backup.Slot × String) :=
  s.log.filterMap fun e =>
    match e.2 with
    | .wrote slot text => some (slot, text)
    | _ => none

/-- The failures to keep a backup that were told of. -/
def backupFailures (s : Sync) : List Failure :=
  s.log.filterMap fun e =>
    match e.2 with
    | .notice (.error .togglesBackup f) => some f
    | _ => none

theorem save_to_files {s : Sync} {store : Backup.Store} {disk : Backup.Disk}
    (h : s.keeping = .files store disk) (now : Nat) (b : Backup) :
    (s.save now b).keeping = .files store (store.save disk b).medium ∧
      (s.save now b).written = s.written ++ (store.save disk b).attempted ∧
      (s.save now b).backupFailures =
        s.backupFailures ++ ((store.save disk b).failure.map .io).toList := by
  have hkeep : (s.note now (.saved b)).keeping = .files store disk := h
  have hwritten : ∀ ws : List (Backup.Slot × String),
      (ws.map fun w => (now, Entry.wrote w.1 w.2)).filterMap (fun e =>
        match e.2 with
        | .wrote slot text => some (slot, text)
        | _ => none) = ws := by
    intro ws
    rw [List.filterMap_map]
    exact List.filterMap_some
  have hsilent : ∀ ws : List (Backup.Slot × String),
      (ws.map fun w => (now, Entry.wrote w.1 w.2)).filterMap (fun e =>
        match e.2 with
        | .notice (.error .togglesBackup f) => some f
        | _ => none) = [] := by
    intro ws
    simp
  unfold save
  simp only [hkeep, foldl_noteWrite]
  cases hf : (store.save disk b).failure with
  | none =>
    simp only [written, backupFailures, note, List.filterMap_append, hwritten, hsilent]
    simp
  | some f =>
    simp only [written, backupFailures, raise, note, List.filterMap_append, hwritten, hsilent]
    simp

end Sync

namespace Backup

/-- Over any files, and after any saves of which writes fail or which stop halfway: the state on the
disk is that of the last save that could write its state, and the tag that of the last save that
could write both, or they are as they were at first. So the tag is never of a later save than the
state. The tag is not tried after the state failed, and the files of the earlier layout are left
alone. A save that goes on to its end tells of a failure once if a write failed, and else never. The
files are four wherever a client keeps them. -/
theorem a_stored_tag_is_never_of_a_later_save :
    (∀ dir app instanceTag version : String,
      Function.Injective (Location.new dir app instanceTag version).path) ∧
    ∀ (store : Store) (d : Disk) (attempts : List Attempt),
      Function.Injective store.location.path →
      let l := store.location
      let d' := store.afterAttempts d attempts
      let stateFrom := latest? (·.writesState l) attempts
      let tagFrom := latest? (·.writesTag l) attempts
      d'.files.get? l.state =
        (match stateFrom with
        | some (a, _) => some a.backup.state
        | none => d.files.get? l.state) ∧
      d'.files.get? l.tag =
        (match tagFrom with
        | some (a, _) => some (a.backup.tag.getD "")
        | none => d.files.get? l.tag) ∧
      (∀ a i, tagFrom = some (a, i) → ∃ b j, stateFrom = some (b, j) ∧ i ≤ j) ∧
      d'.files.get? l.legacyState = d.files.get? l.legacyState ∧
      d'.files.get? l.legacyTag = d.files.get? l.legacyTag ∧
      ∀ a ∈ attempts, ∀ disk : Disk,
        (a.writing store disk).attempted = a.attempted l ∧
        (a.stop = none → ∀ (s : Sync) (now : Nat),
          s.keeping = .files store { disk with writeFailures := a.failures } →
          (s.save now a.backup).keeping = .files store (a.writing store disk).medium ∧
          (s.save now a.backup).written = s.written ++ a.attempted l ∧
          (s.save now a.backup).backupFailures =
            s.backupFailures ++ ((a.complaint l).map .io).toList) := by
  refine ⟨path_new_injective, ?_⟩
  intro store d attempts hl l d' stateFrom tagFrom
  have hne : ∀ {a b : Slot}, a ≠ b → l.path a ≠ l.path b := fun h he => h (hl he)
  have hst : l.state ≠ l.tag := hne (a := .state) (b := .tag) (by decide)
  refine ⟨stored_state store d attempts hst, stored_tag store d attempts hst,
    fun a i => tag_not_ahead attempts l, ?_, ?_, ?_⟩
  · apply stored_elsewhere store d attempts hst
    · exact hne (a := .legacyState) (b := .state) (by decide)
    · exact hne (a := .legacyState) (b := .tag) (by decide)
  · apply stored_elsewhere store d attempts hst
    · exact hne (a := .legacyTag) (b := .state) (by decide)
    · exact hne (a := .legacyTag) (b := .tag) (by decide)
  · intro a _ disk
    refine ⟨attempted_writing a store disk, ?_⟩
    intro hstop s now hs
    have hw : a.writing store disk =
        store.save { disk with writeFailures := a.failures } a.backup := by
      simp [Attempt.writing, hstop]
    obtain ⟨h1, h2, h3⟩ := Sync.save_to_files hs now a.backup
    rw [← hw] at h1 h2
    rw [attempted_writing] at h2
    rw [failure_save] at h3
    exact ⟨h1, h2, h3⟩

/-- Three saves: the first goes well, the second stops between its writes, and the third cannot
write its state. The state of the second is left beside the tag of the first. -/
theorem a_stopped_save_leaves_the_tag_of_an_earlier_one :
    let store : Store := ⟨⟨"s", "t", "ls", "lt"⟩, none, false⟩
    let full : IoFailure := ⟨.storageFull, "full"⟩
    let attempts : List Attempt :=
      [⟨⟨"one", some "v1"⟩, ∅, none⟩, ⟨⟨"two", some "v2"⟩, ∅, some 1⟩,
        ⟨⟨"three", some "v3"⟩, .ofList [("s", full)], none⟩]
    let d' := store.afterAttempts ⟨∅, ∅, ∅⟩ attempts
    Function.Injective store.location.path ∧
      d'.files.get? "s" = some "two" ∧ d'.files.get? "t" = some "v1" := by
  intro store full attempts d'
  have hinj : Function.Injective store.location.path := by
    intro a b h
    cases a <;> cases b <;> simp_all [store, Location.path]
  have h := a_stored_tag_is_never_of_a_later_save.2 store ⟨∅, ∅, ∅⟩ attempts hinj
  exact ⟨hinj, h.1, h.2.1⟩

end Backup

end ToggleSync
