-- The paths of a backup's files. Each is a directory with a clean name behind it, so the name can
-- be read off the path; and the four names differ, whatever the client is called.
import ToggleSync.Backup.Location

namespace ToggleSync

/-! ## Joined paths -/

/-- What is behind the last slash of a path. -/
def stepsEnd (path : String) : List Char := (path.toList.reverse.takeWhile (· ≠ '/')).reverse

theorem stepsEnd_joinPath (directory : String) {name : String} (h : '/' ∉ name.toList) :
    stepsEnd (joinPath directory name) = name.toList := by
  have hall : ∀ c ∈ name.toList.reverse, decide (c ≠ '/') = true := by
    intro c hc
    simp only [decide_eq_true_eq]
    rintro rfl
    exact h (List.mem_reverse.mp hc)
  -- in front of the name there is nothing, or a slash
  have hend : ∀ front : List Char, (front = [] ∨ ∃ rest, front = rest ++ ['/']) →
      ((front ++ name.toList).reverse.takeWhile (· ≠ '/')).reverse = name.toList := by
    intro front hfront
    rw [List.reverse_append, List.takeWhile_append_of_pos hall]
    rcases hfront with rfl | ⟨rest, rfl⟩ <;> simp
  unfold stepsEnd joinPath
  split
  · rename_i hd
    exact hend [] (Or.inl rfl)
  · rename_i c hc
    split
    · rename_i hs
      rw [String.toList_append]
      apply hend
      obtain ⟨front, hf⟩ := List.getLast?_eq_some_iff.mp hc
      exact Or.inr ⟨front, by simpa [beq_iff_eq.mp hs] using hf⟩
    · rw [String.toList_append, String.toList_append]
      exact hend _ (Or.inr ⟨directory.toList, rfl⟩)

/-! ## Clean names -/

theorem toList_cleanName (name : String) :
    (cleanName name).toList = name.toList.filter (!isUnsafeInName ·) := by
  simp [cleanName]

theorem no_slash_in_cleanName (name : String) : '/' ∉ (cleanName name).toList := by
  rw [toList_cleanName, List.mem_filter]
  rintro ⟨_, h⟩
  revert h
  decide

namespace Backup

/-! ## The four names -/

def Slot.isState : Slot → Bool
  | .state => true
  | .legacyState => true
  | _ => false

def Slot.isLegacy : Slot → Bool
  | .legacyState => true
  | .legacyTag => true
  | _ => false

def Slot.stem (slot : Slot) : String := if slot.isState then "flags.toggles" else "flags.etag"

def Slot.ending (slot : Slot) : String := if slot.isState then "json" else "txt"

/-- The name of a file, as it is before it is cleaned. -/
def Slot.fileName (app instanceTag version : String) (slot : Slot) : String :=
  if slot.isLegacy then s!"{slot.stem}-{app}-{instanceTag}-{version}.{slot.ending}"
  else s!"{slot.stem}-{app}-{version}.{slot.ending}"

theorem path_new (dir app instanceTag version : String) (slot : Slot) :
    ∃ directory, (Location.new dir app instanceTag version).path slot =
      joinPath directory (cleanName (slot.fileName app instanceTag version)) := by
  cases slot <;> exact ⟨_, rfl⟩

theorem stepsEnd_path (dir app instanceTag version : String) (slot : Slot) :
    stepsEnd ((Location.new dir app instanceTag version).path slot) =
      (cleanName (slot.fileName app instanceTag version)).toList := by
  obtain ⟨directory, h⟩ := path_new dir app instanceTag version slot
  rw [h, stepsEnd_joinPath _ (no_slash_in_cleanName _)]

/-- Cleaning leaves what is not from the client in a name as it is. -/
theorem toList_fileName (app instanceTag version : String) (slot : Slot) :
    (cleanName (slot.fileName app instanceTag version)).toList =
      slot.stem.toList ++ (['-'] ++ (cleanName app).toList ++ ['-'] ++
        (if slot.isLegacy then (cleanName instanceTag).toList ++ ['-'] else []) ++
        (cleanName version).toList ++ ['.'] ++ slot.ending.toList) := by
  have hstem : slot.stem.toList.filter (!isUnsafeInName ·) = slot.stem.toList := by
    cases slot <;> decide
  have hending : slot.ending.toList.filter (!isUnsafeInName ·) = slot.ending.toList := by
    cases slot <;> decide
  have hdash : "-".toList.filter (!isUnsafeInName ·) = ['-'] := by decide
  have hdot : ".".toList.filter (!isUnsafeInName ·) = ['.'] := by decide
  unfold Slot.fileName
  cases slot.isLegacy <;>
    simp only [toList_cleanName, toString, String.toList_append, List.filter_append, hstem,
      hending, hdash, hdot, List.append_assoc, List.nil_append, if_true, Bool.false_eq_true,
      if_false]

/-- The sixth character tells a name of a state from one of a tag. -/
theorem fileName_sixth (app instanceTag version : String) (slot : Slot) :
    (cleanName (slot.fileName app instanceTag version)).toList[6]? =
      some (if slot.isState then 't' else 'e') := by
  rw [toList_fileName]
  cases h : slot.isState <;> simp [Slot.stem, h]

/-- The length tells a name of the earlier layout from one of the present one. -/
theorem length_fileName (app instanceTag version : String) {a b : Slot}
    (hs : a.isState = b.isState) (ha : a.isLegacy = false) (hb : b.isLegacy = true) :
    (cleanName (a.fileName app instanceTag version)).toList.length <
      (cleanName (b.fileName app instanceTag version)).toList.length := by
  rw [toList_fileName, toList_fileName]
  have hstem : a.stem = b.stem := by simp [Slot.stem, hs]
  have hending : a.ending = b.ending := by simp [Slot.ending, hs]
  simp only [hstem, hending, ha, hb, List.length_append, if_true, Bool.false_eq_true, if_false,
    List.length_singleton, List.length_nil]
  omega

/-- The files of a backup lie in four different places, whatever names and directories there are. -/
theorem path_new_injective (dir app instanceTag version : String) :
    Function.Injective (Location.new dir app instanceTag version).path := by
  intro a b h
  have hname : (cleanName (a.fileName app instanceTag version)).toList =
      (cleanName (b.fileName app instanceTag version)).toList := by
    rw [← stepsEnd_path dir, ← stepsEnd_path dir, h]
  have hstate : a.isState = b.isState := by
    have h6 := fileName_sixth app instanceTag version a
    rw [hname, fileName_sixth] at h6
    cases ha : a.isState <;> cases hb : b.isState <;> simp_all
  have hlegacy : a.isLegacy = b.isLegacy := by
    have hlen := congrArg List.length hname
    cases ha : a.isLegacy <;> cases hb : b.isLegacy
    · rfl
    · have := length_fileName app instanceTag version hstate ha hb
      omega
    · have := length_fileName app instanceTag version hstate.symm hb ha
      omega
    · rfl
  cases a <;> cases b <;> simp_all [Slot.isState, Slot.isLegacy]

end Backup

end ToggleSync
