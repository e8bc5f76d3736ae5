-- The paths of a backup's files, part by part. Behind the directory stand names that lead down and
-- nothing else, unless the name of the application is one that leads nowhere or back up.
import Mathlib.Data.List.Basic
import ToggleSync.Proofs.BackupPaths
import ToggleSync.Volume.Path

namespace ToggleSync

/-! ## Parts of a text -/

theorem splitAt_ne_nil (p : Char → Bool) (cs : List Char) : splitAt p cs ≠ [] := by
  cases cs with
  | nil => simp [splitAt]
  | cons c cs =>
    unfold splitAt
    split
    · simp
    · split <;> simp

theorem splitAt_append {p : Char → Bool} {mark : Char} (h : p mark = true) (front rest : List Char) :
    splitAt p (front ++ mark :: rest) = splitAt p front ++ splitAt p rest := by
  induction front with
  | nil => simp [splitAt, h]
  | cons c front ih =>
    by_cases hc : p c = true
    · simp [splitAt, hc, ih]
    · obtain ⟨part, parts, hparts⟩ := List.exists_cons_of_ne_nil (splitAt_ne_nil p front)
      rw [hparts] at ih
      simp [splitAt, hc, ih, hparts]

theorem splitAt_of_unmarked {p : Char → Bool} {cs : List Char} (h : ∀ c ∈ cs, p c = false) :
    splitAt p cs = [cs] := by
  induction cs with
  | nil => rfl
  | cons c cs ih =>
    obtain ⟨hc, hcs⟩ := List.forall_mem_cons.mp h
    simp [splitAt, hc, ih hcs]

namespace Path

/-! ## Parts of a path -/

/-- What stands between the slashes of a path, where anything does. -/
def partsOf (path : String) : List (List Char) :=
  (splitAt (· == '/') path.toList).filter (!·.isEmpty)

/-- Behind the parts of the directory comes the name. -/
theorem splitAt_joinPath (directory : String) {name : String} (h : '/' ∉ name.toList) :
    ∃ front, splitAt (· == '/') (joinPath directory name).toList = front ++ [name.toList] ∧
      front.filter (!·.isEmpty) = partsOf directory := by
  have hname : splitAt (· == '/') name.toList = [name.toList] :=
    splitAt_of_unmarked fun c hc => by
      rw [beq_eq_false_iff_ne]
      rintro rfl
      exact h hc
  have hslash : ∀ front, splitAt (· == '/') (front ++ '/' :: name.toList) =
      splitAt (· == '/') front ++ [name.toList] := by
    intro front
    rw [splitAt_append rfl, hname]
  unfold joinPath partsOf
  split
  · rename_i hnone
    rw [List.getLast?_eq_none_iff.mp hnone]
    exact ⟨[], hname, rfl⟩
  · rename_i c hlast
    split
    · rename_i hc
      obtain ⟨front, hfront⟩ := List.getLast?_eq_some_iff.mp hlast
      rw [beq_iff_eq.mp hc] at hfront
      refine ⟨splitAt (· == '/') front, ?_, ?_⟩
      · rw [String.toList_append, hfront, List.append_assoc]
        exact hslash front
      · rw [hfront, splitAt_append rfl, List.filter_append]
        exact (List.append_nil _).symm
    · refine ⟨splitAt (· == '/') directory.toList, ?_, rfl⟩
      rw [String.toList_append, String.toList_append, List.append_assoc]
      exact hslash directory.toList

theorem partsOf_joinPath (directory : String) {name : String} (h : '/' ∉ name.toList) :
    partsOf (joinPath directory name) =
      partsOf directory ++ [name.toList].filter (!·.isEmpty) := by
  obtain ⟨front, hsplit, hfront⟩ := splitAt_joinPath directory h
  rw [partsOf, hsplit, List.filter_append, hfront]

/-- A path begins at the root or not, whatever is put behind it. -/
theorem head?_joinPath (directory : String) {name : String} (h : '/' ∉ name.toList) :
    (joinPath directory name).toList.head? = some '/' ↔ directory.toList.head? = some '/' := by
  unfold joinPath
  split
  · rename_i hnone
    rw [List.getLast?_eq_none_iff.mp hnone]
    refine ⟨fun hhead => absurd (List.mem_of_mem_head? hhead) h, nofun⟩
  · rename_i c hlast
    have hne : directory.toList ≠ [] := by
      rintro hnil
      rw [hnil] at hlast
      cases hlast
    split <;> simp only [String.toList_append, List.append_assoc, List.head?_append_of_ne_nil _ hne]

/-! ## Steps -/

theorem Step.eq_dots_of_ofPart? {part : List Char} (h : Step.ofPart? part = some .up) :
    part = "..".toList := by
  unfold Step.ofPart? at h
  split at h
  · cases h
  · split at h
    · assumption
    · cases h

/-- Only parts that are there make steps. -/
theorem steps_ofText (text : String) :
    (ofText text).steps = (if text.toList.head? = some '/' then [] else [.into homeName]) ++
      (partsOf text).filterMap Step.ofPart? := by
  have hparts : (partsOf text).filterMap Step.ofPart? =
      (splitAt (· == '/') text.toList).filterMap Step.ofPart? := by
    rw [partsOf, List.filterMap_filter]
    congr 1
    funext part
    cases part <;> rfl
  rw [hparts]
  unfold ofText
  dsimp only
  split <;> rfl

theorem steps_joinPath (directory : String) {name : String} (h : '/' ∉ name.toList) :
    (ofText (joinPath directory name)).steps =
      (ofText directory).steps ++ (Step.ofPart? name.toList).toList := by
  have hlast : ([name.toList].filter (!·.isEmpty)).filterMap Step.ofPart? =
      (Step.ofPart? name.toList).toList := by
    cases hname : name.toList with
    | nil => rfl
    | cons c cs =>
      change [c :: cs].filterMap Step.ofPart? = _
      rw [List.filterMap_cons]
      cases Step.ofPart? (c :: cs) <;> rfl
  simp only [steps_ofText, head?_joinPath directory h, partsOf_joinPath directory h,
    List.filterMap_append, List.append_assoc, hlast]

/-- A name that leads down: not empty, no dots that lead nowhere or back up, and no slash in it. -/
structure IsName (name : String) : Prop where
  ne_empty : name ≠ ""
  ne_dot : name ≠ "."
  ne_dots : name ≠ ".."
  no_slash : '/' ∉ name.toList

namespace IsName

variable {name : String}

theorem toList_ne_nil (h : IsName name) : name.toList ≠ [] :=
  mt (@String.toList_inj name "").mp h.ne_empty

theorem toList_ne_dot (h : IsName name) : name.toList ≠ ['.'] :=
  mt (@String.toList_inj name ".").mp h.ne_dot

theorem toList_ne_dots (h : IsName name) : name.toList ≠ ['.', '.'] :=
  mt (@String.toList_inj name "..").mp h.ne_dots

theorem not_isEmpty (h : IsName name) : name.toList.isEmpty = false :=
  List.isEmpty_eq_false_iff.mpr h.toList_ne_nil

theorem ofPart? (h : IsName name) : Step.ofPart? name.toList = some (.into name) := by
  simp [Step.ofPart?, h.not_isEmpty, h.toList_ne_dot, h.toList_ne_dots]

/-- A name at the end of a path is its last step, and nothing stands behind it. -/
theorem ofText_joinPath (h : IsName name) (directory : String) :
    ofText (joinPath directory name) = ⟨(ofText directory).steps ++ [.into name], .plain⟩ := by
  have hsteps := steps_joinPath directory h.no_slash
  rw [h.ofPart?] at hsteps
  obtain ⟨front, hsplit, -⟩ := splitAt_joinPath directory h.no_slash
  have hending : (ofText (joinPath directory name)).ending = .plain := by
    simp [ofText, Ending.ofParts, hsplit, List.filter_append, h.not_isEmpty, h.toList_ne_dot,
      h.toList_ne_nil]
  calc ofText (joinPath directory name)
    _ = ⟨(ofText (joinPath directory name)).steps, (ofText (joinPath directory name)).ending⟩ := rfl
    _ = _ := by rw [hsteps, hending]; rfl

end IsName

/-! ## Below a directory -/

/-- The path is that of the directory with names behind it that lead down. -/
def LiesBelow (directory path : String) : Prop :=
  ∃ names, names ≠ [] ∧ (∀ n ∈ names, IsName n) ∧ path = names.foldl joinPath directory

/-- From the directory on, all steps of the path lead down. A dot does not count. -/
def LeadsBelow (directory path : String) : Prop :=
  ∃ names : List String, names ≠ [] ∧
    (ofText path).steps = (ofText directory).steps ++ names.map .into

theorem partsOf_foldl_joinPath {names : List String} (h : ∀ n ∈ names, IsName n)
    (directory : String) :
    partsOf (names.foldl joinPath directory) = partsOf directory ++ names.map String.toList := by
  induction names generalizing directory with
  | nil => simp
  | cons n names ih =>
    obtain ⟨hn, hnames⟩ := List.forall_mem_cons.mp h
    rw [List.foldl_cons, ih hnames, partsOf_joinPath directory hn.no_slash, List.filter_singleton,
      hn.not_isEmpty]
    simp

theorem not_liesBelow {directory path : String} {parts : List (List Char)} {part : List Char}
    (hparts : partsOf path = partsOf directory ++ parts) (hmem : part ∈ parts)
    (hname : ¬ IsName (String.ofList part)) : ¬ LiesBelow directory path := by
  rintro ⟨names, -, hnames, rfl⟩
  rw [partsOf_foldl_joinPath hnames, List.append_cancel_left_eq] at hparts
  rw [← hparts] at hmem
  obtain ⟨n, hn, rfl⟩ := List.mem_map.mp hmem
  rw [String.ofList_toList] at hname
  exact hname (hnames n hn)

end Path

/-- A directory with nothing but a slash behind it holds what the directory holds. -/
theorem joinPath_joinPath_empty (directory name : String) :
    joinPath (joinPath directory "") name = joinPath directory name := by
  rcases List.eq_nil_or_concat directory.toList with hnil | ⟨front, c, hlast⟩
  · simp [joinPath, hnil]
  · rw [List.concat_eq_append] at hlast
    by_cases hc : c = '/'
    · subst hc
      simp [joinPath, hlast]
    · simp [joinPath, hlast, hc]

/-! ## The files of a backup -/

namespace Backup

open ToggleSync.Path

/-- The directory of a file: that of the application's own name in the earlier layout. -/
def directoryOf (dir app : String) (slot : Slot) : String :=
  if slot.isLegacy then joinPath dir (cleanName app) else dir

theorem path_eq (dir app instanceTag version : String) (slot : Slot) :
    (Location.new dir app instanceTag version).path slot =
      joinPath (directoryOf dir app slot) (cleanName (slot.fileName app instanceTag version)) := by
  cases slot <;> rfl

/-- The name of a file leads down, whatever the client is called. -/
theorem isName_fileName (app instanceTag version : String) (slot : Slot) :
    IsName (cleanName (slot.fileName app instanceTag version)) := by
  have hsixth := fileName_sixth app instanceTag version slot
  refine ⟨?_, ?_, ?_, no_slash_in_cleanName _⟩ <;>
  · intro hname
    rw [hname] at hsixth
    cases hsixth

/-- The name of the application, cleaned, leads nowhere or back up. -/
def IsDots (app : String) : Prop := cleanName app = "." ∨ cleanName app = ".."

instance (app : String) : Decidable (IsDots app) := inferInstanceAs (Decidable (_ ∨ _))

theorem isName_of_not_isDots {app : String} (h : ¬ IsDots app) (hne : cleanName app ≠ "") :
    IsName (cleanName app) :=
  ⟨hne, fun hdot => h (.inl hdot), fun hdots => h (.inr hdots), no_slash_in_cleanName app⟩

theorem liesBelow_path_iff (dir app instanceTag version : String) (slot : Slot) :
    LiesBelow dir ((Location.new dir app instanceTag version).path slot) ↔
      slot.isLegacy = false ∨ ¬ IsDots app := by
  have hfile := isName_fileName app instanceTag version slot
  have hbelow : ∀ {path}, path = joinPath dir (cleanName (slot.fileName app instanceTag version)) →
      LiesBelow dir path := by
    rintro path rfl
    exact ⟨[_], by simp, by simpa using hfile, rfl⟩
  rw [path_eq]
  cases hlegacy : slot.isLegacy with
  | false => simpa [directoryOf, hlegacy] using hbelow rfl
  | true =>
    simp only [directoryOf, hlegacy, if_true, Bool.true_eq_false, false_or]
    constructor
    · intro hlies hdots
      have hparts := partsOf_joinPath (joinPath dir (cleanName app)) hfile.no_slash
      rw [partsOf_joinPath dir (no_slash_in_cleanName app), List.append_assoc] at hparts
      have hmem : (cleanName app).toList ∈ [(cleanName app).toList].filter (!·.isEmpty) := by
        rcases hdots with hdot | hdot <;> simp [hdot]
      refine not_liesBelow hparts (List.mem_append_left _ hmem) ?_ hlies
      rw [String.ofList_toList]
      exact fun hname => hdots.elim hname.ne_dot hname.ne_dots
    · intro hdots
      by_cases hempty : cleanName app = ""
      · rw [hempty, joinPath_joinPath_empty]
        exact hbelow rfl
      · exact ⟨[_, _], by simp, by simpa using ⟨isName_of_not_isDots hdots hempty, hfile⟩, rfl⟩

/-- The steps to a file: those to the directory, and from there at most one step before the name. -/
theorem ofText_path (dir app instanceTag version : String) (slot : Slot) :
    Path.ofText ((Location.new dir app instanceTag version).path slot) =
      ⟨(Path.ofText dir).steps ++
        ((if slot.isLegacy then (Step.ofPart? (cleanName app).toList).toList else []) ++
          [.into (cleanName (slot.fileName app instanceTag version))]), .plain⟩ := by
  rw [path_eq, (isName_fileName app instanceTag version slot).ofText_joinPath, directoryOf,
    ← List.append_assoc]
  split
  · rw [steps_joinPath dir (no_slash_in_cleanName app)]
  · rw [List.append_nil]

theorem leadsBelow_path_iff (dir app instanceTag version : String) (slot : Slot) :
    LeadsBelow dir ((Location.new dir app instanceTag version).path slot) ↔
      slot.isLegacy = false ∨ cleanName app ≠ ".." := by
  rw [LeadsBelow, ofText_path]
  cases hlegacy : slot.isLegacy with
  | false => simpa using ⟨[_], by simp, rfl⟩
  | true =>
    simp only [if_true, Bool.true_eq_false, false_or, List.append_cancel_left_eq]
    by_cases hdots : cleanName app = ".."
    · refine iff_of_false ?_ (not_not_intro hdots)
      rintro ⟨names, -, hnames⟩
      rw [hdots] at hnames
      rcases names with _ | ⟨n, names⟩ <;> cases hnames
    · refine iff_of_true ?_ hdots
      cases hpart : Step.ofPart? (cleanName app).toList with
      | none => exact ⟨[_], by simp, rfl⟩
      | some step =>
        cases step with
        | into name => exact ⟨[_, _], by simp, rfl⟩
        | up => exact absurd (String.toList_inj.mp (Step.eq_dots_of_ofPart? hpart)) hdots

end Backup

end ToggleSync
