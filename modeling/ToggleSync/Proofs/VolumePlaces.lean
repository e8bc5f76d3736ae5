-- Where paths lead. A file system is seen through what stands at each place; a path finds the same
-- in two of them as long as the directories on its way, and what stands at its end, are the same.
import Mathlib.Data.List.Induction
import ToggleSync.Volume.Replacement

namespace ToggleSync.Volume

/-! ## What stands at a place -/

@[simp] theorem node?_root (v : Volume) : v.node? [] = some .directory := rfl

theorem lookup_filter_ne (nodes : List (Place × Node)) (place q : Place) :
    (nodes.filter (·.1 != place)).lookup q = if q = place then none else nodes.lookup q := by
  induction nodes with
  | nil => simp
  | cons n nodes ih =>
    obtain ⟨other, node⟩ := n
    by_cases hn : other = place
    · rw [List.filter_cons_of_neg (by simpa using hn), ih]
      by_cases hq : q = place
      · simp [hq]
      · have hne : (q == other) = false := by simpa [hn] using hq
        simp [hq, List.lookup_cons, hne]
    · rw [List.filter_cons_of_pos (by simpa using hn), List.lookup_cons, List.lookup_cons, ih]
      by_cases hq : q = other
      · simp [hq, hn]
      · have hne : (q == other) = false := by simpa using hq
        simp [hne]

theorem node?_erase (v : Volume) (directory : Place) (name : String) (q : Place) :
    (v.erase (directory ++ [name])).node? q =
      if q = directory ++ [name] then none else v.node? q := by
  cases q with
  | nil => simp
  | cons a q => exact lookup_filter_ne v.nodes (directory ++ [name]) (a :: q)

theorem node?_put (v : Volume) (directory : Place) (name : String) (node : Node) (q : Place) :
    (v.put (directory ++ [name]) node).node? q =
      if q = directory ++ [name] then some node else v.node? q := by
  cases q with
  | nil => simp
  | cons a q =>
    have hrest := lookup_filter_ne v.nodes (directory ++ [name]) (a :: q)
    by_cases hq : a :: q = directory ++ [name]
    · simp [node?, put, erase, List.lookup_append, hq, lookup_filter_ne]
    · have hne : (a :: q == directory ++ [name]) = false := by simpa using hq
      simp [node?, put, erase, List.lookup_append, List.lookup_cons, hrest, hq, hne]

/-- Everything lies in a directory. -/
def WellFormed (v : Volume) : Prop :=
  ∀ place name node, v.node? (place ++ [name]) = some node → v.node? place = some .directory

variable {v w : Volume}

theorem WellFormed.put (hv : v.WellFormed) {directory : Place} {name : String}
    (hd : v.node? directory = some .directory)
    (hn : v.node? (directory ++ [name]) ≠ some .directory) (node : Node) :
    (v.put (directory ++ [name]) node).WellFormed := by
  intro place name' node' h
  have hplace : place ≠ directory ++ [name] := by
    rintro rfl
    rw [node?_put, if_neg (by simp)] at h
    exact hn (hv _ _ _ h)
  rw [node?_put, if_neg hplace]
  rw [node?_put] at h
  split at h
  · rename_i heq
    rw [(List.append_inj' heq rfl).1]
    exact hd
  · exact hv _ _ _ h

/-- Nothing lies below a place where nothing is. -/
theorem WellFormed.below (hv : v.WellFormed) {place : Place} (h : v.node? place = none)
    (names : List String) : v.node? (place ++ names) = none := by
  induction names using List.reverseRecOn with
  | nil => simpa using h
  | append_singleton names name ih =>
    cases hn : v.node? (place ++ (names ++ [name])) with
    | none => rfl
    | some node =>
      rw [← List.append_assoc] at hn
      rw [hv _ _ _ hn] at ih
      cases ih

/-! ## Going along a path -/

theorem bind_ok {α β : Type} {x : Except IoKind α} {f : α → Except IoKind β} {b : β}
    (h : (x >>= f) = .ok b) : ∃ a, x = .ok a ∧ f a = .ok b := by
  cases x with
  | error kind => cases h
  | ok a => exact ⟨a, rfl, h⟩

/-- The directory that steps lead to, from a directory. -/
def reach (v : Volume) (here : Place) (steps : List Path.Step) : Except IoKind Place :=
  steps.foldlM v.enter here

theorem reach_cons (v : Volume) (here : Place) (step : Path.Step) (steps : List Path.Step) :
    v.reach here (step :: steps) = v.enter here step >>= (v.reach · steps) := rfl

theorem reach_append (v : Volume) (here : Place) (before after : List Path.Step) :
    v.reach here (before ++ after) = v.reach here before >>= (v.reach · after) :=
  List.foldlM_append

theorem reach_concat {here q : Place} {before : List Path.Step} {step : Path.Step}
    (h : v.reach here before = .ok q) : v.reach here (before ++ [step]) = v.enter q step := by
  rw [reach_append, h]
  exact bind_pure (v.enter q step)

theorem reach_append_ok {here place : Place} {before after : List Path.Step}
    (h : v.reach here (before ++ after) = .ok place) :
    ∃ q, v.reach here before = .ok q ∧ v.reach q after = .ok place := by
  rw [reach_append] at h
  exact bind_ok h

theorem reach_cons_ok {here place : Place} {step : Path.Step} {steps : List Path.Step}
    (h : v.reach here (step :: steps) = .ok place) :
    ∃ q, v.enter here step = .ok q ∧ v.reach q steps = .ok place := bind_ok h

/-- What a directory's name leads to from the directory that holds it. -/
theorem enter_into (v : Volume) (here : Place) (name : String) :
    v.enter here (.into name) =
      if longestName < name.utf8ByteSize then .error .invalidFilename
      else match v.node? (here ++ [name]) with
        | some .directory => .ok (here ++ [name])
        | some (.file _) => .error .notADirectory
        | none => .error .notFound := by
  unfold enter child?
  by_cases h : longestName < name.utf8ByteSize
  · simp [h, bind, Except.bind]
  · rcases hn : v.node? (here ++ [name]) with _ | (_ | _) <;> simp [h, hn, bind, Except.bind]

theorem enter_into_eq_ok_iff {here q : Place} {name : String} :
    v.enter here (.into name) = .ok q ↔
      ¬ longestName < name.utf8ByteSize ∧ q = here ++ [name] ∧ v.node? q = some .directory := by
  rw [enter_into]
  by_cases hlong : longestName < name.utf8ByteSize
  · simp [hlong]
  · rw [if_neg hlong]
    constructor
    · intro h
      split at h
      · cases h
        exact ⟨hlong, rfl, by assumption⟩
      · cases h
      · cases h
    · rintro ⟨-, rfl, hd⟩
      rw [hd]

/-- A name that is too long, or that is the name of something, leads to the same in a file system
in which the same stands there. -/
theorem enter_congr {here : Place} {step : Path.Step}
    (h : ∀ name, step = .into name → v.node? (here ++ [name]) = w.node? (here ++ [name])) :
    v.enter here step = w.enter here step := by
  cases step with
  | up => rfl
  | into name => rw [enter_into, enter_into, h name rfl]

theorem reach_congr {steps : List Path.Step}
    (h : ∀ here, ∀ step ∈ steps, v.enter here step = w.enter here step) (here : Place) :
    v.reach here steps = w.reach here steps := by
  induction steps generalizing here with
  | nil => rfl
  | cons step steps ih =>
    rw [reach_cons, reach_cons, h here step List.mem_cons_self]
    congr 1
    funext q
    exact ih (fun here step hs => h here step (List.mem_cons_of_mem _ hs)) q

/-- Steps that do not lead to a directory stop at a name that leads to none. -/
theorem exists_stop {here : Place} {steps : List Path.Step} {kind : IoKind}
    (h : v.reach here steps = .error kind) :
    ∃ before name after q, steps = before ++ .into name :: after ∧
      v.reach here before = .ok q ∧ v.enter q (.into name) = .error kind := by
  induction steps generalizing here with
  | nil => cases h
  | cons step steps ih =>
    rw [reach_cons] at h
    cases hs : v.enter here step with
    | error kind' =>
      rw [hs] at h
      cases h
      cases step with
      | up => cases hs
      | into name => exact ⟨[], name, steps, here, rfl, rfl, hs⟩
    | ok next =>
      rw [hs] at h
      obtain ⟨before, name, after, q, rfl, hq, hstop⟩ := ih h
      refine ⟨step :: before, name, after, q, rfl, ?_, hstop⟩
      rw [reach_cons, hs]
      exact hq

/-- Names lead down, each into the directory of that name. -/
theorem reach_names {here place : Place} {names : List String}
    (h : v.reach here (names.map .into) = .ok place) :
    place = here ++ names ∧ (names ≠ [] → v.node? place = some .directory) := by
  induction names generalizing here with
  | nil =>
    cases h
    simp
  | cons name names ih =>
    obtain ⟨q, hs, hq⟩ := reach_cons_ok h
    obtain ⟨-, rfl, hd⟩ := enter_into_eq_ok_iff.mp hs
    obtain ⟨hplace, hnode⟩ := ih hq
    refine ⟨by simpa using hplace, fun _ => ?_⟩
    rcases eq_or_ne names [] with rfl | hne
    · rw [hplace, List.append_nil]
      exact hd
    · exact hnode hne

/-- A place is named by names that were there before or that are on the way. -/
theorem mem_of_mem_reach {here place : Place} {steps : List Path.Step} {name : String}
    (h : v.reach here steps = .ok place) (hn : name ∈ place) :
    name ∈ here ∨ .into name ∈ steps := by
  induction steps generalizing here with
  | nil =>
    cases h
    exact .inl hn
  | cons step steps ih =>
    obtain ⟨q, hs, hq⟩ := reach_cons_ok h
    rcases ih hq with hmem | hmem
    · cases step with
      | up =>
        cases hs
        exact .inl (List.dropLast_subset _ hmem)
      | into name' =>
        obtain ⟨-, rfl, -⟩ := enter_into_eq_ok_iff.mp hs
        rcases List.mem_append.mp hmem with hmem | hmem
        · exact .inl hmem
        · exact .inr (by simp_all)
    · exact .inr (List.mem_cons_of_mem _ hmem)

theorem WellFormed.reach_directory (hv : v.WellFormed) {here place : Place}
    {steps : List Path.Step} (hd : v.node? here = some .directory)
    (h : v.reach here steps = .ok place) : v.node? place = some .directory := by
  induction steps generalizing here with
  | nil =>
    cases h
    exact hd
  | cons step steps ih =>
    obtain ⟨q, hs, hq⟩ := reach_cons_ok h
    refine ih ?_ hq
    cases step with
    | into name => exact (enter_into_eq_ok_iff.mp hs).2.2
    | up =>
      cases hs
      rcases List.eq_nil_or_concat here with rfl | ⟨front, name, rfl⟩
      · exact hd
      · rw [List.concat_eq_append, List.dropLast_concat]
        exact hv _ _ _ (by simpa using hd)

/-! ## More directories -/

/-- Every directory is still there. -/
def KeepsDirectories (v w : Volume) : Prop :=
  ∀ place, v.node? place = some .directory → w.node? place = some .directory

theorem KeepsDirectories.enter (h : v.KeepsDirectories w) {here q : Place} {step : Path.Step}
    (hq : v.enter here step = .ok q) : w.enter here step = .ok q := by
  cases step with
  | up => exact hq
  | into name =>
    obtain ⟨hlong, hname, hd⟩ := enter_into_eq_ok_iff.mp hq
    exact enter_into_eq_ok_iff.mpr ⟨hlong, hname, h _ hd⟩

theorem KeepsDirectories.reach (h : v.KeepsDirectories w) {here place : Place}
    {steps : List Path.Step} (hp : v.reach here steps = .ok place) :
    w.reach here steps = .ok place := by
  induction steps generalizing here with
  | nil => exact hp
  | cons step steps ih =>
    obtain ⟨q, hs, hq⟩ := reach_cons_ok hp
    rw [reach_cons, h.enter hs]
    exact ih hq

/-! ## The end of a path -/

/-- The steps of a path that have to lead from directory to directory. -/
def wayOf (p : Path) : List Path.Step :=
  match p.name?, p.ending with
  | some _, .plain | some _, .slash => p.steps.dropLast
  | _, _ => p.steps

/-- What a path leads to once its way has led to a directory. -/
def endOf (p : Path) (here : Place) : Target :=
  match p.name?, p.ending with
  | some name, .plain => .named here name false
  | some name, .slash => .named here name true
  | _, _ => .nameless here

def Target.place : Target → Place
  | .nameless place => place
  | .named directory name _ => directory ++ [name]

/-- The place that a path leads to, whatever is there. -/
def placeOf (v : Volume) (p : Path) : Except IoKind Place := (v.locate p).map Target.place

theorem locate_eq (v : Volume) (p : Path) :
    v.locate p =
      if !p.isSpellable then .error .invalidInput
      else if longestPath < p.size then .error .invalidFilename
      else (v.reach [] (wayOf p)).map (endOf p) := by
  unfold locate wayOf endOf reach
  cases p.name? <;> cases p.ending <;> rfl

theorem locate_ok {p : Path} {t : Target} (h : v.locate p = .ok t) :
    ∃ here, v.reach [] (wayOf p) = .ok here ∧ t = endOf p here := by
  rw [locate_eq] at h
  split at h
  · cases h
  · split at h
    · cases h
    · cases hr : v.reach [] (wayOf p) with
      | error kind => simp [hr, Except.map] at h
      | ok here =>
        rw [hr] at h
        cases h
        exact ⟨here, rfl, rfl⟩

theorem locate_of_reach_eq {p : Path} (h : v.reach [] (wayOf p) = w.reach [] (wayOf p)) :
    v.locate p = w.locate p := by
  rw [locate_eq, locate_eq, h]

theorem KeepsDirectories.locate (h : v.KeepsDirectories w) {p : Path} {t : Target}
    (ht : v.locate p = .ok t) : w.locate p = .ok t := by
  obtain ⟨here, hr, -⟩ := locate_ok ht
  rw [← locate_of_reach_eq (hr.trans (h.reach hr).symm), ht]

/-- Behind the way there is at most a name. -/
theorem steps_of_endOf {p : Path} {here directory : Place} {name : String} {slashed : Bool}
    (h : endOf p here = .named directory name slashed) :
    directory = here ∧ p.steps = wayOf p ++ [.into name] := by
  have hlast : ∀ n, p.name? = some n → p.steps = p.steps.dropLast ++ [.into n] := by
    intro n hn
    unfold Path.name? at hn
    split at hn
    · rename_i step hstep
      cases hn
      obtain ⟨front, hfront⟩ := List.getLast?_eq_some_iff.mp hstep
      rw [hfront, List.dropLast_concat]
    · cases hn
  unfold endOf at h
  unfold wayOf
  split at h
  · rename_i n hn hplain
    cases h
    simpa [hn, hplain] using hlast name hn
  · rename_i n hn hslash
    cases h
    simpa [hn, hslash] using hlast name hn
  · cases h

theorem steps_of_endOf_nameless {p : Path} {here place : Place}
    (h : endOf p here = .nameless place) : place = here ∧ p.steps = wayOf p := by
  unfold endOf at h
  unfold wayOf
  split at h
  · cases h
  · cases h
  · cases h
    exact ⟨rfl, rfl⟩

theorem locate_named {p : Path} {directory : Place} {name : String} {slashed : Bool}
    (h : v.locate p = .ok (.named directory name slashed)) :
    v.reach [] (wayOf p) = .ok directory ∧ p.steps = wayOf p ++ [.into name] := by
  obtain ⟨here, hr, ht⟩ := locate_ok h
  obtain ⟨rfl, hsteps⟩ := steps_of_endOf ht.symm
  exact ⟨hr, hsteps⟩

theorem locate_nameless {p : Path} {place : Place} (h : v.locate p = .ok (.nameless place)) :
    v.reach [] (wayOf p) = .ok place ∧ p.steps = wayOf p := by
  obtain ⟨here, hr, ht⟩ := locate_ok h
  obtain ⟨rfl, hsteps⟩ := steps_of_endOf_nameless ht.symm
  exact ⟨hr, hsteps⟩

/-- A path does not lead to anything of a name that is not on it. -/
theorem ne_of_locate {p : Path} {directory : Place} {name other : String} {slashed : Bool}
    (h : v.locate p = .ok (.named directory name slashed)) (hp : .into other ∉ p.steps)
    (place : Place) : directory ++ [name] ≠ place ++ [other] := by
  intro heq
  have hname : name = other := List.singleton_inj.mp (List.append_inj' heq rfl).2
  apply hp
  rw [(locate_named h).2, hname]
  simp

theorem wayOf_subset (p : Path) : wayOf p ⊆ p.steps := by
  unfold wayOf
  split
  · exact List.dropLast_subset _
  · exact List.dropLast_subset _
  · exact List.Subset.refl _

theorem mem_of_mem_placeOf {p : Path} {place : Place} {name : String}
    (h : v.placeOf p = .ok place) (hn : name ∈ place) : .into name ∈ p.steps := by
  cases hl : v.locate p with
  | error kind => simp [placeOf, hl, Except.map] at h
  | ok t =>
    obtain ⟨here, hr, ht⟩ := locate_ok hl
    simp only [placeOf, hl, Except.map, Except.ok.injEq] at h
    subst h
    have hway : ∀ {n}, n ∈ here → .into n ∈ p.steps := fun hmem =>
      wayOf_subset p ((mem_of_mem_reach hr hmem).resolve_left (List.not_mem_nil))
    cases t with
    | nameless place =>
      rw [Target.place, (steps_of_endOf_nameless ht.symm).1] at hn
      exact hway hn
    | named directory n slashed =>
      obtain ⟨rfl, hsteps⟩ := steps_of_endOf ht.symm
      rcases List.mem_append.mp hn with hmem | hmem
      · exact hway hmem
      · rw [hsteps, List.mem_singleton.mp hmem]
        simp

/-! ## Looking -/

theorem child?_ok {directory : Place} {name : String} {found : Option Node}
    (h : v.child? directory name = .ok found) :
    ¬ longestName < name.utf8ByteSize ∧ found = v.node? (directory ++ [name]) := by
  unfold child? at h
  split at h
  · cases h
  · cases h
    exact ⟨by assumption, rfl⟩

/-- A look along a path depends on where it leads and on what is there. -/
theorem look_congr {p : Path} (hl : v.locate p = w.locate p)
    (hn : ∀ directory name slashed, v.locate p = .ok (.named directory name slashed) →
      v.node? (directory ++ [name]) = w.node? (directory ++ [name])) :
    v.look p = w.look p := by
  unfold look
  rw [← hl]
  cases ht : v.locate p with
  | error kind => rfl
  | ok t =>
    cases t with
    | nameless place => rfl
    | named directory name slashed =>
      have hc : v.child? directory name = w.child? directory name := by
        rw [child?, child?, hn _ _ _ ht]
      simp [bind, Except.bind, hc]

/-- What a look finds stands at the place that the path leads to, or is a directory without a
name. -/
theorem look_ok {p : Path} {node : Node} (h : v.look p = .ok node) :
    ∃ t, v.locate p = .ok t ∧
      ∀ directory name slashed, t = .named directory name slashed →
        v.node? (directory ++ [name]) = some node := by
  obtain ⟨t, ht, h⟩ := bind_ok h
  refine ⟨t, ht, ?_⟩
  rintro directory name slashed rfl
  obtain ⟨found, hc, h⟩ := bind_ok h
  obtain ⟨-, rfl⟩ := child?_ok hc
  split at h
  · cases h
  · rename_i heq
    cases h
    exact heq
  · rename_i heq
    split at h
    · cases h
    · cases h
      exact heq

end ToggleSync.Volume
