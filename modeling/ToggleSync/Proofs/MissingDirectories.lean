-- What making the directories on the way to a file does: it adds directories that were missing, and
-- nothing else. What a path leads to stays as it was, unless the path goes back up out of a
-- directory that was missing.
import ToggleSync.Proofs.VolumePlaces

namespace ToggleSync.Volume

/-! ## Single changes -/

variable {v w : Volume}

theorem makeDirectory_ok {p : Path} (h : v.makeDirectory p = .ok w) :
    ∃ directory name slashed, v.locate p = .ok (.named directory name slashed) ∧
      ¬ longestName < name.utf8ByteSize ∧ v.node? (directory ++ [name]) = none ∧
      w = v.put (directory ++ [name]) .directory := by
  obtain ⟨t, ht, h⟩ := bind_ok h
  cases t with
  | nameless place => cases h
  | named directory name slashed =>
    obtain ⟨found, hc, h⟩ := bind_ok h
    obtain ⟨hshort, hfound⟩ := child?_ok hc
    cases found with
    | some node => cases h
    | none => exact ⟨directory, name, slashed, ht, hshort, hfound.symm, (Except.ok.inj h).symm⟩

theorem ensureDirectory_ok {p : Path} (h : ensureDirectory p v = .ok w) :
    w = v ∨ v.makeDirectory p = .ok w := by
  unfold ensureDirectory at h
  cases hm : v.makeDirectory p with
  | ok u =>
    rw [hm] at h
    exact .inr h
  | error kind =>
    simp only [hm] at h
    split at h
    · cases h
      exact .inl rfl
    · cases h

/-- The directory that a path leads into is there. -/
theorem WellFormed.directory_of_locate (hv : v.WellFormed) {p : Path} {directory : Place}
    {name : String} {slashed : Bool} (h : v.locate p = .ok (.named directory name slashed)) :
    v.node? directory = some .directory := by
  exact hv.reach_directory rfl (locate_named h).1

theorem WellFormed.makeDirectory (hv : v.WellFormed) {p : Path} (h : v.makeDirectory p = .ok w) :
    w.WellFormed := by
  obtain ⟨directory, name, slashed, hl, -, hnone, rfl⟩ := makeDirectory_ok h
  exact hv.put (hv.directory_of_locate hl) (by simp [hnone]) _

/-! ## Directories that were missing -/

/-- A directory on the way to what a path leads to. -/
def OnTheWay (v : Volume) (p : Path) (place : Place) : Prop :=
  ∃ n < p.steps.length, v.reach [] (p.steps.take n) = .ok place

/-- Nothing was at the place, and now it is one of the directories on the way of the path. -/
def IsNewParent (v w : Volume) (p : Path) (place : Place) : Prop :=
  v.node? place = none ∧ w.node? place = some .directory ∧ w.OnTheWay p place

/-- What was at the place is there, or it is a new directory on the way of the path. -/
def Spares (v w : Volume) (p : Path) (place : Place) : Prop :=
  w.node? place = v.node? place ∨ v.IsNewParent w p place

/-- Nothing has changed, but for new directories on the way of the path. -/
def OnlyAddsParents (v w : Volume) (p : Path) : Prop := ∀ place, v.Spares w p place

theorem OnTheWay.mono {p : Path} {place : Place} (h : v.OnTheWay p place)
    (hk : v.KeepsDirectories w) : w.OnTheWay p place := by
  obtain ⟨n, hn, hr⟩ := h
  exact ⟨n, hn, hk.reach hr⟩

namespace OnlyAddsParents

variable {u : Volume} {p : Path}

theorem refl (v : Volume) (p : Path) : v.OnlyAddsParents v p := fun _ => .inl rfl

theorem keepsDirectories (h : v.OnlyAddsParents w p) : v.KeepsDirectories w := by
  intro place hd
  rcases h place with hsame | hnew
  · rw [hsame, hd]
  · exact hnew.2.1

theorem trans (h : v.OnlyAddsParents w p) (h' : w.OnlyAddsParents u p) :
    v.OnlyAddsParents u p := by
  intro place
  rcases h' place with hsame' | hnew'
  · rcases h place with hsame | hnew
    · exact .inl (hsame'.trans hsame)
    · exact .inr ⟨hnew.1, hsame'.trans hnew.2.1, hnew.2.2.mono h'.keepsDirectories⟩
  · rcases h place with hsame | hnew
    · exact .inr ⟨hsame ▸ hnew'.1, hnew'.2⟩
    · exact absurd hnew'.1 (by simp [hnew.2.1])

end OnlyAddsParents

/-- A directory that is made on the way of a path is new, and on the way. -/
theorem makeDirectory_onlyAddsParents {p : Path} {n : Nat} (hn : n < p.steps.length)
    (h : v.makeDirectory ⟨p.steps.take n, .plain⟩ = .ok w) : v.OnlyAddsParents w p := by
  obtain ⟨directory, name, slashed, hl, hshort, hnone, rfl⟩ := makeDirectory_ok h
  obtain ⟨hr, hsteps⟩ := locate_named hl
  intro place
  by_cases hp : place = directory ++ [name]
  · subst hp
    have hkeep : v.KeepsDirectories (v.put (directory ++ [name]) .directory) := by
      intro q hq
      rw [node?_put]
      split
      · rfl
      · exact hq
    have hmade : (v.put (directory ++ [name]) .directory).node? (directory ++ [name]) =
        some .directory := by simp [node?_put]
    refine .inr ⟨hnone, hmade, n, hn, ?_⟩
    change p.steps.take n = _ at hsteps
    rw [hsteps, reach_concat (hkeep.reach hr)]
    exact enter_into_eq_ok_iff.mpr ⟨hshort, rfl, hmade⟩
  · exact .inl (by rw [node?_put, if_neg hp])

theorem mem_missingFrom {d : Path} {ps : List Path} (h : d ∈ v.missingFrom ps) : d ∈ ps := by
  induction ps with
  | nil => exact h
  | cons p ps ih =>
    unfold missingFrom at h
    split at h
    · rcases List.mem_append.mp h with h | h
      · exact List.mem_cons_of_mem _ (ih h)
      · exact List.mem_singleton.mp h ▸ List.mem_cons_self
    · exact List.mem_singleton.mp h ▸ List.mem_cons_self

theorem mem_parentSteps {p : Path} {s : Step × (Volume → Except IoKind Volume)}
    (h : s ∈ v.parentSteps p) :
    ∃ n < p.steps.length, s.2 = ensureDirectory ⟨p.steps.take n, .plain⟩ := by
  unfold parentSteps Path.parent? at h
  split at h
  · simp at h
  · rename_i hne
    have hpos : 0 < p.steps.length := by
      rw [List.length_pos_iff]
      simpa using hne
    simp only [Option.map_some, Option.getD_some, directorySteps, List.mem_map] at h
    obtain ⟨d, hd, rfl⟩ := h
    rcases List.mem_cons.mp (mem_missingFrom hd) with rfl | hd
    · exact ⟨p.steps.length - 1, by omega, by rw [List.dropLast_eq_take]⟩
    · simp only [Path.parents, List.mem_map, List.mem_reverse, List.mem_range,
        List.length_dropLast] at hd
      obtain ⟨n, hn, rfl⟩ := hd
      refine ⟨n, by omega, ?_⟩
      rw [List.dropLast_eq_take, List.take_take, Nat.min_eq_left (by omega)]

/-- One of the steps that make the directories on the way of a path. -/
theorem OnlyAddsParents.step {u : Volume} {p : Path}
    {s : Step × (Volume → Except IoKind Volume)} (hs : s ∈ v.parentSteps p)
    (h : v.OnlyAddsParents w p) (hact : s.2 w = .ok u) : v.OnlyAddsParents u p := by
  obtain ⟨n, hn, hs⟩ := mem_parentSteps hs
  rw [hs] at hact
  rcases ensureDirectory_ok hact with rfl | hmake
  · exact h
  · exact h.trans (makeDirectory_onlyAddsParents hn hmake)

/-- A step of the path leads back up out of a directory that is missing. -/
def GoesUpFromMissing (v : Volume) (p : Path) : Prop :=
  ∃ before after, p.steps = before ++ .up :: after ∧ v.reach [] before = .error .notFound

/-- What a path leads to is as it was: the same for everyone who looks, or, on a path that goes back
up out of a directory that was missing, at a place that has not changed but for a new directory on
the way. -/
def AsBefore (v w : Volume) (p : Path) : Prop :=
  (w.look p).toOption = (v.look p).toOption ∨
    v.GoesUpFromMissing p ∧ ∃ place, w.placeOf p = .ok place ∧ v.Spares w p place

theorem names_of_no_up {steps : List Path.Step} (h : .up ∉ steps) :
    ∃ names : List String, steps = names.map .into := by
  induction steps with
  | nil => exact ⟨[], rfl⟩
  | cons step steps ih =>
    obtain ⟨names, rfl⟩ := ih fun hmem => h (List.mem_cons_of_mem _ hmem)
    cases step with
    | up => exact absurd List.mem_cons_self h
    | into name => exact ⟨name :: names, rfl⟩

/-- A path that does not go back up out of a missing directory only goes down behind it. -/
theorem only_down {p : Path} (hup : ¬ v.GoesUpFromMissing p) {before behind : List Path.Step}
    {name : String} {q : Place} (hsteps : p.steps = before ++ .into name :: behind)
    (hbefore : v.reach [] before = .ok q) (hstop : v.enter q (.into name) = .error .notFound) :
    ∃ names : List String, behind = names.map .into := by
  apply names_of_no_up
  intro hmem
  obtain ⟨front, back, hback⟩ := List.append_of_mem hmem
  refine hup ⟨before ++ .into name :: front, back, ?_, ?_⟩
  · simp [hsteps, hback]
  · rw [reach_append, hbefore]
    change v.reach q (.into name :: front) = _
    rw [reach_cons, hstop]
    rfl

/-- What is found along a path that goes down from a directory lies below it. -/
theorem exists_node_of_look {p : Path} {node : Node} (hlook : w.look p = .ok node)
    {before : List Path.Step} {names : List String} {q : Place}
    (hsteps : p.steps = before ++ names.map .into) (hne : names ≠ [])
    (hbefore : w.reach [] before = .ok q) : ∃ found, w.node? (q ++ names) = some found := by
  obtain ⟨t, hl, hnode⟩ := look_ok hlook
  cases t with
  | nameless place =>
    obtain ⟨hway, hall⟩ := locate_nameless hl
    rw [← hall, hsteps] at hway
    obtain ⟨q', hq', hdown⟩ := reach_append_ok hway
    cases hbefore.symm.trans hq'
    obtain ⟨rfl, hfound⟩ := reach_names hdown
    exact ⟨.directory, hfound hne⟩
  | named directory n slashed =>
    obtain ⟨hway, hlast⟩ := locate_named hl
    obtain ⟨down, last, rfl⟩ : ∃ down last, names = down ++ [last] :=
      ⟨_, _, (List.dropLast_concat_getLast hne).symm⟩
    rw [hlast, List.map_append, ← List.append_assoc] at hsteps
    obtain ⟨hdown, hend⟩ := List.append_inj' hsteps rfl
    cases hend
    rw [hdown] at hway
    obtain ⟨q', hq', hdown⟩ := reach_append_ok hway
    cases hbefore.symm.trans hq'
    obtain ⟨rfl, -⟩ := reach_names hdown
    exact ⟨node, by simpa using hnode _ _ _ rfl⟩

namespace OnlyAddsParents

variable {p : Path}

/-- Along the steps that led to a directory before there is nothing new. -/
theorem directory_of_reach (h : v.OnlyAddsParents w p) (hv : v.WellFormed)
    {before : List Path.Step} {q place : Place} (hb : v.reach [] before = .ok q) {n : Nat}
    (hr : w.reach [] (before.take n) = .ok place) : v.node? place = some .directory := by
  rw [← List.take_append_drop n before] at hb
  obtain ⟨q', hq', -⟩ := reach_append_ok hb
  rw [h.keepsDirectories.reach hq'] at hr
  cases hr
  exact hv.reach_directory rfl hq'

theorem look_of_way (h : v.OnlyAddsParents w p) (hv : v.WellFormed) {here : Place}
    (hr : v.reach [] (wayOf p) = .ok here) : w.look p = v.look p := by
  have hr' : w.reach [] (wayOf p) = .ok here := h.keepsDirectories.reach hr
  refine (look_congr (locate_of_reach_eq (hr.trans hr'.symm)) ?_).symm
  intro directory name slashed hl
  obtain ⟨-, hsteps⟩ := locate_named hl
  rcases h (directory ++ [name]) with hsame | ⟨hnone, -, n, hn, hway⟩
  · exact hsame.symm
  · rw [hsteps] at hn hway
    rw [List.take_append_of_le_length (by simp at hn; omega)] at hway
    have hd := h.directory_of_reach hv hr hway
    rw [hnone] at hd
    cases hd

/-- A path that only goes down behind a directory that was there does not come by its end on the
way. -/
theorem nothing_at_end (h : v.OnlyAddsParents w p) (hv : v.WellFormed)
    {before : List Path.Step} {names : List String} {q : Place}
    (hsteps : p.steps = before ++ names.map .into) (hb : v.reach [] before = .ok q)
    (hnone : v.node? (q ++ names) = none) : w.node? (q ++ names) = none := by
  rcases h (q ++ names) with hsame | ⟨-, -, n, hn, hr⟩
  · rw [hsame, hnone]
  · rw [hsteps] at hn hr
    by_cases hle : n ≤ before.length
    · rw [List.take_append_of_le_length hle] at hr
      rw [h.directory_of_reach hv hb hr] at hnone
      cases hnone
    · rw [List.take_append, List.take_of_length_le (by omega), ← List.map_take] at hr
      obtain ⟨q', hq', hdown⟩ := reach_append_ok hr
      rw [h.keepsDirectories.reach hb] at hq'
      cases hq'
      have hlen := congrArg List.length (reach_names hdown).1
      simp at hn hlen
      omega

/-- The way of a path that stopped, and now goes on, stopped at a missing directory. -/
theorem stop_of_missing (h : v.OnlyAddsParents w p) {kind : IoKind} {here : Place}
    (hr : v.reach [] (wayOf p) = .error kind) (hway : w.reach [] (wayOf p) = .ok here) :
    ∃ before name after q, wayOf p = before ++ .into name :: after ∧ v.reach [] before = .ok q ∧
      v.node? (q ++ [name]) = none ∧ v.enter q (.into name) = .error .notFound := by
  obtain ⟨before, name, after, q, hsplit, hbefore, hstop⟩ := exists_stop hr
  rw [hsplit] at hway
  obtain ⟨q', hq', hrest⟩ := reach_append_ok hway
  rw [h.keepsDirectories.reach hbefore] at hq'
  cases hq'
  obtain ⟨next, hnext, -⟩ := reach_cons_ok hrest
  obtain ⟨hshort, rfl, hmade⟩ := enter_into_eq_ok_iff.mp hnext
  have hmissing : v.node? (q ++ [name]) = none := by
    rcases h (q ++ [name]) with hsame | hnew
    · rw [enter_into_eq_ok_iff.mpr ⟨hshort, rfl, hsame ▸ hmade⟩] at hstop
      cases hstop
    · exact hnew.1
  refine ⟨before, name, after, q, hsplit, hbefore, hmissing, ?_⟩
  rw [enter_into, if_neg hshort, hmissing]

/-- Where the way of a path stopped at a missing directory, and the path only goes down from there,
nothing is found at its end, whatever directories were added. -/
theorem no_look_of_stop (h : v.OnlyAddsParents w p) (hv : v.WellFormed)
    (hup : ¬ v.GoesUpFromMissing p) {kind : IoKind}
    (hr : v.reach [] (wayOf p) = .error kind) (node : Node) : w.look p ≠ .ok node := by
  intro hlook
  obtain ⟨t, hl, -⟩ := look_ok hlook
  obtain ⟨here, hway, -⟩ := locate_ok hl
  obtain ⟨before, name, after, q, hsplit, hbefore, hmissing, hstop⟩ := h.stop_of_missing hr hway
  obtain ⟨last, hsteps⟩ : ∃ last, p.steps = wayOf p ++ last := by
    cases t with
    | nameless place => exact ⟨[], by simpa using (locate_nameless hl).2⟩
    | named directory n slashed => exact ⟨_, (locate_named hl).2⟩
  rw [hsplit, List.append_assoc, List.cons_append] at hsteps
  obtain ⟨names, hnames⟩ := only_down hup hsteps hbefore hstop
  have hdown : p.steps = before ++ (name :: names).map .into := by
    rw [hsteps, hnames, List.map_cons]
  have hnone : v.node? (q ++ name :: names) = none := by simpa using hv.below hmissing names
  obtain ⟨found, hfound⟩ := exists_node_of_look hlook hdown (List.cons_ne_nil _ _)
    (h.keepsDirectories.reach hbefore)
  rw [h.nothing_at_end hv hdown hbefore hnone] at hfound
  cases hfound

/-- Where only missing directories on the way have been added, the path leads to what it led to. -/
theorem asBefore (h : v.OnlyAddsParents w p) (hv : v.WellFormed) : v.AsBefore w p := by
  cases hr : v.reach [] (wayOf p) with
  | ok here => exact .inl (by rw [h.look_of_way hv hr])
  | error kind =>
    have hbefore : (v.look p).toOption = none := by
      cases hlook : v.look p with
      | error kind' => rfl
      | ok node =>
        obtain ⟨t, hl, -⟩ := look_ok hlook
        obtain ⟨here, hway, -⟩ := locate_ok hl
        rw [hr] at hway
        cases hway
    cases hlook : w.look p with
    | error kind' => exact .inl (by rw [hlook, hbefore]; rfl)
    | ok node =>
      by_cases hup : v.GoesUpFromMissing p
      · obtain ⟨t, hl, -⟩ := look_ok hlook
        exact .inr ⟨hup, t.place, by rw [placeOf, hl]; rfl, h _⟩
      · exact absurd hlook (h.no_look_of_stop hv hup hr node)

end OnlyAddsParents

end ToggleSync.Volume
