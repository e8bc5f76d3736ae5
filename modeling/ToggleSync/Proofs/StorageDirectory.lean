-- The law of the storage directory. A backup is read from below it and written into it, whatever
-- the client is called, as long as the steps to its files lead down: what lies elsewhere does not
-- show, and is left as it was.
import ToggleSync.Backup.Files
import ToggleSync.Identity
import ToggleSync.Proofs.FileReplacement
import ToggleSync.Proofs.PathParts

namespace ToggleSync

namespace Volume

variable {v w u : Volume} {way : List Path.Step}

/-! ## Looking below a directory -/

/-- The way leads to the same directory, and the same lies below it. -/
structure SameBelow (v w : Volume) (way : List Path.Step) : Prop where
  reach : v.reach [] way = w.reach [] way
  below : ∀ here, v.reach [] way = .ok here →
    ∀ names, v.node? (here ++ names) = w.node? (here ++ names)

theorem reach_names_congr {here : Place} {names : List String}
    (h : ∀ below, v.node? (here ++ below) = w.node? (here ++ below)) :
    v.reach here (names.map .into) = w.reach here (names.map .into) := by
  induction names generalizing here with
  | nil => rfl
  | cons name names ih =>
    have henter : v.enter here (.into name) = w.enter here (.into name) :=
      enter_congr fun _ heq => by
        cases heq
        exact h [name]
    rw [List.map_cons, reach_cons, reach_cons, ← henter]
    cases hnext : v.enter here (.into name) with
    | error kind => rfl
    | ok next =>
      obtain ⟨-, rfl, -⟩ := enter_into_eq_ok_iff.mp hnext
      exact ih fun below => by simpa using h (name :: below)

/-- What is left of the names on a path before its end. -/
theorem exists_wayOf {p : Path} {names : List String} (h : p.steps = way ++ names.map .into)
    (hne : names ≠ []) : ∃ down : List String, wayOf p = way ++ down.map .into := by
  have hdrop : p.steps.dropLast = way ++ names.dropLast.map .into := by
    rw [h, List.dropLast_append_of_ne_nil (by simpa using hne), List.map_dropLast]
  unfold wayOf
  split
  · exact ⟨_, hdrop⟩
  · exact ⟨_, hdrop⟩
  · exact ⟨_, h⟩

/-- A look along a path that leads down from the directory. -/
theorem SameBelow.look (h : v.SameBelow w way) {p : Path} {names : List String}
    (hsteps : p.steps = way ++ names.map .into) (hne : names ≠ []) : v.look p = w.look p := by
  obtain ⟨down, hway⟩ := exists_wayOf hsteps hne
  have hreach : v.reach [] (wayOf p) = w.reach [] (wayOf p) := by
    rw [hway, reach_append, reach_append, ← h.reach]
    cases hq : v.reach [] way with
    | error kind => rfl
    | ok q => exact reach_names_congr (h.below q hq)
  refine look_congr (locate_of_reach_eq hreach) ?_
  intro directory name slashed hl
  have hdirectory := (locate_named hl).1
  rw [hway] at hdirectory
  obtain ⟨q, hq, hdown⟩ := reach_append_ok hdirectory
  obtain ⟨rfl, -⟩ := reach_names hdown
  simpa using h.below q hq (down ++ [name])

/-! ## Changing what lies in a directory -/

/-- What has changed lies in the directory that the way leads to, but for directories on the way
that were missing. -/
structure ChangesIn (v w : Volume) (way : List Path.Step) : Prop where
  keepsDirectories : v.KeepsDirectories w
  elsewhere : ∀ place, w.node? place = v.node? place ∨
    (v.node? place = none ∧ w.node? place = some .directory ∧
      ∃ n, w.reach [] (way.take n) = .ok place) ∨
    ∃ here name, w.reach [] way = .ok here ∧ place = here ++ [name]

namespace ChangesIn

theorem refl (v : Volume) (way : List Path.Step) : v.ChangesIn v way :=
  ⟨fun _ h => h, fun _ => .inl rfl⟩

theorem trans (h : v.ChangesIn w way) (h' : w.ChangesIn u way) : v.ChangesIn u way := by
  refine ⟨fun place hd => h'.keepsDirectories _ (h.keepsDirectories _ hd), fun place => ?_⟩
  have hkeep := h'.keepsDirectories
  rcases h'.elsewhere place with hsame' | ⟨hnone', hnew'⟩ | hin'
  · rcases h.elsewhere place with hsame | ⟨hnone, hd, n, hn⟩ | ⟨here, name, hhere, rfl⟩
    · exact .inl (hsame'.trans hsame)
    · exact .inr (.inl ⟨hnone, hsame'.trans hd, n, hkeep.reach hn⟩)
    · exact .inr (.inr ⟨here, name, hkeep.reach hhere, rfl⟩)
  · rcases h.elsewhere place with hsame | ⟨-, hd, -⟩ | ⟨here, name, hhere, rfl⟩
    · exact .inr (.inl ⟨hsame ▸ hnone', hnew'⟩)
    · rw [hd] at hnone'
      cases hnone'
    · exact .inr (.inr ⟨here, name, hkeep.reach hhere, rfl⟩)
  · exact .inr (.inr hin')

/-- One place in the directory gets other content, and is not that of a directory. -/
theorem of_place (hkeep : v.KeepsDirectories w) {here : Place} (hhere : v.reach [] way = .ok here)
    (h : ∀ place, (∀ name, place ≠ here ++ [name]) → w.node? place = v.node? place) :
    v.ChangesIn w way := by
  refine ⟨hkeep, fun place => ?_⟩
  by_cases hplace : ∃ name, place = here ++ [name]
  · obtain ⟨name, rfl⟩ := hplace
    exact .inr (.inr ⟨here, name, hkeep.reach hhere, rfl⟩)
  · exact .inl (h place (not_exists.mp hplace))

theorem of_onlyAddsParents {name : String} {p : Path} (hp : p.steps = way ++ [.into name])
    (h : v.OnlyAddsParents w p) : v.ChangesIn w way := by
  refine ⟨h.keepsDirectories, fun place => (h place).imp_right fun hnew => .inl ?_⟩
  obtain ⟨hnone, hd, n, hn, hr⟩ := hnew
  rw [hp] at hn hr
  rw [List.take_append_of_le_length (by simp at hn; omega)] at hr
  exact ⟨hnone, hd, n, hr⟩

theorem putFile {p : Path} {bytes : List UInt8} (hp : wayOf p = way)
    (h : v.putFile p bytes = .ok w) : v.ChangesIn w way := by
  obtain ⟨here, name, hl, -, hne, rfl⟩ := putFile_ok h
  have hhere := (locate_named hl).1
  rw [hp] at hhere
  refine of_place ((hasFile_put v here name bytes).keepsDirectories hne) hhere ?_
  intro place hplace
  rw [node?_put, if_neg (hplace name)]

theorem remove {p : Path} (hp : wayOf p = way) (h : v.remove p = .ok w) : v.ChangesIn w way := by
  obtain ⟨here, name, slashed, bytes, hl, hfile, rfl⟩ := remove_ok h
  have hhere := (locate_named hl).1
  rw [hp] at hhere
  refine of_place (fun place hd => ?_) hhere fun place hplace => ?_
  · rw [node?_erase, if_neg, hd]
    rintro rfl
    rw [hfile] at hd
    cases hd
  · rw [node?_erase, if_neg (hplace name)]

theorem rename {source target : Path} (hs : wayOf source = way) (ht : wayOf target = way)
    (h : v.rename source target = .ok w) : v.ChangesIn w way := by
  obtain ⟨here, name, slashed, here', name', bytes, hl, hl', hfile, -, hne, rfl⟩ := rename_ok h
  have hhere := (locate_named hl).1
  have hhere' := (locate_named hl').1
  rw [hs] at hhere
  rw [ht, hhere] at hhere'
  cases hhere'
  refine of_place (fun place hd => ?_) hhere fun place hplace => ?_
  · have hplace : ∀ n, (v.node? (here ++ [n]) ≠ some .directory) → place ≠ here ++ [n] := by
      rintro n hn rfl
      exact hn hd
    rw [node?_put, if_neg (hplace name' hne), node?_erase, if_neg (hplace name (by simp [hfile])),
      hd]
  · rw [node?_put, if_neg (hplace name'), node?_erase, if_neg (hplace name)]

end ChangesIn

/-! ## Replacing a file in a directory -/

section
variable {target : Path} {name : String} (bytes : List UInt8) (serial : String) (faults : Faults)

theorem wayOf_concat (way : List Path.Step) (name : String) :
    wayOf ⟨way ++ [.into name], .plain⟩ = way := by
  simp [wayOf, Path.name?]

theorem wayOf_besides (serial : String) (ht : target = ⟨way ++ [.into name], .plain⟩) :
    wayOf (besides target serial) = way := by
  subst ht
  rw [besides_eq serial (by rw [wayOf_concat]), wayOf_concat, wayOf_concat]

theorem ChangesIn.replaceStep (ht : target = ⟨way ++ [.into name], .plain⟩)
    {pauses : List Nat} {s : Step × (Volume → Except IoKind Volume)}
    (hs : s ∈ replaceSteps target (besides target serial) bytes pauses)
    (h : s.2 v = .ok w) : v.ChangesIn w way := by
  have hbeside := wayOf_besides serial ht
  rw [replaceSteps, List.cons_append, List.mem_cons, List.mem_append, writeSteps, List.mem_map] at hs
  rcases hs with rfl | ⟨n, -, rfl⟩ | hs
  · exact .putFile hbeside h
  · exact .putFile hbeside h
  · rcases List.mem_pair.mp hs with rfl | rfl
    · cases h
      exact .refl _ _
    · exact .rename hbeside (ht ▸ wayOf_concat way name) h

theorem Progress.Within.always {r : Progress} {P : Volume → Prop} (h : r.Within P P) :
    (∀ s ∈ r.seen, P s) ∧ P r.volume := by
  refine ⟨fun s hs => (h.seen s hs).elim id id, ?_⟩
  by_cases hdone : r.failure = none
  · exact h.finished hdone
  · exact h.failed hdone

theorem ChangesIn.replaceFile (v : Volume) (ht : target = ⟨way ++ [.into name], .plain⟩) :
    let r := v.replaceFile target bytes serial faults
    (∀ s ∈ r.seen, v.ChangesIn s way) ∧ v.ChangesIn r.volume way := by
  intro r
  let p := runSteps faults (replaceSteps target (besides target serial) bytes faults.pauses) v
  have hrun : p.Within (v.ChangesIn · way) (v.ChangesIn · way) :=
    within_of_kept (.refl v way) fun s hs u w hu hact =>
      hu.trans (.replaceStep bytes serial ht hs hact)
  obtain ⟨hseen, hlast⟩ := hrun.always
  have hvolume : v.ChangesIn r.volume way := by
    change v.ChangesIn (if p.failure.isNone then p.volume
      else (p.volume.remove (besides target serial)).toOption.getD p.volume) way
    split
    · exact hlast
    · cases hr : p.volume.remove (besides target serial) with
      | error kind => exact hlast
      | ok w => exact hlast.trans (.remove (wayOf_besides serial ht) hr)
  refine ⟨fun s hs => ?_, hvolume⟩
  rcases List.mem_append.mp hs with hs | hs
  · exact hseen s hs
  · exact List.mem_singleton.mp hs ▸ hvolume

/-- At every moment of replacing a file, and in the end, only its directory has changed. -/
theorem ChangesIn.writeAtomic (v : Volume) (ht : target = ⟨way ++ [.into name], .plain⟩) :
    let r := v.writeAtomic target bytes serial faults
    (∀ s ∈ r.seen, v.ChangesIn s way) ∧ v.ChangesIn r.volume way := by
  intro r
  let p := runSteps faults (v.parentSteps target) v
  have hrun : p.Within (v.OnlyAddsParents · target) (v.OnlyAddsParents · target) :=
    within_of_kept (.refl v target) fun s hs u w hu hact => hu.step hs hact
  have hsteps : target.steps = way ++ [.into name] := by rw [ht]
  obtain ⟨hseen, hlast⟩ := hrun.always
  have hmade : v.ChangesIn p.volume way := .of_onlyAddsParents hsteps hlast
  obtain ⟨hseen', hlast'⟩ := ChangesIn.replaceFile bytes serial faults p.volume ht
  cases hp : p.failure with
  | some kind =>
    have hr : r = p := by
      simp only [p] at hp
      simp only [r, p, Volume.writeAtomic, hp]
    rw [hr]
    exact ⟨fun s hs => .of_onlyAddsParents hsteps (hseen s hs), hmade⟩
  | none =>
    have hr : r = { p.volume.replaceFile target bytes serial faults with
        seen := p.seen ++ (p.volume.replaceFile target bytes serial faults).seen } := by
      simp only [p] at hp
      simp only [r, p, Volume.writeAtomic, hp]
    rw [hr]
    refine ⟨fun s hs => ?_, hmade.trans hlast'⟩
    rcases List.mem_append.mp hs with hs | hs
    · exact .of_onlyAddsParents hsteps (hseen s hs)
    · exact hmade.trans (hseen' s hs)

end

end Volume

/-! ## Loading and saving -/

namespace Backup.Store

open Volume

/-- Loading asks for nothing that is not below the directory of the files. -/
theorem loadFrom_of_sameBelow {s : Store} {directory : String} {v w : Volume}
    (hdown : ∀ slot, Path.LeadsBelow directory (s.location.path slot))
    (h : v.SameBelow w (Path.ofText directory).steps) : s.loadFrom v = s.loadFrom w := by
  have hread : s.readSlot v = s.readSlot w := by
    funext slot
    obtain ⟨names, hne, hsteps⟩ := hdown slot
    have hlook := h.look hsteps hne
    rw [readSlot, readSlot, Volume.read, Volume.read, hlook]
  rw [loadFrom, loadFrom, hread]

/-- Writing changes nothing but the directory of the files. -/
theorem writeAll_changesIn {s : Store} {way : List Path.Step} {serial : String}
    {ws : List (Slot × String)}
    (h : ∀ w ∈ ws, ∃ name, Path.ofText (s.location.path w.1) = ⟨way ++ [.into name], .plain⟩)
    (v : Volume) : v.ChangesIn (writeAll (s.writeSlot serial) v ws).medium way := by
  induction ws generalizing v with
  | nil => exact .refl v way
  | cons x ws ih =>
    obtain ⟨⟨name, hpath⟩, hws⟩ := List.forall_mem_cons.mp h
    have hfirst : v.ChangesIn (s.writeSlot serial v x.1 x.2).1 way :=
      (ChangesIn.writeAtomic (textBytes x.2) serial noFaults v hpath).2
    have hrest := hfirst.trans (ih hws (s.writeSlot serial v x.1 x.2).1)
    unfold writeAll
    rcases hwrite : s.writeSlot serial v x.1 x.2 with ⟨w, _ | failure⟩
    · rw [hwrite] at hrest
      exact hrest
    · rw [hwrite] at hfirst
      exact hfirst

end Backup.Store

/-! ## The law -/

namespace Backup

open ToggleSync.Path Volume

/-- A file of the present layout stands in the storage directory. -/
theorem ofText_path_present (dir app instanceTag version : String) {slot : Slot}
    (h : slot.isLegacy = false) :
    Path.ofText ((Location.new dir app instanceTag version).path slot) =
      ⟨(Path.ofText dir).steps ++ [.into (cleanName (slot.fileName app instanceTag version))],
        .plain⟩ := by
  rw [ofText_path, h]
  rfl

/-- Whatever a client, its instance and its version are called, and wherever backups go, the path of
each file is that of the storage directory with names behind it that lead down. Only in the earlier
layout it is not, exactly if a dot or two dots are left of the name of the application: the one
leads nowhere else, and with the other the file stands beside the storage directory. So unless the
application is called like that, a load depends on nothing but what lies below the storage
directory; and a save changes nothing outside of it in any case, at no moment and with no failure,
but that it makes directories on the way to it that are missing. -/
theorem backups_lie_below_their_directory_unless_dots_are_left_of_the_name
    (dir app instanceTag version : String) :
    let location : Location := .new dir app instanceTag version
    let way := (Path.ofText dir).steps
    (∀ slot, LiesBelow dir (location.path slot) ↔ slot.isLegacy = false ∨ ¬ IsDots app) ∧
    (∀ slot, LeadsBelow dir (location.path slot) ↔ slot.isLegacy = false ∨ cleanName app ≠ "..") ∧
    (∀ slot, slot.isLegacy = true → cleanName app = ".." → ∃ name,
      Path.ofText (location.path slot) = ⟨way ++ [.up, .into name], .plain⟩) ∧
    (∀ slot, slot.isLegacy = false → ∀ (v : Volume) bytes serial faults,
      let r := v.writeAtomic (.ofText (location.path slot)) bytes serial faults
      (∀ u ∈ r.seen, v.ChangesIn u way) ∧ v.ChangesIn r.volume way) ∧
    ∀ s : Store, s.location = location →
      (cleanName app ≠ ".." → ∀ v w : Volume, v.SameBelow w way → s.loadFrom v = s.loadFrom w) ∧
      ∀ (v : Volume) b serial, v.ChangesIn (s.saveTo v b serial).medium way := by
  intro location way
  refine ⟨liesBelow_path_iff dir app instanceTag version,
    leadsBelow_path_iff dir app instanceTag version, ?_, ?_, ?_⟩
  · intro slot hlegacy hdots
    refine ⟨cleanName (slot.fileName app instanceTag version), ?_⟩
    rw [ofText_path, hlegacy, hdots]
    rfl
  · intro slot hpresent v bytes serial faults
    exact ChangesIn.writeAtomic bytes serial faults v
      (ofText_path_present dir app instanceTag version hpresent)
  · rintro s hlocation
    refine ⟨fun hdots v w => Store.loadFrom_of_sameBelow fun slot => ?_, fun v b serial => ?_⟩
    · rw [hlocation, leadsBelow_path_iff]
      exact .inr hdots
    · apply Store.writeAll_changesIn
      intro x hx
      have hpresent : x.1.isLegacy = false := by
        rcases List.mem_pair.mp hx with rfl | rfl <;> rfl
      rw [hlocation]
      exact ⟨_, ofText_path_present dir app instanceTag version hpresent⟩

/-- A name with a slash and two dots in it is cleaned to one that leads down. Of a name that is only
a slash nothing is left, so the files of both layouts stand in the storage directory. A dot alone
stays a dot, which leads nowhere else. -/
theorem a_name_with_dots_in_it_leads_down :
    let slashed := Location.new "/cache" "a/.." "host/1" "../1"
    let bare := Location.new "" "/" "host-1" "1"
    let dot := Location.new "/cache" "." "host-1" "1"
    (∀ slot, LiesBelow "/cache" (slashed.path slot)) ∧
      slashed.legacyState = "/cache/a../flags.toggles-a..-host1-..1.json" ∧
      (∀ slot, LiesBelow "" (bare.path slot)) ∧ bare.legacyTag = "flags.etag--host-1-1.txt" ∧
      (∀ slot, LeadsBelow "/cache" (dot.path slot)) ∧ ¬ LiesBelow "/cache" (dot.path .legacyTag) := by
  intro slashed bare dot
  have hslashed := (backups_lie_below_their_directory_unless_dots_are_left_of_the_name
    "/cache" "a/.." "host/1" "../1").1
  have hbare := (backups_lie_below_their_directory_unless_dots_are_left_of_the_name
    "" "/" "host-1" "1").1
  obtain ⟨hlies, hleads, -⟩ := backups_lie_below_their_directory_unless_dots_are_left_of_the_name
    "/cache" "." "host-1" "1"
  exact ⟨fun slot => (hslashed slot).mpr (.inr (by decide)), by decide +kernel,
    fun slot => (hbare slot).mpr (.inr (by decide)), by decide +kernel,
    fun slot => (hleads slot).mpr (.inr (by decide)), fun h => absurd ((hlies _).mp h) (by decide)⟩

/-- A client whose name is that of the directory above. -/
def dotted : Settings :=
  { Settings.standard "host-1" "/cache" with appName := "..", apiUrl := "http:[::1]" }

/-- Where the backup of such a client lies. -/
def besideCache : Store := ⟨.new "/cache" ".." "host-1" clientLabel, none, false⟩

/-- The name of a file of such a client in the earlier layout. -/
def strayName (stem ending : String) : String :=
  stem ++ "-..-host-1-loom-flags-rust0.1.0." ++ ending

/-- A storage directory with nothing in it. -/
def bareCache : Volume := Volume.empty.put ["cache"] .directory

/-- The same with two files beside it. -/
def litteredRoot : Volume :=
  (bareCache.put [strayName "flags.toggles" "json"] (.file (textBytes "stray"))).put
    [strayName "flags.etag" "txt"] (.file (textBytes "v1"))

theorem sameBelow_litteredRoot : bareCache.SameBelow litteredRoot (Path.ofText "/cache").steps := by
  have hbare : bareCache.reach [] (Path.ofText "/cache").steps = .ok ["cache"] := by decide
  refine ⟨by decide, fun here hhere names => ?_⟩
  rw [hbare] at hhere
  cases hhere
  have hput : ∀ (v : Volume) name node, "cache" ≠ name →
      (v.put [name] node).node? (["cache"] ++ names) = v.node? (["cache"] ++ names) := by
    intro v name node hne
    refine (v.node?_put [] name node _).trans (if_neg fun h => ?_)
    exact hne (List.cons.inj h).1
  rw [litteredRoot, hput _ _ _ (by decide), hput _ _ _ (by decide)]

/-- Settings with two dots for the name are accepted. The files of the earlier layout then stand
beside the storage directory, and are loaded from there. -/
theorem a_client_named_by_dots_reads_beside_its_directory :
    dotted.validate = .ok () ∧
      besideCache.location =
        .new dotted.storageDir dotted.appName dotted.instanceTag clientLabel ∧
      besideCache.location.legacyState = "/cache/../" ++ strayName "flags.toggles" "json" ∧
      ¬ LiesBelow "/cache" (besideCache.location.path .legacyState) ∧
      ¬ LeadsBelow "/cache" (besideCache.location.path .legacyState) ∧
      bareCache.SameBelow litteredRoot (Path.ofText "/cache").steps ∧
      (besideCache.loadFrom bareCache).result = .ok .empty ∧
      (besideCache.loadFrom litteredRoot).result = .ok ⟨"stray", some "v1"⟩ := by
  have hdots : cleanName ".." = ".." := by decide
  refine ⟨by decide +kernel, rfl, by decide +kernel, ?_, ?_, sameBelow_litteredRoot,
    by decide +kernel, by decide +kernel⟩
  · refine mt (liesBelow_path_iff "/cache" ".." "host-1" clientLabel .legacyState).mp ?_
    rintro (hpresent | hname)
    · cases hpresent
    · exact hname (.inr hdots)
  · refine mt (leadsBelow_path_iff "/cache" ".." "host-1" clientLabel .legacyState).mp ?_
    rintro (hpresent | hname)
    · cases hpresent
    · exact hname hdots

end Backup

end ToggleSync
