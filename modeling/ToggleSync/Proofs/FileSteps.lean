-- What single steps on files do: each failure told by what makes it, each success by the change it
-- makes; and a file that was added, as paths see it that do not name it.
import ToggleSync.Proofs.MissingDirectories

namespace ToggleSync.Volume

/-! ## Steps that may fail -/

/-- What holds of a file system at every moment of some steps: one thing until the last of them is
made, another from then on. -/
structure Progress.Within (r : Progress) (before after : Volume → Prop) : Prop where
  seen : ∀ s ∈ r.seen, before s ∨ after s
  failed : r.failure ≠ none → before r.volume
  finished : r.failure = none → after r.volume

variable {v w : Volume} {faults : Faults} {before after : Volume → Prop}
  {steps : List (Step × (Volume → Except IoKind Volume))}

theorem within_nil (h : after v) : (runSteps faults [] v).Within before after :=
  ⟨by simp [runSteps], by simp [runSteps], fun _ => h⟩

theorem within_cons {step : Step} {act : Volume → Except IoKind Volume} (hv : before v)
    (h : ∀ w, act v = .ok w →
      (before w ∨ after w) ∧ (runSteps faults steps w).Within before after) :
    (runSteps faults ((step, act) :: steps) v).Within before after := by
  unfold runSteps
  cases faults.failure? step with
  | some kind => exact ⟨by simp, fun _ => hv, by simp⟩
  | none =>
    cases hact : act v with
    | error kind => exact ⟨by simp, fun _ => hv, by simp⟩
    | ok w =>
      obtain ⟨hw, hrest⟩ := h w hact
      refine ⟨?_, hrest.failed, hrest.finished⟩
      intro s hs
      rcases List.mem_cons.mp hs with rfl | hs
      · exact hw
      · exact hrest.seen s hs

/-- What every step keeps holds at every moment. -/
theorem within_of_kept (hv : before v)
    (h : ∀ s ∈ steps, ∀ v w, before v → s.2 v = .ok w → before w) :
    (runSteps faults steps v).Within before before := by
  induction steps generalizing v with
  | nil => exact within_nil hv
  | cons s steps ih =>
    refine within_cons hv fun w hact => ?_
    have hw : before w := h s List.mem_cons_self v w hv hact
    exact ⟨.inl hw, ih hw fun s hs => h s (List.mem_cons_of_mem _ hs)⟩

/-! ## Files -/

theorem putFile_ok {p : Path} {bytes : List UInt8} (h : v.putFile p bytes = .ok w) :
    ∃ directory name, v.locate p = .ok (.named directory name false) ∧
      ¬ longestName < name.utf8ByteSize ∧ v.node? (directory ++ [name]) ≠ some .directory ∧
      w = v.put (directory ++ [name]) (.file bytes) := by
  obtain ⟨t, ht, h⟩ := bind_ok h
  rcases t with place | ⟨directory, name, _ | _⟩
  · cases h
  · obtain ⟨found, hc, h⟩ := bind_ok h
    obtain ⟨hshort, hfound⟩ := child?_ok hc
    rcases found with _ | (_ | old)
    · exact ⟨directory, name, ht, hshort, by simp [← hfound], (Except.ok.inj h).symm⟩
    · cases h
    · exact ⟨directory, name, ht, hshort, by simp [← hfound], (Except.ok.inj h).symm⟩
  · cases h

theorem rename_ok {source target : Path} (h : v.rename source target = .ok w) :
    ∃ directory name slashed directory' name' bytes,
      v.locate source = .ok (.named directory name slashed) ∧
      v.locate target = .ok (.named directory' name' false) ∧
      v.node? (directory ++ [name]) = some (.file bytes) ∧
      ¬ longestName < name'.utf8ByteSize ∧ v.node? (directory' ++ [name']) ≠ some .directory ∧
      w = (v.erase (directory ++ [name])).put (directory' ++ [name']) (.file bytes) := by
  obtain ⟨t, ht, h⟩ := bind_ok h
  obtain ⟨t', ht', h⟩ := bind_ok h
  rcases t with place | ⟨directory, name, slashed⟩
  · cases h
  rcases t' with place' | ⟨directory', name', slashed'⟩
  · cases h
  obtain ⟨found, hc, h⟩ := bind_ok h
  obtain ⟨found', hc', h⟩ := bind_ok h
  obtain ⟨-, hfound⟩ := child?_ok hc
  obtain ⟨hshort', hfound'⟩ := child?_ok hc'
  rcases found with _ | (_ | bytes)
  · cases h
  · cases h
  · cases slashed' with
    | true => cases h
    | false =>
      by_cases hd : found' = some .directory
      · simp [hd] at h
      · simp only [hd, if_false, Bool.false_eq_true] at h
        exact ⟨directory, name, slashed, directory', name', bytes, ht, ht', hfound.symm, hshort',
          hfound' ▸ hd, (Except.ok.inj h).symm⟩

theorem remove_ok {p : Path} (h : v.remove p = .ok w) :
    ∃ directory name slashed bytes, v.locate p = .ok (.named directory name slashed) ∧
      v.node? (directory ++ [name]) = some (.file bytes) ∧ w = v.erase (directory ++ [name]) := by
  obtain ⟨t, ht, h⟩ := bind_ok h
  cases t with
  | nameless place => cases h
  | named directory name slashed =>
    obtain ⟨found, hc, h⟩ := bind_ok h
    obtain ⟨-, hfound⟩ := child?_ok hc
    rcases found with _ | (_ | bytes)
    · cases h
    · cases h
    · cases slashed with
      | true => cases h
      | false => exact ⟨directory, name, false, bytes, ht, hfound.symm, (Except.ok.inj h).symm⟩

theorem look_of_file {p : Path} {directory : Place} {name : String} {bytes : List UInt8}
    (hl : v.locate p = .ok (.named directory name false))
    (hshort : ¬ longestName < name.utf8ByteSize)
    (hn : v.node? (directory ++ [name]) = some (.file bytes)) : v.look p = .ok (.file bytes) := by
  simp [look, hl, child?, hshort, hn, bind, Except.bind]

/-! ## Steps that succeed -/

/-- A file system as it was, but for a file at a place. -/
def HasFile (v w : Volume) (place : Place) (bytes : List UInt8) : Prop :=
  ∀ q, w.node? q = if q = place then some (.file bytes) else v.node? q

theorem hasFile_put (v : Volume) (directory : Place) (name : String) (bytes : List UInt8) :
    v.HasFile (v.put (directory ++ [name]) (.file bytes)) (directory ++ [name]) bytes :=
  node?_put v directory name (.file bytes)

/-- The name is that of nothing, and on no step of the path. -/
structure IsFresh (v : Volume) (name : String) (p : Path) : Prop where
  nowhere : ∀ place, v.node? (place ++ [name]) = none
  notOnPath : .into name ∉ p.steps

theorem IsFresh.noDirectory {name : String} {p : Path} (hf : v.IsFresh name p) (place : Place) :
    v.node? (place ++ [name]) ≠ some .directory := by
  simp [hf.nowhere]

namespace HasFile

variable {place directory : Place} {name : String} {bytes : List UInt8} {p : Path}

theorem self (h : v.HasFile w place bytes) : w.node? place = some (.file bytes) :=
  (h place).trans (if_pos rfl)

theorem other (h : v.HasFile w place bytes) {q : Place} (hq : q ≠ place) :
    w.node? q = v.node? q := by simp [h q, hq]

theorem keepsDirectories (h : v.HasFile w place bytes) (hne : v.node? place ≠ some .directory) :
    v.KeepsDirectories w := by
  intro q hq
  rw [h.other (fun heq => hne (heq ▸ hq)), hq]

/-- A path that does not name the file leads to what it led to. -/
theorem locate_eq (h : v.HasFile w (directory ++ [name]) bytes) (hp : .into name ∉ p.steps) :
    w.locate p = v.locate p := by
  apply locate_of_reach_eq
  apply reach_congr
  intro here step hstep
  apply enter_congr
  rintro n rfl
  apply h.other
  intro heq
  have hname : n = name := List.singleton_inj.mp (List.append_inj' heq rfl).2
  exact hp (hname ▸ wayOf_subset p hstep)

/-- And what it finds there is the same. -/
theorem look_eq (h : v.HasFile w (directory ++ [name]) bytes) (hp : .into name ∉ p.steps) :
    w.look p = v.look p := by
  refine (look_congr (h.locate_eq hp).symm ?_).symm
  intro directory' name' slashed hl
  exact (h.other (ne_of_locate hl hp directory)).symm

end HasFile

theorem Spares.mono {u : Volume} {p : Path} {place : Place} (h : v.Spares w p place)
    (hsame : u.node? place = w.node? place) (hk : w.KeepsDirectories u) : v.Spares u p place := by
  rcases h with hold | ⟨hnone, hd, hway⟩
  · exact .inl (hsame.trans hold)
  · exact .inr ⟨hnone, hsame.trans hd, hway.mono hk⟩

/-- What a path leads to does not depend on a file that it does not name. -/
theorem AsBefore.hasFile {u : Volume} {p : Path} {directory : Place} {name : String}
    {bytes : List UInt8} (h : v.AsBefore w p) (hu : w.HasFile u (directory ++ [name]) bytes)
    (hne : w.node? (directory ++ [name]) ≠ some .directory) (hp : .into name ∉ p.steps) :
    v.AsBefore u p := by
  rcases h with hlook | ⟨hup, place, hplace, hspares⟩
  · exact .inl (by rw [hu.look_eq hp, hlook])
  · refine .inr ⟨hup, place, by rw [placeOf, hu.locate_eq hp]; exact hplace, ?_⟩
    refine hspares.mono (hu.other ?_) (hu.keepsDirectories hne)
    rintro rfl
    exact hp (mem_of_mem_placeOf hplace (by simp))

end ToggleSync.Volume
