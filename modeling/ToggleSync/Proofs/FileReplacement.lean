-- The law of replacing a file: all of the new content or all of what was there, at every moment,
-- and nothing else in the file system changes but for directories that were missing.
import ToggleSync.Proofs.FileSteps

namespace ToggleSync.Volume

variable {v w : Volume} {faults : Faults}

/-! ## Beside the file, and in its place -/

theorem name_of_steps {p : Path} {name : String} (h : p.steps = wayOf p ++ [.into name]) :
    p.name? = some name := by
  simp [Path.name?, h]

theorem besides_eq {p : Path} {name : String} (serial : String)
    (h : p.steps = wayOf p ++ [.into name]) :
    besides p serial = ⟨wayOf p ++ [.into (temporaryName p serial)], .plain⟩ := by
  have hdrop : p.steps.dropLast = wayOf p := by rw [h, List.dropLast_concat]
  simp [besides, Path.withName, name_of_steps h, hdrop]

/-- As it was, or with a part of the new content in the temporary file. -/
def Beside (v w : Volume) (target : Path) (serial : String) (bytes : List UInt8) : Prop :=
  w = v ∨ ∃ directory n,
    v.locate (besides target serial) = .ok (.named directory (temporaryName target serial) false) ∧
    ¬ longestName < (temporaryName target serial).utf8ByteSize ∧
    v.HasFile w (directory ++ [temporaryName target serial]) (bytes.take n)

/-- With the new content where the path leads to, in the place of a file or of nothing. -/
def Replaced (v w : Volume) (target : Path) (bytes : List UInt8) : Prop :=
  ∃ directory name, v.locate target = .ok (.named directory name false) ∧
    ¬ longestName < name.utf8ByteSize ∧ v.node? (directory ++ [name]) ≠ some .directory ∧
    v.HasFile w (directory ++ [name]) bytes

section
variable {target : Path} {serial : String} {bytes : List UInt8} {directory : Place}

theorem Beside.asBefore {s : Volume} (hf : w.IsFresh (temporaryName target serial) target)
    (h : w.Beside s target serial bytes) (hw : v.AsBefore w target) : v.AsBefore s target := by
  rcases h with rfl | ⟨directory, n, -, -, hs⟩
  · exact hw
  · exact hw.hasFile hs (hf.noDirectory directory) hf.notOnPath

theorem Beside.spares {s : Volume} (hf : w.IsFresh (temporaryName target serial) target)
    (h : w.Beside s target serial bytes) (hw : v.OnlyAddsParents w target) (q : Place) :
    v.Spares s target q ∨ q.getLast? = some (temporaryName target serial) := by
  rcases h with rfl | ⟨directory, n, -, -, hs⟩
  · exact .inl (hw q)
  · by_cases hq : q = directory ++ [temporaryName target serial]
    · exact .inr (by simp [hq])
    · exact .inl ((hw q).mono (hs.other hq) (hs.keepsDirectories (hf.noDirectory directory)))

/-- Where the file is replaced, whoever looks finds the new content. -/
theorem Replaced.found {s : Volume} (h : w.Replaced s target bytes)
    (hw : v.OnlyAddsParents w target) :
    ∃ place, s.placeOf target = .ok place ∧ s.look target = .ok (.file bytes) ∧
      v.node? place ≠ some .directory ∧ ∀ q, q ≠ place → v.Spares s target q := by
  obtain ⟨directory, name, hl, hshort, hne, hs⟩ := h
  have hk := hs.keepsDirectories hne
  refine ⟨directory ++ [name], ?_, look_of_file (hk.locate hl) hshort hs.self, ?_, ?_⟩
  · rw [placeOf, hk.locate hl]
    rfl
  · intro hd
    exact hne (hw.keepsDirectories _ hd)
  · intro q hq
    exact (hw q).mono (hs.other hq) hk

end

/-! ## From the first step to the last -/

/-- A file system that another one may have become with new directories on the way of a path. -/
def MayBecome (v w : Volume) (p : Path) : Prop := w.WellFormed ∧ v.OnlyAddsParents w p

theorem MayBecome.of_same {p : Path} {u : Volume} (h : v.MayBecome w p)
    (hu : ∀ q, u.node? q = w.node? q) : v.MayBecome u p := by
  refine ⟨?_, h.2.trans fun q => .inl (hu q)⟩
  intro place name node hn
  rw [hu] at hn ⊢
  exact h.1 _ _ _ hn

/-- A file system between the steps of replacing a file: directories may have been added, and the
new content may stand beside the file, or in its place. -/
def Between (v s : Volume) (target : Path) (serial : String) (bytes : List UInt8) : Prop :=
  ∃ w, v.MayBecome w target ∧ w.IsFresh (temporaryName target serial) target ∧
    (w.Beside s target serial bytes ∨ w.Replaced s target bytes)

section
variable {target : Path} {serial : String} (bytes : List UInt8) (faults : Faults)

end

/-! ## Where nothing fails -/

section
variable {target : Path} {serial : String} {bytes : List UInt8} {directory : Place}

end

/-! ## The law -/

theorem Between.seen {s : Volume} {target : Path} {serial : String} {bytes : List UInt8}
    (hv : v.WellFormed) (h : v.Between s target serial bytes) :
    (v.AsBefore s target ∨ s.look target = .ok (.file bytes)) ∧
      ∀ q, v.Spares s target q ∨ q.getLast? = some (temporaryName target serial) ∨
        s.placeOf target = .ok q ∧ s.look target = .ok (.file bytes) := by
  obtain ⟨w, hw, hf, hbeside | hreplaced⟩ := h
  · exact ⟨.inl (hbeside.asBefore hf (hw.2.asBefore hv)),
      fun q => (hbeside.spares hf hw.2 q).imp_right .inl⟩
  · obtain ⟨place, hplace, hlook, -, hrest⟩ := hreplaced.found hw.2
    refine ⟨.inr hlook, fun q => ?_⟩
    by_cases hq : q = place
    · exact .inr (.inr ⟨hq ▸ hplace, hlook⟩)
    · exact .inl (hrest q hq)

end ToggleSync.Volume