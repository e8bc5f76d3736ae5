-- The order of toggles under deltas: an update that finds the name keeps the name's place, one that
-- does not find it stands at the end. So names stay distinct, what no change concerns stays as it
-- was, and what a delta brings in stands behind all of that.
import ToggleSync.Proofs.LastChange

namespace ToggleSync

/-! ## The names of a collection -/

namespace Collection

def names (c : Collection) : List String := c.toggles.map (·.name)

/-- No name stands for two toggles. -/
def HasDistinctNames (c : Collection) : Prop := c.names.Nodup

instance (c : Collection) : Decidable c.HasDistinctNames :=
  inferInstanceAs (Decidable c.names.Nodup)

theorem names_putToggle (t : Toggle) (ts : List Toggle) :
    (putToggle t ts).map (·.name) =
      if t.name ∈ ts.map (·.name) then ts.map (·.name) else ts.map (·.name) ++ [t.name] := by
  induction ts with
  | nil => simp [putToggle]
  | cons u us ih =>
    by_cases hu : u.name = t.name
    · simp [putToggle, hu]
    · have hiff : t.name ∈ (u :: us).map (·.name) ↔ t.name ∈ us.map (·.name) := by
        simp [Ne.symm hu]
      rw [putToggle, if_neg hu, List.map_cons, ih]
      simp only [hiff]
      split <;> simp

theorem putToggle_append_of_mem {t : Toggle} {front : List Toggle}
    (h : t.name ∈ front.map (·.name)) (back : List Toggle) :
    putToggle t (front ++ back) = putToggle t front ++ back := by
  induction front with
  | nil => simp at h
  | cons u us ih =>
    by_cases hu : u.name = t.name
    · simp [putToggle, hu]
    · have hus : t.name ∈ us.map (·.name) := by simpa [Ne.symm hu] using h
      simp [putToggle, hu, ih hus]

theorem putToggle_append_of_not_mem {t : Toggle} {front : List Toggle}
    (h : t.name ∉ front.map (·.name)) (back : List Toggle) :
    putToggle t (front ++ back) = front ++ putToggle t back := by
  induction front with
  | nil => rfl
  | cons u us ih =>
    rw [List.map_cons, List.mem_cons, not_or] at h
    simp [putToggle, Ne.symm h.1, ih h.2]

/-- Whoever does not look at the toggle's name sees nothing of it. -/
theorem filter_putToggle {p : Toggle → Bool} {t : Toggle}
    (hp : ∀ u : Toggle, u.name = t.name → p u = false) (ts : List Toggle) :
    (putToggle t ts).filter p = ts.filter p := by
  induction ts with
  | nil => simp [putToggle, hp t rfl]
  | cons u us ih =>
    by_cases hu : u.name = t.name
    · simp [putToggle, hu, hp t rfl, hp u hu]
    · simp [putToggle, hu, List.filter_cons, ih]

theorem mem_putToggle {t u : Toggle} {ts : List Toggle} (h : u ∈ putToggle t ts) :
    u = t ∨ u ∈ ts := by
  induction ts with
  | nil => simpa [putToggle] using h
  | cons v vs ih =>
    by_cases hv : v.name = t.name
    · simp only [putToggle, hv, if_true, List.mem_cons] at h ⊢
      exact h.imp_right .inr
    · simp only [putToggle, hv, if_false, List.mem_cons] at h ⊢
      rcases h with rfl | h
      · exact .inr (.inl rfl)
      · exact (ih h).imp_right .inr

theorem HasDistinctNames.upsert {c : Collection} (h : c.HasDistinctNames) (t : Toggle) :
    (c.upsert t).HasDistinctNames := by
  unfold HasDistinctNames names Collection.upsert
  rw [names_putToggle]
  split
  next => exact h
  next hn => exact List.nodup_append.mpr ⟨h, by simp, by grind⟩

theorem HasDistinctNames.remove {c : Collection} (h : c.HasDistinctNames) (gone : String) :
    (c.remove gone).HasDistinctNames :=
  h.sublist (List.filter_sublist.map _)

end Collection

/-! ## Names stay distinct -/

theorem Change.distinct_applyTo {c : Collection} {x : Change} (h : c.HasDistinctNames)
    (hx : ∀ id toggles, x = .hydration id toggles → (Collection.ofList toggles).HasDistinctNames) :
    (x.applyTo c).HasDistinctNames := by
  cases x with
  | hydration id toggles => exact hx id toggles rfl
  | updated id toggle => exact h.upsert toggle
  | removed id gone project => exact h.remove gone

theorem distinct_delta {c : Collection} {changes : List Change} (h : c.HasDistinctNames)
    (hx : ∀ id toggles, .hydration id toggles ∈ changes →
      (Collection.ofList toggles).HasDistinctNames) :
    ((Update.delta changes).applyTo c).HasDistinctNames := by
  induction changes using List.reverseRecOn with
  | nil => exact h
  | append_singleton changes x ih =>
    rw [applyTo_snoc]
    apply Change.distinct_applyTo
    · exact ih fun id toggles hm => hx id toggles (List.mem_append_left _ hm)
    · rintro id toggles rfl
      exact hx id toggles (by simp)

/-! ## What a delta removes and what it brings in -/

def Change.removes (name : String) : Change → Bool
  | .removed _ gone _ => gone == name
  | _ => false

/-- Whether any of the changes removes a name. -/
def removes (changes : List Change) (name : String) : Bool := changes.any (·.removes name)

/-- One of the changes puts in a toggle of the name while there is none. -/
def Brings (c : Collection) (changes : List Change) (name : String) : Prop :=
  ∃ earlier id t later, changes = earlier ++ .updated id t :: later ∧ t.name = name ∧
    name ∉ ((Update.delta earlier).applyTo c).names

theorem touches_snoc (changes : List Change) (x : Change) (name : String) :
    touches (changes ++ [x]) name = (touches changes name || x.concerns name) := by
  simp [touches]

theorem removes_snoc (changes : List Change) (x : Change) (name : String) :
    removes (changes ++ [x]) name = (removes changes name || x.removes name) := by
  simp [removes]

theorem removes_append_left {changes : List Change} {name : String}
    (h : removes changes name = true) (more : List Change) :
    removes (changes ++ more) name = true := by
  simpa [removes] using .inl (by simpa [removes] using h)

theorem Brings.append {c : Collection} {changes : List Change} {name : String}
    (h : Brings c changes name) (more : List Change) : Brings c (changes ++ more) name := by
  obtain ⟨earlier, id, t, later, rfl, ht, hn⟩ := h
  exact ⟨earlier, id, t, later ++ more, by simp, ht, hn⟩

theorem Brings.touches {c : Collection} {changes : List Change} {name : String}
    (h : Brings c changes name) : touches changes name = true := by
  obtain ⟨earlier, id, t, later, rfl, rfl, -⟩ := h
  simp [ToggleSync.touches, Change.concerns]

/-! ## Kept toggles before added ones -/

/-- After changes without a new start the toggles are first those kept from before, in their order,
and then those that the changes brought in. -/
structure Arranged (c : Collection) (changes : List Change) (kept added : List Toggle) : Prop where
  toggles : ((Update.delta changes).applyTo c).toggles = kept ++ added
  names : kept.map (·.name) = c.names.filter (!removes changes ·)
  untouched : kept.filter (!touches changes ·.name) = c.toggles.filter (!touches changes ·.name)
  brought : ∀ t ∈ added, Brings c changes t.name

theorem Arranged.nil (c : Collection) : Arranged c [] c.toggles [] where
  toggles := (List.append_nil _).symm
  names := (List.filter_eq_self.mpr (by simp [removes])).symm
  untouched := rfl
  brought := by simp

/-- Toggles that one more change does not concern are looked for among those before it. -/
theorem filter_untouched_snoc (changes : List Change) (x : Change) (ts : List Toggle) :
    ts.filter (!touches (changes ++ [x]) ·.name) =
      (ts.filter (!touches changes ·.name)).filter (!x.concerns ·.name) := by
  rw [List.filter_filter]
  congr 1
  funext t
  rw [touches_snoc, Bool.not_or, Bool.and_comm]

theorem Arranged.updated {c : Collection} {changes : List Change} {kept added : List Toggle}
    (h : Arranged c changes kept added) (id : UInt64) (t : Toggle) :
    ∃ kept' added', Arranged c (changes ++ [.updated id t]) kept' added' := by
  have hremoves : ∀ name, removes (changes ++ [.updated id t]) name = removes changes name := by
    simp [removes_snoc, Change.removes]
  have hput : ((Update.delta (changes ++ [.updated id t])).applyTo c).toggles =
      Collection.putToggle t (kept ++ added) := by
    rw [applyTo_snoc, ← h.toggles]
    rfl
  by_cases hk : t.name ∈ kept.map (·.name)
  · refine ⟨Collection.putToggle t kept, added, ?_, ?_, ?_, fun u hu => (h.brought u hu).append _⟩
    · rw [hput, Collection.putToggle_append_of_mem hk]
    · rw [Collection.names_putToggle, if_pos hk, h.names]
      simp only [hremoves]
    · rw [filter_untouched_snoc, filter_untouched_snoc, ← h.untouched, List.filter_filter,
        List.filter_filter]
      apply Collection.filter_putToggle
      intro u hu
      simp [Change.concerns, hu]
  · refine ⟨kept, Collection.putToggle t added, ?_, ?_, ?_, ?_⟩
    · rw [hput, Collection.putToggle_append_of_not_mem hk]
    · rw [h.names]
      simp only [hremoves]
    · rw [filter_untouched_snoc, filter_untouched_snoc, h.untouched]
    · intro u hu
      rcases Collection.mem_putToggle hu with rfl | hu
      · -- the name stood among the added ones already, or it did not stand at all
        by_cases ha : u.name ∈ added.map (·.name)
        · obtain ⟨v, hv, hvu⟩ := List.mem_map.mp ha
          exact hvu ▸ (h.brought v hv).append _
        · refine ⟨changes, id, u, [], rfl, rfl, ?_⟩
          rw [Collection.names, h.toggles, List.map_append, List.mem_append]
          exact not_or.mpr ⟨hk, ha⟩
      · exact (h.brought u hu).append _

theorem Arranged.removed {c : Collection} {changes : List Change} {kept added : List Toggle}
    (h : Arranged c changes kept added) (id : UInt64) (gone : String) (project : Option String) :
    Arranged c (changes ++ [.removed id gone project]) (kept.filter (·.name != gone))
      (added.filter (·.name != gone)) where
  toggles := by
    rw [applyTo_snoc, ← List.filter_append, ← h.toggles]
    rfl
  names := by
    have hmap : (kept.filter (·.name != gone)).map (·.name) =
        (kept.map (·.name)).filter (· != gone) := by
      rw [List.filter_map]
      rfl
    rw [hmap, h.names, List.filter_filter]
    congr 1
    funext name
    rw [removes_snoc, Change.removes, Bool.not_or, Bool.and_comm, bne, Bool.beq_comm]
  untouched := by
    rw [filter_untouched_snoc, filter_untouched_snoc, ← h.untouched, List.filter_filter,
      List.filter_filter, List.filter_filter]
    congr 1
    funext t
    rw [Change.concerns, bne, Bool.beq_comm, Bool.and_right_comm, Bool.and_self]
  brought := fun u hu => (h.brought u (List.mem_filter.mp hu).1).append _

theorem arranged_of_no_start (c : Collection) {changes : List Change}
    (hh : ∀ x ∈ changes, x.isHydration = false) : ∃ kept added, Arranged c changes kept added := by
  induction changes using List.reverseRecOn with
  | nil => exact ⟨_, _, Arranged.nil c⟩
  | append_singleton changes x ih =>
    obtain ⟨kept, added, h⟩ := ih fun x hx => hh x (List.mem_append_left _ hx)
    cases x with
    | hydration id toggles => simpa [Change.isHydration] using hh (.hydration id toggles) (by simp)
    | updated id t => exact h.updated id t
    | removed id gone project => exact ⟨_, _, h.removed id gone project⟩

/-- What is brought in was removed before or is new, so none of the kept has its name. -/
theorem Brings.not_kept {c : Collection} {changes : List Change} {kept added : List Toggle}
    {name : String} (hb : Brings c changes name) (h : Arranged c changes kept added)
    (hh : ∀ x ∈ changes, x.isHydration = false) : name ∉ kept.map (·.name) := by
  obtain ⟨earlier, id, t, later, rfl, rfl, hn⟩ := hb
  have hearlier : ∀ x ∈ earlier, x.isHydration = false :=
    fun x hx => hh x (List.mem_append_left _ hx)
  obtain ⟨kept', added', h'⟩ := arranged_of_no_start c hearlier
  rw [Collection.names, h'.toggles, List.map_append, List.mem_append, not_or, h'.names] at hn
  rw [h.names]
  intro hk
  obtain ⟨hc, hr⟩ := List.mem_filter.mp hk
  apply hn.1
  apply List.mem_filter.mpr
  refine ⟨hc, ?_⟩
  cases he : removes earlier t.name with
  | false => rfl
  | true => simp [removes_append_left he] at hr

/-- The added toggles are none that the changes leave alone. -/
theorem Arranged.filter_added {c : Collection} {changes : List Change} {kept added : List Toggle}
    (h : Arranged c changes kept added) {ts : List Toggle} (hts : ts ⊆ added) :
    ts.filter (!touches changes ·.name) = [] := by
  apply List.filter_eq_nil_iff.mpr
  intro t ht
  simp [(h.brought t (hts ht)).touches]

theorem Arranged.filter_eq {c : Collection} {changes : List Change} {kept added : List Toggle}
    (h : Arranged c changes kept added) :
    ((Update.delta changes).applyTo c).toggles.filter (!touches changes ·.name) =
      kept.filter (!touches changes ·.name) := by
  rw [h.toggles, List.filter_append, h.filter_added (List.Subset.refl _), List.append_nil]

theorem Arranged.names_eq {c : Collection} {changes : List Change} {kept added : List Toggle}
    (h : Arranged c changes kept added) (hh : ∀ x ∈ changes, x.isHydration = false) :
    ((Update.delta changes).applyTo c).names.filter
        (fun name => c.holds name && !removes changes name) =
      c.names.filter (!removes changes ·) := by
  have holds_iff : ∀ name, c.holds name = true ↔ name ∈ c.names := by
    simp [Collection.holds, Collection.names]
  have hkept : ∀ name ∈ kept.map (·.name), (c.holds name && !removes changes name) = true := by
    intro name hk
    rw [h.names, List.mem_filter, ← holds_iff] at hk
    rw [hk.1, hk.2, Bool.and_self]
  have hadded : ∀ name ∈ added.map (·.name),
      ¬(c.holds name && !removes changes name) = true := by
    intro name ha hp
    obtain ⟨t, ht, rfl⟩ := List.mem_map.mp ha
    apply (h.brought t ht).not_kept h hh
    rw [h.names, List.mem_filter, ← holds_iff]
    simpa using hp
  rw [Collection.names, h.toggles, List.map_append, List.filter_append,
    List.filter_eq_self.mpr hkept, List.filter_eq_nil_iff.mpr hadded, List.append_nil, h.names]

/-- Where the toggles are cut at one that is not among the kept, all of the kept lie in front. -/
theorem front_of_cut {kept added front back : List Toggle} {u : Toggle}
    (hu : u.name ∉ kept.map (·.name)) (hcut : kept ++ added = front ++ u :: back) :
    ∃ mid, front = kept ++ mid ∧ mid ⊆ added := by
  rcases List.append_eq_append_iff.mp hcut with ⟨mid, rfl, rfl⟩ | ⟨rest, rfl, hrest⟩
  · exact ⟨mid, rfl, List.subset_append_left _ _⟩
  · cases rest with
    | nil => exact ⟨[], by simp, List.nil_subset _⟩
    | cons v vs =>
      rw [List.cons_append, List.cons.injEq] at hrest
      simp [hrest.1] at hu

/-- Under a delta names stay distinct if they were and if every new start in it has distinct names.
A delta without a new start leaves the toggles that it does not concern as they were and in their
order. Whatever stood before and is not removed keeps its place among the rest, whether updated or
not. A name that is put in while it is not there stands behind all toggles that the delta does not
concern. -/
theorem a_delta_keeps_names_distinct_and_toggles_in_place (c : Collection)
    (changes : List Change) :
    (c.HasDistinctNames →
      (∀ id toggles, .hydration id toggles ∈ changes →
        (Collection.ofList toggles).HasDistinctNames) →
      ((Update.delta changes).applyTo c).HasDistinctNames) ∧
    ((∀ x ∈ changes, x.isHydration = false) →
      ((Update.delta changes).applyTo c).toggles.filter (!touches changes ·.name) =
        c.toggles.filter (!touches changes ·.name) ∧
      ((Update.delta changes).applyTo c).names.filter
          (fun name => c.holds name && !removes changes name) =
        c.names.filter (!removes changes ·) ∧
      ∀ name, Brings c changes name → ∀ front u back,
        ((Update.delta changes).applyTo c).toggles = front ++ u :: back → u.name = name →
        front.filter (!touches changes ·.name) = c.toggles.filter (!touches changes ·.name)) := by
  refine ⟨distinct_delta, fun hh => ?_⟩
  obtain ⟨kept, added, h⟩ := arranged_of_no_start c hh
  refine ⟨h.filter_eq.trans h.untouched, h.names_eq hh, ?_⟩
  rintro _ hb front u back hcut rfl
  rw [h.toggles] at hcut
  obtain ⟨mid, rfl, hmid⟩ := front_of_cut (hb.not_kept h hh) hcut
  rw [List.filter_append, h.filter_added hmid, List.append_nil, h.untouched]

/-- "alpha" is removed and comes back, "beta" is updated, "delta" is new: nothing passes "beta" and
"gamma". -/
theorem a_toggle_that_comes_back_stands_last :
    let c : Collection := ⟨2, [.bare "alpha" true, .bare "beta" false, .bare "gamma" true]⟩
    let changes : List Change := [.updated 1 (.bare "delta" true), .removed 2 "alpha" none,
      .updated 3 (.bare "alpha" false), .updated 4 (.bare "beta" true)]
    c.HasDistinctNames ∧ (∀ x ∈ changes, x.isHydration = false) ∧ Brings c changes "alpha" ∧
      ((Update.delta changes).applyTo c).names = ["beta", "gamma", "delta", "alpha"] ∧
      ((Update.delta changes).applyTo c).HasDistinctNames ∧
      [Toggle.bare "beta" true, .bare "gamma" true, .bare "delta" true].filter
          (!touches changes ·.name) =
        c.toggles.filter (!touches changes ·.name) := by
  intro c changes
  have hc : c.HasDistinctNames := by decide
  have hh : ∀ x ∈ changes, x.isHydration = false := by decide
  have hb : Brings c changes "alpha" :=
    ⟨[.updated 1 (.bare "delta" true), .removed 2 "alpha" none], 3, .bare "alpha" false, _, rfl,
      rfl, by decide⟩
  obtain ⟨hdistinct, horder⟩ := a_delta_keeps_names_distinct_and_toggles_in_place c changes
  refine ⟨hc, hh, hb, by decide, hdistinct hc ?_, ?_⟩
  · intro id toggles hm
    simpa [Change.isHydration] using hh _ hm
  · exact (horder hh).2.2 "alpha" hb _ (.bare "alpha" false) [] (by decide) rfl

end ToggleSync
