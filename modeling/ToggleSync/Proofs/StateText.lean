-- The text of a state is read back as that state: every collection and every list of changes, in
-- its own shape, and so the toggles that one engine writes are the toggles that another takes.
import ToggleSync.Engine
import ToggleSync.Proofs.JsonText

namespace ToggleSync

open Json

/-! ## What is written fits -/

namespace Json

theorem fits_ofUInt32 (depth : Nat) (n : UInt32) : (Value.ofUInt32 n).Fits depth := by
  have hlt : n.toNat < UInt64.size := Nat.lt_trans n.toNat_lt_size (by decide)
  cases depth <;> exact hlt

theorem fits_ofUInt64 (depth : Nat) (n : UInt64) : (Value.ofUInt64 n).Fits depth := by
  have hlt : n.toNat < UInt64.size := n.toNat_lt_size
  cases depth <;> exact hlt

theorem fits_text (depth : Nat) (s : String) : (Value.text s).Fits depth := by
  cases depth <;> trivial

theorem fits_bool (depth : Nat) (b : Bool) : (Value.bool b).Fits depth := by
  cases depth <;> trivial

theorem fits_array {α : Type} {depth : Nat} {write : α → Value}
    (h : ∀ a, (write a).Fits depth) (as : List α) :
    (Value.array (as.map write)).Fits (depth + 1) := by
  intro v hv
  obtain ⟨a, _, rfl⟩ := List.mem_map.mp hv
  exact h a

theorem fits_memberOf {α : Type} {depth : Nat} {name : String} {write : α → Value}
    (h : ∀ a, (write a).Fits depth) (a : Option α) :
    ∀ m ∈ memberOf name write a, m.2.Fits depth := by
  intro m hm
  cases a with
  | none => cases hm
  | some a =>
    obtain rfl := List.mem_singleton.mp hm
    exact h a

/-- A value that fits has no broken part. -/
theorem isSound_of_fits {depth : Nat} {v : Value} (h : v.Fits depth) : v.isSound = true := by
  induction depth generalizing v with
  | zero => cases v <;> first | rfl | exact absurd h (by simp [Value.Fits])
  | succ depth ih =>
    cases v with
    | array vs =>
      have hall : ∀ v ∈ vs, v.Fits depth := h
      rw [Value.isSound]
      induction vs with
      | nil => rfl
      | cons v vs ihs =>
        rw [itemsSound, ih (hall v List.mem_cons_self), Bool.true_and]
        exact ihs (fun w hw => hall w (List.mem_cons_of_mem _ hw))
          (fun w hw => hall w (List.mem_cons_of_mem _ hw))
    | object ms =>
      have hall : ∀ m ∈ ms, m.2.Fits depth := h
      rw [Value.isSound]
      induction ms with
      | nil => rfl
      | cons m ms ihs =>
        rw [membersSound, ih (hall m List.mem_cons_self), Bool.true_and]
        exact ihs (fun w hw => hall w (List.mem_cons_of_mem _ hw))
          (fun w hw => hall w (List.mem_cons_of_mem _ hw))
    | null => rfl
    | bool b => rfl
    | natural n => rfl
    | text s => rfl
    | number literal => exact absurd h (by simp [Value.Fits])
    | broken => exact absurd h (by simp [Value.Fits])

end Json

theorem fits_payload (depth : Nat) (p : Payload) : p.toValue.Fits (depth + 1) := by
  intro m hm
  simp only [List.mem_cons, List.not_mem_nil, or_false] at hm
  rcases hm with rfl | rfl <;> exact fits_text _ _

theorem fits_weightedVariant (depth : Nat) (w : WeightedVariant) :
    w.toValue.Fits (depth + 2) := by
  intro m hm
  simp only [List.mem_append, List.mem_cons, List.not_mem_nil, or_false] at hm
  rcases hm with ((rfl | rfl) | hm) | hm
  · exact fits_text _ _
  · exact fits_ofUInt32 _ _
  · exact fits_memberOf (fits_text _) _ m hm
  · exact fits_memberOf (fits_payload _) _ m hm

theorem fits_toggle (depth : Nat) (t : Toggle) : t.toValue.Fits (depth + 4) := by
  intro m hm
  simp only [List.mem_append, List.mem_cons, List.not_mem_nil, or_false] at hm
  rcases hm with (((rfl | rfl) | hm) | hm) | rfl | rfl
  · exact fits_text _ _
  · exact fits_bool _ _
  · exact fits_memberOf (fits_text _) _ m hm
  · exact fits_memberOf (fits_text _) _ m hm
  · exact fits_bool _ _
  · exact fits_array (fits_weightedVariant depth) _

theorem fits_collection (depth : Nat) (c : Collection) : c.toValue.Fits (depth + 6) := by
  intro m hm
  simp only [List.mem_cons, List.not_mem_nil, or_false] at hm
  rcases hm with rfl | rfl
  · exact fits_ofUInt32 _ _
  · exact fits_array (fits_toggle depth) _

theorem fits_change (depth : Nat) (c : Change) : c.toValue.Fits (depth + 6) := by
  cases c with
  | hydration id toggles =>
    intro m hm
    simp only [List.mem_cons, List.not_mem_nil, or_false] at hm
    rcases hm with rfl | rfl | rfl
    · exact fits_text _ _
    · exact fits_ofUInt64 _ _
    · exact fits_array (fits_toggle depth) _
  | updated id toggle =>
    intro m hm
    simp only [List.mem_cons, List.not_mem_nil, or_false] at hm
    rcases hm with rfl | rfl | rfl
    · exact fits_text _ _
    · exact fits_ofUInt64 _ _
    · exact fits_toggle (depth + 1) toggle
  | removed id name project =>
    intro m hm
    simp only [List.mem_cons, List.not_mem_nil, or_false] at hm
    rcases hm with rfl | rfl | rfl | rfl
    · exact fits_text _ _
    · exact fits_ofUInt64 _ _
    · exact fits_text _ _
    · cases project with
      | none => trivial
      | some p => exact fits_text _ _

theorem fits_update (u : Update) : u.toValue.Fits maxDepth := by
  cases u with
  | full c => exact fits_collection 121 c
  | delta changes =>
    intro m hm
    simp only [List.mem_cons, List.not_mem_nil, or_false] at hm
    subst hm
    exact fits_array (fits_change 119) changes

/-! ## What is written is read -/

namespace Json

theorem uint32?_ofUInt32 (n : UInt32) : (Value.ofUInt32 n).uint32? = some n := by
  simp only [Value.ofUInt32, Value.uint32?, n.toNat_lt_size, if_true, UInt32.ofNat_toNat]

theorem uint64?_ofUInt64 (n : UInt64) : (Value.ofUInt64 n).uint64? = some n := by
  simp only [Value.ofUInt64, Value.uint64?, n.toNat_lt_size, if_true, UInt64.ofNat_toNat]

theorem list?_map {α : Type} {read : Value → Option α} {write : α → Value}
    (h : ∀ a, read (write a) = some a) (as : List α) :
    (Value.array (as.map write)).list? read = some as := by
  unfold Value.list?
  induction as with
  | nil => rfl
  | cons a as ih =>
    simp only [List.map_cons, List.mapM_cons, h, ih]
    rfl

end Json

theorem ofValue?_weightedVariant (w : WeightedVariant) :
    WeightedVariant.ofValue? w.toValue = some w := by
  obtain ⟨name, weight, stickiness, payload⟩ := w
  have hweight := uint32?_ofUInt32 weight
  have hread : WeightedVariant.ofValue?
      (WeightedVariant.toValue ⟨name, weight, stickiness, payload⟩) =
      (Value.ofUInt32 weight).uint32?.bind fun w => some ⟨name, w, stickiness, payload⟩ := by
    cases stickiness <;> cases payload <;> rfl
  rw [hread, hweight]
  rfl

theorem ofValue?_toggle (t : Toggle) : Toggle.ofValue? t.toValue = some t := by
  obtain ⟨name, enabled, project, description, impressionData, variants⟩ := t
  have hvariants := list?_map ofValue?_weightedVariant variants
  have hread : Toggle.ofValue?
      (Toggle.toValue ⟨name, enabled, project, description, impressionData, variants⟩) =
      ((Value.array (variants.map WeightedVariant.toValue)).list? WeightedVariant.ofValue?).bind
        fun vs => some ⟨name, enabled, project, description, impressionData, vs⟩ := by
    cases project <;> cases description <;> rfl
  rw [hread, hvariants]
  rfl

theorem ofValue?_collection (c : Collection) : Collection.ofValue? c.toValue = some c := by
  obtain ⟨version, toggles⟩ := c
  have hread : Collection.ofValue? (Collection.toValue ⟨version, toggles⟩) =
      (Value.ofUInt32 version).uint32?.bind fun v =>
        ((Value.array (toggles.map Toggle.toValue)).list? Toggle.ofValue?).bind fun ts =>
          some ⟨v, ts⟩ := rfl
  rw [hread, uint32?_ofUInt32, list?_map ofValue?_toggle]
  rfl

theorem ofValue?_change (tagging : Tagging) (c : Change) :
    Change.ofValue? tagging c.toValue = some c := by
  have hsound : c.toValue.isSound = true := isSound_of_fits (fits_change 0 c)
  unfold Change.ofValue?
  rw [hsound]
  cases c with
  | hydration id toggles =>
    show ((Value.ofUInt64 id).uint64?.bind fun id =>
      ((Value.array (toggles.map Toggle.toValue)).list? Toggle.ofValue?).bind fun ts =>
        some (Change.hydration id ts)) = _
    rw [uint64?_ofUInt64, list?_map ofValue?_toggle]
    rfl
  | updated id toggle =>
    show ((Value.ofUInt64 id).uint64?.bind fun id =>
      (Toggle.ofValue? toggle.toValue).bind fun t => some (Change.updated id t)) = _
    rw [uint64?_ofUInt64, ofValue?_toggle]
    rfl
  | removed id name project =>
    have hread : ∀ project : Option String,
        (Value.nullable Value.text? (nullOr .text project)).bind
          (fun p => some (Change.removed id name p)) = some (.removed id name project) := by
      intro project
      cases project <;> rfl
    show ((Value.ofUInt64 id).uint64?.bind fun id =>
      (Value.nullable Value.text? (nullOr .text project)).bind fun p =>
        some (Change.removed id name p)) = _
    rw [uint64?_ofUInt64]
    exact hread project

theorem ofValue?_update (u : Update) : Update.ofValue? u.toValue = some u := by
  cases u with
  | full c =>
    -- a collection has no events
    have hdelta : deltaOfValue? .byNameOrNumber c.toValue = none := rfl
    have hfull := ofValue?_collection c
    unfold Update.ofValue? Update.toValue
    simp only [hdelta, hfull]
    rfl
  | delta changes =>
    have hdelta : deltaOfValue? .byNameOrNumber (deltaToValue changes) = some changes :=
      list?_map (ofValue?_change .byNameOrNumber) changes
    unfold Update.ofValue? Update.toValue
    simp only [hdelta]

/-! ## The text of a state -/

/-- The text of a state begins with a brace. -/
theorem not_blank_render (u : Update) : isBlankText u.render = false := by
  have hbrace : ∀ (m : String × Value) (ms : List (String × Value)),
      isBlankText (Value.object (m :: ms)).render = false := by
    intro m ms
    simp only [isBlankText, Value.render, String.toList_ofList, Value.chars, List.cons_append,
      List.all_cons]
    rfl
  cases u with
  | full c => exact hbrace _ _
  | delta changes => exact hbrace _ _

theorem read_render (u : Update) : Update.read u.render = .ok u := by
  have hfront : Value.readFront u.render = .ok (u.toValue, []) := readFront_render (fits_update u)
  unfold Update.read
  rw [not_blank_render, hfront]
  simp only [Bool.false_eq_true, if_false, ofValue?_update]
  rfl

/-- Every state is read back from its text exactly and in its own shape: every collection and every
list of changes, whatever texts and numbers are in it. So whatever an engine holds, another one
that is given its text takes it, and then holds the same toggles. -/
theorem every_state_is_read_back_from_its_text :
    (∀ u : Update, Update.read u.render = .ok u) ∧
      ∀ writer reader : Engine,
        reader.takeState writer.state = .ok { reader with snapshot := writer.snapshot } := by
  refine ⟨read_render, ?_⟩
  intro writer reader
  have hread : Update.read writer.state = .ok (.full writer.snapshot) :=
    read_render (.full writer.snapshot)
  unfold Engine.takeState
  rw [hread]
  rfl

end ToggleSync
