-- The law of deltas: of the changes that concern a name, the last decides what a look-up of it
-- finds. A new start concerns every name. So no look-up tells whether a delta was taken once or
-- twice, or in which order deltas came that concern no name in common.
import Mathlib.Data.List.Induction
import Mathlib.Data.List.Pairwise
import ToggleSync.Delta

namespace ToggleSync

/-! ## Looking up in a changed collection -/

namespace Collection

theorem find?_putToggle (t : Toggle) (name : String) (ts : List Toggle) :
    (putToggle t ts).find? (·.name == name) =
      if t.name = name then some t else ts.find? (·.name == name) := by
  induction ts with
  | nil => by_cases h : t.name = name <;> simp [putToggle, h]
  | cons u us ih =>
    by_cases hu : u.name = t.name
    · by_cases h : t.name = name <;> simp [putToggle, hu, h]
    · by_cases h : t.name = name
      · subst h
        simpa [putToggle, hu] using ih
      · by_cases hn : u.name = name <;> simp_all [putToggle]

theorem get?_upsert (c : Collection) (t : Toggle) (name : String) :
    (c.upsert t).get? name = if t.name = name then some t else c.get? name :=
  find?_putToggle t name c.toggles

theorem get?_remove (c : Collection) (gone name : String) :
    (c.remove gone).get? name = if gone = name then none else c.get? name := by
  unfold get? remove
  rw [List.find?_filter]
  by_cases h : gone = name
  · simp [h]
  · rw [if_neg h]
    congr 1
    funext t
    by_cases ht : t.name = name
    · simpa [ht] using Ne.symm h
    · simp [ht]

end Collection

/-! ## What a change says of a name -/

namespace Change

def concerns (name : String) : Change → Bool
  | .hydration _ _ => true
  | .updated _ toggle => toggle.name == name
  | .removed _ gone _ => gone == name

/-- What a look-up of a name finds right after a change that concerns it. -/
def outcome (name : String) : Change → Option Toggle
  | .hydration _ toggles => toggles.find? (·.name == name)
  | .updated _ toggle => some toggle
  | .removed _ _ _ => none

def isHydration : Change → Bool
  | .hydration _ _ => true
  | _ => false

theorem get?_applyTo (c : Collection) (x : Change) (name : String) :
    (x.applyTo c).get? name = if x.concerns name then x.outcome name else c.get? name := by
  cases x with
  | hydration id toggles => rfl
  | updated id toggle => simpa [applyTo, concerns, outcome] using c.get?_upsert toggle name
  | removed id gone project => simpa [applyTo, concerns, outcome] using c.get?_remove gone name

theorem version_applyTo (c : Collection) (x : Change) :
    (x.applyTo c).version = if x.isHydration then stateVersion else c.version := by
  cases x <;> rfl

end Change

/-! ## Deltas -/

/-- The last of the changes that concern a name. -/
def lastOn (name : String) (changes : List Change) : Option Change :=
  (changes.filter (·.concerns name)).getLast?

/-- What a look-up finds after changes, from what it found before. -/
def lookupAfter (name : String) (changes : List Change) (before : Option Toggle) : Option Toggle :=
  match lastOn name changes with
  | some x => x.outcome name
  | none => before

theorem lookupAfter_snoc (name : String) (changes : List Change) (x : Change)
    (before : Option Toggle) :
    lookupAfter name (changes ++ [x]) before =
      if x.concerns name then x.outcome name else lookupAfter name changes before := by
  unfold lookupAfter lastOn
  by_cases h : x.concerns name <;> simp [List.filter_append, h]

theorem applyTo_snoc (c : Collection) (changes : List Change) (x : Change) :
    (Update.delta (changes ++ [x])).applyTo c =
      x.applyTo ((Update.delta changes).applyTo c) := by
  simp [Update.applyTo]

theorem get?_delta (c : Collection) (changes : List Change) (name : String) :
    ((Update.delta changes).applyTo c).get? name = lookupAfter name changes (c.get? name) := by
  induction changes using List.reverseRecOn with
  | nil => rfl
  | append_singleton changes x ih =>
    rw [applyTo_snoc, Change.get?_applyTo, lookupAfter_snoc, ih]

theorem version_delta (c : Collection) (changes : List Change) :
    ((Update.delta changes).applyTo c).version =
      if changes.any (·.isHydration) then stateVersion else c.version := by
  induction changes using List.reverseRecOn with
  | nil => rfl
  | append_singleton changes x ih =>
    rw [applyTo_snoc, Change.version_applyTo, ih, List.any_append]
    by_cases h : x.isHydration <;> simp [h]

/-- Whether any of the changes concerns a name. -/
def touches (changes : List Change) (name : String) : Bool := changes.any (·.concerns name)

theorem lookupAfter_of_untouched {changes : List Change} {name : String}
    (h : touches changes name = false) (before : Option Toggle) :
    lookupAfter name changes before = before := by
  have hnone : changes.filter (·.concerns name) = [] := by
    simpa [touches] using h
  simp [lookupAfter, lastOn, hnone]

/-- Where a change concerns the name it does not matter what was found before. -/
theorem lookupAfter_of_touched {changes : List Change} {name : String}
    (h : touches changes name = true) (before before' : Option Toggle) :
    lookupAfter name changes before = lookupAfter name changes before' := by
  have hne : changes.filter (·.concerns name) ≠ [] := by
    simpa [touches] using h
  rw [lookupAfter, lookupAfter, lastOn, List.getLast?_eq_some_getLast hne]

theorem lookupAfter_twice (name : String) (changes : List Change) (before : Option Toggle) :
    lookupAfter name changes (lookupAfter name changes before) =
      lookupAfter name changes before := by
  cases h : touches changes name with
  | true => exact lookupAfter_of_touched h _ _
  | false => rw [lookupAfter_of_untouched h]

/-- Two deltas that concern no name in common. -/
def Unrelated (d d' : List Change) : Prop :=
  ∀ name, (touches d name && touches d' name) = false

theorem lookupAfter_comm {d d' : List Change} (h : Unrelated d d') (name : String)
    (before : Option Toggle) :
    lookupAfter name d (lookupAfter name d' before) =
      lookupAfter name d' (lookupAfter name d before) := by
  have hn := h name
  cases hd : touches d name with
  | false => rw [lookupAfter_of_untouched hd, lookupAfter_of_untouched hd]
  | true =>
    have hd' : touches d' name = false := by simpa [hd] using hn
    rw [lookupAfter_of_untouched hd', lookupAfter_of_untouched hd']

/-! ## Many deltas -/

/-- A collection after deltas, each taken as a whole. -/
def Collection.afterDeltas (c : Collection) (deltas : List (List Change)) : Collection :=
  deltas.foldl (fun c changes => (Update.delta changes).applyTo c) c

theorem get?_afterDeltas (c : Collection) (deltas : List (List Change)) (name : String) :
    (c.afterDeltas deltas).get? name =
      deltas.foldl (fun before changes => lookupAfter name changes before) (c.get? name) := by
  unfold Collection.afterDeltas
  induction deltas generalizing c with
  | nil => rfl
  | cons d ds ih => rw [List.foldl_cons, ih, get?_delta, List.foldl_cons]

theorem get?_afterDeltas_of_perm (c : Collection) {deltas deltas' : List (List Change)}
    (hp : deltas.Perm deltas') (hd : deltas.Pairwise Unrelated) (name : String) :
    (c.afterDeltas deltas).get? name = (c.afterDeltas deltas').get? name := by
  rw [get?_afterDeltas, get?_afterDeltas]
  apply hp.foldl_eq'
  -- deltas commute, those with no name in common and each with itself
  let Commute (d d' : List Change) : Prop := ∀ before,
    lookupAfter name d' (lookupAfter name d before) =
      lookupAfter name d (lookupAfter name d' before)
  have : Std.Symm Commute := ⟨fun _ _ h before => (h before).symm⟩
  have hc : deltas.Pairwise Commute := by
    apply hd.imp
    intro d d' h before
    exact (lookupAfter_comm h name before).symm
  exact hc.forall_of_forall (fun _ _ _ => rfl)

/-- A full state takes the place of every collection as it is. A delta leaves each name as the last
change that concerns it says, and leaves all other names alone, also in a collection in which
names repeat; its version is 2 if it holds a new start and the one from before otherwise. Taking a
delta again changes no look-up, and neither does the order of deltas of which no two concern the
same name. -/
theorem the_last_change_of_a_name_decides (c : Collection) :
    (∀ full : Collection, (Update.full full).applyTo c = full) ∧
      (∀ changes : List Change,
        (∀ name, ((Update.delta changes).applyTo c).get? name =
          match lastOn name changes with
          | some x => x.outcome name
          | none => c.get? name) ∧
        ((Update.delta changes).applyTo c).version =
          (if changes.any (·.isHydration) then 2 else c.version) ∧
        ∀ name, ((Update.delta changes).applyTo ((Update.delta changes).applyTo c)).get? name =
          ((Update.delta changes).applyTo c).get? name) ∧
      ∀ deltas deltas' : List (List Change), deltas.Perm deltas' → deltas.Pairwise Unrelated →
        ∀ name, (c.afterDeltas deltas).get? name = (c.afterDeltas deltas').get? name := by
  refine ⟨fun _ => rfl, ?_, fun _ _ hp hd => get?_afterDeltas_of_perm c hp hd⟩
  intro changes
  refine ⟨get?_delta c changes, version_delta c changes, ?_⟩
  intro name
  rw [get?_delta, get?_delta, lookupAfter_twice]

/-- A toggle with nothing but a name and a setting. -/
def Toggle.bare (name : String) (enabled : Bool) : Toggle := ⟨name, enabled, none, none, false, []⟩

/-- One delta turns "beta" on, the other removes "alpha", which the collection holds twice, and
brings "gamma": they may come in either order. -/
theorem two_unrelated_deltas_change_places :
    let c : Collection := ⟨0, [.bare "alpha" true, .bare "beta" false, .bare "alpha" false]⟩
    let turnOn : List Change := [.updated 1 (.bare "beta" true)]
    let exchange : List Change := [.removed 2 "alpha" none, .updated 3 (.bare "gamma" true)]
    [turnOn, exchange].Perm [exchange, turnOn] ∧ [turnOn, exchange].Pairwise Unrelated ∧
      ∀ name, (c.afterDeltas [turnOn, exchange]).get? name =
        (c.afterDeltas [exchange, turnOn]).get? name := by
  intro c turnOn exchange
  have hp : [turnOn, exchange].Perm [exchange, turnOn] := List.Perm.swap _ _ _
  have hu : [turnOn, exchange].Pairwise Unrelated := by
    apply List.pairwise_pair.mpr
    intro name
    by_cases h : name = "beta"
    · subst h
      decide
    · have hb : touches turnOn name = false := by
        simpa [turnOn, touches, Change.concerns, Toggle.bare] using Ne.symm h
      rw [hb, Bool.false_and]
  exact ⟨hp, hu, (the_last_change_of_a_name_decides c).2.2 _ _ hp hu⟩

end ToggleSync
