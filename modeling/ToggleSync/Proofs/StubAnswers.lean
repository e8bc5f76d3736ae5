-- The law of the stand-in. A client reads the answers to all questions about a toggle off one
-- definition. A stand-in keeps a flag and a variant for each name, which are set apart from each
-- other; so they contradict each other exactly where a toggle was turned off after its variant had
-- been set. Where none was, the stand-in answers just as an engine does that holds its toggles.
import ToggleSync.Proofs.ClientReads
import ToggleSync.Proofs.SortedEntries
import ToggleSync.Stub

namespace ToggleSync

/-! ## Answers -/

/-- What an application gets for its questions, of a client or of what stands in for one. A context
without stickiness value takes the key `spare`. -/
structure Answers where
  isEnabled (name : String) (context : Context) (default : Bool) : Bool
  variant (name : String) (context : Context) (default : Variant) (spare : String) : Variant
  known : List KnownToggle

namespace Answers

def knows (a : Answers) (name : String) : Prop := name ∈ a.known.map (·.name)

/-- The two questions about a toggle are answered alike. -/
structure Agree (a : Answers) (name : String) : Prop where
  /-- The variant of a toggle tells whether the toggle is on, and is no real one where it is off. -/
  known : a.knows name → ∀ context default default' spare,
    let v := a.variant name context default' spare
    v.featureEnabled = a.isEnabled name context default ∧
      (a.isEnabled name context default = false → v.enabled = false)
  unknown : ¬ a.knows name → ∀ context,
    (∀ default, a.isEnabled name context default = default) ∧
      ∀ default spare, a.variant name context default spare = default

/-- The answers about a toggle are read off what is found under its name, if anything is. -/
structure ReadOff {α : Type} (a : Answers) (name : String) (found : Option α) (on : α → Bool)
    (given : α → Context → String → Variant) : Prop where
  knows : a.knows name ↔ found ≠ none
  isEnabled : ∀ context default, a.isEnabled name context default = (found.map on).getD default
  variant : ∀ context default spare,
    a.variant name context default spare = (found.map (given · context spare)).getD default

theorem ReadOff.agree_iff {α : Type} {a : Answers} {name : String} {found : Option α}
    {on : α → Bool} {given : α → Context → String → Variant} (h : a.ReadOff name found on given) :
    a.Agree name ↔ ∀ x, found = some x → ∀ context spare,
      (given x context spare).featureEnabled = on x ∧
        (on x = false → (given x context spare).enabled = false) := by
  constructor
  · rintro hagree x rfl context spare
    have hboth := hagree.known (h.knows.mpr nofun) context false (.disabled false) spare
    rw [h.isEnabled, h.variant] at hboth
    exact hboth
  · intro hall
    refine ⟨fun hknows context default default' spare => ?_, fun hknows context => ?_⟩
    · obtain ⟨x, rfl⟩ := Option.ne_none_iff_exists'.mp (h.knows.mp hknows)
      rw [h.isEnabled, h.variant]
      exact hall x rfl context spare
    · have hnone : found = none := by simpa [h.knows] using hknows
      subst hnone
      exact ⟨h.isEnabled context, h.variant context⟩

/-- The answers are those of toggles, to questions in which `fill` completes the context. -/
structure Hold (a : Answers) (c : Collection) (fill : Context → Context) : Prop where
  known : a.known = c.toggles.map fun t => ⟨t.name, t.project, t.enabled⟩
  readOff : ∀ name, a.ReadOff name (c.get? name) (·.enabled) fun t context =>
    t.variantFor (fill context)

end Answers

/-! ## Engines and clients -/

theorem Toggle.enabled_variantFor {t : Toggle} (h : t.enabled = false) (c : Context)
    (spare : String) : (t.variantFor c spare).enabled = false := by
  rw [variantFor, h]
  rfl

/-- Toggles never contradict themselves. -/
theorem Answers.Hold.agree {a : Answers} {c : Collection} {fill : Context → Context}
    (h : a.Hold c fill) (name : String) : a.Agree name :=
  (h.readOff name).agree_iff.mpr fun t _ context spare =>
    ⟨t.featureEnabled_variantFor (fill context) spare,
      fun hoff => Toggle.enabled_variantFor hoff (fill context) spare⟩

def Engine.answers (e : Engine) : Answers where
  isEnabled name _ default := ((e.isEnabled name).1.map (·.enabled)).getD default
  variant name context default spare := (e.variant name context spare).1.getD default
  known := e.known

theorem Engine.hold (e : Engine) : e.answers.Hold e.snapshot id where
  known := rfl
  readOff name :=
    { knows := by
        have hnames : e.known.map (·.name) = e.snapshot.toggles.map (·.name) := by
          rw [known, List.map_map]
          rfl
        simp [Answers.knows, answers, hnames, Collection.get?]
      isEnabled := fun context default => by
        simp only [answers, isEnabled]
        cases e.snapshot.get? name <;> rfl
      variant := fun context default spare => by
        simp only [answers, variant]
        cases e.snapshot.get? name <;> rfl }

/-- Every collection is held by an engine that was given its text. -/
theorem Engine.exists_hold (now : Instant) (c : Collection) :
    ∃ calls, ((new now).afterAll calls).answers.Hold c id := by
  let e := (new now).afterAll [.takeState (Update.full c).render]
  have hheld : e.snapshot = c := by
    rw [snapshot_afterAll, updatesOf_render]
    rfl
  have hold := e.hold
  rw [hheld] at hold
  exact ⟨_, hold⟩

def Client.answers (c : Client) : Answers where
  isEnabled name context default := (c.isEnabled name context default).2
  variant name context default spare := (c.variant name context default spare).2
  known := c.known

/-- A client adds its name and environment to the context. -/
theorem Client.hold (c : Client) : c.answers.Hold c.snapshot c.fill where
  known := rfl
  readOff name :=
    { knows := (c.mem_known_iff name).trans (not_congr (Collection.lacks_iff _ _))
      isEnabled := fun context default => congrArg Prod.snd (c.isEnabled_eq name context default)
      variant := fun context default spare =>
        congrArg Prod.snd (c.variant_eq name context default spare) }

/-! ## What a test sets -/

namespace Stub

/-- What a test does to a stand-in. -/
inductive Act
  | setEnabled (name : String) (enabled : Bool)
  | setVariant (name : String) (variant : Variant)
  | remove (name : String)
  | clear
  deriving DecidableEq, Repr

def after (s : Stub) : Act → Stub
  | .setEnabled name enabled => s.setEnabled name enabled
  | .setVariant name variant => s.setVariant name variant
  | .remove name => s.remove name
  | .clear => empty

def afterAll (s : Stub) (acts : List Act) : Stub := acts.foldl after s

namespace Act

/-- The name is that of no toggle any more. -/
def forgets (name : String) : Act → Bool
  | remove gone => gone == name
  | clear => true
  | _ => false

/-- Whether the toggle is turned on or off. Setting a variant turns it on. -/
def turned? (name : String) : Act → Option Bool
  | setEnabled n enabled => if n = name then some enabled else none
  | setVariant n _ => if n = name then some true else none
  | _ => none

def given? (name : String) : Act → Option Variant
  | setVariant n variant => if n = name then some variant else none
  | _ => none

theorem given?_of_unturned {name : String} {a : Act} (h : a.turned? name = none) :
    a.given? name = none := by
  cases a with
  | setVariant n variant => simpa [turned?, given?] using h
  | _ => rfl

end Act

/-- What was done since the toggle was last forgotten, the latest first. -/
def since (name : String) (acts : List Act) : List Act :=
  acts.reverse.takeWhile (!·.forgets name)

/-- The latest of these acts that tells something of the toggle. -/
def latest? {α : Type} (name : String) (tell : Act → Option α) (acts : List Act) : Option α :=
  (since name acts).findSome? tell

/-- How the toggle was last turned. -/
def turned? (name : String) (acts : List Act) : Option Bool := latest? name (Act.turned? name) acts

/-- The variant that the toggle was last given. -/
def given? (name : String) (acts : List Act) : Option Variant :=
  latest? name (Act.given? name) acts

theorem since_snoc (name : String) (acts : List Act) (a : Act) :
    since name (acts ++ [a]) = if a.forgets name then [] else a :: since name acts := by
  rw [since, List.reverse_append, List.reverse_singleton, List.singleton_append,
    List.takeWhile_cons]
  cases a.forgets name <;> rfl

theorem latest?_snoc {α : Type} (name : String) (tell : Act → Option α) (acts : List Act)
    (a : Act) :
    latest? name tell (acts ++ [a]) =
      if a.forgets name then none else (tell a).or (latest? name tell acts) := by
  rw [latest?, since_snoc]
  split
  · rfl
  · rw [List.findSome?_cons, latest?]
    cases tell a <;> rfl

theorem given?_of_not_turned {name : String} {acts : List Act} (h : turned? name acts = none) :
    given? name acts = none := by
  rw [turned?, latest?, List.findSome?_eq_none_iff] at h
  rw [given?, latest?, List.findSome?_eq_none_iff]
  exact fun a ha => Act.given?_of_unturned (h a ha)

theorem exists_of_latest? {α : Type} {name : String} {tell : Act → Option α} {acts : List Act}
    {x : α} (h : latest? name tell acts = some x) : ∃ a ∈ acts, tell a = some x := by
  obtain ⟨a, ha, htold⟩ := List.exists_of_findSome?_eq_some h
  exact ⟨a, List.mem_reverse.mp ((List.takeWhile_prefix _).subset ha), htold⟩

theorem mem_of_given? {name : String} {acts : List Act} {v : Variant}
    (h : given? name acts = some v) : .setVariant name v ∈ acts := by
  obtain ⟨a, ha, hgiven⟩ := exists_of_latest? h
  cases a with
  | setVariant n variant =>
    obtain ⟨rfl, rfl⟩ : n = name ∧ variant = v := by simpa [Act.given?] using hgiven
    exact ha
  | _ => cases hgiven

theorem mem_of_turned_off {name : String} {acts : List Act}
    (h : turned? name acts = some false) : .setEnabled name false ∈ acts := by
  obtain ⟨a, ha, hturned⟩ := exists_of_latest? h
  cases a with
  | setEnabled n enabled =>
    obtain ⟨rfl, rfl⟩ : n = name ∧ enabled = false := by simpa [Act.turned?] using hturned
    exact ha
  | setVariant n variant => simp [Act.turned?] at hturned
  | _ => cases hturned

/-! ## What a stand-in keeps -/

/-- One act, as it is seen under one name. -/
theorem get?_after (s : Stub) (a : Act) (name : String) :
    (s.after a).toggles.get? name =
      if a.forgets name then none
      else match a.turned? name with
        | none => s.toggles.get? name
        | some on =>
          some ⟨on, (a.given? name).or ((s.toggles.get? name).bind (·.variant))⟩ := by
  cases a with
  | setEnabled n enabled =>
    simp only [after, setEnabled, Table.update, Table.get?_put, Act.forgets, Act.turned?, Act.given?]
    by_cases hn : n = name
    · subst hn
      cases s.toggles.get? n <;> simp
    · simp [hn, Ne.symm hn]
  | setVariant n variant =>
    simp only [after, setVariant, Table.get?_put, Act.forgets, Act.turned?, Act.given?]
    by_cases hn : n = name
    · simp [hn]
    · simp [hn, Ne.symm hn]
  | remove gone =>
    simp only [after, remove, Table.get?_erase, Act.forgets, Act.turned?, beq_iff_eq,
      eq_comm (a := gone)]
  | clear => rfl

/-- Under a name stands how the toggle was last turned, with the variant it was last given. -/
theorem get?_afterAll (acts : List Act) (name : String) :
    (empty.afterAll acts).toggles.get? name =
      (turned? name acts).map fun on => ⟨on, given? name acts⟩ := by
  induction acts using List.reverseRecOn with
  | nil => rfl
  | append_singleton acts a ih =>
    have hlast : empty.afterAll (acts ++ [a]) = (empty.afterAll acts).after a := List.foldl_concat ..
    have hvariant : ((empty.afterAll acts).toggles.get? name).bind (·.variant) =
        given? name acts := by
      rw [ih]
      cases ht : turned? name acts with
      | none => exact (given?_of_not_turned ht).symm
      | some on => rfl
    rw [hlast, get?_after, hvariant, ih]
    simp only [turned?, given?, latest?_snoc]
    cases hf : a.forgets name with
    | true => rfl
    | false =>
      cases ht : a.turned? name with
      | none => simp [Act.given?_of_unturned ht]
      | some on => simp

/-- The toggle is off, and the variant that it was given while it was on is still there. -/
def Lingers (acts : List Act) (name : String) : Prop :=
  turned? name acts = some false ∧ (given? name acts).isSome

instance (acts : List Act) (name : String) : Decidable (Lingers acts name) :=
  inferInstanceAs (Decidable (_ ∧ _))

/-- A variant that is given is that of a toggle that is on. -/
def Act.givesReal : Act → Bool
  | setVariant _ variant => variant.enabled && variant.featureEnabled
  | _ => true

def GivesReal (acts : List Act) : Prop := ∀ a ∈ acts, a.givesReal = true

instance (acts : List Act) : Decidable (GivesReal acts) :=
  inferInstanceAs (Decidable (∀ a ∈ acts, _))

theorem GivesReal.given {acts : List Act} (h : GivesReal acts) {name : String} {v : Variant}
    (hv : given? name acts = some v) : v.enabled = true ∧ v.featureEnabled = true := by
  have hreal := h _ (mem_of_given? hv)
  rwa [Act.givesReal, Bool.and_eq_true] at hreal

/-! ## What a stand-in answers -/

def answers (s : Stub) : Answers where
  isEnabled name _ default := s.isEnabled name default
  variant name _ default _ := s.variant name default
  known := s.known

/-- The variant that an entry answers with. -/
def Entry.shown (e : Entry) : Variant := e.variant.getD (.disabled e.enabled)

theorem mem_known_iff (s : Stub) (name : String) :
    name ∈ s.known.map (·.name) ↔ s.toggles.get? name ≠ none := by
  have hnames : s.known.map (·.name) = s.toggles.sorted.map Prod.fst := by
    rw [known, List.map_map]
    rfl
  rw [hnames, (s.toggles.perm_sorted.map Prod.fst).mem_iff, Option.ne_none_iff_exists',
    List.mem_map]
  simp only [Table.get?_eq_some_iff, Prod.exists, exists_and_right, exists_eq_right]

theorem readOff (s : Stub) (name : String) :
    s.answers.ReadOff name (s.toggles.get? name) (·.enabled) fun e _ _ => e.shown where
  knows := s.mem_known_iff name
  isEnabled context default := by
    simp only [answers, isEnabled]
    cases s.toggles.get? name <;> rfl
  variant context default spare := by
    simp only [answers, variant]
    cases s.toggles.get? name <;> rfl

theorem agree_iff {acts : List Act} (h : GivesReal acts) (name : String) :
    (empty.afterAll acts).answers.Agree name ↔ ¬ Lingers acts name := by
  rw [((empty.afterAll acts).readOff name).agree_iff, get?_afterAll, Lingers]
  cases ht : turned? name acts with
  | none => simp
  | some on =>
    cases hg : given? name acts with
    | none => cases on <;> simp [Entry.shown, Variant.disabled]
    | some v =>
      obtain ⟨henabled, hfeature⟩ := h.given hg
      cases on <;> simp [Entry.shown, henabled, hfeature]

/-! ## The toggles of a stand-in -/

/-- The toggle that an entry stands for. All contexts get the one variant that it has. -/
def Entry.toggle (name : String) (e : Entry) : Toggle where
  name
  enabled := e.enabled
  project := none
  description := none
  impressionData := false
  variants := (e.variant.map fun v => ⟨v.name, 1, none, v.payload⟩).toList

def collection (s : Stub) : Collection := .ofList (s.toggles.sorted.map fun e => e.2.toggle e.1)

theorem find?_toggles (es : List (String × Entry)) (name : String) :
    (es.map fun e => e.2.toggle e.1).find? (·.name == name) =
      (Table.find name es).map (Entry.toggle name) := by
  induction es with
  | nil => rfl
  | cons e es ih =>
    by_cases he : e.1 = name
    · subst he
      simp [Table.find, Entry.toggle]
    · rw [Table.find, if_neg he, ← ih, List.map_cons, List.find?_cons_of_neg]
      simpa [Entry.toggle] using he

theorem get?_collection (s : Stub) (name : String) :
    s.collection.get? name = (s.toggles.get? name).map (Entry.toggle name) :=
  (find?_toggles s.toggles.sorted name).trans (by rw [s.toggles.find_sorted])

theorem bucket_one (group key : String) : bucket group key 1 = 1 := by
  rw [bucket, if_neg one_ne_zero, Nat.mod_one]

/-- A toggle with one variant gives it to everybody. -/
theorem Entry.variantFor_toggle {e : Entry}
    (hreal : ∀ v, e.variant = some v → v.enabled = true ∧ v.featureEnabled = true)
    (h : e.enabled = false → e.variant = none) (name : String) (c : Context) (spare : String) :
    (e.toggle name).variantFor c spare = e.shown := by
  obtain ⟨enabled, _ | v⟩ := e
  · simp [Toggle.variantFor, Toggle.totalWeight, Toggle.weightOf, toggle, shown]
  · obtain rfl : enabled = true := by simpa using h
    obtain ⟨henabled, hfeature⟩ := hreal v rfl
    have hcount : (Entry.toggle name ⟨true, some v⟩).bucketCount = 1 := rfl
    rw [Toggle.variantFor, if_neg (by exact Bool.false_ne_true), hcount]
    simp only [bucket_one]
    obtain ⟨_, _, _, _⟩ := v
    simp_all [Toggle.variantAt?, toggle, shown]

/-- What holds the toggles of a stand-in answers as it does. -/
theorem answers_of_hold {acts : List Act} (hreal : GivesReal acts)
    (hnone : ∀ name, ¬ Lingers acts name) {a : Answers} {fill : Context → Context}
    (h : a.Hold (empty.afterAll acts).collection fill) : a = (empty.afterAll acts).answers := by
  let s := empty.afterAll acts
  have hknown : a.known = s.answers.known := by
    rw [h.known]
    exact List.map_map
  have hisEnabled : a.isEnabled = s.answers.isEnabled := by
    funext name context default
    rw [(h.readOff name).isEnabled, (s.readOff name).isEnabled, get?_collection, Option.map_map]
    rfl
  have hvariant : a.variant = s.answers.variant := by
    funext name context default spare
    rw [(h.readOff name).variant, (s.readOff name).variant, get?_collection, Option.map_map,
      get?_afterAll]
    cases ht : turned? name acts with
    | none => rfl
    | some on =>
      have hshown := Entry.variantFor_toggle (e := ⟨on, given? name acts⟩)
        (fun v => hreal.given) ?_ name (fill context) spare
      · exact congrArg (fun v => (some v).getD default) hshown
      · rintro rfl
        exact Option.not_isSome_iff_eq_none.mp fun hgiven => hnone name ⟨ht, hgiven⟩
  calc a
    _ = ⟨a.isEnabled, a.variant, a.known⟩ := rfl
    _ = s.answers := by rw [hisEnabled, hvariant, hknown]

/-! ## The law -/

/-- Whatever a test does to a stand-in, the answers about a toggle agree, known or not, if and only
if the toggle was not turned off after its variant had been set. Where it was, it is off for one
question and shows that variant to the other. The answers of engines and of clients always agree.
So there is an engine that answers all that the stand-in answers if and only if no variant lingers
there; and then a client answers so that holds the toggles of the stand-in, whatever it adds to the
contexts. -/
theorem a_stand_in_agrees_with_itself_unless_a_variant_lingers (acts : List Act)
    (h : GivesReal acts) :
    let s := empty.afterAll acts
    (∀ name, s.answers.Agree name ↔ ¬ Lingers acts name) ∧
    (∀ name, Lingers acts name → ∃ v, .setVariant name v ∈ acts ∧ v.enabled = true ∧
      v.featureEnabled = true ∧ ∀ context default default' spare,
        s.answers.isEnabled name context default = false ∧
          s.answers.variant name context default' spare = v) ∧
    (∀ (e : Engine) name, e.answers.Agree name) ∧
    (∀ (c : Client) name, c.answers.Agree name) ∧
    (∀ now, (∃ calls, ((Engine.new now).afterAll calls).answers = s.answers) ↔
      ∀ name, ¬ Lingers acts name) ∧
    ((∀ name, ¬ Lingers acts name) →
      ∀ c : Client, c.snapshot = s.collection → c.answers = s.answers) := by
  intro s
  refine ⟨agree_iff h, ?_, fun e => e.hold.agree, fun c => c.hold.agree, fun now => ?_, ?_⟩
  · rintro name ⟨hoff, hgiven⟩
    obtain ⟨v, hv⟩ := Option.isSome_iff_exists.mp hgiven
    obtain ⟨henabled, hfeature⟩ := h.given hv
    have hfound : s.toggles.get? name = some ⟨false, some v⟩ := by
      rw [get?_afterAll, hoff, hv]
      rfl
    refine ⟨v, mem_of_given? hv, henabled, hfeature, fun context default default' spare => ?_⟩
    rw [(s.readOff name).isEnabled, (s.readOff name).variant, hfound]
    exact ⟨rfl, rfl⟩
  · constructor
    · rintro ⟨calls, hsame⟩ name
      rw [← agree_iff h, ← hsame]
      exact (Engine.hold _).agree name
    · intro hnone
      obtain ⟨calls, hold⟩ := Engine.exists_hold now s.collection
      exact ⟨calls, answers_of_hold h hnone hold⟩
  · intro hnone c hc
    have hold := c.hold
    rw [hc] at hold
    exact answers_of_hold h hnone hold

/-- A variant of a toggle that is on. -/
def blue : Variant := ⟨"blue", true, true, none⟩

/-- A toggle that is turned off and on again shows its variant as before. One that is removed while
it is off has lost its variant when it comes back. -/
theorem a_removed_toggle_comes_back_without_its_variant :
    let acts : List Act := [.setVariant "theme" blue, .setVariant "banner" blue,
      .setEnabled "banner" false, .setEnabled "theme" false, .remove "banner",
      .setEnabled "theme" true, .setEnabled "banner" false]
    let s := empty.afterAll acts
    GivesReal acts ∧ s.answers.Agree "theme" ∧ s.answers.Agree "banner" ∧
      (∃ calls, ((Engine.new .epoch).afterAll calls).answers = s.answers) ∧
      s.variant "theme" (.disabled true) = blue ∧
      s.variant "banner" blue = .disabled false := by
  intro acts s
  have hreal : GivesReal acts := by decide
  have hnone : ∀ name, ¬ Lingers acts name := by
    intro name hlingers
    have hname : name = "banner" ∨ name = "theme" ∨ name = "banner" := by
      simpa [acts] using mem_of_turned_off hlingers.1
    rcases hname with rfl | rfl | rfl <;> revert hlingers <;> decide
  obtain ⟨hagree, -, -, -, hengine, -⟩ := a_stand_in_agrees_with_itself_unless_a_variant_lingers
    acts hreal
  exact ⟨hreal, (hagree _).mpr (hnone _), (hagree _).mpr (hnone _), (hengine .epoch).mpr hnone,
    by decide, by decide⟩

/-- A toggle that is turned off after its variant was set is off for one question, and still shows
the variant of a toggle that is on to the other. -/
theorem a_toggle_that_is_off_shows_its_variant :
    let acts : List Act := [.setVariant "theme" blue, .setEnabled "theme" false]
    let s := empty.afterAll acts
    GivesReal acts ∧ s.answers.knows "theme" ∧
      (∀ context default, s.answers.isEnabled "theme" context default = false) ∧
      (∀ context default spare, s.answers.variant "theme" context default spare = blue) ∧
      blue.enabled = true ∧ blue.featureEnabled = true ∧ ¬ s.answers.Agree "theme" := by
  intro acts s
  have hreal : GivesReal acts := by decide
  have hknows : s.answers.knows "theme" := by
    rw [(s.readOff "theme").knows]
    decide
  refine ⟨hreal, hknows, fun _ _ => rfl, fun _ _ _ => rfl, rfl, rfl, fun hagree => ?_⟩
  have hboth := (hagree.known hknows .empty true blue "").1
  revert hboth
  decide

end Stub

end ToggleSync
