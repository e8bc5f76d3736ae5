-- What a load makes of the files that it finds. A layout counts only if both its files are read, so
-- the state and the tag of a backup were always stored side by side, and a file is looked at only
-- where those before it have settled nothing. What was saved last is what is loaded.
import ToggleSync.Proofs.FirstQuestion

namespace ToggleSync

/-! ## Texts without white space around them -/

/-- There is no white space at either end of the text. -/
structure IsTight (text : String) : Prop where
  first : ∀ c, text.toList.head? = some c → isBlank c = false
  last : ∀ c, text.toList.getLast? = some c → isBlank c = false

theorem head?_dropWhile_blank {cs : List Char} {c : Char}
    (h : (cs.dropWhile isBlank).head? = some c) : isBlank c = false := by
  have hnot := List.head?_dropWhile_not isBlank cs
  rw [h] at hnot
  simpa using hnot

theorem dropLast_prefix (p : Char → Bool) (cs : List Char) : dropLast p cs <+: cs := by
  have hsuffix := List.dropWhile_suffix p (l := cs.reverse)
  unfold dropLast
  rwa [← List.reverse_suffix, List.reverse_reverse]

theorem isTight_trim (text : String) : IsTight (trim text) := by
  unfold trim
  constructor
  case first =>
    intro c hc
    rw [String.toList_ofList] at hc
    obtain ⟨rest, hrest⟩ := dropLast_prefix isBlank (text.toList.dropWhile isBlank)
    have hhead : (text.toList.dropWhile isBlank).head? = some c := by
      rw [← hrest, List.head?_append, show (dropLast _ _).head? = some c from hc]
      rfl
    exact head?_dropWhile_blank hhead
  case last =>
    intro c hc
    rw [String.toList_ofList] at hc
    unfold trimChars dropLast at hc
    rw [List.getLast?_reverse] at hc
    exact head?_dropWhile_blank hc

namespace Backup

theorem tagOfText_eq_some {text tag : String} :
    tagOfText text = some tag ↔ tag = trim text ∧ tag ≠ "" := by
  unfold tagOfText
  by_cases h : trim text = ""
  · simp [h]
  · have hne : (trim text).isEmpty = false := by simpa using h
    rw [hne]
    constructor
    · rintro ⟨rfl⟩
      exact ⟨rfl, h⟩
    · rintro ⟨rfl, -⟩
      rfl

/-! ## What is looked at -/

/-- The state and the tag of each layout, in the order in which they are tried. -/
def layouts : List (Slot × Slot) := [(.state, .tag), (.legacyState, .legacyTag)]

section

variable (read : Slot → Except IoFailure String)

def isThere (slot : Slot) : Bool := (read slot).toOption.isSome

def isMissing (slot : Slot) : Bool :=
  match read slot with
  | .ok _ => false
  | .error f => f.isMissing

/-- The present layout is left for the earlier one. -/
def turnsBack : Bool := isMissing read .state || (isThere read .state && isMissing read .tag)

/-- The files that a load looks at: each tag only beside its state, and the earlier layout only
where one file of the present one is missing. -/
def isLookedAt : Slot → Bool
  | .state => true
  | .tag => isThere read .state
  | .legacyState => turnsBack read
  | .legacyTag => turnsBack read && isThere read .legacyState

/-- Reading the file fails, and not because it is missing. -/
def Fails (slot : Slot) (f : IoFailure) : Prop := read slot = .error f ∧ f.isMissing = false

/-- Each file that is looked at can be read, or it is missing. -/
def IsLegible : Prop := ∀ slot f, isLookedAt read slot = true → ¬ Fails read slot f

/-- The texts of the files that can be read. -/
def texts (slot : Slot) : Option String := (read slot).toOption

end

variable {read : Slot → Except IoFailure String}

theorem not_fails {slot : Slot} {text : String} (h : read slot = .ok text) (f : IoFailure) :
    ¬ Fails read slot f := by
  rintro ⟨herror, -⟩
  cases h.symm.trans herror

theorem fails_iff {slot : Slot} {g : IoFailure} (h : read slot = .error g) (f : IoFailure) :
    Fails read slot f ↔ g = f ∧ g.isMissing = false := by
  unfold Fails
  rw [h]
  constructor
  · rintro ⟨⟨rfl⟩, hf⟩
    exact ⟨rfl, hf⟩
  · rintro ⟨rfl, hf⟩
    exact ⟨rfl, hf⟩

/-! ### One layout -/

theorem slots_readPair (a b : Slot) :
    (readPair read a b).slots = a :: if isThere read a then [b] else [] := by
  unfold readPair isThere
  cases ha : read a with
  | error f => rfl
  | ok state => cases read b <;> rfl

/-- A layout is given up for a failure only if one of its files that are looked at has it. -/
theorem readPair_error_iff (a b : Slot) (f : IoFailure) :
    (readPair read a b).result = .error f ↔
      Fails read a f ∨ isThere read a = true ∧ Fails read b f := by
  unfold readPair isThere
  cases ha : read a with
  | ok state =>
    cases hb : read b with
    | ok tag => simp [not_fails ha, not_fails hb]
    | error g => cases hg : g.isMissing <;> simp [not_fails ha, fails_iff hb, hg, Except.toOption]
  | error g => cases hg : g.isMissing <;> simp [fails_iff ha, hg, Except.toOption]

/-- There is nothing in a layout exactly if one of its files is missing. -/
theorem readPair_none_iff (a b : Slot) :
    (readPair read a b).result = .ok none ↔
      isMissing read a = true ∨ isThere read a = true ∧ isMissing read b = true := by
  unfold readPair isThere isMissing
  cases ha : read a with
  | ok state =>
    cases hb : read b with
    | ok tag => simp
    | error g => cases hg : g.isMissing <;> simp [hg, Except.toOption]
  | error g => cases hg : g.isMissing <;> simp [hg, Except.toOption]

/-- What is read of a layout are the texts of its two files. -/
theorem readPair_ok {a b : Slot} {found : Option Backup}
    (h : (readPair read a b).result = .ok found) :
    found = (bothTexts (texts read) a b).map ofTexts := by
  unfold readPair at h
  unfold bothTexts texts
  cases ha : read a with
  | ok state =>
    rw [ha] at h
    cases hb : read b with
    | ok tag =>
      rw [hb] at h
      cases h
      rfl
    | error g =>
      rw [hb] at h
      simp only at h
      split at h
      · cases h
        rfl
      · cases h
  | error g =>
    rw [ha] at h
    simp only at h
    split at h
    · cases h
      rfl
    · cases h

/-! ### Both layouts -/

theorem turnsBack_iff (read : Slot → Except IoFailure String) :
    turnsBack read = true ↔ (readPair read .state .tag).result = .ok none := by
  rw [readPair_none_iff]
  simp [turnsBack]

theorem readFiles_back (h : turnsBack read = true) :
    readFiles read =
      ⟨(readPair read .state .tag).slots ++ (readPair read .legacyState .legacyTag).slots,
        (readPair read .legacyState .legacyTag).result⟩ := by
  have hnone := (turnsBack_iff read).mp h
  unfold readFiles
  generalize readPair read .state .tag = present at hnone
  obtain ⟨slots, result⟩ := present
  cases hnone
  rfl

theorem readFiles_stay (h : turnsBack read = false) :
    readFiles read = readPair read .state .tag := by
  have hsome : (readPair read .state .tag).result ≠ .ok none := by
    rw [ne_eq, ← turnsBack_iff, h]
    simp
  unfold readFiles
  split
  · rename_i hp
    exact absurd (congrArg Reading.result hp) hsome
  · rfl

theorem slots_readFiles (read : Slot → Except IoFailure String) :
    (readFiles read).slots = Slot.all.filter (isLookedAt read) := by
  cases hback : turnsBack read with
  | true =>
    rw [readFiles_back hback]
    cases hstate : isThere read .state <;> cases hearlier : isThere read .legacyState <;>
      simp [slots_readPair, Slot.all, List.filter_cons, isLookedAt, hback, hstate, hearlier]
  | false =>
    rw [readFiles_stay hback]
    cases hstate : isThere read .state <;>
      simp [slots_readPair, Slot.all, List.filter_cons, isLookedAt, hback, hstate]

theorem exists_slot {p : Slot → Prop} :
    (∃ slot, p slot) ↔ (p .state ∨ p .tag) ∨ p .legacyState ∨ p .legacyTag := by
  constructor
  · rintro ⟨slot, h⟩
    cases slot <;> simp [h]
  · rintro ((h | h) | h | h) <;> exact ⟨_, h⟩

/-- Reading the files fails exactly if a file that is looked at does, and with its failure. -/
theorem readFiles_error_iff (read : Slot → Except IoFailure String) (f : IoFailure) :
    (readFiles read).result = .error f ↔
      ∃ slot, isLookedAt read slot = true ∧ Fails read slot f := by
  have herror : ∀ a b, (readPair read a b).result = .error f ↔
      Fails read a f ∨ isThere read a = true ∧ Fails read b f :=
    fun a b => readPair_error_iff a b f
  have hpresent := herror .state .tag
  have hearlier := herror .legacyState .legacyTag
  rw [exists_slot]
  cases hback : turnsBack read with
  | true =>
    rw [(turnsBack_iff read).mp hback] at hpresent
    rw [readFiles_back hback, hearlier]
    simp only [isLookedAt, hback, true_and, Bool.true_and, ← hpresent]
    simp
  | false =>
    rw [readFiles_stay hback, hpresent]
    simp [isLookedAt, hback]

/-- What is read is the pair that was stored together. -/
theorem readFiles_ok {found : Option Backup} (h : (readFiles read).result = .ok found) :
    found = (storedPair (texts read)).map ofTexts := by
  unfold storedPair
  cases hback : turnsBack read with
  | true =>
    rw [readFiles_back hback] at h
    have hnone := readPair_ok ((turnsBack_iff read).mp hback)
    rw [Option.map_eq_none_iff.mp hnone.symm, Option.none_or]
    exact readPair_ok h
  | false =>
    rw [readFiles_stay hback] at h
    have hfound := readPair_ok h
    cases hp : bothTexts (texts read) .state .tag with
    | some pair =>
      rw [hp] at hfound
      exact hfound
    | none =>
      rw [hp] at hfound
      subst hfound
      rw [(turnsBack_iff read).mpr h] at hback
      cases hback

/-! ## Loading -/

/-- The provider that a load asks for a state: the one there is, if no pair was found or if its
state goes before that of the files. -/
def Store.asks (s : Store) (read : Slot → Except IoFailure String) : Option Bootstrap :=
  if (storedPair (texts read)).isNone || s.prefersBootstrap then s.bootstrap else none

/-- The failure that a load comes to: that of a file that is looked at, or else that of the provider
that is asked. -/
inductive Store.Spoilt (s : Store) (read : Slot → Except IoFailure String) (f : IoFailure) : Prop
  | file (slot : Slot) (looked : isLookedAt read slot = true) (fails : Fails read slot f)
  | provider (b : Bootstrap) (legible : IsLegible read) (asked : s.asks read = some b)
      (fails : b.read = .error f)

theorem isLegible_iff (read : Slot → Except IoFailure String) :
    IsLegible read ↔ (readFiles read).result = .ok ((storedPair (texts read)).map ofTexts) := by
  constructor
  · intro h
    cases hr : (readFiles read).result with
    | ok found => rw [readFiles_ok hr]
    | error f =>
      obtain ⟨slot, hlooked, hfails⟩ := (readFiles_error_iff read f).mp hr
      exact absurd hfails (h slot f hlooked)
  · rintro h slot f hlooked hfails
    rw [(readFiles_error_iff read f).mpr ⟨slot, hlooked, hfails⟩] at h
    cases h

theorem isLegible_or (read : Slot → Except IoFailure String) :
    IsLegible read ∨ ∃ f, (readFiles read).result = .error f := by
  cases hr : (readFiles read).result with
  | ok found =>
    left
    rw [isLegible_iff, hr, readFiles_ok hr]
  | error f => exact .inr ⟨f, rfl⟩

theorem load_of_error (s : Store) {f : IoFailure} (h : (readFiles read).result = .error f) :
    (s.load read).result = .error f := by
  unfold Store.load
  simp only [h, Except.bind]

/-- What a load comes to if each file that it looks at can be read or is missing. -/
theorem load_of_isLegible (s : Store) (h : IsLegible read) :
    (s.load read).result =
      match s.asks read with
      | none => .ok (((storedPair (texts read)).map ofTexts).getD .empty)
      | some b =>
        let existing := ((storedPair (texts read)).map ofTexts).getD .empty
        b.read.map fun offer => ⟨offer.getD existing.state, existing.tag⟩ := by
  unfold Store.load Store.asks
  simp only [(isLegible_iff read).mp h, Except.bind, Store.choose, Option.isNone_map]
  cases s.bootstrap with
  | none => simp
  | some b =>
    simp only
    split <;> rfl

theorem load_error_iff (s : Store) (read : Slot → Except IoFailure String) (f : IoFailure) :
    (s.load read).result = .error f ↔ s.Spoilt read f := by
  rcases isLegible_or read with h | ⟨g, hg⟩
  · rw [load_of_isLegible s h]
    constructor
    · intro hr
      cases ha : s.asks read with
      | none => simp [ha] at hr
      | some b =>
        cases hb : b.read with
        | ok offer => simp [ha, hb, Except.map] at hr
        | error g =>
          simp only [ha, hb, Except.map] at hr
          cases hr
          exact .provider b h ha hb
    · rintro (⟨slot, hlooked, hfails⟩ | ⟨b, -, hasked, hfails⟩)
      · exact absurd hfails (h slot f hlooked)
      · simp [hasked, hfails, Except.map]
  · rw [load_of_error s hg]
    constructor
    · rintro ⟨⟩
      obtain ⟨slot, hlooked, hfails⟩ := (readFiles_error_iff read f).mp hg
      exact .file slot hlooked hfails
    · rintro (⟨slot, hlooked, hfails⟩ | ⟨b, hlegible, -, -⟩)
      · have hf := (readFiles_error_iff read f).mpr ⟨slot, hlooked, hfails⟩
        rw [hg] at hf
        cases hf
        rfl
      · rw [(isLegible_iff read).mp hlegible] at hg
        cases hg

/-- Whatever a provider says, a load comes to the same, exactly if there is a pair of files and no
provider goes before it. -/
theorem provider_without_effect_iff (s : Store) (h : IsLegible read) :
    (∀ b b' : Bootstrap, ({ s with bootstrap := some b } : Store).load read =
        ({ s with bootstrap := some b' } : Store).load read) ↔
      (storedPair (texts read)).isSome = true ∧ s.prefersBootstrap = false := by
  constructor
  · intro hsame
    by_contra hasked
    have hresult := congrArg Reading.result
      (hsame (.failing ⟨.notFound, ""⟩) (.failing ⟨.resourceBusy, ""⟩))
    rw [load_of_isLegible _ h, load_of_isLegible _ h] at hresult
    have hasks : ((storedPair (texts read)).isNone || s.prefersBootstrap) = true := by
      cases hp : storedPair (texts read) <;> simp_all
    simp only [Store.asks, hasks, if_true, Bootstrap.read, Except.map] at hresult
    cases hresult
  · rintro ⟨hpair, hown⟩ b b'
    have hasks : ((storedPair (texts read)).isNone || s.prefersBootstrap) = false := by
      cases hp : storedPair (texts read) <;> simp_all
    have hresult : (({ s with bootstrap := some b } : Store).load read).result =
        (({ s with bootstrap := some b' } : Store).load read).result := by
      rw [load_of_isLegible _ h, load_of_isLegible _ h]
      simp [Store.asks, hasks]
    unfold Store.load at hresult ⊢
    exact congrArg _ hresult

/-- The two texts of a pair lie side by side in one layout. -/
theorem storedPair_side_by_side {state tag : String}
    (h : storedPair (texts read) = some (state, tag)) :
    ∃ layout ∈ layouts, read layout.1 = .ok state ∧ read layout.2 = .ok tag := by
  have hboth : ∀ a b, bothTexts (texts read) a b = some (state, tag) →
      read a = .ok state ∧ read b = .ok tag := by
    intro a b hp
    unfold bothTexts texts at hp
    cases ha : read a with
    | error f => simp [ha, Except.toOption] at hp
    | ok x =>
      cases hb : read b with
      | error f => simp [ha, hb, Except.toOption] at hp
      | ok y =>
        simp [ha, hb, Except.toOption] at hp
        simp [hp]
  unfold storedPair at h
  rcases Option.or_eq_some_iff.mp h with h | ⟨-, h⟩
  · exact ⟨(.state, .tag), by simp [layouts], hboth _ _ h⟩
  · exact ⟨(.legacyState, .legacyTag), by simp [layouts], hboth _ _ h⟩

/-- What is loaded is the backup of the files, and only a provider that was asked has put another
state in the place of theirs. -/
theorem parts_of_load {s : Store} {b : Backup} (h : (s.load read).result = .ok b) :
    let existing := ((storedPair (texts read)).map ofTexts).getD .empty
    b.tag = existing.tag ∧
      (b.state = existing.state ∨ ∃ p, s.asks read = some p ∧ p.read = .ok (some b.state)) := by
  rcases isLegible_or read with hlegible | ⟨f, hf⟩
  case inr =>
    rw [load_of_error s hf] at h
    cases h
  rw [load_of_isLegible s hlegible] at h
  cases ha : s.asks read with
  | none =>
    rw [ha] at h
    cases h
    exact ⟨rfl, .inl rfl⟩
  | some p =>
    cases hp : p.read with
    | error f => simp [ha, hp, Except.map] at h
    | ok offer =>
      simp only [ha, hp, Except.map] at h
      cases h
      refine ⟨rfl, ?_⟩
      cases offer with
      | none => exact .inl rfl
      | some state => exact .inr ⟨p, rfl, hp⟩

/-- A tag that is loaded was cut from the file beside a state that can be read. -/
theorem tag_of_load {s : Store} {b : Backup} {tag : String} (h : (s.load read).result = .ok b)
    (ht : b.tag = some tag) :
    tag ≠ "" ∧ IsTight tag ∧
      ∃ layout ∈ layouts, ∃ state text, read layout.1 = .ok state ∧ read layout.2 = .ok text ∧
        tag = trim text ∧
        (b.state = state ∨ ∃ p, s.asks read = some p ∧ p.read = .ok (some b.state)) := by
  obtain ⟨htag, hstate⟩ := parts_of_load h
  cases hpair : storedPair (texts read) with
  | none =>
    rw [hpair, ht] at htag
    cases htag
  | some pair =>
    obtain ⟨state, text⟩ := pair
    rw [hpair] at htag hstate
    obtain ⟨layout, hmem, hread⟩ := storedPair_side_by_side hpair
    have hcut : tagOfText text = some tag := by
      rw [← ht, htag]
      simp only [Option.map_some, Option.getD_some, ofTexts]
    obtain ⟨rfl, hne⟩ := tagOfText_eq_some.mp hcut
    exact ⟨hne, isTight_trim text, layout, hmem, state, text, hread.1, hread.2, rfl, hstate⟩

end Backup

/-! ## What a client tells of it -/

namespace Sync

theorem foldl_noteRead (now : Nat) (slots : List Backup.Slot) (s : Sync) :
    slots.foldl (noteRead now) s =
      { s with log := s.log ++ slots.map fun slot => (now, .read slot) } := by
  induction slots generalizing s with
  | nil => simp
  | cons slot slots ih =>
    rw [List.foldl_cons, ih]
    simp [noteRead, note]

variable {s : Sync} {store : Backup.Store} {disk : Backup.Disk}

/-- A load writes nothing, and tells of the files that it looked at. -/
theorem loadBackup_of_ok (hk : s.keeping = .files store disk) (now : Nat) {b : Backup}
    (h : (store.load fun slot => disk.read (store.location.path slot)).result = .ok b) :
    let looked := (store.load fun slot => disk.read (store.location.path slot)).slots
    s.loadBackup now =
      ({ s with log := s.log ++ looked.map fun slot => (now, .read slot) }, b) := by
  unfold loadBackup
  simp only [hk, h, foldl_noteRead]

/-- A load that fails tells of it once. -/
theorem loadBackup_of_error (hk : s.keeping = .files store disk) (now : Nat) {f : IoFailure}
    (h : (store.load fun slot => disk.read (store.location.path slot)).result = .error f) :
    let looked := (store.load fun slot => disk.read (store.location.path slot)).slots
    s.loadBackup now =
      ({ s with log := s.log ++ looked.map (fun slot => (now, .read slot)) ++
          [(now, .notice (.error .fileCache (.io f)))] }, .empty) := by
  unfold loadBackup
  simp only [hk, h, foldl_noteRead]
  rfl

end Sync

namespace Backup

/-! ## The laws -/

/-- Whatever is in the files and however reading them goes, and whatever a provider says. A load
looks at a tag only beside its state, and at the earlier layout only where a file of the present one
is missing. If none of these reads fails in another way than by a missing file, the backup is that
of the first layout of which both files can be read, or an empty one; a provider is asked exactly if
there is no such layout or if it goes before it, and a text that it offers takes the place of the
state beside the same tag. A tag is never blank nor has white space around it, and lies in the same
layout as a state that can be read. The load fails exactly if one of these reads or the provider
that is asked does. Then there is an empty backup and one error of the file cache is told, and else
none. Nothing is written. -/
theorem a_load_never_mixes_layouts (store : Store) :
    (∀ read : Slot → Except IoFailure String,
      let pair := storedPair (texts read)
      let existing := (pair.map ofTexts).getD .empty
      let loaded := store.load read
      loaded.slots = Slot.all.filter (isLookedAt read) ∧
      (IsLegible read →
        loaded.result =
          (match store.asks read with
          | none => .ok existing
          | some p => p.read.map fun offer => ⟨offer.getD existing.state, existing.tag⟩) ∧
        ((∀ p p' : Bootstrap, ({ store with bootstrap := some p } : Store).load read =
            ({ store with bootstrap := some p' } : Store).load read) ↔
          pair.isSome = true ∧ store.prefersBootstrap = false)) ∧
      (∀ b tag, loaded.result = .ok b → b.tag = some tag →
        tag ≠ "" ∧ IsTight tag ∧
        ∃ layout ∈ layouts, ∃ state text, read layout.1 = .ok state ∧ read layout.2 = .ok text ∧
          tag = trim text ∧
          (b.state = state ∨ ∃ p, store.asks read = some p ∧ p.read = .ok (some b.state))) ∧
      ∀ f, loaded.result = .error f ↔ store.Spoilt read f) ∧
    ∀ (s : Sync) (disk : Disk) (now : Nat), s.keeping = .files store disk →
      let read := fun slot => disk.read (store.location.path slot)
      let log := s.log ++ (Slot.all.filter (isLookedAt read)).map fun slot => (now, .read slot)
      (∀ b, (store.load read).result = .ok b → s.loadBackup now = ({ s with log }, b)) ∧
      ∀ f, (store.load read).result = .error f →
        s.loadBackup now =
          ({ s with log := log ++ [(now, .notice (.error .fileCache (.io f)))] }, .empty) := by
  constructor
  · intro read pair existing loaded
    refine ⟨slots_readFiles read, ?_, ?_, load_error_iff store read⟩
    · intro hlegible
      exact ⟨load_of_isLegible store hlegible, provider_without_effect_iff store hlegible⟩
    · intro b tag
      exact tag_of_load
  · intro s disk now hk read log
    have hslots : (store.load read).slots = Slot.all.filter (isLookedAt read) :=
      slots_readFiles read
    constructor
    · intro b h
      have hloaded := Sync.loadBackup_of_ok hk now h
      rwa [hslots] at hloaded
    · intro f h
      have hloaded := Sync.loadBackup_of_error hk now h
      rwa [hslots] at hloaded

/-- The state of the present layout is there without its tag, so the pair of the earlier layout is
taken; the state that goes before it is that of the application, beside the tag of the pair. -/
theorem a_tag_of_the_earlier_layout_beside_a_state_of_the_application :
    let store : Store := ⟨⟨"s", "t", "ls", "lt"⟩, some (.offering (some "own")), true⟩
    let files := [("s", "new"), ("ls", "old"), ("lt", " v1 ")]
    let disk : Disk := ⟨.ofList files, ∅, ∅⟩
    let read := fun slot => disk.read (store.location.path slot)
    IsLegible read ∧ (store.load read).slots = Slot.all ∧
      (store.load read).result = .ok ⟨"own", some "v1"⟩ := by
  intro store files disk read
  have hload := (a_load_never_mixes_layouts store).1 read
  have h : IsLegible read := by
    rw [isLegible_iff]
    decide +kernel
  refine ⟨h, ?_, ?_⟩
  · exact hload.1.trans (by decide +kernel)
  · exact (hload.2.1 h).1.trans (by decide +kernel)

/-! ## After a save -/

/-- Two writes that succeeded, and files that read back as they were written last. The reads give
the state and the text of the tag, whatever the other files hold. -/
theorem read_after_save {store : Store} {d later : Disk} {b : Backup}
    (hl : store.location.state ≠ store.location.tag) (hw : (store.save d b).failure = none)
    (hfiles : later.files = (store.save d b).medium.files)
    (hreads : ∀ slot ∈ [Slot.state, .tag],
      later.readFailures.get? (store.location.path slot) = none) :
    later.read store.location.state = .ok b.state ∧
      later.read store.location.tag = .ok (b.tag.getD "") := by
  rw [failure_save, Option.or_eq_none_iff] at hw
  rw [save_eq_saveFirst, saveFirst_both store d b 0, hw.1, hw.2] at hfiles
  have hs := hreads .state (by simp)
  have ht := hreads .tag (by simp)
  unfold Location.path at hs ht
  unfold Disk.read
  rw [hs, ht, hfiles]
  simp [Table.get?_put, hl]

/-- The tag of a backup, as it is after it was kept in a file. -/
theorem tagOfText_kept (tag : Option String) : tagOfText (tag.getD "") = tag.bind tagOfText := by
  cases tag with
  | some text => simp only [Option.getD_some, Option.bind_some]
  | none => decide

/-- Files lie in four places, whatever the directory and the names are. A backup of which both
writes succeed is loaded again from the same places, over any earlier files and with any provider
that does not go before the files, if the two files read back as they were written: its state, and
its tag without white space around it, or no tag if nothing else is left. Neither the save nor the
load tells of an error. -/
theorem what_was_saved_is_loaded {dir app instanceTag version : String} {saver loader : Store}
    (hs : saver.location = .new dir app instanceTag version)
    (hl : loader.location = .new dir app instanceTag version)
    (hb : loader.bootstrap = none ∨ loader.prefersBootstrap = false) {disk later : Disk}
    {b : Backup} (hw : (saver.save disk b).failure = none)
    (hfiles : later.files = (saver.save disk b).medium.files)
    (hreads : ∀ slot ∈ [Slot.state, .tag],
      later.readFailures.get? (loader.location.path slot) = none) :
    Function.Injective (Location.new dir app instanceTag version).path ∧
      (loader.load fun slot => later.read (loader.location.path slot)) =
        ⟨[.state, .tag], .ok ⟨b.state, b.tag.bind tagOfText⟩⟩ ∧
      (∀ (s : Sync) (now : Nat), s.keeping = .files saver disk →
        (s.save now b).keeping = .files saver (saver.save disk b).medium ∧
        (s.save now b).backupFailures = s.backupFailures) ∧
      ∀ (s : Sync) (now : Nat), s.keeping = .files loader later →
        s.loadBackup now =
          ({ s with log := s.log ++ [(now, .read .state), (now, .read .tag)] },
            ⟨b.state, b.tag.bind tagOfText⟩) := by
  have hinj := path_new_injective dir app instanceTag version
  have hne : saver.location.state ≠ saver.location.tag := by
    rw [hs]
    intro h
    cases @hinj .state .tag h
  have hreads' : ∀ slot ∈ [Slot.state, .tag],
      later.readFailures.get? (saver.location.path slot) = none := by
    rw [hs, ← hl]
    exact hreads
  obtain ⟨hstate, htag⟩ := read_after_save hne hw hfiles hreads'
  rw [hs, ← hl] at hstate htag
  let read := fun slot => later.read (loader.location.path slot)
  have hresult : (loader.load read).result = .ok ⟨b.state, b.tag.bind tagOfText⟩ := by
    rw [← tagOfText_kept]
    exact load_of_files hstate htag hb
  have hslots : (loader.load read).slots = [.state, .tag] := by
    have hthere : isThere read .state = true := by
      simp [isThere, read, Location.path, hstate, Except.toOption]
    have hlooked : isMissing read .state = false ∧ isMissing read .tag = false := by
      simp [isMissing, read, Location.path, hstate, htag]
    have hslots : (loader.load read).slots = Slot.all.filter (isLookedAt read) :=
      slots_readFiles read
    rw [hslots]
    simp [Slot.all, List.filter_cons, isLookedAt, turnsBack, hthere, hlooked]
  refine ⟨hinj, ?_, ?_, ?_⟩
  · change loader.load read = _
    rw [← hslots, ← hresult]
  · intro s now hk
    obtain ⟨hkept, -, hfailures⟩ := Sync.save_to_files hk now b
    refine ⟨hkept, ?_⟩
    rw [hfailures, hw]
    simp
  · intro s now hk
    have hloaded := Sync.loadBackup_of_ok hk now hresult
    rw [hslots] at hloaded
    exact hloaded

/-- A tag with white space around it is saved over an earlier pair, while the earlier layout holds
another one. -/
theorem a_saved_tag_is_loaded_without_white_space :
    let l := Location.new "dir" "app" "one" "1.0"
    let store : Store := ⟨l, some (.text "own"), false⟩
    let disk : Disk :=
      ⟨.ofList [(l.state, "old"), (l.legacyState, "older"), (l.legacyTag, "v0")], ∅, ∅⟩
    let later := (store.save disk ⟨"new", some " v1\n"⟩).medium
    (store.save disk ⟨"new", some " v1\n"⟩).failure = none ∧
      (store.load fun slot => later.read (store.location.path slot)).result =
        .ok ⟨"new", some "v1"⟩ := by
  intro l store disk later
  have hw : (store.save disk ⟨"new", some " v1\n"⟩).failure = none := by decide +kernel
  have hreads : ∀ slot ∈ [Slot.state, .tag],
      later.readFailures.get? (store.location.path slot) = none := by decide +kernel
  have htag : (some " v1\n").bind tagOfText = some "v1" := by decide +kernel
  have hlocation : store.location = .new "dir" "app" "one" "1.0" := rfl
  have h := (what_was_saved_is_loaded hlocation hlocation (.inr rfl) hw rfl hreads).2.1
  refine ⟨hw, ?_⟩
  rw [h, htag]

end Backup

end ToggleSync
