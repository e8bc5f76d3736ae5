-- The two ways to read JSON. Whatever the exact reader takes, every part of it stands for
-- something, and the lenient reader, which passes over more, takes the same.
import ToggleSync.Proofs.Digits

namespace ToggleSync.Json

theorem bind_ok {α β : Type} {x : Except Fault α} {f : α → Except Fault β} {b : β}
    (h : (x >>= f) = .ok b) : ∃ a, x = .ok a ∧ f a = .ok b := by
  cases x with
  | error e => cases h
  | ok a => exact ⟨a, rfl, h⟩

/-! ## Quoted texts -/

theorem skipEscape_of_readEscape {cs r : List Char} {c : Char} (h : readEscape cs = .ok (c, r)) :
    skipEscape cs = .ok (some c, r) := by
  unfold skipEscape
  split
  · rename_i rest
    have hunit : readUnit rest = .ok (c, r) := h
    simp [hunit]
  · simp [h, bind, Except.bind]

theorem readChars_lenient {n : Nat} {cs xs r : List Char}
    (h : readChars readEscape id n cs = .ok (xs, r)) :
    readChars skipEscape some n cs = .ok (xs.map some, r) := by
  induction n generalizing cs xs with
  | zero => cases h
  | succ n ih =>
    rw [readChars.eq_def] at h ⊢
    simp only at h ⊢
    split at h
    · cases h
    · cases h
      rfl
    · obtain ⟨⟨x, r'⟩, hx, h⟩ := bind_ok h
      obtain ⟨⟨ys, r''⟩, hys, h⟩ := bind_ok h
      cases h
      simp [skipEscape_of_readEscape hx, ih hys, bind, Except.bind]
    · split at h
      · cases h
      · rename_i hplain
        obtain ⟨⟨ys, r'⟩, hys, h⟩ := bind_ok h
        cases h
        simp [hplain, ih hys, bind, Except.bind]

theorem skimText_of_readText {cs r : List Char} {s : String} (h : readText cs = .ok (s, r)) :
    skimText cs = .ok (some s, r) := by
  obtain ⟨⟨xs, r'⟩, hxs, h⟩ := bind_ok h
  cases h
  have hall : (xs.map some).mapM id = some xs := by
    rw [List.mapM_map]
    exact (List.mapM_pure (m := Option) (l := xs) (f := id)).trans (by simp)
  simp [skimText, readChars_lenient hxs, hall, bind, Except.bind]

/-- A key that the exact reader takes is a text, and the lenient reader takes it too. -/
theorem text_of_exact {cs r : List Char} {k : Option String}
    (h : Leaves.exact.text cs = .ok (k, r)) :
    Leaves.lenient.text cs = .ok (k, r) ∧ k.isSome = true := by
  obtain ⟨⟨s, r'⟩, hs, h⟩ := bind_ok h
  cases h
  exact ⟨skimText_of_readText hs, rfl⟩

/-! ## Items and members -/

/-- Whatever the one reader takes has no broken part, and the other takes the same. -/
def Grants (item item' : Reader Value) : Prop :=
  ∀ {cs : List Char} {v : Value} {r : List Char}, item cs = .ok (v, r) →
    item' cs = .ok (v, r) ∧ v.isSound = true

section Lists

variable {item item' : Reader Value}

theorem readItems_grants (h : Grants item item') {n : Nat} {first : Bool} {cs r : List Char}
    {vs : List Value} (hr : readItems item n first cs = .ok (vs, r)) :
    readItems item' n first cs = .ok (vs, r) ∧ itemsSound vs = true := by
  induction n generalizing first cs vs r with
  | zero => cases hr
  | succ n ih =>
    have hnext : ∀ {cs : List Char} {vs : List Value} {r : List Char},
        readItem item n cs = .ok (vs, r) →
        readItem item' n cs = .ok (vs, r) ∧ itemsSound vs = true := by
      intro cs vs r hr
      obtain ⟨⟨v, r'⟩, hv, hr⟩ := bind_ok hr
      obtain ⟨⟨ws, r''⟩, hws, hr⟩ := bind_ok hr
      cases hr
      obtain ⟨hv', hsound⟩ := h hv
      obtain ⟨hws', hsounds⟩ := ih hws
      constructor
      · simp [readItem, hv', hws', bind, Except.bind]
      · simp [itemsSound, hsound, hsounds]
    rw [readItems] at hr ⊢
    split at hr
    · cases hr
    · cases hr
      exact ⟨rfl, rfl⟩
    · split at hr
      · rename_i hfirst
        simp only [hfirst, if_true]
        exact hnext hr
      · rename_i hlater
        simp only [hlater]
        split at hr
        · rename_i hcomma
          simp only [hcomma, if_true]
          split at hr
          · cases hr
          · cases hr
          · exact hnext hr
        · cases hr

/-- Members that all have a key, and no broken part. -/
def AllKeyed (ms : Members) : Prop := ∀ m ∈ ms, m.1.isSome = true ∧ m.2.isSound = true

theorem readMemberValue_grants (h : Grants item item') {cs r : List Char} {v : Value}
    (hr : readMemberValue item cs = .ok (v, r)) :
    readMemberValue item' cs = .ok (v, r) ∧ v.isSound = true := by
  unfold readMemberValue at hr ⊢
  split at hr
  · cases hr
  · exact h hr
  · cases hr

theorem readMembers_grants (h : Grants item item') {n : Nat} {first : Bool} {cs r : List Char}
    {ms : Members} (hr : readMembers .exact item n first cs = .ok (ms, r)) :
    readMembers .lenient item' n first cs = .ok (ms, r) ∧ AllKeyed ms := by
  induction n generalizing first cs ms r with
  | zero => cases hr
  | succ n ih =>
    have hnext : ∀ {cs : List Char} {ms : Members} {r : List Char},
        readMember .exact item n cs = .ok (ms, r) →
        readMember .lenient item' n cs = .ok (ms, r) ∧ AllKeyed ms := by
      intro cs ms r hr
      obtain ⟨⟨k, r1⟩, hk, hr⟩ := bind_ok hr
      obtain ⟨⟨v, r2⟩, hv, hr⟩ := bind_ok hr
      obtain ⟨⟨rest, r3⟩, hrest, hr⟩ := bind_ok hr
      cases hr
      obtain ⟨hk', hkey⟩ := text_of_exact hk
      obtain ⟨hv', hsound⟩ := readMemberValue_grants h hv
      obtain ⟨hrest', hall⟩ := ih hrest
      constructor
      · simp [readMember, hk', hv', hrest', bind, Except.bind]
      · simpa [AllKeyed, hkey, hsound] using hall
    rw [readMembers] at hr ⊢
    split at hr
    · cases hr
    · cases hr
      exact ⟨rfl, by simp [AllKeyed]⟩
    · split at hr
      · rename_i hfirst
        simp only [hfirst, if_true]
        split at hr
        · rename_i hquote
          simp only [hquote, if_true]
          exact hnext hr
        · cases hr
      · rename_i hlater
        simp only [hlater]
        split at hr
        · rename_i hcomma
          simp only [hcomma, if_true]
          split at hr
          · cases hr
          · exact hnext hr
          · cases hr
          · cases hr
        · cases hr

end Lists

/-- Where every member has a key there is an object. -/
theorem isSound_ofMembers {ms : Members} (h : AllKeyed ms) :
    (Value.ofMembers ms).isSound = true := by
  have hkeys : ∃ ks : List (String × Value),
      ms = ks.map (fun m => (some m.1, m.2)) ∧ membersSound ks = true := by
    induction ms with
    | nil => exact ⟨[], rfl, rfl⟩
    | cons m ms ih =>
      obtain ⟨k, v⟩ := m
      obtain ⟨hk, hv⟩ := h (k, v) List.mem_cons_self
      obtain ⟨s, rfl⟩ := Option.isSome_iff_exists.mp hk
      obtain ⟨ks, rfl, hsound⟩ := ih (fun m hm => h m (List.mem_cons_of_mem _ hm))
      refine ⟨(s, v) :: ks, rfl, ?_⟩
      rw [membersSound, hsound, Bool.and_true]
      exact hv
  obtain ⟨ks, rfl, hsound⟩ := hkeys
  rw [ofMembers_of_keys]
  exact hsound

/-! ## Values -/

theorem isSound_of_value {lit : Literal} {v : Value} (h : lit.value = .ok v) :
    v.isSound = true := by
  unfold Literal.value at h
  simp only at h
  repeat' split at h
  all_goals
    cases h
    try rfl

theorem readNumber_grants {negative : Bool} {cs r : List Char} {v : Value}
    (h : Leaves.exact.readNumber negative cs = .ok (v, r)) :
    Leaves.lenient.readNumber negative cs = .ok (v, r) ∧ v.isSound = true := by
  obtain ⟨⟨lit, r'⟩, hlit, h⟩ := bind_ok h
  obtain ⟨w, hw, h⟩ := bind_ok h
  cases h
  simp only [Leaves.exact] at hw
  split at hw
  · rename_i heq
    cases hw
    refine ⟨?_, isSound_of_value heq⟩
    simp [Leaves.readNumber, Leaves.lenient, hlit, heq, bind, Except.bind]
  · cases hw

theorem readString_grants {cs r : List Char} {v : Value}
    (h : Leaves.exact.readString cs = .ok (v, r)) :
    Leaves.lenient.readString cs = .ok (v, r) ∧ v.isSound = true := by
  obtain ⟨⟨k, r'⟩, hk, h⟩ := bind_ok h
  cases h
  obtain ⟨hk', hkey⟩ := text_of_exact hk
  obtain ⟨s, rfl⟩ := Option.isSome_iff_exists.mp hkey
  refine ⟨?_, rfl⟩
  simp [Leaves.readString, hk', bind, Except.bind]

theorem readWord_sound {w : Value} (hw : w.isSound = true) {es cs r : List Char} {v : Value}
    (h : readWord w es cs = .ok (v, r)) : v.isSound = true := by
  induction es generalizing cs with
  | nil =>
    cases h
    exact hw
  | cons e es ih =>
    rcases cs with _ | ⟨c, cs⟩
    · cases h
    · rw [readWord] at h
      split at h
      · exact ih h
      · cases h

theorem readValue_grants {nested nested' : Char → Reader Value}
    (h : ∀ c, Grants (nested c) (nested' c)) :
    Grants (Leaves.exact.readValue nested) (Leaves.lenient.readValue nested') := by
  intro cs v r hr
  unfold Leaves.readValue at hr ⊢
  split at hr
  · cases hr
  · exact ⟨hr, readWord_sound rfl hr⟩
  · exact ⟨hr, readWord_sound rfl hr⟩
  · exact ⟨hr, readWord_sound rfl hr⟩
  · exact readNumber_grants hr
  · exact readString_grants hr
  · exact h _ hr
  · exact h _ hr
  · split at hr
    · rename_i hdigit
      simp only [hdigit, if_true]
      exact readNumber_grants hr
    · cases hr

/-- Values with so many brackets open, whatever the lenient reader does about more. -/
theorem readNested_grants (deep : Char → Reader Value) (depth : Nat) :
    Grants (Leaves.exact.readNested tooDeep depth) (Leaves.lenient.readNested deep depth) := by
  induction depth with
  | zero =>
    refine readValue_grants (fun c => ?_)
    intro cs v r hr
    cases hr
  | succ depth ih =>
    refine readValue_grants (fun c => ?_)
    intro cs v r hr
    simp only at hr ⊢
    split at hr
    · rename_i hc
      simp only [hc, if_true]
      obtain ⟨⟨vs, r'⟩, hvs, hr⟩ := bind_ok hr
      cases hr
      obtain ⟨hvs', hsound⟩ := readItems_grants ih hvs
      exact ⟨by simp [hvs', bind, Except.bind], by simpa [Value.isSound] using hsound⟩
    · rename_i hc
      simp only [hc]
      obtain ⟨⟨ms, r'⟩, hms, hr⟩ := bind_ok hr
      cases hr
      obtain ⟨hms', hkeyed⟩ := readMembers_grants ih hms
      exact ⟨by simp [hms', bind, Except.bind], isSound_ofMembers hkeyed⟩

/-! ## Whole texts -/

/-- Every part of a value that is read from a text stands for something. -/
theorem isSound_of_readFront {text : String} {v : Value} {r : List Char}
    (h : Value.readFront text = .ok (v, r)) : v.isSound = true :=
  (readNested_grants tooDeep maxDepth h).2

theorem head_of_readValue {nested : Char → Reader Value} {cs r : List Char} {v : Value}
    (h : Leaves.exact.readValue nested cs = .ok (v, r)) :
    ∃ c r', skipSpace cs = c :: r' ∧ isBlank c = false := by
  unfold Leaves.readValue at h
  split at h
  · cases h
  -- the characters that open a value, and last the digits
  iterate 7 exact ⟨_, _, ‹_›, rfl⟩
  · split at h
    · rename_i hdigit
      exact ⟨_, _, ‹_›, not_blank_of_digit hdigit⟩
    · cases h

/-- A text with a value in it is not blank. -/
theorem not_blank_of_readFront {text : String} {v : Value} {r : List Char}
    (h : Value.readFront text = .ok (v, r)) : isBlankText text = false := by
  rw [Value.readFront, maxDepth, Leaves.readNested] at h
  obtain ⟨c, r', hskip, hc⟩ := head_of_readValue h
  have hmem : c ∈ text.toList := by
    refine (List.dropWhile_sublist isSpace).subset ?_
    rw [show text.toList.dropWhile isSpace = c :: r' from hskip]
    exact List.mem_cons_self
  rw [isBlankText, List.all_eq_false]
  exact ⟨c, hmem, by simp [hc]⟩

theorem readFront_of_read {text : String} {v : Value} (h : Value.read text = .ok v) :
    ∃ r, Value.readFront text = .ok (v, r) ∧ readEnd r = .ok () := by
  obtain ⟨⟨w, r⟩, hw, h⟩ := bind_ok h
  obtain ⟨_, hend, h⟩ := bind_ok h
  cases h
  exact ⟨r, hw, hend⟩

theorem isEmpty_of_readEnd {r : List Char} (h : readEnd r = .ok ()) :
    (skipSpace r).isEmpty = true := by
  unfold readEnd at h
  split at h
  · rename_i heq
    simp [heq]
  · cases h

/-- A text that is read exactly is read leniently, as the same value. -/
theorem skim?_of_read {text : String} {v : Value} (h : Value.read text = .ok v) :
    Value.skim? text = some v := by
  obtain ⟨r, hfront, hend⟩ := readFront_of_read h
  have hskim := (readNested_grants skipNested maxDepth hfront).1
  simp [Value.skim?, hskim, isEmpty_of_readEnd hend]

/-- The text of a value that fits is read as that value. -/
theorem read_of_fits {v : Value} (h : v.Fits maxDepth) : Value.read v.render = .ok v := by
  simp [Value.read, readFront_render h, bind, Except.bind, readEnd, skipSpace]

theorem skim?_render {v : Value} (h : v.Fits maxDepth) : Value.skim? v.render = some v :=
  skim?_of_read (read_of_fits h)

end ToggleSync.Json
