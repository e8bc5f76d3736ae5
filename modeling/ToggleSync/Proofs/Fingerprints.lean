-- What a fingerprint tells of a context. Its bytes are those of a text in which every field ends
-- with a bar, every name with an equals sign and every value with a comma. Each part ends where its
-- mark first stands, so contexts are told apart as far as their own texts are free of the marks; an
-- absent field and an empty one never are. A bar within a field merges contexts.
import ToggleSync.Context
import ToggleSync.Proofs.JsonText
import ToggleSync.Proofs.SortedEntries

namespace ToggleSync

/-! ## Bytes of texts -/

theorem byteArray_toList_loop (bs : ByteArray) (i : Nat) (r : List UInt8) :
    ByteArray.toList.loop bs i r = r.reverse ++ bs.data.toList.drop i := by
  fun_induction ByteArray.toList.loop bs i r with
  | case1 i r h ih =>
    have hi : i < bs.data.toList.length := by simpa using h
    rw [ih, List.drop_eq_getElem_cons (l := bs.data.toList) hi]
    simp [ByteArray.get!, h]
  | case2 i r h =>
    rw [List.drop_eq_nil_of_le (by simpa using Nat.le_of_not_lt h)]
    simp

theorem byteArray_toList (bs : ByteArray) : bs.toList = bs.data.toList := by
  simp [ByteArray.toList, byteArray_toList_loop]

/-- The bytes of characters in a row. -/
def charBytes (cs : List Char) : List UInt8 := textBytes (String.ofList cs)

theorem textBytes_eq (s : String) : textBytes s = charBytes s.toList := by
  rw [charBytes, String.ofList_toList]

theorem charBytes_append (cs ds : List Char) :
    charBytes (cs ++ ds) = charBytes cs ++ charBytes ds := by
  simp [charBytes, textBytes, byteArray_toList, String.ofList_append, String.toUTF8]

theorem charBytes_flatMap {α : Type} (write : α → List Char) (as : List α) :
    as.flatMap (fun a => charBytes (write a)) = charBytes (as.flatMap write) := by
  induction as with
  | nil => simp [charBytes, textBytes, byteArray_toList]
  | cons a as ih => rw [List.flatMap_cons, List.flatMap_cons, charBytes_append, ih]

theorem charBytes_inj {cs ds : List Char} : charBytes cs = charBytes ds ↔ cs = ds := by
  constructor
  · intro h
    simp only [charBytes, textBytes, byteArray_toList, Array.toList_inj] at h
    exact String.ofList_inj.mp (String.toByteArray_inj.mp (ByteArray.ext h))
  · rintro rfl
    rfl

/-- What is written in base 16 is read back. -/
theorem hexBytes?_hexText (bytes : List UInt8) : hexBytes? (hexText bytes).toList = some bytes := by
  unfold hexText
  rw [String.toList_ofList]
  induction bytes with
  | nil => rfl
  | cons b bs ih =>
    have hb : b.toNat < 256 := b.toNat_lt
    have hhigh := Json.hexValue?_hexDigit (show b.toNat / 16 < 16 by omega)
    have hlow := Json.hexValue?_hexDigit (show b.toNat % 16 < 16 by omega)
    have hbyte : UInt8.ofNat (b.toNat / 16 * 16 + b.toNat % 16) = b := by
      rw [Nat.div_add_mod' b.toNat 16, UInt8.ofNat_toNat]
    simp only [List.flatMap_cons, List.cons_append, List.nil_append, hexBytes?, hhigh, hlow, ih,
      Option.bind_eq_bind, Option.bind_some, hbyte]

theorem hexText_inj {bytes bytes' : List UInt8} (h : hexText bytes = hexText bytes') :
    bytes = bytes' := by
  have hread := hexBytes?_hexText bytes
  rw [h, hexBytes?_hexText] at hread
  exact (Option.some.inj hread).symm

/-! ## Texts up to a mark -/

/-- A text that ends with a mark ends where the mark first stands. -/
theorem eq_of_marked {mark : Char} {cs cs' rest rest' : List Char} (h : mark ∉ cs)
    (h' : mark ∉ cs') (heq : cs ++ mark :: rest = cs' ++ mark :: rest') :
    cs = cs' ∧ rest = rest' := by
  induction cs generalizing cs' with
  | nil =>
    cases cs' with
    | nil => exact ⟨rfl, (List.cons.inj heq).2⟩
    | cons d ds => exact absurd (List.mem_cons.mpr (.inl (List.cons.inj heq).1)) h'
  | cons c cs ih =>
    cases cs' with
    | nil => exact absurd (List.mem_cons.mpr (.inl (List.cons.inj heq).1.symm)) h
    | cons d ds =>
      obtain ⟨rfl, htail⟩ := List.cons.inj heq
      rw [List.mem_cons, not_or] at h h'
      obtain ⟨rfl, hrest⟩ := ih h.2 h'.2 htail
      exact ⟨rfl, hrest⟩

/-- Fields in a row, each with a bar behind it. -/
def barred (fields : List String) : List Char := fields.flatMap fun f => f.toList ++ ['|']

theorem barred_cons (f : String) (fields : List String) :
    barred (f :: fields) = f.toList ++ '|' :: barred fields := by
  simp [barred]

theorem eq_of_barred {fields fields' : List String} {rest rest' : List Char}
    (hlen : fields.length = fields'.length) (h : ∀ f ∈ fields, '|' ∉ f.toList)
    (h' : ∀ f ∈ fields', '|' ∉ f.toList)
    (heq : barred fields ++ rest = barred fields' ++ rest') :
    fields = fields' ∧ rest = rest' := by
  induction fields generalizing fields' with
  | nil =>
    cases List.length_eq_zero_iff.mp hlen.symm
    exact ⟨rfl, heq⟩
  | cons f fs ih =>
    cases fields' with
    | nil => cases hlen
    | cons g gs =>
      rw [barred_cons, barred_cons, List.append_assoc, List.append_assoc] at heq
      obtain ⟨hf, hfs⟩ := List.forall_mem_cons.mp h
      obtain ⟨hg, hgs⟩ := List.forall_mem_cons.mp h'
      obtain ⟨hfirst, hothers⟩ := eq_of_marked hf hg heq
      obtain ⟨rfl, hrest⟩ := ih (Nat.succ.inj hlen) hfs hgs hothers
      exact ⟨by rw [String.toList_inj.mp hfirst], hrest⟩

/-- A property as it stands in the text of a fingerprint. -/
def propertyChars (p : String × String) : List Char := p.1.toList ++ '=' :: (p.2.toList ++ [','])

/-- Neither mark stands where it would cut a property short. -/
def isClear (p : String × String) : Prop := '=' ∉ p.1.toList ∧ ',' ∉ p.2.toList

instance (p : String × String) : Decidable (isClear p) := inferInstanceAs (Decidable (_ ∧ _))

theorem eq_of_properties {ps ps' : List (String × String)} (h : ∀ p ∈ ps, isClear p)
    (h' : ∀ p ∈ ps', isClear p) (heq : ps.flatMap propertyChars = ps'.flatMap propertyChars) :
    ps = ps' := by
  induction ps generalizing ps' with
  | nil =>
    cases ps' with
    | nil => rfl
    | cons q qs => simp [propertyChars] at heq
  | cons p ps ih =>
    cases ps' with
    | nil => simp [propertyChars] at heq
    | cons q qs =>
      obtain ⟨hp, hps⟩ := List.forall_mem_cons.mp h
      obtain ⟨hq, hqs⟩ := List.forall_mem_cons.mp h'
      simp only [List.flatMap_cons, propertyChars, List.append_assoc, List.cons_append,
        List.nil_append] at heq
      obtain ⟨hname, hbehind⟩ := eq_of_marked hp.1 hq.1 heq
      obtain ⟨hvalue, hothers⟩ := eq_of_marked hp.2 hq.2 hbehind
      have hfirst : p = q :=
        Prod.ext (String.toList_inj.mp hname) (String.toList_inj.mp hvalue)
      rw [hfirst, ih hps hqs hothers]

/-! ## The text of a fingerprint -/

namespace Context

/-- The fields that a fingerprint is made of. An absent one counts as empty. -/
def hashedFields (c : Context) : List String :=
  [c.userId.getD "", c.sessionId.getD "", c.remoteAddress.getD "", c.environment.getD ""]

theorem fingerprintBytes_eq (c : Context) (toggle : String) :
    c.fingerprintBytes toggle =
      charBytes (toggle.toList ++ '|' ::
        (barred c.hashedFields ++ c.properties.sorted.flatMap propertyChars)) := by
  have hfield (f : Option String) : textBytes (f.getD "") ++ textBytes "|" =
      charBytes ((f.getD "").toList ++ ['|']) := by
    rw [charBytes_append, ← textBytes_eq]
    rfl
  have hproperty (p : String × String) :
      textBytes p.1 ++ textBytes "=" ++ textBytes p.2 ++ textBytes "," =
        charBytes (propertyChars p) := by
    rw [textBytes_eq, textBytes_eq, textBytes_eq, textBytes_eq, ← charBytes_append,
      ← charBytes_append, ← charBytes_append]
    simp [propertyChars]
  calc c.fingerprintBytes toggle
    _ = textBytes toggle ++ textBytes "|" ++ charBytes (barred c.hashedFields) ++
        charBytes (c.properties.sorted.flatMap propertyChars) := by
      simp only [fingerprintBytes, hfield, hproperty, charBytes_flatMap]
      rfl
    _ = charBytes (toggle.toList ++ '|' ::
        (barred c.hashedFields ++ c.properties.sorted.flatMap propertyChars)) := by
      rw [textBytes_eq, textBytes_eq, ← charBytes_append, ← charBytes_append, ← charBytes_append]
      simp

/-- Two contexts whose bytes are the same have the same text behind the name of the toggle. -/
theorem fingerprintBytes_eq_iff (c c' : Context) (toggle : String) :
    c.fingerprintBytes toggle = c'.fingerprintBytes toggle ↔
      barred c.hashedFields ++ c.properties.sorted.flatMap propertyChars =
        barred c'.hashedFields ++ c'.properties.sorted.flatMap propertyChars := by
  rw [fingerprintBytes_eq, fingerprintBytes_eq, charBytes_inj, List.append_cancel_left_eq,
    List.cons_inj_right]

/-- Contexts that agree in what a fingerprint is made of. -/
structure Alike (c c' : Context) : Prop where
  fields : c.hashedFields = c'.hashedFields
  properties : ∀ name, c.properties.get? name = c'.properties.get? name

/-- A context of which no text has a mark that would cut it short. -/
structure Unmarked (c : Context) : Prop where
  fields : ∀ f ∈ c.hashedFields, '|' ∉ f.toList
  properties : ∀ p ∈ c.properties.entries, isClear p

theorem Unmarked.sorted {c : Context} (h : c.Unmarked) : ∀ p ∈ c.properties.sorted, isClear p :=
  fun p hp => h.properties p (c.properties.perm_sorted.subset hp)

theorem bytes_of_alike {c c' : Context} (h : c.Alike c') (toggle : String) :
    c.fingerprintBytes toggle = c'.fingerprintBytes toggle := by
  rw [fingerprintBytes_eq_iff, h.fields, (Table.sorted_eq_iff _ _).mpr h.properties]

theorem alike_of_bytes {c c' : Context} (h : c.Unmarked) (h' : c'.Unmarked) {toggle : String}
    (heq : c.fingerprintBytes toggle = c'.fingerprintBytes toggle) : c.Alike c' := by
  rw [fingerprintBytes_eq_iff] at heq
  have hlen : c.hashedFields.length = c'.hashedFields.length := rfl
  obtain ⟨hfields, hrest⟩ := eq_of_barred hlen h.fields h'.fields heq
  have hsorted := eq_of_properties h.sorted h'.sorted hrest
  exact ⟨hfields, (Table.sorted_eq_iff _ _).mp hsorted⟩

end Context

/-! ## Bars in fields -/

theorem exists_cut {f : String} (h : '|' ∈ f.toList) : ∃ a b, f = a ++ "|" ++ b := by
  obtain ⟨cs, ds, hcut⟩ := List.append_of_mem h
  refine ⟨.ofList cs, .ofList ds, String.toList_inj.mp ?_⟩
  simp [hcut]

theorem length_cut (a b : String) : (a ++ "|" ++ b).length = a.length + b.length + 1 := by
  simp only [String.length_append]
  have hbar : "|".length = 1 := rfl
  omega

/-- What is behind a bar in a field may as well be the beginning of the next field. -/
theorem barred_cut (a b g : String) (rest : List String) :
    barred ((a ++ "|" ++ b) :: g :: rest) = barred (a :: (b ++ "|" ++ g) :: rest) := by
  simp [barred_cons]

/-- Of several fields with a bar in one of them there are others with the same text. -/
theorem exists_barred_eq {fields : List String} (hlen : 2 ≤ fields.length)
    (h : ∃ f ∈ fields, '|' ∈ f.toList) :
    ∃ fields', fields'.length = fields.length ∧ fields' ≠ fields ∧
      barred fields' = barred fields := by
  induction fields with
  | nil => cases hlen
  | cons f fs ih =>
    cases fs with
    | nil => exact absurd hlen (by simp)
    | cons g rest =>
      by_cases hf : '|' ∈ f.toList
      · obtain ⟨a, b, rfl⟩ := exists_cut hf
        refine ⟨a :: (b ++ "|" ++ g) :: rest, rfl, ?_, (barred_cut a b g rest).symm⟩
        intro hsame
        have hfirst := congrArg String.length (List.cons.inj hsame).1
        have hcut := length_cut a b
        omega
      by_cases hg : '|' ∈ g.toList
      · obtain ⟨a, b, rfl⟩ := exists_cut hg
        refine ⟨(f ++ "|" ++ a) :: b :: rest, rfl, ?_, barred_cut f a b rest⟩
        intro hsame
        have hfirst := congrArg String.length (List.cons.inj hsame).1
        have hcut := length_cut f a
        omega
      · obtain ⟨x, hx, hbar⟩ := h
        have hrest : x ∈ rest := by
          rcases List.mem_cons.mp hx with rfl | hx
          · exact absurd hbar hf
          rcases List.mem_cons.mp hx with rfl | hx
          · exact absurd hbar hg
          · exact hx
        have hmore : 2 ≤ (g :: rest).length :=
          Nat.succ_le_succ (List.length_pos_of_mem hrest)
        obtain ⟨fields', hlen', hne, hsame⟩ := ih hmore ⟨x, List.mem_cons_of_mem g hrest, hbar⟩
        refine ⟨f :: fields', congrArg (· + 1) hlen', ?_, ?_⟩
        · intro heq
          exact hne (List.cons.inj heq).2
        · rw [barred_cons, barred_cons, hsame]

namespace Context

/-- Any four texts are the fields of a context with given properties. -/
theorem exists_hashedFields {fields : List String} (h : fields.length = 4)
    (properties : Table String) :
    ∃ c : Context, c.hashedFields = fields ∧ c.properties = properties := by
  match fields, h with
  | [user, session, address, environment], _ =>
    exact ⟨⟨some user, some session, some address, some environment, none, none, properties⟩,
      rfl, rfl⟩

/-- A bar in a field makes a context one of at least two that are not told apart. -/
theorem exists_twin {c : Context} (h : ∃ f ∈ c.hashedFields, '|' ∈ f.toList) :
    ∃ c' : Context, c'.properties = c.properties ∧ c'.hashedFields ≠ c.hashedFields ∧
      ∀ toggle, c'.fingerprintBytes toggle = c.fingerprintBytes toggle := by
  have hfour : 2 ≤ c.hashedFields.length := Nat.le_add_left 2 2
  obtain ⟨fields', hlen, hne, hsame⟩ := exists_barred_eq hfour h
  obtain ⟨c', hfields, hproperties⟩ := exists_hashedFields hlen c.properties
  refine ⟨c', hproperties, hfields ▸ hne, fun toggle => ?_⟩
  rw [fingerprintBytes_eq_iff, hfields, hproperties, hsame]

/-! ## The law -/

/-- Contexts that agree in their fields and their properties have the same bytes, where an absent
field agrees with an empty one. Of contexts without marks only such contexts have the same bytes, so
that others have different fingerprints but for a collision of hashes. Each context with a bar in
a field has the bytes of another one, whose fields are different. -/
theorem unmarked_contexts_are_told_apart (toggle : String) :
    (∀ c c' : Context, c.Alike c' → c.fingerprintBytes toggle = c'.fingerprintBytes toggle) ∧
    (∀ c c' : Context, c.Unmarked → c'.Unmarked →
      c.fingerprintBytes toggle = c'.fingerprintBytes toggle → c.Alike c') ∧
    (∀ c c' : Context, c.Unmarked → c'.Unmarked → c.fingerprint toggle = c'.fingerprint toggle →
      c.Alike c' ∨
        (c.fingerprintBytes toggle ≠ c'.fingerprintBytes toggle ∧
          Digest.sha256 (c.fingerprintBytes toggle) =
            Digest.sha256 (c'.fingerprintBytes toggle))) ∧
    (∀ c : Context, (∃ f ∈ c.hashedFields, '|' ∈ f.toList) →
      ∃ c' : Context, c'.properties = c.properties ∧ c'.hashedFields ≠ c.hashedFields ∧
        c'.fingerprintBytes toggle = c.fingerprintBytes toggle) := by
  refine ⟨fun _ _ h => bytes_of_alike h toggle, fun _ _ h h' heq => alike_of_bytes h h' heq, ?_, ?_⟩
  · intro c c' h h' heq
    by_cases hbytes : c.fingerprintBytes toggle = c'.fingerprintBytes toggle
    · exact .inl (alike_of_bytes h h' hbytes)
    · exact .inr ⟨hbytes, hexText_inj heq⟩
  · intro c h
    obtain ⟨c', hproperties, hfields, hbytes⟩ := exists_twin h
    exact ⟨c', hproperties, hfields, hbytes toggle⟩

/-- A user and a session of one name, each with a tenant, are told apart. -/
theorem a_user_is_no_session :
    let user := (empty.setField "userId" "42").setField "tenant" "a|b"
    let session := (empty.setField "sessionId" "42").setField "tenant" "a|b"
    user.Unmarked ∧ session.Unmarked ∧
      user.fingerprintBytes "theme" ≠ session.fingerprintBytes "theme" := by
  intro user session
  have huser : user.Unmarked := ⟨by decide, by decide⟩
  have hsession : session.Unmarked := ⟨by decide, by decide⟩
  refine ⟨huser, hsession, fun hbytes => ?_⟩
  have halike := (unmarked_contexts_are_told_apart "theme").2.1 user session huser hsession hbytes
  exact absurd halike.fields (by decide)

/-- A bar belongs to the user or to the session, a comma to a value or to two properties, and nobody
is as good as a user without a name. -/
theorem different_contexts_have_one_fingerprint :
    let early := (empty.setField "userId" "a").setField "sessionId" "b|c"
    let late := (empty.setField "userId" "a|b").setField "sessionId" "c"
    let one := empty.setField "x" "1,y=2"
    let two := (empty.setField "x" "1").setField "y" "2"
    let nobody := empty.setField "userId" ""
    (early.userId ≠ late.userId ∧ early.sessionId ≠ late.sessionId) ∧
      one.properties.get? "y" ≠ two.properties.get? "y" ∧ nobody.userId ≠ empty.userId ∧
      ∀ toggle, early.fingerprintBytes toggle = late.fingerprintBytes toggle ∧
        one.fingerprintBytes toggle = two.fingerprintBytes toggle ∧
        nobody.fingerprintBytes toggle = empty.fingerprintBytes toggle := by
  intro early late one two nobody
  have hfields : barred early.hashedFields = barred late.hashedFields := by decide
  have hone : one.properties.sorted = one.properties.entries := Table.sorted_of_ordered (by decide)
  have htwo : two.properties.sorted = two.properties.entries := Table.sorted_of_ordered (by decide)
  have hproperties : one.properties.entries.flatMap propertyChars =
      two.properties.entries.flatMap propertyChars := by decide
  refine ⟨⟨by decide, by decide⟩, by decide, by decide, fun toggle => ⟨?_, ?_, ?_⟩⟩
  · rw [fingerprintBytes_eq_iff, hfields]
    rfl
  · rw [fingerprintBytes_eq_iff, hone, htwo, hproperties]
    rfl
  · exact bytes_of_alike ⟨rfl, fun _ => rfl⟩ toggle

end Context

end ToggleSync
