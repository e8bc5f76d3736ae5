-- The compact text of a JSON value is read back as that value. A text is a value's own from its
-- first character, so what stands behind it is left for the next reader.
import ToggleSync.Json.Reader

namespace ToggleSync.Json

/-! ## Quoted texts -/

theorem hexValue?_hexDigit {n : Nat} (h : n < 16) : hexValue? (hexDigit n) = some n := by
  revert n
  decide

/-- The characters that are written as a backslash and one letter. -/
theorem readEscape_of_unescape {x c : Char} (h : unescape? x = some c) (r : List Char) :
    readEscape (x :: r) = .ok (c, r) := by
  have hu : x ≠ 'u' := by
    rintro rfl
    cases h
  unfold readEscape
  split
  · rename_i heq
    cases heq
  · rename_i heq
    cases heq
    exact absurd rfl hu
  · rename_i heq
    cases heq
    rw [h]

/-- A control character is written by its number. -/
theorem readEscape_control {c : Char} (h : c.toNat < 0x20) (r : List Char) :
    readEscape ('u' :: '0' :: '0' :: hexDigit (c.toNat / 16) :: hexDigit (c.toNat % 16) :: r) =
      .ok (c, r) := by
  have h0 : hexValue? '0' = some 0 := by decide
  have h1 := hexValue?_hexDigit (show c.toNat / 16 < 16 by omega)
  have h2 := hexValue?_hexDigit (show c.toNat % 16 < 16 by omega)
  have hn : 0 * 4096 + 0 * 256 + c.toNat / 16 * 16 + c.toNat % 16 = c.toNat := by omega
  have hlow : isLowSurrogate c.toNat = false := by
    simp only [isLowSurrogate, Bool.and_eq_false_iff, decide_eq_false_iff_not]
    omega
  have hhigh : isHighSurrogate c.toNat = false := by
    simp only [isHighSurrogate, Bool.and_eq_false_iff, decide_eq_false_iff_not]
    omega
  simp only [readEscape, readUnit, readHex, h0, h1, h2, hn, bind, Except.bind, hlow, hhigh,
    Bool.false_eq_true, if_false, Char.ofNat_toNat]

/-- A character is read back from the way it stands in a quoted text. -/
theorem readChars_escape (c : Char) (n : Nat) (r : List Char) :
    readChars readEscape id (n + 1) (escape c ++ r) = (do
      let (cs, r) ← readChars readEscape id n r
      .ok (c :: cs, r)) := by
  have hletter : ∀ {x : Char}, unescape? x = some c → readChars readEscape id (n + 1)
      ('\\' :: x :: r) = (do
        let (cs, r) ← readChars readEscape id n r
        .ok (c :: cs, r)) := by
    intro x hx
    rw [readChars]
    simp only [readEscape_of_unescape hx]
    rfl
  unfold escape
  split
  · exact hletter rfl
  · exact hletter rfl
  · exact hletter rfl
  · exact hletter rfl
  · exact hletter rfl
  · exact hletter rfl
  · exact hletter rfl
  · rename_i hquote hslash _ _ _ _ _
    split
    · rename_i hc
      simp only [List.cons_append, List.nil_append]
      rw [readChars]
      simp only [readEscape_control hc]
      rfl
    · rename_i hc
      simp only [List.cons_append, List.nil_append]
      rw [readChars]
      · simp only [hc, if_false]
        rfl
      · exact hquote
      · exact hslash

theorem readChars_quoted (cs : List Char) (n : Nat) (h : cs.length < n) (r : List Char) :
    readChars readEscape id n (cs.flatMap escape ++ '"' :: r) = .ok (cs, r) := by
  induction cs generalizing n with
  | nil =>
    cases n with
    | zero => cases h
    | succ n => rfl
  | cons c cs ih =>
    cases n with
    | zero => cases h
    | succ n =>
      have hlen : cs.length < n := Nat.lt_of_succ_lt_succ h
      rw [List.flatMap_cons, List.append_assoc, readChars_escape, ih n hlen]
      rfl

theorem length_le_flatMap_escape (cs : List Char) : cs.length ≤ (cs.flatMap escape).length := by
  induction cs with
  | nil => exact Nat.le_refl 0
  | cons c cs ih =>
    have hpos : 1 ≤ (escape c).length := by
      unfold escape
      split
      all_goals first | exact Nat.le_add_left _ _ | skip
      split <;> exact Nat.le_add_left _ _
    rw [List.flatMap_cons, List.length_append, List.length_cons]
    omega

/-- A quoted text is read back, from behind its first quote. -/
theorem readText_quote (s : String) (r : List Char) :
    readText (s.toList.flatMap escape ++ '"' :: r) = .ok (s, r) := by
  have hlen := length_le_flatMap_escape s.toList
  unfold readText
  rw [readChars_quoted _ _ (by simp only [List.length_append, List.length_cons]; omega)]
  simp only [bind, Except.bind, String.ofList_toList]

/-! ## Numbers -/

/-- Nothing in front of which a number would go on. -/
def EndsNumber (r : List Char) : Prop :=
  ∀ c ∈ r.head?, isAsciiDigit c = false ∧ c ≠ '.' ∧ c ≠ 'e' ∧ c ≠ 'E'

theorem isAsciiDigit_of_isDigit {c : Char} (h : c.isDigit = true) : isAsciiDigit c = true := by
  simpa [isAsciiDigit, Char.isDigit, Char.le_def] using h

theorem digits_of_toDigits (n : Nat) : ∀ c ∈ Nat.toDigits 10 n, isAsciiDigit c = true :=
  fun _ hc => isAsciiDigit_of_isDigit (Nat.isDigit_of_mem_toDigits (by decide) (by decide) hc)

/-- No number but zero begins with a zero. -/
theorem head_toDigits {n : Nat} (h : n ≠ 0) : (Nat.toDigits 10 n).head? ≠ some '0' := by
  induction n using Nat.strongRecOn with
  | ind n ih =>
    rw [Nat.toDigits_eq_if (by decide)]
    split
    · simpa using h
    · rename_i hge
      have hdiv := ih (n / 10) (by omega) (by omega)
      rw [List.head?_append]
      cases hd : (Nat.toDigits 10 (n / 10)).head? with
      | none => exact absurd (List.head?_eq_none_iff.mp hd) Nat.toDigits_ne_nil
      | some c =>
        rw [hd] at hdiv
        exact hdiv

theorem le_ofDigitChars (cs : List Char) (n : Nat) : n ≤ Nat.ofDigitChars 10 cs n := by
  induction cs generalizing n with
  | nil => simp
  | cons c cs ih =>
    rw [Nat.ofDigitChars_cons]
    have := ih (10 * n + (c.toNat - '0'.toNat))
    omega

theorem gather_of_lt {limit : Nat} (cs : List Char) (n : Nat)
    (h : Nat.ofDigitChars 10 cs n < limit) :
    gather limit n cs = (Nat.ofDigitChars 10 cs n, []) := by
  induction cs generalizing n with
  | nil => simp [gather]
  | cons c cs ih =>
    have hstep : n * 10 + digitValue c = 10 * n + (c.toNat - '0'.toNat) := by
      rw [Nat.mul_comm]
      rfl
    rw [Nat.ofDigitChars_cons] at h ⊢
    have hle := le_ofDigitChars cs (10 * n + (c.toNat - '0'.toNat))
    rw [gather, hstep, if_pos (by omega)]
    exact ih _ h

theorem takeWhile_digits {ds r : List Char} (hd : ∀ c ∈ ds, isAsciiDigit c = true)
    (hr : EndsNumber r) : (ds ++ r).takeWhile isAsciiDigit = ds ∧
      (ds ++ r).dropWhile isAsciiDigit = r := by
  rw [List.takeWhile_append_of_pos hd, List.dropWhile_append_of_pos hd]
  cases r with
  | nil => exact ⟨List.append_nil _, rfl⟩
  | cons c r =>
    have hc := (hr c rfl).1
    rw [List.takeWhile_cons_of_neg (by simp [hc]), List.dropWhile_cons_of_neg (by simp [hc])]
    exact ⟨List.append_nil _, rfl⟩

theorem readFraction_of_end (lit : Literal) {r : List Char} (hr : EndsNumber r) :
    lit.readFraction r = .ok (lit, r) := by
  cases r with
  | nil => rfl
  | cons c r =>
    obtain ⟨_, hdot, he, hE⟩ := hr c rfl
    unfold Literal.readFraction Literal.readEnd
    split
    · rename_i heq
      cases heq
      exact absurd rfl hdot
    · split
      · rename_i heq
        cases heq
        exact absurd rfl he
      · rename_i heq
        cases heq
        exact absurd rfl hE
      · rfl

theorem read_toDigits (n : Nat) {r : List Char} (hr : EndsNumber r) :
    Literal.read false (Nat.toDigits 10 n ++ r) =
      .ok (⟨false, Nat.toDigits 10 n, [], none, true⟩, r) := by
  by_cases hn : n = 0
  · subst hn
    rw [Nat.toDigits_zero]
    have hdigit : (r.head?.map isAsciiDigit).getD false = false := by
      cases r with
      | nil => rfl
      | cons c r => exact (hr c rfl).1
    simp only [List.cons_append, List.nil_append, Literal.read, hdigit, Bool.false_eq_true,
      if_false]
    exact readFraction_of_end _ hr
  · have hzero := head_toDigits hn
    have hdigits := digits_of_toDigits n
    obtain ⟨htake, hdrop⟩ := takeWhile_digits hdigits hr
    cases hds : Nat.toDigits 10 n with
    | nil => exact absurd hds Nat.toDigits_ne_nil
    | cons c cs =>
      rw [hds] at hzero hdigits htake hdrop
      have hc : isAsciiDigit c = true := hdigits c List.mem_cons_self
      rw [List.cons_append] at htake hdrop ⊢
      unfold Literal.read
      split
      · rename_i heq
        cases heq
      · rename_i heq
        cases heq
        exact absurd rfl hzero
      · rename_i heq
        cases heq
        simp only [hc, if_true, htake, hdrop]
        exact readFraction_of_end _ hr

/-- A whole number of 64 bits is read back. -/
theorem readNumber_toDigits {n : Nat} (hn : n < UInt64.size) {r : List Char}
    (hr : EndsNumber r) : Leaves.exact.readNumber false (Nat.toDigits 10 n ++ r) =
      .ok (.natural n, r) := by
  have hvalue : Literal.value ⟨false, Nat.toDigits 10 n, [], none, true⟩ = .ok (.natural n) := by
    have hlt : Nat.ofDigitChars 10 (Nat.toDigits 10 n) 0 < UInt64.size := by
      rw [Nat.ofDigitChars_ten_toDigits]
      exact hn
    have hg := gather_of_lt (Nat.toDigits 10 n) 0 hlt
    rw [Nat.ofDigitChars_ten_toDigits] at hg
    simp only [Literal.value, hg]
    rfl
  unfold Leaves.readNumber
  rw [read_toDigits n hr]
  simp only [bind, Except.bind, Leaves.exact, hvalue]

/-! ## Values -/

/-- A value that can be written without loss, and opens at most so many brackets at a time. -/
def Value.Fits : Nat → Value → Prop
  | _, .null => True
  | _, .bool _ => True
  | _, .natural n => n < UInt64.size
  | _, .text _ => True
  | depth + 1, .array vs => ∀ v ∈ vs, v.Fits depth
  | depth + 1, .object ms => ∀ m ∈ ms, m.2.Fits depth
  | _, _ => False

/-- The reader takes the text of the value from the front, and nothing more. -/
def Reads (item : Reader Value) (v : Value) : Prop :=
  ∀ {r : List Char}, EndsNumber r → item (v.chars ++ r) = .ok (v, r)

theorem skipSpace_cons {c : Char} (h : isSpace c = false) (r : List Char) :
    skipSpace (c :: r) = c :: r := by
  rw [skipSpace, List.dropWhile_cons_of_neg (by simp [h])]

theorem isSpace_of_digit {c : Char} (h : isAsciiDigit c = true) : isSpace c = false := by
  simp only [isSpace, Bool.or_eq_false_iff, beq_eq_false_iff_ne]
  refine ⟨⟨⟨?_, ?_⟩, ?_⟩, ?_⟩ <;> rintro rfl <;> exact absurd h (by decide)

/-- A value begins with a character that is no space and closes no list. -/
theorem head_chars {depth : Nat} {v : Value} (h : v.Fits depth) :
    ∃ c cs, v.chars = c :: cs ∧ isSpace c = false ∧ c ≠ ']' := by
  cases v with
  | null => exact ⟨_, _, rfl, by decide, by decide⟩
  | bool b => cases b <;> exact ⟨_, _, rfl, by decide, by decide⟩
  | natural n =>
    rw [Value.chars]
    cases hds : Nat.toDigits 10 n with
    | nil => exact absurd hds Nat.toDigits_ne_nil
    | cons c cs =>
      have hc := digits_of_toDigits n c (by rw [hds]; exact List.mem_cons_self)
      refine ⟨c, cs, rfl, isSpace_of_digit hc, ?_⟩
      rintro rfl
      exact absurd hc (by decide)
  | number literal => cases depth <;> exact absurd h (by simp [Value.Fits])
  | text s => exact ⟨_, _, rfl, by decide, by decide⟩
  | array vs => cases vs <;> exact ⟨'[', _, rfl, by decide, by decide⟩
  | object ms => cases ms <;> exact ⟨'\x7b', _, rfl, by decide, by decide⟩
  | broken => cases depth <;> exact absurd h (by simp [Value.Fits])

theorem readValue_digit (leaves : Leaves) (nested : Char → Reader Value) {c : Char}
    (h : isAsciiDigit c = true) (r : List Char) :
    leaves.readValue nested (c :: r) = leaves.readNumber false (c :: r) := by
  unfold Leaves.readValue
  rw [skipSpace_cons (isSpace_of_digit h)]
  split
  all_goals
    rename_i heq
    cases heq
  all_goals first
    | exact absurd h (by decide)
    | rw [if_pos h]

theorem readValue_scalar (nested : Char → Reader Value) {v : Value} (h : v.Fits 0) :
    Reads (Leaves.exact.readValue nested) v := by
  intro r hr
  cases v with
  | null => rfl
  | bool b => cases b <;> rfl
  | natural n =>
    have hread := readNumber_toDigits h hr
    rw [Value.chars]
    cases hds : Nat.toDigits 10 n with
    | nil => exact absurd hds Nat.toDigits_ne_nil
    | cons c cs =>
      have hc := digits_of_toDigits n c (by rw [hds]; exact List.mem_cons_self)
      rw [hds] at hread
      rw [List.cons_append, readValue_digit _ _ hc]
      exact hread
  | text s =>
    have hread := readText_quote s r
    simp only [Value.chars, quote, List.cons_append, List.append_assoc, List.nil_append]
    unfold Leaves.readValue
    rw [skipSpace_cons (by decide)]
    simp only [Leaves.readString, Leaves.exact, hread, bind, Except.bind]
    rfl
  | number literal => exact absurd h (by simp [Value.Fits])
  | array vs => exact absurd h (by simp [Value.Fits])
  | object ms => exact absurd h (by simp [Value.Fits])
  | broken => exact absurd h (by simp [Value.Fits])

/-! ## Lists of items and members -/

theorem endsNumber_nil : EndsNumber [] := by
  intro c hc
  cases hc

theorem endsNumber_cons {c : Char} (h : isAsciiDigit c = false ∧ c ≠ '.' ∧ c ≠ 'e' ∧ c ≠ 'E')
    (r : List Char) : EndsNumber (c :: r) := by
  intro x hx
  cases hx
  exact h

theorem endsNumber_itemChars (vs : List Value) (r : List Char) :
    EndsNumber (itemChars vs ++ r) := by
  cases vs with
  | nil => exact endsNumber_cons (by decide) _
  | cons v vs => exact endsNumber_cons (by decide) _

theorem endsNumber_memberChars (ms : List (String × Value)) (r : List Char) :
    EndsNumber (memberChars ms ++ r) := by
  cases ms with
  | nil => exact endsNumber_cons (by decide) _
  | cons m ms => exact endsNumber_cons (by decide) _

/-- An item, and the items behind it. -/
def readItem (item : Reader Value) (n : Nat) (cs : List Char) :
    Except Fault (List Value × List Char) := do
  let (v, r) ← item cs
  let (vs, r) ← readItems item n false r
  .ok (v :: vs, r)

theorem readItems_first {item : Reader Value} {n : Nat} {c : Char} (hs : isSpace c = false)
    (hc : c ≠ ']') (r : List Char) :
    readItems item (n + 1) true (c :: r) = readItem item n (c :: r) := by
  rw [readItems, skipSpace_cons hs]
  split
  · rename_i heq
    cases heq
  · rename_i heq
    cases heq
    exact absurd rfl hc
  · rename_i heq
    cases heq
    rfl

theorem readItems_comma {item : Reader Value} {n : Nat} {c : Char} (hs : isSpace c = false)
    (hc : c ≠ ']') (r : List Char) :
    readItems item (n + 1) false (',' :: c :: r) = readItem item n (c :: r) := by
  rw [readItems, skipSpace_cons (by decide)]
  split
  · rename_i heq
    cases heq
  · rename_i heq
    cases heq
  · rename_i heq
    cases heq
    simp only [Bool.false_eq_true, if_false, beq_self_eq_true, if_true, skipSpace_cons hs]
    split
    · rename_i heq
      cases heq
    · rename_i heq
      cases heq
      exact absurd rfl hc
    · rfl

/-- Items are read back from behind the first, each with the comma before it. -/
theorem readItems_itemChars {item : Reader Value} {depth : Nat} {vs : List Value}
    (hfits : ∀ v ∈ vs, v.Fits depth) (hreads : ∀ v ∈ vs, Reads item v) {n : Nat}
    (hn : vs.length < n) (r : List Char) :
    readItems item n false (itemChars vs ++ r) = .ok (vs, r) := by
  induction vs generalizing n with
  | nil =>
    cases n with
    | zero => cases hn
    | succ n => rfl
  | cons v vs ih =>
    cases n with
    | zero => cases hn
    | succ n =>
      have hrest := ih (fun w hw => hfits w (List.mem_cons_of_mem _ hw))
        (fun w hw => hreads w (List.mem_cons_of_mem _ hw)) (Nat.lt_of_succ_lt_succ hn)
      have hv := hreads v List.mem_cons_self (endsNumber_itemChars vs r)
      obtain ⟨c, cs, hchars, hspace, hclose⟩ := head_chars (hfits v List.mem_cons_self)
      rw [hchars, List.cons_append] at hv
      simp only [itemChars, hchars, List.cons_append, List.append_assoc]
      rw [readItems_comma hspace hclose, readItem, hv]
      simp only [bind, Except.bind, hrest]

theorem length_lt_itemChars (vs : List Value) : vs.length < (itemChars vs).length := by
  induction vs with
  | nil => exact Nat.zero_lt_one
  | cons v vs ih =>
    simp only [itemChars, List.length_cons, List.length_append]
    omega

/-- A member, and the members behind it, from behind the quote of its key. -/
def readMember (leaves : Leaves) (item : Reader Value) (n : Nat) (cs : List Char) :
    Except Fault (Members × List Char) := do
  let (k, r) ← leaves.text cs
  let (v, r) ← readMemberValue item r
  let (ms, r) ← readMembers leaves item n false r
  .ok ((k, v) :: ms, r)

theorem readMembers_first (leaves : Leaves) (item : Reader Value) (n : Nat) (r : List Char) :
    readMembers leaves item (n + 1) true ('"' :: r) = readMember leaves item n r := rfl

theorem readMembers_comma (leaves : Leaves) (item : Reader Value) (n : Nat) (r : List Char) :
    readMembers leaves item (n + 1) false (',' :: '"' :: r) = readMember leaves item n r := rfl

/-- One member is read back, with all that is read of the members behind it. -/
theorem readMember_quote {item : Reader Value} {n : Nat} {k : String} {v : Value}
    (hv : Reads item v) {rest : List Char} (hr : EndsNumber rest) {ms : Members}
    {r : List Char} (hrest : readMembers Leaves.exact item n false rest = .ok (ms, r)) :
    readMember Leaves.exact item n
        (k.toList.flatMap escape ++ '"' :: ':' :: (v.chars ++ rest)) =
      .ok ((some k, v) :: ms, r) := by
  have hkey := readText_quote k (':' :: (v.chars ++ rest))
  have hvalue : readMemberValue item (':' :: (v.chars ++ rest)) = .ok (v, rest) := by
    unfold readMemberValue
    rw [skipSpace_cons (by decide)]
    exact hv hr
  have htext : Leaves.exact.text (k.toList.flatMap escape ++ '"' :: ':' :: (v.chars ++ rest)) =
      .ok (some k, ':' :: (v.chars ++ rest)) := by
    simp only [Leaves.exact, hkey, bind, Except.bind]
  unfold readMember
  simp only [htext, hvalue, hrest, bind, Except.bind]

/-- Members are read back from behind the first, each with the comma before it. -/
theorem readMembers_memberChars {item : Reader Value} {ms : List (String × Value)}
    (hreads : ∀ m ∈ ms, Reads item m.2) {n : Nat} (hn : ms.length < n) (r : List Char) :
    readMembers Leaves.exact item n false (memberChars ms ++ r) =
      .ok (ms.map fun m => (some m.1, m.2), r) := by
  induction ms generalizing n with
  | nil =>
    cases n with
    | zero => cases hn
    | succ n => rfl
  | cons m ms ih =>
    obtain ⟨k, v⟩ := m
    cases n with
    | zero => cases hn
    | succ n =>
      have hrest := ih (fun w hw => hreads w (List.mem_cons_of_mem _ hw))
        (Nat.lt_of_succ_lt_succ hn)
      have hv : Reads item v := hreads (k, v) List.mem_cons_self
      simp only [memberChars, quote, List.cons_append, List.append_assoc, List.nil_append]
      rw [readMembers_comma]
      exact readMember_quote hv (endsNumber_memberChars ms r) hrest

theorem length_lt_memberChars (ms : List (String × Value)) :
    ms.length < (memberChars ms).length := by
  induction ms with
  | nil => exact Nat.zero_lt_one
  | cons m ms ih =>
    obtain ⟨k, v⟩ := m
    simp only [memberChars, List.length_cons, List.length_append]
    omega

theorem ofMembers_of_keys (ms : List (String × Value)) :
    Value.ofMembers (ms.map fun m => (some m.1, m.2)) = .object ms := by
  have hkeys : (ms.map fun m => (some m.1, m.2)).mapM
      (fun x : Option String × Value => x.1.map (·, x.2)) = some ms := by
    induction ms with
    | nil => rfl
    | cons m ms ih =>
      simp only [List.map_cons, List.mapM_cons, ih]
      rfl
  unfold Value.ofMembers
  rw [hkeys]

/-! ## Whole values -/

/-- A value that fits is read back from its compact text, and what is behind it is left. -/
theorem readNested_chars {depth : Nat} {v : Value} (h : v.Fits depth) :
    Reads (Leaves.exact.readNested tooDeep depth) v := by
  induction depth generalizing v with
  | zero => exact readValue_scalar tooDeep h
  | succ depth ih =>
    intro r hr
    cases v with
    | array vs =>
      cases vs with
      | nil => rfl
      | cons v vs =>
        have hfits : ∀ w ∈ v :: vs, w.Fits depth := h
        have hrest := readItems_itemChars (n := (v.chars ++ (itemChars vs ++ r)).length)
          (fun w hw => hfits w (List.mem_cons_of_mem _ hw))
          (fun w hw => ih (hfits w (List.mem_cons_of_mem _ hw)))
          (by have := length_lt_itemChars vs; simp only [List.length_append]; omega) r
        have hv := ih (hfits v List.mem_cons_self) (endsNumber_itemChars vs r)
        obtain ⟨c, cs, hchars, hspace, hclose⟩ := head_chars (hfits v List.mem_cons_self)
        rw [hchars, List.cons_append] at hv hrest
        simp only [Value.chars, hchars, List.cons_append, List.append_assoc]
        rw [Leaves.readNested, Leaves.readValue, skipSpace_cons (by decide)]
        simp only [beq_self_eq_true, if_true]
        rw [readItems_first hspace hclose, readItem, hv]
        simp only [bind, Except.bind, hrest]
    | object ms =>
      cases ms with
      | nil => rfl
      | cons m ms =>
        obtain ⟨k, v⟩ := m
        have hfits : ∀ w ∈ (k, v) :: ms, w.2.Fits depth := h
        have hrest := readMembers_memberChars
          (n := (k.toList.flatMap escape ++
            '"' :: ':' :: (v.chars ++ (memberChars ms ++ r))).length + 1)
          (fun w hw => ih (hfits w (List.mem_cons_of_mem _ hw)))
          (by
            have := length_lt_memberChars ms
            simp only [List.length_append, List.length_cons]
            omega) r
        have hv : Reads _ v := ih (hfits (k, v) List.mem_cons_self)
        have hmember := readMember_quote (k := k) hv (endsNumber_memberChars ms r) hrest
        simp only [Value.chars, quote, List.cons_append, List.append_assoc, List.nil_append]
        rw [Leaves.readNested, Leaves.readValue, skipSpace_cons (by decide)]
        simp only [beq_iff_eq, Char.reduceEq, if_false, List.length_cons]
        rw [readMembers_first, hmember]
        have hobject := ofMembers_of_keys ((k, v) :: ms)
        rw [List.map_cons] at hobject
        simp only [bind, Except.bind, hobject]
    | null => exact readValue_scalar (v := .null) _ h hr
    | bool b => exact readValue_scalar (v := .bool b) _ h hr
    | natural n => exact readValue_scalar (v := .natural n) _ h hr
    | text s => exact readValue_scalar (v := .text s) _ h hr
    | number literal => exact absurd h (by simp [Value.Fits])
    | broken => exact absurd h (by simp [Value.Fits])

/-- So a whole text holds nothing but its value. -/
theorem readFront_render {v : Value} (h : v.Fits maxDepth) :
    Value.readFront v.render = .ok (v, []) := by
  have hread := readNested_chars h endsNumber_nil
  rw [List.append_nil] at hread
  rw [Value.readFront, Value.render, String.toList_ofList]
  exact hread

end ToggleSync.Json
