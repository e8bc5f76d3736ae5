-- Numbers and their digits: how large a number of so many digits can be, and how the decimal
-- numbers in a text are read back.
import Mathlib.Algebra.Group.Nat.Defs
import ToggleSync.Instant
import ToggleSync.Proofs.JsonText

namespace ToggleSync

/-- So many digits make a number below that power of the base. -/
theorem foldl_digits_lt {α : Type} {base : Nat} {value : α → Nat} {ds : List α}
    (h : ∀ d ∈ ds, value d < base) (n : Nat) :
    ds.foldl (fun n d => n * base + value d) n < (n + 1) * base ^ ds.length := by
  induction ds generalizing n with
  | nil => simp
  | cons d ds ih =>
    have hd : value d < base := h d List.mem_cons_self
    have hnext : n * base + value d + 1 ≤ (n + 1) * base := by
      rw [Nat.add_mul, Nat.one_mul]
      omega
    calc (d :: ds).foldl (fun n d => n * base + value d) n
        < (n * base + value d + 1) * base ^ ds.length :=
          ih (fun d hd => h d (List.mem_cons_of_mem _ hd)) _
      _ ≤ (n + 1) * base * base ^ ds.length := Nat.mul_le_mul_right _ hnext
      _ = (n + 1) * base ^ (d :: ds).length := by
        rw [List.length_cons, Nat.pow_succ, Nat.mul_assoc, Nat.mul_comm base]

/-! ## Decimal digits -/

theorem digit_range {c : Char} (h : isAsciiDigit c = true) : 48 ≤ c.toNat ∧ c.toNat ≤ 57 := by
  have hrange : '0'.toNat ≤ c.toNat ∧ c.toNat ≤ '9'.toNat := by
    simpa [isAsciiDigit, Char.le_def, UInt32.le_iff_toNat_le] using h
  exact hrange

theorem not_blank_of_digit {c : Char} (h : isAsciiDigit c = true) : isBlank c = false := by
  have hrange := digit_range h
  simp [isBlank]
  omega

theorem digitValue_lt {c : Char} (h : isAsciiDigit c = true) : digitValue c < 10 := by
  have hrange := digit_range h
  have hzero : '0'.toNat = 48 := rfl
  unfold digitValue
  omega

/-- No blank is skipped in front of a digit. -/
theorem dropWhile_digit {c : Char} (h : isAsciiDigit c = true) (r : List Char) :
    (c :: r).dropWhile isBlank = c :: r :=
  List.dropWhile_cons_of_neg (by simp [not_blank_of_digit h])

theorem foldl_digits (cs : List Char) (n : Nat) :
    cs.foldl (fun n c => n * 10 + digitValue c) n = Nat.ofDigitChars 10 cs n := by
  simp only [Nat.ofDigitChars_eq_foldl, Nat.mul_comm 10]
  rfl

namespace Instant

/-! ## Numbers of a width -/

theorem padded_digits (width n : Nat) : ∀ c ∈ padded width n, isAsciiDigit c = true := by
  intro c hc
  rcases List.mem_append.mp hc with hc | hc
  · rw [List.eq_of_mem_replicate hc]
    rfl
  · exact Json.digits_of_toDigits n c hc

theorem padded_ne_nil (width n : Nat) : padded width n ≠ [] := by
  simp [padded, Nat.toDigits_ne_nil]

/-- A text that begins with a number begins with a digit. -/
theorem exists_digit_padded (width n : Nat) :
    ∃ c ds, padded width n = c :: ds ∧ isAsciiDigit c = true := by
  obtain ⟨c, ds, heq⟩ := List.exists_cons_of_ne_nil (padded_ne_nil width n)
  exact ⟨c, ds, heq, padded_digits width n c (heq ▸ List.mem_cons_self)⟩

theorem length_padded {width n : Nat} (hw : 0 < width) (hn : n < 10 ^ width) :
    (padded width n).length = width := by
  have hle := (Nat.length_toDigits_le_iff (by decide) hw).mpr hn
  simp only [padded, List.length_append, List.length_replicate]
  omega

theorem value_padded (width n : Nat) :
    (padded width n).foldl (fun n c => n * 10 + digitValue c) 0 = n := by
  rw [foldl_digits, padded, Nat.ofDigitChars_append, Nat.ofDigitChars_replicate_zero, Nat.mul_zero,
    Nat.ofDigitChars_ten_toDigits]

/-- A number of full width, or one with no digit behind it, is read whole. -/
theorem readNumber_digits {width : Nat} {ds r : List Char}
    (hds : ∀ c ∈ ds, isAsciiDigit c = true) (hne : ds ≠ [])
    (hend : ds.length = width ∨ (ds.length ≤ width ∧ ∀ c ∈ r.head?, isAsciiDigit c = false)) :
    readNumber width (ds ++ r) = some (ds.foldl (fun n c => n * 10 + digitValue c) 0, r) := by
  have hdrop : (ds ++ r).dropWhile isBlank = ds ++ r := by
    cases ds with
    | nil => exact absurd rfl hne
    | cons c ds => exact dropWhile_digit (hds c List.mem_cons_self) _
  have htake : ((ds ++ r).takeWhile isAsciiDigit).take width = ds := by
    rw [List.takeWhile_append_of_pos hds]
    rcases hend with hwidth | ⟨hle, hr⟩
    · exact List.take_left' hwidth
    · cases r with
      | nil => rw [List.takeWhile_nil, List.append_nil, List.take_of_length_le hle]
      | cons c r =>
        have hc := hr c rfl
        rw [List.takeWhile_cons_of_neg (by simp [hc]), List.append_nil]
        exact List.take_of_length_le hle
  simp only [readNumber, hdrop, htake, List.drop_left]
  simp [hne]

theorem readNumber_padded {width n : Nat} (hw : 0 < width) (hn : n < 10 ^ width) (r : List Char) :
    readNumber width (padded width n ++ r) = some (n, r) := by
  rw [readNumber_digits (padded_digits _ _) (padded_ne_nil _ _) (.inl (length_padded hw hn)),
    value_padded]

theorem readNumber_two {n : Nat} (hn : n < 100) (r : List Char) :
    readNumber 2 (padded 2 n ++ r) = some (n, r) := readNumber_padded (by decide) hn r

end Instant

end ToggleSync
