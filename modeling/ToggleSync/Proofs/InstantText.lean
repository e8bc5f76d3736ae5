-- Points in time as text. Every day has one date, every instant of the calendar one text, and
-- that text is read back as that instant: to the nanosecond, in leap seconds, and in years of more
-- than four digits or before 0.
import Mathlib.Tactic.IntervalCases
import ToggleSync.Proofs.Digits

namespace ToggleSync

namespace Calendar

/-! ## Days and dates -/

/-- Day `n` of an era of 400 years is day `d` of year `a` of the four years `q` of century `c`.
Only the last of four years has a leap day, and not where a century ends but the era goes on. -/
structure EraDay (n c q a d : Int) : Prop where
  sum : n = 36524 * c + 1461 * q + 365 * a + d
  century : 0 ≤ c ∧ c ≤ 3
  cycle : 0 ≤ q ∧ q ≤ 24
  year : 0 ≤ a ∧ a ≤ 3
  day : 0 ≤ d ∧ d ≤ 365
  leap : d = 365 → a = 3 ∧ (q = 24 → c = 3)

theorem exists_eraDay {n : Int} (hpos : 0 ≤ n) (hlt : n < 146097) :
    ∃ c q a d, EraDay n c q a d := by
  -- the last day of the era would begin a fifth century, and a leap day a fifth year
  obtain ⟨c, r, hc, hn, hr⟩ : ∃ c r : Int, (0 ≤ c ∧ c ≤ 3) ∧ n = 36524 * c + r ∧
      (0 ≤ r ∧ r ≤ 36524 ∧ (r = 36524 → c = 3)) := by
    by_cases hlast : n = 146096
    · exact ⟨3, 36524, by omega, by omega, by omega⟩
    · exact ⟨n / 36524, n % 36524, by omega, by omega, by omega⟩
  obtain ⟨a, d, ha, hd, hda⟩ : ∃ a d : Int, (0 ≤ a ∧ a ≤ 3) ∧ r % 1461 = 365 * a + d ∧
      (0 ≤ d ∧ d ≤ 365 ∧ (d = 365 → a = 3)) := by
    by_cases hlast : r % 1461 = 1460
    · exact ⟨3, 365, by omega, by omega, by omega⟩
    · exact ⟨r % 1461 / 365, r % 1461 % 365, by omega, by omega, by omega⟩
  exact ⟨c, r / 1461, a, d, by omega, hc, by omega, ha, by omega, by omega⟩

theorem exists_eraDay_of_days (days : Int) :
    ∃ c q a d, EraDay ((days + 719468) % 146097) c q a d :=
  exists_eraDay (by omega) (by omega)

namespace EraDay

variable {n c q a d : Int}

theorem yearOfEra (h : EraDay n c q a d) :
    (n - n / 1460 + n / 36524 - n / 146096) / 365 = 100 * c + 4 * q + a := by
  obtain ⟨hn, hc, hq, ha, hd, hleap⟩ := h
  by_cases hlast : n = 146096
  · omega
  · have hcentury : n / 36524 = c := by omega
    have hera : n / 146096 = 0 := by omega
    rw [hcentury, hera]
    have hcycle : n / 1460 = 25 * c + q ∨ n / 1460 = 25 * c + q + 1 := by omega
    rcases hcycle with hcycle | hcycle
    · rw [hcycle]
      omega
    · rw [hcycle]
      omega

theorem dayOfYear (h : EraDay n c q a d) :
    n - (365 * (100 * c + 4 * q + a) + (100 * c + 4 * q + a) / 4 - (100 * c + 4 * q + a) / 100) =
      d := by
  obtain ⟨hn, hc, hq, ha, _, _⟩ := h
  omega

/-- Where a day stands is found again from its year and its day. -/
theorem refound (h : EraDay n c q a d) (era : Int) :
    let year := 100 * c + 4 * q + a + era * 400
    year / 400 = era ∧ year % 400 * 365 + year % 400 / 4 - year % 400 / 100 + d = n := by
  obtain ⟨hn, hc, hq, ha, _, _⟩ := h
  have hyear : (100 * c + 4 * q + a + era * 400) % 400 = 100 * c + 4 * q + a := by omega
  simp only [hyear]
  omega

/-- Where a year has a leap day, the calendar year in which it ends is a leap year. -/
theorem isLeap (h : EraDay n c q a d) (hd : d = 365) (era : Int) :
    isLeap (100 * c + 4 * q + a + era * 400 + 1) = true := by
  obtain ⟨_, hc, hq, ha, _, hleap⟩ := h
  have hyear := hleap hd
  simp only [Calendar.isLeap, Bool.and_eq_true, Bool.or_eq_true, beq_iff_eq, bne_iff_ne]
  omega

end EraDay

/-- The date of a day whose place in its era is known, with months counted from March. -/
theorem Date.ofDays_eq {days c q a d : Int} (h : EraDay ((days + 719468) % 146097) c q a d) :
    Date.ofDays days =
      let m := (5 * d + 2) / 153
      let month := if m < 10 then m + 3 else m - 9
      ⟨100 * c + 4 * q + a + (days + 719468) / 146097 * 400 + (if month ≤ 2 then 1 else 0),
        month.toNat, (d - (153 * m + 2) / 5 + 1).toNat⟩ := by
  simp only [Date.ofDays, h.yearOfEra, h.dayOfYear]

theorem Date.toDays_ofDays (days : Int) : (Date.ofDays days).toDays = days := by
  obtain ⟨c, q, a, d, h⟩ := exists_eraDay_of_days days
  rw [Date.ofDays_eq h]
  obtain ⟨hera, hday⟩ := h.refound ((days + 719468) / 146097)
  have hd := h.day
  generalize hm : (5 * d + 2) / 153 = m
  have hmonth : 0 ≤ m ∧ m ≤ 11 := by omega
  simp only [Date.toDays]
  by_cases hlate : m < 10
  · have hlarge : ¬ (m + 3).toNat ≤ 2 := by omega
    have hlarge' : ¬ m + 3 ≤ 2 := by omega
    have hmarch : (((m + 3).toNat : Int) + 9) % 12 = m := by omega
    simp only [hlate, hlarge, hlarge', hmarch, if_true, if_false, Int.add_zero, hera]
    omega
  · have hsmall : (m - 9).toNat ≤ 2 := by omega
    have hsmall' : m - 9 ≤ 2 := by omega
    have hmarch : (((m - 9).toNat : Int) + 9) % 12 = m := by omega
    simp only [hlate, hsmall, hsmall', hmarch, if_true, if_false, Int.add_sub_cancel, hera]
    omega

theorem Date.isValid_ofDays (days : Int) : (Date.ofDays days).isValid = true := by
  obtain ⟨c, q, a, d, h⟩ := exists_eraDay_of_days days
  rw [Date.ofDays_eq h]
  have hleap : d = 365 → _ := fun hd => h.isLeap hd ((days + 719468) / 146097)
  obtain ⟨hn, hc, hq, ha, hd, _⟩ := h
  generalize hm : (5 * d + 2) / 153 = m
  have hmonth : 0 ≤ m ∧ m ≤ 11 := by omega
  obtain ⟨k, rfl⟩ : ∃ k : Nat, m = k := ⟨m.toNat, by omega⟩
  have hk : k ≤ 11 := by omega
  simp only [Date.isValid, Bool.and_eq_true, decide_eq_true_eq, monthLength]
  interval_cases k
  case «11» =>
    -- February, the one month whose length is not the same every year
    simp
    split
    · omega
    · rename_i hcommon
      have hne : d ≠ 365 := fun hd => hcommon (hleap hd)
      omega
  all_goals
    simp
    omega

end Calendar

namespace Instant

open Calendar

/-! ## Dates -/

/-- A year with a sign goes on up to the mark behind it. -/
theorem readSigned_padded (n : Nat) (r : List Char) :
    readYear.signed (padded 4 n ++ '-' :: r) = some (n, '-' :: r) := by
  have hread : readNumber (padded 4 n ++ '-' :: r).length (padded 4 n ++ '-' :: r) =
      some (n, '-' :: r) := by
    rw [readNumber_digits (padded_digits _ _) (padded_ne_nil _ _), value_padded]
    exact .inr ⟨by simp, by simp; decide⟩
  obtain ⟨c, ds, heq, hc⟩ := exists_digit_padded 4 n
  rw [heq] at hread ⊢
  simp only [List.cons_append, readYear.signed, hc, if_true] at hread ⊢
  exact hread

theorem readYear_yearChars (year : Int) (r : List Char) :
    readYear (yearChars year ++ '-' :: r) = some (year, '-' :: r) := by
  unfold yearChars
  split
  · have hyear : -(year.natAbs : Int) = year := by omega
    have hread : readYear ('-' :: padded 4 year.natAbs ++ '-' :: r) =
        (readYear.signed (padded 4 year.natAbs ++ '-' :: r)).bind
          fun x => some (-(x.1 : Int), x.2) := rfl
    rw [hread, readSigned_padded, Option.bind_some, hyear]
  · have hyear : (year.natAbs : Int) = year := by omega
    split
    · have hread : readYear ('+' :: padded 4 year.natAbs ++ '-' :: r) =
          (readYear.signed (padded 4 year.natAbs ++ '-' :: r)).bind
            fun x => some ((x.1 : Int), x.2) := rfl
      rw [hread, readSigned_padded, Option.bind_some, hyear]
    · have hnumber : readNumber 4 (padded 4 year.natAbs ++ '-' :: r) =
          some (year.natAbs, '-' :: r) := readNumber_padded (by decide) (by omega) _
      obtain ⟨c, ds, heq, hc⟩ := exists_digit_padded 4 year.natAbs
      unfold readYear
      rw [heq, List.cons_append] at hnumber ⊢
      rw [dropWhile_digit hc]
      -- a digit is no sign
      split
      · rename_i hsign
        cases hsign
        cases hc
      · rename_i hsign
        cases hsign
        cases hc
      · simp only [hnumber, Option.bind_eq_bind, Option.bind_some, hyear]

/-- From the first day of the first year to the last of the last, dates have one of the years. -/
theorem year_ofDays {days : Int} (hfirst : Date.toDays ⟨firstYear, 1, 1⟩ ≤ days)
    (hend : days < Date.toDays ⟨lastYear + 1, 1, 1⟩) :
    firstYear ≤ (Date.ofDays days).year ∧ (Date.ofDays days).year ≤ lastYear := by
  have hfirstDay : Date.toDays ⟨firstYear, 1, 1⟩ = -96465292 := by decide
  have hendDay : Date.toDays ⟨lastYear + 1, 1, 1⟩ = 95026237 := by decide
  obtain ⟨c, q, a, d, h⟩ := exists_eraDay_of_days days
  rw [Date.ofDays_eq h]
  obtain ⟨hn, hc, hq, ha, hd, _⟩ := h
  simp only [firstYear, lastYear]
  by_cases hspring : (5 * d + 2) / 153 < 10
  · have hcarry : ¬ (5 * d + 2) / 153 + 3 ≤ 2 := by omega
    simp only [hspring, hcarry, if_true, if_false]
    omega
  · have hcarry : (5 * d + 2) / 153 - 9 ≤ 2 := by omega
    simp only [hspring, hcarry, if_true, if_false]
    refine ⟨by omega, ?_⟩
    by_contra hlate
    -- it would be a day of the year after the last
    have hera : (days + 719468) / 146097 = 655 := by omega
    have hcentury : c = 1 := by omega
    have hcycle : q = 10 := by omega
    omega

theorem readMark_cons {mark : Char} (hmark : isBlank mark = false) (r : List Char) :
    readMark mark (mark :: r) = some r := by
  have hdrop : (mark :: r).dropWhile isBlank = mark :: r :=
    List.dropWhile_cons_of_neg (by simp [hmark])
  simp [readMark, hdrop]

theorem monthLength_le (year : Int) (month : Nat) : monthLength year month ≤ 31 := by
  unfold monthLength
  repeat' split
  all_goals decide

theorem month_day_lt {date : Date} (h : date.isValid = true) :
    date.month < 100 ∧ date.day < 100 := by
  have hlength := monthLength_le date.year date.month
  simp only [Date.isValid, Bool.and_eq_true, decide_eq_true_eq] at h
  omega

theorem readDate_chars {date : Date} (hvalid : date.isValid = true)
    (hfirst : firstYear ≤ date.year) (hlast : date.year ≤ lastYear) (r : List Char) :
    readDate (yearChars date.year ++ '-' :: (padded 2 date.month ++ '-' ::
      (padded 2 date.day ++ r))) = some (date, r) := by
  obtain ⟨hmonth, hday⟩ := month_day_lt hvalid
  have hdash : isBlank '-' = false := rfl
  unfold readDate
  rw [readYear_yearChars]
  simp only [Option.bind_eq_bind, Option.bind_some, readMark_cons hdash, readNumber_two hmonth,
    readNumber_two hday, hfirst, hlast, hvalid]
  rfl

/-! ## Times -/

theorem readFraction_padded {width n : Nat} (hpos : 0 < width) (hle : width ≤ 9)
    (hn : n < 10 ^ width) (r : List Char) :
    readFraction ('.' :: (padded width n ++ 'Z' :: r)) =
      some (n * 10 ^ (9 - width), 'Z' :: r) := by
  have hlength := length_padded hpos hn
  have htake : (padded width n ++ 'Z' :: r).takeWhile isAsciiDigit = padded width n := by
    rw [List.takeWhile_append_of_pos (padded_digits width n)]
    exact List.append_nil _
  have hkept : (padded width n).take 9 = padded width n :=
    List.take_of_length_le (by omega)
  have hdrop : (padded width n ++ 'Z' :: r).drop width = 'Z' :: r := List.drop_left' hlength
  simp only [readFraction, htake, hkept, value_padded, hlength, hdrop]
  simp [padded_ne_nil]

theorem readFraction_fractionChars {n : Nat} (hn : n < 1000000000) (r : List Char) :
    readFraction (fractionChars n ++ 'Z' :: r) = some (n, 'Z' :: r) := by
  unfold fractionChars
  split
  · rename_i hzero
    rw [beq_iff_eq] at hzero
    subst hzero
    rfl
  · split
    · rename_i hmillis
      rw [beq_iff_eq] at hmillis
      have hexact : n / 1000000 * 10 ^ (9 - 3) = n := by omega
      rw [List.cons_append, readFraction_padded (by decide) (by decide) (by omega), hexact]
    · split
      · rename_i hmicros
        rw [beq_iff_eq] at hmicros
        have hexact : n / 1000 * 10 ^ (9 - 6) = n := by omega
        rw [List.cons_append, readFraction_padded (by decide) (by decide) (by omega), hexact]
      · rw [List.cons_append, readFraction_padded (by decide) (by decide) (by omega)]
        simp

theorem readTime_chars {hour minute second nano : Nat} (hhour : hour < 24) (hminute : minute < 60)
    (hsecond : second ≤ 60) (hnano : nano < 1000000000) (r : List Char) :
    readTime (padded 2 hour ++ ':' :: (padded 2 minute ++ ':' :: (padded 2 second ++
      (fractionChars nano ++ 'Z' :: r)))) =
      if second = 60 then some (hour * 3600 + minute * 60 + 59, nano + 1000000000, 'Z' :: r)
      else some (hour * 3600 + minute * 60 + second, nano, 'Z' :: r) := by
  have hcolon : isBlank ':' = false := rfl
  unfold readTime
  simp only [Option.bind_eq_bind, Option.bind_some, readMark_cons hcolon,
    readNumber_two (n := hour) (by omega), readNumber_two (n := minute) (by omega),
    readNumber_two (n := second) (by omega), readFraction_fractionChars hnano, hhour, hminute,
    hsecond]
  simp

/-! ## Whole texts -/

/-- An instant that is on the clock: within the years that there are, and where it lies in a leap
second, in one that ends a minute. -/
def OnClock (i : Instant) : Prop :=
  i.inRange = true ∧ i.nano < 2000000000 ∧ (1000000000 ≤ i.nano → i.second % 60 = 59)

instance (i : Instant) : Decidable i.OnClock := inferInstanceAs (Decidable (_ ∧ _ ∧ _))

theorem year_of_inRange {i : Instant} (h : i.inRange = true) :
    firstYear ≤ (Date.ofDays (i.second / 86400)).year ∧
      (Date.ofDays (i.second / 86400)).year ≤ lastYear := by
  simp only [inRange, firstSecond, endSecond, Bool.and_eq_true] at h
  have hfirst := of_decide_eq_true h.1
  have hend := of_decide_eq_true h.2
  exact year_ofDays (by omega) (by omega)

/-- The time of day of an instant on the clock, from its hour, its minute and its second, which is
60 in a leap second. -/
theorem readTime_of_onClock {i : Instant} (h : i.OnClock) (r : List Char) :
    let time := (i.second % 86400).toNat
    readTime (padded 2 (time / 3600) ++ ':' :: (padded 2 (time / 60 % 60) ++ ':' ::
      (padded 2 (time % 60 + i.nano / 1000000000) ++
        (fractionChars (i.nano % 1000000000) ++ 'Z' :: r)))) = some (time, i.nano, 'Z' :: r) := by
  intro time
  obtain ⟨_, hnano, hleap⟩ := h
  have htime : time < 86400 := by omega
  have hminute : time % 60 = (i.second % 60).toNat := by omega
  rw [readTime_chars (by omega) (by omega) (by omega) (by omega)]
  split
  · rw [show time / 3600 * 3600 + time / 60 % 60 * 60 + 59 = time by omega,
      show i.nano % 1000000000 + 1000000000 = i.nano by omega]
  · rw [show time / 3600 * 3600 + time / 60 % 60 * 60 + (time % 60 + i.nano / 1000000000) = time by
        omega, show i.nano % 1000000000 = i.nano by omega]

theorem read?_render {i : Instant} (h : i.OnClock) : read? i.render = some i := by
  have htime := readTime_of_onClock h []
  obtain ⟨hfirst, hlast⟩ := year_of_inRange h.1
  have hdate := readDate_chars (Date.isValid_ofDays (i.second / 86400)) hfirst hlast
  have hsecond : (Date.ofDays (i.second / 86400)).toDays * 86400 +
      ((i.second % 86400).toNat : Int) - 0 = i.second := by
    rw [Date.toDays_ofDays]
    omega
  unfold read? render
  simp only [String.toList_ofList, List.append_assoc, List.cons_append, hdate,
    Option.bind_eq_bind, Option.bind_some, htime]
  have hoffset : readOffset (['Z'].dropWhile isBlank) = some (0, []) := rfl
  simp only [hoffset, Option.bind_some, hsecond]
  exact if_pos h.1

/-! ## What a text can stand for -/

theorem readFraction_lt {cs r : List Char} {n : Nat} (h : readFraction cs = some (n, r)) :
    n < 1000000000 := by
  unfold readFraction at h
  split at h
  · rename_i rest
    simp only at h
    split at h
    · cases h
    · cases h
      generalize hds : (rest.takeWhile isAsciiDigit).take 9 = ds
      have hdigits : ∀ c ∈ ds, isAsciiDigit c = true := by
        intro c hc
        rw [← hds] at hc
        exact List.all_eq_true.mp List.all_takeWhile c (List.mem_of_mem_take hc)
      have hlength : ds.length ≤ 9 := hds ▸ List.length_take_le 9 _
      calc _ < (0 + 1) * 10 ^ ds.length * 10 ^ (9 - ds.length) :=
            Nat.mul_lt_mul_of_pos_right
              (foldl_digits_lt (fun c hc => digitValue_lt (hdigits c hc)) 0)
              (Nat.pow_pos (by decide))
        _ = 10 ^ (ds.length + (9 - ds.length)) := by rw [Nat.zero_add, Nat.one_mul, Nat.pow_add]
        _ = 10 ^ 9 := by rw [Nat.add_sub_cancel' hlength]
  · cases h
    decide

/-- A leap second is the last of its minute. -/
theorem readTime_leap {cs r : List Char} {second nano : Nat}
    (h : readTime cs = some (second, nano, r)) :
    nano < 2000000000 ∧ (1000000000 ≤ nano → second % 60 = 59) := by
  simp only [readTime, Option.bind_eq_bind, Option.bind_eq_some_iff] at h
  obtain ⟨⟨hour, _⟩, _, _, _, ⟨minute, _⟩, _, _, _, ⟨s, _⟩, _, ⟨n, _⟩, hnano, h⟩ := h
  have hlt := readFraction_lt hnano
  split at h
  · split at h
    · cases h
      omega
    · cases h
      omega
  · cases h

theorem readOffset_minutes {cs r : List Char} {offset : Int}
    (h : readOffset cs = some (offset, r)) : offset % 60 = 0 := by
  have hsigned : ∀ {cs r : List Char} {sign offset : Int},
      readOffset.hoursAndMinutes cs sign = some (offset, r) → offset % 60 = 0 := by
    intro cs r sign offset h
    simp only [readOffset.hoursAndMinutes, Option.bind_eq_bind, Option.bind_eq_some_iff] at h
    obtain ⟨⟨hours, _⟩, _, ⟨minutes, _⟩, _, h⟩ := h
    split at h
    · cases h
      have hdvd : (60 : Int) ∣ hours * 3600 + minutes * 60 := by omega
      exact Int.emod_eq_zero_of_dvd (Dvd.dvd.mul_left hdvd sign)
    · cases h
  unfold readOffset at h
  split at h
  iterate 2
    cases h
    rfl
  iterate 3 exact hsigned h
  · split at h <;> cases h
    rfl
  · cases h

theorem onClock_of_read? {text : String} {i : Instant} (h : read? text = some i) : i.OnClock := by
  -- behind the date and the letter
  have hrest : ∀ {days : Int} {r : List Char}, ((readTime r).bind fun x =>
      (readOffset (x.2.2.dropWhile isBlank)).bind fun y =>
        let instant : Instant := ⟨days * 86400 + x.1 - y.1, x.2.1⟩
        if y.2.all isBlank && instant.inRange then some instant else none) = some i →
      i.OnClock := by
    intro days r h
    simp only [Option.bind_eq_some_iff] at h
    obtain ⟨⟨second, nano, _⟩, htime, ⟨offset, _⟩, hoffset, h⟩ := h
    split at h
    · rename_i hgood
      cases h
      have hminutes := readOffset_minutes hoffset
      obtain ⟨hnano, hleap⟩ := readTime_leap htime
      refine ⟨(Bool.and_eq_true_iff.mp hgood).2, hnano, fun hlate => ?_⟩
      have hlast := hleap hlate
      simp only
      omega
    · cases h
  unfold read? at h
  obtain ⟨⟨date, _⟩, _, h⟩ := Option.bind_eq_some_iff.mp h
  simp only at h
  split at h
  iterate 3 exact hrest h
  cases h

/-- The text of an instant stands for it exactly if it is on the clock. -/
theorem read?_render_iff (i : Instant) : read? i.render = some i ↔ i.OnClock :=
  ⟨onClock_of_read?, read?_render⟩

example : render ⟨-62198755200, 1000⟩ = "-0001-01-01T00:00:00.000001Z" := by decide +kernel

/-- A leap second within a minute looks like the second after it, so that it has no text of its
own. -/
theorem render_stray {i : Instant} (hleap : 1000000000 ≤ i.nano) (hnano : i.nano < 2000000000)
    (hstray : i.second % 60 ≠ 59) :
    i.render = render ⟨i.second + 1, i.nano - 1000000000⟩ := by
  have hday : (i.second + 1) / 86400 = i.second / 86400 := by omega
  have htime : ((i.second + 1) % 86400).toNat = (i.second % 86400).toNat + 1 := by omega
  generalize htime' : (i.second % 86400).toNat = time at htime
  have hminute : time % 60 ≠ 59 := by omega
  have hhour : (time + 1) / 3600 = time / 3600 := by omega
  have hminutes : (time + 1) / 60 % 60 = time / 60 % 60 := by omega
  have hsecond : (time + 1) % 60 + (i.nano - 1000000000) / 1000000000 =
      time % 60 + i.nano / 1000000000 := by omega
  have hfraction : (i.nano - 1000000000) % 1000000000 = i.nano % 1000000000 := by omega
  simp only [render, hday, htime, htime', hhour, hminutes, hsecond, hfraction]

end Instant

end ToggleSync
