-- How long a link waits before it connects again. The wait is reckoned in milliseconds of 64 bits:
-- of either bound only its whole milliseconds count, less the bits that are over. In these the wait
-- is the least one, doubled up to ten times and cut off at the longest one; nothing overflows on
-- the way.
import Mathlib.Algebra.Ring.Nat
import ToggleSync.Proofs.StreamCourse

namespace ToggleSync

/-! ## What is kept of a span -/

namespace Span

/-- What is left of a span in whole milliseconds of 64 bits. -/
def kept (s : Span) : Span := .ofMillis s.wordMillis

/-- The milliseconds of the span can be written in 64 bits. -/
def Fits (s : Span) : Prop := s.millis < UInt64.size

/-- The span is a number of milliseconds that can be written in 64 bits. -/
def IsWhole (s : Span) : Prop := 1000000 ∣ s.nanos ∧ s.Fits

instance (s : Span) : Decidable s.Fits := inferInstanceAs (Decidable (_ < _))

instance (s : Span) : Decidable s.IsWhole := inferInstanceAs (Decidable (_ ∧ _))

theorem kept_le (s : Span) : s.kept.nanos ≤ s.nanos := by
  calc s.kept.nanos
    _ = s.nanos / 1000000 % UInt64.size * 1000000 := rfl
    _ ≤ s.nanos / 1000000 * 1000000 := Nat.mul_le_mul_right _ (Nat.mod_le _ _)
    _ ≤ s.nanos := Nat.div_mul_le_self _ _

theorem kept_of_fits {s : Span} (h : s.Fits) : s.kept.nanos = s.nanos / 1000000 * 1000000 := by
  have hwhole : s.millis % UInt64.size = s.millis := Nat.mod_eq_of_lt h
  rw [kept, wordMillis, hwhole]
  rfl

theorem kept_of_isWhole {s : Span} (h : s.IsWhole) : s.kept.nanos = s.nanos := by
  rw [kept_of_fits h.2, Nat.div_mul_cancel h.1]

/-- Less than a millisecond of a span that fits is lost. -/
theorem lt_kept_add {s : Span} (h : s.Fits) : s.nanos < s.kept.nanos + 1000000 := by
  rw [kept_of_fits h]
  omega

end Span

namespace Backoff

variable {b : Backoff}

/-- The cut at 64 bits never shows: the longest wait is below it anyway. -/
theorem delay_eq (h : b.exponential = true) (n : Nat) :
    (b.delay n).nanos = min (b.base.kept.nanos * 2 ^ min n 10) b.max.kept.nanos := by
  have hmax : b.max.wordMillis ≤ UInt64.size - 1 :=
    Nat.le_sub_one_of_lt (Nat.mod_lt _ (by decide))
  have hgrown : min (min (b.base.wordMillis * 2 ^ min n 10) (UInt64.size - 1)) b.max.wordMillis =
      min (b.base.wordMillis * 2 ^ min n 10) b.max.wordMillis := by omega
  calc (b.delay n).nanos
    _ = min (min (b.base.wordMillis * 2 ^ min n 10) (UInt64.size - 1)) b.max.wordMillis *
        1000000 := by
      rw [delay, if_pos h]
      rfl
    _ = min (b.base.wordMillis * 2 ^ min n 10 * 1000000) (b.max.wordMillis * 1000000) := by
      rw [hgrown, Nat.mul_min_mul_right]
    _ = min (b.base.kept.nanos * 2 ^ min n 10) b.max.kept.nanos := by
      rw [Nat.mul_right_comm]
      rfl

theorem delay_mono (h : b.exponential = true) {n m : Nat} (hle : n ≤ m) :
    (b.delay n).nanos ≤ (b.delay m).nanos := by
  have hpow : 2 ^ min n 10 ≤ 2 ^ min m 10 := Nat.pow_le_pow_right (by decide) (by omega)
  have hgrown := Nat.mul_le_mul_left b.base.kept.nanos hpow
  rw [delay_eq h, delay_eq h]
  omega

theorem delay_zero (h : b.exponential = true) :
    (b.delay 0).nanos = min b.base.kept.nanos b.max.kept.nanos := by
  rw [delay_eq h, Nat.zero_min, Nat.pow_zero, Nat.mul_one]

/-- A wait after failures is no shorter than one after none. -/
theorem min_kept_le_delay (h : b.exponential = true) (n : Nat) :
    min b.base.kept.nanos b.max.kept.nanos ≤ (b.delay n).nanos := by
  rw [← delay_zero h]
  exact delay_mono h (Nat.zero_le n)

/-! ## The law of growing waits -/

/-- A wait that doubles with each failure never gets shorter with more of them, and never longer
than the longest one, whatever the two bounds are; from the tenth failure on it stays as it is. What
is kept of the bounds decides it, and there is no overflow. Where the bounds are whole milliseconds
that fit into 64 bits, it is the least wait, doubled up to ten times, or the longest one. -/
theorem a_wait_doubles_up_to_the_longest_one (b : Backoff) (h : b.exponential = true) :
    (∀ n m, n ≤ m → (b.delay n).nanos ≤ (b.delay m).nanos ∧ (b.delay m).nanos ≤ b.max.nanos) ∧
    (∀ n, 10 ≤ n → b.delay n = b.delay 10) ∧
    (∀ n, (b.delay n).nanos = min (b.base.kept.nanos * 2 ^ min n 10) b.max.kept.nanos) ∧
    (b.base.IsWhole → b.max.IsWhole →
      ∀ n, (b.delay n).nanos = min (b.base.nanos * 2 ^ min n 10) b.max.nanos) := by
  refine ⟨?_, ?_, delay_eq h, ?_⟩
  · intro n m hle
    refine ⟨delay_mono h hle, ?_⟩
    rw [delay_eq h]
    exact (Nat.min_le_right _ _).trans b.max.kept_le
  · intro n hten
    have hsame : Nat.min n 10 = 10 := Nat.min_eq_right hten
    rw [delay, hsame]
    rfl
  · intro hbase hmax n
    rw [delay_eq h, Span.kept_of_isWhole hbase, Span.kept_of_isWhole hmax]

/-- From a second to half a minute: doubled four times, and then the longest one. A longest wait of
2^64 milliseconds and a half is kept as none at all, so there is no wait. -/
theorem a_wait_of_a_second_doubles :
    let b := standard
    let vast : Backoff := ⟨.ofSeconds 1, ⟨UInt64.size * 1000000 + 500000⟩, 0, true⟩
    b.exponential = true ∧ b.base.IsWhole ∧ b.max.IsWhole ∧
      (b.delay 4).nanos = min (1000000000 * 2 ^ 4) 30000000000 ∧
      b.delay (UInt32.size - 1) = b.delay 10 ∧ (b.delay 10).nanos = 30000000000 ∧
      ∀ n, (vast.delay n).nanos = 0 := by
  intro b vast
  have hbase : b.base.IsWhole := by decide
  have hmax : b.max.IsWhole := by decide
  obtain ⟨-, hconstant, -, hexact⟩ := a_wait_doubles_up_to_the_longest_one b rfl
  obtain ⟨-, -, hkept, -⟩ := a_wait_doubles_up_to_the_longest_one vast rfl
  refine ⟨rfl, hbase, hmax, hexact hbase hmax 4, hconstant _ (by decide), ?_, fun n => ?_⟩
  · rw [hexact hbase hmax]
    decide
  · have hnone : vast.max.kept.nanos = 0 := by decide
    rw [hkept, hnone, Nat.min_zero]

/-! ## The law of shortest waits -/

/-- There is a wait unless nothing is kept of one of the bounds. -/
theorem delay_pos_iff (h : b.exponential = true) (n : Nat) :
    0 < (b.delay n).nanos ↔ 0 < b.base.kept.nanos ∧ 0 < b.max.kept.nanos := by
  have hpow : 0 < 2 ^ min n 10 := Nat.pow_pos (by decide)
  have hgrown : 0 < b.base.kept.nanos * 2 ^ min n 10 ↔ 0 < b.base.kept.nanos := by
    rw [Nat.mul_pos_iff_of_pos_right hpow]
  rw [delay_eq h, Nat.lt_min, hgrown]

/-- The shorter bound is kept if it is whole; of the longer one at least as much is kept then. -/
theorem min_le_kept_iff (hbase : b.base.Fits) (hmax : b.max.Fits) :
    min b.base.nanos b.max.nanos ≤ min b.base.kept.nanos b.max.kept.nanos ↔
      1000000 ∣ min b.base.nanos b.max.nanos := by
  rw [Span.kept_of_fits hbase, Span.kept_of_fits hmax]
  omega

/-- The wait after no failures is the shortest one, so it decides what all of them come to. -/
theorem le_delays_iff (h : b.exponential = true) (least : Nat) :
    (∀ n, least ≤ (b.delay n).nanos) ↔ least ≤ min b.base.kept.nanos b.max.kept.nanos := by
  constructor
  · intro hall
    rw [← delay_zero h]
    exact hall 0
  · intro hleast n
    exact hleast.trans (min_kept_le_delay h n)

/-- Every wait of a link, however its attempts go, is as long as what is kept of both bounds. So no
wait is shorter than the shorter bound exactly if that much is kept of both, which is so for bounds
that are whole milliseconds. Where the bounds fit into 64 bits it is so exactly if the shorter one
is whole, and what is missing is in any case less than a millisecond. There is no wait at all
exactly if nothing is kept of one of them. -/
theorem a_wait_is_as_long_as_what_is_kept_of_both_bounds (b : Backoff)
    (h : b.exponential = true) :
    (∀ {σ : Type} (listener : Http.Listener σ) (s : σ) (l l' : Http.Link)
      (attempts : List Http.Attempt), l.rules = b → l.start = .ok l' →
      ∀ d ∈ ((Http.Trail.begin l' s).attemptAll listener attempts).waits,
        min b.base.kept.nanos b.max.kept.nanos ≤ d.nanos) ∧
    ((∀ n, min b.base.nanos b.max.nanos ≤ (b.delay n).nanos) ↔
      min b.base.nanos b.max.nanos ≤ min b.base.kept.nanos b.max.kept.nanos) ∧
    (b.base.IsWhole → b.max.IsWhole →
      ∀ n, min b.base.nanos b.max.nanos ≤ (b.delay n).nanos) ∧
    (b.base.Fits → b.max.Fits →
      ((∀ n, min b.base.nanos b.max.nanos ≤ (b.delay n).nanos) ↔
        1000000 ∣ min b.base.nanos b.max.nanos) ∧
      ∀ n, min b.base.nanos b.max.nanos < (b.delay n).nanos + 1000000) ∧
    (∀ n, 0 < (b.delay n).nanos ↔ 0 < b.base.kept.nanos ∧ 0 < b.max.kept.nanos) := by
  refine ⟨?_, le_delays_iff h _, ?_, ?_, delay_pos_iff h⟩
  · rintro σ listener s l l' attempts rfl hl d hd
    have hc : Http.Course l attempts _ := .attemptAll listener hl s attempts
    obtain ⟨i, hi, rfl⟩ := List.mem_iff_getElem.mp hd
    rw [hc.waits i hi]
    exact min_kept_le_delay h _
  · intro hbase hmax
    rw [le_delays_iff h, Span.kept_of_isWhole hbase, Span.kept_of_isWhole hmax]
  · intro hbase hmax
    refine ⟨(le_delays_iff h _).trans (min_le_kept_iff hbase hmax), fun n => ?_⟩
    have hlost := Span.lt_kept_add hbase
    have hlost' := Span.lt_kept_add hmax
    have hkept := min_kept_le_delay h n
    omega

/-- A link with a least wait of a millisecond and a half waits for a millisecond after its stream
ended, and for more after it was refused. With the usual bounds no wait is shorter than a second. -/
theorem a_refused_link_waits_each_time :
    let b : Backoff := ⟨⟨1500000⟩, .ofMillis 3, 0, true⟩
    let l := Http.Link.new b
    let l' : Http.Link := { l with phase := .connecting }
    let attempts : List Http.Attempt :=
      [.refused .requestFailed, .refused .requestFailed, .opened [] (some .clean)]
    let t := (Http.Trail.begin l' (⟨[], []⟩ : Http.Recorder)).attemptAll Http.record attempts
    b.exponential = true ∧ l.rules = b ∧ l.start = .ok l' ∧ b.base.Fits ∧ b.max.Fits ∧
      t.waits = [.ofMillis 2, .ofMillis 3, .ofMillis 1] ∧ (∀ d ∈ t.waits, 1000000 ≤ d.nanos) ∧
      ¬ (∀ n, min b.base.nanos b.max.nanos ≤ (b.delay n).nanos) ∧
      standard.base.IsWhole ∧ standard.max.IsWhole ∧
      ∀ n, 1000000000 ≤ (standard.delay n).nanos := by
  intro b l l' attempts t
  have hl : l.start = .ok l' := rfl
  have hbase : b.base.Fits := by decide
  have hmax : b.max.Fits := by decide
  obtain ⟨hwaits, -, -, hfits, -⟩ := a_wait_is_as_long_as_what_is_kept_of_both_bounds b rfl
  obtain ⟨-, -, hwhole, -⟩ := a_wait_is_as_long_as_what_is_kept_of_both_bounds standard rfl
  have hleast : min b.base.kept.nanos b.max.kept.nanos = 1000000 := by decide
  have hshort := (hfits hbase hmax).1
  refine ⟨rfl, rfl, hl, hbase, hmax, by decide +kernel, ?_, ?_, by decide, by decide, ?_⟩
  · rw [← hleast]
    exact hwaits Http.record ⟨[], []⟩ l l' attempts rfl hl
  · rw [hshort]
    decide
  · exact hwhole (by decide) (by decide)

/-- Half a millisecond is kept as nothing, and so are 2^64 milliseconds: with the one or the other
for the least wait, a stream that is refused again and again is asked for again at once, though
both bounds are positive. -/
theorem a_refused_link_may_not_wait_at_all :
    let brief : Backoff := ⟨⟨500000⟩, .ofSeconds 30, 0, true⟩
    let vast : Backoff := ⟨.ofMillis UInt64.size, .ofSeconds 30, 0, true⟩
    let refusals : List Http.Attempt := [.refused .requestFailed, .refused .requestFailed]
    let waits (b : Backoff) : List Span :=
      ((Http.Trail.begin { Http.Link.new b with phase := .connecting }
        (⟨[], []⟩ : Http.Recorder)).attemptAll Http.record refusals).waits
    ∀ b ∈ [brief, vast], b.exponential = true ∧ 0 < min b.base.nanos b.max.nanos ∧
      (∀ n, (b.delay n).nanos = 0) ∧ waits b = [.zero, .zero] ∧
      ¬ ∀ n, min b.base.nanos b.max.nanos ≤ (b.delay n).nanos := by
  intro brief vast refusals waits b hb
  have hnone : ∀ b ∈ [brief, vast], b.exponential = true ∧ 0 < min b.base.nanos b.max.nanos ∧
      b.base.kept.nanos = 0 ∧ waits b = [.zero, .zero] := by decide +kernel
  obtain ⟨hexp, hpos, hkept, hwaits⟩ := hnone b hb
  have hzero : ∀ n, (b.delay n).nanos = 0 := by
    intro n
    rw [delay_eq hexp, hkept, Nat.zero_mul, Nat.zero_min]
  refine ⟨hexp, hpos, hzero, hwaits, fun hall => ?_⟩
  have hfirst := hall 0
  rw [hzero] at hfirst
  omega

end Backoff

end ToggleSync
