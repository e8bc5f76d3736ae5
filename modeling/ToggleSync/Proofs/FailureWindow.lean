-- The law of the failure window. Incidents are dropped only when another one is counted, each time
-- by the clock of that one. What is left is what a look at the whole history leaves: the counted
-- incidents that no later cutoff lies behind. While the clock never goes back, these are the ones
-- within the window; but in a leap second the calendar may go on while the cutoffs go back.
import Mathlib.Data.List.Induction
import ToggleSync.Failover

namespace ToggleSync

/-! ## Points in time -/

theorem notBefore_iff (a b : Instant) :
    Failover.notBefore a b = true ↔
      b.second < a.second ∨ (a.second = b.second ∧ b.nano ≤ a.nano) := by
  simp [Failover.notBefore]

theorem notBefore_trans {a b c : Instant} (h : Failover.notBefore a b = true)
    (h' : Failover.notBefore b c = true) : Failover.notBefore a c = true := by
  rw [notBefore_iff] at h h' ⊢
  omega

namespace Instant

/-- A time that is not within a leap second. -/
def IsPlain (i : Instant) : Prop := i.nano < 1000000000

instance (i : Instant) : Decidable i.IsPlain := inferInstanceAs (Decidable (i.nano < 1000000000))

/-- From one time to another neither the calendar goes back nor the count of nanoseconds, by which
spans are taken off. Only leap seconds tell the two apart. -/
def GoesOn (a b : Instant) : Prop :=
  Failover.notBefore b a = true ∧ a.toNanos ≤ b.toNanos

theorem goesOn_of_plain {a b : Instant} (ha : a.IsPlain) (hb : b.IsPlain)
    (h : Failover.notBefore b a = true) : a.GoesOn b := by
  refine ⟨h, ?_⟩
  rw [notBefore_iff] at h
  unfold IsPlain at ha hb
  unfold toNanos
  omega

theorem earlier?_eq_some {i j : Instant} {s : Span} (h : i.earlier? s = some j) :
    s.nanos ≤ (UInt64.size / 2 - 1) * 1000000 ∧ (i.back s).inRange = true ∧ i.back s = j := by
  unfold earlier? at h
  simpa [and_assoc] using h

theorem inRange_iff (i : Instant) :
    i.inRange = true ↔ firstSecond ≤ i.second ∧ i.second < endSecond := by
  simp [inRange]

theorem back_within {i : Instant} {s : Span} (h : 1000000000 + s.nanos ≤ i.nano) :
    i.back s = ⟨i.second, i.nano - s.nanos⟩ := if_pos h

theorem back_before {i : Instant} {s : Span} (h : ¬ 1000000000 + s.nanos ≤ i.nano) :
    i.back s = ⟨(i.second * 1000000000 + i.nano - s.nanos) / 1000000000,
      ((i.second * 1000000000 + i.nano - s.nanos) % 1000000000).toNat⟩ := if_neg h

/-- A cutoff is not after the time that it belongs to. -/
theorem notBefore_back (i : Instant) (s : Span) : Failover.notBefore i (i.back s) = true := by
  rw [notBefore_iff]
  by_cases h : 1000000000 + s.nanos ≤ i.nano
  · rw [back_within h]
    exact Or.inr ⟨rfl, Nat.sub_le _ _⟩
  · rw [back_before h]
    simp only
    omega

theorem back_mono {a b : Instant} (h : a.GoesOn b) (s : Span) :
    Failover.notBefore (b.back s) (a.back s) = true := by
  obtain ⟨hcalendar, hnanos⟩ := h
  rw [notBefore_iff] at hcalendar ⊢
  unfold toNanos at hnanos
  by_cases ha : 1000000000 + s.nanos ≤ a.nano <;> by_cases hb : 1000000000 + s.nanos ≤ b.nano
  · rw [back_within ha, back_within hb]
    simp only
    omega
  · rw [back_within ha, back_before hb]
    simp only
    omega
  · rw [back_before ha, back_within hb]
    simp only
    omega
  · rw [back_before ha, back_before hb]
    simp only
    omega

-- The calendar alone would not do: of two times in order the first, within a leap second, may have
-- the later cutoff.
example : Failover.notBefore ⟨1, 200000000⟩ ⟨0, 1500000000⟩ = true ∧
    Failover.notBefore (back ⟨1, 200000000⟩ ⟨1000000000⟩) (back ⟨0, 1500000000⟩ ⟨1000000000⟩) =
      false := by decide

/-- As the clock goes on the cutoff does, and once there is one there always is. -/
theorem earlier?_mono {a b cutoff : Instant} {s : Span} (h : a.GoesOn b) (hb : b.inRange = true)
    (ha : a.earlier? s = some cutoff) :
    ∃ later, b.earlier? s = some later ∧ Failover.notBefore later cutoff = true := by
  obtain ⟨hs, hin, rfl⟩ := earlier?_eq_some ha
  have hmono := back_mono h s
  have hlater : (b.back s).inRange = true := by
    have hback := notBefore_back b s
    rw [notBefore_iff] at hback
    rw [inRange_iff] at hin hb ⊢
    have hmono' := (notBefore_iff _ _).mp hmono
    omega
  refine ⟨b.back s, ?_, hmono⟩
  simp [earlier?, hs, hlater]

end Instant

namespace Failover

/-! ## What counts -/

/-- An incident, and the time at which it is taken. -/
structure Sighting where
  incident : Incident
  now : Instant
  deriving DecidableEq, Repr

def Sighting.counts (x : Sighting) : Bool := x.incident.kind.verdict == .counted

theorem verdict_eq_counted (k : Kind) :
    k.verdict = .counted ↔ (∃ message, k = .network message) ∨
      ∃ code message, k = .status code message ∧ code ∈ softStatuses := by
  cases k with
  | network message => simp [Kind.verdict]
  | hint text => simp [Kind.verdict]
  | status code message =>
    have hdisjoint : code ∈ softStatuses → code ∉ hardStatuses := by
      unfold softStatuses hardStatuses
      simp only [List.mem_cons, List.not_mem_nil, or_false]
      omega
    simp only [Kind.verdict, List.contains_eq_mem, decide_eq_true_eq]
    grind

/-! ## Taking one incident after the other -/

namespace Rules

variable (rules : Rules)

/-- What is kept after sightings, taken in order. -/
def kept (seen : List Sighting) : List Incident :=
  seen.foldl (fun past x => (rules.step past x.incident x.now).2) []

/-- Whether to give up at a sighting, after others. -/
def givesUp (seen : List Sighting) (x : Sighting) : Bool :=
  (rules.step (rules.kept seen) x.incident x.now).1

/-- A time that lies at or after the cutoff of a sighting, if that has one. -/
def reaches (time : Instant) (x : Sighting) : Bool :=
  match x.now.earlier? rules.window with
  | some cutoff => notBefore time cutoff
  | none => true

theorem kept_snoc (seen : List Sighting) (x : Sighting) :
    rules.kept (seen ++ [x]) = (rules.step (rules.kept seen) x.incident x.now).2 := by
  unfold kept
  rw [List.foldl_append]
  rfl

theorem retain_eq_filter (past : List Incident) (x : Sighting) :
    rules.retain x.now past = past.filter fun i => rules.reaches i.time x := by
  unfold retain reaches
  cases x.now.earlier? rules.window with
  | some cutoff => rfl
  | none => exact (List.filter_eq_self.mpr fun _ _ => rfl).symm

theorem step_of_counted {x : Sighting} (h : x.counts = true) (past : List Incident) :
    rules.step past x.incident x.now =
      let counted := past.filter (fun i => rules.reaches i.time x) ++ [x.incident]
      (decide (rules.maxFailures ≤ counted.length), counted) := by
  have hv : x.incident.kind.verdict = .counted := by simpa [Sighting.counts] using h
  unfold step
  rw [hv]
  simp only [retain_eq_filter]

theorem step_of_decided {x : Sighting} (h : x.counts = false) (past : List Incident) :
    (rules.step past x.incident x.now).2 = past := by
  unfold step
  cases hv : x.incident.kind.verdict with
  | decided failOver => rfl
  | counted => simp [Sighting.counts, hv] at h

/-! ## The whole history at once -/

/-- The incidents that count and lie at or after the cutoff of every later sighting that counts. -/
def lasting : List Sighting → List Incident
  | [] => []
  | x :: later =>
    if x.counts && later.all (fun y => !y.counts || rules.reaches x.incident.time y) then
      x.incident :: lasting later
    else lasting later

theorem lasting_snoc_of_decided {x : Sighting} (h : x.counts = false) (seen : List Sighting) :
    rules.lasting (seen ++ [x]) = rules.lasting seen := by
  induction seen with
  | nil => simp [lasting, h]
  | cons y seen ih => simp [lasting, h, ih]

/-- One more sighting drops what lies before its cutoff, and comes last itself. -/
theorem lasting_snoc_of_counted {x : Sighting} (h : x.counts = true) (seen : List Sighting) :
    rules.lasting (seen ++ [x]) =
      (rules.lasting seen).filter (fun i => rules.reaches i.time x) ++ [x.incident] := by
  induction seen with
  | nil => simp [lasting, h]
  | cons y seen ih =>
    simp only [List.cons_append, lasting, ih, List.all_append, List.all_cons, List.all_nil, h,
      Bool.not_true, Bool.false_or, Bool.and_true]
    by_cases hkeep : (y.counts &&
        seen.all fun z => !z.counts || rules.reaches y.incident.time z) = true
    · rw [if_pos hkeep, List.filter_cons]
      simp only [← Bool.and_assoc, hkeep, Bool.true_and]
      split <;> rfl
    · rw [if_neg hkeep]
      simp only [← Bool.and_assoc, hkeep, Bool.false_and, Bool.false_eq_true, if_false]

/-- Dropping incidents bit by bit leaves what a look at the whole history leaves. -/
theorem kept_eq_lasting (seen : List Sighting) : rules.kept seen = rules.lasting seen := by
  induction seen using List.reverseRecOn with
  | nil => rfl
  | append_singleton seen x ih =>
    rw [kept_snoc, ih]
    cases h : x.counts with
    | true => rw [rules.step_of_counted h, rules.lasting_snoc_of_counted h]
    | false => rw [rules.step_of_decided h, rules.lasting_snoc_of_decided h]

/-! ## The window -/

/-- A time within the window that ends now. A window without beginning holds all earlier times. -/
def inWindow (x : Sighting) (time : Instant) : Bool :=
  rules.reaches time x && notBefore x.now time

variable {rules}

/-- What lies at or after a cutoff lies at or after those before it. -/
theorem reaches_of_goesOn {x y : Sighting} (h : x.now.GoesOn y.now) (hy : y.now.inRange = true)
    {time : Instant} (hr : rules.reaches time y = true) : rules.reaches time x = true := by
  unfold reaches at hr ⊢
  cases hc : x.now.earlier? rules.window with
  | none => rfl
  | some cutoff =>
    obtain ⟨later, hlater, hle⟩ := Instant.earlier?_mono h hy hc
    simp only [hlater] at hr
    exact notBefore_trans hr hle

/-- While the clock goes on, only the last cutoff makes a difference. -/
theorem lasting_filter {x : Sighting} {seen : List Sighting}
    (hclock : seen.Pairwise fun a b => a.now.GoesOn b.now)
    (hx : ∀ y ∈ seen, y.now.GoesOn x.now) (hin : x.now.inRange = true) :
    (rules.lasting seen).filter (fun i => rules.reaches i.time x) =
      ((seen.filter (·.counts)).map (·.incident)).filter fun i => rules.reaches i.time x := by
  induction seen with
  | nil => rfl
  | cons y seen ih =>
    rw [List.pairwise_cons] at hclock
    have hrest := ih hclock.2 fun z hz => hx z (List.mem_cons_of_mem y hz)
    have hall : rules.reaches y.incident.time x = true →
        (seen.all fun z => !z.counts || rules.reaches y.incident.time z) = true := by
      intro hr
      rw [List.all_eq_true]
      intro z hz
      rw [reaches_of_goesOn (hx z (List.mem_cons_of_mem y hz)) hin hr, Bool.or_true]
    unfold lasting
    cases hc : y.counts with
    | false => simpa [hc] using hrest
    | true =>
      cases hr : rules.reaches y.incident.time x with
      | false =>
        simp only [hc, Bool.true_and, List.filter_cons, if_true, List.map_cons, hr,
          Bool.false_eq_true, if_false]
        split <;> simp [hr, hrest]
      | true => simp [hc, hr, hall hr, hrest]

/-- A sighting of what happens now is within its own window. -/
theorem inWindow_self (x : Sighting) (h : x.incident.time = x.now) :
    rules.inWindow x x.incident.time = true := by
  have hrefl : notBefore x.now x.now = true :=
    (notBefore_iff _ _).mpr (Or.inr ⟨rfl, Nat.le_refl _⟩)
  unfold inWindow reaches
  rw [h, hrefl, Bool.and_true]
  cases hc : x.now.earlier? rules.window with
  | none => rfl
  | some cutoff =>
    obtain ⟨_, _, rfl⟩ := Instant.earlier?_eq_some hc
    exact Instant.notBefore_back x.now rules.window

/-- While the clock goes on, and incidents are taken when they happen, what is kept is the
window. -/
theorem lasting_eq_window {x : Sighting} (h : x.counts = true) {seen : List Sighting}
    (hclock : (seen ++ [x]).Pairwise fun a b => a.now.GoesOn b.now)
    (htimes : ∀ y ∈ seen ++ [x], y.now.inRange = true ∧ y.incident.time = y.now) :
    rules.lasting (seen ++ [x]) =
      ((seen ++ [x]).filter fun y => y.counts && rules.inWindow x y.incident.time).map
        (·.incident) := by
  rw [List.pairwise_append] at hclock
  have hpast : ∀ y ∈ seen, y.now.GoesOn x.now :=
    fun y hy => hclock.2.2 y hy x (List.mem_singleton_self x)
  have hx := htimes x (List.mem_append_right seen (List.mem_singleton_self x))
  have hcongr : ∀ y ∈ seen, (y.counts && rules.reaches y.incident.time x) =
      (y.counts && rules.inWindow x y.incident.time) := by
    intro y hy
    rw [inWindow, (htimes y (List.mem_append_left _ hy)).2, (hpast y hy).1, Bool.and_true]
  rw [rules.lasting_snoc_of_counted h, lasting_filter hclock.1 hpast hx.1, List.filter_map,
    List.filter_filter, List.filter_append, List.map_append, List.filter_cons,
    inWindow_self x hx.2, h]
  simp only [Function.comp_def, Bool.and_comm (rules.reaches _ _), List.filter_congr hcongr]
  rfl

end Rules

/-! ## The law -/

/-- From no incidents at all, for any rules and any sightings in any order of time. Network failures
and the statuses of the soft kind count; everything else leaves what is kept as it was. After
a sighting that counts the incidents kept are those that count and that lie at or after the cutoff
of every later sighting that counts, in order, with its own incident last; and it gives up exactly
if these are as many as are allowed. So while the clock goes on, and incidents are taken when they
happen, it gives up exactly if as many of the whole history count and lie within the window that
ends now. -/
theorem lazy_pruning_is_the_sliding_window (rules : Rules) (seen : List Sighting) (x : Sighting) :
    (x.counts = true ↔ (∃ message, x.incident.kind = .network message) ∨
      ∃ code message, x.incident.kind = .status code message ∧
        code ∈ [408, 500, 502, 503, 504]) ∧
    (x.counts = false → rules.kept (seen ++ [x]) = rules.kept seen) ∧
    (x.counts = true →
      rules.kept (seen ++ [x]) = rules.lasting (seen ++ [x]) ∧
      (rules.lasting (seen ++ [x])).getLast? = some x.incident ∧
      (rules.givesUp seen x = true ↔
        rules.maxFailures ≤ (rules.lasting (seen ++ [x])).length) ∧
      ((seen ++ [x]).Pairwise (fun a b => a.now.GoesOn b.now) →
        (∀ y ∈ seen ++ [x], y.now.inRange = true ∧ y.incident.time = y.now) →
        (rules.givesUp seen x = true ↔
          rules.maxFailures ≤
            ((seen ++ [x]).filter fun y =>
              y.counts && rules.inWindow x y.incident.time).length))) := by
  refine ⟨?_, ?_, ?_⟩
  · simp only [Sighting.counts, beq_iff_eq]
    exact verdict_eq_counted x.incident.kind
  · intro h
    rw [rules.kept_snoc, rules.step_of_decided h]
  · intro h
    have hlasting := rules.lasting_snoc_of_counted h seen
    have hanswer : rules.givesUp seen x = true ↔
        rules.maxFailures ≤ (rules.lasting (seen ++ [x])).length := by
      rw [Rules.givesUp, rules.step_of_counted h, rules.kept_eq_lasting, hlasting,
        decide_eq_true_iff]
    refine ⟨rules.kept_eq_lasting _, ?_, hanswer, ?_⟩
    · rw [hlasting]
      exact List.getLast?_concat
    · intro hclock htimes
      rw [hanswer, Rules.lasting_eq_window h hclock htimes, List.length_map]

/-! ## A failing stream -/

/-- A network failure that is taken when it happens. -/
def lost (now : Instant) : Sighting := ⟨⟨.network "lost", now⟩, now⟩

def lostAt (second : Int) : Sighting := lost ⟨second, 0⟩

/-- Six failures in little more than a minute. At the last of them the first has left the window,
and five are left, which are as many as are allowed. -/
theorem the_window_holds_five_of_six_failures :
    let seen := [0, 30, 40, 50, 61].map lostAt
    (seen ++ [lostAt 62]).Pairwise (fun a b => a.now.GoesOn b.now) ∧
      (∀ y ∈ seen ++ [lostAt 62], y.now.inRange = true ∧ y.incident.time = y.now) ∧
      (lostAt 62).counts = true ∧ Rules.standard.givesUp seen (lostAt 62) = true ∧
      Rules.standard.givesUp (seen.take 4) (lostAt 61) = false := by
  intro seen
  have hplain : ∀ y ∈ seen ++ [lostAt 62], y.now.IsPlain := by decide
  have horder : (seen ++ [lostAt 62]).Pairwise fun a b => notBefore b.now a.now = true := by
    decide
  have hclock : (seen ++ [lostAt 62]).Pairwise (fun a b => a.now.GoesOn b.now) :=
    horder.imp_of_mem fun ha hb h => Instant.goesOn_of_plain (hplain _ ha) (hplain _ hb) h
  have htimes : ∀ y ∈ seen ++ [lostAt 62], y.now.inRange = true ∧ y.incident.time = y.now := by
    decide
  have hlaw := (lazy_pruning_is_the_sliding_window .standard seen (lostAt 62)).2.2 rfl
  refine ⟨hclock, htimes, rfl, (hlaw.2.2.2 hclock htimes).mpr ?_, ?_⟩
  · decide
  · decide

/-- Three failures around the leap second at the end of 2016, as the calendar goes on. The cutoff of
the second one, which lies within the leap second, is later than that of the third. So the first one
is dropped though it lies within the window that ends with the third, as all of them do. -/
theorem a_leap_second_drops_a_failure_of_the_window :
    let rules : Rules := ⟨3, .ofSeconds 1⟩
    let seen := [lost ⟨1483228799, 300000000⟩, lost ⟨1483228799, 1500000000⟩]
    let x := lost ⟨1483228800, 200000000⟩
    (seen ++ [x]).Pairwise (fun a b => notBefore b.now a.now = true) ∧
      (∀ y ∈ seen ++ [x], (y.now.inRange = true ∧ y.now.nano < 2000000000) ∧
        y.incident.time = y.now) ∧
      x.counts = true ∧ rules.givesUp seen x = false ∧
      rules.maxFailures ≤
        ((seen ++ [x]).filter fun y => y.counts && rules.inWindow x y.incident.time).length := by
  decide +kernel

end Failover

end ToggleSync
