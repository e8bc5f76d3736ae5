-- A stream from the start of its link until somebody stops it, or it gives up: how the attempts
-- follow each other, how long the link waits between them, what it counts, and after how many
-- failures it makes no more of them.
import Mathlib.Data.List.DropRight
import ToggleSync.Proofs.StreamAttempts

namespace ToggleSync.Http

variable {σ : Type}

/-! ## From attempt to attempt -/

/-- The failures in a row that the episodes end with. -/
def streak (episodes : List Episode) : Nat := (episodes.rtakeWhile (·.failure?.isSome)).length

@[simp] theorem streak_nil : streak [] = 0 := rfl

theorem streak_snoc (episodes : List Episode) (e : Episode) :
    streak (episodes ++ [e]) = if e.failure?.isSome then streak episodes + 1 else 0 := by
  unfold streak
  rw [List.rtakeWhile_concat]
  split <;> simp

theorem callsFrom_snoc (connected : Bool) (episodes : List Episode) (e : Episode) :
    callsFrom connected (episodes ++ [e]) =
      callsFrom connected episodes ++ e.calls (if episodes = [] then connected else false) := by
  cases episodes <;> simp [callsFrom]

/-- The wait stops growing long before the count of failures does. -/
theorem delay_min_maxFailures (rules : Backoff) (n : Nat) :
    rules.delay (min n Link.maxFailures) = rules.delay n := by
  have hmin : Nat.min (min n Link.maxFailures) 10 = Nat.min n 10 := by
    have hmax : 10 ≤ Link.maxFailures := by decide
    change min (min n Link.maxFailures) 10 = min n 10
    omega
  rw [Backoff.delay, hmin, Backoff.delay]

/-- What the link is about after the episodes. -/
def phaseAfter (rules : Backoff) (episodes : List Episode) : Link.Phase :=
  match episodes.getLast? with
  | none => .connecting
  | some e =>
    if e.outcome?.isNone then .listening
    else if 0 < rules.attempts ∧ rules.attempts ≤ min (streak episodes) Link.maxFailures then .idle
    else .waiting (rules.delay (streak episodes))

@[simp] theorem phaseAfter_nil (rules : Backoff) : phaseAfter rules [] = .connecting := rfl

theorem phaseAfter_snoc (rules : Backoff) (episodes : List Episode) (e : Episode) :
    phaseAfter rules (episodes ++ [e]) =
      if e.outcome?.isNone then .listening
      else if 0 < rules.attempts ∧
          rules.attempts ≤ min (streak (episodes ++ [e])) Link.maxFailures then .idle
      else .waiting (rules.delay (streak (episodes ++ [e]))) := by
  unfold phaseAfter
  rw [List.getLast?_concat]

section Phase

variable {rules : Backoff} {episodes : List Episode}

theorem phaseAfter_eq_connecting (h : phaseAfter rules episodes = .connecting) :
    episodes = [] := by
  rcases episodes.eq_nil_or_concat' with rfl | ⟨es, e, rfl⟩
  · rfl
  · rw [phaseAfter_snoc] at h
    split at h
    · cases h
    · split at h <;> cases h

theorem phaseAfter_eq_waiting {d : Span} (h : phaseAfter rules episodes = .waiting d) :
    d = rules.delay (streak episodes) := by
  rcases episodes.eq_nil_or_concat' with rfl | ⟨es, e, rfl⟩
  · cases h
  · rw [phaseAfter_snoc] at h
    split at h
    · cases h
    · split at h <;> cases h
      rfl

theorem phaseAfter_eq_listening :
    phaseAfter rules episodes = .listening ↔
      ∃ e, episodes.getLast? = some e ∧ e.outcome? = none := by
  rcases episodes.eq_nil_or_concat' with rfl | ⟨es, e, rfl⟩
  · simp
  · rw [phaseAfter_snoc, List.getLast?_concat]
    by_cases ho : e.outcome?.isNone
    · rw [if_pos ho]
      simpa using ho
    · rw [if_neg ho]
      split <;> simpa using ho

theorem phaseAfter_eq_idle :
    phaseAfter rules episodes = .idle ↔
      0 < rules.attempts ∧ rules.attempts ≤ min (streak episodes) Link.maxFailures := by
  rcases episodes.eq_nil_or_concat' with rfl | ⟨es, e, rfl⟩
  · simp only [phaseAfter_nil, reduceCtorEq, streak_nil, false_iff]
    omega
  · rw [phaseAfter_snoc]
    by_cases ho : e.outcome?.isNone
    · -- a stream that is still open has not failed
      have hf : e.failure? = none := by
        rw [Episode.failure?, Option.isNone_iff_eq_none.mp ho]
        rfl
      simp only [ho, if_true, reduceCtorEq, streak_snoc, hf, Option.isSome_none, Bool.false_eq_true,
        if_false, false_iff]
      omega
    · rw [if_neg ho]
      split <;> simp_all

end Phase

theorem resume_of_isTrying {l : Link} (hl : l.isTrying = true) :
    l.resume = { l with phase := .connecting } := by
  cases l with
  | mk rules phase failures connected waits received cancelled =>
    cases phase <;> simp_all [Link.resume, Link.isTrying]

/-- What a trail from a link keeps from attempt to attempt. -/
structure Course (l : Link) (attempts : List Attempt) (t : Trail σ) : Prop where
  made : t.episodes.map (·.attempt) <+: attempts
  all : t.link.isTrying = true → t.episodes.map (·.attempt) = attempts
  handed : ∀ e ∈ t.episodes, Handed e.attempt.messages e.handed
  told : t.told.map Prod.fst = callsFrom l.connected t.episodes
  answers : t.told.filterMap answered? = t.episodes.flatMap (·.handed)
  rules : t.link.rules = l.rules
  phase : t.link.phase = phaseAfter l.rules t.episodes
  failures : t.link.isTrying = true → t.link.failures = min (streak t.episodes) Link.maxFailures
  connected : t.link.isTrying = true →
    t.link.connected = if t.episodes = [] then l.connected else false
  received : t.link.received = l.received + UInt64.ofNat (t.episodes.flatMap (·.handed)).length
  waits : ∀ i (hi : i < t.waits.length),
    t.waits[i] = l.rules.delay (streak (t.episodes.take (i + 1)))
  begun : t.waits.length =
    if t.link.pause?.isSome then t.episodes.length else t.episodes.length - 1
  counted : t.link.waits = l.waits + UInt64.ofNat t.waits.length

theorem Course.begin {l l' : Link} (hl : l.start = .ok l') (s : σ) :
    Course l [] (Trail.begin l' s) := by
  unfold Link.start at hl
  split at hl
  · cases hl
  · cases hl
    constructor <;> simp [Trail.begin, callsFrom, phaseAfter, Link.pause?]

/-! ## One more attempt -/

theorem rest_failures (l : Link) : l.rest.failures = l.failures := by
  unfold Link.rest
  split <;> rfl

theorem rest_phase_eq (l : Link) :
    l.rest.phase = if 0 < l.rules.attempts ∧ l.rules.attempts ≤ l.failures then .idle
      else .waiting (l.rules.delay l.failures) := by
  unfold Link.rest
  simp only [Bool.and_eq_true, decide_eq_true_eq]
  split <;> rfl

/-- To rest is to wait or to give up, and a wait is counted. -/
theorem rest_counts (l : Link) :
    l.rest.rules = l.rules ∧ l.rest.received = l.received ∧
      l.rest.waits = l.waits + UInt64.ofNat l.rest.pause?.toList.length := by
  unfold Link.rest
  split
  · exact ⟨rfl, rfl, (UInt64.add_zero _).symm⟩
  · exact ⟨rfl, rfl, rfl⟩

/-- One attempt counts what it handed on, and the wait after it if there is one. -/
theorem after_counts (l : Link) (e : Episode) :
    (l.after e).rules = l.rules ∧ (l.after e).received = l.received + UInt64.ofNat e.handed.length ∧
      (l.after e).waits = l.waits + UInt64.ofNat (l.after e).pause?.toList.length := by
  unfold Link.after
  split
  · exact ⟨rfl, rfl, (UInt64.add_zero _).symm⟩
  · exact rest_counts _

section Snoc

variable {l t : Link} {episodes : List Episode} {e : Episode}

theorem after_failures (hf : t.failures = min (streak episodes) Link.maxFailures)
    (ho : e.outcome?.isSome = true) :
    (t.after e).failures = min (streak (episodes ++ [e])) Link.maxFailures ∧
      (t.after e).connected = false := by
  obtain ⟨o, ho⟩ := Option.isSome_iff_exists.mp ho
  have he : e.failure? = o.failure? := by rw [Episode.failure?, ho]; rfl
  unfold Link.after
  simp only [ho, Link.concluded, rest_failures, Line.rest_connected, and_true]
  rw [streak_snoc, he, hf]
  split <;> omega

theorem after_phase (hr : t.rules = l.rules)
    (hf : t.failures = min (streak episodes) Link.maxFailures) :
    (t.after e).phase = phaseAfter l.rules (episodes ++ [e]) := by
  rw [phaseAfter_snoc]
  cases ho : e.outcome? with
  | none => simp [Link.after, ho]
  | some o =>
    have hn := (after_failures hf (e := e) (by simp [ho])).1
    rw [← delay_min_maxFailures, ← hn, ← hr]
    simp only [Link.after, ho, Link.concluded, rest_phase_eq, rest_failures, Option.isNone_some,
      Bool.false_eq_true, if_false]

end Snoc

theorem pause?_eq_some {l : Link} {d : Span} (h : l.pause? = some d) : l.phase = .waiting d := by
  unfold Link.pause? at h
  split at h <;> cases h
  assumption

theorem outcome?_of_isTrying {l : Link} {e : Episode} (h : (l.after e).isTrying = true) :
    e.outcome?.isSome = true := by
  cases ho : e.outcome? with
  | none => simp [Link.after, ho, Link.isTrying] at h
  | some o => rfl

theorem waits_snoc {rules : Backoff} {waits : List Span} {pause : Option Span}
    {episodes : List Episode} {e : Episode} (hlength : waits.length = episodes.length)
    (hwaits : ∀ i (hi : i < waits.length),
      waits[i] = rules.delay (streak (episodes.take (i + 1))))
    (hpause : ∀ d, pause = some d → d = rules.delay (streak (episodes ++ [e]))) :
    ∀ i (hi : i < (waits ++ pause.toList).length), (waits ++ pause.toList)[i] =
      rules.delay (streak ((episodes ++ [e]).take (i + 1))) := by
  intro i hi
  by_cases hlt : i < waits.length
  · rw [List.getElem_append_left hlt, hwaits i hlt, List.take_append_of_le_length (by omega)]
  · cases pause with
    | none => exact absurd (by simpa using hi) hlt
    | some d =>
      have heq : i = waits.length := by
        simp at hi
        omega
      subst heq
      rw [List.getElem_append_right (Nat.le_refl _), List.take_of_length_le (by simp [hlength])]
      simpa using hpause d rfl

section Step

variable {l : Link} {attempts : List Attempt} {t : Trail σ}

/-- While there is an attempt to make, each one before it was followed by a wait. -/
theorem Course.length_waits (hc : Course l attempts t) (ht : t.link.isTrying = true) :
    t.waits.length = t.episodes.length := by
  rw [hc.begun]
  cases hp : t.link.phase with
  | idle => simp [Link.isTrying, hp] at ht
  | listening => simp [Link.isTrying, hp] at ht
  | waiting d => simp [Link.pause?, hp]
  | connecting =>
    have hnil : t.episodes = [] := phaseAfter_eq_connecting (hc.phase.symm.trans hp)
    simp [hnil]

/-- Where there is no attempt to make it does not matter how many more would come. -/
theorem Course.extend (hc : Course l attempts t) (ht : ¬t.link.isTrying = true)
    (more : List Attempt) : Course l (attempts ++ more) t :=
  { hc with
    made := hc.made.trans (List.prefix_append _ _)
    all := fun h => absurd h ht }

theorem Course.attempt (h : Listener σ) (hc : Course l attempts t) (a : Attempt) :
    Course l (attempts ++ [a]) (t.attempt h a) := by
  by_cases ht : t.link.isTrying
  case neg =>
    rw [Trail.attempt, if_neg ht]
    exact hc.extend ht [a]
  have hresume := resume_of_isTrying ht
  obtain ⟨handed, s', more, he, hh, hm, ha⟩ :=
    hear_attempt h a (l := t.link.resume) (by rw [hresume]) t.state t.told
  rw [hresume] at he hm
  have hlength := hc.length_waits ht
  have hattempts : (t.episodes ++ [Episode.mk a handed]).map (·.attempt) = attempts ++ [a] := by
    rw [List.map_append, hc.all ht]
    rfl
  have hphase := after_phase (e := ⟨a, handed⟩) (t := { t.link with phase := .connecting })
    hc.rules (hc.failures ht)
  rw [Trail.attempt, if_pos ht, hresume, he]
  simp only [List.drop_left, ha]
  exact
    { made := hattempts ▸ List.prefix_refl _
      all := fun _ => hattempts
      handed := by
        intro e hmem
        rcases List.mem_append.mp hmem with hmem | hmem
        · exact hc.handed e hmem
        · cases List.mem_singleton.mp hmem
          exact hh
      told := by rw [List.map_append, hc.told, hm, callsFrom_snoc, hc.connected ht]
      answers := by simp [hc.answers, ha]
      rules := (after_counts _ _).1.trans hc.rules
      phase := hphase
      failures := fun hn => (after_failures (hc.failures ht) (outcome?_of_isTrying hn)).1
      connected := fun hn => by
        rw [if_neg (by simp)]
        exact (after_failures (hc.failures ht) (outcome?_of_isTrying hn)).2
      received := by
        rw [(after_counts _ _).2.1, hc.received]
        simp [UInt64.add_assoc]
      waits := waits_snoc hlength hc.waits fun d hd =>
        phaseAfter_eq_waiting (hphase.symm.trans (pause?_eq_some hd))
      begun := by
        rw [List.length_append, hlength, List.length_append]
        cases (Link.pause? _) <;> simp
      counted := by
        rw [(after_counts _ _).2.2, hc.counted]
        simp [UInt64.add_assoc] }

theorem Course.attemptAll (h : Listener σ) {l' : Link} (hl : l.start = .ok l') (s : σ)
    (attempts : List Attempt) : Course l attempts ((Trail.begin l' s).attemptAll h attempts) := by
  induction attempts using List.reverseRecOn with
  | nil => exact Course.begin hl s
  | append_singleton attempts a ih =>
    rw [Trail.attemptAll, List.foldl_append]
    exact ih.attempt h a

end Step

/-! ## The law of attempts -/

theorem failures_calls (connected : Bool) (e : Episode) :
    (e.calls connected).filterMap Callback.failure? = e.failure?.toList := by
  have hparting : ∀ (b : Bool) (f : Option Failure),
      (Line.parting b f).filterMap Callback.failure? = f.toList := by
    intro b f
    cases b <;> cases f <;> rfl
  have hhanded : ∀ handed : List (EventStream.Event × Control),
      (handed.map fun m => Callback.message m.1).filterMap Callback.failure? = [] := by
    intro handed
    rw [List.filterMap_map]
    exact List.filterMap_eq_nil_iff.mpr fun _ _ => rfl
  obtain ⟨a, handed⟩ := e
  cases a with
  | refused f => exact hparting connected (some f)
  | opened messages ending =>
    rw [Episode.calls, List.cons_append, List.filterMap_cons_none rfl, List.filterMap_append,
      hhanded, List.nil_append, Episode.failure?, Episode.parted]
    cases Episode.outcome? _ with
    | none => rfl
    | some o => exact hparting true o.failure?

theorem failures_callsFrom (connected : Bool) (episodes : List Episode) :
    (callsFrom connected episodes).filterMap Callback.failure? =
      episodes.filterMap (·.failure?) := by
  induction episodes using List.reverseRecOn with
  | nil => rfl
  | append_singleton episodes e ih =>
    rw [callsFrom_snoc, List.filterMap_append, ih, failures_calls, List.filterMap_append]
    cases he : e.failure? <;> simp [he]

/-- From the start of a link on, however its attempts go: they are made in turn until a stream stays
open or the link gives up. Of each stream the messages are handed on in order, up to the first that
is answered with a wish to reconnect. A failure is told of once for each attempt that was refused
or broke, in order, and for no other. The wait after an attempt is the one for the failures in a row
that there were up to it, and the link counts its waits and the messages that it handed on, modulo
2^64. -/
theorem attempts_are_handed_on_told_of_and_spaced (h : Listener σ) (s : σ) {l l' : Link}
    (hl : l.start = .ok l') (attempts : List Attempt) :
    let t := (Trail.begin l' s).attemptAll h attempts
    t.episodes.map (·.attempt) <+: attempts ∧
      (t.link.isTrying = true → t.episodes.map (·.attempt) = attempts) ∧
      (t.link.phase = .listening ↔ ∃ e, t.episodes.getLast? = some e ∧ e.outcome? = none) ∧
      (t.link.phase = .idle ↔
        0 < l.rules.attempts ∧ l.rules.attempts ≤ min (streak t.episodes) Link.maxFailures) ∧
      (∀ e ∈ t.episodes, Handed e.attempt.messages e.handed) ∧
      t.told.filterMap answered? = t.episodes.flatMap (·.handed) ∧
      (t.told.map Prod.fst).filterMap Callback.failure? = t.episodes.filterMap (·.failure?) ∧
      t.told.map Prod.fst = callsFrom l.connected t.episodes ∧
      t.waits.length =
        (if t.link.pause?.isSome then t.episodes.length else t.episodes.length - 1) ∧
      (∀ i (hi : i < t.waits.length),
        t.waits[i] = l.rules.delay (streak (t.episodes.take (i + 1)))) ∧
      t.link.waits = l.waits + UInt64.ofNat t.waits.length ∧
      t.link.received = l.received + UInt64.ofNat (t.episodes.flatMap (·.handed)).length := by
  intro t
  have hc : Course l attempts t := .attemptAll h hl s attempts
  refine ⟨hc.made, hc.all, ?_, ?_, hc.handed, hc.answers, ?_, hc.told, hc.begun, hc.waits,
    hc.counted, hc.received⟩
  · rw [hc.phase, phaseAfter_eq_listening]
  · rw [hc.phase, phaseAfter_eq_idle]
  · rw [hc.told, failures_callsFrom]

/-- A listener that wishes to reconnect with the second message, a stream that breaks, and an
attempt that is refused: the waits start over with the reconnect. -/
theorem a_listener_reconnects_and_a_stream_breaks :
    let l := Link.new ⟨.ofMillis 1, .ofMillis 3, 3, true⟩
    let l' : Link := { l with phase := .connecting }
    let attempts : List Attempt :=
      [.opened [⟨"message", "1"⟩, ⟨"message", "2"⟩, ⟨"message", "3"⟩] (some .clean),
        .opened [⟨"message", "4"⟩] (some (.broken brokenBody)), .refused .requestFailed,
        .opened [] none]
    let t := (Trail.begin l' ⟨[], [.goOn, .reconnect]⟩).attemptAll record attempts
    l.start = .ok l' ∧
      t.told.map Prod.fst =
        [.opened, .message ⟨"message", "1"⟩, .message ⟨"message", "2"⟩, .closed,
          .opened, .message ⟨"message", "4"⟩, .closed, .failed brokenBody,
          .failed .requestFailed, .opened] ∧
      t.episodes.map (·.outcome?) =
        [some .reconnect, some (.broken brokenBody), some (.refused .requestFailed), none] ∧
      (t.told.map Prod.fst).filterMap Callback.failure? = t.episodes.filterMap (·.failure?) ∧
      t.waits = [.ofMillis 1, .ofMillis 2, .ofMillis 3] ∧
      t.link.received = 3 ∧ t.link.waits = 3 := by
  intro l l' attempts t
  have hl : l.start = .ok l' := rfl
  have hlaw :=
    attempts_are_handed_on_told_of_and_spaced record ⟨[], [.goOn, .reconnect]⟩ hl attempts
  have hfailed := hlaw.2.2.2.2.2.2.1
  exact ⟨hl, by decide +kernel, by decide +kernel, hfailed, by decide +kernel, by decide +kernel,
    by decide +kernel⟩

/-! ## Giving up -/

/-- So many failures in a row are the last so many attempts, each of them failed. -/
theorem le_streak_iff (n : Nat) (episodes : List Episode) :
    n ≤ streak episodes ↔
      n ≤ episodes.length ∧ ∀ e ∈ episodes.rtake n, e.failure?.isSome = true := by
  induction episodes using List.reverseRecOn generalizing n with
  | nil => simp
  | append_singleton episodes e ih =>
    cases n with
    | zero => simp
    | succ n =>
      rw [streak_snoc, List.rtake_concat_succ, List.length_append, List.length_singleton,
        Nat.add_le_add_iff_right]
      by_cases he : e.failure?.isSome
      · simp only [he, if_true, Nat.add_le_add_iff_right, ih n, List.mem_append,
          List.mem_singleton]
        grind
      · simp only [he, Bool.false_eq_true, if_false, Nat.le_zero, Nat.add_one_ne_zero, false_iff]
        exact fun h => he (h.2 e (by simp))

def Attempt.isRefused : Attempt → Bool
  | .refused _ => true
  | .opened _ _ => false

/-- An attempt that failed was refused, or its stream broke before anybody wished to reconnect. -/
theorem refused_or_broken {e : Episode} (h : e.failure?.isSome = true) :
    e.attempt.isRefused = true ∨ ∃ f, e.outcome? = some (.broken f) := by
  obtain ⟨a, handed⟩ := e
  cases a with
  | refused f => exact .inl rfl
  | opened messages ending =>
    right
    by_cases hasked : Episode.asked ⟨.opened messages ending, handed⟩
    · simp [Episode.failure?, Episode.outcome?, hasked, Attempt.Outcome.failure?] at h
    · cases ending with
      | none => simp [Episode.failure?, Episode.outcome?, hasked] at h
      | some ending =>
        cases ending with
        | clean =>
          simp [Episode.failure?, Episode.outcome?, hasked, Ending.outcome,
            Attempt.Outcome.failure?] at h
        | broken f => exact ⟨f, by simp [Episode.outcome?, hasked, Ending.outcome]⟩

/-- A link gives up once as many attempts in a row as its rules allow were refused or broke, and not
before. Where none of them broke it was not connected in any of them. -/
theorem a_link_gives_up_after_failures_in_a_row (h : Listener σ) (s : σ) {l l' : Link}
    (hl : l.start = .ok l') (hpos : 0 < l.rules.attempts) (hfit : l.rules.attempts < UInt32.size)
    (attempts : List Attempt) :
    let t := (Trail.begin l' s).attemptAll h attempts
    let last := t.episodes.rtake l.rules.attempts
    (t.link.isIdle = true ↔
      l.rules.attempts ≤ t.episodes.length ∧ ∀ e ∈ last, e.failure?.isSome = true) ∧
      (t.link.isIdle = true → (∀ e ∈ last, ∀ f, e.outcome? ≠ some (.broken f)) →
        ∀ e ∈ last, e.attempt.isRefused = true) := by
  intro t last
  have hc : Course l attempts t := .attemptAll h hl s attempts
  have hidle : t.link.isIdle = true ↔
      l.rules.attempts ≤ t.episodes.length ∧ ∀ e ∈ last, e.failure?.isSome = true := by
    rw [← le_streak_iff, Link.isIdle, decide_eq_true_eq, hc.phase, phaseAfter_eq_idle]
    have hmax : l.rules.attempts ≤ Link.maxFailures := by
      unfold Link.maxFailures
      omega
    omega
  refine ⟨hidle, fun hi hwhole e he => ?_⟩
  rcases refused_or_broken ((hidle.mp hi).2 e he) with hr | ⟨f, hf⟩
  · exact hr
  · exact absurd hf (hwhole e he f)

/-- A stream ends as it should, and two attempts after it are refused. -/
theorem two_refusals_in_a_row_end_a_link :
    let l := Link.new ⟨.ofMillis 1, .ofMillis 3, 2, true⟩
    let l' : Link := { l with phase := .connecting }
    let attempts : List Attempt :=
      [.refused .requestFailed, .opened [⟨"message", "1"⟩] (some .clean), .refused .requestFailed,
        .refused .requestFailed]
    let t := (Trail.begin l' ⟨[], []⟩).attemptAll record attempts
    let last := t.episodes.rtake l.rules.attempts
    l.start = .ok l' ∧ 0 < l.rules.attempts ∧ l.rules.attempts < UInt32.size ∧
      t.link.isIdle = true ∧ (∀ e ∈ last, ∀ f, e.outcome? ≠ some (.broken f)) ∧
      ∀ e ∈ last, e.attempt.isRefused = true := by
  intro l l' attempts t last
  have hl : l.start = .ok l' := rfl
  have hpos : 0 < l.rules.attempts := by decide
  have hfit : l.rules.attempts < UInt32.size := by decide
  have hlast : last = [⟨.refused .requestFailed, []⟩, ⟨.refused .requestFailed, []⟩] := by
    decide +kernel
  have hlaw := a_link_gives_up_after_failures_in_a_row record ⟨[], []⟩ hl hpos hfit attempts
  have hidle : t.link.isIdle = true := hlaw.1.mpr ⟨by decide +kernel, by decide +kernel⟩
  have hwhole : ∀ e ∈ last, ∀ f, e.outcome? ≠ some (.broken f) := by
    simp [hlast, Episode.outcome?]
  exact ⟨hl, hpos, hfit, hidle, hwhole, hlaw.2 hidle hwhole⟩

/-- With one failure allowed a link gives up for good when the stream that it was connected to
breaks in the middle of an event, though nothing was refused and a message had come. -/
theorem a_link_gives_up_though_it_was_connected :
    let r : Reply := ⟨200, none, "data: 1\n\ndata: 2".toUTF8.toList, true⟩
    let a : Attempt := .opened [⟨"message", "1"⟩] (some (.broken brokenBody))
    let l := Link.new ⟨.ofMillis 1, .ofMillis 2, 1, true⟩
    let t := (Trail.begin { l with phase := .connecting } ⟨[], []⟩).attemptAll record [a, a]
    (Exchange.answered r).news false = a.news ∧
      t.told.map Prod.fst =
        [.opened, .message ⟨"message", "1"⟩, .closed, .failed brokenBody] ∧
      t.link.isIdle = true ∧
      ¬∀ e ∈ t.episodes.rtake l.rules.attempts, e.attempt.isRefused = true := by
  decide +kernel

end ToggleSync.Http
