-- How the buckets of a toggle are shared out. Each variant has as many buckets in a row as it has
-- weight, in the order of the variants. So each bucket belongs to one variant, none is left over,
-- and no number on the way outgrows the word that a machine keeps it in.
import Mathlib.Order.Interval.Finset.Nat
import ToggleSync.Assignment
import ToggleSync.Proofs.Digits

namespace ToggleSync

namespace Toggle

/-! ## The pure notion -/

/-- The weight of the variants in front of place `i`. -/
def weightBefore (ws : List WeightedVariant) (i : Nat) : Nat := weightOf (ws.take i)

/-- The place of the variant that a bucket belongs to. -/
def placeOf? (b : Nat) : List WeightedVariant → Option Nat
  | [] => none
  | w :: ws =>
    if b ≤ w.weight.toNat then some 0 else (placeOf? (b - w.weight.toNat) ws).map (· + 1)

theorem variantAt?_eq (b : Nat) (ws : List WeightedVariant) :
    variantAt? b ws = (placeOf? b ws).bind (ws[·]?) := by
  induction ws generalizing b with
  | nil => rfl
  | cons w ws ih =>
    by_cases h : b ≤ w.weight.toNat
    · simp [variantAt?, placeOf?, h]
    · simp [variantAt?, placeOf?, h, ih, Option.bind_map]

@[simp] theorem weightBefore_zero (ws : List WeightedVariant) : weightBefore ws 0 = 0 := rfl

@[simp] theorem weightBefore_cons (w : WeightedVariant) (ws : List WeightedVariant) (i : Nat) :
    weightBefore (w :: ws) (i + 1) = w.weight.toNat + weightBefore ws i := rfl

theorem weightBefore_succ {ws : List WeightedVariant} {i : Nat} {w : WeightedVariant}
    (h : ws[i]? = some w) : weightBefore ws (i + 1) = weightBefore ws i + w.weight.toNat := by
  induction ws generalizing i with
  | nil => simp at h
  | cons v ws ih =>
    rcases i with _ | i
    · simp at h
      subst h
      simp
    · rw [weightBefore_cons, weightBefore_cons, ih (by simpa using h), Nat.add_assoc]

theorem weightBefore_le (ws : List WeightedVariant) (i : Nat) :
    weightBefore ws i ≤ weightOf ws := by
  induction ws generalizing i with
  | nil => simp [weightBefore]
  | cons w ws ih =>
    rcases i with _ | i
    · simp
    · rw [weightBefore_cons, weightOf]
      exact Nat.add_le_add_left (ih i) _

/-- A bucket belongs to the variant whose share it lies in: behind the weight of the variants in
front, and not behind its own as well. -/
theorem placeOf?_eq_some_iff {b : Nat} (hb : 0 < b) (ws : List WeightedVariant) (i : Nat) :
    placeOf? b ws = some i ↔
      i < ws.length ∧ weightBefore ws i < b ∧ b ≤ weightBefore ws (i + 1) := by
  induction ws generalizing b i with
  | nil => simp [placeOf?]
  | cons w ws ih =>
    by_cases h : b ≤ w.weight.toNat
    · rcases i with _ | i
      · simp [placeOf?, h, hb]
      · have hbehind : ¬ weightBefore (w :: ws) (i + 1) < b := by
          rw [weightBefore_cons]
          omega
        simp only [placeOf?, h, if_true, Option.some.injEq, hbehind, false_and, and_false,
          iff_false]
        omega
    · rcases i with _ | i
      · simp [placeOf?, h]
      · have hrest := ih (b := b - w.weight.toNat) (by omega) i
        simp only [placeOf?, h, if_false, Option.map_eq_some_iff, Nat.add_right_cancel_iff,
          exists_eq_right, hrest, weightBefore_cons, List.length_cons]
        omega

/-- No bucket up to the total weight is left over. -/
theorem exists_placeOf? {b : Nat} {ws : List WeightedVariant} (h : b ≤ weightOf ws) (hb : 0 < b) :
    ∃ i, placeOf? b ws = some i := by
  induction ws generalizing b with
  | nil =>
    rw [weightOf] at h
    omega
  | cons w ws ih =>
    rw [weightOf] at h
    by_cases hw : b ≤ w.weight.toNat
    · exact ⟨0, by simp [placeOf?, hw]⟩
    · obtain ⟨i, hi⟩ := ih (b := b - w.weight.toNat) (by omega) (by omega)
      exact ⟨i + 1, by simp [placeOf?, hw, hi]⟩

/-- The share of a variant is as large as its weight. -/
theorem card_share {ws : List WeightedVariant} {i : Nat} {w : WeightedVariant}
    (h : ws[i]? = some w) :
    ((Finset.Icc 1 (weightOf ws)).filter (placeOf? · ws = some i)).card = w.weight.toNat := by
  have hlen : i < ws.length := (List.getElem?_eq_some_iff.mp h).1
  have hshare : (Finset.Icc 1 (weightOf ws)).filter (placeOf? · ws = some i) =
      Finset.Ioc (weightBefore ws i) (weightBefore ws (i + 1)) := by
    ext b
    simp only [Finset.mem_filter, Finset.mem_Icc, Finset.mem_Ioc]
    constructor
    · rintro ⟨⟨hb, -⟩, hplace⟩
      exact ((placeOf?_eq_some_iff hb ws i).mp hplace).2
    · rintro ⟨hbehind, hwithin⟩
      have hb : 0 < b := Nat.lt_of_le_of_lt (Nat.zero_le _) hbehind
      have hle : b ≤ weightOf ws := Nat.le_trans hwithin (weightBefore_le ws (i + 1))
      exact ⟨⟨hb, hle⟩, (placeOf?_eq_some_iff hb ws i).mpr ⟨hlen, hbehind, hwithin⟩⟩
  rw [hshare, Nat.card_Ioc, weightBefore_succ h]
  omega

/-! ## Hash values -/

/-- The bucket of a hash value, counted from 1. -/
def bucketOfHash (t : Toggle) (hash : UInt32) : Nat := hash.toNat % t.bucketCount + 1

/-- The variant of a context whose key has the hash value. -/
def variantOfHash (t : Toggle) (hash : UInt32) : Variant :=
  if !t.enabled || t.totalWeight = 0 then .disabled t.enabled
  else
    match variantAt? (t.bucketOfHash hash) t.variants with
    | some w => ⟨w.name, true, true, w.payload⟩
    | none => .disabled t.enabled

/-- The hash value of a key among the keys of a group. -/
def hashOf (group key : String) : UInt32 :=
  .ofNat (leadingNumber (Digest.sha256 (bucketBytes group key)))

theorem leadingNumber_lt (digest : List UInt8) : leadingNumber digest < UInt32.size := by
  have hlen : (digest.take 4).length ≤ 4 := by simp
  calc leadingNumber digest < (0 + 1) * 256 ^ (digest.take 4).length :=
        foldl_digits_lt (fun b _ => b.toNat_lt) 0
    _ ≤ 1 * 256 ^ 4 := Nat.mul_le_mul_left 1 (Nat.pow_le_pow_right (by decide) hlen)
    _ = UInt32.size := by decide

theorem bucket_eq (t : Toggle) (key : String) (h : t.bucketCount ≠ 0) :
    bucket t.name key t.bucketCount = t.bucketOfHash (hashOf t.name key) := by
  have hlt := leadingNumber_lt (Digest.sha256 (bucketBytes t.name key))
  rw [bucket, if_neg h, bucketOfHash, hashOf, UInt32.toNat_ofNat_of_lt' hlt]

theorem bucketCount_ne_zero {t : Toggle} (h : t.totalWeight ≠ 0) : t.bucketCount ≠ 0 := by
  have hmax : maxBucket ≠ 0 := by decide
  rw [bucketCount]
  omega

/-- A context gets the variant of the hash of its key, which is its stickiness value or a spare. -/
theorem variantFor_eq_variantOfHash (t : Toggle) (c : Context) (spare : String) :
    t.variantFor c spare =
      t.variantOfHash (hashOf t.name ((c.stickinessValue t.stickiness).getD spare)) := by
  unfold variantFor variantOfHash
  by_cases ht : t.totalWeight = 0
  · simp [ht]
  · have hbucket := bucket_eq t ((c.stickinessValue t.stickiness).getD spare)
      (bucketCount_ne_zero ht)
    cases hv : variantAt? (t.bucketOfHash
        (hashOf t.name ((c.stickinessValue t.stickiness).getD spare))) t.variants with
    | none => simp [hbucket, hv]
    | some w => simp [hbucket, hv]

/-- A context with a stickiness value gets the variant of that value's hash. -/
theorem variantFor_eq (t : Toggle) {c : Context} {key : String}
    (h : c.stickinessValue t.stickiness = some key) (spare : String) :
    t.variantFor c spare = t.variantOfHash (hashOf t.name key) := by
  rw [variantFor_eq_variantOfHash, h, Option.getD_some]

theorem bucketOfHash_pos (t : Toggle) (hash : UInt32) : 0 < t.bucketOfHash hash := Nat.succ_pos _

theorem bucketOfHash_le (t : Toggle) (hash : UInt32) (h : t.totalWeight ≠ 0) :
    t.bucketOfHash hash ≤ t.bucketCount := by
  have hpos := bucketCount_ne_zero h
  have hlt := Nat.mod_lt hash.toNat (Nat.pos_of_ne_zero hpos)
  rw [bucketOfHash]
  omega

/-! ## In words -/

/-- The weights added up in 64 bits. -/
def totalInWords (ws : List WeightedVariant) : UInt64 :=
  ws.foldl (fun sum w => sum + w.weight.toUInt64) 0

/-- The bucket of a hash value, with 32 bits for each number on the way. -/
def bucketInWords (hash : UInt32) (total : UInt64) : UInt32 :=
  hash % (if total ≤ UInt32.toUInt64 0xFFFFFFFF then total.toUInt32 else 0xFFFFFFFF) + 1

/-- The first variant at which the weights, added up in 64 bits, reach a bucket. -/
def reachedInWords (b sum : UInt64) : List WeightedVariant → Option WeightedVariant
  | [] => none
  | w :: ws =>
    if b ≤ sum + w.weight.toUInt64 then some w else reachedInWords b (sum + w.weight.toUInt64) ws

/-- The variant of a hash value, with all sums made in words, which wrap where they overflow. -/
def variantInWords (t : Toggle) (hash : UInt32) : Variant :=
  if !t.enabled || totalInWords t.variants = 0 then .disabled t.enabled
  else
    match reachedInWords (bucketInWords hash (totalInWords t.variants)).toUInt64 0 t.variants with
    | some w => ⟨w.name, true, true, w.payload⟩
    | none => .disabled t.enabled

theorem weightOf_le (ws : List WeightedVariant) : weightOf ws ≤ ws.length * maxBucket := by
  induction ws with
  | nil => simp [weightOf]
  | cons w ws ih =>
    have hw : w.weight.toNat ≤ maxBucket := Nat.le_sub_one_of_lt w.weight.toNat_lt
    rw [weightOf, List.length_cons, Nat.succ_mul]
    omega

/-- Fewer than 2^32 variants weigh less than 2^64 together. -/
theorem weightOf_lt {ws : List WeightedVariant} (h : ws.length < UInt32.size) :
    weightOf ws < UInt64.size := by
  have hlen : ws.length ≤ maxBucket := Nat.le_sub_one_of_lt h
  calc weightOf ws ≤ ws.length * maxBucket := weightOf_le ws
    _ ≤ maxBucket * maxBucket := Nat.mul_le_mul_right _ hlen
    _ < UInt64.size := by decide

theorem toNat_add_weight {sum : UInt64} {w : WeightedVariant}
    (h : sum.toNat + w.weight.toNat < UInt64.size) :
    (sum + w.weight.toUInt64).toNat = sum.toNat + w.weight.toNat := by
  rw [UInt64.toNat_add, UInt32.toNat_toUInt64]
  exact Nat.mod_eq_of_lt h

theorem toNat_totalInWords {ws : List WeightedVariant} (h : weightOf ws < UInt64.size) :
    (totalInWords ws).toNat = weightOf ws := by
  have hstep : ∀ (ws : List WeightedVariant) (sum : UInt64),
      sum.toNat + weightOf ws < UInt64.size →
      (ws.foldl (fun sum w => sum + w.weight.toUInt64) sum).toNat = sum.toNat + weightOf ws := by
    intro ws
    induction ws with
    | nil => intro sum _; rfl
    | cons w ws ih =>
      intro sum hsum
      rw [weightOf] at hsum ⊢
      have hnext : (sum + w.weight.toUInt64).toNat = sum.toNat + w.weight.toNat :=
        toNat_add_weight (by omega)
      rw [List.foldl_cons, ih _ (by rw [hnext]; omega), hnext, Nat.add_assoc]
  rw [totalInWords, hstep ws 0 (by simpa using h)]
  simp

/-- A running sum finds the same variant as counting down from the bucket does. -/
theorem reachedInWords_eq {b sum : UInt64} {ws : List WeightedVariant}
    (h : sum.toNat + weightOf ws < UInt64.size) (hb : sum.toNat ≤ b.toNat) :
    reachedInWords b sum ws = variantAt? (b.toNat - sum.toNat) ws := by
  induction ws generalizing sum with
  | nil => rfl
  | cons w ws ih =>
    rw [weightOf] at h
    have hnext : (sum + w.weight.toUInt64).toNat = sum.toNat + w.weight.toNat :=
      toNat_add_weight (by omega)
    have hle : b ≤ sum + w.weight.toUInt64 ↔ b.toNat - sum.toNat ≤ w.weight.toNat := by
      rw [UInt64.le_iff_toNat_le, hnext]
      omega
    by_cases hreach : b.toNat - sum.toNat ≤ w.weight.toNat
    · simp [reachedInWords, variantAt?, hle, hreach]
    · simp only [reachedInWords, variantAt?, hle, hreach, if_false]
      rw [ih (by rw [hnext]; omega) (by rw [hnext]; omega), hnext, Nat.sub_add_eq]

theorem toNat_bucketInWords (t : Toggle) (hash : UInt32) {total : UInt64}
    (h : total.toNat = t.totalWeight) (hpos : t.totalWeight ≠ 0) :
    (bucketInWords hash total).toNat = t.bucketOfHash hash := by
  have hmax : (UInt32.toUInt64 0xFFFFFFFF).toNat = maxBucket := by decide
  have hmodulus : (if total ≤ UInt32.toUInt64 0xFFFFFFFF then total.toUInt32
      else 0xFFFFFFFF : UInt32).toNat = t.bucketCount := by
    rw [bucketCount, ← h]
    split
    · rename_i hle
      rw [UInt64.le_iff_toNat_le, hmax] at hle
      have hlt : total.toNat < 2 ^ 32 := Nat.lt_of_le_of_lt hle (by decide)
      rw [UInt64.toNat_toUInt32, Nat.mod_eq_of_lt hlt, Nat.min_eq_left hle]
    · rename_i hgt
      rw [UInt64.le_iff_toNat_le, hmax] at hgt
      rw [Nat.min_eq_right (by omega)]
      rfl
  have hbound := bucketOfHash_le t hash hpos
  have hcount : t.bucketCount ≤ maxBucket := Nat.min_le_right _ _
  have hfits : t.bucketOfHash hash < 2 ^ 32 :=
    Nat.lt_of_le_of_lt (Nat.le_trans hbound hcount) (by decide)
  rw [bucketInWords, UInt32.toNat_add, UInt32.toNat_mod, hmodulus]
  exact Nat.mod_eq_of_lt hfits

/-- Fewer than 2^32 variants can be chosen from in words: nothing wraps. -/
theorem variantInWords_eq {t : Toggle} (h : t.variants.length < UInt32.size) (hash : UInt32) :
    t.variantInWords hash = t.variantOfHash hash := by
  have hlt : weightOf t.variants < UInt64.size := weightOf_lt h
  have htotal : (totalInWords t.variants).toNat = t.totalWeight := toNat_totalInWords hlt
  have hzero : totalInWords t.variants = 0 ↔ t.totalWeight = 0 := by
    rw [← htotal, ← UInt64.toNat_inj]
    rfl
  unfold variantInWords variantOfHash
  by_cases hpos : t.totalWeight = 0
  · simp [hzero, hpos]
  · have hbucket : (bucketInWords hash (totalInWords t.variants)).toUInt64.toNat =
        t.bucketOfHash hash := by
      rw [UInt32.toNat_toUInt64, toNat_bucketInWords t hash htotal hpos]
    have hreached : reachedInWords (bucketInWords hash (totalInWords t.variants)).toUInt64 0
        t.variants = variantAt? (_ - 0) t.variants :=
      reachedInWords_eq (by simpa using hlt) (Nat.zero_le _)
    rw [hbucket] at hreached
    simp only [hzero, hpos, hreached, Nat.sub_zero]

/-! ## The law -/

/-- With variants that weigh something, the variant of a hash value is the one whose share the
bucket lies in. -/
theorem variantOfHash_of_weight {t : Toggle} (ht : t.enabled = true) (hw : t.totalWeight ≠ 0)
    (hash : UInt32) :
    ∃ i w, t.variants[i]? = some w ∧ placeOf? (t.bucketOfHash hash) t.variants = some i ∧
      t.variantOfHash hash = ⟨w.name, true, true, w.payload⟩ := by
  have hle : t.bucketOfHash hash ≤ weightOf t.variants :=
    Nat.le_trans (bucketOfHash_le t hash hw) (Nat.min_le_left _ _)
  obtain ⟨i, hi⟩ := exists_placeOf? hle (t.bucketOfHash_pos hash)
  have hlen := ((placeOf?_eq_some_iff (t.bucketOfHash_pos hash) t.variants i).mp hi).1
  have hat : variantAt? (t.bucketOfHash hash) t.variants = some t.variants[i] := by
    rw [variantAt?_eq, hi]
    simp [hlen]
  refine ⟨i, t.variants[i], List.getElem?_eq_getElem hlen, hi, ?_⟩
  simp [variantOfHash, ht, hw, hat]

/-- Which variant a context with a stickiness value gets, for any toggle with fewer than 2^32
variants and whatever the hash value is. A toggle that is off, or whose variants weigh nothing, gives
the disabled variant, which says whether the toggle is on. Any other gives, as on, the variant with
its payload in whose share the bucket lies: there is one and only one, and it has a weight. The
bucket is counted from 1 and goes up to the total weight, or to the largest number of 32 bits. No
sum outgrows 64 bits and no bucket 32, so that words give the same variant. And where every weight
has its bucket, a variant has as many of them as it weighs. -/
theorem buckets_are_shared_out_by_weight (t : Toggle) (c : Context) (key : String)
    (hfew : t.variants.length < UInt32.size) (hkey : c.stickinessValue t.stickiness = some key) :
    (∀ spare, t.variantFor c spare = t.variantOfHash (hashOf t.name key)) ∧
    (t.totalWeight ≠ 0 →
      bucket t.name key t.bucketCount = t.bucketOfHash (hashOf t.name key)) ∧
    (∀ hash, t.enabled = false ∨ t.totalWeight = 0 →
      t.variantOfHash hash = .disabled t.enabled) ∧
    (∀ hash, t.enabled = true → t.totalWeight ≠ 0 →
      1 ≤ t.bucketOfHash hash ∧
      t.bucketOfHash hash ≤ min t.totalWeight (UInt32.size - 1) ∧
      ∃ i w, t.variants[i]? = some w ∧
        (weightBefore t.variants i < t.bucketOfHash hash ∧
          t.bucketOfHash hash ≤ weightBefore t.variants i + w.weight.toNat) ∧
        0 < w.weight.toNat ∧
        (∀ j v, t.variants[j]? = some v → weightBefore t.variants j < t.bucketOfHash hash →
          t.bucketOfHash hash ≤ weightBefore t.variants j + v.weight.toNat → j = i) ∧
        placeOf? (t.bucketOfHash hash) t.variants = some i ∧
        t.variantOfHash hash = ⟨w.name, true, true, w.payload⟩) ∧
    (∀ i, weightBefore t.variants i < UInt64.size) ∧
    (∀ hash, t.variantInWords hash = t.variantOfHash hash) ∧
    (t.totalWeight ≤ UInt32.size - 1 → ∀ i w, t.variants[i]? = some w →
      ((Finset.Icc 1 t.totalWeight).filter (placeOf? · t.variants = some i)).card =
        w.weight.toNat) := by
  refine ⟨t.variantFor_eq hkey, fun hw => bucket_eq t key (bucketCount_ne_zero hw), ?_, ?_, ?_,
    variantInWords_eq hfew, fun _ i w hi => card_share hi⟩
  · rintro hash (hoff | hnone)
    · simp [variantOfHash, hoff]
    · simp [variantOfHash, hnone]
  · intro hash ht hw
    refine ⟨t.bucketOfHash_pos hash, bucketOfHash_le t hash hw, ?_⟩
    obtain ⟨i, w, hi, hplace, hvariant⟩ := variantOfHash_of_weight ht hw hash
    have hshare := ((placeOf?_eq_some_iff (t.bucketOfHash_pos hash) t.variants i).mp hplace).2
    rw [weightBefore_succ hi] at hshare
    refine ⟨i, w, hi, hshare, by omega, ?_, hplace, hvariant⟩
    intro j v hj hbehind hwithin
    have hother : placeOf? (t.bucketOfHash hash) t.variants = some j := by
      rw [placeOf?_eq_some_iff (t.bucketOfHash_pos hash), weightBefore_succ hj]
      exact ⟨(List.getElem?_eq_some_iff.mp hj).1, hbehind, hwithin⟩
    rw [hplace] at hother
    exact (Option.some.inj hother).symm
  · intro i
    exact Nat.lt_of_le_of_lt (weightBefore_le t.variants i) (weightOf_lt hfew)

/-- Two variants with a weight, and others without one in front of them, between them and behind
them. -/
def banner : Toggle :=
  ⟨"banner", true, none, none, false,
    [⟨"none", 0, none, none⟩, ⟨"blue", 30, none, some ⟨"string", "#00f"⟩⟩, ⟨"old", 0, none, none⟩,
      ⟨"red", 70, none, none⟩, ⟨"last", 0, none, none⟩]⟩

theorem a_banner_is_blue_in_thirty_buckets :
    banner.variants.length < UInt32.size ∧
      (Context.empty.setField "userId" "user-42").stickinessValue banner.stickiness =
        some "user-42" ∧
      ((Finset.Icc 1 banner.totalWeight).filter (placeOf? · banner.variants = some 1)).card = 30 ∧
      ∀ hash, ∃ w ∈ banner.variants, 0 < w.weight.toNat ∧
        banner.variantOfHash hash = ⟨w.name, true, true, w.payload⟩ := by
  have hfew : banner.variants.length < UInt32.size := by decide
  have hkey : (Context.empty.setField "userId" "user-42").stickinessValue banner.stickiness =
      some "user-42" := by decide
  obtain ⟨-, -, -, hon, -, -, hcount⟩ := buckets_are_shared_out_by_weight banner _ _ hfew hkey
  refine ⟨hfew, hkey, hcount (by decide) 1 _ rfl, ?_⟩
  intro hash
  obtain ⟨-, -, i, w, hi, -, hpos, -, -, hvariant⟩ := hon hash rfl (by decide)
  exact ⟨w, List.mem_of_getElem? hi, hpos, hvariant⟩

end Toggle

end ToggleSync
