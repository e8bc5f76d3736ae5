-- Which variants a toggle gives at all. There are at most 2^32 - 1 buckets, however much the
-- variants weigh together. A variant has those of its buckets that are not behind the last one, so
-- that one which begins behind the last bucket is never given.
import ToggleSync.Proofs.BucketShares

namespace ToggleSync.Toggle

/-! ## Buckets that there are -/

/-- Every bucket is that of some hash value. -/
theorem exists_bucketOfHash {t : Toggle} {b : Nat} (hpos : 1 ≤ b) (hle : b ≤ t.bucketCount) :
    ∃ hash, t.bucketOfHash hash = b := by
  have hmax : t.bucketCount ≤ maxBucket := Nat.min_le_right _ _
  have hsize : b - 1 < UInt32.size := by
    have : maxBucket < UInt32.size := by decide
    omega
  refine ⟨.ofNat (b - 1), ?_⟩
  rw [bucketOfHash, UInt32.toNat_ofNat_of_lt' hsize, Nat.mod_eq_of_lt (by omega)]
  omega

theorem weightBefore_add_le {ws : List WeightedVariant} {i : Nat} {w : WeightedVariant}
    (h : ws[i]? = some w) : weightBefore ws i + w.weight.toNat ≤ weightOf ws := by
  rw [← weightBefore_succ h]
  exact weightBefore_le ws (i + 1)

/-- The buckets of a variant end with the share that its weight gives it, or with the last one. -/
theorem mem_buckets_iff {t : Toggle} {i : Nat} {w : WeightedVariant}
    (h : t.variants[i]? = some w) (b : Nat) :
    (1 ≤ b ∧ b ≤ t.bucketCount) ∧ placeOf? b t.variants = some i ↔
      weightBefore t.variants i < b ∧
        b ≤ min (weightBefore t.variants i + w.weight.toNat) maxBucket := by
  have hlen : i < t.variants.length := (List.getElem?_eq_some_iff.mp h).1
  have hshare : weightBefore t.variants i + w.weight.toNat ≤ t.totalWeight := weightBefore_add_le h
  have hcount : t.bucketCount = min t.totalWeight maxBucket := rfl
  constructor
  · rintro ⟨⟨hpos, hle⟩, hplace⟩
    have hin := ((placeOf?_eq_some_iff hpos t.variants i).mp hplace).2
    rw [weightBefore_succ h] at hin
    omega
  · rintro ⟨hbehind, hwithin⟩
    have hpos : 0 < b := by omega
    refine ⟨⟨hpos, by omega⟩, (placeOf?_eq_some_iff hpos t.variants i).mpr ⟨hlen, hbehind, ?_⟩⟩
    rw [weightBefore_succ h]
    omega

theorem card_buckets {t : Toggle} {i : Nat} {w : WeightedVariant}
    (h : t.variants[i]? = some w) :
    ((Finset.Icc 1 t.bucketCount).filter (placeOf? · t.variants = some i)).card =
      min w.weight.toNat (maxBucket - weightBefore t.variants i) := by
  have hbuckets : (Finset.Icc 1 t.bucketCount).filter (placeOf? · t.variants = some i) =
      Finset.Ioc (weightBefore t.variants i)
        (min (weightBefore t.variants i + w.weight.toNat) maxBucket) := by
    ext b
    simp only [Finset.mem_filter, Finset.mem_Icc, Finset.mem_Ioc]
    exact mem_buckets_iff h b
  rw [hbuckets, Nat.card_Ioc]
  omega

/-- The bucket of a hash value is one that there is. -/
theorem bucketOfHash_mem {t : Toggle} (h : t.totalWeight ≠ 0) (hash : UInt32) :
    1 ≤ t.bucketOfHash hash ∧ t.bucketOfHash hash ≤ t.bucketCount :=
  ⟨t.bucketOfHash_pos hash, bucketOfHash_le t hash h⟩

theorem totalWeight_ne_zero {t : Toggle} {i : Nat} {w : WeightedVariant}
    (h : t.variants[i]? = some w) (hw : 0 < w.weight.toNat) : t.totalWeight ≠ 0 := by
  have hshare : weightBefore t.variants i + w.weight.toNat ≤ t.totalWeight := weightBefore_add_le h
  omega

/-- The variant of a hash value is the one in whose share its bucket lies. -/
theorem variantOfHash_of_place {t : Toggle} (ht : t.enabled = true) {i : Nat} {w : WeightedVariant}
    (h : t.variants[i]? = some w) (hw : 0 < w.weight.toNat) {hash : UInt32}
    (hplace : placeOf? (t.bucketOfHash hash) t.variants = some i) :
    t.variantOfHash hash = ⟨w.name, true, true, w.payload⟩ := by
  obtain ⟨j, v, hj, hjplace, hvariant⟩ :=
    variantOfHash_of_weight ht (totalWeight_ne_zero h hw) hash
  cases hplace.symm.trans hjplace
  cases h.symm.trans hj
  exact hvariant

/-- The first bucket of a variant is one that there is, unless it is behind the last one. -/
theorem exists_place_iff {t : Toggle} {i : Nat} {w : WeightedVariant}
    (h : t.variants[i]? = some w) (hw : 0 < w.weight.toNat) :
    (∃ hash, placeOf? (t.bucketOfHash hash) t.variants = some i) ↔
      weightBefore t.variants i < maxBucket := by
  constructor
  · rintro ⟨hash, hplace⟩
    have hin := (mem_buckets_iff h _).mp
      ⟨bucketOfHash_mem (totalWeight_ne_zero h hw) hash, hplace⟩
    omega
  · intro hbefore
    have hfirst : weightBefore t.variants i < weightBefore t.variants i + 1 ∧
        weightBefore t.variants i + 1 ≤
          min (weightBefore t.variants i + w.weight.toNat) maxBucket := by omega
    obtain ⟨⟨hpos, hle⟩, hplace⟩ := (mem_buckets_iff h _).mpr hfirst
    obtain ⟨hash, hhash⟩ := exists_bucketOfHash hpos hle
    exact ⟨hash, by rw [hhash, hplace]⟩

/-! ## The law -/

/-- A variant with a weight is given for some bucket if and only if the weight in front of it is
less than the number of buckets that there can be at most; so all of them are, where the weights
together do not exceed that number. It has one bucket for each unit of its weight, up to the last
bucket. A bucket is that of some hash value if it counts from 1 to the number of buckets, and a
context gets the variant of the hash value of its key. -/
theorem a_variant_is_given_if_it_begins_before_the_last_bucket (t : Toggle)
    (ht : t.enabled = true) (i : Nat) (w : WeightedVariant) (hi : t.variants[i]? = some w)
    (hw : 0 < w.weight.toNat) :
    ((∃ hash, placeOf? (t.bucketOfHash hash) t.variants = some i) ↔
      weightBefore t.variants i < UInt32.size - 1) ∧
    (t.totalWeight ≤ UInt32.size - 1 →
      ∃ hash, placeOf? (t.bucketOfHash hash) t.variants = some i) ∧
    (∀ hash, placeOf? (t.bucketOfHash hash) t.variants = some i →
      t.variantOfHash hash = ⟨w.name, true, true, w.payload⟩) ∧
    ((Finset.Icc 1 t.bucketCount).filter (placeOf? · t.variants = some i)).card =
      min w.weight.toNat (UInt32.size - 1 - weightBefore t.variants i) ∧
    (∀ b, (1 ≤ b ∧ b ≤ t.bucketCount) ↔ ∃ hash, t.bucketOfHash hash = b) ∧
    (∀ c spare, t.variantFor c spare =
      t.variantOfHash (hashOf t.name ((c.stickinessValue t.stickiness).getD spare))) := by
  have hgiven := exists_place_iff hi hw
  refine ⟨hgiven, ?_, fun hash => variantOfHash_of_place ht hi hw, card_buckets hi, ?_,
    t.variantFor_eq_variantOfHash⟩
  · intro hfits
    have hshare : weightBefore t.variants i + w.weight.toNat ≤ t.totalWeight :=
      weightBefore_add_le hi
    have hmax : maxBucket = UInt32.size - 1 := rfl
    exact hgiven.mpr (by omega)
  · intro b
    constructor
    · rintro ⟨hpos, hle⟩
      exact exists_bucketOfHash hpos hle
    · rintro ⟨hash, rfl⟩
      exact bucketOfHash_mem (totalWeight_ne_zero hi hw) hash

/-- Two variants that weigh as much as there are buckets, each of them. -/
def theme : Toggle :=
  ⟨"theme", true, none, none, false,
    [⟨"blue", 4294967295, none, none⟩, ⟨"red", 4294967295, none, none⟩]⟩

/-- Of the second of two variants of three thousand million, less than half has buckets, and that is
enough for it to be given. -/
theorem a_heavy_variant_is_given :
    let t : Toggle := ⟨"theme", true, none, none, false,
      [⟨"blue", 3000000000, none, none⟩, ⟨"red", 3000000000, none, none⟩]⟩
    t.enabled = true ∧ t.variants[1]? = some ⟨"red", 3000000000, none, none⟩ ∧
      0 < (3000000000 : UInt32).toNat ∧
      ((Finset.Icc 1 t.bucketCount).filter (placeOf? · t.variants = some 1)).card = 1294967295 ∧
      ∃ hash, t.variantOfHash hash = ⟨"red", true, true, none⟩ := by
  intro t
  obtain ⟨hgiven, -, hvariant, hcard, -, -⟩ :=
    a_variant_is_given_if_it_begins_before_the_last_bucket t rfl 1 _ rfl (by decide)
  obtain ⟨hash, hplace⟩ := hgiven.mpr (by decide)
  exact ⟨rfl, rfl, by decide, hcard.trans (by decide), hash, hvariant hash hplace⟩

/-- The last bucket belongs to the first variant, and so do all others: nobody gets the second. -/
theorem a_heavy_variant_behind_the_last_bucket_is_never_given :
    theme.enabled = true ∧
      (∃ w, theme.variants[1]? = some w ∧ w.name = "red" ∧ 0 < w.weight.toNat) ∧
      (∀ b, 1 ≤ b ∧ b ≤ theme.bucketCount → placeOf? b theme.variants = some 0) ∧
      ∀ c spare, theme.variantFor c spare = ⟨"blue", true, true, none⟩ := by
  have hfirst : ∀ b, 1 ≤ b ∧ b ≤ theme.bucketCount → placeOf? b theme.variants = some 0 := by
    rintro b ⟨-, hle⟩
    have hcount : theme.bucketCount = 4294967295 := by decide
    rw [hcount] at hle
    exact if_pos hle
  refine ⟨rfl, ⟨_, rfl, rfl, by decide⟩, hfirst, ?_⟩
  intro c spare
  rw [variantFor_eq_variantOfHash]
  exact variantOfHash_of_place rfl rfl (by decide) (hfirst _ (bucketOfHash_mem (by decide) _))

end ToggleSync.Toggle
