-- Tables as maps. Two tables find the same under every key if and only if their entries are the
-- same but for the order, and so if and only if they are the same in the order of their keys.
import Mathlib.Data.List.Nodup
import ToggleSync.Table

namespace ToggleSync.Table

variable {α : Type}

theorem find_eq_some_iff {es : List (String × α)} (h : (es.map Prod.fst).Nodup) (key : String)
    (a : α) : find key es = some a ↔ (key, a) ∈ es := by
  induction es with
  | nil => simp [find]
  | cons e es ih =>
    rw [List.map_cons, List.nodup_cons] at h
    by_cases he : e.1 = key
    · have hrest : (key, a) ∉ es := fun hm => h.1 (he ▸ List.mem_map_of_mem (f := Prod.fst) hm)
      subst he
      simp [find, hrest, Prod.ext_iff, eq_comm]
    · have hother : (key, a) ≠ e := fun hk => he (hk ▸ rfl)
      rw [find, if_neg he, ih h.2, List.mem_cons, or_iff_right hother]

theorem get?_eq_some_iff (t : Table α) (key : String) (a : α) :
    t.get? key = some a ↔ (key, a) ∈ t.entries :=
  find_eq_some_iff t.distinct key a

theorem perm_iff (t t' : Table α) :
    t.entries.Perm t'.entries ↔ ∀ key, t.get? key = t'.get? key := by
  rw [List.perm_ext_iff_of_nodup t.distinct.of_map t'.distinct.of_map]
  constructor
  · intro h key
    apply Option.ext
    intro a
    rw [get?_eq_some_iff, get?_eq_some_iff, h]
  · rintro h ⟨key, a⟩
    rw [← get?_eq_some_iff, ← get?_eq_some_iff, h]

/-- The entries in the order of their keys. -/
def sorted (t : Table α) : List (String × α) := t.entries.mergeSort fun a b => a.1 ≤ b.1

theorem perm_sorted (t : Table α) : t.sorted.Perm t.entries := List.mergeSort_perm _ _

theorem pairwise_sorted (t : Table α) : t.sorted.Pairwise fun a b => a.1 ≤ b.1 := by
  have hsorted : t.sorted.Pairwise fun a b => decide (a.1 ≤ b.1) = true := by
    apply List.pairwise_mergeSort
    · intro a b c hab hbc
      exact decide_eq_true (String.le_trans (of_decide_eq_true hab) (of_decide_eq_true hbc))
    · intro a b
      simpa using String.le_total a.1 b.1
  exact hsorted.imp of_decide_eq_true

/-- Entries that came in the order of their keys stay in it. -/
theorem sorted_of_ordered {t : Table α} (h : t.entries.Pairwise fun a b => a.1 ≤ b.1) :
    t.sorted = t.entries :=
  List.mergeSort_of_pairwise (h.imp decide_eq_true)

/-- The order of the entries does not count for looking up. -/
theorem find_sorted (t : Table α) (key : String) : find key t.sorted = t.get? key := by
  have hdistinct : (t.sorted.map Prod.fst).Nodup :=
    (t.perm_sorted.map Prod.fst).nodup_iff.mpr t.distinct
  apply Option.ext
  intro a
  rw [find_eq_some_iff hdistinct, t.perm_sorted.mem_iff, get?_eq_some_iff]

/-- Two entries of a table with one key are one entry. -/
theorem eq_of_key_eq (t : Table α) {a b : String × α} (ha : a ∈ t.entries) (hb : b ∈ t.entries)
    (h : a.1 = b.1) : a = b := by
  have hfound := (t.get?_eq_some_iff a.1 a.2).mpr ha
  rw [h, (t.get?_eq_some_iff b.1 b.2).mpr hb] at hfound
  exact Prod.ext h (Option.some.inj hfound).symm

/-- The order in which entries came into a table does not show in its sorted entries. -/
theorem sorted_eq_iff (t t' : Table α) :
    t.sorted = t'.sorted ↔ ∀ key, t.get? key = t'.get? key := by
  rw [← perm_iff]
  constructor
  · intro h
    exact t.perm_sorted.symm.trans (h ▸ t'.perm_sorted)
  · intro h
    have hperm : t.sorted.Perm t'.sorted := t.perm_sorted.trans (h.trans t'.perm_sorted.symm)
    apply List.Perm.eq_of_pairwise _ t.pairwise_sorted t'.pairwise_sorted hperm
    intro a b ha hb hab hba
    exact t.eq_of_key_eq (t.perm_sorted.subset ha)
      (t.perm_sorted.subset (hperm.symm.subset hb)) (String.le_antisymm hab hba)

end ToggleSync.Table
