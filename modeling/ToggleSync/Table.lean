-- Tables: finite maps from names, with their entries in the order in which the names came.

namespace ToggleSync

structure Table (α : Type) where
  entries : List (String × α)
  distinct : (entries.map Prod.fst).Nodup

namespace Table

variable {α : Type}

def empty : Table α := ⟨[], List.nodup_nil⟩

instance : EmptyCollection (Table α) := ⟨empty⟩

instance : Inhabited (Table α) := ⟨empty⟩

instance [DecidableEq α] : DecidableEq (Table α) := fun a b =>
  if h : a.entries = b.entries then
    isTrue (by cases a; cases b; simp_all)
  else isFalse fun e => h (congrArg entries e)

def keys (t : Table α) : List String := t.entries.map Prod.fst

/-- The first value of a key. -/
def find (key : String) : List (String × α) → Option α
  | [] => none
  | e :: es => if e.1 = key then some e.2 else find key es

def get? (t : Table α) (key : String) : Option α := find key t.entries

def isEmpty (t : Table α) : Bool := t.entries.isEmpty

/-! ## Writing -/

/-- Puts an entry in the place of the one with its key, or behind the last one. -/
def putEntry (key : String) (a : α) : List (String × α) → List (String × α)
  | [] => [(key, a)]
  | e :: es => if e.1 = key then (key, a) :: es else e :: putEntry key a es

theorem mem_keys_putEntry (key : String) (a : α) (es : List (String × α)) (k : String) :
    k ∈ (putEntry key a es).map Prod.fst ↔ k = key ∨ k ∈ es.map Prod.fst := by
  induction es with
  | nil => simp [putEntry]
  | cons e es ih =>
    by_cases h : e.1 = key
    · simp [putEntry, h]
    · simp only [putEntry, h, if_false, List.map_cons, List.mem_cons, ih]
      grind

theorem nodup_putEntry (key : String) (a : α) (es : List (String × α))
    (h : (es.map Prod.fst).Nodup) : ((putEntry key a es).map Prod.fst).Nodup := by
  induction es with
  | nil => simp [putEntry]
  | cons e es ih =>
    rw [List.map_cons, List.nodup_cons] at h
    by_cases hk : e.1 = key
    · simp only [putEntry, hk, if_true, List.map_cons, List.nodup_cons]
      exact ⟨hk ▸ h.1, h.2⟩
    · rw [putEntry, if_neg hk, List.map_cons, List.nodup_cons, mem_keys_putEntry]
      exact ⟨fun hm => hm.elim hk h.1, ih h.2⟩

def put (t : Table α) (key : String) (a : α) : Table α :=
  ⟨putEntry key a t.entries, nodup_putEntry key a t.entries t.distinct⟩

/-- Changes the entry of a key, which is `default` where the table has none. -/
def update (t : Table α) (key : String) (default : α) (f : α → α) : Table α :=
  t.put key (f ((t.get? key).getD default))

def erase (t : Table α) (key : String) : Table α :=
  ⟨t.entries.filter (·.1 != key), t.distinct.sublist (List.filter_sublist.map _)⟩

/-- Of entries with one key the last counts, in the place of the first. -/
def ofList (es : List (String × α)) : Table α := es.foldl (fun t e => t.put e.1 e.2) empty

/-! ## Looking up -/

theorem find_putEntry (key : String) (a : α) (es : List (String × α)) (k : String) :
    find k (putEntry key a es) = if k = key then some a else find k es := by
  induction es with
  | nil => grind [putEntry, find]
  | cons e es ih => by_cases he : e.1 = key <;> by_cases h : k = key <;> grind [putEntry, find]

theorem get?_put (t : Table α) (key : String) (a : α) (k : String) :
    (t.put key a).get? k = if k = key then some a else t.get? k :=
  find_putEntry key a t.entries k

theorem find_filter_ne (gone : String) (es : List (String × α)) (key : String) :
    find key (es.filter (·.1 != gone)) = if key = gone then none else find key es := by
  induction es with
  | nil => grind [find]
  | cons e es ih => by_cases he : e.1 = gone <;> by_cases h : key = gone <;> grind [find]

theorem get?_erase (t : Table α) (gone key : String) :
    (t.erase gone).get? key = if key = gone then none else t.get? key :=
  find_filter_ne gone t.entries key

end Table

end ToggleSync
