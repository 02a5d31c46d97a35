/-!
# Maps with sorted keys

A finite map from names to values, kept as the list of its entries in strictly
ascending order of their names. Two maps with the same entries are the same map.
Character order and the byte order of UTF-8 agree, so this is also byte order.
-/
namespace LabLifecycle

variable {α : Type}

/-- Entries in strictly ascending order of their names. -/
def Ascending (entries : List (String × α)) : Prop := entries.Pairwise (fun a b => a.1 < b.1)

/-- Put an entry in its place, in place of an earlier one of the same name. -/
def insertEntry (key : String) (value : α) : List (String × α) → List (String × α)
  | [] => [(key, value)]
  | (k, v) :: rest =>
    if key < k then (key, value) :: (k, v) :: rest
    else if k = key then (key, value) :: rest
    else (k, v) :: insertEntry key value rest

/-- Every name after an insertion was there before or is the inserted one. -/
theorem mem_insertEntry {key : String} {value : α} {entries : List (String × α)}
    {e : String × α} (h : e ∈ insertEntry key value entries) :
    e = (key, value) ∨ e ∈ entries := by
  induction entries with
  | nil => simpa [insertEntry] using h
  | cons head rest ih =>
    obtain ⟨k, v⟩ := head
    simp only [insertEntry] at h
    split at h
    · simpa using h
    · split at h
      · rcases List.mem_cons.mp h with h | h
        · exact Or.inl h
        · exact Or.inr (List.mem_cons_of_mem _ h)
      · rcases List.mem_cons.mp h with h | h
        · exact Or.inr (h ▸ List.mem_cons_self ..)
        · rcases ih h with h | h
          · exact Or.inl h
          · exact Or.inr (List.mem_cons_of_mem _ h)

/-- Insertion keeps the names ascending. -/
theorem ascending_insertEntry {key : String} {value : α} {entries : List (String × α)}
    (h : Ascending entries) : Ascending (insertEntry key value entries) := by
  induction entries with
  | nil => simp [insertEntry, Ascending]
  | cons head rest ih =>
    obtain ⟨k, v⟩ := head
    obtain ⟨hk, hrest⟩ := List.pairwise_cons.mp h
    simp only [insertEntry]
    split
    · rename_i hlt
      refine List.pairwise_cons.mpr ⟨fun e he => ?_, h⟩
      rcases List.mem_cons.mp he with rfl | he
      · exact hlt
      · exact String.lt_trans hlt (hk e he)
    · split
      · rename_i heq
        subst heq
        exact List.pairwise_cons.mpr ⟨hk, hrest⟩
      · rename_i hlt hne
        refine List.pairwise_cons.mpr ⟨fun e he => ?_, ih hrest⟩
        rcases mem_insertEntry he with rfl | he
        · exact Std.lt_of_le_of_ne (Std.not_lt.mp hlt) hne
        · exact hk e he

/-- A name is looked up in the first entry or else in the others. -/
theorem lookup_cons_eq_ite (name k : String) (v : α) (rest : List (String × α)) :
    ((k, v) :: rest).lookup name = if name = k then some v else rest.lookup name := by
  by_cases h : name = k
  · simp [h]
  · have hb : (name == k) = false := by simpa using h
    simp only [List.lookup_cons, hb, if_neg h]

/-- After an insertion the inserted name has the new value, and others have what they had. -/
theorem lookup_insertEntry (key name : String) (value : α) (entries : List (String × α)) :
    (insertEntry key value entries).lookup name =
      if name = key then some value else entries.lookup name := by
  induction entries with
  | nil => simp only [insertEntry, lookup_cons_eq_ite]
  | cons head rest ih =>
    obtain ⟨k, v⟩ := head
    simp only [insertEntry]
    split
    · simp only [lookup_cons_eq_ite]
    · split
      · rename_i hk
        subst hk
        by_cases h : name = k <;> simp [lookup_cons_eq_ite, h]
      · rename_i hk
        simp only [lookup_cons_eq_ite, ih]
        by_cases h : name = k
        · subst h
          simp [hk]
        · simp [h]

/-- A name is there after an insertion if it was before or is the inserted one. -/
theorem mem_map_insertEntry {key name : String} {value : α} {entries : List (String × α)} :
    name ∈ (insertEntry key value entries).map (·.1) ↔
      name = key ∨ name ∈ entries.map (·.1) := by
  induction entries with
  | nil => simp [insertEntry]
  | cons head rest ih =>
    obtain ⟨k, v⟩ := head
    simp only [insertEntry]
    split
    · simp
    · split
      · rename_i hk
        simp [hk]
      · simp only [List.map_cons, List.mem_cons, ih]
        exact or_left_comm

/-- An entry whose name comes after all others is put behind them. -/
theorem insertEntry_of_forall_lt {key : String} {value : α} {entries : List (String × α)}
    (h : ∀ e ∈ entries, e.1 < key) : insertEntry key value entries = entries ++ [(key, value)] := by
  induction entries with
  | nil => rfl
  | cons head rest ih =>
    obtain ⟨k, v⟩ := head
    have hk : k < key := h _ (List.mem_cons_self ..)
    have hkey : ¬ key < k := Std.not_lt.mpr (Std.le_of_lt hk)
    have hne : k ≠ key := fun heq => Std.lt_irrefl (heq ▸ hk)
    simp only [insertEntry, if_neg hkey, if_neg hne, List.cons_append]
    rw [ih fun e he => h e (List.mem_cons_of_mem _ he)]

/-- A finite map with names as keys. -/
structure SortedMap (α : Type) where
  entries : List (String × α)
  ascending : Ascending entries

namespace SortedMap

@[ext] theorem ext {m n : SortedMap α} (h : m.entries = n.entries) : m = n := by
  cases m; cases n; simp_all

/-- The map without entries. -/
def empty : SortedMap α := ⟨[], .nil⟩

instance : Inhabited (SortedMap α) := ⟨empty⟩

instance [BEq α] : BEq (SortedMap α) := ⟨fun m n => m.entries == n.entries⟩

instance [DecidableEq α] : DecidableEq (SortedMap α) := fun _ _ =>
  decidable_of_iff _ ⟨ext, congrArg entries⟩

/-- The map with one entry added or replaced. -/
def insert (m : SortedMap α) (key : String) (value : α) : SortedMap α :=
  ⟨insertEntry key value m.entries, ascending_insertEntry m.ascending⟩

/-- The value of a name. -/
def get? (m : SortedMap α) (key : String) : Option α := m.entries.lookup key

/-- The names, in ascending order. -/
def keys (m : SortedMap α) : List String := m.entries.map (·.1)

/-- The map without entries has no values. -/
@[simp] theorem get?_empty (name : String) : (empty : SortedMap α).get? name = none := rfl

/-- What an insertion does to the values. -/
theorem get?_insert (m : SortedMap α) (key name : String) (value : α) :
    (m.insert key value).get? name = if name = key then some value else m.get? name :=
  lookup_insertEntry key name value m.entries

/-- The number of entries. -/
def size (m : SortedMap α) : Nat := m.entries.length

/-- The map with every value changed. -/
def map {β : Type} (f : α → β) (m : SortedMap α) : SortedMap β :=
  ⟨m.entries.map (Prod.map id f), List.pairwise_map.mpr m.ascending⟩

/-- Values are changed where they are. -/
theorem get?_map {β : Type} (f : α → β) (m : SortedMap α) (name : String) :
    (m.map f).get? name = (m.get? name).map f := by
  obtain ⟨entries, ascending⟩ := m
  simp only [map, get?]
  clear ascending
  induction entries with
  | nil => rfl
  | cons head rest ih =>
    obtain ⟨k, v⟩ := head
    rw [List.map_cons, Prod.map_apply, lookup_cons_eq_ite, lookup_cons_eq_ite, ih, id]
    split <;> rfl

/-- Add entries in order; the last one of a name counts. -/
def insertAll (m : SortedMap α) (entries : List (String × α)) : SortedMap α :=
  entries.foldl (fun m e => m.insert e.1 e.2) m

/-- The map of a list of entries; the last one of a name counts. -/
def ofList (entries : List (String × α)) : SortedMap α := empty.insertAll entries

/-- Entries that are ascending already are added as they are. -/
theorem entries_insertAll {m : SortedMap α} {entries : List (String × α)}
    (h : Ascending (m.entries ++ entries)) :
    (m.insertAll entries).entries = m.entries ++ entries := by
  induction entries generalizing m with
  | nil => simp [insertAll]
  | cons head rest ih =>
    have hlt : ∀ e ∈ m.entries, e.1 < head.1 := fun e he =>
      (List.pairwise_append.mp h).2.2 e he head (List.mem_cons_self ..)
    have hinsert : (m.insert head.1 head.2).entries = m.entries ++ [head] :=
      insertEntry_of_forall_lt hlt
    have hrest := ih (m := m.insert head.1 head.2) (by simpa [hinsert] using h)
    rw [hinsert] at hrest
    simpa [insertAll] using hrest

/-- A map is the map of its entries. -/
@[simp] theorem ofList_entries (m : SortedMap α) : ofList m.entries = m :=
  ext (entries_insertAll (m := empty) (by simpa [empty] using m.ascending))

theorem mem_keys_insertAll {m : SortedMap α} {entries : List (String × α)} {name : String} :
    name ∈ (m.insertAll entries).keys ↔ name ∈ m.keys ∨ name ∈ entries.map (·.1) := by
  induction entries generalizing m with
  | nil => simp [insertAll]
  | cons head rest ih =>
    have hinsert : name ∈ (m.insert head.1 head.2).keys ↔ name = head.1 ∨ name ∈ m.keys :=
      mem_map_insertEntry
    rw [insertAll, List.foldl_cons]
    refine ih.trans ?_
    rw [hinsert, List.map_cons, List.mem_cons, or_comm (a := name = head.1), or_assoc]

/-- The names of a map are those of the entries that it was made from. -/
theorem mem_keys_ofList {entries : List (String × α)} {name : String} :
    name ∈ (ofList entries).keys ↔ name ∈ entries.map (·.1) :=
  mem_keys_insertAll.trans (by simp [keys, empty])

/-- The names are those that have a value. -/
theorem mem_keys_iff {m : SortedMap α} {name : String} :
    name ∈ m.keys ↔ (m.get? name).isSome := by
  obtain ⟨entries, ascending⟩ := m
  simp only [keys, get?]
  clear ascending
  induction entries with
  | nil => simp
  | cons head rest ih =>
    obtain ⟨k, v⟩ := head
    rw [List.map_cons, List.mem_cons, lookup_cons_eq_ite, ih]
    by_cases hname : name = k
    · simp [hname]
    · simp [hname]

/-- The names are in ascending order, each of them once. -/
theorem pairwise_keys (m : SortedMap α) : m.keys.Pairwise (· < ·) :=
  List.pairwise_map.mpr m.ascending

theorem nodup_keys (m : SortedMap α) : m.keys.Nodup :=
  m.pairwise_keys.imp fun h => String.ne_of_lt h

/-- Maps that have the same names list them alike. -/
theorem keys_eq_of_mem_iff {m n : SortedMap α}
    (h : ∀ name, name ∈ m.keys ↔ name ∈ n.keys) : m.keys = n.keys := by
  have hperm : m.keys.Perm n.keys :=
    (List.perm_ext_iff_of_nodup m.nodup_keys n.nodup_keys).mpr h
  exact hperm.eq_of_pairwise (fun _ _ _ _ hab hba => absurd hba (String.lt_asymm hab))
    m.pairwise_keys n.pairwise_keys

/-- Whether the map has no entries. -/
def isEmpty (m : SortedMap α) : Bool := m.entries.isEmpty

end SortedMap
end LabLifecycle
