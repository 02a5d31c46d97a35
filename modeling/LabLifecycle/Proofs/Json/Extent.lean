import LabLifecycle.Json.Value

/-!
# The extent of JSON values

How deep the arrays and objects of a value are nested, and which numbers stand in it. A value
`Fits` a number of levels if it needs no more of them and its numbers are of a given kind.
Normalization changes neither the kind of the numbers nor adds to the nesting, and it leaves a
value in normal form as it is.
-/
namespace LabLifecycle.Json

namespace Value

/-! ### Nesting and numbers -/

mutual

/-- The number of levels of arrays and objects in a value. -/
def nesting : Value → Nat
  | array items => nestingOfItems items + 1
  | object members => nestingOfMembers members + 1
  | _ => 0

/-- The number of levels in the deepest item. -/
def nestingOfItems : List Value → Nat
  | [] => 0
  | v :: rest => max v.nesting (nestingOfItems rest)

/-- The number of levels in the deepest member. -/
def nestingOfMembers : List (String × Value) → Nat
  | [] => 0
  | (_, v) :: rest => max v.nesting (nestingOfMembers rest)

end

mutual

/-- The numbers in a value. -/
def numbers : Value → List Number
  | number n => [n]
  | array items => numbersOfItems items
  | object members => numbersOfMembers members
  | _ => []

/-- The numbers in some items. -/
def numbersOfItems : List Value → List Number
  | [] => []
  | v :: rest => v.numbers ++ numbersOfItems rest

/-- The numbers in some members. -/
def numbersOfMembers : List (String × Value) → List Number
  | [] => []
  | (_, v) :: rest => v.numbers ++ numbersOfMembers rest

end

theorem nestingOfItems_le_iff {items : List Value} {depth : Nat} :
    nestingOfItems items ≤ depth ↔ ∀ v ∈ items, v.nesting ≤ depth := by
  induction items with
  | nil => simp [nestingOfItems]
  | cons v rest ih => rw [nestingOfItems, Nat.max_le, ih, List.forall_mem_cons]

theorem nestingOfMembers_le_iff {members : List (String × Value)} {depth : Nat} :
    nestingOfMembers members ≤ depth ↔ ∀ m ∈ members, m.2.nesting ≤ depth := by
  induction members with
  | nil => simp [nestingOfMembers]
  | cons m rest ih => rw [nestingOfMembers, Nat.max_le, ih, List.forall_mem_cons]

theorem numbersOfItems_eq (items : List Value) :
    numbersOfItems items = items.flatMap numbers := by
  induction items with
  | nil => rfl
  | cons v rest ih => rw [numbersOfItems, ih, List.flatMap_cons]

theorem numbersOfMembers_eq (members : List (String × Value)) :
    numbersOfMembers members = members.flatMap (·.2.numbers) := by
  induction members with
  | nil => rfl
  | cons m rest ih => rw [numbersOfMembers, ih, List.flatMap_cons]

theorem numbers_array_eq (items : List Value) :
    (array items).numbers = items.flatMap numbers := by
  rw [numbers, numbersOfItems_eq]

theorem numbers_object_eq (members : List (String × Value)) :
    (object members).numbers = members.flatMap (·.2.numbers) := by
  rw [numbers, numbersOfMembers_eq]

@[simp] theorem numbers_text (s : String) : (text s).numbers = [] := by simp [numbers]

/-- An array takes a level, and its items have what is left. -/
theorem nesting_array_le_iff {items : List Value} {depth : Nat} :
    (array items).nesting ≤ depth ↔ ∃ d, depth = d + 1 ∧ ∀ v ∈ items, v.nesting ≤ d := by
  rw [nesting]
  cases depth with
  | zero => simp
  | succ depth => simp [nestingOfItems_le_iff]

/-- An object takes a level, and the values of its members have what is left. -/
theorem nesting_object_le_iff {members : List (String × Value)} {depth : Nat} :
    (object members).nesting ≤ depth ↔ ∃ d, depth = d + 1 ∧ ∀ m ∈ members, m.2.nesting ≤ d := by
  rw [nesting]
  cases depth with
  | zero => simp
  | succ depth => simp [nestingOfMembers_le_iff]

/-! ### Values that fit -/

/-- The value has at most so many levels, and all its numbers are of a kind. -/
structure Fits (p : Number → Prop) (depth : Nat) (v : Value) : Prop where
  nesting : v.nesting ≤ depth
  numbers : ∀ n ∈ v.numbers, p n

variable {p : Number → Prop} {depth : Nat}

theorem Fits.mono {q : Number → Prop} {v : Value} (h : v.Fits p depth) (hpq : ∀ n, p n → q n) :
    v.Fits q depth :=
  ⟨h.nesting, fun n hn => hpq n (h.numbers n hn)⟩

@[simp] theorem fits_null : null.Fits p depth :=
  ⟨by simp [Value.nesting], by simp [Value.numbers]⟩

@[simp] theorem fits_bool (b : Bool) : (bool b).Fits p depth :=
  ⟨by simp [Value.nesting], by simp [Value.numbers]⟩

@[simp] theorem fits_text (s : String) : (text s).Fits p depth :=
  ⟨by simp [Value.nesting], by simp [Value.numbers]⟩

@[simp] theorem fits_number {n : Number} : (number n).Fits p depth ↔ p n :=
  ⟨fun h => h.numbers n (by simp [Value.numbers]),
    fun h => ⟨by simp [Value.nesting], by simpa [Value.numbers] using h⟩⟩

theorem fits_array_iff {items : List Value} :
    (array items).Fits p depth ↔ ∃ d, depth = d + 1 ∧ ∀ v ∈ items, v.Fits p d := by
  constructor
  · intro h
    obtain ⟨d, rfl, hnesting⟩ := nesting_array_le_iff.mp h.nesting
    refine ⟨d, rfl, fun v hv => ⟨hnesting v hv, fun n hn => h.numbers n ?_⟩⟩
    rw [numbers_array_eq]
    exact List.mem_flatMap.mpr ⟨v, hv, hn⟩
  · rintro ⟨d, rfl, h⟩
    refine ⟨nesting_array_le_iff.mpr ⟨d, rfl, fun v hv => (h v hv).nesting⟩, fun n hn => ?_⟩
    rw [numbers_array_eq] at hn
    obtain ⟨v, hv, hn⟩ := List.mem_flatMap.mp hn
    exact (h v hv).numbers n hn

theorem fits_object_iff {members : List (String × Value)} :
    (object members).Fits p depth ↔ ∃ d, depth = d + 1 ∧ ∀ m ∈ members, m.2.Fits p d := by
  constructor
  · intro h
    obtain ⟨d, rfl, hnesting⟩ := nesting_object_le_iff.mp h.nesting
    refine ⟨d, rfl, fun m hm => ⟨hnesting m hm, fun n hn => h.numbers n ?_⟩⟩
    rw [numbers_object_eq]
    exact List.mem_flatMap.mpr ⟨m, hm, hn⟩
  · rintro ⟨d, rfl, h⟩
    refine ⟨nesting_object_le_iff.mpr ⟨d, rfl, fun m hm => (h m hm).nesting⟩, fun n hn => ?_⟩
    rw [numbers_object_eq] at hn
    obtain ⟨m, hm, hn⟩ := List.mem_flatMap.mp hn
    exact (h m hm).numbers n hn

@[simp] theorem fits_array_succ {items : List Value} :
    (array items).Fits p (depth + 1) ↔ ∀ v ∈ items, v.Fits p depth := by
  simp [fits_array_iff]

@[simp] theorem fits_object_succ {members : List (String × Value)} :
    (object members).Fits p (depth + 1) ↔ ∀ m ∈ members, m.2.Fits p depth := by
  simp [fits_object_iff]

/-! ### Normalization -/

mutual

/-- A value in normal form is its own normal form. -/
theorem normalize_of_normal : (v : Value) → v.Normal → v.normalize = v
  | null, _ | bool _, _ | number _, _ | text _, _ => by simp only [normalize]
  | array items, h => by
    rw [Normal] at h
    rw [normalize, normalizeItems_of_normal items h]
  | object members, h => by
    rw [Normal] at h
    rw [normalize, normalizeMembers_of_normal members [] h.1 h.2, List.nil_append]

theorem normalizeItems_of_normal :
    (items : List Value) → NormalItems items → normalizeItems items = items
  | [], _ => rfl
  | v :: rest, h => by
    rw [NormalItems] at h
    rw [normalizeItems, normalize_of_normal v h.1, normalizeItems_of_normal rest h.2]

theorem normalizeMembers_of_normal : (members done : List (String × Value)) →
    Ascending (done ++ members) → NormalMembers members →
    normalizeMembers members done = done ++ members
  | [], done, _, _ => by rw [normalizeMembers, List.append_nil]
  | (k, v) :: rest, done, hascending, h => by
    rw [NormalMembers] at h
    have hlt : ∀ e ∈ done, e.1 < k := fun e he =>
      (List.pairwise_append.mp hascending).2.2 e he (k, v) (List.mem_cons_self ..)
    rw [normalizeMembers, normalize_of_normal v h.1, insertEntry_of_forall_lt hlt,
      normalizeMembers_of_normal rest _ (by simpa using hascending) h.2]
    simp

end

theorem mem_normalizeMembers {members done : List (String × Value)} {e : String × Value}
    (h : e ∈ normalizeMembers members done) :
    e ∈ done ∨ ∃ m ∈ members, e.2 = m.2.normalize := by
  induction members generalizing done with
  | nil => exact Or.inl (by simpa only [normalizeMembers] using h)
  | cons m rest ih =>
    rw [normalizeMembers] at h
    rcases ih h with hdone | ⟨m', hm', he⟩
    · rcases mem_insertEntry hdone with rfl | hdone
      · exact Or.inr ⟨m, List.mem_cons_self .., rfl⟩
      · exact Or.inl hdone
    · exact Or.inr ⟨m', List.mem_cons_of_mem _ hm', he⟩

theorem normalizeItems_eq_map (items : List Value) :
    normalizeItems items = items.map normalize := by
  induction items with
  | nil => rfl
  | cons v rest ih => rw [normalizeItems, ih, List.map_cons]

/-- The induction is on the levels: items and members fit one level less. -/
theorem Fits.normalize {v : Value} (h : v.Fits p depth) : v.normalize.Fits p depth := by
  induction depth using Nat.strongRecOn generalizing v with
  | ind depth ih =>
    cases v with
    | array items =>
      obtain ⟨depth, rfl, hitems⟩ := fits_array_iff.mp h
      rw [Value.normalize, normalizeItems_eq_map, fits_array_succ]
      intro w hw
      obtain ⟨v, hv, rfl⟩ := List.mem_map.mp hw
      exact ih depth (Nat.lt_succ_self _) (hitems v hv)
    | object members =>
      obtain ⟨depth, rfl, hmembers⟩ := fits_object_iff.mp h
      rw [Value.normalize, fits_object_succ]
      intro e he
      rcases mem_normalizeMembers he with hnil | ⟨m, hm, heq⟩
      · cases hnil
      · rw [heq]
        exact ih depth (Nat.lt_succ_self _) (hmembers m hm)
    | _ => simpa only [Value.normalize] using h

end Value

/-- Free-form data is what its value stands for. -/
@[simp] theorem Metadata.ofValue_value (m : Metadata) : Metadata.ofValue m.value = m :=
  Metadata.ext (m.value.normalize_of_normal m.normal)

end LabLifecycle.Json
