import LabLifecycle.SortedMap
import LabLifecycle.Text.Binary64

/-!
# JSON values

A value keeps its objects as lists of members in writing order. Free-form metadata is a
value in normal form: every object in it has its members in strictly ascending order of
their names. `Value.normalize` reaches that form, the last member of a name counting.
-/
namespace LabLifecycle.Json

/-- A number: an integer as such, anything else as a floating-point number. -/
inductive Number where
  | int (z : Int)
  | float (x : Binary64)
  deriving DecidableEq, Repr

/-- A JSON value. -/
inductive Value where
  | null
  | bool (b : Bool)
  | number (n : Number)
  | text (s : String)
  | array (items : List Value)
  | object (members : List (String × Value))
  deriving BEq, Repr, Inhabited

namespace Value

mutual

/-- Every object in the value has ascending member names. -/
def Normal : Value → Prop
  | array items => NormalItems items
  | object members => Ascending members ∧ NormalMembers members
  | _ => True

/-- Every item is in normal form. -/
def NormalItems : List Value → Prop
  | [] => True
  | v :: rest => Normal v ∧ NormalItems rest

/-- Every member's value is in normal form. -/
def NormalMembers : List (String × Value) → Prop
  | [] => True
  | (_, v) :: rest => Normal v ∧ NormalMembers rest

end

mutual

/-- Sort the members of every object by name; the last member of a name counts. -/
def normalize : Value → Value
  | array items => array (normalizeItems items)
  | object members => object (normalizeMembers members [])
  | v => v

/-- Bring every item into normal form. -/
def normalizeItems : List Value → List Value
  | [] => []
  | v :: rest => normalize v :: normalizeItems rest

/-- Insert members one after the other, each in normal form. -/
def normalizeMembers : List (String × Value) → List (String × Value) → List (String × Value)
  | [], done => done
  | (k, v) :: rest, done => normalizeMembers rest (insertEntry k (normalize v) done)

end

/-- An inserted member in normal form joins members in normal form. -/
theorem normalMembers_insertEntry {k : String} {v : Value} (hv : v.Normal)
    {members : List (String × Value)} (h : NormalMembers members) :
    NormalMembers (insertEntry k v members) := by
  induction members with
  | nil => simpa [insertEntry, NormalMembers] using hv
  | cons head rest ih =>
    obtain ⟨key, w⟩ := head
    rw [NormalMembers] at h
    simp only [insertEntry]
    split
    · simp only [NormalMembers]; exact ⟨hv, h⟩
    · split
      · simp only [NormalMembers]; exact ⟨hv, h.2⟩
      · simp only [NormalMembers]; exact ⟨h.1, ih h.2⟩

mutual

/-- `normalize` reaches the normal form. -/
theorem normal_normalize : (v : Value) → (normalize v).Normal
  | null | bool _ | number _ | text _ => by simp [normalize, Normal]
  | array items => by
    rw [normalize, Normal]
    exact normalItems_normalizeItems items
  | object members => by
    rw [normalize, Normal]
    exact normalizeMembers_normal members [] .nil trivial

/-- Items come out in normal form. -/
theorem normalItems_normalizeItems : (items : List Value) → NormalItems (normalizeItems items)
  | [] => trivial
  | v :: rest => by
    rw [normalizeItems, NormalItems]
    exact ⟨normal_normalize v, normalItems_normalizeItems rest⟩

/-- Members come out ascending and in normal form. -/
theorem normalizeMembers_normal : (members done : List (String × Value)) → Ascending done →
    NormalMembers done →
    Ascending (normalizeMembers members done) ∧ NormalMembers (normalizeMembers members done)
  | [], _, ha, hn => by
    rw [normalizeMembers]
    exact ⟨ha, hn⟩
  | (k, v) :: rest, done, ha, hn => by
    rw [normalizeMembers]
    exact normalizeMembers_normal rest _ (ascending_insertEntry ha)
      (normalMembers_insertEntry (normal_normalize v) hn)

end

/-- An integer as a value. -/
def ofInt (z : Int) : Value := number (.int z)

/-- A natural number as a value. -/
def ofNat (n : Nat) : Value := number (.int n)

end Value

/-- Free-form data: a value in normal form. -/
structure Metadata where
  value : Value
  normal : value.Normal

namespace Metadata

@[ext] theorem ext {m n : Metadata} (h : m.value = n.value) : m = n := by
  cases m; cases n; simp_all

/-- The absent data. -/
def null : Metadata := ⟨.null, trivial⟩

/-- A value brought into normal form. -/
def ofValue (v : Value) : Metadata := ⟨v.normalize, v.normal_normalize⟩

/-- Whether there is no data. -/
def isNull (m : Metadata) : Bool := match m.value with
  | .null => true
  | _ => false

instance : Inhabited Metadata := ⟨null⟩

instance : BEq Metadata := ⟨fun m n => m.value == n.value⟩

end Metadata
end LabLifecycle.Json
