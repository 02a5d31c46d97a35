import LabLifecycle.Json.Decode

/-!
# Run identifiers

Every application of apps to an experiment is one run, and a run has a 128-bit number.
Its text has 26 digits to the base 32, from an alphabet without I, L, O and U, so texts
sort as the numbers do. Reading accepts lower-case letters too, and drops the two bits
that 26 digits hold beyond 128.
-/
namespace LabLifecycle

/-- The number of a run. -/
structure RunId where
  value : BitVec 128
  deriving DecidableEq, Repr

namespace RunId

instance : Inhabited RunId := ⟨⟨0⟩⟩

/-- Runs come in the order of their numbers. -/
instance : LT RunId := ⟨fun r s => r.value < s.value⟩

instance : LE RunId := ⟨fun r s => r.value ≤ s.value⟩

instance : DecidableLT RunId := fun r s => inferInstanceAs (Decidable (r.value < s.value))

instance : DecidableLE RunId := fun r s => inferInstanceAs (Decidable (r.value ≤ s.value))

/-- The run of a number; bits above 128 are dropped. -/
def ofNat (n : Nat) : RunId := ⟨BitVec.ofNat 128 n⟩

/-- The digits in ascending order of their value. -/
def alphabet : List Char := "0123456789ABCDEFGHJKMNPQRSTVWXYZ".toList

/-- The digit of a value below 32. -/
def digit (value : Nat) : Char := alphabet.getD value '0'

/-- The value of a digit, in upper or lower case. -/
def digitValue? (c : Char) : Option Nat := alphabet.findIdx? (· == c.toUpper)

/-- The last `count` digits of a number, the most significant one first. -/
def digits : Nat → Nat → List Char
  | 0, _ => []
  | count + 1, n => digits count (n / 32) ++ [digit (n % 32)]

/-- The number of digits in a text. -/
def width : Nat := 26

/-- The text of a run identifier. -/
def text (r : RunId) : String := String.ofList (digits width r.value.toNat)

/-- The text of a run identifier in messages. -/
def display (r : RunId) : String := "run-" ++ r.text

/-- Read a run identifier. -/
def parse (s : String) : Except String RunId :=
  if s.utf8ByteSize ≠ width then .error "invalid length"
  else match s.toList.mapM digitValue? with
    | some values => .ok (ofNat (values.foldl (fun n d => n * 32 + d) 0))
    | none => .error "invalid character"

/-- The run identifier as JSON. -/
def toJson (r : RunId) : Json.Value := .text r.text

/-- Decode a run identifier. -/
def ofJson : Json.Decoder RunId := .textAs "a string" parse

end RunId
end LabLifecycle
