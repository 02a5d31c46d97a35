import LabLifecycle.Json.Reading
import LabLifecycle.Mismatch

/-!
# Decoding JSON

A decoder turns a reading into a typed value, in reading order: the first thing that
does not fit, or the place where the text breaks, decides the fault. `Decoder`s carry
the number of nesting levels still allowed below them.

Objects with named fields are described by a `Record`: each field says how it is read
into a draft, and the finished draft gives the value. A record may also be written as an
array of its fields in order; members of other names are passed over.
-/
namespace LabLifecycle.Json

/-- Why a document is not accepted. -/
inductive Fault where
  | flaw (flaw : Flaw)
  | mismatch (mismatch : Mismatch)
  deriving DecidableEq, Repr

/-- Nesting levels of a document that are decoded. -/
def depthLimit : Nat := 127

/-- A decoder, given the nesting levels still allowed. -/
abbrev Decoder (α : Type) := Nat → Reading → Except Fault α

/-- The fault of a broken text. -/
def broken {α : Type} (flaw : Flaw) : Except Fault α := .error (.flaw flaw)

/-- The fault of content that does not fit. -/
def unfit {α : Type} (m : Mismatch) : Except Fault α := .error (.mismatch m)

/-- Content or the flaw that stands in its place. -/
def sound {α : Type} : Except Flaw α → Except Fault α
  | .ok a => .ok a
  | .error flaw => broken flaw

/-- A list of items or members that ends as it should. -/
def Ending.check : Ending → Except Fault Unit
  | .closed => .ok ()
  | .broken flaw => Json.broken flaw

/-- A number as it is found. -/
def Number.found : Number → Found
  | .int z => .int z
  | .float x => .float x.pointedOrScientific

/-- The fault of a reading where something else is expected. -/
def Reading.unexpected {α : Type} (expected : String) : Reading → Except Fault α
  | .null => unfit (.kind .null expected)
  | .bool b => unfit (.kind (.bool b) expected)
  | .number n => do unfit (.kind (← sound n).found expected)
  | .text s => do unfit (.kind (.text (← sound s)) expected)
  | .array _ _ => unfit (.kind .sequence expected)
  | .object _ _ => unfit (.kind .map expected)
  | .broken flaw => Json.broken flaw
  | .missing => Json.broken .truncated

/-- One nesting level further down. -/
def descend {α : Type} (depth : Nat) (inside : Nat → Except Fault α) : Except Fault α :=
  match depth with
  | 0 => broken .malformed
  | depth + 1 => inside depth

namespace Decoder

/-- A string. -/
def text : Decoder String
  | _, .text s => sound s
  | _, r => r.unexpected "a string"

/-- A string in a notation of its own, which `parse` reads or words a complaint about. -/
def textAs {α : Type} (expected : String) (parse : String → Except String α) : Decoder α
  | _, .text s => do
    match parse (← sound s) with
    | .ok a => return a
    | .error message => unfit (.illFormed message)
  | _, r => r.unexpected expected

/-- An integer from zero up to `limit`. -/
def natUpTo (limit : Nat) (expected : String) : Decoder Nat
  | _, .number (.ok (.int z)) =>
    if 0 ≤ z && z ≤ limit then .ok z.toNat else unfit (.range (.int z) expected)
  | _, r => r.unexpected expected

/-- An unsigned 32-bit integer. -/
def word32 : Decoder UInt32 := fun depth r =>
  (natUpTo (UInt32.size - 1) "u32" depth r).map UInt32.ofNat

/-- An unsigned 8-bit integer. -/
def word8 : Decoder UInt8 := fun depth r => (natUpTo 255 "u8" depth r).map UInt8.ofNat

/-- Something or `null`. -/
def option {α : Type} (decode : Decoder α) : Decoder (Option α)
  | _, .null => .ok none
  | depth, r => (decode depth r).map some

/-- The items of an array. -/
def list {α : Type} (decode : Decoder α) : Decoder (List α)
  | depth, .array items ending => descend depth fun depth => do
    let items ← items.mapM (decode depth)
    ending.check
    return items
  | _, r => r.unexpected "a sequence"

/-- The members of an object, each name with its value. -/
def members {α : Type} (decode : Decoder α) (depth : Nat) :
    List (Except Flaw String × Reading) → Except Fault (List (String × α))
  | [] => .ok []
  | (name, value) :: rest => do
    let name ← sound name
    let value ← decode depth value
    let rest ← members decode depth rest
    return (name, value) :: rest

/-- An object with any names. The last member of a name counts. -/
def map {α : Type} (decode : Decoder α) : Decoder (SortedMap α)
  | depth, .object entries ending => descend depth fun depth => do
    let entries ← members decode depth entries
    ending.check
    return SortedMap.ofList entries
  | _, r => r.unexpected "a map"

/-- Nothing but `null`. -/
def unit : Decoder Unit
  | _, .null => .ok ()
  | _, r => r.unexpected "unit"

/-- One of some named variants. -/
def pick {α : Type} (variants : List (String × α)) (name : String) : Except Fault α :=
  match variants.find? (·.1 == name) with
  | some v => .ok v.2
  | none => unfit (.unknownVariant name (variants.map (·.1)))

/-- A variant: its name as a string, or an object with the name and `null` as its only
member. -/
def variant {α : Type} (variants : List (String × α)) : Decoder α
  | _, .text s => do pick variants (← sound s)
  | depth, .object entries ending => descend depth fun depth =>
    match entries with
    | [] => do
      ending.check
      broken .malformed
    | (name, value) :: others => do
      let a ← pick variants (← sound name)
      unit depth value
      if others.isEmpty then ending.check else broken .malformed
      return a
  | _, .missing => broken .truncated
  | _, _ => broken .malformed

/-- Any value, as it is written. -/
def value : Decoder Value
  | _, .null => .ok .null
  | _, .bool b => .ok (.bool b)
  | _, .number n => do return .number (← sound n)
  | _, .text s => do return .text (← sound s)
  | 0, .array _ _ | 0, .object _ _ => broken .malformed
  | depth + 1, .array items ending => do
    let items ← items.mapM (value depth)
    ending.check
    return .array items
  | depth + 1, .object entries ending => do
    let entries ← entries.mapM fun e => do
      let name ← sound e.1
      let v ← value depth e.2
      return (name, v)
    ending.check
    return .object entries
  | _, .broken flaw => broken flaw
  | _, .missing => broken .truncated

/-- Any value, in normal form. -/
def metadata : Decoder Metadata := fun depth r => (value depth r).map Metadata.ofValue

end Decoder

/-- A field of a record that is read into a draft `δ`. -/
structure Field (δ : Type) where
  name : String
  required : Bool
  filled : δ → Bool
  read : Nat → Reading → δ → Except Fault δ

/-- The field kept in one slot of the draft. -/
def Field.slot {δ β : Type} (name : String) (required : Bool) (get : δ → Option β)
    (set : δ → Option β → δ) (decode : Decoder β) : Field δ where
  name := name
  required := required
  filled d := (get d).isSome
  read depth r d := (decode depth r).map fun b => set d (some b)

/-- A record: its fields in order, the draft before any is read, and what a finished
draft stands for. -/
structure Record (δ α : Type) where
  title : String
  fields : List (Field δ)
  blank : δ
  build : δ → α

namespace Record
variable {δ α : Type}

/-- Read members into a draft. -/
def readMembers (r : Record δ α) (depth : Nat) :
    List (Except Flaw String × Reading) → δ → Except Fault δ
  | [], d => .ok d
  | (name, value) :: rest, d => do
    let name ← sound name
    match r.fields.find? (·.name == name) with
    | none => r.readMembers depth rest d
    | some f =>
      if f.filled d then unfit (.duplicateField name)
      else
        let d ← f.read depth value d
        r.readMembers depth rest d

/-- Read items into a draft as the given fields. `index` counts the fields before. -/
def readItems (r : Record δ α) (depth : Nat) (ending : Ending) :
    Nat → List (Field δ) → List Reading → δ → Except Fault δ
  | _, [], [], d => do
    ending.check
    return d
  | _, [], _ :: _, _ => broken .malformed
  | index, f :: fields, [], d => do
    ending.check
    if f.required then
      unfit (.length index
        ("struct " ++ r.title ++ " with " ++ toString r.fields.length ++ " elements"))
    else r.readItems depth ending (index + 1) fields [] d
  | index, f :: fields, item :: items, d => do
    let d ← f.read depth item d
    r.readItems depth ending (index + 1) fields items d

/-- Decode a record. -/
def decode (r : Record δ α) : Decoder α
  | depth, .object members ending => descend depth fun depth => do
    let d ← r.readMembers depth members r.blank
    ending.check
    match r.fields.find? (fun f => f.required && !f.filled d) with
    | some f => unfit (.missingField f.name)
    | none => return r.build d
  | depth, .array items ending => descend depth fun depth => do
    let d ← r.readItems depth ending 0 r.fields items r.blank
    return r.build d
  | _, reading => reading.unexpected ("struct " ++ r.title)

end Record

/-- Decode a document: one value with nothing but white space around it. -/
def decode {α : Type} (decoder : Decoder α) (document : Bytes) : Except Fault α := do
  let (reading, rest) := read document
  let a ← decoder depthLimit reading
  let rest ← sound rest
  if (skipSpace rest).isEmpty then return a else broken .malformed

end LabLifecycle.Json
