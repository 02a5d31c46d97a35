import LabLifecycle.Text.Quote

/-!
# Content that does not fit

A document can be well formed and still not describe what it should. `Mismatch` says
how, whatever notation the document is written in, and `Mismatch.message` words it.
-/
namespace LabLifecycle

/-- What stands in a document where something else is expected. -/
inductive Found where
  | null
  | bool (b : Bool)
  | int (z : Int)
  | float (shown : String)
  | text (s : String)
  | sequence
  | map
  deriving DecidableEq, Repr

/-- The wording of what was found. -/
def Found.wording : Found → String
  | null => "null"
  | bool b => "boolean `" ++ (if b then "true" else "false") ++ "`"
  | int z => "integer `" ++ toString z ++ "`"
  | float shown => "floating point `" ++ shown ++ "`"
  | text s => "string " ++ quote s
  | sequence => "sequence"
  | map => "map"

/-- How content fails to fit. -/
inductive Mismatch where
  | kind (found : Found) (expected : String)
  | range (found : Found) (expected : String)
  | length (found : Nat) (expected : String)
  | missingField (field : String)
  | duplicateField (field : String)
  | unknownField (field : String) (fields : List String)
  | unknownVariant (variant : String) (variants : List String)
  | illFormed (message : String)
  deriving DecidableEq, Repr

/-- The wording of a choice between names. -/
def choice (names : List String) : String :=
  match names.map (fun n => "`" ++ n ++ "`") with
  | [a] => a
  | [a, b] => a ++ " or " ++ b
  | all => "one of " ++ String.intercalate ", " all

/-- The wording of a mismatch. -/
def Mismatch.message : Mismatch → String
  | kind found expected => "invalid type: " ++ found.wording ++ ", expected " ++ expected
  | range found expected => "invalid value: " ++ found.wording ++ ", expected " ++ expected
  | length found expected => "invalid length " ++ toString found ++ ", expected " ++ expected
  | missingField field => "missing field `" ++ field ++ "`"
  | duplicateField field => "duplicate field `" ++ field ++ "`"
  | unknownField field fields =>
    "unknown field `" ++ field ++ "`, expected " ++ choice fields
  | unknownVariant variant variants =>
    "unknown variant `" ++ variant ++ "`, expected " ++ choice variants
  | illFormed message => message

end LabLifecycle
