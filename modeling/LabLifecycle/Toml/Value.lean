import LabLifecycle.Mismatch
import LabLifecycle.Text.Binary64

/-!
# TOML values

A table keeps its entries in the order in which a document completes them. Dates and times
carry no more than that they are some, because no setting is one.
-/
namespace LabLifecycle.Toml

/-- A floating-point number. -/
inductive Number where
  | finite (x : Binary64)
  | infinite (negative : Bool)
  | nan
  deriving DecidableEq, Repr

/-- The text of a floating-point number. -/
def Number.text : Number → String
  | finite x => x.pointed
  | infinite negative => if negative then "-inf" else "inf"
  | nan => "NaN"

/-- A value. -/
inductive Value where
  | text (s : String)
  | int (z : Int)
  | float (x : Number)
  | bool (b : Bool)
  | moment
  | array (items : List Value)
  | table (entries : List (String × Value))
  deriving Repr, Inhabited

/-- The entries of a table in document order. -/
abbrev Table := List (String × Value)

/-- How a value is described where something else is expected. -/
def Value.found : Value → Found
  | text s => .text s
  | int z => .int z
  | float x => .float x.text
  | bool b => .bool b
  | array _ => .sequence
  | moment | table _ => .map

end LabLifecycle.Toml
