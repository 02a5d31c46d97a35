/-!
# Lifecycle stages

An experiment goes through four stages. Every app has one hook for each of them.
-/
namespace LabLifecycle

/-- A stage in the life of an experiment. -/
inductive Stage where
  | configure
  | preStart
  | postStart
  | cleanup
  deriving DecidableEq, Repr, Inhabited

namespace Stage

/-- The stages in the order in which an experiment goes through them. -/
def all : List Stage := [configure, preStart, postStart, cleanup]

/-- The name of a stage in documents, messages and command lines. -/
def name : Stage → String
  | configure => "configure"
  | preStart => "pre-start"
  | postStart => "post-start"
  | cleanup => "cleanup"

/-- The stages with their names. -/
def named : List (String × Stage) := all.map fun s => (s.name, s)

/-- The stage of a name. -/
def ofName? (name : String) : Option Stage := all.find? (·.name == name)

/-- A stage is found by its name. -/
@[simp] theorem ofName?_name (s : Stage) : ofName? s.name = some s := by
  cases s <;> decide

/-- The message about a name that is no stage's. -/
def unknownMessage (name : String) : String :=
  "unknown stage '" ++ name ++ "' (expected configure, pre-start, post-start or cleanup)"

/-- The stage of a name, or the message about it. -/
def parse (name : String) : Except String Stage :=
  match ofName? name with
  | some s => .ok s
  | none => .error (unknownMessage name)

/-- The stages after which unset fields of the topology get their defaults. -/
def normalizes : Stage → Bool
  | configure | preStart => true
  | postStart | cleanup => false

/-- The position of a stage in `all`. -/
def index : Stage → Nat
  | configure => 0
  | preStart => 1
  | postStart => 2
  | cleanup => 3

end Stage
end LabLifecycle
