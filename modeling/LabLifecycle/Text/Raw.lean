import LabLifecycle.Text.Bytes

/-!
# Bytes as characters

Scripts and what they work on are bytes, but nearly all that is said about them is said in
ASCII. Here each byte is written as the character of the same number, so that a list of
characters below 256 stands for exactly one byte run.
-/
namespace LabLifecycle

/-- Bytes, each as the character of its number. -/
abbrev Raw := List Char

namespace Raw

/-- Bytes as characters. -/
def ofBytes (b : Bytes) : Raw := b.map fun x => Char.ofNat x.toNat

/-- Characters as bytes. -/
def toBytes (r : Raw) : Bytes := r.map fun c => c.toNat.toUInt8

/-- The bytes of a text. -/
def ofString (s : String) : Raw := ofBytes (textBytes s)

/-- A number in decimal digits. -/
def ofNat (n : Nat) : Raw := (toString n).toList

/-- An integer in decimal digits. -/
def ofInt (n : Int) : Raw := (toString n).toList

/-- The number that decimal digits denote. -/
def digitsValue (digits : Raw) : Nat :=
  digits.foldl (fun n c => n * 10 + (c.toNat - '0'.toNat)) 0

/-- A blank, a tab or a line end. -/
def isBlank (c : Char) : Bool := c == ' ' || c == '\t' || c == '\n'

/-- White space: blanks, and line and page ends of any kind. -/
def isSpace (c : Char) : Bool := c == ' ' || ('\t' ≤ c && c ≤ '\r')

/-- A text up to a character, and what follows it, if the character occurs. -/
def cut? (mark : Char) (r : Raw) : Option (Raw × Raw) :=
  let before := r.takeWhile (· != mark)
  match r.drop before.length with
  | _ :: after => some (before, after)
  | [] => none

/-- The parts with a separator between them. -/
def joined (separator : Raw) (parts : List Raw) : Raw := (parts.intersperse separator).flatten

end Raw
end LabLifecycle
