import LabLifecycle.Json.Value

/-!
# Writing JSON

One printer for both layouts: on one line without any white space, or indented by two
spaces a level with every item and member on its own line. The two differ only in the
white space between tokens.
-/
namespace LabLifecycle.Json

/-- How a document is laid out. -/
inductive Layout where
  | compact
  | indented
  deriving DecidableEq, Repr

/-- What starts a line at a nesting depth. -/
def Layout.newline : Layout → Nat → Bytes
  | .compact, _ => []
  | .indented, depth => 0x0A :: List.replicate (2 * depth) 0x20

/-- What stands between a member's name and its value. -/
def Layout.colon : Layout → Bytes
  | .compact => [0x3A]
  | .indented => [0x3A, 0x20]

/-- The digit of a number below 16. -/
def hexDigit (n : UInt8) : UInt8 := if n < 10 then 0x30 + n else 0x57 + n

/-- A byte of a text inside quotes. -/
def escapeByte (b : UInt8) : Bytes :=
  if b == 0x22 then [0x5C, 0x22]
  else if b == 0x5C then [0x5C, 0x5C]
  else if b == 0x08 then [0x5C, 0x62]
  else if b == 0x09 then [0x5C, 0x74]
  else if b == 0x0A then [0x5C, 0x6E]
  else if b == 0x0C then [0x5C, 0x66]
  else if b == 0x0D then [0x5C, 0x72]
  else if b < 0x20 then [0x5C, 0x75, 0x30, 0x30, hexDigit (b / 16), hexDigit (b % 16)]
  else [b]

/-- A text as a JSON string. -/
def printText (s : String) : Bytes := 0x22 :: ((textBytes s).flatMap escapeByte ++ [0x22])

/-- An integer in decimal notation. -/
def printInt : Int → Bytes
  | .ofNat n => Bytes.decimal n
  | .negSucc n => 0x2D :: Bytes.decimal (n + 1)

/-- A number in decimal notation. -/
def printNumber : Number → Bytes
  | .int z => printInt z
  | .float x => textBytes x.pointedOrScientific

/-- A truth value. -/
def printBool : Bool → Bytes
  | true => textBytes "true"
  | false => textBytes "false"

mutual

/-- A value at a nesting depth. -/
def printAt (l : Layout) (depth : Nat) : Value → Bytes
  | .null => textBytes "null"
  | .bool b => printBool b
  | .number n => printNumber n
  | .text s => printText s
  | .array [] => [0x5B, 0x5D]
  | .array (v :: rest) =>
    0x5B :: (l.newline (depth + 1) ++ printAt l (depth + 1) v ++ printItems l (depth + 1) rest ++
      l.newline depth ++ [0x5D])
  | .object [] => [0x7B, 0x7D]
  | .object ((k, v) :: rest) =>
    0x7B :: (l.newline (depth + 1) ++ printText k ++ l.colon ++ printAt l (depth + 1) v ++
      printMembers l (depth + 1) rest ++ l.newline depth ++ [0x7D])

/-- The items after the first one, each after a comma. -/
def printItems (l : Layout) (depth : Nat) : List Value → Bytes
  | [] => []
  | v :: rest => 0x2C :: (l.newline depth ++ printAt l depth v ++ printItems l depth rest)

/-- The members after the first one, each after a comma. -/
def printMembers (l : Layout) (depth : Nat) : List (String × Value) → Bytes
  | [] => []
  | (k, v) :: rest =>
    0x2C :: (l.newline depth ++ printText k ++ l.colon ++ printAt l depth v ++
      printMembers l depth rest)

end

/-- A document. -/
def print (l : Layout) (v : Value) : Bytes := printAt l 0 v

/-- A document as text. -/
def printString (l : Layout) (v : Value) : String := Bytes.lossyText (print l v)

end LabLifecycle.Json
