/-!
# Bytes and the text they hold

Documents, standard streams and file contents are lists of bytes. Text enters and
leaves them as UTF-8: `textBytes` encodes, `Bytes.text?` decodes well-formed
input only, and `Bytes.lossyText` replaces every maximal ill-formed part by U+FFFD.
-/
namespace LabLifecycle

/-- A finite run of bytes: a document, a stream, or the content of a file. -/
abbrev Bytes := List UInt8

/-- The UTF-8 encoding of a text. -/
def textBytes (s : String) : Bytes := s.toUTF8.data.toList

/-- The byte of an ASCII character. -/
def asciiByte (c : Char) : UInt8 := c.toNat.toUInt8

namespace Bytes

/-- The text a byte run encodes, if it is well-formed UTF-8. -/
def text? (b : Bytes) : Option String := String.fromUTF8? ⟨b.toArray⟩

/-- Encoding and decoding a text gives it back. -/
@[simp] theorem text?_textBytes (s : String) : text? (textBytes s) = some s := by
  have h : (⟨(textBytes s).toArray⟩ : ByteArray) = s.toByteArray := by simp [textBytes]
  rw [text?, h, String.fromUTF8?, dif_pos s.isValidUTF8]
  rfl

/-- A decimal digit. -/
def isDigit (b : UInt8) : Bool := 0x30 ≤ b && b ≤ 0x39

/-- The value of a decimal digit. -/
def digitValue (b : UInt8) : Nat := b.toNat - 0x30

/-- Space, tab, line feed, form feed and carriage return. -/
def isAsciiSpace (b : UInt8) : Bool :=
  b == 0x20 || b == 0x09 || b == 0x0A || b == 0x0C || b == 0x0D

/-- A byte run without any visible content. -/
def isBlank (b : Bytes) : Bool := b.all isAsciiSpace

/-- The admissible range of the byte after the first one of a longer UTF-8
sequence, and the number of further bytes the sequence still owes after it. -/
def followers (first : UInt8) : Option (UInt8 × UInt8 × Nat) :=
  if 0xC2 ≤ first && first ≤ 0xDF then some (0x80, 0xBF, 0)
  else if first == 0xE0 then some (0xA0, 0xBF, 1)
  else if first == 0xED then some (0x80, 0x9F, 1)
  else if 0xE1 ≤ first && first ≤ 0xEF then some (0x80, 0xBF, 1)
  else if first == 0xF0 then some (0x90, 0xBF, 2)
  else if first == 0xF4 then some (0x80, 0x8F, 2)
  else if 0xF1 ≤ first && first ≤ 0xF3 then some (0x80, 0xBF, 2)
  else none

/-- Read up to `owed` continuation bytes onto the bits read so far. The flag says
whether all of them were there. -/
def continuation : Nat → Nat → Bytes → Nat × Bool × Bytes
  | 0, bits, rest => (bits, true, rest)
  | owed + 1, bits, b :: rest =>
    if 0x80 ≤ b && b ≤ 0xBF then continuation owed (bits * 64 + (b.toNat - 0x80)) rest
    else (bits, false, b :: rest)
  | _ + 1, bits, [] => (bits, false, [])

/-- The first character of a byte run and what follows it. An ill-formed start
takes its maximal part and stands for U+FFFD. -/
def nextChar (first : UInt8) (rest : Bytes) : Char × Bytes :=
  if first < 0x80 then (Char.ofNat first.toNat, rest)
  else match followers first, rest with
    | some (low, high, owed), second :: more =>
      if low ≤ second && second ≤ high then
        let lead := first.toNat % (if owed = 0 then 32 else if owed = 1 then 16 else 8)
        let (bits, complete, left) := continuation owed (lead * 64 + (second.toNat - 0x80)) more
        (if complete then Char.ofNat bits else '\uFFFD', left)
      else ('\uFFFD', rest)
    | _, _ => ('\uFFFD', rest)

/-- The characters of a byte run, one per step of fuel. -/
def lossyChars : Nat → Bytes → List Char
  | 0, _ => []
  | _ + 1, [] => []
  | fuel + 1, b :: rest =>
    let (c, left) := nextChar b rest
    c :: lossyChars fuel left

/-- The text of a byte run, with U+FFFD for every maximal ill-formed part. -/
def lossyText (b : Bytes) : String := String.ofList (lossyChars b.length b)

/-- The number a run of decimal digits denotes. -/
def digitsValue (digits : Bytes) : Nat := digits.foldl (fun n d => n * 10 + digitValue d) 0

/-- The decimal digits of a number below `10 ^ fuel`, before those of `tail`. -/
def decimalAux : Nat → Nat → Bytes → Bytes
  | 0, _, tail => tail
  | fuel + 1, n, tail =>
    let tail := (0x30 + (n % 10).toUInt8) :: tail
    if n / 10 = 0 then tail else decimalAux fuel (n / 10) tail

/-- The decimal digits of a number. -/
def decimal (n : Nat) : Bytes := decimalAux (n + 1) n []

end Bytes

/-- The characters of Unicode's `White_Space` property. -/
def isWhiteSpace (c : Char) : Bool :=
  let n := c.toNat
  (9 ≤ n && n ≤ 13) || n == 0x20 || n == 0x85 || n == 0xA0 || n == 0x1680 ||
    (0x2000 ≤ n && n ≤ 0x200A) || n == 0x2028 || n == 0x2029 || n == 0x202F || n == 0x205F ||
    n == 0x3000

/-- A text without white space at its ends. -/
def trimSpace (s : String) : String :=
  String.ofList ((s.toList.dropWhile isWhiteSpace).reverse.dropWhile isWhiteSpace).reverse

/-- The digits of `n`, with zeros before them up to `width` digits. -/
def zeroPadded (width n : Nat) : String :=
  let digits := toString n
  String.ofList (List.replicate (width - digits.length) '0') ++ digits

end LabLifecycle
