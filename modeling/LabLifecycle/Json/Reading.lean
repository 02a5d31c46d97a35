import LabLifecycle.Json.Value

/-!
# Reading JSON

A document is read once, from left to right, into a `Reading`: the tree of what it
says as far as it is well formed. Where the text breaks, the tree ends in a flaw, so a
decoder that walks the tree in reading order meets wrong content and broken text in the
order in which they stand in the document.

Some flaws matter only to a decoder that uses the part they sit in: an unpaired
surrogate, ill-formed UTF-8 inside a string, or a number out of range. They are kept in
place of the part's content. Flaws that break the text for every reader end it.
-/
namespace LabLifecycle.Json

/-- How a text fails to be JSON: it contradicts the grammar, or it ends too early. -/
inductive Flaw where
  | malformed
  | truncated
  deriving DecidableEq, Repr

/-- How the list of items or members ends. -/
inductive Ending where
  | closed
  | broken (flaw : Flaw)
  deriving DecidableEq, Repr

/-- What a document says, as far as it can be read. -/
inductive Reading where
  | null
  | bool (b : Bool)
  | number (n : Except Flaw Number)
  | text (s : Except Flaw String)
  | array (items : List Reading) (ending : Ending)
  | object (members : List (Except Flaw String × Reading)) (ending : Ending)
  /-- Something that starts or stands for a value but is none. -/
  | broken (flaw : Flaw)
  /-- The end of the text in place of a value. -/
  | missing
  deriving Inhabited

/-- What is left to read, or why reading stops. -/
abbrev Rest := Except Flaw Bytes

/-- Space, tab, line feed and carriage return. -/
def isSpace (b : UInt8) : Bool := b == 0x20 || b == 0x09 || b == 0x0A || b == 0x0D

/-- A byte run from its first byte that is not white space. -/
def skipSpace : Bytes → Bytes
  | [] => []
  | b :: rest => if isSpace b then skipSpace rest else b :: rest

/-! ### Literals -/

/-- Read the remaining letters of a literal. -/
def readLetters (r : Reading) : Bytes → Bytes → Reading × Rest
  | [], rest => (r, .ok rest)
  | _ :: _, [] => (.broken .truncated, .error .truncated)
  | letter :: letters, b :: rest =>
    if b == letter then readLetters r letters rest
    else (.broken .malformed, .error .malformed)

/-! ### Strings -/

/-- The value of a hexadecimal digit. -/
def hexValue (b : UInt8) : Option Nat :=
  if 0x30 ≤ b && b ≤ 0x39 then some (b.toNat - 0x30)
  else if 0x41 ≤ b && b ≤ 0x46 then some (b.toNat - 0x37)
  else if 0x61 ≤ b && b ≤ 0x66 then some (b.toNat - 0x57)
  else none

/-- Four hexadecimal digits. A text with fewer than four bytes left is truncated,
whatever the bytes are. -/
def readHex : Bytes → Except Flaw (Nat × Bytes)
  | a :: b :: c :: d :: rest =>
    match hexValue a, hexValue b, hexValue c, hexValue d with
    | some a, some b, some c, some d => .ok (((a * 16 + b) * 16 + c) * 16 + d, rest)
    | _, _, _, _ => .error .malformed
  | _ => .error .truncated

/-- The UTF-8 encoding of a code point. -/
def encodeCode (n : Nat) : Bytes := textBytes (Char.ofNat n).toString

/-- The character that an escape sequence after a high surrogate completes it to, and
what follows the sequence. -/
def readLowSurrogate (high : Nat) : Bytes → Except Flaw (Bytes × Bytes)
  | [] => .error .truncated
  | 0x5C :: [] => .error .truncated
  | 0x5C :: 0x75 :: rest => do
    let (low, rest) ← readHex rest
    if 0xDC00 ≤ low && low ≤ 0xDFFF then
      .ok (encodeCode (0x10000 + (high - 0xD800) * 1024 + (low - 0xDC00)), rest)
    else .error .malformed
  | _ => .error .malformed

/-- The bytes of a single-letter escape. -/
def simpleEscape (b : UInt8) : Option UInt8 :=
  if b == 0x22 || b == 0x5C || b == 0x2F then some b
  else if b == 0x62 then some 0x08
  else if b == 0x66 then some 0x0C
  else if b == 0x6E then some 0x0A
  else if b == 0x72 then some 0x0D
  else if b == 0x74 then some 0x09
  else none

/-- The content of a string under way: its bytes in reverse, or the first flaw that
leaves it without content. -/
abbrev Content := Except Flaw Bytes

/-- More bytes of content. -/
def Content.add (c : Content) (bytes : Bytes) : Content := c.map (bytes.reverse ++ ·)

/-- The content after a flaw that leaves it without any. -/
def Content.fail (c : Content) (flaw : Flaw) : Content := c.bind fun _ => .error flaw

/-- The content as text. -/
def Content.text (c : Content) : Except Flaw String := do
  let bytes ← c
  match Bytes.text? bytes.reverse with
  | some s => .ok s
  | none => .error .malformed

/-- The end of a string that breaks off. -/
def Content.stop (c : Content) (flaw : Flaw) : Except Flaw String × Rest :=
  (c.bind fun _ => .error flaw, .error flaw)

/-- Read a string after its opening quote. -/
def readString : Nat → Content → Bytes → Except Flaw String × Rest
  | 0, c, _ => c.stop .truncated
  | _ + 1, c, [] => c.stop .truncated
  | fuel + 1, c, b :: rest =>
    if b == 0x22 then (c.text, .ok rest)
    else if b == 0x5C then
      match rest with
      | [] => c.stop .truncated
      | 0x75 :: rest =>
        match readHex rest with
        | .error flaw => c.stop flaw
        | .ok (n, rest) =>
          if 0xDC00 ≤ n && n ≤ 0xDFFF then readString fuel (c.fail .malformed) rest
          else if 0xD800 ≤ n && n ≤ 0xDBFF then
            match readLowSurrogate n rest with
            | .ok (bytes, rest) => readString fuel (c.add bytes) rest
            | .error flaw => readString fuel (c.fail flaw) rest
          else readString fuel (c.add (encodeCode n)) rest
      | e :: rest =>
        match simpleEscape e with
        | some b => readString fuel (c.add [b]) rest
        | none => c.stop .malformed
    else if b < 0x20 then c.stop .malformed
    else readString fuel (c.add [b]) rest

/-! ### Numbers -/

/-- The largest 64-bit number. -/
def maxWord : Nat := UInt64.size - 1

/-- Take digits into a 64-bit significand as long as it has room. Yields the
significand and the number of digits taken. -/
def takeDigits : Nat → Nat → Bytes → Nat × Nat
  | significand, taken, [] => (significand, taken)
  | significand, taken, d :: rest =>
    let next := significand * 10 + Bytes.digitValue d
    if maxWord < next then (significand, taken) else takeDigits next (taken + 1) rest

/-- `x * 10 ^ exponent` by one multiplication or division by a power of ten, after
divisions by `10 ^ 308` for exponents below. Nothing when it is too large. -/
def scaleBy (x : Binary64) : Nat → Int → Option Binary64
  | 0, _ => some x
  | fuel + 1, exponent =>
    if exponent.natAbs ≤ 308 then
      if 0 ≤ exponent then x.mul (Binary64.powerOfTen exponent.natAbs)
      else x.div (Binary64.powerOfTen exponent.natAbs)
    else if x.mantissa = 0 then some x
    else if 0 ≤ exponent then none
    else match x.div (Binary64.powerOfTen 308) with
      | some y => scaleBy y fuel (exponent + 308)
      | none => none

/-- The floating-point number of a 64-bit significand and a power of ten. -/
def floatOf (negative : Bool) (significand : Nat) (exponent : Int) : Except Flaw Number :=
  match Binary64.ofRatio negative significand 1 with
  | none => .error .malformed
  | some x => match scaleBy x 4 exponent with
    | some y => .ok (.float y)
    | none => .error .malformed

/-- The number of a literal's parts: the digits before the point, those after it if it
has one, and its exponent if it has one. -/
def numberOf (negative : Bool) (whole : Bytes) (part : Option Bytes) (exponent : Option Int) :
    Except Flaw Number :=
  let n := Bytes.digitsValue whole
  if part.isNone && exponent.isNone && n ≤ maxWord then
    if !negative then .ok (.int n)
    else if 0 < n && n ≤ 0x8000000000000000 then .ok (.int (-n))
    else floatOf true n 0
  else
    let (significand, taken) := takeDigits 0 0 whole
    let (significand, more) := takeDigits significand 0 (part.getD [])
    floatOf negative significand
      (((whole.length - taken : Nat) : Int) - (more : Int) + exponent.getD 0)

/-- Digits and what follows them. -/
def spanDigits (b : Bytes) : Bytes × Bytes := b.span Bytes.isDigit

/-- A number that breaks off where the grammar asks for a digit. A reader that uses
the number sees the end of the text, one that skips it only the missing digit. -/
def missingDigit (rest : Bytes) : Reading × Rest :=
  (.broken (if rest.isEmpty then .truncated else .malformed), .error .malformed)

/-- Read the exponent of a number after its `e`, if there is one, and yield the number. -/
def readExponent (negative : Bool) (whole : Bytes) (part : Option Bytes) (rest : Bytes) :
    Reading × Rest :=
  match rest with
  | 0x65 :: rest | 0x45 :: rest =>
    let (down, rest) := match rest with
      | 0x2B :: rest => (false, rest)
      | 0x2D :: rest => (true, rest)
      | rest => (false, rest)
    let (digits, rest) := spanDigits rest
    if digits.isEmpty then missingDigit rest
    else
      let e : Int := Bytes.digitsValue digits
      (.number (numberOf negative whole part (some (if down then -e else e))), .ok rest)
  | rest => (.number (numberOf negative whole part none), .ok rest)

/-- Read a number after its sign. -/
def readNumber (negative : Bool) (b : Bytes) : Reading × Rest :=
  let (whole, rest) := spanDigits b
  if whole.isEmpty then missingDigit rest
  else if whole.head? == some 0x30 && 1 < whole.length then
    (.broken .malformed, .error .malformed)
  else match rest with
    | 0x2E :: rest =>
      let (part, rest) := spanDigits rest
      if part.isEmpty then missingDigit rest else readExponent negative whole (some part) rest
    | rest => readExponent negative whole none rest

/-! ### Values -/

/-- The ending that follows from what is left to read. -/
def Ending.ofRest : Rest → Ending
  | .ok _ => .closed
  | .error flaw => .broken flaw

/-- What stands for a member that does not start with a name. -/
def nameless : Except Flaw String × Reading := (.error .malformed, .broken .malformed)

mutual

/-- Read a value. -/
def readValue : Nat → Bytes → Reading × Rest
  | 0, _ => (.missing, .error .truncated)
  | fuel + 1, b =>
    match skipSpace b with
    | [] => (.missing, .error .truncated)
    | b :: rest =>
      if b == 0x6E then readLetters .null [0x75, 0x6C, 0x6C] rest
      else if b == 0x74 then readLetters (.bool true) [0x72, 0x75, 0x65] rest
      else if b == 0x66 then readLetters (.bool false) [0x61, 0x6C, 0x73, 0x65] rest
      else if b == 0x2D then readNumber true rest
      else if Bytes.isDigit b then readNumber false (b :: rest)
      else if b == 0x22 then
        let (s, rest) := readString fuel (.ok []) rest
        (.text s, rest)
      else if b == 0x5B then
        match skipSpace rest with
        | [] => (.array [] (.broken .truncated), .error .truncated)
        | 0x5D :: rest => (.array [] .closed, .ok rest)
        | rest =>
          let (items, rest) := readItems fuel rest
          (.array items (Ending.ofRest rest), rest)
      else if b == 0x7B then
        match skipSpace rest with
        | [] => (.object [] (.broken .truncated), .error .truncated)
        | 0x7D :: rest => (.object [] .closed, .ok rest)
        | 0x22 :: rest =>
          let (members, rest) := readMembers fuel rest
          (.object members (Ending.ofRest rest), rest)
        | _ => (.object [nameless] (.broken .malformed), .error .malformed)
      else (.broken .malformed, .error .malformed)

/-- Read an array from one of its items on. -/
def readItems : Nat → Bytes → List Reading × Rest
  | 0, _ => ([], .error .truncated)
  | fuel + 1, b =>
    let (item, rest) := readValue fuel b
    match rest with
    | .error flaw => ([item], .error flaw)
    | .ok rest => match skipSpace rest with
      | [] => ([item], .error .truncated)
      | 0x5D :: rest => ([item], .ok rest)
      | 0x2C :: rest =>
        let (items, rest) := readItems fuel rest
        (item :: items, rest)
      | _ => ([item], .error .malformed)

/-- Read an object from the name of one of its members on, after the opening quote. -/
def readMembers : Nat → Bytes → List (Except Flaw String × Reading) × Rest
  | 0, _ => ([], .error .truncated)
  | fuel + 1, b =>
    let (name, rest) := readString fuel (.ok []) b
    match rest with
    | .error flaw => ([(name, .broken flaw)], .error flaw)
    | .ok rest => match skipSpace rest with
      | [] => ([(name, .missing)], .error .truncated)
      | 0x3A :: rest =>
        let (value, rest) := readValue fuel rest
        match rest with
        | .error flaw => ([(name, value)], .error flaw)
        | .ok rest => match skipSpace rest with
          | [] => ([(name, value)], .error .truncated)
          | 0x7D :: rest => ([(name, value)], .ok rest)
          | 0x2C :: rest => match skipSpace rest with
            | [] => ([(name, value), (.error .truncated, .missing)], .error .truncated)
            | 0x22 :: rest =>
              let (members, rest) := readMembers fuel rest
              ((name, value) :: members, rest)
            | _ => ([(name, value), nameless], .error .malformed)
          | _ => ([(name, value)], .error .malformed)
      | _ => ([(name, .broken .malformed)], .error .malformed)

end

/-- Read a document. The fuel covers any: every step of `readValue` and its companions
but one in two consumes a byte. -/
def read (b : Bytes) : Reading × Rest := readValue (2 * b.length + 2) b

end LabLifecycle.Json
