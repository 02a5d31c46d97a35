import LabLifecycle.Toml.Value

/-!
# Scalars of TOML

Readers for white space, line ends, strings, numbers, and dates and times. Each takes a
text, and yields what stands at its start together with the text after it, or nothing if
the text does not start that way.
-/
namespace LabLifecycle.Toml

/-- What stands at the start of a text, and the text after it. -/
abbrev Scan (α : Type) := List Char → Option (α × List Char)

/-! ### White space and line ends -/

/-- A space or a tab. -/
def isBlank (c : Char) : Bool := c == ' ' || c == '\t'

/-- A character that needs no escape: no control character other than a tab. -/
def isPlain (c : Char) : Bool :=
  c == '\t' || (0x20 ≤ c.toNat && c.toNat != 0x7F)

/-- The text after blanks. -/
def skipBlanks (s : List Char) : List Char := s.dropWhile isBlank

/-- The text after one line end. -/
def newline? : List Char → Option (List Char)
  | '\n' :: rest => some rest
  | '\r' :: '\n' :: rest => some rest
  | _ => none

/-- The text after one line end, if there is one. -/
def skipNewline (s : List Char) : List Char := (newline? s).getD s

/-- The text after a comment, if there is one. -/
def skipComment : List Char → List Char
  | '#' :: rest => rest.dropWhile isPlain
  | s => s

/-- The next line, if nothing but blanks and a comment is left on this one. -/
def endLine? (s : List Char) : Option (List Char) :=
  match skipComment (skipBlanks s) with
  | [] => some []
  | rest => newline? rest

/-- The text after blanks, line ends and comments, one per step of fuel. -/
def skipGap : Nat → List Char → List Char
  | 0, s => s
  | fuel + 1, s =>
    match skipComment (skipBlanks s) with
    | [] => []
    | rest => match newline? rest with
      | some rest => skipGap fuel rest
      | none => rest

/-- The text after blanks and line ends, one per step of fuel. -/
def skipLines : Nat → List Char → List Char
  | 0, s => s
  | fuel + 1, s =>
    match newline? (skipBlanks s) with
    | some rest => skipLines fuel rest
    | none => skipBlanks s

/-! ### Strings -/

/-- The value of a hexadecimal digit. -/
def hexValue (c : Char) : Nat :=
  if c.isDigit then c.toNat - '0'.toNat else c.toLower.toNat - 'a'.toNat + 10

/-- A hexadecimal digit. -/
def isHexDigit (c : Char) : Bool :=
  c.isDigit || ('a' ≤ c && c ≤ 'f') || ('A' ≤ c && c ≤ 'F')

/-- The number that digits denote to a base. -/
def ofDigits (base : Nat) (digits : List Char) : Nat :=
  digits.foldl (fun n c => n * base + hexValue c) 0

/-- The character of a code point in hexadecimal digits. -/
def codePoint (count : Nat) : Scan Char := fun s =>
  let digits := s.take count
  let n := ofDigits 16 digits
  if digits.length = count && digits.all isHexDigit && Nat.isValidChar n then
    some (Char.ofNat n, s.drop count)
  else none

/-- The character of an escape sequence, after the backslash. -/
def escape : Scan Char
  | 'b' :: rest => some ('\x08', rest)
  | 't' :: rest => some ('\t', rest)
  | 'n' :: rest => some ('\n', rest)
  | 'f' :: rest => some ('\x0C', rest)
  | 'r' :: rest => some ('\r', rest)
  | '"' :: rest => some ('"', rest)
  | '\\' :: rest => some ('\\', rest)
  | 'u' :: rest => codePoint 4 rest
  | 'U' :: rest => codePoint 8 rest
  | _ => none

/-- A string on one line with escapes, after its opening quote. The characters read so
far are in reverse. -/
def basicString : Nat → List Char → Scan String
  | 0, _, _ => none
  | _ + 1, _, [] => none
  | fuel + 1, done, c :: rest =>
    if c = '"' then some (String.ofList done.reverse, rest)
    else if c = '\\' then do
      let (c, rest) ← escape rest
      basicString fuel (c :: done) rest
    else if isPlain c then basicString fuel (c :: done) rest
    else none

/-- A string on one line without escapes, after its opening quote. -/
def literalString : Scan String := fun s =>
  let content := s.takeWhile fun c => isPlain c && c != '\''
  match s.drop content.length with
  | '\'' :: rest => some (String.ofList content, rest)
  | _ => none

/-- Quotes inside or at the end of a string of several lines. Up to two belong to the
string: all that there are if the string goes on, or those before the closing three. The
flag says whether the string ends. -/
def innerQuotes (quote : Char) (s : List Char) : Nat × Bool × List Char :=
  let count := (s.takeWhile (· == quote)).length
  if count < 3 then (count, false, s.drop count)
  else
    let kept := min (count - 3) 2
    (kept, true, s.drop (kept + 3))

/-- The text after a line end that is escaped, with all white space after it. -/
def escapedLineEnd? (s : List Char) : Option (List Char) :=
  (newline? (skipBlanks s)).map fun rest => skipLines (rest.length + 1) rest

/-- A string of several lines, after its opening quotes. The characters read so far are in
reverse. Backslashes escape only between double quotes. -/
def longString (quote : Char) : Nat → List Char → Scan String
  | 0, _, _ => none
  | _ + 1, _, [] => none
  | fuel + 1, done, c :: rest =>
    if c = quote then
      let (count, ended, rest) := innerQuotes quote (c :: rest)
      let done := List.replicate count quote ++ done
      if ended then some (String.ofList done.reverse, rest) else longString quote fuel done rest
    else if c = '\\' && quote = '"' then
      match escapedLineEnd? rest with
      | some rest => longString quote fuel done rest
      | none => do
        let (c, rest) ← escape rest
        longString quote fuel (c :: done) rest
    else match newline? (c :: rest) with
      | some rest => longString quote fuel ('\n' :: done) rest
      | none => if isPlain c then longString quote fuel (c :: done) rest else none

/-- A string of any kind. -/
def string : Scan String
  | '"' :: '"' :: '"' :: rest => longString '"' (rest.length + 1) [] (skipNewline rest)
  | '"' :: rest => basicString (rest.length + 1) [] rest
  | '\'' :: '\'' :: '\'' :: rest => longString '\'' (rest.length + 1) [] (skipNewline rest)
  | '\'' :: rest => literalString rest
  | _ => none

/-! ### Keys -/

/-- A character of a key without quotes. -/
def isKeyChar (c : Char) : Bool := c.isAlphanum || c == '_' || c == '-'

/-- One part of a key. -/
def keyPart : Scan String
  | '"' :: rest => basicString (rest.length + 1) [] rest
  | '\'' :: rest => literalString rest
  | s =>
    let name := s.takeWhile isKeyChar
    if name.isEmpty then none else some (String.ofList name, s.drop name.length)

/-- The parts of a key, with points between them and blanks around them. -/
def keyParts : Nat → Scan (List String)
  | 0, _ => none
  | fuel + 1, s => do
    let (part, s) ← keyPart (skipBlanks s)
    match skipBlanks s with
    | '.' :: s =>
      let (parts, s) ← keyParts fuel s
      return (part :: parts, s)
    | s => return ([part], s)

/-- Levels of nesting that a document may not reach. -/
def depthLimit : Nat := 80

/-- A key: the parts before the last one, and the last one. -/
def key : Scan (List String × String) := fun s => do
  let (parts, s) ← keyParts (s.length + 1) s
  let last ← parts.getLast?
  if parts.length < depthLimit then return ((parts.dropLast, last), s) else none

/-! ### Dates and times -/

/-- A number of exactly `count` digits in a range. -/
def fixedNumber (count low high : Nat) : Scan Nat := fun s =>
  let digits := s.take count
  let n := ofDigits 10 digits
  if digits.length = count && digits.all Char.isDigit && low ≤ n && n ≤ high then
    some (n, s.drop count)
  else none

/-- The text after a certain character. -/
def after? (c : Char) : List Char → Option (List Char)
  | d :: rest => if d = c then some rest else none
  | [] => none

/-- The number of days in a month of a year. -/
def daysIn (year month : Nat) : Nat :=
  if month = 2 then
    (if year % 4 = 0 && (year % 100 != 0 || year % 400 = 0) then 29 else 28)
  else if month = 4 || month = 6 || month = 9 || month = 11 then 30
  else 31

/-- The text after a date. -/
def date? (s : List Char) : Option (List Char) := do
  let (year, s) ← fixedNumber 4 0 9999 s
  let (month, s) ← fixedNumber 2 1 12 (← after? '-' s)
  let (_, s) ← fixedNumber 2 1 (daysIn year month) (← after? '-' s)
  return s

/-- The text after a fraction of a second, if there is one. -/
def skipFraction (s : List Char) : List Char :=
  match s with
  | '.' :: c :: rest => if c.isDigit then rest.dropWhile Char.isDigit else s
  | _ => s

/-- The text after a time of day. -/
def time? (s : List Char) : Option (List Char) := do
  let (_, s) ← fixedNumber 2 0 23 s
  let (_, s) ← fixedNumber 2 0 59 (← after? ':' s)
  let (_, s) ← fixedNumber 2 0 60 (← after? ':' s)
  return skipFraction s

/-- The text after the digits of an offset from UTC. -/
def offsetDigits? (s : List Char) : Option (List Char) := do
  let (_, s) ← fixedNumber 2 0 23 s
  let (_, s) ← fixedNumber 2 0 59 (← after? ':' s)
  return s

/-- The text after an offset from UTC, if there is one. -/
def skipOffset (s : List Char) : List Char :=
  match s with
  | 'Z' :: rest | 'z' :: rest => rest
  | '+' :: rest | '-' :: rest => (offsetDigits? rest).getD s
  | _ => s

/-- The text after the time of day that follows a date, if one does. -/
def skipTimeOfDay (s : List Char) : List Char :=
  match s with
  | c :: rest =>
    if c = 'T' || c = 't' || c = ' ' then
      match time? rest with
      | some rest => skipOffset rest
      | none => s
    else s
  | [] => s

/-- The text after a date, a time of day, or both. -/
def moment? (s : List Char) : Option (List Char) :=
  match date? s with
  | some s => some (skipTimeOfDay s)
  | none => time? s

/-! ### Numbers -/

/-- Digits, with single underscores between them. -/
def digitRun (isDigit : Char → Bool) : List Char → List Char × List Char
  | [] => ([], [])
  | c :: rest =>
    if isDigit c then
      let (digits, rest) := match rest with
        | '_' :: d :: more => if isDigit d then digitRun isDigit (d :: more) else ([], rest)
        | rest => digitRun isDigit rest
      (c :: digits, rest)
    else ([], c :: rest)

/-- At least one digit. -/
def digits (isDigit : Char → Bool) : Scan (List Char) := fun s =>
  match digitRun isDigit s with
  | ([], _) => none
  | found => some found

/-- The largest integer. -/
def maxInt : Nat := 0x7FFFFFFFFFFFFFFF

/-- An integer to a base other than ten, after its mark. -/
def basedInteger (base : Nat) (isDigit : Char → Bool) : Scan Value := fun s => do
  let (ds, s) ← digits isDigit s
  if ofDigits base ds ≤ maxInt then return (.int (ofDigits base ds), s) else none

/-- The digits of a whole number: a zero alone, or digits of which the first is none. -/
def wholeDigits : Scan (List Char)
  | '0' :: rest => some (['0'], rest)
  | s => digits Char.isDigit s

/-- The sign of a number: whether it is negative, if there is one. -/
def sign : List Char → Option Bool × List Char
  | '+' :: rest => (some false, rest)
  | '-' :: rest => (some true, rest)
  | s => (none, s)

/-- The exponent of a number, if there is one. -/
def exponent : List Char → Option (Option Int × List Char)
  | c :: rest =>
    if c = 'e' || c = 'E' then do
      let (negative, rest) := sign rest
      let (ds, rest) ← digits Char.isDigit rest
      let n : Int := ofDigits 10 ds
      return (some (if negative = some true then -n else n), rest)
    else some (none, c :: rest)
  | [] => some (none, [])

/-- The floating-point number nearest to `± digits * 10 ^ exponent`; one that is too large
is infinite. Exponents far beyond the range are not carried out. -/
def numberOf (negative : Bool) (digits : List Char) (exponent : Int) : Number :=
  let digits := digits.dropWhile (· == '0')
  let size := exponent + digits.length
  if digits.isEmpty || size < -400 then .finite ⟨negative, 0, -1074⟩
  else if 400 < size then .infinite negative
  else match Binary64.ofDecimal negative (ofDigits 10 digits) exponent with
    | some x => .finite x
    | none => .infinite negative

/-- A floating-point number of its parts, unless it is above all finite ones. -/
def floatOf (negative : Bool) (whole part : List Char) (exponent : Int) : Option Value :=
  match numberOf negative (whole ++ part) (exponent - part.length) with
  | .infinite false => none
  | x => some (.float x)

/-- A number after its sign. -/
def magnitude (negative : Bool) : Scan Value := fun s => do
  let (whole, s) ← wholeDigits s
  match s with
  | '.' :: s =>
    let (part, s) ← digits Char.isDigit s
    let (e, s) ← exponent s
    return (← floatOf negative whole part (e.getD 0), s)
  | s =>
    match ← exponent s with
    | (some e, s) => return (← floatOf negative whole [] e, s)
    | (none, s) =>
      let n := ofDigits 10 whole
      if n ≤ (if negative then maxInt + 1 else maxInt) then
        return (.int (if negative then -n else n), s)
      else none

/-- A number. -/
def number : Scan Value := fun s =>
  match s with
  | '0' :: 'x' :: rest => basedInteger 16 isHexDigit rest
  | '0' :: 'o' :: rest => basedInteger 8 (fun c => '0' ≤ c && c ≤ '7') rest
  | '0' :: 'b' :: rest => basedInteger 2 (fun c => c = '0' || c = '1') rest
  | s =>
    let (negative, s) := sign s
    match s with
    | 'i' :: 'n' :: 'f' :: rest => some (.float (.infinite (negative = some true)), rest)
    | 'n' :: 'a' :: 'n' :: rest => some (.float .nan, rest)
    | s => magnitude (negative = some true) s

/-- Any scalar. -/
def scalar : Scan Value := fun s =>
  match s with
  | '"' :: _ | '\'' :: _ => (string s).map fun r => (.text r.1, r.2)
  | 't' :: 'r' :: 'u' :: 'e' :: rest => some (.bool true, rest)
  | 'f' :: 'a' :: 'l' :: 's' :: 'e' :: rest => some (.bool false, rest)
  | s =>
    match moment? s with
    | some rest => some (.moment, rest)
    | none => number s

end LabLifecycle.Toml
