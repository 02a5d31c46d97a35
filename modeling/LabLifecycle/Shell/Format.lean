import LabLifecycle.Shell.Arithmetic
import LabLifecycle.Text.Binary64

/-!
# Formatted output

The texts that `echo` and `printf` write. Both know escape sequences: `echo` keeps a backslash
that starts none of them, and so does the format of `printf`, where octal digits follow the
backslash directly.
-/
namespace LabLifecycle.Shell

/-! ### Escape sequences -/

/-- An octal digit. -/
def isOctal (c : Char) : Bool := '0' ≤ c && c ≤ '7'

/-- The character of up to three octal digits. -/
def octalChar (s : Raw) : Char × Raw :=
  let run := (s.take 3).takeWhile isOctal
  (Char.ofNat ((Numeral.digits 8 run).1 % 256), s.drop run.length)

/-- The character that a letter after a backslash stands for. -/
def simpleEscape? (c : Char) : Option Char :=
  [('\\', '\\'), ('a', '\x07'), ('b', '\x08'), ('e', '\x1B'), ('f', '\x0C'), ('n', '\n'),
    ('r', '\r'), ('t', '\t'), ('v', '\x0B')].lookup c

/-- What an escape sequence stands for, after its backslash. -/
def escapeSequence (s : Raw) : Char × Raw :=
  match s with
  | [] => ('\\', [])
  | c :: rest =>
    if isOctal c then octalChar s
    else
      match simpleEscape? c with
      | some d => (d, rest)
      | none => ('\\', s)

/-- A text with its escape sequences carried out, and whether it goes on after it: `\c` ends
all output. Octal digits follow a zero that does not count among them. -/
def unescape : Nat → Raw → Raw × Bool
  | 0, _ => ([], true)
  | _ + 1, [] => ([], true)
  | _ + 1, '\\' :: 'c' :: _ => ([], false)
  | fuel + 1, '\\' :: '0' :: rest =>
    let (c, rest) := octalChar rest
    let (more, goesOn) := unescape fuel rest
    (c :: more, goesOn)
  | fuel + 1, '\\' :: rest =>
    let (c, rest) := escapeSequence rest
    let (more, goesOn) := unescape fuel rest
    (c :: more, goesOn)
  | fuel + 1, c :: rest =>
    let (more, goesOn) := unescape fuel rest
    (c :: more, goesOn)

/-- The output of `echo`. -/
def echoText (arguments : List Raw) : Raw :=
  let (newline, arguments) := match arguments with
    | ['-', 'n'] :: rest => (false, rest)
    | arguments => (true, arguments)
  let text := Raw.joined [' '] arguments
  let (out, goesOn) := unescape (text.length + 1) text
  out ++ if newline && goesOn then ['\n'] else []

/-! ### Conversions -/

/-- A conversion of a format: its flags, width, precision and letter. -/
structure Conversion where
  flags : Raw
  width : Nat := 0
  precision : Option Nat := none
  letter : Char
  deriving DecidableEq, Repr

namespace Conversion

/-- A text widened with blanks. -/
def widen (c : Conversion) (text : Raw) : Raw :=
  let missing := List.replicate (c.width - text.length) ' '
  if c.flags.contains '-' then text ++ missing else missing ++ text

/-- A number widened, given its sign or other start and its digits. Zeros come between the
two. -/
def widenNumber (c : Conversion) (zeros : Bool) (start body : Raw) : Raw :=
  if zeros && c.flags.contains '0' && !c.flags.contains '-' then
    start ++ List.replicate (c.width - start.length - body.length) '0' ++ body
  else c.widen (start ++ body)

/-- The start of a number that is not negative. -/
def plusSign (c : Conversion) : Raw :=
  if c.flags.contains '+' then ['+'] else if c.flags.contains ' ' then [' '] else []

/-- Digits with zeros before them up to the precision. No digits stand for zero if none are
asked for. -/
def padDigits (c : Conversion) (n : Nat) (shown : Raw) : Raw :=
  match c.precision with
  | none => shown
  | some 0 => if n = 0 then [] else shown
  | some p => List.replicate (p - shown.length) '0' ++ shown

/-- An integer with a sign. -/
def signed (c : Conversion) (n : Int) : Raw :=
  let start := if n < 0 then ['-'] else c.plusSign
  c.widenNumber c.precision.isNone start (c.padDigits n.natAbs (Raw.ofNat n.natAbs))

/-- An integer without a sign, in the base of the letter. -/
def unsigned (c : Conversion) (n : Nat) : Raw :=
  let mark := c.flags.contains '#'
  match c.letter with
  | 'o' =>
    let shown := c.padDigits n (Nat.toDigits 8 n)
    let start := if mark && shown.head? != some '0' then ['0'] else []
    c.widenNumber c.precision.isNone [] (start ++ shown)
  | 'x' | 'X' =>
    let start := if mark && n != 0 then ['0', 'x'] else []
    let shown := c.widenNumber c.precision.isNone start (c.padDigits n (Nat.toDigits 16 n))
    if c.letter = 'X' then shown.map Char.toUpper else shown
  | _ => c.widenNumber c.precision.isNone [] (c.padDigits n (Raw.ofNat n))

/-! ### Fractions -/

/-- A magnitude with a number of digits after the point. -/
def fixedDigits (x : Binary64) (places : Nat) : Raw :=
  let n := Binary64.roundHalfEven (x.num * Nat.pow 10 places) x.den
  let shown := Raw.ofNat n
  let shown := List.replicate (places + 1 - shown.length) '0' ++ shown
  let whole := shown.take (shown.length - places)
  if places = 0 then whole else whole ++ '.' :: shown.drop whole.length

/-- The leading digits of a magnitude, and the power of ten of the first one. -/
def leadingDigits (x : Binary64) (count : Nat) : Raw × Int :=
  if x.mantissa = 0 then (List.replicate count '0', 0)
  else
    let power := x.leadingPower
    let e := power - ((count : Int) - 1)
    let n :=
      if 0 ≤ e then Binary64.roundHalfEven x.num (x.den * Nat.pow 10 e.toNat)
      else Binary64.roundHalfEven (x.num * Nat.pow 10 (-e).toNat) x.den
    let shown := Raw.ofNat n
    if count < shown.length then (shown.take count, power + 1) else (shown, power)

/-- An exponent of two digits or more. -/
def exponentText (power : Int) : Raw :=
  let shown := Raw.ofNat power.natAbs
  ['e', if power < 0 then '-' else '+'] ++ (if shown.length < 2 then '0' :: shown else shown)

/-- A magnitude with an exponent. -/
def scientific (x : Binary64) (places : Nat) : Raw :=
  let (shown, power) := leadingDigits x (places + 1)
  let rest := shown.drop 1
  shown.take 1 ++ (if rest.isEmpty then [] else '.' :: rest) ++ exponentText power

/-- A text without zeros at the end of its fraction. -/
def dropZeros (s : Raw) : Raw :=
  if s.contains '.' then
    match s.reverse.dropWhile (· == '0') with
    | '.' :: rest => rest.reverse
    | rest => rest.reverse
  else s

/-- A magnitude in the shorter notation for a number of digits. -/
def general (x : Binary64) (precision : Nat) : Raw :=
  let count := max precision 1
  let (_, power) := leadingDigits x count
  if -4 ≤ power && power < count then dropZeros (fixedDigits x (count - 1 - power).toNat)
  else
    let s := scientific x (count - 1)
    let mantissa := s.takeWhile (· != 'e')
    dropZeros mantissa ++ s.drop mantissa.length

/-- A fraction in the notation of the letter. -/
def fraction (c : Conversion) (x : Binary64) : Raw :=
  let places := c.precision.getD 6
  let shown := match c.letter.toLower with
    | 'f' => fixedDigits x places
    | 'e' => scientific x places
    | _ => general x places
  let start := if x.negative then ['-'] else c.plusSign
  let shown := c.widenNumber true start shown
  if c.letter.isUpper then shown.map Char.toUpper else shown

end Conversion

/-! ### Arguments -/

/-- The range of numbers that an argument can denote. -/
structure NumberRange where
  least : Int
  most : Int
  deriving DecidableEq, Repr

/-- What an argument denotes as a number, and what is wrong with it. A quote stands before a
character whose number is meant. -/
def numberArgument (range : NumberRange) (s : Raw) : Int × Option String :=
  match s with
  | '\'' :: rest | '"' :: rest => (((rest.head?.map Char.toNat).getD 0 : Nat), none)
  | s =>
    match Numeral.signed? s with
    | none =>
      (0, if s.isEmpty then none else some (String.ofList s ++ ": expected numeric value"))
    | some (n, rest) =>
      let shown := max range.least (min n range.most)
      (shown,
        if !rest.isEmpty then some (String.ofList s ++ ": not completely converted")
        else if shown = n then none
        else some (String.ofList s ++ ": Numerical result out of range"))

/-- A decimal fraction at the start of a text, and what follows it. -/
def fractionAt? (s : Raw) : Option (Binary64 × Raw) :=
  let (negative, s) : Bool × Raw := match s.dropWhile Raw.isSpace with
    | '-' :: rest => (true, rest)
    | '+' :: rest => (false, rest)
    | rest => (false, rest)
  let whole := s.takeWhile Char.isDigit
  let (part, s) : Raw × Raw := match s.drop whole.length with
    | '.' :: rest => (rest.takeWhile Char.isDigit, rest.dropWhile Char.isDigit)
    | rest => ([], rest)
  if whole.isEmpty && part.isEmpty then none
  else
    let (power, s) : Int × Raw := match s with
      | e :: rest =>
        if e = 'e' || e = 'E' then
          match Numeral.signed? (rest.map fun c => if Raw.isSpace c then 'x' else c) with
          | some (n, more) => (n, more)
          | none => (0, s)
        else (0, s)
      | [] => (0, s)
    let value := Binary64.ofDecimal negative (Raw.digitsValue (whole ++ part))
      (power - (part.length : Int))
    some (value.getD ⟨negative, 0, 0⟩, s)

/-- What an argument denotes as a fraction, and what is wrong with it. -/
def fractionArgument (s : Raw) : Binary64 × Option String :=
  match fractionAt? s with
  | none =>
    (⟨false, 0, 0⟩,
      if s.isEmpty then none else some (String.ofList s ++ ": expected numeric value"))
  | some (x, rest) =>
    (x, if rest.isEmpty then none else some (String.ofList s ++ ": not completely converted"))

/-! ### Formats -/

/-- What a format has come to so far: the arguments that are left, the output in reverse
order, complaints in reverse order, and whether the output has ended, perhaps by a mistake. -/
structure Printing where
  arguments : List Raw
  out : List Raw := []
  complaints : List String := []
  ended : Bool := false
  mistake : Option String := none
  deriving DecidableEq, Repr

namespace Printing

/-- Add to the output. -/
def add (p : Printing) (text : Raw) : Printing := { p with out := text :: p.out }

/-- Stop at a mistake. -/
def fail (p : Printing) (message : String) : Printing :=
  { p with ended := true, mistake := some message }

/-- Take the next argument; nothing if there is none. -/
def next (p : Printing) : Raw × Printing :=
  (p.arguments.headD [], { p with arguments := p.arguments.tail })

/-- Take note of a complaint if there is one. -/
def note (p : Printing) : Option String → Printing
  | some message => { p with complaints := message :: p.complaints }
  | none => p

/-- Take a number at the start of a format: digits, or a star for an argument. -/
def count (p : Printing) (s : Raw) : Option Int × Raw × Printing :=
  match s with
  | '*' :: rest =>
    let (a, p) := p.next
    let (n, complaint) := numberArgument ⟨-0x80000000, 0x7fffffff⟩ a
    (some n, rest, p.note complaint)
  | s =>
    let run := s.takeWhile Char.isDigit
    (if run.isEmpty then none else some (Raw.digitsValue run : Int), s.drop run.length, p)

/-- Carry out a conversion. -/
def convert (p : Printing) (c : Conversion) (directive : Raw) : Printing :=
  let (a, q) := p.next
  let cut (s : Raw) : Raw := match c.precision with
    | some n => s.take n
    | none => s
  match c.letter with
  | 's' => q.add (c.widen (cut a))
  | 'b' =>
    let (text, goesOn) := unescape (a.length + 1) a
    { q.add (c.widen (cut text)) with ended := !goesOn }
  | 'c' => q.add (c.widen [a.headD '\x00'])
  | 'd' | 'i' =>
    let (n, complaint) := numberArgument ⟨-Numeral.largest - 1, Numeral.largest⟩ a
    (q.add (c.signed n)).note complaint
  | 'o' | 'u' | 'x' | 'X' =>
    let most : Int := 0xffffffffffffffff
    let (n, complaint) := numberArgument ⟨-most, most⟩ a
    (q.add (c.unsigned (n % 0x10000000000000000).toNat)).note complaint
  | 'e' | 'E' | 'f' | 'F' | 'g' | 'G' =>
    let (x, complaint) := fractionArgument a
    (q.add (c.fraction x)).note complaint
  | _ => p.fail ("%" ++ String.ofList directive ++ ": invalid directive")

/-- Carry out the conversion after a percent sign. -/
def directive (p : Printing) (s : Raw) : Raw × Printing :=
  let flags := s.takeWhile fun c => "#-+ 0'".toList.contains c
  let (width, rest, p) := p.count (s.drop flags.length)
  let (precision, rest, p) := match rest with
    | '.' :: rest =>
      let (n, rest, p) := p.count rest
      (some (n.getD 0), rest, p)
    | rest => (none, rest, p)
  match rest with
  | [] => ([], p.fail "missing format character")
  | letter :: after =>
    let width := width.getD 0
    (after, p.convert {
      flags := if width < 0 then '-' :: flags else flags
      width := width.natAbs
      precision := (precision.filter (0 ≤ ·)).map Int.toNat
      letter := letter } (s.take (s.length - after.length)))

/-- Go through a format once. -/
def once : Nat → Raw → Printing → Printing
  | 0, _, p => p
  | _ + 1, [], p => p
  | fuel + 1, '%' :: '%' :: rest, p => once fuel rest (p.add ['%'])
  | fuel + 1, '%' :: rest, p =>
    let (rest, p) := p.directive rest
    if p.ended then p else once fuel rest p
  | fuel + 1, '\\' :: rest, p =>
    let (c, rest) := escapeSequence rest
    once fuel rest (p.add [c])
  | fuel + 1, c :: rest, p => once fuel rest (p.add [c])

/-- Go through a format until no argument is left. -/
def all (format : Raw) : Nat → Printing → Printing
  | 0, p => p
  | fuel + 1, p =>
    let q := once (format.length + 1) format p
    if q.ended || q.arguments.isEmpty || q.arguments.length = p.arguments.length then q
    else all format fuel q

end Printing

/-- What `printf` does for a format and arguments. -/
def printFormat (format : Raw) (arguments : List Raw) : Printing :=
  Printing.all format (arguments.length + 1) { arguments := arguments }

end LabLifecycle.Shell
