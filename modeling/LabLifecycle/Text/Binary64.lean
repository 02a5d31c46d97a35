import LabLifecycle.Text.Bytes

/-!
# Floating-point numbers

Finite binary numbers of 53 significant bits, in exact integer arithmetic. `ofRatio`
rounds a quotient to the nearest one (ties to even), products and quotients round the
exact result, and `shortest` finds the decimal of fewest digits that rounds back.
-/
namespace LabLifecycle

/-- The number `± mantissa * 2 ^ exponent`. -/
structure Binary64 where
  negative : Bool
  mantissa : Nat
  exponent : Int
  deriving DecidableEq, Repr

namespace Binary64

/-- The integer nearest to `num / den`, the even one of two. -/
def roundHalfEven (num den : Nat) : Nat :=
  let q := num / den
  let r := num % den
  if 2 * r < den then q
  else if den < 2 * r then q + 1
  else if q % 2 = 0 then q else q + 1

/-- Whether `den * 2 ^ e ≤ num`. -/
def reaches (num den : Nat) (e : Int) : Bool :=
  if 0 ≤ e then den * Nat.pow 2 e.toNat ≤ num else den ≤ num * Nat.pow 2 (-e).toNat

/-- The number nearest to `± num / den`, or nothing when it is too large. -/
def ofRatio (negative : Bool) (num den : Nat) : Option Binary64 :=
  if num = 0 then some ⟨negative, 0, -1074⟩
  else
    let width : Int := (num.log2 : Int) - (den.log2 : Int)
    let lead := if reaches num den width then width else width - 1
    let e := max (lead - 52) (-1074)
    let m := if 0 ≤ e then roundHalfEven num (den * Nat.pow 2 e.toNat)
      else roundHalfEven (num * Nat.pow 2 (-e).toNat) den
    let (m, e) := if m = 0x20000000000000 then (0x10000000000000, e + 1) else (m, e)
    if 971 < e then none else some ⟨negative, m, e⟩

/-- Numerator of the magnitude. -/
def num (x : Binary64) : Nat :=
  if 0 ≤ x.exponent then x.mantissa * Nat.pow 2 x.exponent.toNat else x.mantissa

/-- Denominator of the magnitude. -/
def den (x : Binary64) : Nat := if 0 ≤ x.exponent then 1 else Nat.pow 2 (-x.exponent).toNat

/-- The rounded product, or nothing when it is too large. -/
def mul (x y : Binary64) : Option Binary64 :=
  ofRatio (x.negative != y.negative) (x.num * y.num) (x.den * y.den)

/-- The rounded quotient by a number other than zero, or nothing when it is too large. -/
def div (x y : Binary64) : Option Binary64 :=
  ofRatio (x.negative != y.negative) (x.num * y.den) (x.den * y.num)

/-- The number nearest to `± digits * 10 ^ exponent`, or nothing when it is too large. -/
def ofDecimal (negative : Bool) (digits : Nat) (exponent : Int) : Option Binary64 :=
  if 0 ≤ exponent then ofRatio negative (digits * Nat.pow 10 exponent.toNat) 1
  else ofRatio negative digits (Nat.pow 10 (-exponent).toNat)

/-- The number nearest to a power of ten below `10 ^ 309`. -/
def powerOfTen (k : Nat) : Binary64 := (ofRatio false (Nat.pow 10 k) 1).getD ⟨false, 0, -1074⟩

/-- The power of ten of the leading digit of `num / den`, for a quotient below one:
`- steps - 1` with the fewest steps. -/
def leadingBelowOne : Nat → Nat → Nat → Int
  | 0, _, _ => 0
  | fuel + 1, num, den =>
    if den ≤ num * 10 then -1 else leadingBelowOne fuel (num * 10) den - 1

/-- The power of ten of the leading digit of a magnitude other than zero. -/
def leadingPower (x : Binary64) : Int :=
  if x.den ≤ x.num then ((Nat.toDigits 10 (x.num / x.den)).length : Int) - 1
  else leadingBelowOne 400 x.num x.den

/-- Whether `digits * 10 ^ exponent` rounds to the magnitude. -/
def roundsTo (x : Binary64) (digits : Nat) (exponent : Int) : Bool :=
  match ofDecimal x.negative digits exponent with
  | some y => y == x
  | none => false

/-- The better of the two decimals with `precision` digits around a magnitude among
those that round to it. -/
def decimalOf (x : Binary64) (precision : Nat) : Option (Nat × Int) :=
  let e := x.leadingPower - ((precision : Int) - 1)
  let num := if 0 ≤ e then x.num else x.num * Nat.pow 10 (-e).toNat
  let den := if 0 ≤ e then x.den * Nat.pow 10 e.toNat else x.den
  let low := num / den
  let rest := num % den
  let nearHigh := den < 2 * rest || (den == 2 * rest && low % 2 == 1)
  match x.roundsTo low e, x.roundsTo (low + 1) e with
  | true, true => some (if nearHigh then low + 1 else low, e)
  | true, false => some (low, e)
  | false, true => some (low + 1, e)
  | false, false => none

/-- The decimal of fewest digits from `precision` on, with `fuel` more to try. -/
def shortestFrom (x : Binary64) : Nat → Nat → Nat × Int
  | 0, _ => (0, 0)
  | fuel + 1, precision =>
    match x.decimalOf precision with
    | some d => d
    | none => shortestFrom x fuel (precision + 1)

/-- The digits of the decimal of fewest digits that rounds to a magnitude other than
zero, and the power of ten of the first of them. -/
def shortest (x : Binary64) : List Char × Int :=
  let (digits, e) := x.shortestFrom 17 1
  let all := Nat.toDigits 10 digits
  let kept := (all.reverse.dropWhile (· == '0')).reverse
  (kept, e + (all.length : Int) - 1)

/-- Plain decimal notation of digits whose first one stands for `10 ^ power`. -/
def plain (digits : List Char) (power : Int) : List Char :=
  if 0 ≤ power then
    let whole := power.toNat + 1
    if digits.length ≤ whole then digits ++ List.replicate (whole - digits.length) '0'
    else digits.take whole ++ '.' :: digits.drop whole
  else ['0', '.'] ++ List.replicate ((-power).toNat - 1) '0' ++ digits

/-- The sign before a magnitude. -/
def sign (x : Binary64) : List Char := if x.negative then ['-'] else []

/-- Plain decimal notation, without a point for a whole number. -/
def display (x : Binary64) : String :=
  String.ofList <| x.sign ++
    (if x.mantissa = 0 then ['0'] else let (digits, power) := x.shortest; plain digits power)

/-- Whether a decimal text has no point. -/
def isWhole (text : List Char) : Bool := !text.contains '.'

/-- Decimal notation that always shows a point: plain. -/
def pointed (x : Binary64) : String :=
  let text := x.display
  if isWhole text.toList then text ++ ".0" else text

/-- Decimal notation that always shows a point or an exponent: plain from `1e-5` up to
`1e16`, scientific outside. -/
def pointedOrScientific (x : Binary64) : String :=
  if x.mantissa = 0 then String.ofList (x.sign ++ ['0', '.', '0'])
  else
    let (digits, power) := x.shortest
    if -5 ≤ power && power < 16 then x.pointed
    else
      let rest := digits.drop 1
      let e := if power < 0 then "e-" ++ toString (-power) else "e+" ++ toString power
      String.ofList (x.sign ++ digits.take 1 ++ (if rest.isEmpty then [] else '.' :: rest)) ++ e

end Binary64
end LabLifecycle
