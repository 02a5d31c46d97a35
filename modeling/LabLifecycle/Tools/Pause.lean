import LabLifecycle.Tools.Options

/-!
# Waiting for a while

`sleep` waits for as long as the times that it is given take together. A time is a decimal
number, perhaps with a power of ten, and a letter for its unit: seconds if there is none.
-/
namespace LabLifecycle.Pause

/-- A time in nanoseconds, or one that never ends. -/
inductive Length where
  | nanos (n : Nat)
  | endless
  deriving DecidableEq, Repr

/-- One time after another. -/
def Length.plus : Length → Length → Length
  | nanos a, nanos b => nanos (a + b)
  | _, _ => endless

/-- The number of seconds in a unit. -/
def unitSeconds? : Raw → Option Nat
  | [] | ['s'] => some 1
  | ['m'] => some 60
  | ['h'] => some 3600
  | ['d'] => some 86400
  | _ => none

/-- The greatest power of ten that is told apart from greater ones. -/
def powerLimit : Nat := 40

/-- The power of ten at the start of a text, and what follows it. -/
def power (s : Raw) : Int × Raw :=
  let signed (sign : Int) (rest all : Raw) : Int × Raw :=
    let digits := rest.takeWhile Char.isDigit
    if digits.isEmpty then (0, all)
    else (sign * (min powerLimit (Raw.digitsValue digits) : Nat), rest.drop digits.length)
  match s with
  | 'e' :: '-' :: rest | 'E' :: '-' :: rest => signed (-1) rest s
  | 'e' :: '+' :: rest | 'E' :: '+' :: rest => signed 1 rest s
  | 'e' :: rest | 'E' :: rest => signed 1 rest s
  | s => (0, s)

/-- A part of a number rounded up. -/
def quotientUp (n d : Nat) : Nat := (n + d - 1) / d

/-- The nanoseconds of digits that count some power of ten of some units. -/
def nanosOf (digits : Raw) (exponent : Int) (seconds : Nat) : Length :=
  let n := Raw.digitsValue digits * seconds
  let exponent := exponent + 9
  if n = 0 then .nanos 0
  else if 0 ≤ exponent then .nanos (n * Nat.pow 10 exponent.toNat)
  else .nanos (quotientUp n (Nat.pow 10 (min 400 (-exponent).toNat)))

/-- The time that a text stands for. -/
def length? (s : Raw) : Option Length :=
  let s := s.dropWhile Raw.isSpace
  let s := match s with
    | '+' :: rest => rest
    | s => s
  let word := s.map Char.toLower
  if "infinity".toList.isPrefixOf word then
    (unitSeconds? (s.drop 8)).map fun _ => .endless
  else if "inf".toList.isPrefixOf word then (unitSeconds? (s.drop 3)).map fun _ => .endless
  else
    let whole := s.takeWhile Char.isDigit
    let rest := s.drop whole.length
    let (fraction, rest) := match rest with
      | '.' :: more =>
        let fraction := more.takeWhile Char.isDigit
        if whole.isEmpty && fraction.isEmpty then ([], rest)
        else (fraction, more.drop fraction.length)
      | rest => ([], rest)
    if whole.isEmpty && fraction.isEmpty then none
    else
      let (exponent, rest) := power rest
      (unitSeconds? rest).map (nanosOf (whole ++ fraction) (exponent - fraction.length))

/-- The program. -/
def program : Program := fun words _ => Action.task do
  let name := words.headD []
  match Arguments.ofWords [] words.tail with
  | .error fault =>
    Action.blameArguments name fault.message
    return 1
  | .ok a =>
    if a.operands.isEmpty then
      Action.blameArguments name "missing operand"
      return 1
    else
      let wrong := a.operands.filter fun w => (length? w).isNone
      wrong.forM fun w =>
        Action.blame name ("invalid time interval '" ++ String.ofList w ++ "'")
      if !wrong.isEmpty then
        Action.complain ("Try '".toList ++ name ++ " --help' for more information.\n".toList)
        return 1
      else
        let total := (a.operands.filterMap length?).foldl Length.plus (Length.nanos 0)
        match total with
        | .nanos n =>
          Action.request (.sleep n)
          return 0
        | .endless =>
          Action.loop (fun _ => do
            Action.request (.sleep (Nat.pow 10 18))
            return .inl ()) ()

end LabLifecycle.Pause
