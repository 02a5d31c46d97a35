import LabLifecycle.Shell.Grammar

/-!
# Arithmetic of the shell

Expressions over integers of 64 bits, which wrap around, with the operators, precedences and
notations of numbers that the shell has. A name stands for the number in its variable;
assignments change variables. An expression is read as a whole before it is evaluated.
-/
namespace LabLifecycle.Shell

/-- Operators between two numbers. -/
inductive Operator where
  | times | divide | modulo | plus | minus | left | right
  | less | atMost | more | atLeast | equal | different
  | bitAnd | bitXor | bitOr
  deriving DecidableEq, Repr

/-- An expression. -/
inductive Formula where
  | number (n : Int64)
  | parameter (name : Raw)
  | negative (e : Formula)
  | complement (e : Formula)
  | negation (e : Formula)
  | binary (o : Operator) (a b : Formula)
  | both (a b : Formula)
  | either (a b : Formula)
  | choice (condition yes no : Formula)
  | assign (name : Raw) (o : Option Operator) (e : Formula)
  deriving Repr

/-- A token of an expression. -/
inductive FormulaToken where
  | number (n : Int64)
  | name (s : Raw)
  | operator (o : Operator)
  | assign (o : Option Operator)
  | mark (s : String)
  deriving DecidableEq, Repr

/-- Why an expression has no value. -/
inductive FormulaError where
  | primaryExpected
  | endExpected
  | closingExpected
  | colonExpected
  | division
  | illegal (text : Raw)
  deriving DecidableEq, Repr

/-- What is wrong with the expression of a text. -/
def FormulaError.message (text : Raw) : FormulaError → String
  | illegal number => "Illegal number: " ++ String.ofList number
  | e =>
    let reason := match e with
      | primaryExpected => "expecting primary"
      | endExpected => "expecting EOF"
      | closingExpected => "expecting ')'"
      | colonExpected => "expecting ':'"
      | _ => "division by zero"
    "arithmetic expression: " ++ reason ++ ": \"" ++ String.ofList text ++ "\""

/-! ### Numbers -/

namespace Numeral

/-- The value of a digit in a base, if it is one there. -/
def digitValue? (base : Nat) (c : Char) : Option Nat :=
  let value :=
    if c.isDigit then c.toNat - '0'.toNat
    else if 'a' ≤ c && c ≤ 'z' then c.toNat - 'a'.toNat + 10
    else if 'A' ≤ c && c ≤ 'Z' then c.toNat - 'A'.toNat + 10
    else base
  if value < base then some value else none

/-- The number that digits of a base denote at the start of a text, and what follows them. -/
def digits (base : Nat) (s : Raw) : Nat × Raw :=
  let run := s.takeWhile fun c => (digitValue? base c).isSome
  (run.foldl (fun n c => n * base + (digitValue? base c).getD 0) 0, s.drop run.length)

/-- The number at the start of a text, without a sign, and what follows it: hexadecimal after
`0x`, octal after another zero. -/
def natural? (s : Raw) : Option (Nat × Raw) :=
  match s with
  | '0' :: x :: d :: rest =>
    if (x = 'x' || x = 'X') && (digitValue? 16 d).isSome then some (digits 16 (d :: rest))
    else some (digits 8 s)
  | c :: _ => if c = '0' then some (digits 8 s) else if c.isDigit then some (digits 10 s) else none
  | [] => none

/-- The largest number. -/
def largest : Int := 0x7fffffffffffffff

/-- The number at the start of a text, after white space and perhaps a sign, and what follows
it. -/
def signed? (s : Raw) : Option (Int × Raw) :=
  match s.dropWhile Raw.isSpace with
  | '-' :: rest => (natural? rest).map fun (n, r) => (-(n : Int), r)
  | '+' :: rest => (natural? rest).map fun (n, r) => ((n : Int), r)
  | rest => (natural? rest).map fun (n, r) => ((n : Int), r)

/-- The number that a text denotes, white space around it aside; no text at all denotes zero. -/
def value? (s : Raw) : Option Int :=
  match signed? s with
  | some (n, rest) =>
    if rest.all Raw.isSpace && -largest - 1 ≤ n && n ≤ largest then some n else none
  | none => if s.all Raw.isSpace then some 0 else none

/-- The number that decimal digits denote, with white space around them and perhaps a sign. -/
def decimal? (s : Raw) : Option Int :=
  let (negative, rest) : Bool × Raw := match s.dropWhile Raw.isSpace with
    | '-' :: rest => (true, rest)
    | '+' :: rest => (false, rest)
    | rest => (false, rest)
  let run := rest.takeWhile Char.isDigit
  let n : Int := if negative then -(Raw.digitsValue run : Int) else Raw.digitsValue run
  if run.isEmpty || !(rest.drop run.length).all Raw.isSpace || n < -largest - 1 || largest < n then
    none
  else some n

end Numeral

/-! ### Reading -/

/-- The operators by how they are written, longer ones first. -/
def operatorMarks : List (String × FormulaToken) := [
  ("<<=", .assign (some .left)), (">>=", .assign (some .right)),
  ("<<", .operator .left), (">>", .operator .right), ("<=", .operator .atMost),
  (">=", .operator .atLeast), ("==", .operator .equal), ("!=", .operator .different),
  ("&&", .mark "&&"), ("||", .mark "||"), ("*=", .assign (some .times)),
  ("/=", .assign (some .divide)), ("%=", .assign (some .modulo)), ("+=", .assign (some .plus)),
  ("-=", .assign (some .minus)), ("&=", .assign (some .bitAnd)), ("^=", .assign (some .bitXor)),
  ("|=", .assign (some .bitOr)), ("=", .assign none), ("<", .operator .less),
  (">", .operator .more), ("*", .operator .times), ("/", .operator .divide),
  ("%", .operator .modulo), ("+", .operator .plus), ("-", .operator .minus),
  ("&", .operator .bitAnd), ("^", .operator .bitXor), ("|", .operator .bitOr),
  ("!", .mark "!"), ("~", .mark "~"), ("(", .mark "("), (")", .mark ")"), ("?", .mark "?"),
  (":", .mark ":")]

/-- The tokens of an expression. A character that starts none is a mark that fits nowhere. -/
def formulaTokens : Nat → Raw → List FormulaToken
  | 0, _ => []
  | fuel + 1, s =>
    match s.dropWhile Raw.isBlank with
    | [] => []
    | c :: rest =>
      if c.isDigit then
        match Numeral.natural? (c :: rest) with
        | some (n, rest) => .number (Int64.ofInt (min n Numeral.largest)) :: formulaTokens fuel rest
        | none => []
      else if isNameStart c then
        let name := (c :: rest).takeWhile isNameChar
        .name name :: formulaTokens fuel ((c :: rest).drop name.length)
      else
        match operatorMarks.find? fun m => m.1.toList.isPrefixOf (c :: rest) with
        | some (mark, t) => t :: formulaTokens fuel ((c :: rest).drop mark.length)
        | none => .mark "" :: formulaTokens fuel rest

/-- How loosely an operator binds. -/
def Operator.level : Operator → Nat
  | times | divide | modulo => 0
  | plus | minus => 1
  | left | right => 2
  | less | atMost | more | atLeast => 3
  | equal | different => 4
  | bitAnd => 5
  | bitXor => 6
  | bitOr => 7

/-- What reads an expression at the start of a list of tokens. -/
abbrev FormulaReader := List FormulaToken → Except FormulaError (Formula × List FormulaToken)

namespace FormulaReader

/-- The operand of an operator, with the signs before it. -/
def primary (inner : FormulaReader) : FormulaReader
  | .number n :: rest => .ok (.number n, rest)
  | .name s :: rest => .ok (.parameter s, rest)
  | .operator .plus :: rest => primary inner rest
  | .operator .minus :: rest => do
    let (e, rest) ← primary inner rest
    return (.negative e, rest)
  | .mark "!" :: rest => do
    let (e, rest) ← primary inner rest
    return (.negation e, rest)
  | .mark "~" :: rest => do
    let (e, rest) ← primary inner rest
    return (.complement e, rest)
  | .mark "(" :: rest => do
    let (e, rest) ← inner rest
    match rest with
    | .mark ")" :: rest => return (e, rest)
    | _ => throw .closingExpected
  | _ => throw .primaryExpected

/-- Operands joined by operators of one level, after the first of them. -/
def operands (level : Nat) (operand : FormulaReader) : Nat → Formula → FormulaReader
  | 0, a, rest => .ok (a, rest)
  | fuel + 1, a, .operator o :: rest =>
    if o.level = level then do
      let (b, rest) ← operand rest
      operands level operand fuel (.binary o a b) rest
    else .ok (a, .operator o :: rest)
  | _ + 1, a, rest => .ok (a, rest)

/-- Operands joined by operators below a level. -/
def binary (inner : FormulaReader) : Nat → FormulaReader
  | 0, tokens => primary inner tokens
  | level + 1, tokens => do
    let (a, rest) ← binary inner level tokens
    operands level (binary inner level) tokens.length a rest

/-- Conditions that all have to hold. -/
def conjunction (inner : FormulaReader) : Nat → FormulaReader
  | 0, tokens => binary inner 8 tokens
  | fuel + 1, tokens => do
    let (a, rest) ← binary inner 8 tokens
    match rest with
    | .mark "&&" :: rest =>
      let (b, rest) ← conjunction inner fuel rest
      return (.both a b, rest)
    | rest => return (a, rest)

/-- Conditions of which one has to hold. -/
def disjunction (inner : FormulaReader) : Nat → FormulaReader
  | 0, tokens => conjunction inner tokens.length tokens
  | fuel + 1, tokens => do
    let (a, rest) ← conjunction inner tokens.length tokens
    match rest with
    | .mark "||" :: rest =>
      let (b, rest) ← disjunction inner fuel rest
      return (.either a b, rest)
    | rest => return (a, rest)

/-- A choice between two values, or a value. -/
def alternative (inner : FormulaReader) : Nat → FormulaReader
  | 0, tokens => disjunction inner tokens.length tokens
  | fuel + 1, tokens => do
    let (a, rest) ← disjunction inner tokens.length tokens
    match rest with
    | .mark "?" :: rest =>
      let (b, rest) ← inner rest
      match rest with
      | .mark ":" :: rest =>
        let (c, rest) ← alternative inner fuel rest
        return (.choice a b c, rest)
      | _ => throw .colonExpected
    | rest => return (a, rest)

/-- An assignment, or a value. -/
def assignment : Nat → FormulaReader
  | 0, _ => .error .primaryExpected
  | fuel + 1, .name s :: .assign o :: rest => do
    let (e, rest) ← assignment fuel rest
    return (.assign s o e, rest)
  | fuel + 1, tokens => alternative (assignment fuel) tokens.length tokens

end FormulaReader

/-- The expression of a text. -/
def Formula.read (text : Raw) : Except FormulaError Formula := do
  let tokens := formulaTokens (text.length + 1) text
  match ← FormulaReader.assignment (tokens.length + 1) tokens with
  | (e, []) => return e
  | _ => throw .endExpected

/-! ### Evaluation -/

/-- A number for a truth value. -/
def truthNumber (b : Bool) : Int64 := if b then 1 else 0

/-- What an operator yields. -/
def Operator.apply (o : Operator) (a b : Int64) : Except FormulaError Int64 :=
  match o with
  | times => .ok (a * b)
  | divide => if b = 0 then .error .division else .ok (a / b)
  | modulo => if b = 0 then .error .division else .ok (a % b)
  | plus => .ok (a + b)
  | minus => .ok (a - b)
  | left => .ok (a <<< b)
  | right => .ok (a >>> b)
  | less => .ok (truthNumber (a < b))
  | atMost => .ok (truthNumber (a ≤ b))
  | more => .ok (truthNumber (b < a))
  | atLeast => .ok (truthNumber (b ≤ a))
  | equal => .ok (truthNumber (a == b))
  | different => .ok (truthNumber (a != b))
  | bitAnd => .ok (a &&& b)
  | bitXor => .ok (a ^^^ b)
  | bitOr => .ok (a ||| b)

/-- The values of variables, as far as they matter, and those that were assigned. -/
structure FormulaVariables where
  value : Raw → Raw
  assigned : List (Raw × Raw) := []

/-- The number in a variable. -/
def FormulaVariables.number (v : FormulaVariables) (name : Raw) : Except FormulaError Int64 :=
  let text := (v.assigned.lookup name).getD (v.value name)
  match Numeral.value? text with
  | some n => .ok (Int64.ofInt n)
  | none => .error (.illegal text)

/-- What evaluation uses: variables, and errors. -/
abbrev Evaluation := StateT FormulaVariables (Except FormulaError)

/-- The value of an expression. Operands that do not matter are not evaluated. -/
def Formula.evaluate : Formula → Evaluation Int64
  | number n => return n
  | parameter name => do (← get).number name
  | negative e => return -(← e.evaluate)
  | complement e => return ~~~(← e.evaluate)
  | negation e => return truthNumber ((← e.evaluate) == 0)
  | binary o a b => do
    let x ← a.evaluate
    let y ← b.evaluate
    o.apply x y
  | both a b => do
    let x ← a.evaluate
    if x == 0 then return 0 else return truthNumber ((← b.evaluate) != 0)
  | either a b => do
    let x ← a.evaluate
    if x != 0 then return 1 else return truthNumber ((← b.evaluate) != 0)
  | choice c a b => do
    let x ← c.evaluate
    if x != 0 then a.evaluate else b.evaluate
  | assign name o e => do
    let y ← e.evaluate
    let result ← match o with
      | none => pure y
      | some o => do
        let x ← (← get).number name
        o.apply x y
    modify fun v => { v with assigned := (name, Raw.ofInt result.toInt) :: v.assigned }
    return result

end LabLifecycle.Shell
