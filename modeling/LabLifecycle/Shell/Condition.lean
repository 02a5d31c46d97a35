import LabLifecycle.Host.Task
import LabLifecycle.Shell.Arithmetic

/-!
# Conditions

What `test` finds out: whether texts are empty or equal, how numbers compare, what stands at a
path. Short conditions are read by the number of their words; longer ones are joined by `-a`
and `-o`, negated by `!`, and grouped by parentheses.
-/
namespace LabLifecycle.Shell

/-- A word with a meaning of its own in a condition. -/
inductive Sign where
  | one (s : String)
  | two (s : String)
  | negation
  | both
  | either
  | opening
  | closing
  deriving DecidableEq, Repr

/-- The meaning of a word in a condition. -/
def Sign.of? (word : Raw) : Option Sign :=
  let s := String.ofList word
  if ["-r", "-w", "-x", "-e", "-f", "-d", "-c", "-b", "-p", "-u", "-g", "-k", "-s", "-t", "-z",
    "-n", "-h", "-O", "-G", "-L", "-S"].contains s then some (.one s)
  else if ["=", "!=", "<", ">", "-eq", "-ne", "-ge", "-gt", "-le", "-lt", "-nt", "-ot",
    "-ef"].contains s then some (.two s)
  else match s with
    | "!" => some .negation
    | "-a" => some .both
    | "-o" => some .either
    | "(" => some .opening
    | ")" => some .closing
    | _ => none

/-- Whether a sign stands between two texts. -/
def Sign.isTwo : Sign → Bool
  | two _ => true
  | _ => false

/-- What reads a condition: it knows the number of words that it has taken, and stops at a
mistake. -/
abbrev Test := StateT Nat (ExceptT String Action)

namespace Test

/-- Make a request. -/
def request (r : Request) : Test r.Answer := liftM (Action.request r)

/-- Stop at a mistake in the use of a word. -/
def fail {α : Type} (word : Raw) (message : String) : Test α :=
  throw ((if word.isEmpty then "" else String.ofList word ++ ": ") ++ message)

/-- The number that a word denotes. -/
def number (s : Raw) : Test Int :=
  match Numeral.decimal? s with
  | some n => return n
  | none => throw ("Illegal number: " ++ String.ofList s)

/-- A condition on what stands at a path. -/
def file (sign : String) (path : Raw) : Test Bool := do
  let followed := sign != "-h" && sign != "-L"
  match ← request (.info path followed) with
  | .error _ => return false
  | .ok i =>
    match sign with
    | "-f" => return i.kind == .file
    | "-d" => return i.kind == .directory
    | "-p" => return i.kind == .pipe
    | "-c" => return i.kind == .device
    | "-h" | "-L" => return i.kind == .link
    | "-s" => return 0 < i.size
    | "-x" => return i.kind == .directory || FileTree.hasExecuteBit i.mode
    | "-b" | "-u" | "-g" | "-k" | "-S" => return false
    | _ => return true

/-- A condition on one text. -/
def one (sign : String) (a : Raw) : Test Bool :=
  match sign with
  | "-n" => return !a.isEmpty
  | "-z" => return a.isEmpty
  | "-t" => do
    let _ ← number a
    return false
  | _ => file sign a

/-- Whether two paths lead to the same place. -/
def same (a b : Raw) : Test Bool := do
  match ← request (.info a true), ← request (.info b true) with
  | .ok x, .ok y => return x.place.isSome && x.place == y.place
  | _, _ => return false

/-- A condition on two texts. -/
def two (sign : String) (a b : Raw) : Test Bool := do
  let numbers (holds : Int → Int → Bool) : Test Bool := do
    let x ← number a
    let y ← number b
    return holds x y
  match sign with
  | "=" => return a == b
  | "!=" => return a != b
  | "<" => return decide (a < b)
  | ">" => return decide (b < a)
  | "-eq" => numbers (· == ·)
  | "-ne" => numbers (· != ·)
  | "-lt" => numbers fun x y => x < y
  | "-le" => numbers fun x y => x ≤ y
  | "-gt" => numbers fun x y => y < x
  | "-ge" => numbers fun x y => y ≤ x
  | "-ef" => same a b
  | _ => return false

section
variable (words : List Raw)

/-- What a word means where it stands. A sign for one text is a text itself if a sign for two
comes next but one, or nothing comes next; so is a parenthesis that comes last. -/
def signAt (n : Nat) : Option Sign :=
  match words[n]? with
  | none => none
  | some w =>
    match Sign.of? w with
    | some (.one s) =>
      match words[n + 1]?, words[n + 2]? with
      | none, _ => none
      | some _, none => some (.one s)
      | some next, some _ => if (Sign.of? next).any Sign.isTwo then none else some (.one s)
    | some .opening => if (words[n + 1]?).isSome then some .opening else none
    | s => s

mutual

/-- A condition that consists of alternatives. -/
def alternatives : Nat → Bool → Test Bool
  | 0, found => return found
  | fuel + 1, found => do
    let r ← conjunctions fuel true
    let n ← get
    if signAt words (n + 1) = some Sign.either then
      set (n + 2)
      alternatives fuel (found || r)
    else return found || r

/-- A condition that consists of conditions that all have to hold. -/
def conjunctions : Nat → Bool → Test Bool
  | 0, found => return found
  | fuel + 1, found => do
    let r ← negations fuel
    let n ← get
    if signAt words (n + 1) = some Sign.both then
      set (n + 2)
      conjunctions fuel (found && r)
    else return found && r

/-- A condition that may be negated. -/
def negations : Nat → Test Bool
  | 0 => return false
  | fuel + 1 => do
    let n ← get
    if signAt words n = some Sign.negation then
      if (words[n + 1]?).isSome then
        set (n + 1)
        return !(← negations fuel)
      else return true
    else single fuel

/-- A condition that is not joined from others. -/
def single : Nat → Test Bool
  | 0 => return false
  | fuel + 1 => do
    let n ← get
    match signAt words n, words[n]? with
    | _, none => return false
    | some .opening, _ =>
      set (n + 1)
      if signAt words (n + 1) = some Sign.closing then return false
      else
        let r ← alternatives fuel false
        let n ← get
        set (n + 1)
        if signAt words (n + 1) = some Sign.closing then return r
        else fail [] "closing paren expected"
    | some (.one s), some word =>
      set (n + 1)
      match words[n + 1]? with
      | some a => one s a
      | none => fail word "argument expected"
    | _, some a =>
      match signAt words (n + 1), words[n + 1]? with
      | some (.two s), some word =>
        set (n + 2)
        match words[n + 2]? with
        | some b => two s a b
        | none => fail word "argument expected"
      | _, _ => return !a.isEmpty

end

/-- A condition as a whole, after which nothing may come. -/
def whole (start : Option Sign) : Test Bool := do
  let r ← match start, words with
    | some (.two s), a :: _ :: b :: _ => do
      set 2
      two s a b
    | _, _ => alternatives words (4 * words.length + 4) false
  let n ← get
  match words[n]?, words[n + 1]? with
  | some w, some _ => fail w "unexpected operator"
  | _, _ => return r

end

/-- Find out whether a condition holds. -/
def holds : Nat → List Raw → Test Bool
  | 0, _ => return false
  | _ + 1, [] => return false
  | fuel + 1, words => do
    let middle := match words with
      | [_, w, _] => (Sign.of? w).filter Sign.isTwo
      | _ => none
    let isShort := words.length = 3 || words.length = 4
    if middle.isSome then whole words middle
    else if isShort && words.head? = some ['('] && words.getLast? = some [')'] then
      whole words.tail.dropLast none
    else if isShort && words.head? = some ['!'] then return !(← holds fuel words.tail)
    else whole words none

end Test

/-- The status of `test` for some words, or what is wrong with them. -/
def testStatus (words : List Raw) : Action (Except String Nat) := do
  match ← ((Test.holds (words.length + 1) words).run 0).run with
  | .ok (r, _) => return .ok (if r then 0 else 1)
  | .error message => return .error message

/-- The status of `[`, whose last word has to be the closing bracket. -/
def bracketStatus (words : List Raw) : Action (Except String Nat) :=
  if words.getLast? = some [']'] then testStatus words.dropLast
  else pure (.error "missing ]")

end LabLifecycle.Shell
