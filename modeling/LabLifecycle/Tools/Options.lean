import LabLifecycle.Host.Task

/-!
# Options of tools

Tools read their options alike: letters after a dash, several of them together if need be,
and names after two dashes, which can be cut short as long as they stay clear. Options and
other arguments can be mixed, up to two dashes alone. A name that is set apart by an equals
sign, the rest of a group of letters, or the next argument is an option's value.
-/
namespace LabLifecycle

/-- Whether an option has a value. -/
inductive ValueNeed where
  | none
  | possible
  | needed
  deriving DecidableEq, Repr

/-- An option that a tool knows: a letter, names, and whether it has a value. The letter is
what the option is known by; it need not be one that can be written. -/
structure OptionRule where
  letter : Char
  names : List String := []
  value : ValueNeed := .none
  lettered : Bool := true
  deriving DecidableEq, Repr

/-- An option that is set, with its value. -/
abbrev OptionSet := Char × Option Raw

/-- What is wrong with options. -/
inductive OptionFault where
  | unknownLetter (c : Char)
  | unknownName (argument : Raw)
  | unclear (argument : Raw) (names : List String)
  | missingFor (c : Char)
  | missingForName (name : String)
  | unwanted (name : String)
  deriving DecidableEq, Repr

/-- The wording of what is wrong with options. -/
def OptionFault.message : OptionFault → String
  | unknownLetter c => "invalid option -- '" ++ c.toString ++ "'"
  | unknownName argument => "unrecognized option '" ++ String.ofList argument ++ "'"
  | unclear argument names =>
    "option '" ++ String.ofList argument ++ "' is ambiguous; possibilities:" ++
      String.join (names.map fun n => " '--" ++ n ++ "'")
  | missingFor c => "option requires an argument -- '" ++ c.toString ++ "'"
  | missingForName name => "option '--" ++ name ++ "' requires an argument"
  | unwanted name => "option '--" ++ name ++ "' doesn't allow an argument"

/-- The options and the other arguments of a tool. -/
structure Arguments where
  options : List OptionSet := []
  operands : List Raw := []
  deriving DecidableEq, Repr

namespace OptionRule

/-- The rule of a name, perhaps cut short, with its whole name. -/
def named (rules : List OptionRule) (argument name : Raw) :
    Except OptionFault (OptionRule × String) :=
  let all := rules.flatMap fun r => r.names.map fun n => (r, n)
  match all.find? (·.2.toList == name) with
  | some found => .ok found
  | none =>
    match all.filter fun f => name.isPrefixOf f.2.toList with
    | [] => .error (.unknownName argument)
    | found :: others =>
      if others.all (·.1 == found.1) then .ok found
      else .error (.unclear argument ((found :: others).map (·.2)))

/-- The options in a group of letters, and the arguments after it. -/
def group (rules : List OptionRule) (rest : List Raw) :
    Raw → Except OptionFault (List OptionSet × List Raw)
  | [] => .ok ([], rest)
  | c :: letters =>
    match rules.find? fun r => r.lettered && r.letter == c with
    | none => .error (.unknownLetter c)
    | some r =>
      match r.value with
      | .none => do
        let (options, rest) ← group rules rest letters
        return ((c, none) :: options, rest)
      | .possible => .ok ([(c, if letters.isEmpty then none else some letters)], rest)
      | .needed =>
        if !letters.isEmpty then .ok ([(c, some letters)], rest)
        else match rest with
          | value :: rest => .ok ([(c, some value)], rest)
          | [] => .error (.missingFor c)

/-- The option in an argument with two dashes, and the arguments after it. -/
def long (rules : List OptionRule) (rest : List Raw) (body : Raw) :
    Except OptionFault (OptionSet × List Raw) := do
  let (name, value) := match Raw.cut? '=' body with
    | some (name, value) => (name, some value)
    | none => (body, none)
  let (r, whole) ← named rules ('-' :: '-' :: (if value.isSome then name else body)) name
  match r.value, value with
  | .none, some _ => throw (.unwanted whole)
  | .needed, none =>
    match rest with
    | value :: rest => return ((r.letter, some value), rest)
    | [] => throw (.missingForName whole)
  | _, value => return ((r.letter, value), rest)

/-- Tell options and other arguments apart. If they cannot be mixed, the first argument that
is no option ends the options. -/
def read (rules : List OptionRule) (mixed : Bool) :
    Nat → List Raw → Arguments → Except OptionFault Arguments
  | 0, _, a => .ok a
  | fuel + 1, words, a =>
    match words with
    | [] => .ok a
    | ['-', '-'] :: rest => .ok { a with operands := a.operands ++ rest }
    | ('-' :: '-' :: body) :: rest => do
      let (o, rest) ← long rules rest body
      read rules mixed fuel rest { a with options := a.options ++ [o] }
    | ('-' :: c :: letters) :: rest => do
      let (found, rest) ← group rules rest (c :: letters)
      read rules mixed fuel rest { a with options := a.options ++ found }
    | word :: rest =>
      if mixed then read rules mixed fuel rest { a with operands := a.operands ++ [word] }
      else .ok { a with operands := a.operands ++ word :: rest }

end OptionRule

/-- Tell the options of a tool and its other arguments apart. -/
def Arguments.ofWords (rules : List OptionRule) (words : List Raw) (mixed : Bool := true) :
    Except OptionFault Arguments :=
  OptionRule.read rules mixed (words.length + 1) words {}

namespace Arguments

/-- Whether an option is set. -/
def has (a : Arguments) (letter : Char) : Bool := a.options.any (·.1 == letter)

end Arguments

/-! ### What tools say -/

/-- A character that a file name is not put into quotes for. -/
def isSafeInName (c : Char) : Bool :=
  c.isAlphanum || "%+,-./@]_\x7b\x7d#~".toList.contains c

/-- A character of a file name that can stand between double quotes. -/
def isSafeInQuotes (c : Char) : Bool := isSafeInName c || c == ' ' || c == ':' || c == '\''

/-- A character that cannot be seen, by its letter or its octal number. -/
def hiddenCharacter (c : Char) : Raw :=
  match c.toNat with
  | 7 => ['\\', 'a']
  | 8 => ['\\', 'b']
  | 9 => ['\\', 't']
  | 10 => ['\\', 'n']
  | 11 => ['\\', 'v']
  | 12 => ['\\', 'f']
  | 13 => ['\\', 'r']
  | n => '\\' :: [n / 64, n / 8 % 8, n % 8].map Nat.digitChar

/-- A file name between single quotes, as a shell would read it. The flag says that the
characters before were written by their numbers. -/
def quotedCharacters : Bool → Raw → Raw
  | _, [] => ['\'']
  | numbered, c :: rest =>
    if c < ' ' || '~' < c then
      (if numbered then [] else ['\'', '$', '\'']) ++ hiddenCharacter c ++
        quotedCharacters true rest
    else
      (if numbered then ['\'', '\''] else []) ++
        (if c = '\'' then ['\'', '\\', '\'', '\''] else [c]) ++ quotedCharacters false rest

/-- A file name in a message: in quotes if a shell would need them. -/
def quotedName (name : Raw) : Raw :=
  let startsOddly := match name with
    | '#' :: _ | '~' :: _ => true
    | ['{'] | ['}'] | [] => true
    | _ => false
  if !startsOddly && name.all isSafeInName then name
  else if name.contains '\'' && name.all isSafeInQuotes then '"' :: name ++ ['"']
  else '\'' :: quotedCharacters false name

namespace Action

/-- Say something on standard error after the name of a tool. -/
def blame (name : Raw) (message : String) : Action Unit :=
  complain (name ++ ": ".toList ++ message.toList ++ ['\n'])

/-- Say on standard error what is wrong with a file. -/
def blameFile (name path : Raw) (message : String) : Action Unit :=
  blame name (String.ofList (quotedName path) ++ ": " ++ message)

/-- Say what is wrong with the arguments of a tool. -/
def blameArguments (name : Raw) (message : String) : Action Unit := do
  blame name message
  complain ("Try '".toList ++ name ++ " --help' for more information.\n".toList)

end Action
end LabLifecycle
