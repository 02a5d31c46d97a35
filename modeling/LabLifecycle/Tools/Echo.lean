import LabLifecycle.Tools.Options

/-!
# Repeating the arguments

`echo` writes its arguments on a line. It knows options only at the start, and escape
sequences only where it is asked to.
-/
namespace LabLifecycle.Echo

/-- What the options ask for, and the other arguments. -/
def options : Bool → Bool → List Raw → Bool × Bool × List Raw
  | newline, escapes, [] => (newline, escapes, [])
  | newline, escapes, word :: rest =>
    match word with
    | '-' :: c :: letters =>
      if (c :: letters).all "neE".toList.contains then
        options (newline && !(c :: letters).contains 'n')
          ((c :: letters).foldl (fun e l => if l = 'e' then true else if l = 'E' then false else e)
            escapes) rest
      else (newline, escapes, word :: rest)
    | _ => (newline, escapes, word :: rest)

/-- The value of digits of some base, at most so many of them, and what follows. -/
def digits (base most : Nat) (s : Raw) : Option (Char × Raw) :=
  let value? (c : Char) : Option Nat :=
    let n := if c.isDigit then c.toNat - 48 else if c.isAlpha then c.toLower.toNat - 87 else base
    if n < base then some n else none
  let run := (s.take most).takeWhile fun c => (value? c).isSome
  if run.isEmpty then none
  else some (Char.ofNat ((run.foldl (fun n c => n * base + (value? c).getD 0) 0) % 256),
    s.drop run.length)

/-- The character that a letter after a backslash stands for. -/
def escape? (c : Char) : Option Char :=
  [('a', '\x07'), ('b', '\x08'), ('e', '\x1B'), ('f', '\x0C'), ('n', '\n'), ('r', '\r'),
    ('t', '\t'), ('v', '\x0B'), ('\\', '\\')].lookup c

/-- A text with its escape sequences carried out, and whether it goes on after it. -/
def unescape : Nat → Raw → Raw × Bool
  | 0, s => (s, true)
  | _ + 1, [] => ([], true)
  | fuel + 1, '\\' :: c :: rest =>
    let goOn (d : Raw) (rest : Raw) : Raw × Bool :=
      let (more, goesOn) := unescape fuel rest
      (d ++ more, goesOn)
    if c = 'c' then ([], false)
    else if c = '0' then
      match digits 8 3 rest with
      | some (d, rest) => goOn [d] rest
      | none => goOn ['\x00'] rest
    else if c = 'x' then
      match digits 16 2 rest with
      | some (d, rest) => goOn [d] rest
      | none => goOn ['\\', 'x'] rest
    else if '1' ≤ c && c ≤ '7' then
      match digits 8 3 (c :: rest) with
      | some (d, rest) => goOn [d] rest
      | none => goOn ['\\', c] rest
    else
      match escape? c with
      | some d => goOn [d] rest
      | none => goOn ['\\', c] rest
  | fuel + 1, c :: rest =>
    let (more, goesOn) := unescape fuel rest
    (c :: more, goesOn)

/-- What is written for some arguments. -/
def text (words : List Raw) : Raw :=
  let (newline, escapes, words) := options true false words
  let text := Raw.joined [' '] words
  let (text, goesOn) := if escapes then unescape (text.length + 1) text else (text, true)
  text ++ if newline && goesOn then ['\n'] else []

/-- The program. -/
def program : Program := fun words _ => Action.task do
  match ← Action.write 1 (text words.tail) with
  | .ok _ => return 0
  | .error e =>
    Action.blame (words.headD []) ("write error: " ++ e.reason)
    return 1

end LabLifecycle.Echo
