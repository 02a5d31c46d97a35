import LabLifecycle.Tools.Options

/-!
# Copying files to the output

`cat` writes the files that it is given, or its input, to its output one after the other. It
can number lines, show what cannot be seen, and leave out repeated empty lines.
-/
namespace LabLifecycle.Copy

/-- How lines are shown. -/
structure Style where
  numbersAll : Bool := false
  numbersFilled : Bool := false
  squeezes : Bool := false
  showsEnds : Bool := false
  showsTabs : Bool := false
  showsHidden : Bool := false
  deriving DecidableEq, Repr

/-- The options of `cat`. -/
def rules : List OptionRule := [
  ⟨'A', ["show-all"], .none, true⟩, ⟨'b', ["number-nonblank"], .none, true⟩,
  ⟨'e', [], .none, true⟩, ⟨'E', ["show-ends"], .none, true⟩, ⟨'n', ["number"], .none, true⟩,
  ⟨'s', ["squeeze-blank"], .none, true⟩, ⟨'t', [], .none, true⟩,
  ⟨'T', ["show-tabs"], .none, true⟩, ⟨'u', [], .none, true⟩,
  ⟨'v', ["show-nonprinting"], .none, true⟩]

/-- The style that options ask for. -/
def Style.ofArguments (a : Arguments) : Style where
  numbersAll := a.has 'n' && !a.has 'b'
  numbersFilled := a.has 'b'
  squeezes := a.has 's'
  showsEnds := a.has 'A' || a.has 'e' || a.has 'E'
  showsTabs := a.has 'A' || a.has 't' || a.has 'T'
  showsHidden := a.has 'A' || a.has 'e' || a.has 't' || a.has 'v'

/-- Where the output is: inside of a line, or at the start of one after some empty ones, of
which two count as many; the number of the last line; and whether a carriage return is held
back because it may end a line. -/
structure Position where
  inLine : Bool := false
  empty : Nat := 0
  number : Nat := 0
  held : Bool := false
  deriving DecidableEq, Repr

/-- The number of a line, as it is shown. -/
def numberText (n : Nat) : Raw :=
  let digits := Raw.ofNat n
  List.replicate (6 - digits.length) ' ' ++ digits ++ ['\t']

/-- A control character, a letter after a caret. -/
def caret (c : Char) : Raw :=
  if c.toNat = 127 then ['^', '?']
  else if c.toNat < 32 then ['^', Char.ofNat (c.toNat + 64)]
  else [c]

/-- How a character is shown that does not end a line. -/
def shown (s : Style) (c : Char) : Raw :=
  if c = '\t' then if s.showsTabs then ['^', 'I'] else [c]
  else if !s.showsHidden then [c]
  else if c.toNat < 128 then caret c
  else 'M' :: '-' :: caret (Char.ofNat (c.toNat - 128))

/-- What is written before a line, and the position after that. -/
def lineStart (s : Style) (wanted : Bool) (p : Position) : Raw × Position :=
  if wanted && (s.numbersAll || s.numbersFilled) then
    (numberText (p.number + 1), { p with number := p.number + 1 })
  else ([], p)

/-- What is written for a character, and the position after that. -/
def put (s : Style) (p : Position) (c : Char) : Raw × Position :=
  if c = '\n' then
    let ending := (if p.held then ['^', 'M'] else []) ++ (if s.showsEnds then ['$', c] else [c])
    if p.inLine then (ending, { p with inLine := false, empty := 0, held := false })
    else
      if s.squeezes && 1 ≤ p.empty then ([], { p with empty := 2 })
      else
        let (start, p) := lineStart s s.numbersAll p
        (start ++ ending, { p with empty := min 2 (p.empty + 1) })
  else
    let (start, p) := lineStart s (!p.inLine) p
    let before := start ++ if p.held then ['\r'] else []
    if c = '\r' && s.showsEnds && !s.showsHidden then
      (before, { p with inLine := true, held := true })
    else (before ++ shown s c, { p with inLine := true, held := false })

/-- What is written for some text, and the position after that. -/
def putAll (s : Style) (p : Position) (text : Raw) : Raw × Position :=
  let (parts, p) := text.foldl (fun (parts, p) c =>
    let (part, p) := put s p c
    (part :: parts, p)) (([] : List Raw), p)
  (parts.reverse.flatten, p)

/-- Write a descriptor's content in some style. Yields the position, and whether it could be
read. -/
def copyFrom (name source : Raw) (s : Style) (descriptor : Nat) (p : Position) :
    Action (Position × Bool) :=
  Action.loop (fun p => do
    match ← Action.request (.read descriptor Action.blockSize) with
    | .error e =>
      Action.blameFile name source e.reason
      return .inr (p, false)
    | .ok [] => return .inr (p, true)
    | .ok part =>
      let (text, p) := if s = {} then (part, p) else putAll s p part
      match ← Action.write 1 text with
      | .ok _ => return .inl p
      | .error e =>
        Action.blame name ("write error: " ++ e.reason)
        Action.exit (.code 1)) p

/-- Whether reading a file to its end would go on for ever, as it is the output at once. -/
def feedsItself (output source : FileInfo) : Bool :=
  source.kind == .file && output.kind == .file && source.place.isSome &&
    source.place == output.place && 0 < source.size

/-- Write a file, or the input for a dash. -/
def copyFile (name : Raw) (s : Style) (output : FileInfo) (path : Raw) (p : Position) :
    Action (Position × Bool) := do
  let opened : Except FileError Nat ←
    if path == ['-'] then pure (.ok 0) else Action.request (.openFile path .read)
  match opened with
  | .error e =>
    Action.blameFile name path e.reason
    return (p, false)
  | .ok descriptor =>
    let result ← do
      match ← Action.request (.infoOf descriptor) with
      | .error e =>
        Action.blameFile name path e.reason
        pure (p, false)
      | .ok source =>
        if feedsItself output source then
          Action.blameFile name path "input file is output file"
          pure (p, false)
        else copyFrom name path s descriptor p
    if path != ['-'] then Action.request (.close descriptor)
    return result

/-- Write files one after the other. Yields whether all went well. -/
def copyFiles (name : Raw) (s : Style) (output : FileInfo) :
    List Raw → Position → Bool → Action Bool
  | [], p, fine => do
    if p.held then
      let _ ← Action.write 1 ['\r']
    return fine
  | path :: rest, p, fine => do
    let (p, good) ← copyFile name s output path p
    copyFiles name s output rest p (fine && good)

/-- The program. -/
def program : Program := fun words _ => Action.task do
  let name := words.headD []
  match Arguments.ofWords rules words.tail with
  | .error fault =>
    Action.blameArguments name fault.message
    return 1
  | .ok a =>
    match ← Action.request (.infoOf 1) with
    | .error e =>
      Action.blame name ("standard output: " ++ e.reason)
      return 1
    | .ok output =>
      let paths := if a.operands.isEmpty then [['-']] else a.operands
      let fine ← copyFiles name (Style.ofArguments a) output paths {} true
      let closed ← if paths.contains ['-'] then Action.request (.infoOf 0)
        else pure (.ok { kind := .pipe })
      match closed with
      | .error e =>
        Action.blame name ("closing standard input: " ++ e.reason)
        return 1
      | .ok _ => return if fine then 0 else 1

end LabLifecycle.Copy
