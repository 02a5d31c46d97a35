import LabLifecycle.Shell.Arithmetic
import LabLifecycle.Shell.Fields
import LabLifecycle.Shell.State

/-!
# Expanding words

What the pieces of a word stand for: parameters, outputs of commands, values of expressions.
A word is expanded to fields, which are names of files where patterns match some, or to a
single text. How the commands of a substitution are run is left open here.
-/
namespace LabLifecycle.Shell

/-- What runs the commands of a substitution and yields their output. -/
abbrev Substituter := Command → Step Raw

/-! ### Parameters -/

/-- The options as they are listed, the last one first. -/
def optionLetters : List Char :=
  ['u', 'b', 'a', 'C', 'E', 'V', 'v', 'x', 's', 'n', 'm', 'i', 'I', 'f', 'e']

namespace State

/-- The text between the parameters where they make up one text. -/
def glue (s : State) : Raw :=
  match s.value? "IFS".toList with
  | none => [' ']
  | some separators => separators.take 1

/-- The parameters as one text. -/
def joinedParameters (s : State) : Raw := Raw.joined s.glue s.parameters

/-- The value of a parameter. -/
def parameter? (s : State) (name : Raw) : Option Raw :=
  match name with
  | ['?'] => some (Raw.ofNat s.status)
  | ['#'] => some (Raw.ofNat s.parameters.length)
  | ['$'] => some (Raw.ofNat s.process)
  | ['!'] => s.background.map Raw.ofNat
  | ['-'] => some (optionLetters.filter s.has)
  | ['@'] | ['*'] => some s.joinedParameters
  | c :: _ =>
    if c.isDigit then
      match Raw.digitsValue name with
      | 0 => some s.title
      | n + 1 => s.parameters[n]?
    else s.value? name
  | [] => none

end State

/-- The fragments of all parameters. -/
def parameterFragments (origin : Origin) (parameters : List Raw) : List Fragment :=
  (parameters.map fun p => Fragment.text p origin).intersperse .boundary

/-- The fragments of a parameter that has a value. -/
def valueFragments (s : State) (full : Bool) (name value : Raw) (quoted : Bool) : List Fragment :=
  let all := name == ['@'] || name == ['*']
  if full && all && !(quoted && name == ['*']) then
    parameterFragments (.ofQuoted quoted) s.parameters
  else [.text value (.ofQuoted quoted)]

/-- Whether the pieces after an opening quote are all parameters and a closing quote. -/
def holdsParameters : List Piece → Bool
  | [.parameter ['@'] .value true] => true
  | .parameter ['@'] .value true :: .text [] true :: _ => true
  | .parameter ['@'] .value true :: p :: _ => !p.isQuoted
  | _ => false

/-! ### Pieces -/

section Pieces
variable (run : Substituter)

/-- The value of an expression, after which its assignments are made. -/
def calculate (text : Raw) : Step Raw := do
  let s ← get
  let known : FormulaVariables := { value := fun name => (s.value? name).getD [] }
  match Formula.read text with
  | .error e => Step.refuse (e.message text)
  | .ok e =>
    match e.evaluate.run known with
    | .error e => Step.refuse (e.message text)
    | .ok (n, after) =>
      after.assigned.reverse.forM fun (name, value) => Step.assign name value
      return Raw.ofInt n.toInt

/-- Refuse to use a parameter without a value. -/
def refuseUnset {α : Type} (name : Raw) (reason : String) : Step α :=
  Step.refuse (String.ofList name ++ ": " ++ reason)

mutual

/-- The fragments of a piece. Text outside of quotes has a given origin. -/
def expandPiece (full : Bool) (origin : Origin) : Piece → Step (List Fragment)
  | .text s quoted => return [.text s (if quoted then .quoted else origin)]
  | .output c quoted => do
    let out ← run c
    let text := (out.reverse.dropWhile (· == '\n')).reverse
    return [.text (text.filter (· != '\x00')) (.ofQuoted quoted)]
  | .arithmetic e quoted => do
    let fragments ← expandPieces false .script e
    return [.text (← calculate (wholeText fragments)) (.ofQuoted quoted)]
  | .parameter name form quoted => expandForm full name quoted form

/-- The fragments of a parameter in some form. -/
def expandForm (full : Bool) (name : Raw) (quoted : Bool) : Form → Step (List Fragment)
  | .mistaken => Step.refuse "Bad substitution"
  | .value => do
    let s ← get
    match s.parameter? name with
    | some v => return valueFragments s full name v quoted
    | none => if s.has 'u' then refuseUnset name "parameter not set" else return []
  | .length => do
    let s ← get
    match s.parameter? name with
    | some v => return [.text (Raw.ofNat v.length) (.ofQuoted quoted)]
    | none =>
      if s.has 'u' then refuseUnset name "parameter not set"
      else return [.text ['0'] (.ofQuoted quoted)]
  | .orElse ifEmpty word => do
    let s ← get
    match (s.parameter? name).filter fun v => !(ifEmpty && v.isEmpty) with
    | some v => return valueFragments s full name v quoted
    | none => expandPieces full .value word
  | .instead ifEmpty word => do
    let s ← get
    match (s.parameter? name).filter fun v => !(ifEmpty && v.isEmpty) with
    | some _ => expandPieces full .value word
    | none => return []
  | .assign ifEmpty word => do
    let s ← get
    match (s.parameter? name).filter fun v => !(ifEmpty && v.isEmpty) with
    | some v => return valueFragments s full name v quoted
    | none =>
      let v := wholeText (← expandPieces false .value word)
      if isName name then
        Step.assign name v
        return [.text v (.ofQuoted quoted)]
      else refuseUnset name "bad variable name"
  | .demand ifEmpty word => do
    let s ← get
    match (s.parameter? name).filter fun v => !(ifEmpty && v.isEmpty) with
    | some v => return valueFragments s full name v quoted
    | none =>
      let reason := wholeText (← expandPieces false .value word)
      if word.isEmpty then
        refuseUnset name ("parameter not set" ++ if ifEmpty then " or null" else "")
      else refuseUnset name (String.ofList reason)
  | .trim atEnd longest pattern => do
    let s ← get
    match s.parameter? name with
    | none => if s.has 'u' then refuseUnset name "parameter not set" else return []
    | some v =>
      let p := Pattern.ofMarked (wholeField (← expandPieces false .script pattern))
      return [.text (p.trim atEnd longest v) (.ofQuoted quoted)]

/-- The fragments of pieces. Quotes around all parameters yield nothing if there are none. -/
def expandPieces (full : Bool) (origin : Origin) : List Piece → Step (List Fragment)
  | [] => return []
  | p :: rest => do
    let first ←
      if p.isOpening && holdsParameters rest && full then pure []
      else expandPiece full origin p
    return first ++ (← expandPieces full origin rest)

end

/-! ### Words -/

/-- A text with a tilde at its start replaced by a directory. The flag tells whether the word
ends with the text. -/
def withHome? (home : Raw) (isAll : Bool) (s : Raw) : Option (List Piece) :=
  match s with
  | ['~'] => if isAll then some [.text home true] else none
  | '~' :: '/' :: rest => some [.text home true, .text ('/' :: rest) false]
  | _ => none

/-- The text of an assignment with tildes at its start and after colons replaced. -/
def withHomes (home : Raw) (isAll : Bool) (s : Raw) : List Piece :=
  let parts := s.splitOn ':'
  let replaced := parts.zipIdx.map fun (part, n) =>
    (withHome? home (isAll || n + 1 < parts.length) part).getD [.text part false]
  (replaced.intersperse [.text [':'] false]).flatten

/-- A word with its tildes replaced: at its start, in an assignment also after colons. -/
def replaceTildes (home : Option Raw) (assigning : Bool) (w : Word) : Word :=
  match home with
  | none => w
  | some home =>
    match w with
    | .text s false :: rest =>
      if assigning then withHomes home rest.isEmpty s ++ rest
      else
        match withHome? home rest.isEmpty s with
        | some pieces => pieces ++ rest
        | none => w
    | w => w

/-- The word with its tildes replaced by the home directory. -/
def tildes (assigning : Bool) (w : Word) : Step Word := do
  return replaceTildes ((← get).value? "HOME".toList) assigning w

/-- A word as a single text. -/
def expandText (w : Word) : Step Raw := do
  return wholeText (← expandPieces run false .script (← tildes false w))

/-- The value of an assignment. -/
def expandValue (w : Word) : Step Raw := do
  return wholeText (← expandPieces run false .script (← tildes true w))

/-- A word as a pattern. -/
def expandPattern (w : Word) : Step Pattern := do
  return Pattern.ofMarked (wholeField (← expandPieces run false .script (← tildes false w)))

/-! ### Names of files -/

/-- The names in a directory that a pattern matches. A point at the start of a name is matched
by a point only. -/
def matchingNames (directory : Raw) (pattern : Field) : Step (List Raw) := do
  let place := if directory.isEmpty then ['.'] else directory
  match ← Step.request (.names place) with
  | .error _ => return []
  | .ok names =>
    let dotted := pattern.head?.any (·.1 == '.')
    let all := if dotted then ['.'] :: ['.', '.'] :: names else names
    let p := Pattern.ofMarked pattern
    return all.filter fun name => (dotted || name.head? != some '.') && p.fits name

/-- The parts of a field between its slashes. -/
def pathFields (f : Field) : List Field :=
  (f.splitOnP (·.1 == '/'))

/-- The text of a part of a path without a pattern: a backslash protects what follows it. -/
def plainPart : Field → Raw
  | ('\\', false) :: (c, _) :: rest => c :: plainPart rest
  | (c, _) :: rest => c :: plainPart rest
  | [] => []

/-- The paths that exist among those that parts of a path stand for. -/
def matchingPaths : List Field → Raw → Step (List Raw)
  | [], path => return [path]
  | part :: rest, path => do
    let goOn (name : Raw) : Step (List Raw) :=
      let next := path ++ name
      if rest.isEmpty then return [next] else matchingPaths rest (next ++ ['/'])
    if Pattern.isAsked part then
      let names ← matchingNames path part
      return (← names.mapM goOn).flatten
    else if rest.isEmpty then
      let name := path ++ plainPart part
      match ← Step.request (.info name false) with
      | .ok _ => return [name]
      | .error _ => return []
    else goOn (plainPart part)

/-- The paths that a field stands for, in ascending order, or its text if there are none. -/
def fieldPaths (f : Field) : Step (List Raw) := do
  if (← get).has 'f' || !Pattern.isAsked f then return [f.text]
  else
    let paths ← matchingPaths (pathFields f) []
    return if paths.isEmpty then [f.text] else paths.mergeSort fun a b => !decide (b < a)

/-- A word as fields. -/
def expandFields (w : Word) : Step (List Raw) := do
  let fragments ← expandPieces run true .script (← tildes false w)
  let fields := splitFields (← get).separators fragments
  return (← fields.mapM fieldPaths).flatten

end Pieces

end LabLifecycle.Shell
