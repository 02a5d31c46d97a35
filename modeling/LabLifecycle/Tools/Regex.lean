import LabLifecycle.Text.CharSet

/-!
# Regular expressions

Expressions as line editors have them, basic or extended. A match is the leftmost one, and of
those the longest. The groups of a match are those of the first way to reach its end, where
what comes first in the expression takes as much as it prefers: a repetition one more round,
a choice its first alternative.

`Regex.ends` lists the places at which a match that starts at a place can end, in the order of
preference. For an expression that refers back to its groups, the ends are listed together
with the groups.
-/
namespace LabLifecycle

/-- A regular expression. -/
inductive Regex where
  | empty
  | set (s : CharSet)
  | start
  | stop
  | textStart
  | textStop
  | wordStart
  | wordStop
  | wordEdge
  | noWordEdge
  | both (first second : Regex)
  | either (first second : Regex)
  | repeated (r : Regex) (least : Nat) (most : Option Nat)
  | group (number : Nat) (r : Regex)
  | again (number : Nat)
  deriving DecidableEq, Repr, Inhabited

/-- The groups of a match: the number of each with the places where it starts and ends. -/
abbrev Groups := List (Nat × Nat × Nat)

namespace Regex

/-! ### Matching -/

/-- A text that is searched, and whether its lines have starts and ends of their own. -/
structure Subject where
  text : Array Char
  byLine : Bool := false

namespace Subject

/-- Whether a character of a word stands at a place. -/
def isWordAt (t : Subject) (n : Nat) : Bool := t.text[n]?.any CharSet.word.contains

/-- Whether a character of a word stands before a place. -/
def isWordBefore (t : Subject) (n : Nat) : Bool := 0 < n && t.isWordAt (n - 1)

/-- Whether a condition without width holds at a place. -/
def holdsAt (t : Subject) (n : Nat) : Regex → Bool
  | .start => n = 0 || (t.byLine && t.text[n - 1]? = some '\n')
  | .stop => n = t.text.size || (t.byLine && t.text[n]? = some '\n')
  | .textStart => n = 0
  | .textStop => n = t.text.size
  | .wordStart => t.isWordAt n && !t.isWordBefore n
  | .wordStop => !t.isWordAt n && t.isWordBefore n
  | .wordEdge => t.isWordAt n != t.isWordBefore n
  | .noWordEdge => t.isWordAt n == t.isWordBefore n
  | _ => true

end Subject

/-- The number of characters in a set, from a place on, up to a limit. -/
def runLength (t : Subject) (s : CharSet) : Nat → Nat → Nat → Nat
  | 0, _, count => count
  | fuel + 1, n, count =>
    if t.text[n]?.any s.contains then runLength t s fuel (n + 1) (count + 1) else count

/-- The values of a function on some places one after the other, each value once. -/
def flatMapFresh (size : Nat) (places : List Nat) (f : Nat → List Nat) : List Nat :=
  match places with
  | [] => []
  | [n] => f n
  | places =>
    let all := places.foldl (fun (seen : Array Bool × List Nat) n =>
      (f n).foldl (fun (seen, out) e =>
        if seen[e]?.getD true then (seen, out) else (seen.set! e true, e :: out)) seen)
      (Array.replicate (size + 1) false, [])
    all.2.reverse

/-- The ends of a repetition from a place, in the order of preference: further rounds come
first. The list holds, last one first, the ends known so far; `seen` tells which places have
been looked at after how many rounds. -/
def rounds (round : Nat → List Nat) (least : Nat) (most : Option Nat) :
    Nat → Nat → Nat → List (Nat × Nat) × List Nat → List (Nat × Nat) × List Nat
  | 0, _, _, state => state
  | fuel + 1, n, count, (seen, out) =>
    let key := (n, if most.isNone then min count least else count)
    if seen.contains key then (seen, out)
    else
      let state := (key :: seen, out)
      let state :=
        if most.any (· ≤ count) then state
        else (round n).foldl (fun state e =>
          if e = n && least ≤ count then state
          else rounds round least most fuel e (count + 1) state) state
      if least ≤ count then (state.1, if state.2.contains n then state.2 else n :: state.2)
      else state

/-- Descending numbers from one down to another. -/
def descending (high low : Nat) : List Nat :=
  if high < low then [] else (List.range (high + 1 - low)).map (high - ·)

/-- The places at which a match from a place on can end. -/
def ends (t : Subject) : Regex → Nat → List Nat
  | .empty, n => [n]
  | .set s, n => if t.text[n]?.any s.contains then [n + 1] else []
  | .both a b, n => flatMapFresh t.text.size (ends t a n) fun e => ends t b e
  | .either a b, n =>
    let first := ends t a n
    first ++ (ends t b n).filter fun e => !first.contains e
  | .repeated (.set s) least most, n =>
    let limit := min (t.text.size - n) (most.getD t.text.size)
    let count := runLength t s limit n 0
    if count < least then [] else descending (n + count) (n + least)
  | .repeated r least most, n =>
    (rounds (fun e => ends t r e) least most (t.text.size + least + 2) n 0 ([], [])).2.reverse
  | .group _ r, n => ends t r n
  | .again _, n => [n]
  | condition, n => if t.holdsAt n condition then [n] else []

/-- Whether an expression has groups. -/
def hasGroups : Regex → Bool
  | .both a b | .either a b => a.hasGroups || b.hasGroups
  | .repeated r _ _ => r.hasGroups
  | .group _ _ => true
  | _ => false

/-- Whether an expression refers back to its groups. -/
def refersBack : Regex → Bool
  | .both a b | .either a b => a.refersBack || b.refersBack
  | .repeated r _ _ | .group _ r => r.refersBack
  | .again _ => true
  | _ => false

/-- The ends of the rounds of a repetition that leads from a place to another one, if there is
such a repetition. Places that were tried in vain are not tried again. -/
def path (round : Nat → List Nat) (least : Nat) (most : Option Nat) (target : Nat) :
    Nat → Nat → Nat → List (Nat × Nat) → Option (List Nat) × List (Nat × Nat)
  | 0, _, _, vain => (none, vain)
  | fuel + 1, n, count, vain =>
    let key := (n, if most.isNone then min count least else count)
    if vain.contains key then (none, vain)
    else
      let further :=
        if most.any (· ≤ count) then (none, vain)
        else (round n).foldl (fun (found : Option (List Nat) × List (Nat × Nat)) e =>
          match found with
          | (some p, vain) => (some p, vain)
          | (none, vain) =>
            if target < e || (e = n && least ≤ count) then (none, vain)
            else
              let (p, vain) := path round least most target fuel e (count + 1) vain
              (p.map (e :: ·), vain)) (none, vain)
      match further with
      | (some p, vain) => (some p, vain)
      | (none, vain) =>
        if n = target && least ≤ count then (some [], vain) else (none, key :: vain)

/-- The groups of a match that is known to lead from a place to another one, the last ones
first. -/
def groupsBetween (t : Subject) : Regex → Nat → Nat → Groups → Groups
  | .both a b, n, e, g =>
    if a.hasGroups || b.hasGroups then
      match (ends t a n).find? fun m => m ≤ e && (ends t b m).contains e with
      | some m => groupsBetween t b m e (groupsBetween t a n m g)
      | none => g
    else g
  | .either a b, n, e, g =>
    if (ends t a n).contains e then groupsBetween t a n e g else groupsBetween t b n e g
  | .repeated r least most, n, e, g =>
    if r.hasGroups then
      match (path (fun m => ends t r m) least most e (t.text.size + least + 2) n 0 []).1 with
      | some stops =>
        (stops.foldl (fun (m, g) stop => (stop, groupsBetween t r m stop g)) (n, g)).2
      | none => g
    else g
  | .group number r, n, e, g => groupsBetween t r n e ((number, n, e) :: g)
  | _, _, _, g => g

/-- The places at which a match can end together with its groups, for expressions that refer
back to groups. -/
def endsWith (t : Subject) : Regex → Nat × Groups → List (Nat × Groups)
  | .both a b, p => (endsWith t a p).flatMap fun q => endsWith t b q
  | .either a b, p => endsWith t a p ++ endsWith t b p
  | .group number r, p =>
    (endsWith t r p).map fun (e, g) => (e, (number, p.1, e) :: g)
  | .again number, (n, g) =>
    match g.lookup number with
    | none => []
    | some (a, b) =>
      let same := (List.range (b - a)).all fun k =>
        match t.text[a + k]?, t.text[n + k]? with
        | some c, some d => c == d
        | _, _ => false
      if same then [(n + (b - a), g)] else []
  | .repeated r least most, p =>
    if r.hasGroups || r.refersBack then
      let bound := most.getD (t.text.size + least)
      let levels := (List.range bound).foldl
        (fun (state : List (Nat × Groups) × List (List (Nat × Groups))) k =>
          let next := (state.1.flatMap fun q =>
            (endsWith t r q).filter fun s => s.1 != q.1 || k < least)
          (next, if next.isEmpty then state.2 else next :: state.2)) ([p], [[p]])
      let kept := levels.2.length - least
      (levels.2.take kept).flatten
    else (ends t (.repeated r least most) p.1).map fun e => (e, p.2)
  | r, (n, g) => (ends t r n).map fun e => (e, g)

/-- A match: where it starts and ends, and its groups. -/
structure Match where
  start : Nat
  stop : Nat
  groups : Groups := []
  deriving DecidableEq, Repr

/-- The longest match that starts at a place. -/
def matchAt? (r : Regex) (t : Subject) (n : Nat) : Option Match :=
  if r.refersBack then
    (endsWith t r (n, [])).foldl (fun best (e, g) =>
      match best with
      | none => some ⟨n, e, g⟩
      | some b => if b.stop < e then some ⟨n, e, g⟩ else some b) none
  else
    match (ends t r n).max? with
    | none => none
    | some e => some ⟨n, e, groupsBetween t r n e []⟩

/-- The leftmost match that starts at a place or after it. -/
def findFrom (r : Regex) (t : Subject) : Nat → Nat → Option Match
  | 0, _ => none
  | fuel + 1, n =>
    match r.matchAt? t n with
    | some m => some m
    | none => findFrom r t fuel (n + 1)

/-- The leftmost match in a text from a place on. -/
def find? (r : Regex) (t : Subject) (n : Nat) : Option Match :=
  r.findFrom t (t.text.size + 1 - n) n

/-- Whether there is a match in a text. -/
def occursIn (r : Regex) (t : Subject) : Bool := (r.find? t 0).isSome

/-! ### Reading -/

/-- What is left of an expression that is being read, and the number of groups so far. -/
structure Progress where
  rest : Raw
  groups : Nat := 0
  closed : List Nat := []

/-- The notation of an expression: the extended one or the basic one, and whether letters
stand for both cases. -/
structure Notation where
  extended : Bool := false
  anyCase : Bool := false
  deriving DecidableEq, Repr

/-- The character that structures an expression, in the extended notation by itself and in
the basic one after a backslash. -/
def structural? (x : Notation) : Raw → Option (Char × Raw)
  | '\\' :: c :: rest =>
    if !x.extended && "()\x7b\x7d|+?".toList.contains c then some (c, rest) else none
  | c :: rest =>
    if x.extended && "()\x7b|+?".toList.contains c then some (c, rest) else none
  | [] => none

/-- The expression for a set of characters. -/
def ofSet (x : Notation) (s : CharSet) : Regex := .set (if x.anyCase then s.anyCase else s)

/-- The expression for a character. -/
def ofChar (x : Notation) (c : Char) : Regex := ofSet x (.single c)

/-- The counts between braces, after the opening one, up to the closing one. -/
def counts (x : Notation) (s : Raw) : Except String (Nat × Option Nat × Raw) := do
  let low := s.takeWhile Char.isDigit
  let s := s.drop low.length
  let (high, s) : Option Raw × Raw := match s with
    | ',' :: rest => (some (rest.takeWhile Char.isDigit), rest.dropWhile Char.isDigit)
    | s => (none, s)
  let close := if x.extended then ['}'] else ['\\', '}']
  if s.isEmpty then throw "Unmatched \\\x7b"
  else if !close.isPrefixOf s then
    throw (if x.extended && !s.contains '}' then "Unmatched \\\x7b"
      else "Invalid content of \\\x7b\\\x7d")
  let least := Raw.digitsValue low
  let most := match high with
    | none => some least
    | some [] => none
    | some digits => some (Raw.digitsValue digits)
  if low.isEmpty && high.isNone then throw "Invalid content of \\\x7b\\\x7d"
  else if most.any (· < least) then throw "Invalid content of \\\x7b\\\x7d"
  else if 32767 < least || most.any (32767 < ·) then throw "Regular expression too big"
  else return (least, most, s.drop close.length)

/-- Apply the marks of repetition that follow an expression. -/
def postfixes (x : Notation) : Nat → Regex → Raw → Except String (Regex × Raw)
  | 0, r, s => return (r, s)
  | fuel + 1, r, s => do
    match s, structural? x s with
    | '*' :: rest, _ => postfixes x fuel (.repeated r 0 none) rest
    | _, some ('+', rest) => postfixes x fuel (.repeated r 1 none) rest
    | _, some ('?', rest) => postfixes x fuel (.repeated r 0 (some 1)) rest
    | _, some ('{', rest) =>
      let (least, most, rest) ← counts x rest
      postfixes x fuel (.repeated r least most) rest
    | _, _ => return (r, s)

/-- What a backslash and a character stand for. -/
def escaped (x : Notation) (c : Char) : Regex :=
  match c with
  | 'n' => ofChar x '\n'
  | 'w' => .set .word
  | 'W' => .set CharSet.word.inverse
  | 's' => .set .space
  | 'S' => .set CharSet.space.inverse
  | 'b' => .wordEdge
  | 'B' => .noWordEdge
  | '<' => .wordStart
  | '>' => .wordStop
  | '`' => .textStart
  | '\'' => .textStop
  | c => ofChar x c

/-- Whether a basic expression can end here, so that a dollar sign means the end of a line. -/
def canEnd : Raw → Bool
  | [] => true
  | '\\' :: ')' :: _ | '\\' :: '|' :: _ => true
  | _ => false

/-- A bracket expression after its opening bracket. -/
def bracket (x : Notation) (s : Raw) : Except String (Regex × Raw) :=
  match CharSet.bracket? ['^'] (s.map fun c => (c, false)) with
  | some (s, rest) => .ok (ofSet x s, rest.map (·.1))
  | none => .error "Unmatched [, [^, [:, [., or [="

/-- Read alternatives up to the end, or up to a closing parenthesis. -/
def alternatives (x : Notation) : Nat → Bool → Progress → Except String (Regex × Progress)
  | 0, _, p => return (.empty, p)
  | fuel + 1, inGroup, p => do
    let (first, p) ← sequence x fuel inGroup true .empty p
    match structural? x p.rest with
    | some ('|', rest) =>
      let (others, p) ← alternatives x fuel inGroup { p with rest := rest }
      return (.either first others, p)
    | _ => return (first, p)
where
  /-- Read expressions that follow each other. The flag says that nothing came before that
  could be repeated. -/
  sequence (x : Notation) : Nat → Bool → Bool → Regex → Progress →
      Except String (Regex × Progress)
    | 0, _, _, r, p => return (r, p)
    | fuel + 1, inGroup, leading, r, p => do
      let goOn (q : Regex) (p : Progress) : Except String (Regex × Progress) := do
        let (q, rest) ← postfixes x p.rest.length q p.rest
        sequence x fuel inGroup false (if r = .empty then q else .both r q) { p with rest := rest }
      let condition (q : Regex) (rest : Raw) (leading : Bool) :
          Except String (Regex × Progress) :=
        sequence x fuel inGroup leading (if r = .empty then q else .both r q)
          { p with rest := rest }
      match structural? x p.rest, p.rest with
      | some ('|', _), _ => return (r, p)
      | some (')', _), _ =>
        if inGroup then return (r, p) else throw "Unmatched ) or \\)"
      | some ('(', rest), _ =>
        let number := p.groups + 1
        let (inner, p) ← alternatives x fuel true { p with rest := rest, groups := number }
        match structural? x p.rest with
        | some (')', rest) =>
          goOn (.group number inner) { p with rest := rest, closed := number :: p.closed }
        | _ => throw "Unmatched ( or \\("
      | some ('{', rest), _ =>
        if leading then throw "Invalid preceding regular expression"
        else goOn (ofChar x '{') { p with rest := rest }
      | some (c, rest), _ =>
        if x.extended && leading && (c = '+' || c = '?') then
          throw "Invalid preceding regular expression"
        else goOn (ofChar x c) { p with rest := rest }
      | none, [] => return (r, p)
      | none, ['\\'] => throw "Trailing backslash"
      | none, '\\' :: c :: rest =>
        if '1' ≤ c && c ≤ '9' then
          let number := c.toNat - '0'.toNat
          if p.closed.contains number then goOn (.again number) { p with rest := rest }
          else throw "Invalid back reference"
        else goOn (escaped x c) { p with rest := rest }
      | none, '.' :: rest => goOn (.set ⟨true, []⟩) { p with rest := rest }
      | none, '[' :: rest => do
        let (q, rest) ← bracket x rest
        goOn q { p with rest := rest }
      | none, '*' :: rest =>
        if leading then
          if x.extended then throw "Invalid preceding regular expression"
          else goOn (ofChar x '*') { p with rest := rest }
        else goOn (ofChar x '*') { p with rest := rest }
      | none, '^' :: rest =>
        if x.extended || leading then condition .start rest true
        else goOn (ofChar x '^') { p with rest := rest }
      | none, '$' :: rest =>
        if x.extended || canEnd rest then condition .stop rest x.extended
        else goOn (ofChar x '$') { p with rest := rest }
      | none, c :: rest => goOn (ofChar x c) { p with rest := rest }

/-- Read an expression. Yields the number of its groups as well. -/
def read (x : Notation) (s : Raw) : Except String (Regex × Nat) := do
  let (r, p) ← alternatives x (2 * s.length + 8) false { rest := s }
  match p.rest with
  | [] => return (r, p.groups)
  | _ => throw "Unmatched ) or \\)"

end Regex
end LabLifecycle
