import ElfFacts.Script.Pattern

/-!
# Regular expressions

Expressions in the basic and the extended form, and where they match in a line. Of several
repetitions the longest that leads to a match is taken.
-/
namespace ElfFacts.Script

inductive Regex where
  | empty
  | one (c : Char)
  | any
  | set (negated : Bool) (ranges : List (Char × Char))
  | lineStart
  | lineEnd
  | both (first second : Regex)
  | either (first second : Regex)
  | repeated (r : Regex) (least : Nat) (most : Option Nat)
  | group (number : Nat) (r : Regex)
  /-- What a group has matched. -/
  | again (number : Nat)
  deriving Inhabited

namespace Regex

/-! ## Matching -/

/-- A place in a line: whether it is the start, the rest of the line, and what groups have
matched. -/
structure Place where
  atStart : Bool
  rest : List Char
  groups : List (Nat × List Char) := []

def Place.take (p : Place) (n : Nat) : Place :=
  { p with atStart := p.atStart && n = 0, rest := p.rest.drop n }

def literal (p : Place) (accept : Char → Bool) (next : Place → Option Place) : Option Place :=
  match p.rest with
  | c :: _ => if accept c then next (p.take 1) else none
  | [] => none

/-- Matches as often as possible and at least `least` times. A repetition takes a character, apart
from those that have to be there. -/
def repeatFrom (once : Place → (Place → Option Place) → Option Place) :
    (fuel : Nat) → (least most : Nat) → Place → (Place → Option Place) → Option Place
  | 0, least, _, p, next => if least = 0 then next p else none
  | fuel + 1, least, most, p, next =>
    let more :=
      if most = 0 then none
      else once p fun p' =>
        if p'.rest.length < p.rest.length ∨ 0 < least then
          repeatFrom once fuel (least - 1) (most - 1) p' next
        else none
    more <|> if least = 0 then next p else none

def runFrom (folded : Bool) : Regex → Place → (Place → Option Place) → Option Place
  | .empty, p, next => next p
  | .one d, p, next => literal p (fun c => if folded then c.toLower = d.toLower else c = d) next
  | .any, p, next => literal p (fun _ => true) next
  | .set negated ranges, p, next =>
    literal p (fun c => inSet negated ranges c ||
      (folded && (inSet negated ranges c.toLower || inSet negated ranges c.toUpper))) next
  | .lineStart, p, next => if p.atStart then next p else none
  | .lineEnd, p, next => if p.rest = [] then next p else none
  | .both a b, p, next => runFrom folded a p fun p => runFrom folded b p next
  | .either a b, p, next => runFrom folded a p next <|> runFrom folded b p next
  | .repeated r least most, p, next =>
    let fuel := p.rest.length + least + 1
    repeatFrom (runFrom folded r) fuel least (most.getD fuel) p next
  | .group n r, p, next =>
    runFrom folded r p fun p' =>
      next { p' with groups := (n, p.rest.take (p.rest.length - p'.rest.length)) :: p'.groups }
  | .again n, p, next =>
    let text := (p.groups.lookup n).getD []
    if text.isPrefixOf p.rest then next (p.take text.length) else none

structure Match where
  before : List Char
  text : List Char
  after : List Char
  groups : List (Nat × List Char)

/-- The first match, the line being read from some place on. -/
def search? (r : Regex) (folded atStart : Bool) (cs : List Char) : Option Match :=
  (List.range (cs.length + 1)).findSome? fun n =>
    let rest := cs.drop n
    (runFrom folded r ⟨atStart && n = 0, rest, []⟩ some).map fun p =>
      { before := cs.take n, text := rest.take (rest.length - p.rest.length), after := p.rest,
        groups := p.groups }

def matchesLine (r : Regex) (folded : Bool) (cs : List Char) : Bool :=
  (r.search? folded true cs).isSome

/-! ## Reading -/

structure Source where
  rest : List Char
  groups : Nat := 0

abbrev Reader := StateT Source Option

def take (n : Nat) : Reader Unit := modify fun s => { s with rest := s.rest.drop n }

/-- A mark that has a meaning with a backslash in the basic form and without one in the extended
form. -/
def acceptMark (extended : Bool) (c : Char) : Reader Bool := do
  let mark := if extended then [c] else ['\\', c]
  if mark.isPrefixOf (← get).rest then
    take mark.length
    return true
  else return false

def amount : Reader (Option Nat) := do
  let ds := (← get).rest.takeWhile Char.isDigit
  take ds.length
  return number? ds

def bounds (extended : Bool) : Reader (Nat × Option Nat) := do
  let least ← amount
  let most ← if (← get).rest.head? = some ',' then
      take 1
      amount
    else pure least
  if ← acceptMark extended '\x7d' then return (least.getD 0, most) else fun _ => none

def suffixes (extended : Bool) : (fuel : Nat) → Regex → Reader Regex
  | 0, r => return r
  | fuel + 1, r => do
    if (← get).rest.head? = some '*' then
      take 1
      suffixes extended fuel (.repeated r 0 none)
    else if ← acceptMark extended '+' then suffixes extended fuel (.repeated r 1 none)
    else if ← acceptMark extended '?' then suffixes extended fuel (.repeated r 0 (some 1))
    else if ← acceptMark extended '\x7b' then
      let (least, most) ← bounds extended
      suffixes extended fuel (.repeated r least most)
    else return r

def escaped (c : Char) : Regex :=
  match c with
  | 's' => .set false (classRanges "space".toList)
  | 'S' => .set true (classRanges "space".toList)
  | 'w' => .set false (('_', '_') :: classRanges "alnum".toList)
  | 'W' => .set true (('_', '_') :: classRanges "alnum".toList)
  | 't' => .one '\t'
  | 'n' => .one '\n'
  | c => if '1' ≤ c ∧ c ≤ '9' then .again (c.toNat - '0'.toNat) else .one c

mutual

def alternatives (extended : Bool) : (fuel : Nat) → Reader Regex
  | 0 => fun _ => none
  | fuel + 1 => do
    let first ← sequence extended fuel true
    if ← acceptMark extended '|' then return .either first (← alternatives extended fuel)
    else return first

/-- `first` says that nothing comes before in this alternative. -/
def sequence (extended : Bool) : (fuel : Nat) → (first : Bool) → Reader Regex
  | 0, _ => fun _ => none
  | fuel + 1, first => do
    let rest := (← get).rest
    let stop (c : Char) : Bool := (if extended then [c] else ['\\', c]).isPrefixOf rest
    if rest = [] || stop '|' || stop ')' then return .empty
    else
      let atom ← atom extended fuel first
      let r ← match atom with
        | .lineStart => pure atom
        | _ => suffixes extended (rest.length + 1) atom
      return .both r (← sequence extended fuel (first && match r with
        | .lineStart => true
        | _ => false))

def atom (extended : Bool) : (fuel : Nat) → (first : Bool) → Reader Regex
  | 0, _ => fun _ => none
  | fuel + 1, first => do
    if ← acceptMark extended '(' then
      let number := (← get).groups + 1
      modify fun s => { s with groups := number }
      let r ← alternatives extended fuel
      if ← acceptMark extended ')' then return .group number r else fun _ => none
    else
      match (← get).rest with
      | [] => fun _ => none
      | '\\' :: c :: _ =>
        take 2
        return escaped c
      | '[' :: rest =>
        match set? rest with
        | some (negated, ranges, rest) =>
          modify fun s => { s with rest }
          return .set negated ranges
        | none => fun _ => none
      | c :: rest =>
        take 1
        if c = '.' then return .any
        else if c = '^' && (extended || first) then return .lineStart
        else if c = '$' && (extended || rest = [] || ['\\', ')'].isPrefixOf rest ||
            ['\\', '|'].isPrefixOf rest) then return .lineEnd
        else return .one c

end

def parse? (extended : Bool) (cs : List Char) : Option Regex := do
  let (r, s) ← alternatives extended (4 * cs.length + 8) ⟨cs, 0⟩
  if s.rest = [] then return r else none

def ofText (cs : List Char) : Regex := cs.foldr (fun c r => .both (.one c) r) .empty

end Regex

end ElfFacts.Script
