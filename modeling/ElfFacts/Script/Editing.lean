import ElfFacts.Script.Regex

/-!
# Editing lines

A small line editor: commands with addresses, which replace, print or delete what they meet.
-/
namespace ElfFacts.Script

namespace Editing

inductive Address where
  | line (n : Nat)
  | last
  | fitting (r : Regex)
  deriving Inhabited

inductive Action where
  | delete
  | print
  | quit
  | number
  | substitute (r : Regex) (folded : Bool) (replacement : List Char) (all : Bool) (nth : Nat)
      (shown : Bool)
  | translate (source target : List Char)
  deriving Inhabited

structure Step where
  first : Option Address
  last : Option Address
  negated : Bool
  action : Action
  deriving Inhabited

/-! ## Reading -/

/-- The text up to an unguarded delimiter, and what comes after it. A guarded delimiter stands for
itself. -/
def delimited (delimiter : Char) : (fuel : Nat) → List Char → Option (List Char × List Char)
  | 0, _ => none
  | _ + 1, [] => none
  | fuel + 1, c :: rest =>
    if c = delimiter then some ([], rest)
    else
      match c, rest with
      | '\\', e :: rest =>
        (delimited delimiter fuel rest).map fun (cs, rest) =>
          (if e = delimiter then e :: cs else c :: e :: cs, rest)
      | _, _ => (delimited delimiter fuel rest).map fun (cs, rest) => (c :: cs, rest)

def delimitedBy (delimiter : Char) (cs : List Char) : Option (List Char × List Char) :=
  delimited delimiter (cs.length + 1) cs

def address? (extended : Bool) (cs : List Char) : Option (Option Address × List Char) :=
  let ds := cs.takeWhile Char.isDigit
  match cs with
  | '$' :: rest => some (some .last, rest)
  | '/' :: rest => do
    let (text, rest) ← delimitedBy '/' rest
    return (some (.fitting (← Regex.parse? extended text)), rest)
  | _ =>
    match number? ds with
    | some n => some (some (.line n), cs.drop ds.length)
    | none => some (none, cs)

def isGap (c : Char) : Bool := isBlank c || c = '\n' || c = ';'

def action? (extended : Bool) : List Char → Option (Action × List Char)
  | 'd' :: rest => some (.delete, rest)
  | 'p' :: rest => some (.print, rest)
  | 'q' :: rest => some (.quit, rest)
  | '=' :: rest => some (.number, rest)
  | 's' :: delimiter :: rest => do
    let (pattern, rest) ← delimitedBy delimiter rest
    let (replacement, rest) ← delimitedBy delimiter rest
    let flags := rest.takeWhile fun c => ['g', 'p', 'i', 'I'].contains c || c.isDigit
    let folded := flags.contains 'i' || flags.contains 'I'
    let nth := (number? (flags.filter Char.isDigit)).getD 1
    return (.substitute (← Regex.parse? extended pattern) folded replacement (flags.contains 'g') nth
      (flags.contains 'p'), rest.drop flags.length)
  | 'y' :: delimiter :: rest => do
    let (source, rest) ← delimitedBy delimiter rest
    let (target, rest) ← delimitedBy delimiter rest
    if source.length = target.length then return (.translate source target, rest) else none
  | _ => none

def stepsFrom (extended : Bool) : (fuel : Nat) → List Char → Option (List Step)
  | 0, _ => none
  | fuel + 1, cs => do
    let cs := cs.dropWhile isGap
    if cs = [] then return []
    else
      let (first, rest) ← address? extended cs
      let (last, rest) ←
        if rest.head? = some ',' ∧ first.isSome then address? extended (rest.drop 1)
        else some (none, rest)
      let rest := rest.dropWhile isBlank
      let negated := rest.head? = some '!'
      let (action, rest) ← action? extended (if negated then rest.drop 1 else rest)
      let rest := rest.dropWhile isBlank
      if rest.head?.elim true isGap then
        return ⟨first, last, negated, action⟩ :: (← stepsFrom extended fuel rest)
      else none

def steps? (extended : Bool) (cs : List Char) : Option (List Step) :=
  stepsFrom extended (cs.length + 1) cs

/-! ## Running -/

def replaced (found : Regex.Match) : List Char → List Char
  | [] => []
  | '\\' :: c :: rest =>
    (if c.isDigit then
      if c = '0' then found.text else (found.groups.lookup (c.toNat - '0'.toNat)).getD []
    else if c = 'n' then ['\n'] else if c = 't' then ['\t'] else [c]) ++ replaced found rest
  | '&' :: rest => found.text ++ replaced found rest
  | c :: rest => c :: replaced found rest

/-- Replaces matches from the `nth` one on, and tells whether there was one. -/
def substituteFrom (r : Regex) (folded : Bool) (replacement : List Char) (all : Bool) :
    (fuel nth : Nat) → (atStart : Bool) → List Char → List Char × Bool
  | 0, _, _, cs => (cs, false)
  | fuel + 1, nth, atStart, cs =>
    match r.search? folded atStart cs with
    | none => (cs, false)
    | some found =>
      let due := nth ≤ 1
      let new := if due then replaced found replacement else found.text
      if due && !all then (found.before ++ new ++ found.after, true)
      else
        let kept := if found.text = [] then found.after.take 1 else []
        let left := found.after.drop kept.length
        if found.after = [] then (found.before ++ new, due)
        else
          let (rest, more) := substituteFrom r folded replacement all fuel (nth - 1) false left
          (found.before ++ new ++ kept ++ rest, due || more)

structure Line where
  number : Nat
  isLast : Bool
  text : List Char
  ending : List Char
  printed : List (List Char) := []
  deleted : Bool := false
  quits : Bool := false

def Line.whole (l : Line) : List Char := l.text ++ l.ending

def Address.fits (a : Address) (l : Line) : Bool :=
  match a with
  | .line n => n = l.number
  | .last => l.isLast
  | .fitting r => r.matchesLine false l.text

/-- Whether a step is due, and whether its range goes on. -/
def Step.due (s : Step) (inside : Bool) (l : Line) : Bool × Bool :=
  let (due, inside) :=
    match s.first, s.last with
    | none, _ => (true, false)
    | some a, none => (a.fits l, false)
    | some a, some b =>
      if inside then
        match b with
        | .line n => (l.number ≤ n, l.number < n)
        | _ => (true, !b.fits l)
      else if a.fits l then
        match b with
        | .line n => (true, l.number < n)
        | _ => (true, true)
      else (false, false)
  (due != s.negated, inside)

def Action.apply (a : Action) (l : Line) : Line :=
  match a with
  | .delete => { l with deleted := true }
  | .print => { l with printed := l.printed ++ [l.whole] }
  | .quit => { l with quits := true }
  | .number => { l with printed := l.printed ++ [decimal l.number ++ ['\n']] }
  | .substitute r folded replacement all nth shown =>
    let (text, done) := substituteFrom r folded replacement all (l.text.length + 2) nth true l.text
    { l with text, printed := if done && shown then l.printed ++ [text ++ l.ending] else l.printed }
  | .translate source target =>
    { l with text := l.text.map fun c => ((source.zip target).lookup c).getD c }

def runSteps : List (Step × Bool) → Line → Line × List Bool
  | [], l => (l, [])
  | (s, inside) :: rest, l =>
    if l.deleted || l.quits then (l, inside :: rest.map (·.2))
    else
      let (due, inside) := s.due inside l
      let (l, insides) := runSteps rest (if due then s.action.apply l else l)
      (l, inside :: insides)

def linesFrom (quiet : Bool) (steps : List Step) : (number : Nat) → List Bool → List (List Char) →
    List (List Char)
  | _, _, [] => []
  | number, insides, whole :: rest =>
    let text := whole.filter (· ≠ '\n')
    let (l, insides) := runSteps (steps.zip insides)
      { number, isLast := rest.isEmpty, text, ending := whole.drop text.length }
    let shown := l.printed ++ if quiet || l.deleted then [] else [l.whole]
    if l.quits then shown else shown ++ linesFrom quiet steps (number + 1) insides rest

/-- Lines one after another; one that is not ended is ended by the next. -/
def joined : List (List Char) → List Char
  | [] => []
  | [l] => l
  | l :: rest => l ++ (if l.getLast? = some '\n' then [] else ['\n']) ++ joined rest

/-- What texts become. Unless `quiet` is set, every line that is not deleted is printed. -/
def run (quiet : Bool) (steps : List Step) (texts : List (List Char)) : List Char :=
  joined (linesFrom quiet steps 1 (steps.map fun _ => false) (texts.flatMap fullLines))

end Editing

end ElfFacts.Script
