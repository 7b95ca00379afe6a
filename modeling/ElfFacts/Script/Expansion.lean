import ElfFacts.Script.Pattern
import ElfFacts.Script.Shell
import ElfFacts.Script.Word

/-!
# Expanding words

A word becomes fields: parameters and substitutions are replaced, what they give is split where
separators stand, and patterns are replaced by the names that they fit.
-/
namespace ElfFacts.Script

inductive Origin where
  | literal
  | expanded
  | quoted
  deriving DecidableEq, Repr

inductive Bit where
  | char (c : Char) (origin : Origin)
  /-- Quotes with nothing inside, which make a field all the same. -/
  | empty
  /-- A new field starts here. -/
  | cut
  deriving DecidableEq, Repr

namespace Bit

def ofText (origin : Origin) (cs : List Char) : List Bit := cs.map (Bit.char · origin)

def ofValue (quoted : Bool) (cs : List Char) : List Bit :=
  if !quoted then ofText .expanded cs else if cs = [] then [.empty] else ofText .quoted cs

def ofValues (quoted : Bool) (values : List (List Char)) : List Bit :=
  [Bit.cut].intercalate (values.map (ofValue quoted))

/-- Operands inside braces are split like values. -/
def asValue : Bit → Bit
  | .char c .literal => .char c .expanded
  | b => b

def marked (bits : List Bit) : List (Char × Bool) :=
  bits.filterMap fun
    | .char c origin => some (c, origin == .quoted)
    | _ => none

def text (bits : List Bit) : List Char :=
  bits.filterMap fun
    | .char c _ => some c
    | .empty => none
    | .cut => some ' '

end Bit

/-! ## Fields -/

/-- A word on its way to fields, of which the last one comes first. `open_` holds the field that has
begun, if one has, from its end. -/
structure Splitting where
  done : List (List Bit) := []
  open_ : Option (List Bit) := none
  /-- The last field was ended by a blank separator, which another one can still follow. -/
  blankEnded : Bool := false

namespace Splitting

def add (s : Splitting) (b : Bit) : Splitting :=
  { s with open_ := some (b :: s.open_.getD []), blankEnded := false }

def close (s : Splitting) : Splitting :=
  { s with done := (s.open_.map List.reverse).toList ++ s.done, open_ := none }

def step (separators : List Char) (s : Splitting) (b : Bit) : Splitting :=
  match b with
  | .char c .expanded =>
    if !separators.contains c then s.add b
    else if c = ' ' ∨ c = '\t' ∨ c = '\n' then
      if s.open_.isSome then { s.close with blankEnded := true } else s
    else if s.open_.isSome then s.close
    else if s.blankEnded then { s with blankEnded := false }
    else { s with done := [] :: s.done }
  | .cut => { s with done := (s.open_.getD []).reverse :: s.done, open_ := none, blankEnded := false }
  | b => s.add b

/-- A cut leaves a field behind it, even an empty one. -/
def finish (s : Splitting) (bits : List Bit) : List (List Bit) :=
  (if bits.getLast? = some .cut then (s.open_.getD []).reverse :: s.done else s.close.done).reverse

end Splitting

def splitFields (separators : List Char) (bits : List Bit) : List (List Bit) :=
  (bits.foldl (Splitting.step separators) {}).finish bits

section

variable {m : Type → Type} [Monad m]

/-! ## Names of files -/

def pathParts (cs : List (Char × Bool)) : List (List (Char × Bool)) :=
  cs.foldr (fun p parts =>
    if p.1 = '/' then [] :: parts
    else
      match parts with
      | [] => [[p]]
      | part :: rest => (p :: part) :: rest) [[]]

/-- The names in a directory that a part fits, behind what has been found so far. A dot at the
start has to be written. -/
def namesIn (found : List Char) (part : List (Char × Bool)) : Running m (List (List Char)) := do
  match ← Running.examine (if found = [] then ['.'] else found) with
  | some (.directory names) =>
    let p := Pattern.ofMarked part
    let fitting := names.filter fun name =>
      p.fits name && (name.head? ≠ some '.' || part.head?.map (·.1) = some '.')
    return (fitting.mergeSort fun a b => (compare a b).isLE).map (found ++ ·)
  | _ => return []

def namesFrom : List (List (Char × Bool)) → List (List Char) → Running m (List (List Char))
  | [], found => return found
  | part :: rest, found => do
    let next ←
      if Pattern.isMagic part then do
        let within ← found.mapM (namesIn · part)
        pure within.flatten
      else pure (found.map (· ++ part.map (·.1)))
    let next := if rest = [] then next else next.map (· ++ ['/'])
    namesFrom rest next

/-- The names that a field fits, or the field itself if there are none. -/
def fieldNames (field : List Bit) : Running m (List (List Char)) := do
  let marked := Bit.marked field
  if (← get).hasOption 'f' || !Pattern.isMagic marked then return [marked.map (·.1)]
  else
    let names ← namesFrom (pathParts marked) [[]]
    let present ← names.filterM fun name => return (← Running.examine name).isSome
    return if present = [] then [marked.map (·.1)] else present

/-! ## Pieces -/

abbrev Substitute (m : Type → Type) := List Char → Running m (List Char)

def expansionFailed : Running m (List Bit) := do
  Running.stop 2
  return []

def parameterBits (name : List Char) (quoted : Bool) (s : Shell) : Option (List Bit) :=
  if name = ['@'] ∨ (name = ['*'] ∧ !quoted) then
    if s.arguments = [] then none else some (Bit.ofValues quoted s.arguments)
  else (s.parameter? name).map (Bit.ofValue quoted)

def absent (name : List Char) (quoted : Bool) : Running m (List Bit) := do
  if name = ['@'] ∨ name = ['*'] then return (if quoted && name = ['*'] then [.empty] else [])
  else if (← get).hasOption 'u' then expansionFailed
  else return if quoted then [.empty] else []

mutual

/-- What a word in an operand stands for. The fuel bounds how deep operands lie in one another. -/
def operandBits (substitute : Substitute m) (quoted : Bool) :
    (fuel : Nat) → List Char → Running m (List Bit)
  | 0, _ => expansionFailed
  | fuel + 1, cs => do
    match if quoted then quotedText? .braces cs else wholeWord? cs with
    | none => expansionFailed
    | some w => return (← w.mapM (pieceBits substitute fuel)).flatten

def pieceBits (substitute : Substitute m) : (fuel : Nat) → Piece → Running m (List Bit)
  | 0, _ => expansionFailed
  | fuel + 1, p =>
    match p with
    | .text cs quoted =>
      return if !quoted then Bit.ofText .literal cs
        else if cs = [] then [.empty] else Bit.ofText .quoted cs
    | .command source quoted => return Bit.ofValue quoted (← substitute source)
    | .arithmetic source quoted => do
      let text := Bit.text (← operandBits substitute true fuel source)
      let s ← get
      if s.dialect = .escaping ∧ text.all Char.isWhitespace then return ← expansionFailed
      match Arithmetic.evaluate? text s.bindings with
      | none => expansionFailed
      | some (n, bindings) =>
        modify fun s => { s with bindings }
        return Bit.ofValue quoted (Arithmetic.decimal n)
    | .parameter name change quoted => do
      let s ← get
      let value := s.parameter? name
      let bits : Running m (List Bit) :=
        match parameterBits name quoted s with
        | some bits => return bits
        | none => absent name quoted
      let known (orEmpty : Bool) : Bool := value.isSome && !(orEmpty && value = some [])
      let operand (cs : List Char) : Running m (List Bit) := do
        let bits ← operandBits substitute quoted fuel cs
        return if quoted then (if bits = [] then [.empty] else bits) else bits.map Bit.asValue
      match change with
      | .whole => bits
      | .length =>
        if value.isNone && s.hasOption 'u' && name ≠ ['@'] && name ≠ ['*'] then expansionFailed
        else if name = ['@'] ∨ name = ['*'] then
          return Bit.ofValue quoted (decimal s.arguments.length)
        else return Bit.ofValue quoted (decimal (value.getD []).length)
      | .default orEmpty cs => if known orEmpty then bits else operand cs
      | .replace orEmpty cs => if known orEmpty then operand cs else return if quoted then [.empty] else []
      | .require orEmpty => if known orEmpty then bits else expansionFailed
      | .assign orEmpty cs =>
        if known orEmpty then bits
        else if !isName name then expansionFailed
        else do
          let text := Bit.text (← operandBits substitute quoted fuel cs)
          Running.bind name text
          return Bit.ofValue quoted text
      | .cutStart longest cs => trimmed fuel name cs value quoted fun p => p.cutStart longest
      | .cutEnd longest cs => trimmed fuel name cs value quoted fun p => p.cutEnd longest
where
  trimmed (fuel : Nat) (name cs : List Char) (value : Option (List Char)) (quoted : Bool)
      (cut : Pattern → List Char → List Char) : Running m (List Bit) := do
    if value.isNone && name ≠ ['@'] && name ≠ ['*'] && (← get).hasOption 'u' then return ← expansionFailed
    let bits ← operandBits substitute false fuel cs
    return Bit.ofValue quoted (cut (Pattern.ofMarked (Bit.marked bits)) (value.getD []))

end

end

end ElfFacts.Script
