import ElfFacts.Text.CaseTable

/-!
# Lower case

Lower case by the full Unicode mapping. A capital sigma at the end of a word has a form of its
own, so the mapping looks at the characters on both sides.
-/
namespace ElfFacts.Text

def inRanges (ranges : List (Nat × Nat)) (c : Char) : Bool :=
  ranges.any fun r => decide (r.1 ≤ c.toNat ∧ c.toNat ≤ r.2)

def isCased (c : Char) : Bool := inRanges casedRanges c

def isCaseIgnorable (c : Char) : Bool := inRanges caseIgnorableRanges c

/-- The place of `n` in the image of a run that contains it. -/
def runTarget (n : Nat) (run : Nat × Nat × Nat × Nat) : Option Nat :=
  let (first, last, step, target) := run
  if first ≤ n ∧ n ≤ last ∧ (n - first) % step = 0 then some (target + (n - first)) else none

def simpleLower (c : Char) : Char :=
  if c.toNat < 0x80 then c.toLower
  else ((lowercaseRuns.findSome? (runTarget c.toNat)).map Char.ofNat).getD c

/-- A cased character follows, once ignorable ones are skipped. -/
def meetsCased (cs : List Char) : Bool :=
  match cs.dropWhile isCaseIgnorable with
  | [] => false
  | c :: _ => isCased c

def capitalSigma : Char := 'Σ'

def dottedCapitalI : Char := 'İ'

/-- One character of a text in lower case. `before` holds what precedes it, nearest first. -/
def lowerAt (before : List Char) (c : Char) (after : List Char) : List Char :=
  if c = capitalSigma then
    if meetsCased before && !meetsCased after then ['ς'] else ['σ']
  else if c = dottedCapitalI then ['i', '\u0307']
  else [simpleLower c]

def lowerFrom (before : List Char) : List Char → List Char
  | [] => []
  | c :: after => lowerAt before c after ++ lowerFrom (c :: before) after

def lowerChars (cs : List Char) : List Char := lowerFrom [] cs

def lower (s : String) : String := String.ofList (lowerChars s.toList)

end ElfFacts.Text
