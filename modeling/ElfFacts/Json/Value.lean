import ElfFacts.Record

/-!
# JSON values

A number is kept as it is written. A text that is not well formed is kept as such: it can stand
where nobody looks at it.
-/
namespace ElfFacts

/-- A text as JSON holds it, `none` when it is not well formed. -/
abbrev JsonText := Option String

inductive Json where
  | null
  | bool (b : Bool)
  | number (literal : List Char)
  | text (s : JsonText)
  | list (items : List Json)
  | object (members : List (JsonText × Json))
  deriving Repr, Inhabited

namespace Json

def ofNat (n : Nat) : Json := .number (Nat.toDigits 10 n)

def ofString (s : String) : Json := .text (some s)

def ofStrings (l : List String) : Json := .list (l.map ofString)

def ofMembers (members : List (String × Json)) : Json :=
  .object (members.map fun m => (some m.1, m.2))

def ofOption {α : Type} (f : α → Json) : Option α → Json
  | none => .null
  | some a => f a

/-! ## Taking values apart -/

def string? : Json → Option String
  | .text s => s
  | _ => none

def bool? : Json → Option Bool
  | .bool b => some b
  | _ => none

/-- The number that digits without a needless zero stand for. -/
def natOfDigits? (digits : List Char) : Option Nat :=
  if digits = [] ∨ !digits.all Char.isDigit then none
  else if digits.head? = some '0' ∧ digits ≠ ['0'] then none
  else some (Nat.ofDigitChars 10 digits 0)

/-- A whole number below 2^64, written without sign, fraction and exponent. -/
def word? : Json → Option UInt64
  | .number literal =>
    match natOfDigits? literal with
    | some n => if n < UInt64.size then some (UInt64.ofNat n) else none
    | none => none
  | _ => none

def strings? : Json → Option (List String)
  | .list items => items.mapM string?
  | _ => none

/-- What null stands for is not there. -/
def nullable? {α : Type} (f : Json → Option α) : Json → Option (Option α)
  | .null => some none
  | j => (f j).map some

def fields? (names : List String) : Json → Option (Fields Json)
  | .object members => Fields.ofMembers? names members
  | .list items => Fields.ofItems? names items
  | _ => none

end Json

end ElfFacts
