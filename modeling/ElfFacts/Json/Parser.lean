import ElfFacts.Json.Token

/-!
# Reading JSON

A machine over tokens keeps the lists and objects that are open. There is exactly one value, and
no comma stands before a closing bracket.
-/
namespace ElfFacts.Json

/-- A list or an object that is open, with what it holds so far in reverse. -/
inductive Frame where
  | item (before : List Json)
  | member (before : List (JsonText × Json)) (name : JsonText)

inductive Expecting where
  | value (above : List Frame)
  | firstItem (above : List Frame)
  | firstName (above : List Frame)
  | nextName (before : List (JsonText × Json)) (above : List Frame)
  | colon (before : List (JsonText × Json)) (name : JsonText) (above : List Frame)
  | after (j : Json) (above : List Frame)

namespace Expecting

def start (above : List Frame) : Token → Option Expecting
  | .null => some (.after .null above)
  | .bool b => some (.after (.bool b) above)
  | .number literal => some (.after (.number literal) above)
  | .text s => some (.after (.text s) above)
  | .openList => some (.firstItem above)
  | .openObject => some (.firstName above)
  | _ => none

def step : Expecting → Token → Option Expecting
  | .value above, t => start above t
  | .firstItem above, .closeList => some (.after (.list []) above)
  | .firstItem above, t => start (.item [] :: above) t
  | .firstName above, .closeObject => some (.after (.object []) above)
  | .firstName above, .text s => some (.colon [] s above)
  | .nextName before above, .text s => some (.colon before s above)
  | .colon before s above, .colon => some (.value (.member before s :: above))
  | .after j (.item before :: above), .comma => some (.value (.item (j :: before) :: above))
  | .after j (.item before :: above), .closeList =>
    some (.after (.list (j :: before).reverse) above)
  | .after j (.member before s :: above), .comma => some (.nextName ((s, j) :: before) above)
  | .after j (.member before s :: above), .closeObject =>
    some (.after (.object ((s, j) :: before).reverse) above)
  | _, _ => none

end Expecting

def ofTokens? (tokens : List Token) : Option Json :=
  match tokens.foldlM Expecting.step (.value []) with
  | some (.after j []) => some j
  | _ => none

/-- The value that an input holds, with nothing but blanks around it. -/
def parse? (input : List (Option Char)) : Option Json := tokens? input >>= ofTokens?

end ElfFacts.Json
