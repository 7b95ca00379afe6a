import ElfFacts.Debug.Unit
import ElfFacts.Text.Quoted

/-!
# Type chains

The type of an entry is found by following type references from entry to entry, up to a number of
steps. The entry at the end of the chain decides the outcome.
-/
namespace ElfFacts

inductive TypeResolution where
  /-- A type with a size; the name prefers the linkage name. -/
  | sized (bits : UInt64) (name : Option String)
  | pointer (bits : UInt64)
  /-- Declared without a body. -/
  | incomplete
  | unresolved
  deriving DecidableEq, Repr

/-- A reference into the whole section is not followed. -/
inductive TypeFault where
  | unsupportedReference (offset : UInt64)
  deriving DecidableEq, Repr

namespace TypeFault

def message : TypeFault → String
  | .unsupportedReference offset =>
    "Unsupported type reference kind: absolute .debug_info offset " ++ Text.hex offset.toNat

end TypeFault

namespace TypeChain

def pointerTag : String := "DW_TAG_pointer_type"

def terminal (e : DebugEntry) : TypeResolution :=
  if e.tag = pointerTag then
    match e.sizeInBits? with
    | some bits => .pointer bits
    | none => .unresolved
  else if e.has atDeclaration then .incomplete
  else
    match e.sizeInBits? with
    | some bits => .sized bits (e.text? atLinkageName <|> e.text? atName)
    | none => .unresolved

/-- Follows at most `budget` references from the entry with index `query`. -/
def resolve (u : DebugUnit) : (budget query : Nat) → Except TypeFault TypeResolution
  | budget, query =>
    match (u.get? query).bind (·.attribute? atType) with
    | some (.infoRef offset) => .error (.unsupportedReference offset)
    | some (.unitRef offset) =>
      match budget, u.indexOf? offset with
      | _, none => .ok .unresolved
      | 0, some _ => .ok .unresolved
      | budget + 1, some target =>
        match u.get? target with
        | none => .ok .unresolved
        | some e => if e.has atType then resolve u budget target else .ok (terminal e)
    | _ => .ok .unresolved

end TypeChain

end ElfFacts
