import ElfFacts.Text.Quoted

/-!
# Debugging information entries

An entry has a tag and named attribute values, and knows its parent and its children by their
index in the unit. Its canonical text says all that distinguishes it from its siblings.
-/
namespace ElfFacts

/-- The value of an attribute. A `unitRef` counts from the start of its unit, an `infoRef` from the
start of the section. -/
inductive Value where
  | text (s : String)
  | unsigned (n : UInt64)
  | signed (n : Int64)
  | flag (b : Bool)
  | unitRef (offset : UInt64)
  | infoRef (offset : UInt64)
  | other (s : String)
  deriving DecidableEq, Repr

namespace Value

def text? : Value → Option String
  | .text s => some s
  | _ => none

def natural? : Value → Option UInt64
  | .unsigned n => some n
  | .signed n => if 0 ≤ n then some n.toUInt64 else none
  | _ => none

def chars : Value → List Char
  | .text s => "str:".toList ++ Text.quotedChars s.toList
  | .unsigned n => "udata:".toList ++ (toString n.toNat).toList
  | .signed n => "sdata:".toList ++ (toString n.toInt).toList
  | .flag b => "flag:".toList ++ (if b then "true" else "false").toList
  | .unitRef n => "ref:".toList ++ (Text.hex n.toNat).toList
  | .infoRef n => "ref_addr:".toList ++ (Text.hex n.toNat).toList
  | .other s => "other:".toList ++ s.toList

end Value

def atName : String := "DW_AT_name"

def atLinkageName : String := "DW_AT_linkage_name"

def atByteSize : String := "DW_AT_byte_size"

def atType : String := "DW_AT_type"

def atDeclaration : String := "DW_AT_declaration"

def atLanguage : String := "DW_AT_language"

structure DebugEntry where
  /-- Counted from the start of the unit. -/
  offset : UInt64
  tag : String
  attributes : List (String × Value)
  parent : Option Nat := none
  children : Array Nat := #[]
  /-- How many octets encode the entry, when that is known. -/
  size : Option UInt64 := none
  deriving DecidableEq, Repr, Inhabited

namespace DebugEntry

/-- The first value under a name. -/
def attribute? (e : DebugEntry) (name : String) : Option Value :=
  (e.attributes.find? (·.1 = name)).map (·.2)

def has (e : DebugEntry) (name : String) : Bool := (e.attribute? name).isSome

def text? (e : DebugEntry) (name : String) : Option String := (e.attribute? name).bind Value.text?

def byteSize? (e : DebugEntry) : Option UInt64 := (e.attribute? atByteSize).bind Value.natural?

/-- Eight times a byte size, when that is less than 2^64. -/
def bitsOf? (bytes : UInt64) : Option UInt64 :=
  if bytes.toNat * 8 < UInt64.size then some (bytes * 8) else none

def sizeInBits? (e : DebugEntry) : Option UInt64 := e.byteSize?.bind bitsOf?

def sizeChars : Option UInt64 → List Char
  | none => "None".toList
  | some n => "Some(".toList ++ (toString n.toNat).toList ++ [')']

def attributeChars (a : String × Value) : List Char := '\n' :: (a.1.toList ++ '=' :: a.2.chars)

def canonicalChars (e : DebugEntry) : List Char :=
  "DIE ".toList ++ e.tag.toList ++ " offset=".toList ++ (Text.hex e.offset.toNat).toList ++
    " size=".toList ++ sizeChars e.size ++
    " has_children=".toList ++ (if e.children.isEmpty then "false" else "true").toList ++
    e.attributes.flatMap attributeChars

def canonical (e : DebugEntry) : String := String.ofList e.canonicalChars

theorem toNat_bitsOf? {bytes bits : UInt64} (h : bitsOf? bytes = some bits) :
    bits.toNat = bytes.toNat * 8 := by
  unfold bitsOf? at h
  split at h
  · next hlt =>
    cases h
    rw [UInt64.toNat_mul]
    exact Nat.mod_eq_of_lt hlt
  · cases h

end DebugEntry

end ElfFacts
