import ElfFacts.Dwarf.Abbreviation
import ElfFacts.Dwarf.Names

/-!
# Attribute values

A form says how a value is encoded. The name of the attribute then says what a constant, a block
or a section offset means.
-/
namespace ElfFacts.Dwarf

inductive OffsetRole where
  | line
  | locationLists
  | rangeLists
  | macinfo
  | macros
  | stringOffsets
  | addresses
  | rangeListOffsets
  | locationListOffsets
  deriving DecidableEq, Repr

inductive CodeRole where
  | encoding
  | accessibility
  | visibility
  | virtuality
  | inline
  | ordering
  | callingConvention
  | identifierCase
  | decimalSign
  | endianity
  deriving DecidableEq, Repr

/-- The value of an attribute before strings are looked up. -/
inductive RawValue where
  | address (n : Nat)
  | constant (n : Nat)
  | signed (n : Int64)
  | flag (b : Bool)
  | block (octets : ByteArray)
  | expression (octets : ByteArray)
  | sectionOffset (n : Nat)
  | unitRef (n : Nat)
  | infoRef (n : Nat)
  | supplementInfoRef (n : Nat)
  | typeSignature (n : Nat)
  | text (octets : ByteArray)
  | stringRef (n : Nat)
  | supplementStringRef (n : Nat)
  | lineStringRef (n : Nat)
  | stringIndex (n : Nat)
  | addressIndex (n : Nat)
  | locationListIndex (n : Nat)
  | rangeListIndex (n : Nat)
  | fileIndex (n : Nat)
  | splitId (n : Nat)
  | addressClass (n : Nat)
  | language (n : Nat)
  | code (role : CodeRole) (n : Nat)
  | pointer (role : OffsetRole) (n : Nat)

/-! ## Forms -/

/-- Attributes whose plain constants are section offsets where they have the size of one. -/
def isOffsetAttribute (name version : Nat) : Bool :=
  [0x02, 0x10, 0x19, 0x2A, 0x2C, 0x40, 0x43, 0x79, 0x46, 0x48, 0x4A, 0x4D, 0x55].contains name ||
    (name = 0x38 && (version = 2 || version = 3))

/-- The form that an indirect form stands for. The fuel is enough because every step takes an
octet. -/
def directForm : (fuel form : Nat) → Decoder Nat
  | 0, _ => Decoder.fail .endOfData
  | fuel + 1, form => if form = formIndirect then do directForm fuel (← Decoder.unsigned16) else return form

namespace Decoder

def blockOf (length : Nat) : Decoder ByteArray := return (← take length).contents

def commonForm? (e : Encoding) : Nat → Option (Decoder RawValue)
  | 0x03 => some do return .block (← blockOf (← number 2))
  | 0x04 => some do return .block (← blockOf (← number 4))
  | 0x05 => some do return .constant (← number 2)
  | 0x06 => some do return .constant (← number 4)
  | 0x07 => some do return .constant (← number 8)
  | 0x08 => some do return .text (← terminated)
  | 0x09 => some do return .block (← blockOf (← unsigned))
  | 0x0A => some do return .block (← blockOf (← octet))
  | 0x0B => some do return .constant (← octet)
  | 0x0C => some do return .flag ((← octet) ≠ 0)
  | 0x0D => some do return .signed (← signed)
  | 0x0E => some do return .stringRef (← offset e)
  | 0x0F => some do return .constant (← unsigned)
  | 0x17 => some do return .sectionOffset (← offset e)
  | 0x1A => some do return .stringIndex (← unsigned)
  | 0x1D => some do return .supplementStringRef (← offset e)
  | 0x1E => some do return .block (← blockOf 16)
  | 0x1F => some do return .lineStringRef (← offset e)
  | 0x25 => some do return .stringIndex (← number 1)
  | 0x26 => some do return .stringIndex (← number 2)
  | 0x27 => some do return .stringIndex (← number 3)
  | 0x28 => some do return .stringIndex (← number 4)
  | 0x1F02 => some do return .stringIndex (← unsigned)
  | 0x1F21 => some do return .supplementStringRef (← offset e)
  | _ => none

def entryForm? (e : Encoding) : Nat → Option (Decoder RawValue)
  | 0x01 => some do return .address (← number e.addressSize)
  | 0x10 => some do
    return .infoRef (← number (if e.version = 2 then e.addressSize else e.offsetSize))
  | 0x11 => some do return .unitRef (← number 1)
  | 0x12 => some do return .unitRef (← number 2)
  | 0x13 => some do return .unitRef (← number 4)
  | 0x14 => some do return .unitRef (← number 8)
  | 0x15 => some do return .unitRef (← unsigned)
  | 0x18 => some do return .expression (← blockOf (← unsigned))
  | 0x19 => some (return .flag true)
  | 0x1B => some do return .addressIndex (← unsigned)
  | 0x1C => some do return .supplementInfoRef (← number 4)
  | 0x20 => some do return .typeSignature (← number 8)
  | 0x22 => some do return .locationListIndex (← unsigned)
  | 0x23 => some do return .rangeListIndex (← unsigned)
  | 0x24 => some do return .supplementInfoRef (← number 8)
  | 0x29 => some do return .addressIndex (← number 1)
  | 0x2A => some do return .addressIndex (← number 2)
  | 0x2B => some do return .addressIndex (← number 3)
  | 0x2C => some do return .addressIndex (← number 4)
  | 0x1F01 => some do return .addressIndex (← unsigned)
  | 0x1F20 => some do return .supplementInfoRef (← offset e)
  | _ => none

/-- A value of an entry. `implicit` is the constant that the abbreviation holds. -/
def rawValue (e : Encoding) (name form : Nat) (implicit : Option Int64) : Decoder RawValue := do
  let direct ← directForm ((← left) + 1) form
  if direct = formImplicitConstant then
    match implicit with
    | some n => return .signed n
    | none => fail .missingConstant
  else if isOffsetAttribute name e.version ∧ direct = (if e.wide then 0x07 else 0x06) then
    return .sectionOffset (← offset e)
  else
    match commonForm? e direct <|> entryForm? e direct with
    | some d => d
    | none => fail (.unknownForm direct)

end Decoder

/-! ## Meanings -/

namespace RawValue

def natural? : RawValue → Option Nat
  | .constant n => some n
  | .signed n => if 0 ≤ n then some n.toInt.toNat else none
  | _ => none

/-- Attributes whose constants are numbers. -/
def isCount (name : Nat) : Bool :=
  [0x0B, 0x0C, 0x0D, 0x12, 0x2E, 0x38, 0x39, 0x3B, 0x51, 0x57, 0x59].contains name

def codeRole? : Nat → Option CodeRole
  | 0x09 => some .ordering
  | 0x17 => some .visibility
  | 0x20 => some .inline
  | 0x32 => some .accessibility
  | 0x36 => some .callingConvention
  | 0x3E => some .encoding
  | 0x42 => some .identifierCase
  | 0x4C => some .virtuality
  | 0x5E => some .decimalSign
  | 0x65 => some .endianity
  | _ => none

/-- Attributes whose blocks are expressions. -/
def isExpression (name : Nat) : Bool :=
  [0x02, 0x0B, 0x0C, 0x0D, 0x19, 0x22, 0x2A, 0x2E, 0x2F, 0x37, 0x38, 0x40, 0x46, 0x48, 0x4A, 0x4D,
    0x4E, 0x4F, 0x50, 0x51, 0x71, 0x7E, 0x7F, 0x83, 0x84, 0x85, 0x86].contains name

def offsetRole? : Nat → Option OffsetRole
  | 0x10 => some .line
  | 0x02 | 0x19 | 0x2A | 0x38 | 0x40 | 0x46 | 0x48 | 0x4A | 0x4D => some .locationLists
  | 0x2C | 0x55 => some .rangeLists
  | 0x43 => some .macinfo
  | 0x79 => some .macros
  | 0x72 => some .stringOffsets
  | 0x73 | 0x2133 => some .addresses
  | 0x74 | 0x2132 => some .rangeListOffsets
  | 0x8C => some .locationListOffsets
  | _ => none

def ofConstant (name n : Nat) : Option RawValue :=
  if isCount name then some (.constant n)
  else if name = 0x3A ∨ name = 0x58 then some (.fileIndex n)
  else if name = 0x2131 then some (.splitId n)
  else if name = 0x33 then some (.addressClass n)
  else if name = 0x13 then if n < 65536 then some (.language n) else none
  else if n < 256 then (codeRole? name).map fun role => .code role n
  else none

def meaning (name : Nat) (v : RawValue) : RawValue :=
  match v with
  | .block octets => if isExpression name then .expression octets else v
  | .sectionOffset n => (offsetRole? name).elim v fun role => .pointer role n
  | _ => (v.natural?.bind (ofConstant name)).getD v

end RawValue

/-! ## Texts of values that facts do not use -/

def OffsetRole.outer : OffsetRole → String
  | .line => "DebugLineRef"
  | .locationLists => "LocationListsRef"
  | .rangeLists => "RangeListsRef"
  | .macinfo => "DebugMacinfoRef"
  | .macros => "DebugMacroRef"
  | .stringOffsets => "DebugStrOffsetsBase"
  | .addresses => "DebugAddrBase"
  | .rangeListOffsets => "DebugRngListsBase"
  | .locationListOffsets => "DebugLocListsBase"

def OffsetRole.inner : OffsetRole → String
  | .line => "DebugLineOffset"
  | .locationLists => "LocationListsOffset"
  | .rangeLists => "RawRangeListsOffset"
  | .macinfo => "DebugMacinfoOffset"
  | .macros => "DebugMacroOffset"
  | .stringOffsets => "DebugStrOffsetsBase"
  | .addresses => "DebugAddrBase"
  | .rangeListOffsets => "DebugRngListsBase"
  | .locationListOffsets => "DebugLocListsBase"

def CodeRole.outer : CodeRole → String
  | .encoding => "Encoding"
  | .accessibility => "Accessibility"
  | .visibility => "Visibility"
  | .virtuality => "Virtuality"
  | .inline => "Inline"
  | .ordering => "Ordering"
  | .callingConvention => "CallingConvention"
  | .identifierCase => "IdentifierCase"
  | .decimalSign => "DecimalSign"
  | .endianity => "Endianity"

def CodeRole.inner : CodeRole → String
  | .encoding => "DwAte"
  | .accessibility => "DwAccess"
  | .visibility => "DwVis"
  | .virtuality => "DwVirtuality"
  | .inline => "DwInl"
  | .ordering => "DwOrd"
  | .callingConvention => "DwCc"
  | .identifierCase => "DwId"
  | .decimalSign => "DwDs"
  | .endianity => "DwEnd"

def nested (outer inner : String) (n : Nat) : String :=
  outer ++ "(" ++ inner ++ "(" ++ toString n ++ "))"

def octetText (b : UInt8) : String :=
  String.ofList ['0', 'x', Text.hexDigit (b.toNat / 16), Text.hexDigit (b.toNat % 16)]

/-- At most eight octets are listed. -/
def octetsText (big : Bool) (octets : ByteArray) : String :=
  let listed := (octets.extract 0 8).data.toList.map octetText
  let more := if 8 < octets.size then ["...; " ++ toString octets.size] else []
  "EndianSlice(" ++ (if big then "Big" else "Little") ++ ", [" ++
    ", ".intercalate (listed ++ more) ++ "])"

def signedText (n : Int64) : String := toString n.toInt

def RawValue.describe (big : Bool) : RawValue → String
  | .address n => "Addr(" ++ toString n ++ ")"
  | .constant n => "Udata(" ++ toString n ++ ")"
  | .signed n => "Sdata(" ++ signedText n ++ ")"
  | .flag b => "Flag(" ++ (if b then "true" else "false") ++ ")"
  | .block octets => "Block(" ++ octetsText big octets ++ ")"
  | .expression octets => "Exprloc(Expression(" ++ octetsText big octets ++ "))"
  | .sectionOffset n => "SecOffset(" ++ toString n ++ ")"
  | .unitRef n => nested "UnitRef" "UnitOffset" n
  | .infoRef n => nested "DebugInfoRef" "DebugInfoOffset" n
  | .supplementInfoRef n => nested "DebugInfoRefSup" "DebugInfoOffset" n
  | .typeSignature n => nested "DebugTypesRef" "DebugTypeSignature" n
  | .text octets => "String(" ++ octetsText big octets ++ ")"
  | .stringRef n => nested "DebugStrRef" "DebugStrOffset" n
  | .supplementStringRef n => nested "DebugStrRefSup" "DebugStrOffset" n
  | .lineStringRef n => nested "DebugLineStrRef" "DebugLineStrOffset" n
  | .stringIndex n => nested "DebugStrOffsetsIndex" "DebugStrOffsetsIndex" n
  | .addressIndex n => nested "DebugAddrIndex" "DebugAddrIndex" n
  | .locationListIndex n => nested "DebugLocListsIndex" "DebugLocListsIndex" n
  | .rangeListIndex n => nested "DebugRngListsIndex" "DebugRngListsIndex" n
  | .fileIndex n => "FileIndex(" ++ toString n ++ ")"
  | .splitId n => nested "DwoId" "DwoId" n
  | .addressClass n => nested "AddressClass" "DwAddr" n
  | .language n => nested "Language" "DwLang" n
  | .code role n => nested role.outer role.inner n
  | .pointer role n => nested role.outer role.inner n

end ElfFacts.Dwarf
