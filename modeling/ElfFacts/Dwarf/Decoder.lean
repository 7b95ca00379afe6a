import ElfFacts.Binary.Octets

/-!
# Decoding a section step by step

A decoder takes octets off the front of a window on a section. Variable length numbers carry seven
bits an octet, the lowest first.
-/
namespace ElfFacts.Dwarf

inductive Fault where
  | endOfData
  | badNumber
  | reservedLength
  | unknownVersion (n : Nat)
  | addressSize (n : Nat)
  | unknownUnitType (n : Nat)
  | badAbbreviation
  | unknownAbbreviation (code : Nat)
  | unknownForm (form : Nat)
  | missingConstant
  | missingRoot
  | badLineHeader
  deriving DecidableEq, Repr

namespace Fault

def message : Fault → String
  | .endOfData => "the data ends too early"
  | .badNumber => "a variable length number does not fit into 64 bits"
  | .reservedLength => "a unit length is a reserved value"
  | .unknownVersion n => "unknown version " ++ toString n
  | .addressSize n => "unsupported address size " ++ toString n
  | .unknownUnitType n => "unknown unit type " ++ toString n
  | .badAbbreviation => "the abbreviations are malformed"
  | .unknownAbbreviation code => "unknown abbreviation " ++ toString code
  | .unknownForm form => "unknown form " ++ toString form
  | .missingConstant => "an implicit constant is missing"
  | .missingRoot => "a unit has no first entry"
  | .badLineHeader => "a line program header is malformed"

end Fault

/-- The octets of a section from `position` up to `stop`. -/
structure Window where
  bytes : ByteArray
  position : Nat
  stop : Nat
  big : Bool

namespace Window

def ofSection (bytes : ByteArray) (big : Bool) : Window := ⟨bytes, 0, bytes.size, big⟩

def size (w : Window) : Nat := w.stop - w.position

def isEmpty (w : Window) : Bool := w.size = 0

def contents (w : Window) : ByteArray := w.bytes.extract w.position w.stop

end Window

abbrev Decoder := StateT Window (Except Fault)

namespace Decoder

def fail {α : Type} (f : Fault) : Decoder α := fun _ => .error f

def left : Decoder Nat := fun w => .ok (w.size, w)

def take (n : Nat) : Decoder Window := fun w =>
  if n ≤ w.size then
    .ok ({ w with stop := w.position + n }, { w with position := w.position + n })
  else .error .endOfData

def skip (n : Nat) : Decoder Unit := do
  let _ ← take n

def number (width : Nat) : Decoder Nat := fun w =>
  if width ≤ w.size then
    match Octets.nat? w.big w.bytes w.position width with
    | some n => .ok (n, { w with position := w.position + width })
    | none => .error .endOfData
  else .error .endOfData

def octet : Decoder Nat := number 1

/-- Reads on with ten octets as fuel, as many as 64 bits can take. -/
def unsignedFrom : (fuel shift value : Nat) → Decoder Nat
  | 0, _, _ => fail .badNumber
  | fuel + 1, shift, value => do
    let b ← octet
    if shift = 63 ∧ 1 < b then fail .badNumber
    else
      let value := value + (b % 128) <<< shift
      if b < 128 then return value else unsignedFrom fuel (shift + 7) value

def unsigned : Decoder Nat := unsignedFrom 10 0 0

/-- An unsigned number of at most sixteen bits, in at most three octets. -/
def unsigned16 : Decoder Nat := do
  let a ← octet
  if a < 128 then return a
  let b ← octet
  if b < 128 then return a % 128 + b * 128
  let c ← octet
  if 3 < c then fail .badNumber
  else return a % 128 + b % 128 * 128 + c * 16384

def signedFrom : (fuel shift value : Nat) → Decoder Int64
  | 0, _, _ => fail .badNumber
  | fuel + 1, shift, value => do
    let b ← octet
    if shift = 63 ∧ b ≠ 0 ∧ b ≠ 127 then fail .badNumber
    else
      let value := value + (b % 128) <<< shift
      if b < 128 then
        let extended := if 64 ≤ b ∧ shift + 7 < 64 then value + (UInt64.size - 1 <<< (shift + 7)) else value
        return (UInt64.ofNat extended).toInt64
      else signedFrom fuel (shift + 7) value

/-- A signed number; the second highest bit of the last octet is its sign. -/
def signed : Decoder Int64 := signedFrom 10 0 0

/-- The octets up to a zero octet, which is taken off as well. -/
def terminated : Decoder ByteArray := fun w =>
  match (List.range w.size).find? fun n => w.bytes.get! (w.position + n) = 0 with
  | none => .error .endOfData
  | some n =>
    .ok (w.bytes.extract w.position (w.position + n), { w with position := w.position + n + 1 })

/-- Repeats a step until it gives nothing. The fuel is enough if every step takes an octet. -/
def untilNoneFrom {α : Type} (step : Decoder (Option α)) : (fuel : Nat) → Array α → Decoder (Array α)
  | 0, _ => fail .endOfData
  | fuel + 1, found => do
    match ← step with
    | none => return found
    | some a => untilNoneFrom step fuel (found.push a)

def untilNone {α : Type} (step : Decoder (Option α)) : Decoder (Array α) := do
  untilNoneFrom step ((← left) + 1) #[]

/-- Repeats a step a number of times. Every step that succeeds takes an octet, so the fuel is
enough. -/
def repeatFrom (step : Decoder Unit) : (fuel count : Nat) → Decoder Unit
  | 0, count => if count = 0 then return () else fail .endOfData
  | fuel + 1, count => do
    if count = 0 then return ()
    step
    repeatFrom step fuel (count - 1)

def repeated (step : Decoder Unit) (count : Nat) : Decoder Unit := do
  repeatFrom step ((← left) + 1) count

end Decoder

structure Encoding where
  /-- Offsets take eight octets instead of four. -/
  wide : Bool
  version : Nat
  addressSize : Nat
  deriving DecidableEq, Repr

namespace Encoding

def offsetSize (e : Encoding) : Nat := if e.wide then 8 else 4

end Encoding

namespace Decoder

def initialLength : Decoder (Nat × Bool) := do
  let n ← number 4
  if n < 0xFFFFFFF0 then return (n, false)
  else if n = 0xFFFFFFFF then return (← number 8, true)
  else fail .reservedLength

def addressSize : Decoder Nat := do
  let n ← octet
  if n = 1 ∨ n = 2 ∨ n = 4 ∨ n = 8 then return n else fail (.addressSize n)

def offset (e : Encoding) : Decoder Nat := number e.offsetSize

end Decoder

end ElfFacts.Dwarf
