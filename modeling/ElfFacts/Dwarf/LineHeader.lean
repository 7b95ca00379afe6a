import ElfFacts.Dwarf.Value

/-!
# Line program headers

A unit can point at a line program. Its lines are not used, but its header has to be readable.
-/
namespace ElfFacts.Dwarf.Decoder

def nonzero : Decoder Nat := do
  let n ← octet
  if n = 0 then fail .badLineHeader else return n

/-- Goes on inside the first octets only. -/
def within (length : Nat) : Decoder Unit := fun w => do
  let (inside, _) ← take length w
  return ((), inside)

/-- Texts up to an empty one, each with something after it. -/
def texts (after : Decoder Unit) : Decoder Unit := do
  let _ ← untilNone do
    if (← terminated).isEmpty then return none
    after
    return some ()

def fileFields : Decoder Unit := do
  let _ ← unsigned
  let _ ← unsigned
  let _ ← unsigned

def pathContent : Nat := 1

/-- The forms of the fields of an entry, exactly one of which is a path. -/
def entryFormat : Decoder (List Nat) := do
  let count ← octet
  let fields ← (List.range count).mapM fun _ => do
    let content ← unsigned
    return (content, ← unsigned16)
  if (fields.filter (·.1 = pathContent)).length = 1 then return fields.map (·.2)
  else fail .badLineHeader

def skipField (e : Encoding) (form : Nat) : Decoder Unit :=
  match commonForm? e form with
  | none => fail (.unknownForm form)
  | some value => do
    let _ ← value

def describedEntries (e : Encoding) : Decoder Unit := do
  let forms ← entryFormat
  repeated (forms.forM (skipField e)) (← unsigned)

/-- The fields that version 5 has before the length of the header. -/
def sizeFields : Decoder Unit := do
  let _ ← addressSize
  if (← octet) ≠ 0 then fail .badLineHeader

def lineFields (version : Nat) : Decoder Unit := do
  let _ ← nonzero
  if 4 ≤ version then
    let _ ← nonzero
  skip 2
  let _ ← nonzero
  skip ((← nonzero) - 1)

def lineHeader : Decoder Unit := do
  let (length, wide) ← initialLength
  within length
  let version ← number 2
  if version < 2 ∨ 5 < version then fail (.unknownVersion version)
  if version = 5 then sizeFields
  let e : Encoding := { wide, version, addressSize := 0 }
  within (← offset e)
  lineFields version
  if version ≤ 4 then
    texts (return ())
    texts fileFields
  else
    describedEntries e
    describedEntries e

end ElfFacts.Dwarf.Decoder
