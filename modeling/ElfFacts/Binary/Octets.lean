/-!
# Numbers in rows of octets

Reading numbers and slices at an offset, with `none` where the row is too short.
-/
namespace ElfFacts.Octets

def slice? (b : ByteArray) (start length : Nat) : Option ByteArray :=
  if start + length ≤ b.size then some (b.extract start (start + length)) else none

/-- The number that `width` octets at an offset write, most significant octet first if `big`. -/
def nat? (big : Bool) (b : ByteArray) (offset width : Nat) : Option Nat :=
  if offset + width ≤ b.size then
    let digits := (List.range width).map fun i => (b.get! (offset + i)).toNat
    some ((if big then digits else digits.reverse).foldl (fun n d => n * 256 + d) 0)
  else none

end ElfFacts.Octets
