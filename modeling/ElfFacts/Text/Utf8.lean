/-!
# Reading octets as text

The reader is a machine fed one octet at a time. It gives out the characters of the text and a
`none` for every maximal ill-formed piece. `strict` accepts only text without such pieces, and
`lossy` shows each of them as U+FFFD.
-/
namespace ElfFacts.Utf8

/-- Between characters, or inside one: `pending n lo hi value` has read a lead octet with payload
`value`, expects an octet between `lo` and `hi` next, and `n` trailing octets after that. The
bounds rule out overlong forms, surrogates and code points above U+10FFFF. -/
inductive State where
  | start
  | pending (n : Nat) (lo hi : UInt8) (value : Nat)
  deriving DecidableEq, Repr

def begin (b : UInt8) : List (Option Char) × State :=
  if b < 0x80 then ([some (Char.ofNat b.toNat)], .start)
  else if b < 0xC2 then ([none], .start)
  else if b < 0xE0 then ([], .pending 0 0x80 0xBF (b.toNat % 32))
  else if b = 0xE0 then ([], .pending 1 0xA0 0xBF 0)
  else if b = 0xED then ([], .pending 1 0x80 0x9F 13)
  else if b < 0xF0 then ([], .pending 1 0x80 0xBF (b.toNat % 16))
  else if b = 0xF0 then ([], .pending 2 0x90 0xBF 0)
  else if b < 0xF4 then ([], .pending 2 0x80 0xBF (b.toNat % 8))
  else if b = 0xF4 then ([], .pending 2 0x80 0x8F 4)
  else ([none], .start)

/-- An octet that cannot continue a character ends an ill-formed piece and is read afresh. -/
def feed : State → UInt8 → List (Option Char) × State
  | .start, b => begin b
  | .pending n lo hi value, b =>
    if lo ≤ b ∧ b ≤ hi then
      match n with
      | 0 => ([some (Char.ofNat (value * 64 + b.toNat % 64))], .start)
      | n + 1 => ([], .pending n 0x80 0xBF (value * 64 + b.toNat % 64))
    else (none :: (begin b).1, (begin b).2)

def decodeFrom : State → List UInt8 → List (Option Char)
  | .start, [] => []
  | .pending .., [] => [none]
  | s, b :: r => (feed s b).1 ++ decodeFrom (feed s b).2 r

def decode (octets : List UInt8) : List (Option Char) := decodeFrom .start octets

@[simp] theorem decodeFrom_cons (s : State) (b : UInt8) (r : List UInt8) :
    decodeFrom s (b :: r) = (feed s b).1 ++ decodeFrom (feed s b).2 r := by
  cases s <;> rfl

def strict (octets : List UInt8) : Option (List Char) := (decode octets).mapM id

def strictString (octets : List UInt8) : Option String := (strict octets).map String.ofList

def replacement : Char := '\uFFFD'

def lossy (octets : List UInt8) : String :=
  String.ofList ((decode octets).map (·.getD replacement))

def encode (s : String) : List UInt8 := s.toUTF8.data.toList

end ElfFacts.Utf8
