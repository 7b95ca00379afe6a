/-!
# SHA-256

The digest of a row of octets, block by block over a chaining value of eight words.
-/
namespace ElfFacts.Sha256

def roundConstants : Array UInt32 := #[
  0x428a2f98, 0x71374491, 0xb5c0fbcf, 0xe9b5dba5, 0x3956c25b, 0x59f111f1, 0x923f82a4, 0xab1c5ed5,
  0xd807aa98, 0x12835b01, 0x243185be, 0x550c7dc3, 0x72be5d74, 0x80deb1fe, 0x9bdc06a7, 0xc19bf174,
  0xe49b69c1, 0xefbe4786, 0x0fc19dc6, 0x240ca1cc, 0x2de92c6f, 0x4a7484aa, 0x5cb0a9dc, 0x76f988da,
  0x983e5152, 0xa831c66d, 0xb00327c8, 0xbf597fc7, 0xc6e00bf3, 0xd5a79147, 0x06ca6351, 0x14292967,
  0x27b70a85, 0x2e1b2138, 0x4d2c6dfc, 0x53380d13, 0x650a7354, 0x766a0abb, 0x81c2c92e, 0x92722c85,
  0xa2bfe8a1, 0xa81a664b, 0xc24b8b70, 0xc76c51a3, 0xd192e819, 0xd6990624, 0xf40e3585, 0x106aa070,
  0x19a4c116, 0x1e376c08, 0x2748774c, 0x34b0bcb5, 0x391c0cb3, 0x4ed8aa4a, 0x5b9cca4f, 0x682e6ff3,
  0x748f82ee, 0x78a5636f, 0x84c87814, 0x8cc70208, 0x90befffa, 0xa4506ceb, 0xbef9a3f7, 0xc67178f2]

structure Chain where
  a : UInt32
  b : UInt32
  c : UInt32
  d : UInt32
  e : UInt32
  f : UInt32
  g : UInt32
  h : UInt32

def initial : Chain :=
  ⟨0x6a09e667, 0xbb67ae85, 0x3c6ef372, 0xa54ff53a, 0x510e527f, 0x9b05688c, 0x1f83d9ab, 0x5be0cd19⟩

def rotate (x : UInt32) (n : UInt32) : UInt32 := (x >>> n) ||| (x <<< (32 - n))

def word (octets : ByteArray) (at_ : Nat) : UInt32 :=
  ((octets.get! at_).toUInt32 <<< 24) ||| ((octets.get! (at_ + 1)).toUInt32 <<< 16) |||
    ((octets.get! (at_ + 2)).toUInt32 <<< 8) ||| (octets.get! (at_ + 3)).toUInt32

/-- The words of a block followed by words mixed from earlier ones. -/
def schedule (octets : ByteArray) (start : Nat) : Array UInt32 :=
  (List.range 64).foldl (fun w i =>
    if i < 16 then w.push (word octets (start + 4 * i))
    else
      let x := w[i - 15]!
      let y := w[i - 2]!
      w.push (w[i - 16]! + (rotate x 7 ^^^ rotate x 18 ^^^ (x >>> 3)) + w[i - 7]! +
        (rotate y 17 ^^^ rotate y 19 ^^^ (y >>> 10)))) (Array.emptyWithCapacity 64)

def round (s : Chain) (k w : UInt32) : Chain :=
  let t₁ := s.h + (rotate s.e 6 ^^^ rotate s.e 11 ^^^ rotate s.e 25) +
    ((s.e &&& s.f) ^^^ (~~~ s.e &&& s.g)) + k + w
  let t₂ := (rotate s.a 2 ^^^ rotate s.a 13 ^^^ rotate s.a 22) +
    ((s.a &&& s.b) ^^^ (s.a &&& s.c) ^^^ (s.b &&& s.c))
  ⟨t₁ + t₂, s.a, s.b, s.c, s.d + t₁, s.e, s.f, s.g⟩

def compress (s : Chain) (octets : ByteArray) (start : Nat) : Chain :=
  let w := schedule octets start
  let t := (List.range 64).foldl (fun t i => round t roundConstants[i]! w[i]!) s
  ⟨s.a + t.a, s.b + t.b, s.c + t.c, s.d + t.d, s.e + t.e, s.f + t.f, s.g + t.g, s.h + t.h⟩

/-- A closing bit, zeros up to eight octets before a block's end, and the length in bits. -/
def pad (message : ByteArray) : ByteArray :=
  let zeros := (119 - message.size % 64) % 64
  let length := (List.range 8).map fun i =>
    UInt8.ofNat ((message.size * 8) >>> (8 * (7 - i)))
  message ++ ⟨(0x80 :: (List.replicate zeros 0 ++ length)).toArray⟩

def bigEndian (w : UInt32) : List UInt8 :=
  [(w >>> 24).toUInt8, (w >>> 16).toUInt8, (w >>> 8).toUInt8, w.toUInt8]

def digest (message : ByteArray) : List UInt8 :=
  let padded := pad message
  let s := (List.range (padded.size / 64)).foldl (fun s i => compress s padded (64 * i)) initial
  [s.a, s.b, s.c, s.d, s.e, s.f, s.g, s.h].flatMap bigEndian

theorem length_digest (message : ByteArray) : (digest message).length = 32 := rfl

end ElfFacts.Sha256
