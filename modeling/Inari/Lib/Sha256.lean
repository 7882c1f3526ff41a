import Inari.Lib.Framing

/-!
# SHA-256

The digest of FIPS 180-4. Words are numbers below `2 ^ 32`.
-/

namespace Inari.Lib.Sha256

def constants : List Nat :=
  [0x428a2f98, 0x71374491, 0xb5c0fbcf, 0xe9b5dba5, 0x3956c25b, 0x59f111f1, 0x923f82a4, 0xab1c5ed5,
   0xd807aa98, 0x12835b01, 0x243185be, 0x550c7dc3, 0x72be5d74, 0x80deb1fe, 0x9bdc06a7, 0xc19bf174,
   0xe49b69c1, 0xefbe4786, 0x0fc19dc6, 0x240ca1cc, 0x2de92c6f, 0x4a7484aa, 0x5cb0a9dc, 0x76f988da,
   0x983e5152, 0xa831c66d, 0xb00327c8, 0xbf597fc7, 0xc6e00bf3, 0xd5a79147, 0x06ca6351, 0x14292967,
   0x27b70a85, 0x2e1b2138, 0x4d2c6dfc, 0x53380d13, 0x650a7354, 0x766a0abb, 0x81c2c92e, 0x92722c85,
   0xa2bfe8a1, 0xa81a664b, 0xc24b8b70, 0xc76c51a3, 0xd192e819, 0xd6990624, 0xf40e3585, 0x106aa070,
   0x19a4c116, 0x1e376c08, 0x2748774c, 0x34b0bcb5, 0x391c0cb3, 0x4ed8aa4a, 0x5b9cca4f, 0x682e6ff3,
   0x748f82ee, 0x78a5636f, 0x84c87814, 0x8cc70208, 0x90befffa, 0xa4506ceb, 0xbef9a3f7, 0xc67178f2]

structure State where
  (a b c d e f g h : Nat)

def initial : State :=
  ⟨0x6a09e667, 0xbb67ae85, 0x3c6ef372, 0xa54ff53a, 0x510e527f, 0x9b05688c, 0x1f83d9ab, 0x5be0cd19⟩

def modulus : Nat := 0x100000000

/-- The word twice in a row; what is shifted out of the first is in the second. -/
def twice (x : Nat) : Nat := x * (modulus + 1)

def mix (x y i j k : Nat) : Nat := (twice x >>> i ^^^ twice x >>> j ^^^ y >>> k) % modulus

def round (s : State) (kw : Nat) : State :=
  let t := s.h + mix s.e (twice s.e) 6 11 25 + (s.g ^^^ s.e &&& (s.f ^^^ s.g)) + kw
  ⟨(t + mix s.a (twice s.a) 2 13 22 + (s.a &&& s.b ||| s.c &&& (s.a ||| s.b))) % modulus, s.a, s.b,
    s.c, (s.d + t) % modulus, s.e, s.f, s.g⟩

/-- The rounds of the constants, on a window of sixteen words of the schedule. -/
def rounds : List Nat → List Nat → State → State
  | k :: ks, w :: ws, s =>
    let x := ws.getD 0 0
    let y := ws.getD 13 0
    rounds ks (ws ++ [(w + mix x x 7 18 3 + ws.getD 8 0 + mix y y 17 19 10) % modulus])
      (round s (k + w))
  | _, _, s => s

def compress (s : State) (block : List Nat) : State :=
  let r := rounds constants block s
  ⟨(s.a + r.a) % modulus, (s.b + r.b) % modulus, (s.c + r.c) % modulus, (s.d + r.d) % modulus,
    (s.e + r.e) % modulus, (s.f + r.f) % modulus, (s.g + r.g) % modulus, (s.h + r.h) % modulus⟩

def pad (message : List UInt8) : List UInt8 :=
  message ++ 128 :: List.replicate ((119 - message.length % 64) % 64) 0 ++
    digits 256 UInt8.ofNat 8 (8 * message.length)

def words : List UInt8 → List Nat
  | a :: b :: c :: d :: rest =>
    (((a.toNat * 256 + b.toNat) * 256 + c.toNat) * 256 + d.toNat) :: words rest
  | _ => []

def blocks : Nat → List Nat → List (List Nat)
  | 0, _ => []
  | n + 1, ws => ws.take 16 :: blocks n (ws.drop 16)

def digest (message : List UInt8) : List UInt8 :=
  let padded := pad message
  let s := (blocks (padded.length / 64) (words padded)).foldl compress initial
  [s.a, s.b, s.c, s.d, s.e, s.f, s.g, s.h].flatMap (digits 256 UInt8.ofNat 4)

lemma length_digest (message : List UInt8) : (digest message).length = 32 := by
  simp [digest]

/-- The digest of `abc` -/
example : digest [97, 98, 99] = [0xba, 0x78, 0x16, 0xbf, 0x8f, 0x01, 0xcf, 0xea, 0x41, 0x41, 0x40,
    0xde, 0x5d, 0xae, 0x22, 0x23, 0xb0, 0x03, 0x61, 0xa3, 0x96, 0x17, 0x7a, 0x9c, 0xb4, 0x10, 0xff,
    0x61, 0xf2, 0x00, 0x15, 0xad] := by
  decide +kernel

end Inari.Lib.Sha256
