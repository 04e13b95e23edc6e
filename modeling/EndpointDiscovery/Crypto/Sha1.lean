import EndpointDiscovery.Bytes.Words

/-!
# SHA-1

Here the digest is one of the names by which a certificate may be referred to.
-/

namespace EndpointDiscovery.Sha1

open Bytes

structure State where
  a : UInt32
  b : UInt32
  c : UInt32
  d : UInt32
  e : UInt32

def initial : State := ⟨0x67452301, 0xefcdab89, 0x98badcfe, 0x10325476, 0xc3d2e1f0⟩

def extend : Nat → List UInt32 → List UInt32
  | 0, words => words
  | count + 1, words =>
      extend count
        (rotateLeft
          (words.getD 2 0 ^^^ words.getD 7 0 ^^^ words.getD 13 0 ^^^
            words.getD 15 0) 1 :: words)

def schedule (block : List UInt32) : List UInt32 :=
  (extend 64 block.reverse).reverse

def mix (state : State) (round : Nat) : UInt32 × UInt32 :=
  let ⟨_, b, c, d, _⟩ := state
  match round / 20 with
  | 0 => ((b &&& c) ||| (~~~b &&& d), 0x5a827999)
  | 1 => (b ^^^ c ^^^ d, 0x6ed9eba1)
  | 2 => ((b &&& c) ||| (b &&& d) ||| (c &&& d), 0x8f1bbcdc)
  | _ => (b ^^^ c ^^^ d, 0xca62c1d6)

def step (state : State) : UInt32 × Nat → State
  | (word, round) =>
      let (mixed, constant) := mix state round
      ⟨rotateLeft state.a 5 + mixed + state.e + constant + word, state.a,
        rotateLeft state.b 30, state.c, state.d⟩

def compress (state : State) (block : List UInt32) : State :=
  let result := (schedule block).zipIdx.foldl step state
  ⟨state.a + result.a, state.b + result.b, state.c + result.c, state.d + result.d,
    state.e + result.e⟩

def digest (message : List UInt8) : List UInt8 :=
  let padded := padBlocks 64 message (bigEndian 8 (8 * message.length))
  let blocks := chunks (padded.length / 64) 64 padded
  let state :=
    blocks.foldl (fun state block => compress state (bigWords block)) initial
  [state.a, state.b, state.c, state.d, state.e].flatMap (bigEndian 4 ·.toNat)

end EndpointDiscovery.Sha1
