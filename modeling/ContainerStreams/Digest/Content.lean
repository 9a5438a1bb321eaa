import ContainerStreams.Digest.Basic

set_option autoImplicit false

namespace ContainerStreams

namespace Sha256

abbrev State := Vector UInt32 8

/-- Fractional parts of the square roots of the first eight primes. -/
def initial : State :=
  #v[0x6a09e667, 0xbb67ae85, 0x3c6ef372, 0xa54ff53a, 0x510e527f, 0x9b05688c, 0x1f83d9ab, 0x5be0cd19]

/-- Fractional parts of the cube roots of the first sixty-four primes. -/
def roundConstants : List UInt32 :=
  [0x428a2f98, 0x71374491, 0xb5c0fbcf, 0xe9b5dba5, 0x3956c25b, 0x59f111f1, 0x923f82a4, 0xab1c5ed5,
   0xd807aa98, 0x12835b01, 0x243185be, 0x550c7dc3, 0x72be5d74, 0x80deb1fe, 0x9bdc06a7, 0xc19bf174,
   0xe49b69c1, 0xefbe4786, 0x0fc19dc6, 0x240ca1cc, 0x2de92c6f, 0x4a7484aa, 0x5cb0a9dc, 0x76f988da,
   0x983e5152, 0xa831c66d, 0xb00327c8, 0xbf597fc7, 0xc6e00bf3, 0xd5a79147, 0x06ca6351, 0x14292967,
   0x27b70a85, 0x2e1b2138, 0x4d2c6dfc, 0x53380d13, 0x650a7354, 0x766a0abb, 0x81c2c92e, 0x92722c85,
   0xa2bfe8a1, 0xa81a664b, 0xc24b8b70, 0xc76c51a3, 0xd192e819, 0xd6990624, 0xf40e3585, 0x106aa070,
   0x19a4c116, 0x1e376c08, 0x2748774c, 0x34b0bcb5, 0x391c0cb3, 0x4ed8aa4a, 0x5b9cca4f, 0x682e6ff3,
   0x748f82ee, 0x78a5636f, 0x84c87814, 0x8cc70208, 0x90befffa, 0xa4506ceb, 0xbef9a3f7, 0xc67178f2]

def rotateRight (word amount : UInt32) : UInt32 :=
  (word >>> amount) ||| (word <<< (32 - amount))

/-- The next sixteen-word window of the message schedule, one word further on. -/
def advance (window : Vector UInt32 16) : Vector UInt32 16 :=
  let s0 := rotateRight window[1] 7 ^^^ rotateRight window[1] 18 ^^^ (window[1] >>> 3)
  let s1 := rotateRight window[14] 17 ^^^ rotateRight window[14] 19 ^^^ (window[14] >>> 10)
  let next := window[0] + s0 + window[9] + s1
  Vector.ofFn fun i => if h : i.val + 1 < 16 then window[i.val + 1] else next

def round (state : State) (constant word : UInt32) : State :=
  let a := state[0]
  let e := state[4]
  let s1 := rotateRight e 6 ^^^ rotateRight e 11 ^^^ rotateRight e 25
  let choice := (e &&& state[5]) ^^^ (~~~e &&& state[6])
  let t1 := state[7] + s1 + choice + constant + word
  let s0 := rotateRight a 2 ^^^ rotateRight a 13 ^^^ rotateRight a 22
  let majority := (a &&& state[1]) ^^^ (a &&& state[2]) ^^^ (state[1] &&& state[2])
  #v[t1 + s0 + majority, a, state[1], state[2], state[3] + t1, e, state[5], state[6]]

def wordOfBytes (b0 b1 b2 b3 : UInt8) : UInt32 :=
  (b0.toUInt32 <<< 24) ||| (b1.toUInt32 <<< 16) ||| (b2.toUInt32 <<< 8) ||| b3.toUInt32

/-- The words of a block; bytes beyond a short block count as zero. -/
def blockWords (block : List UInt8) : Vector UInt32 16 :=
  let bytes := block.toArray
  Vector.ofFn fun i =>
    wordOfBytes (bytes.getD (4 * i) 0) (bytes.getD (4 * i + 1) 0)
      (bytes.getD (4 * i + 2) 0) (bytes.getD (4 * i + 3) 0)

def compress (state : State) (block : List UInt8) : State :=
  let step := fun (current : State × Vector UInt32 16) (constant : UInt32) =>
    (round current.1 constant current.2[0], advance current.2)
  let after := (roundConstants.foldl step (state, blockWords block)).1
  Vector.ofFn fun i => state[i] + after[i]

def lengthBytes (byteCount : Nat) : List UInt8 :=
  (List.range 8).map fun i => ((8 * byteCount) >>> (8 * (7 - i))).toUInt8

/-- A one bit, zeros up to eight bytes before the end of a block, and the length. -/
def padded (message : List UInt8) : List UInt8 :=
  message ++ [0x80] ++ List.replicate ((119 - message.length % 64) % 64) 0 ++
    lengthBytes message.length

/-- Hashes the given number of whole blocks. -/
def absorb (state : State) : Nat → List UInt8 → State
  | 0, _ => state
  | blocks + 1, bytes => absorb (compress state (bytes.take 64)) blocks (bytes.drop 64)

/-- The SHA-256 hash of a message. -/
def digest (message : List UInt8) : State :=
  let bytes := padded message
  absorb initial (bytes.length / 64) bytes

def wordHex (word : UInt32) : List Char :=
  (List.range 8).map fun i => Nat.digitChar (word.toNat >>> (4 * (7 - i)) % 16)

def digestHex (message : List UInt8) : List Char :=
  (digest message).toList.flatMap wordHex

theorem length_wordHex (word : UInt32) : (wordHex word).length = 8 := by
  simp [wordHex]

theorem length_digestHex (message : List UInt8) : (digestHex message).length = 64 := by
  simp [digestHex, List.length_flatMap, length_wordHex, List.map_const']

theorem length_padded (message : List UInt8) : (padded message).length % 64 = 0 := by
  simp only [padded, lengthBytes, List.length_append, List.length_cons, List.length_nil,
    List.length_replicate, List.length_map, List.length_range]
  omega

end Sha256

namespace ContentDigest

theorem isHexDigit_digitChar (n : Nat) (small : n < 16) : isHexDigit (Nat.digitChar n) = true := by
  have all : ∀ n < 16, isHexDigit (Nat.digitChar n) = true := by decide
  exact all n small

theorem isHexValue_digestHex (content : List UInt8) :
    isHexValue (Sha256.digestHex content) = true := by
  simp only [isHexValue, Sha256.length_digestHex, Bool.and_eq_true, decide_eq_true_eq,
    List.all_eq_true]
  refine ⟨by decide, fun c member => ?_⟩
  obtain ⟨word, _, digit⟩ := List.mem_flatMap.mp member
  obtain ⟨i, _, rfl⟩ := List.mem_map.mp digit
  exact isHexDigit_digitChar _ (Nat.mod_lt _ (by decide))

def ofContent (content : List UInt8) : ContentDigest :=
  ⟨"sha256", String.ofList (Sha256.digestHex content), by decide, by
    simpa using isHexValue_digestHex content⟩

end ContentDigest

end ContainerStreams
