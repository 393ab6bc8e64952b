/-! The hash function SHA-256 of FIPS 180-4 on lists of bytes, and keyed hashing with it: the HMAC of RFC 2104. -/

namespace BearerProxy.Digest.Sha256

def roundConstants : List UInt32 := [
  0x428a2f98, 0x71374491, 0xb5c0fbcf, 0xe9b5dba5, 0x3956c25b, 0x59f111f1, 0x923f82a4, 0xab1c5ed5,
  0xd807aa98, 0x12835b01, 0x243185be, 0x550c7dc3, 0x72be5d74, 0x80deb1fe, 0x9bdc06a7, 0xc19bf174,
  0xe49b69c1, 0xefbe4786, 0x0fc19dc6, 0x240ca1cc, 0x2de92c6f, 0x4a7484aa, 0x5cb0a9dc, 0x76f988da,
  0x983e5152, 0xa831c66d, 0xb00327c8, 0xbf597fc7, 0xc6e00bf3, 0xd5a79147, 0x06ca6351, 0x14292967,
  0x27b70a85, 0x2e1b2138, 0x4d2c6dfc, 0x53380d13, 0x650a7354, 0x766a0abb, 0x81c2c92e, 0x92722c85,
  0xa2bfe8a1, 0xa81a664b, 0xc24b8b70, 0xc76c51a3, 0xd192e819, 0xd6990624, 0xf40e3585, 0x106aa070,
  0x19a4c116, 0x1e376c08, 0x2748774c, 0x34b0bcb5, 0x391c0cb3, 0x4ed8aa4a, 0x5b9cca4f, 0x682e6ff3,
  0x748f82ee, 0x78a5636f, 0x84c87814, 0x8cc70208, 0x90befffa, 0xa4506ceb, 0xbef9a3f7, 0xc67178f2]

structure State where
  a : UInt32
  b : UInt32
  c : UInt32
  d : UInt32
  e : UInt32
  f : UInt32
  g : UInt32
  h : UInt32

def initialState : State :=
  ⟨0x6a09e667, 0xbb67ae85, 0x3c6ef372, 0xa54ff53a, 0x510e527f, 0x9b05688c, 0x1f83d9ab, 0x5be0cd19⟩

def rotateRight (word : UInt32) (amount : UInt32) : UInt32 :=
  (word >>> amount) ||| (word <<< (32 - amount))

def smallSigma0 (word : UInt32) : UInt32 :=
  rotateRight word 7 ^^^ rotateRight word 18 ^^^ (word >>> 3)

def smallSigma1 (word : UInt32) : UInt32 :=
  rotateRight word 17 ^^^ rotateRight word 19 ^^^ (word >>> 10)

def largeSigma0 (word : UInt32) : UInt32 :=
  rotateRight word 2 ^^^ rotateRight word 13 ^^^ rotateRight word 22

def largeSigma1 (word : UInt32) : UInt32 :=
  rotateRight word 6 ^^^ rotateRight word 11 ^^^ rotateRight word 25

def choose (x y z : UInt32) : UInt32 := (x &&& y) ^^^ (~~~x &&& z)

def majority (x y z : UInt32) : UInt32 := (x &&& y) ^^^ (x &&& z) ^^^ (y &&& z)

def wordOf (first second third fourth : UInt8) : UInt32 :=
  (first.toUInt32 <<< 24) ||| (second.toUInt32 <<< 16) ||| (third.toUInt32 <<< 8) |||
    fourth.toUInt32

def wordsOf : List UInt8 → List UInt32
  | first :: second :: third :: fourth :: rest => wordOf first second third fourth :: wordsOf rest
  | _ => []

def bytesOfWord (word : UInt32) : List UInt8 :=
  [(word >>> 24).toUInt8, (word >>> 16).toUInt8, (word >>> 8).toUInt8, word.toUInt8]

def extendSchedule : Nat → Array UInt32 → Array UInt32
  | 0, words => words
  | count + 1, words =>
      let back (distance : Nat) : UInt32 := words.getD (words.size - distance) 0
      extendSchedule count
        (words.push (smallSigma1 (back 2) + back 7 + smallSigma0 (back 15) + back 16))

def step (state : State) (constantAndWord : UInt32 × UInt32) : State :=
  let first :=
    state.h + largeSigma1 state.e + choose state.e state.f state.g + constantAndWord.1 +
      constantAndWord.2
  let second := largeSigma0 state.a + majority state.a state.b state.c
  ⟨first + second, state.a, state.b, state.c, state.d + first, state.e, state.f, state.g⟩

def compress (state : State) (block : List UInt32) : State :=
  let schedule := (extendSchedule 48 block.toArray).toList
  let mixed := (roundConstants.zip schedule).foldl step state
  ⟨state.a + mixed.a, state.b + mixed.b, state.c + mixed.c, state.d + mixed.d,
   state.e + mixed.e, state.f + mixed.f, state.g + mixed.g, state.h + mixed.h⟩

/-- The message, a set bit, the fewest zeros that complete the last block, and the length in bits. -/
def pad (message : List UInt8) : List UInt8 :=
  let bits := UInt64.ofNat (8 * message.length)
  let zeros := (119 - message.length % 64) % 64
  message ++ (0x80 : UInt8) :: List.replicate zeros 0 ++
    bytesOfWord (bits >>> 32).toUInt32 ++ bytesOfWord bits.toUInt32

def compressBlocks : Nat → State → List UInt32 → State
  | 0, state, _ => state
  | count + 1, state, words => compressBlocks count (compress state (words.take 16)) (words.drop 16)

def hash (message : List UInt8) : List UInt8 :=
  let words := wordsOf (pad message)
  let state := compressBlocks (words.length / 16) initialState words
  [state.a, state.b, state.c, state.d, state.e, state.f, state.g, state.h].flatMap bytesOfWord

end BearerProxy.Digest.Sha256

namespace BearerProxy.Digest

def blockKey (key : List UInt8) : List UInt8 :=
  let short := if 64 < key.length then Sha256.hash key else key
  short ++ List.replicate (64 - short.length) 0

def hmacSha256 (key message : List UInt8) : List UInt8 :=
  let block := blockKey key
  let inner := Sha256.hash (block.map (· ^^^ 0x36) ++ message)
  Sha256.hash (block.map (· ^^^ 0x5c) ++ inner)

end BearerProxy.Digest
