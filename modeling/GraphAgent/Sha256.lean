import GraphAgent.JsonValue
import Mathlib.Data.List.GetD

/-!
# SHA-256

`hashlib.sha256(...).hexdigest()` over byte lists.  The contract modules take
any digest function; this is the one the program runs with.
-/

namespace GraphAgent.Sha256

def roundConstants : List UInt32 :=
  [0x428a2f98, 0x71374491, 0xb5c0fbcf, 0xe9b5dba5, 0x3956c25b, 0x59f111f1, 0x923f82a4,
    0xab1c5ed5, 0xd807aa98, 0x12835b01, 0x243185be, 0x550c7dc3, 0x72be5d74, 0x80deb1fe,
    0x9bdc06a7, 0xc19bf174, 0xe49b69c1, 0xefbe4786, 0x0fc19dc6, 0x240ca1cc, 0x2de92c6f,
    0x4a7484aa, 0x5cb0a9dc, 0x76f988da, 0x983e5152, 0xa831c66d, 0xb00327c8, 0xbf597fc7,
    0xc6e00bf3, 0xd5a79147, 0x06ca6351, 0x14292967, 0x27b70a85, 0x2e1b2138, 0x4d2c6dfc,
    0x53380d13, 0x650a7354, 0x766a0abb, 0x81c2c92e, 0x92722c85, 0xa2bfe8a1, 0xa81a664b,
    0xc24b8b70, 0xc76c51a3, 0xd192e819, 0xd6990624, 0xf40e3585, 0x106aa070, 0x19a4c116,
    0x1e376c08, 0x2748774c, 0x34b0bcb5, 0x391c0cb3, 0x4ed8aa4a, 0x5b9cca4f, 0x682e6ff3,
    0x748f82ee, 0x78a5636f, 0x84c87814, 0x8cc70208, 0x90befffa, 0xa4506ceb, 0xbef9a3f7,
    0xc67178f2]

structure Words where
  a : UInt32
  b : UInt32
  c : UInt32
  d : UInt32
  e : UInt32
  f : UInt32
  g : UInt32
  h : UInt32

def initialWords : Words :=
  ⟨0x6a09e667, 0xbb67ae85, 0x3c6ef372, 0xa54ff53a, 0x510e527f, 0x9b05688c, 0x1f83d9ab,
    0x5be0cd19⟩

def Words.add (left right : Words) : Words :=
  ⟨left.a + right.a, left.b + right.b, left.c + right.c, left.d + right.d,
    left.e + right.e, left.f + right.f, left.g + right.g, left.h + right.h⟩

def rotateRight (word amount : UInt32) : UInt32 :=
  (word >>> amount) ||| (word <<< (32 - amount))

def round (words : Words) (message : UInt32) (constant : UInt32) : Words :=
  let sigmaE := rotateRight words.e 6 ^^^ rotateRight words.e 11 ^^^ rotateRight words.e 25
  let choice := (words.e &&& words.f) ^^^ ((~~~ words.e) &&& words.g)
  let first := words.h + sigmaE + choice + constant + message
  let sigmaA := rotateRight words.a 2 ^^^ rotateRight words.a 13 ^^^ rotateRight words.a 22
  let majority := (words.a &&& words.b) ^^^ (words.a &&& words.c) ^^^ (words.b &&& words.c)
  ⟨first + (sigmaA + majority), words.a, words.b, words.c, words.d + first, words.e,
    words.f, words.g⟩

def nextScheduleWord (window : List UInt32) : UInt32 :=
  let recent := window.getD 1 0
  let old := window.getD 14 0
  window.getD 15 0 + (rotateRight old 7 ^^^ rotateRight old 18 ^^^ (old >>> 3)) +
    window.getD 6 0 + (rotateRight recent 17 ^^^ rotateRight recent 19 ^^^ (recent >>> 10))

def rounds : List UInt32 → List UInt32 → List UInt32 → Words → Words
  | [], _, _, words => words
  | constant :: constants, message :: messages, window, words =>
    rounds constants messages (message :: window) (round words message constant)
  | constant :: constants, [], window, words =>
    let message := nextScheduleWord window
    rounds constants [] (message :: window.take 15) (round words message constant)

def compress (words : Words) (block : List UInt32) : Words :=
  words.add (rounds roundConstants block [] words)

def wordsOfBytes : Bytes → List UInt32
  | a :: b :: c :: d :: rest =>
    ((a.toUInt32 <<< 24) ||| (b.toUInt32 <<< 16) ||| (c.toUInt32 <<< 8) ||| d.toUInt32) ::
      wordsOfBytes rest
  | _ => []

def pad (message : Bytes) : Bytes :=
  let bits := 8 * message.length
  message ++ [0x80] ++ List.replicate ((119 - message.length % 64) % 64) 0 ++
    (List.range 8).map fun index => UInt8.ofNat (bits / 2 ^ (8 * (7 - index)))

def compressBlocks (words : Words) (message : List UInt32) : Nat → Words
  | 0 => words
  | blocks + 1 =>
    compressBlocks (compress words (message.take 16)) (message.drop 16) blocks

def digest (message : Bytes) : Words :=
  let padded := pad message
  compressBlocks initialWords (wordsOfBytes padded) (padded.length / 64)

def hexDigits : List Char := "0123456789abcdef".toList

def hexWord (word : UInt32) : List Char :=
  (List.range 8).map fun index =>
    hexDigits.getD (word.toNat / 16 ^ (7 - index) % 16) '0'

def hexdigest (message : Bytes) : List Char :=
  let words := digest message
  [words.a, words.b, words.c, words.d, words.e, words.f, words.g, words.h].flatMap hexWord

theorem length_hexdigest (message : Bytes) : (hexdigest message).length = 64 := by
  simp [hexdigest, hexWord]

theorem mem_hexDigits_of_mem_hexdigest {message : Bytes} {char : Char}
    (member : char ∈ hexdigest message) : char ∈ hexDigits := by
  obtain ⟨word, -, inWord⟩ := List.mem_flatMap.mp member
  obtain ⟨index, -, rfl⟩ := List.mem_map.mp inWord
  have bound : word.toNat / 16 ^ (7 - index) % 16 < hexDigits.length :=
    Nat.mod_lt _ (by decide)
  rw [List.getD_eq_getElem _ _ bound]
  exact List.getElem_mem bound

example : String.ofList (hexdigest "abc".toUTF8.data.toList) =
    "ba7816bf8f01cfea414140de5dae2223b00361a396177a9cb410ff61f20015ad" := by
  decide +kernel

end GraphAgent.Sha256
