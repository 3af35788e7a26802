namespace ProtoApi.Sha256

/-!
# SHA-256

* `paddedBytes` — a message, extended by a single bit, zeros and its length to a multiple of 64
  bytes;
* `schedule` — the 64 words that one block of a message is expanded to;
* `compress` — mixes one block into the state;
* `digest` — the state after all blocks, as hexadecimal digits.
-/

/-- The eight words that are carried from block to block. -/
structure State where
  a : UInt32
  b : UInt32
  c : UInt32
  d : UInt32
  e : UInt32
  f : UInt32
  g : UInt32
  h : UInt32
deriving DecidableEq

/-- The state before the first block: fractional parts of the square roots of the first eight
    primes. -/
def initial : State :=
  ⟨0x6a09e667, 0xbb67ae85, 0x3c6ef372, 0xa54ff53a,
    0x510e527f, 0x9b05688c, 0x1f83d9ab, 0x5be0cd19⟩

/-- The round constants: fractional parts of the cube roots of the first 64 primes. -/
def roundConstants : Array UInt32 := #[
  0x428a2f98, 0x71374491, 0xb5c0fbcf, 0xe9b5dba5, 0x3956c25b, 0x59f111f1, 0x923f82a4, 0xab1c5ed5,
  0xd807aa98, 0x12835b01, 0x243185be, 0x550c7dc3, 0x72be5d74, 0x80deb1fe, 0x9bdc06a7, 0xc19bf174,
  0xe49b69c1, 0xefbe4786, 0x0fc19dc6, 0x240ca1cc, 0x2de92c6f, 0x4a7484aa, 0x5cb0a9dc, 0x76f988da,
  0x983e5152, 0xa831c66d, 0xb00327c8, 0xbf597fc7, 0xc6e00bf3, 0xd5a79147, 0x06ca6351, 0x14292967,
  0x27b70a85, 0x2e1b2138, 0x4d2c6dfc, 0x53380d13, 0x650a7354, 0x766a0abb, 0x81c2c92e, 0x92722c85,
  0xa2bfe8a1, 0xa81a664b, 0xc24b8b70, 0xc76c51a3, 0xd192e819, 0xd6990624, 0xf40e3585, 0x106aa070,
  0x19a4c116, 0x1e376c08, 0x2748774c, 0x34b0bcb5, 0x391c0cb3, 0x4ed8aa4a, 0x5b9cca4f, 0x682e6ff3,
  0x748f82ee, 0x78a5636f, 0x84c87814, 0x8cc70208, 0x90befffa, 0xa4506ceb, 0xbef9a3f7, 0xc67178f2]

/-- A word turned right by `n` bits. -/
def rotateRight (x n : UInt32) : UInt32 := (x >>> n) ||| (x <<< (32 - n))

/-- A message with its padding. -/
def paddedBytes (message : Array UInt8) : Array UInt8 :=
  let zeros := (55 + 64 - message.size % 64) % 64
  let bits := 8 * message.size
  let length := (Array.range 8).map fun i => (bits >>> (8 * (7 - i))).toUInt8
  message.push 0x80 ++ Array.replicate zeros 0 ++ length

/-- The word of four bytes from a position on. -/
def wordAt (bytes : Array UInt8) (i : Nat) : UInt32 :=
  let byte := fun j => (bytes.getD (i + j) 0).toUInt32
  (byte 0 <<< 24) ||| (byte 1 <<< 16) ||| (byte 2 <<< 8) ||| byte 3

/-- The next word of a schedule of which at least sixteen words are known. -/
def nextWord (words : Array UInt32) : UInt32 :=
  let back := fun j => words.getD (words.size - j) 0
  let x := back 15
  let y := back 2
  let s₀ := rotateRight x 7 ^^^ rotateRight x 18 ^^^ (x >>> 3)
  let s₁ := rotateRight y 17 ^^^ rotateRight y 19 ^^^ (y >>> 10)
  back 16 + s₀ + back 7 + s₁

/-- The 64 words of the block that begins at a position. -/
def schedule (bytes : Array UInt8) (start : Nat) : Array UInt32 :=
  let first := (Array.range 16).map fun i => wordAt bytes (start + 4 * i)
  (List.range 48).foldl (fun words _ => words.push (nextWord words)) first

/-- One round with a constant and a word of the schedule. -/
def round (s : State) (constant word : UInt32) : State :=
  let s₁ := rotateRight s.e 6 ^^^ rotateRight s.e 11 ^^^ rotateRight s.e 25
  let choice := (s.e &&& s.f) ^^^ (~~~s.e &&& s.g)
  let t₁ := s.h + s₁ + choice + constant + word
  let s₀ := rotateRight s.a 2 ^^^ rotateRight s.a 13 ^^^ rotateRight s.a 22
  let majority := (s.a &&& s.b) ^^^ (s.a &&& s.c) ^^^ (s.b &&& s.c)
  ⟨t₁ + s₀ + majority, s.a, s.b, s.c, s.d + t₁, s.e, s.f, s.g⟩

/-- Mixes the block that begins at a position into the state. -/
def compress (bytes : Array UInt8) (s : State) (start : Nat) : State :=
  let words := schedule bytes start
  let t := (List.range 64).foldl (fun t i => round t (roundConstants.getD i 0) (words.getD i 0)) s
  ⟨s.a + t.a, s.b + t.b, s.c + t.c, s.d + t.d, s.e + t.e, s.f + t.f, s.g + t.g, s.h + t.h⟩

/-- The state after a whole message. -/
def hash (message : Array UInt8) : State :=
  let bytes := paddedBytes message
  (List.range (bytes.size / 64)).foldl (fun s i => compress bytes s (64 * i)) initial

/-- A word in eight hexadecimal digits. -/
def wordDigits (w : UInt32) : List Char :=
  (List.range 8).map fun i => Nat.digitChar ((w.toNat >>> (4 * (7 - i))) % 16)

/-- The digest of a text, taken of its bytes, in hexadecimal digits. -/
def digest (text : String) : String :=
  let s := hash text.toUTF8.data
  String.ofList ([s.a, s.b, s.c, s.d, s.e, s.f, s.g, s.h].flatMap wordDigits)

/-- Every word has eight digits. -/
theorem length_wordDigits (w : UInt32) : (wordDigits w).length = 8 := by
  simp [wordDigits]

end ProtoApi.Sha256
