/-!
# SHA-512

The digest of a message of any length has 64 bytes.  The message is filled up to whole blocks, and each block is
worked into a state of eight words in 80 rounds.
-/

namespace ConfigMigration.Sha512

/-- The words of the rounds: the first bits of the cube roots of the first primes behind the point. -/
def roundWords : List UInt64 :=
   [0x428a2f98d728ae22, 0x7137449123ef65cd, 0xb5c0fbcfec4d3b2f, 0xe9b5dba58189dbbc, 0x3956c25bf348b538,
    0x59f111f1b605d019, 0x923f82a4af194f9b, 0xab1c5ed5da6d8118, 0xd807aa98a3030242, 0x12835b0145706fbe,
    0x243185be4ee4b28c, 0x550c7dc3d5ffb4e2, 0x72be5d74f27b896f, 0x80deb1fe3b1696b1, 0x9bdc06a725c71235,
    0xc19bf174cf692694, 0xe49b69c19ef14ad2, 0xefbe4786384f25e3, 0x0fc19dc68b8cd5b5, 0x240ca1cc77ac9c65,
    0x2de92c6f592b0275, 0x4a7484aa6ea6e483, 0x5cb0a9dcbd41fbd4, 0x76f988da831153b5, 0x983e5152ee66dfab,
    0xa831c66d2db43210, 0xb00327c898fb213f, 0xbf597fc7beef0ee4, 0xc6e00bf33da88fc2, 0xd5a79147930aa725,
    0x06ca6351e003826f, 0x142929670a0e6e70, 0x27b70a8546d22ffc, 0x2e1b21385c26c926, 0x4d2c6dfc5ac42aed,
    0x53380d139d95b3df, 0x650a73548baf63de, 0x766a0abb3c77b2a8, 0x81c2c92e47edaee6, 0x92722c851482353b,
    0xa2bfe8a14cf10364, 0xa81a664bbc423001, 0xc24b8b70d0f89791, 0xc76c51a30654be30, 0xd192e819d6ef5218,
    0xd69906245565a910, 0xf40e35855771202a, 0x106aa07032bbd1b8, 0x19a4c116b8d2d0c8, 0x1e376c085141ab53,
    0x2748774cdf8eeb99, 0x34b0bcb5e19b48a8, 0x391c0cb3c5c95a63, 0x4ed8aa4ae3418acb, 0x5b9cca4f7763e373,
    0x682e6ff3d6b2b8a3, 0x748f82ee5defb2fc, 0x78a5636f43172f60, 0x84c87814a1f0ab72, 0x8cc702081a6439ec,
    0x90befffa23631e28, 0xa4506cebde82bde9, 0xbef9a3f7b2c67915, 0xc67178f2e372532b, 0xca273eceea26619c,
    0xd186b8c721c0c207, 0xeada7dd6cde0eb1e, 0xf57d4f7fee6ed178, 0x06f067aa72176fba, 0x0a637dc5a2c898a6,
    0x113f9804bef90dae, 0x1b710b35131c471b, 0x28db77f523047d84, 0x32caab7b40c72493, 0x3c9ebe0a15c9bebc,
    0x431d67c49c100d4c, 0x4cc5d4becb3e42b6, 0x597f299cfc657e2a, 0x5fcb6fab3ad6faec, 0x6c44198c4a475817]

/-- The state of a digest. -/
structure State where
  /-- The first word. -/
  a : UInt64
  /-- The second word. -/
  b : UInt64
  /-- The third word. -/
  c : UInt64
  /-- The fourth word. -/
  d : UInt64
  /-- The fifth word. -/
  e : UInt64
  /-- The sixth word. -/
  f : UInt64
  /-- The seventh word. -/
  g : UInt64
  /-- The eighth word. -/
  h : UInt64
deriving DecidableEq, Repr

/-- The state in front of the first block: the first bits of the square roots of the first primes behind the point. -/
def start : State :=
  ⟨0x6a09e667f3bcc908, 0xbb67ae8584caa73b, 0x3c6ef372fe94f82b, 0xa54ff53a5f1d36f1,
    0x510e527fade682d1, 0x9b05688c2b3e6c1f, 0x1f83d9abfb41bd6b, 0x5be0cd19137e2179⟩

/-- The word with its bits moved to the right in a circle. -/
def rotate (n w : UInt64) : UInt64 := (w >>> n) ||| (w <<< (64 - n))

/-- The words that a block is spread out to: each one depends on the 16 words in front of it. -/
def spread (block : List UInt64) : List UInt64 :=
  let extend (words : Array UInt64) : Array UInt64 :=
    let back (n : Nat) : UInt64 := words.getD (words.size - n) 0
    let x := back 15
    let y := back 2
    words.push
      (back 16 + (rotate 1 x ^^^ rotate 8 x ^^^ (x >>> 7)) + back 7 + (rotate 19 y ^^^ rotate 61 y ^^^ (y >>> 6)))
  ((List.range 64).foldl (fun words _ => extend words) block.toArray).toList

/-- A round with the sum of its two words. -/
def turn (s : State) (w : UInt64) : State :=
  let t := s.h + (rotate 14 s.e ^^^ rotate 18 s.e ^^^ rotate 41 s.e) + ((s.e &&& s.f) ^^^ (~~~s.e &&& s.g)) + w
  let u := (rotate 28 s.a ^^^ rotate 34 s.a ^^^ rotate 39 s.a) + ((s.a &&& s.b) ^^^ (s.a &&& s.c) ^^^ (s.b &&& s.c))
  ⟨t + u, s.a, s.b, s.c, s.d + t, s.e, s.f, s.g⟩

/-- The state behind a block. -/
def absorb (s : State) (block : List UInt64) : State :=
  let r := (List.zipWith (· + ·) roundWords (spread block)).foldl turn s
  ⟨s.a + r.a, s.b + r.b, s.c + r.c, s.d + r.d, s.e + r.e, s.f + r.f, s.g + r.g, s.h + r.h⟩

/-- A list in parts of a size. -/
def parts {α : Type} (size : Nat) (l : List α) : List (List α) :=
  (List.range (l.length / size)).map fun i => (l.drop (size * i)).take size

/-- The word that eight bytes write. -/
def wordOf (bytes : List UInt8) : UInt64 :=
  bytes.foldl (fun w b => (w <<< 8) ||| b.toUInt64) 0

/-- The bytes of a word. -/
def bytesOf (w : UInt64) : List UInt8 :=
  [w >>> 56, w >>> 48, w >>> 40, w >>> 32, w >>> 24, w >>> 16, w >>> 8, w].map (·.toUInt8)

/-- A message, filled up to whole blocks of 128 bytes,
of which the last sixteen tell how many bits the message has. -/
def fill (message : List UInt8) : List UInt8 :=
  message ++ 0x80 :: List.replicate ((239 - message.length % 128) % 128 + 8) 0 ++
    bytesOf (8 * message.length).toUInt64

/-- The digest of a message. -/
def digest (message : List UInt8) : List UInt8 :=
  let blocks := (parts 128 (fill message)).map fun block => (parts 8 block).map wordOf
  let s := blocks.foldl absorb start
  [s.a, s.b, s.c, s.d, s.e, s.f, s.g, s.h].flatMap bytesOf

end ConfigMigration.Sha512
