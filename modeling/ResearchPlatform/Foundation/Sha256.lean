import ResearchPlatform.Foundation.Hexadecimal

/-!
# SHA-256

The hash of a list of bytes, over words of 32 bits.  The digest is written as 64
lower-case hexadecimal digits.
-/

namespace ResearchPlatform.Foundation.Sha256

abbrev Word := BitVec 32

/-- The eight chaining words. -/
structure Chain where
  a : Word
  b : Word
  c : Word
  d : Word
  e : Word
  f : Word
  g : Word
  h : Word

def initialChain : Chain where
  a := 0x6a09e667
  b := 0xbb67ae85
  c := 0x3c6ef372
  d := 0xa54ff53a
  e := 0x510e527f
  f := 0x9b05688c
  g := 0x1f83d9ab
  h := 0x5be0cd19

def roundConstants : List Word :=
  [0x428a2f98, 0x71374491, 0xb5c0fbcf, 0xe9b5dba5, 0x3956c25b, 0x59f111f1,
    0x923f82a4, 0xab1c5ed5, 0xd807aa98, 0x12835b01, 0x243185be, 0x550c7dc3,
    0x72be5d74, 0x80deb1fe, 0x9bdc06a7, 0xc19bf174, 0xe49b69c1, 0xefbe4786,
    0x0fc19dc6, 0x240ca1cc, 0x2de92c6f, 0x4a7484aa, 0x5cb0a9dc, 0x76f988da,
    0x983e5152, 0xa831c66d, 0xb00327c8, 0xbf597fc7, 0xc6e00bf3, 0xd5a79147,
    0x06ca6351, 0x14292967, 0x27b70a85, 0x2e1b2138, 0x4d2c6dfc, 0x53380d13,
    0x650a7354, 0x766a0abb, 0x81c2c92e, 0x92722c85, 0xa2bfe8a1, 0xa81a664b,
    0xc24b8b70, 0xc76c51a3, 0xd192e819, 0xd6990624, 0xf40e3585, 0x106aa070,
    0x19a4c116, 0x1e376c08, 0x2748774c, 0x34b0bcb5, 0x391c0cb3, 0x4ed8aa4a,
    0x5b9cca4f, 0x682e6ff3, 0x748f82ee, 0x78a5636f, 0x84c87814, 0x8cc70208,
    0x90befffa, 0xa4506ceb, 0xbef9a3f7, 0xc67178f2]

/-! ## Padding -/

/-- The bits of the message length as eight bytes, most significant first. -/
def lengthBytes (bits : Nat) : List UInt8 :=
  (List.range 8).map fun index => UInt8.ofNat (bits / 2 ^ (8 * (7 - index)))

/-- The message, a one bit, zeros and the length: a multiple of 64 bytes. -/
def pad (message : List UInt8) : List UInt8 :=
  let zeros := (119 - message.length % 64) % 64
  message ++ 0x80 :: List.replicate zeros 0 ++ lengthBytes (8 * message.length)

/-- Read bytes as words, four at a time. -/
def words : List UInt8 → List Word
  | first :: second :: third :: fourth :: rest =>
      BitVec.ofNat 32
          (((first.toNat * 256 + second.toNat) * 256 + third.toNat) * 256 +
            fourth.toNat) ::
        words rest
  | _ => []

/-! ## Compression -/

def smallSigma0 (word : Word) : Word :=
  word.rotateRight 7 ^^^ word.rotateRight 18 ^^^ word >>> 3

def smallSigma1 (word : Word) : Word :=
  word.rotateRight 17 ^^^ word.rotateRight 19 ^^^ word >>> 10

def bigSigma0 (word : Word) : Word :=
  word.rotateRight 2 ^^^ word.rotateRight 13 ^^^ word.rotateRight 22

def bigSigma1 (word : Word) : Word :=
  word.rotateRight 6 ^^^ word.rotateRight 11 ^^^ word.rotateRight 25

def choose (x y z : Word) : Word := (x &&& y) ^^^ (~~~x &&& z)

def majority (x y z : Word) : Word := (x &&& y) ^^^ (x &&& z) ^^^ (y &&& z)

/-- Extend the schedule, kept with the latest word first, by `count` words. -/
def extend : Nat → List Word → List Word
  | 0, latest => latest
  | count + 1, latest =>
      extend count
        ((smallSigma1 (latest.getD 1 0) + latest.getD 6 0 +
            smallSigma0 (latest.getD 14 0) + latest.getD 15 0) :: latest)

def round (chain : Chain) (constant scheduled : Word) : Chain :=
  let first :=
    chain.h + bigSigma1 chain.e + choose chain.e chain.f chain.g + constant +
      scheduled
  let second := bigSigma0 chain.a + majority chain.a chain.b chain.c
  { a := first + second
    b := chain.a
    c := chain.b
    d := chain.c
    e := chain.d + first
    f := chain.e
    g := chain.f
    h := chain.g }

/-- Mix one block of sixteen words into the chain. -/
def compress (chain : Chain) (block : List Word) : Chain :=
  let schedule := (extend 48 block.reverse).reverse
  let mixed :=
    (roundConstants.zip schedule).foldl
      (fun current (constant, scheduled) => round current constant scheduled) chain
  { a := chain.a + mixed.a
    b := chain.b + mixed.b
    c := chain.c + mixed.c
    d := chain.d + mixed.d
    e := chain.e + mixed.e
    f := chain.f + mixed.f
    g := chain.g + mixed.g
    h := chain.h + mixed.h }

/-- Mix in `count` blocks of sixteen words. -/
def absorb : Nat → Chain → List Word → Chain
  | 0, chain, _ => chain
  | count + 1, chain, rest =>
      absorb count (compress chain (rest.take 16)) (rest.drop 16)

/-- The digest as 64 lower-case hexadecimal digits. -/
def hexdigest (message : List UInt8) : List Char :=
  let padded := pad message
  let chain := absorb (padded.length / 64) initialChain (words padded)
  [chain.a, chain.b, chain.c, chain.d, chain.e, chain.f, chain.g, chain.h].flatMap
    fun word => hexDigits 8 word.toNat

@[simp]
theorem length_hexdigest (message : List UInt8) :
    (hexdigest message).length = 64 := by
  simp [hexdigest]

theorem isLowerHex_of_mem_hexdigest {message : List UInt8} {digit : Char}
    (member : digit ∈ hexdigest message) : isLowerHex digit = true := by
  obtain ⟨word, -, ofWord⟩ := List.mem_flatMap.mp member
  exact isLowerHex_of_mem_hexDigits ofWord

example :
    String.ofList (hexdigest ("abc".toList.flatMap String.utf8EncodeChar)) =
      "ba7816bf8f01cfea414140de5dae2223b00361a396177a9cb410ff61f20015ad" := by
  decide +kernel

end ResearchPlatform.Foundation.Sha256
