/-
Module: CachePilot.Lib.Sha256
Layer: Lib
Purpose: The SHA-256 digest as its standard defines it, on words of 32 bits. The message is padded to blocks of
  512 bits, each block is expanded to 64 words by a sliding window, and 64 rounds mix them into the chaining
  value. The digest runs, also in the kernel, so that a test can use it.
Trusted boundary: these definitions are taken for those of the standard; the samples only compare known digests
Main exports: Sha256.compress, Sha256.digest, Sha256.hexdigest, Sha256.hexdigest_ofList
-/
import Mathlib.Algebra.Group.Nat.Defs

namespace Sha256

/-- Words of 32 bits; their addition wraps around. -/
abbrev Word := BitVec 32

/-- The first 32 bits of the fractional parts of the cube roots of the first 64 primes. -/
def roundConstants : List Word :=
  [0x428a2f98, 0x71374491, 0xb5c0fbcf, 0xe9b5dba5, 0x3956c25b, 0x59f111f1, 0x923f82a4, 0xab1c5ed5,
    0xd807aa98, 0x12835b01, 0x243185be, 0x550c7dc3, 0x72be5d74, 0x80deb1fe, 0x9bdc06a7, 0xc19bf174,
    0xe49b69c1, 0xefbe4786, 0x0fc19dc6, 0x240ca1cc, 0x2de92c6f, 0x4a7484aa, 0x5cb0a9dc, 0x76f988da,
    0x983e5152, 0xa831c66d, 0xb00327c8, 0xbf597fc7, 0xc6e00bf3, 0xd5a79147, 0x06ca6351, 0x14292967,
    0x27b70a85, 0x2e1b2138, 0x4d2c6dfc, 0x53380d13, 0x650a7354, 0x766a0abb, 0x81c2c92e, 0x92722c85,
    0xa2bfe8a1, 0xa81a664b, 0xc24b8b70, 0xc76c51a3, 0xd192e819, 0xd6990624, 0xf40e3585, 0x106aa070,
    0x19a4c116, 0x1e376c08, 0x2748774c, 0x34b0bcb5, 0x391c0cb3, 0x4ed8aa4a, 0x5b9cca4f, 0x682e6ff3,
    0x748f82ee, 0x78a5636f, 0x84c87814, 0x8cc70208, 0x90befffa, 0xa4506ceb, 0xbef9a3f7, 0xc67178f2]

/-! ### Functions on words -/

def bigSigma0 (x : Word) : Word := x.rotateRight 2 ^^^ x.rotateRight 13 ^^^ x.rotateRight 22

def bigSigma1 (x : Word) : Word := x.rotateRight 6 ^^^ x.rotateRight 11 ^^^ x.rotateRight 25

def smallSigma0 (x : Word) : Word := x.rotateRight 7 ^^^ x.rotateRight 18 ^^^ x >>> 3

def smallSigma1 (x : Word) : Word := x.rotateRight 17 ^^^ x.rotateRight 19 ^^^ x >>> 10

def choose (x y z : Word) : Word := (x &&& y) ^^^ (~~~x &&& z)

def majority (x y z : Word) : Word := (x &&& y) ^^^ (x &&& z) ^^^ (y &&& z)

/-! ### Compression -/

/-- The eight working variables, which are also the chaining value. -/
structure Working where
  a : Word
  b : Word
  c : Word
  d : Word
  e : Word
  f : Word
  g : Word
  h : Word

/-- The first 32 bits of the fractional parts of the square roots of the first eight primes. -/
def initial : Working where
  a := 0x6a09e667
  b := 0xbb67ae85
  c := 0x3c6ef372
  d := 0xa54ff53a
  e := 0x510e527f
  f := 0x9b05688c
  g := 0x1f83d9ab
  h := 0x5be0cd19

/-- One round, with a constant and a word of the message schedule. -/
def round (s : Working) (constant word : Word) : Working :=
  let t1 := s.h + bigSigma1 s.e + choose s.e s.f s.g + constant + word
  let t2 := bigSigma0 s.a + majority s.a s.b s.c
  { a := t1 + t2, b := s.a, c := s.b, d := s.c, e := s.d + t1, f := s.e, g := s.f, h := s.g }

/-- The word that follows the sixteen words of a window in the message schedule. -/
def nextWord (window : List Word) : Word :=
  smallSigma1 (window.getD 14 0) + window.getD 9 0 + smallSigma0 (window.getD 1 0) + window.getD 0 0

/-- The rounds with these constants, while the window slides over the message schedule. -/
def rounds : List Word → List Word → Working → Working
  | [], _, s => s
  | constant :: constants, window, s =>
      rounds constants (window.drop 1 ++ [nextWord window]) (round s constant (window.getD 0 0))

/-- Absorb one block of sixteen words. -/
def compress (s : Working) (block : List Word) : Working :=
  let mixed := rounds roundConstants block s
  { a := s.a + mixed.a
    b := s.b + mixed.b
    c := s.c + mixed.c
    d := s.d + mixed.d
    e := s.e + mixed.e
    f := s.f + mixed.f
    g := s.g + mixed.g
    h := s.h + mixed.h }

/-! ### Messages -/

/-- The number with these bytes, the most significant first. -/
def ofBytes (bytes : List UInt8) : ℕ := bytes.foldl (fun n byte => n * 256 + byte.toNat) 0

/-- The last digits of a number, the most significant first. -/
def digits (base n : ℕ) : ℕ → List ℕ
  | 0 => []
  | count + 1 => n / base ^ count % base :: digits base n count

/-- The padded message as a number: a one bit after the bytes, as many zeros as fill the last block, and the
    size in bits as the last eight bytes. -/
def padded (bytes : List UInt8) : ℕ :=
  let zeros := (119 - bytes.length % 64) % 64
  (ofBytes bytes * 256 + 128) * 256 ^ (zeros + 8) + 8 * bytes.length

/-- The blocks of the padded message. -/
def blocks (bytes : List UInt8) : List (List Word) :=
  (digits (2 ^ 512) (padded bytes) ((bytes.length + 72) / 64)).map fun block =>
    (digits (2 ^ 32) block 16).map (BitVec.ofNat 32)

/-- The digest of a message, a number of 256 bits. -/
def digest (bytes : List UInt8) : ℕ :=
  let s := (blocks bytes).foldl compress initial
  [s.a, s.b, s.c, s.d, s.e, s.f, s.g, s.h].foldl (fun n word => n * 2 ^ 32 + word.toNat) 0

def hexDigit (n : ℕ) : Char := if n < 10 then Char.ofNat (48 + n) else Char.ofNat (87 + n)

/-- The digest of a message, as 64 hexadecimal digits in lower case. -/
def hexOfBytes (bytes : List UInt8) : String :=
  String.ofList ((digits 16 (digest bytes) 64).map hexDigit)

/-- The digest of a text in UTF-8. -/
def hexdigest (text : String) : String := hexOfBytes text.toUTF8.data.toList

/-- The characters of a text can be encoded without building the text. -/
theorem hexdigest_ofList (chars : List Char) :
    hexdigest (String.ofList chars) = hexOfBytes (chars.flatMap String.utf8EncodeChar) := by
  unfold hexdigest
  simp [List.utf8Encode]

example : hexdigest "abc" = "ba7816bf8f01cfea414140de5dae2223b00361a396177a9cb410ff61f20015ad" := by
  decide +kernel

end Sha256
