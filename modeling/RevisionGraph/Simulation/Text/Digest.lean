import RevisionGraph.Number.Operations
import RevisionGraph.Text.Utf8

/-!
# Digests

A digest is a short text of bytes that is computed from a long one.  `md5`, `sha1` and the four of
the second SHA family work on words in blocks behind a common padding; `crc` is the remainder of a
polynomial.

* **Constants.**  Those of the second SHA family are the fractions of the roots of primes, and are
  computed as such.
-/

set_option autoImplicit false

namespace RevisionGraph.Text.Digest

/-! ## Blocks -/

/-- The bytes of a number, the greatest first. -/
def bigEndian : Nat → Nat → Bytes
  | 0, _ => []
  | width + 1, n => bigEndian width (n / 256) ++ [UInt8.ofNat (n % 256)]

/-- The number that bytes are, the greatest first. -/
def ofBigEndian (bytes : Bytes) : Nat := bytes.foldl (fun n b ↦ n * 256 + b.toNat) 0

/-- Bytes with a mark and their length in bits behind them, so that they fill blocks.  The length
takes an eighth of a block. -/
def padded (block : Nat) (lengthOf : Nat → Bytes) (bytes : Bytes) : Bytes :=
  let used := bytes.length + 1 + block / 8
  bytes ++ 0x80 :: List.replicate ((block - used % block) % block) 0 ++ lengthOf (8 * bytes.length)

/-- Pieces of one size; the bound is on their number. -/
def piecesFor {α : Type} (size : Nat) : Nat → List α → List (List α)
  | 0, _ => []
  | n + 1, xs => if xs.isEmpty then [] else xs.take size :: piecesFor size n (xs.drop size)

/-- Cuts a list into pieces of one size. -/
def pieces {α : Type} (size : Nat) (xs : List α) : List (List α) := piecesFor size xs.length xs

/-! ## MD5 -/

/-- The first bits of the sines of the numbers from one on. -/
def sines : Array UInt32 := #[
  0xd76aa478, 0xe8c7b756, 0x242070db, 0xc1bdceee, 0xf57c0faf, 0x4787c62a, 0xa8304613, 0xfd469501,
  0x698098d8, 0x8b44f7af, 0xffff5bb1, 0x895cd7be, 0x6b901122, 0xfd987193, 0xa679438e, 0x49b40821,
  0xf61e2562, 0xc040b340, 0x265e5a51, 0xe9b6c7aa, 0xd62f105d, 0x02441453, 0xd8a1e681, 0xe7d3fbc8,
  0x21e1cde6, 0xc33707d6, 0xf4d50d87, 0x455a14ed, 0xa9e3e905, 0xfcefa3f8, 0x676f02d9, 0x8d2a4c8a,
  0xfffa3942, 0x8771f681, 0x6d9d6122, 0xfde5380c, 0xa4beea44, 0x4bdecfa9, 0xf6bb4b60, 0xbebfbc70,
  0x289b7ec6, 0xeaa127fa, 0xd4ef3085, 0x04881d05, 0xd9d4d039, 0xe6db99e5, 0x1fa27cf8, 0xc4ac5665,
  0xf4292244, 0x432aff97, 0xab9423a7, 0xfc93a039, 0x655b59c3, 0x8f0ccc92, 0xffeff47d, 0x85845dd1,
  0x6fa87e4f, 0xfe2ce6e0, 0xa3014314, 0x4e0811a1, 0xf7537e82, 0xbd3af235, 0x2ad7d2bb, 0xeb86d391]

/-- Rotates a word to the left. -/
def rotate (x : UInt32) (count : UInt32) : UInt32 := x <<< count ||| x >>> (32 - count)

/-- How far the words of each quarter are rotated. -/
def turns : Array (Array UInt32) :=
  #[#[7, 12, 17, 22], #[5, 9, 14, 20], #[4, 11, 16, 23], #[6, 10, 15, 21]]

/-- Four words of a digest that is being computed. -/
abbrev Quad := UInt32 × UInt32 × UInt32 × UInt32

/-- Takes in a block. -/
def md5Block (start : Quad) (words : Array UInt32) : Quad :=
  let (a, b, c, d) := (List.range 64).foldl (fun (a, b, c, d) i ↦
    let (f, g) : UInt32 × Nat := match i / 16 with
      | 0 => (b &&& c ||| ~~~b &&& d, i)
      | 1 => (d &&& b ||| ~~~d &&& c, 5 * i + 1)
      | 2 => (b ^^^ c ^^^ d, 3 * i + 5)
      | _ => (c ^^^ (b ||| ~~~d), 7 * i)
    let x := f + a + sines.getD i 0 + words.getD (g % 16) 0
    (d, b + rotate x ((turns.getD (i / 16) #[]).getD (i % 4) 0), b, c)) start
  let (a0, b0, c0, d0) := start
  (a0 + a, b0 + b, c0 + c, d0 + d)

/-- The MD5 digest. -/
def md5 (bytes : Bytes) : Bytes :=
  let blocks := pieces 64 (padded 64 (fun n ↦ (bigEndian 8 n).reverse) bytes)
  let (a, b, c, d) := blocks.foldl (fun s block ↦
    md5Block s ((pieces 4 block).map fun w ↦ UInt32.ofNat (ofBigEndian w.reverse)).toArray)
    (0x67452301, 0xefcdab89, 0x98badcfe, 0x10325476)
  [a, b, c, d].flatMap fun w ↦ (bigEndian 4 w.toNat).reverse

/-! ## SHA-1 -/

/-- Adds words to those of a block up to a count; each depends on some of the sixteen before it. -/
def extend {W : Type} [Inhabited W] (count : Nat) (next : Array W → Nat → W) (words : Array W) :
    Array W :=
  (List.range (count - words.size)).foldl (fun ws k ↦ ws.push (next ws (words.size + k))) words

/-- Takes in a block. -/
def sha1Block (start : UInt32 × Quad) (words : Array UInt32) : UInt32 × Quad :=
  let at_ (ws : Array UInt32) (i : Nat) : UInt32 := ws.getD i 0
  let words := extend 80 (fun ws i ↦
    rotate (at_ ws (i - 3) ^^^ at_ ws (i - 8) ^^^ at_ ws (i - 14) ^^^ at_ ws (i - 16)) 1) words
  let (a, b, c, d, e) := (List.range 80).foldl (fun (a, b, c, d, e) i ↦
    let (f, k) : UInt32 × UInt32 := match i / 20 with
      | 0 => (b &&& c ||| ~~~b &&& d, 0x5a827999)
      | 1 => (b ^^^ c ^^^ d, 0x6ed9eba1)
      | 2 => (b &&& c ||| b &&& d ||| c &&& d, 0x8f1bbcdc)
      | _ => (b ^^^ c ^^^ d, 0xca62c1d6)
    (rotate a 5 + f + e + k + at_ words i, a, rotate b 30, c, d)) start
  let (a0, b0, c0, d0, e0) := start
  (a0 + a, b0 + b, c0 + c, d0 + d, e0 + e)

/-- The SHA-1 digest. -/
def sha1 (bytes : Bytes) : Bytes :=
  let blocks := pieces 64 (padded 64 (bigEndian 8) bytes)
  let (a, b, c, d, e) := blocks.foldl (fun s block ↦
    sha1Block s ((pieces 4 block).map fun w ↦ UInt32.ofNat (ofBigEndian w)).toArray)
    (0x67452301, 0xefcdab89, 0x98badcfe, 0x10325476, 0xc3d2e1f0)
  [a, b, c, d, e].flatMap fun w ↦ bigEndian 4 w.toNat

/-! ## The second family -/

/-- The greatest number whose power is not above another, below two to some exponent. -/
def rootFor (power : Nat) (n : Nat) : Nat → Nat → Nat
  | 0, found => found
  | bits + 1, found =>
    let next := found + 2 ^ bits
    rootFor power n bits (if next ^ power ≤ n then next else found)

/-- The first 64 bits of the fraction of a root. -/
def fraction (power n : Nat) : UInt64 :=
  UInt64.ofNat (rootFor power (n * 2 ^ (64 * power)) 72 0 % 2 ^ 64)

/-- The first primes. -/
def primes : List Nat :=
  ((List.range 410).drop 2).filter fun n ↦ (List.range 21).all fun d ↦ d < 2 || n ≤ d || n % d != 0

/-- The fractions of the cube roots of the first eighty primes. -/
def cubeFractions : Array UInt64 := ((primes.take 80).map (fraction 3)).toArray

/-- The fractions of the square roots of eight primes behind some others. -/
def squareFractions (skipped : Nat) : List UInt64 :=
  ((primes.drop skipped).take 8).map (fraction 2)

/-- What the members of the family differ in: the operations on words. -/
structure WordSize (W : Type) where
  bytes : Nat
  rounds : Nat
  ofNat : Nat → W
  toNat : W → Nat
  add : W → W → W
  xor : W → W → W
  and : W → W → W
  not : W → W
  rotate : Nat → W → W
  shift : Nat → W → W
  /-- by how much words are rotated, and last of all shifted, where they are mixed -/
  mixing : Nat × Nat × Nat × Nat × Nat × Nat
  /-- by how much the first and the fifth word of the state are rotated -/
  stirring : (Nat × Nat × Nat) × (Nat × Nat × Nat)

namespace WordSize

/-- Words of four bytes. -/
def short : WordSize UInt32 where
  bytes := 4
  rounds := 64
  ofNat := UInt32.ofNat
  toNat := UInt32.toNat
  add := (· + ·)
  xor := (· ^^^ ·)
  and := (· &&& ·)
  not := (~~~ ·)
  rotate n x := x >>> UInt32.ofNat n ||| x <<< UInt32.ofNat (32 - n)
  shift n x := x >>> UInt32.ofNat n
  mixing := (7, 18, 3, 17, 19, 10)
  stirring := ((2, 13, 22), (6, 11, 25))

/-- Words of eight bytes. -/
def long : WordSize UInt64 where
  bytes := 8
  rounds := 80
  ofNat := UInt64.ofNat
  toNat := UInt64.toNat
  add := (· + ·)
  xor := (· ^^^ ·)
  and := (· &&& ·)
  not := (~~~ ·)
  rotate n x := x >>> UInt64.ofNat n ||| x <<< UInt64.ofNat (64 - n)
  shift n x := x >>> UInt64.ofNat n
  mixing := (1, 8, 7, 19, 61, 6)
  stirring := ((28, 34, 39), (14, 18, 41))

variable {W : Type} [Inhabited W]

/-- The constant of a round. -/
def constant (z : WordSize W) (i : Nat) : W :=
  z.ofNat ((cubeFractions.getD i 0).toNat / 2 ^ (64 - 8 * z.bytes))

/-- Mixes a block into the state. -/
def mix (z : WordSize W) (constants : Array W) (start : List W) (block : Bytes) : List W :=
  let sum (xs : List W) : W := xs.foldl z.add (z.ofNat 0)
  let (m1, m2, m3, n1, n2, n3) := z.mixing
  let (big, small) := z.stirring
  let turned (t : Nat × Nat × Nat) (x : W) : W :=
    z.xor (z.rotate t.1 x) (z.xor (z.rotate t.2.1 x) (z.rotate t.2.2 x))
  let at_ (ws : Array W) (i : Nat) : W := ws.getD i default
  let words := ((pieces z.bytes block).map fun w ↦ z.ofNat (ofBigEndian w)).toArray
  let words := extend z.rounds (fun ws i ↦
    let x := at_ ws (i - 15)
    let y := at_ ws (i - 2)
    sum [at_ ws (i - 16), z.xor (z.rotate m1 x) (z.xor (z.rotate m2 x) (z.shift m3 x)),
      at_ ws (i - 7), z.xor (z.rotate n1 y) (z.xor (z.rotate n2 y) (z.shift n3 y))]) words
  let finish := (List.range z.rounds).foldl (fun s i ↦ match s with
    | [a, b, c, d, e, f, g, h] =>
      let t := sum [h, turned small e, z.xor (z.and e f) (z.and (z.not e) g), at_ constants i, at_ words i]
      let u := z.add (turned big a) (z.xor (z.and a b) (z.xor (z.and a c) (z.and b c)))
      [z.add t u, a, b, c, z.add d t, e, f, g]
    | s => s) start
  (start.zip finish).map fun (x, y) ↦ z.add x y

/-- The digest of a member of the family: a number of words, from a state. -/
def digest (z : WordSize W) (start : List W) (count : Nat) (bytes : Bytes) : Bytes :=
  let block := 16 * z.bytes
  let constants := ((List.range z.rounds).map z.constant).toArray
  let s := (pieces block (padded block (bigEndian (2 * z.bytes)) bytes)).foldl (z.mix constants) start
  (s.flatMap fun w ↦ bigEndian z.bytes (z.toNat w)).take count

end WordSize

/-- The SHA-512 digest. -/
def sha512 (bytes : Bytes) : Bytes := WordSize.long.digest (squareFractions 0) 64 bytes

/-- The SHA-384 digest. -/
def sha384 (bytes : Bytes) : Bytes := WordSize.long.digest (squareFractions 8) 48 bytes

/-- The SHA-256 digest. -/
def sha256 (bytes : Bytes) : Bytes :=
  WordSize.short.digest ((squareFractions 0).map fun (w : UInt64) ↦ (w >>> 32).toUInt32) 32 bytes

/-- The SHA-224 digest. -/
def sha224 (bytes : Bytes) : Bytes :=
  WordSize.short.digest ((squareFractions 8).map fun (w : UInt64) ↦ w.toUInt32) 28 bytes

/-! ## Remainders -/

/-- The polynomial without its highest term. -/
def polynomial : UInt32 := 0x04c11db7

/-- Adds a byte to a remainder. -/
def crcStep (remainder : UInt32) (b : UInt8) : UInt32 :=
  (List.range 8).foldl (fun r _ ↦
    if r &&& 0x80000000 != 0 then r <<< 1 ^^^ polynomial else r <<< 1)
    (remainder ^^^ b.toUInt32 <<< 24)

/-- The bytes of a number, the least first, without zeros at the end; the bound is on their number.
-/
def leastFirst : Nat → Nat → Bytes
  | 0, _ => []
  | bound + 1, n => if n = 0 then [] else UInt8.ofNat (n % 256) :: leastFirst bound (n / 256)

/-- The remainder of bytes and of their number. -/
def crc (bytes : Bytes) : Nat :=
  (~~~(bytes ++ leastFirst 8 bytes.length).foldl crcStep 0).toNat

/-- The sum of bytes in sixteen bits that are rotated at each. -/
def rotatedSum (bytes : Bytes) : Nat :=
  bytes.foldl (fun n b ↦ (n / 2 + n % 2 * 0x8000 + b.toNat) % 0x10000) 0

/-- Two hexadecimal digits for each byte. -/
def hex (bytes : Bytes) : String :=
  String.ofList (bytes.flatMap fun b ↦
    [Nat.digitChar (b.toNat / 16), Nat.digitChar (b.toNat % 16)])

end RevisionGraph.Text.Digest
