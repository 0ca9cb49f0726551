/-
Digests of bytes: short numbers that tell whether bytes are the same.
-/
import FolderScript.Text.Utf8

namespace FolderScript.Shell

namespace Digest

def bytesOf (count value : Nat) (lowFirst : Bool) : Bytes :=
  let low := (List.range count).map fun index => UInt8.ofNat (value >>> (8 * index))
  if lowFirst then low else low.reverse

/-- The bytes that are cut into blocks: the message, a mark, zeros, and how many bits the
message has. -/
def padded (block field : Nat) (lowFirst : Bool) (data : Bytes) : Bytes :=
  let size := data.length
  let used := (size + 1 + field) % block
  let zeros := if used = 0 then 0 else block - used
  data ++ 0x80 :: List.replicate zeros 0 ++ bytesOf field (8 * size) lowFirst

def groups {α : Type} (count : Nat) : Nat → List α → List (List α)
  | 0, _ => []
  | _ + 1, [] => []
  | fuel + 1, items => items.take count :: groups count fuel (items.drop count)

/-- The number that bytes spell, the first byte the highest. -/
def numberOf (bytes : Bytes) : Nat := bytes.foldl (fun value byte => value * 256 + byte.toNat) 0

def words32 (lowFirst : Bool) (block : Bytes) : Array UInt32 :=
  ((groups 4 (block.length + 1) block).map fun bytes =>
    UInt32.ofNat (numberOf (if lowFirst then bytes.reverse else bytes))).toArray

def words64 (block : Bytes) : Array UInt64 :=
  ((groups 8 (block.length + 1) block).map fun bytes => UInt64.ofNat (numberOf bytes)).toArray

def turnLeft (word : UInt32) (count : UInt32) : UInt32 :=
  (word <<< count) ||| (word >>> (32 - count))

def turnRight (word : UInt32) (count : UInt32) : UInt32 :=
  (word >>> count) ||| (word <<< (32 - count))

def turnRight64 (word : UInt64) (count : UInt64) : UInt64 :=
  (word >>> count) ||| (word <<< (64 - count))

/-- How far the words of a round are turned. -/
def turns128 : Array UInt32 :=
  #[7, 12, 17, 22, 5, 9, 14, 20, 4, 11, 16, 23, 6, 10, 15, 21]

/-- The numbers that are added in the rounds of the digest of 128 bits. -/
def added128 : Array UInt32 :=
  #[0xd76aa478, 0xe8c7b756, 0x242070db, 0xc1bdceee, 0xf57c0faf, 0x4787c62a, 0xa8304613,
    0xfd469501, 0x698098d8, 0x8b44f7af, 0xffff5bb1, 0x895cd7be, 0x6b901122, 0xfd987193,
    0xa679438e, 0x49b40821, 0xf61e2562, 0xc040b340, 0x265e5a51, 0xe9b6c7aa, 0xd62f105d,
    0x02441453, 0xd8a1e681, 0xe7d3fbc8, 0x21e1cde6, 0xc33707d6, 0xf4d50d87, 0x455a14ed,
    0xa9e3e905, 0xfcefa3f8, 0x676f02d9, 0x8d2a4c8a, 0xfffa3942, 0x8771f681, 0x6d9d6122,
    0xfde5380c, 0xa4beea44, 0x4bdecfa9, 0xf6bb4b60, 0xbebfbc70, 0x289b7ec6, 0xeaa127fa,
    0xd4ef3085, 0x04881d05, 0xd9d4d039, 0xe6db99e5, 0x1fa27cf8, 0xc4ac5665, 0xf4292244,
    0x432aff97, 0xab9423a7, 0xfc93a039, 0x655b59c3, 0x8f0ccc92, 0xffeff47d, 0x85845dd1,
    0x6fa87e4f, 0xfe2ce6e0, 0xa3014314, 0x4e0811a1, 0xf7537e82, 0xbd3af235, 0x2ad7d2bb,
    0xeb86d391]

def round128 (message : Array UInt32) (state : UInt32 × UInt32 × UInt32 × UInt32)
    (index : Nat) : UInt32 × UInt32 × UInt32 × UInt32 :=
  let (a, b, c, d) := state
  let (mixed, place) : UInt32 × Nat :=
    match index / 16 with
    | 0 => ((b &&& c) ||| (~~~b &&& d), index)
    | 1 => ((d &&& b) ||| (~~~d &&& c), (5 * index + 1) % 16)
    | 2 => (b ^^^ c ^^^ d, (3 * index + 5) % 16)
    | _ => (c ^^^ (b ||| ~~~d), 7 * index % 16)
  let sum := mixed + a + added128.getD index 0 + message.getD place 0
  (d, b + turnLeft sum (turns128.getD (4 * (index / 16) + index % 4) 0), b, c)

def md5 (data : Bytes) : Bytes :=
  let whole := padded 64 8 true data
  let (a, b, c, d) := (groups 64 (whole.length + 1) whole).foldl
    (fun (a, b, c, d) block =>
      let message := words32 true block
      let (e, f, g, h) := (List.range 64).foldl (round128 message) (a, b, c, d)
      (a + e, b + f, c + g, d + h))
    ((0x67452301 : UInt32), (0xefcdab89 : UInt32), (0x98badcfe : UInt32), (0x10325476 : UInt32))
  [a, b, c, d].flatMap fun word => bytesOf 4 word.toNat true

/-- The words of the message, spread over the rounds of the digest of 160 bits. -/
def spread160 (message : Array UInt32) : Array UInt32 :=
  (List.range 64).foldl
    (fun words offset =>
      let index := offset + 16
      let mixed := words.getD (index - 3) 0 ^^^ words.getD (index - 8) 0 ^^^
        words.getD (index - 14) 0 ^^^ words.getD (index - 16) 0
      words.push (turnLeft mixed 1))
    message

def sha1 (data : Bytes) : Bytes :=
  let whole := padded 64 8 false data
  let start : Array UInt32 := #[0x67452301, 0xEFCDAB89, 0x98BADCFE, 0x10325476, 0xC3D2E1F0]
  let final := (groups 64 (whole.length + 1) whole).foldl
    (fun (hash : Array UInt32) block =>
      let words := spread160 (words32 false block)
      let (a, b, c, d, e) := (List.range 80).foldl
        (fun (a, b, c, d, e) index =>
          let (mixed, constant) : UInt32 × UInt32 :=
            match index / 20 with
            | 0 => ((b &&& c) ||| (~~~b &&& d), 0x5A827999)
            | 1 => (b ^^^ c ^^^ d, 0x6ED9EBA1)
            | 2 => ((b &&& c) ||| (b &&& d) ||| (c &&& d), 0x8F1BBCDC)
            | _ => (b ^^^ c ^^^ d, 0xCA62C1D6)
          (turnLeft a 5 + mixed + e + constant + words.getD index 0, a, turnLeft b 30, c, d))
        (hash.getD 0 0, hash.getD 1 0, hash.getD 2 0, hash.getD 3 0, hash.getD 4 0)
      (hash.toList.zipWith (· + ·) [a, b, c, d, e]).toArray)
    start
  final.toList.flatMap fun word => bytesOf 4 word.toNat false

/-- The first 64 bits behind the point of the cube roots of the first primes. -/
def roots : Array UInt64 :=
  #[0x428a2f98d728ae22, 0x7137449123ef65cd, 0xb5c0fbcfec4d3b2f, 0xe9b5dba58189dbbc,
    0x3956c25bf348b538, 0x59f111f1b605d019, 0x923f82a4af194f9b, 0xab1c5ed5da6d8118,
    0xd807aa98a3030242, 0x12835b0145706fbe, 0x243185be4ee4b28c, 0x550c7dc3d5ffb4e2,
    0x72be5d74f27b896f, 0x80deb1fe3b1696b1, 0x9bdc06a725c71235, 0xc19bf174cf692694,
    0xe49b69c19ef14ad2, 0xefbe4786384f25e3, 0x0fc19dc68b8cd5b5, 0x240ca1cc77ac9c65,
    0x2de92c6f592b0275, 0x4a7484aa6ea6e483, 0x5cb0a9dcbd41fbd4, 0x76f988da831153b5,
    0x983e5152ee66dfab, 0xa831c66d2db43210, 0xb00327c898fb213f, 0xbf597fc7beef0ee4,
    0xc6e00bf33da88fc2, 0xd5a79147930aa725, 0x06ca6351e003826f, 0x142929670a0e6e70,
    0x27b70a8546d22ffc, 0x2e1b21385c26c926, 0x4d2c6dfc5ac42aed, 0x53380d139d95b3df,
    0x650a73548baf63de, 0x766a0abb3c77b2a8, 0x81c2c92e47edaee6, 0x92722c851482353b,
    0xa2bfe8a14cf10364, 0xa81a664bbc423001, 0xc24b8b70d0f89791, 0xc76c51a30654be30,
    0xd192e819d6ef5218, 0xd69906245565a910, 0xf40e35855771202a, 0x106aa07032bbd1b8,
    0x19a4c116b8d2d0c8, 0x1e376c085141ab53, 0x2748774cdf8eeb99, 0x34b0bcb5e19b48a8,
    0x391c0cb3c5c95a63, 0x4ed8aa4ae3418acb, 0x5b9cca4f7763e373, 0x682e6ff3d6b2b8a3,
    0x748f82ee5defb2fc, 0x78a5636f43172f60, 0x84c87814a1f0ab72, 0x8cc702081a6439ec,
    0x90befffa23631e28, 0xa4506cebde82bde9, 0xbef9a3f7b2c67915, 0xc67178f2e372532b,
    0xca273eceea26619c, 0xd186b8c721c0c207, 0xeada7dd6cde0eb1e, 0xf57d4f7fee6ed178,
    0x06f067aa72176fba, 0x0a637dc5a2c898a6, 0x113f9804bef90dae, 0x1b710b35131c471b,
    0x28db77f523047d84, 0x32caab7b40c72493, 0x3c9ebe0a15c9bebc, 0x431d67c49c100d4c,
    0x4cc5d4becb3e42b6, 0x597f299cfc657e2a, 0x5fcb6fab3ad6faec, 0x6c44198c4a475817]

/-- The upper halves of the roots. -/
def roots32 : Array UInt32 := roots.map fun root => UInt32.ofNat (root.toNat >>> 32)

/-- The words of the message, spread over the rounds. -/
def spread256 (message : Array UInt32) : Array UInt32 :=
  (List.range 48).foldl
    (fun words offset =>
      let index := offset + 16
      let early := words.getD (index - 15) 0
      let late := words.getD (index - 2) 0
      let first := turnRight early 7 ^^^ turnRight early 18 ^^^ (early >>> 3)
      let second := turnRight late 17 ^^^ turnRight late 19 ^^^ (late >>> 10)
      words.push (words.getD (index - 16) 0 + first + words.getD (index - 7) 0 + second))
    message

def block256 (hash : Array UInt32) (block : Bytes) : Array UInt32 :=
  let words := spread256 (words32 false block)
  let final := (List.range 64).foldl
    (fun (v : Array UInt32) index =>
      let a := v.getD 0 0
      let e := v.getD 4 0
      let high := turnRight e 6 ^^^ turnRight e 11 ^^^ turnRight e 25
      let choice := (e &&& v.getD 5 0) ^^^ (~~~e &&& v.getD 6 0)
      let first := v.getD 7 0 + high + choice + roots32.getD index 0 + words.getD index 0
      let low := turnRight a 2 ^^^ turnRight a 13 ^^^ turnRight a 22
      let majority := (a &&& v.getD 1 0) ^^^ (a &&& v.getD 2 0) ^^^ (v.getD 1 0 &&& v.getD 2 0)
      #[first + low + majority, a, v.getD 1 0, v.getD 2 0, v.getD 3 0 + first, e, v.getD 5 0,
        v.getD 6 0])
    hash
  (hash.toList.zipWith (· + ·) final.toList).toArray

/-- A digest with words of 32 bits, from a start of its own. -/
def digest256 (start : Array UInt32) (count : Nat) (data : Bytes) : Bytes :=
  let whole := padded 64 8 false data
  let final := (groups 64 (whole.length + 1) whole).foldl block256 start
  (final.toList.take count).flatMap fun word => bytesOf 4 word.toNat false

def sha256 (data : Bytes) : Bytes :=
  digest256 #[0x6a09e667, 0xbb67ae85, 0x3c6ef372, 0xa54ff53a, 0x510e527f, 0x9b05688c,
    0x1f83d9ab, 0x5be0cd19] 8 data

def sha224 (data : Bytes) : Bytes :=
  digest256 #[0xc1059ed8, 0x367cd507, 0x3070dd17, 0xf70e5939, 0xffc00b31, 0x68581511,
    0x64f98fa7, 0xbefa4fa4] 7 data

/-- The words of the message, spread over the rounds. -/
def spread512 (message : Array UInt64) : Array UInt64 :=
  (List.range 64).foldl
    (fun words offset =>
      let index := offset + 16
      let early := words.getD (index - 15) 0
      let late := words.getD (index - 2) 0
      let first := turnRight64 early 1 ^^^ turnRight64 early 8 ^^^ (early >>> 7)
      let second := turnRight64 late 19 ^^^ turnRight64 late 61 ^^^ (late >>> 6)
      words.push (words.getD (index - 16) 0 + first + words.getD (index - 7) 0 + second))
    message

def block512 (hash : Array UInt64) (block : Bytes) : Array UInt64 :=
  let words := spread512 (words64 block)
  let final := (List.range 80).foldl
    (fun (v : Array UInt64) index =>
      let a := v.getD 0 0
      let e := v.getD 4 0
      let high := turnRight64 e 14 ^^^ turnRight64 e 18 ^^^ turnRight64 e 41
      let choice := (e &&& v.getD 5 0) ^^^ (~~~e &&& v.getD 6 0)
      let first := v.getD 7 0 + high + choice + roots.getD index 0 + words.getD index 0
      let low := turnRight64 a 28 ^^^ turnRight64 a 34 ^^^ turnRight64 a 39
      let majority := (a &&& v.getD 1 0) ^^^ (a &&& v.getD 2 0) ^^^ (v.getD 1 0 &&& v.getD 2 0)
      #[first + low + majority, a, v.getD 1 0, v.getD 2 0, v.getD 3 0 + first, e, v.getD 5 0,
        v.getD 6 0])
    hash
  (hash.toList.zipWith (· + ·) final.toList).toArray

/-- A digest with words of 64 bits, from a start of its own. -/
def digest512 (start : Array UInt64) (count : Nat) (data : Bytes) : Bytes :=
  let whole := padded 128 16 false data
  let final := (groups 128 (whole.length + 1) whole).foldl block512 start
  (final.toList.take count).flatMap fun word => bytesOf 8 word.toNat false

def sha512 (data : Bytes) : Bytes :=
  digest512 #[0x6a09e667f3bcc908, 0xbb67ae8584caa73b, 0x3c6ef372fe94f82b, 0xa54ff53a5f1d36f1,
    0x510e527fade682d1, 0x9b05688c2b3e6c1f, 0x1f83d9abfb41bd6b, 0x5be0cd19137e2179] 8 data

def sha384 (data : Bytes) : Bytes :=
  digest512 #[0xcbbb9d5dc1059ed8, 0x629a292a367cd507, 0x9159015a3070dd17, 0x152fecd8f70e5939,
    0x67332667ffc00b31, 0x8eb44a8768581511, 0xdb0c2e0d64f98fa7, 0x47b5481dbefa4fa4] 6 data

/-- What a bit at the top of a remainder adds to it. -/
def polynomial : UInt32 := 0x04c11db7

/-- The remainder after one more bit position, so many times. -/
def shifted : Nat → UInt32 → UInt32
  | 0, value => value
  | count + 1, value =>
      shifted count (if value &&& 0x80000000 ≠ 0 then (value <<< 1) ^^^ polynomial
        else value <<< 1)

def remainders : Array UInt32 :=
  ((List.range 256).map fun byte => shifted 8 (UInt32.ofNat byte <<< 24)).toArray

def remainderStep (value : UInt32) (byte : UInt8) : UInt32 :=
  (value <<< 8) ^^^ remainders.getD (((value >>> 24) ^^^ byte.toUInt32).toNat) 0

/-- The bytes of a length, the lowest first and without zeros at the top. -/
def lengthBytes : Nat → Nat → Bytes
  | 0, _ => []
  | fuel + 1, length =>
      if length = 0 then [] else UInt8.ofNat length :: lengthBytes fuel (length / 256)

/-- The checksum of bytes and their length as a remainder. -/
def cksum (data : Bytes) : Nat :=
  let whole := (lengthBytes 16 data.length).foldl remainderStep (data.foldl remainderStep 0)
  (~~~whole).toNat

/-- The checksum that turns a word of 16 bits before it adds a byte. -/
def turningSum (data : Bytes) : Nat :=
  data.foldl
    (fun sum byte => (sum / 2 + sum % 2 * 32768 + byte.toNat) % 65536)
    0

/-- The checksum that adds all bytes. -/
def plainSum (data : Bytes) : Nat :=
  let total := data.foldl (fun sum byte => sum + byte.toNat) 0 % 4294967296
  let once := total % 65536 + total / 65536
  once % 65536 + once / 65536

/-- The digits of bytes, two for each. -/
def hex (bytes : Bytes) : List Char :=
  let digit (value : Nat) : Char := "0123456789abcdef".toList.getD value '0'
  bytes.flatMap fun byte => [digit (byte.toNat / 16), digit (byte.toNat % 16)]

end Digest

end FolderScript.Shell
