import ShaderBuild.Bytes

/-!
The 128-bit XXH3 hash of a byte string with its standard secret and seed zero.
Short inputs have formulas of their own up to 240 bytes; longer ones are read in
stripes of 64 bytes into eight accumulators, scrambled after every 16 stripes.
-/

namespace ShaderBuild

/-- A 128-bit hash value. -/
structure Hash128 where
  high : UInt64
  low : UInt64
  deriving DecidableEq, Hashable, Repr, Inhabited

namespace Xxh3

def secret : ByteArray := ⟨#[
  0xb8, 0xfe, 0x6c, 0x39, 0x23, 0xa4, 0x4b, 0xbe, 0x7c, 0x01, 0x81, 0x2c, 0xf7, 0x21, 0xad, 0x1c,
  0xde, 0xd4, 0x6d, 0xe9, 0x83, 0x90, 0x97, 0xdb, 0x72, 0x40, 0xa4, 0xa4, 0xb7, 0xb3, 0x67, 0x1f,
  0xcb, 0x79, 0xe6, 0x4e, 0xcc, 0xc0, 0xe5, 0x78, 0x82, 0x5a, 0xd0, 0x7d, 0xcc, 0xff, 0x72, 0x21,
  0xb8, 0x08, 0x46, 0x74, 0xf7, 0x43, 0x24, 0x8e, 0xe0, 0x35, 0x90, 0xe6, 0x81, 0x3a, 0x26, 0x4c,
  0x3c, 0x28, 0x52, 0xbb, 0x91, 0xc3, 0x00, 0xcb, 0x88, 0xd0, 0x65, 0x8b, 0x1b, 0x53, 0x2e, 0xa3,
  0x71, 0x64, 0x48, 0x97, 0xa2, 0x0d, 0xf9, 0x4e, 0x38, 0x19, 0xef, 0x46, 0xa9, 0xde, 0xac, 0xd8,
  0xa8, 0xfa, 0x76, 0x3f, 0xe3, 0x9c, 0x34, 0x3f, 0xf9, 0xdc, 0xbb, 0xc7, 0xc7, 0x0b, 0x4f, 0x1d,
  0x8a, 0x51, 0xe0, 0x4b, 0xcd, 0xb4, 0x59, 0x31, 0xc8, 0x9f, 0x7e, 0xc9, 0xd9, 0x78, 0x73, 0x64,
  0xea, 0xc5, 0xac, 0x83, 0x34, 0xd3, 0xeb, 0xc3, 0xc5, 0x81, 0xa0, 0xff, 0xfa, 0x13, 0x63, 0xeb,
  0x17, 0x0d, 0xdd, 0x51, 0xb7, 0xf0, 0xda, 0x49, 0xd3, 0x16, 0x55, 0x26, 0x29, 0xd4, 0x68, 0x9e,
  0x2b, 0x16, 0xbe, 0x58, 0x7d, 0x47, 0xa1, 0xfc, 0x8f, 0xf8, 0xb8, 0xd1, 0x7a, 0xd0, 0x31, 0xce,
  0x45, 0xcb, 0x3a, 0x8f, 0x95, 0x16, 0x04, 0x28, 0xaf, 0xd7, 0xfb, 0xca, 0xbb, 0x4b, 0x40, 0x7e]⟩

def prime32a : UInt64 := 0x9E3779B1
def prime32b : UInt64 := 0x85EBCA77
def prime32c : UInt64 := 0xC2B2AE3D
def prime64a : UInt64 := 0x9E3779B185EBCA87
def prime64b : UInt64 := 0xC2B2AE3D27D4EB4F
def prime64c : UInt64 := 0x165667B19E3779F9
def prime64d : UInt64 := 0x85EBCA77C2B2AE63
def prime64e : UInt64 := 0x27D4EB2F165667C5
def primeMixA : UInt64 := 0x165667919E3779F9
def primeMixB : UInt64 := 0x9FB21C651E98DF25

def byte (b : ByteArray) (i : Nat) : UInt64 := if i < b.size then (b.get! i).toUInt64 else 0

def read32 (b : ByteArray) (i : Nat) : UInt64 :=
  byte b i ||| byte b (i + 1) <<< 8 ||| byte b (i + 2) <<< 16 ||| byte b (i + 3) <<< 24

def read64 (b : ByteArray) (i : Nat) : UInt64 := read32 b i ||| read32 b (i + 4) <<< 32

def lowHalf (x : UInt64) : UInt64 := x &&& 0xFFFFFFFF

def swap32 (x : UInt64) : UInt64 :=
  let octet (n : UInt64) : UInt64 := (x >>> n) &&& 0xFF
  octet 0 <<< 24 ||| octet 8 <<< 16 ||| octet 16 <<< 8 ||| octet 24

def swap64 (x : UInt64) : UInt64 := swap32 (lowHalf x) <<< 32 ||| swap32 (x >>> 32)

def rotateLeft32 (x n : UInt64) : UInt64 := lowHalf (x <<< n) ||| lowHalf x >>> (32 - n)

/-- The full product of two words. -/
def multiply (x y : UInt64) : Hash128 :=
  let p := x.toNat * y.toNat
  ⟨(p >>> 64).toUInt64, p.toUInt64⟩

def multiplyFold (x y : UInt64) : UInt64 :=
  let p := multiply x y
  p.high ^^^ p.low

def avalanche (h : UInt64) : UInt64 :=
  let h := (h ^^^ h >>> 37) * primeMixA
  h ^^^ h >>> 32

/-- The stronger finish that inputs of at most three bytes get. -/
def avalancheShort (h : UInt64) : UInt64 :=
  let h := (h ^^^ h >>> 33) * prime64b
  let h := (h ^^^ h >>> 29) * prime64c
  h ^^^ h >>> 32

def secretPair (i : Nat) : UInt64 := read64 secret i ^^^ read64 secret (i + 8)

def hashEmpty : Hash128 := ⟨avalancheShort (secretPair 80), avalancheShort (secretPair 64)⟩

def hashTo3 (b : ByteArray) : Hash128 :=
  let n := b.size
  let low := byte b 0 <<< 16 ||| byte b (n / 2) <<< 24 ||| byte b (n - 1) ||| n.toUInt64 <<< 8
  let high := rotateLeft32 (swap32 low) 13
  ⟨avalancheShort (high ^^^ (read32 secret 8 ^^^ read32 secret 12)),
    avalancheShort (low ^^^ (read32 secret 0 ^^^ read32 secret 4))⟩

def hashTo8 (b : ByteArray) : Hash128 :=
  let n := b.size
  let keyed := (read32 b 0 ||| read32 b (n - 4) <<< 32) ^^^ secretPair 16
  let m := multiply keyed (prime64a + n.toUInt64 <<< 2)
  let high := m.high + m.low <<< 1
  let low := m.low ^^^ high >>> 3
  let low := (low ^^^ low >>> 35) * primeMixB
  ⟨avalanche high, low ^^^ low >>> 28⟩

def hashTo16 (b : ByteArray) : Hash128 :=
  let n := b.size
  let first := read64 b 0
  let last := read64 b (n - 8)
  let m := multiply (first ^^^ last ^^^ secretPair 32) prime64a
  let low := m.low + (n.toUInt64 - 1) <<< 54
  let last := last ^^^ secretPair 48
  let high := m.high + last + lowHalf last * (prime32b - 1)
  let r := multiply (low ^^^ swap64 high) prime64b
  ⟨avalanche (r.high + high * prime64b), avalanche r.low⟩

def mix16 (b : ByteArray) (i s : Nat) : UInt64 :=
  multiplyFold (read64 b i ^^^ read64 secret s) (read64 b (i + 8) ^^^ read64 secret (s + 8))

/-- Adds 16 bytes at `i` and 16 bytes at `j` to the pair of accumulators. -/
def mix32 (b : ByteArray) (acc : Hash128) (i j s : Nat) : Hash128 :=
  ⟨(acc.high + mix16 b j (s + 16)) ^^^ (read64 b i + read64 b (i + 8)),
    (acc.low + mix16 b i s) ^^^ (read64 b j + read64 b (j + 8))⟩

def finishMiddle (n : Nat) (acc : Hash128) : Hash128 :=
  ⟨0 - avalanche (acc.low * prime64a + acc.high * prime64d + n.toUInt64 * prime64b),
    avalanche (acc.low + acc.high)⟩

def hashTo128 (b : ByteArray) : Hash128 :=
  let n := b.size
  let pairs := (n - 1) / 32 + 1
  finishMiddle n <| (List.range pairs).reverse.foldl
    (fun acc k => mix32 b acc (16 * k) (n - 16 * (k + 1)) (32 * k)) ⟨0, n.toUInt64 * prime64a⟩

def hashTo240 (b : ByteArray) : Hash128 :=
  let n := b.size
  let start := (List.range 4).foldl
    (fun acc k => mix32 b acc (32 * k) (32 * k + 16) (32 * k)) ⟨0, n.toUInt64 * prime64a⟩
  let acc := (List.range (n / 32 - 4)).foldl
    (fun acc k => mix32 b acc (32 * (k + 4)) (32 * (k + 4) + 16) (32 * k + 3))
    ⟨avalanche start.high, avalanche start.low⟩
  finishMiddle n (mix32 b acc (n - 16) (n - 32) 103)

abbrev Lanes := Vector UInt64 8

def initialLanes : Lanes :=
  #v[prime32c, prime64a, prime64b, prime64c, prime64d, prime32b, prime64e, prime32a]

/-- Adds the stripe of 64 bytes at `i`: every word goes to its neighbour, its product with the
secret to its own lane. -/
def accumulate (b : ByteArray) (i s : Nat) (acc : Lanes) : Lanes :=
  Vector.ofFn fun lane : Fin 8 =>
    let key := read64 b (i + 8 * lane.val) ^^^ read64 secret (s + 8 * lane.val)
    let neighbour := if lane.val % 2 = 0 then lane.val + 1 else lane.val - 1
    acc[lane] + read64 b (i + 8 * neighbour) + lowHalf key * (key >>> 32)

def scramble (acc : Lanes) : Lanes :=
  Vector.ofFn fun lane : Fin 8 =>
    (acc[lane] ^^^ acc[lane] >>> 47 ^^^ read64 secret (128 + 8 * lane.val)) * prime32a

def stripes (b : ByteArray) (start count : Nat) (acc : Lanes) : Lanes :=
  (List.range count).foldl (fun acc k => accumulate b (start + 64 * k) (8 * k) acc) acc

def mergeLanes (acc : Lanes) (s : Nat) (start : UInt64) : UInt64 :=
  let pair (k : Fin 4) : UInt64 :=
    multiplyFold (acc[2 * k.val] ^^^ read64 secret (s + 16 * k))
      (acc[2 * k.val + 1] ^^^ read64 secret (s + 16 * k + 8))
  avalanche ((List.finRange 4).foldl (fun h k => h + pair k) start)

def hashLong (b : ByteArray) : Hash128 :=
  let n := b.size
  let blocks := (n - 1) / 1024
  let acc := (List.range blocks).foldl
    (fun acc k => scramble (stripes b (1024 * k) 16 acc)) initialLanes
  let acc := stripes b (1024 * blocks) ((n - 1 - 1024 * blocks) / 64) acc
  let acc := accumulate b (n - 64) 121 acc
  ⟨mergeLanes acc 117 (~~~(n.toUInt64 * prime64b)), mergeLanes acc 11 (n.toUInt64 * prime64a)⟩

def hash (data : Bytes) : Hash128 :=
  let b : ByteArray := ⟨data.toArray⟩
  if b.size = 0 then hashEmpty
  else if b.size ≤ 3 then hashTo3 b
  else if b.size ≤ 8 then hashTo8 b
  else if b.size ≤ 16 then hashTo16 b
  else if b.size ≤ 128 then hashTo128 b
  else if b.size ≤ 240 then hashTo240 b
  else hashLong b

end Xxh3

end ShaderBuild
