import ShaderBuild.Bytes

/-!
The BLAKE3 hash of a byte string: chunks of 1024 bytes are hashed one by one and
their chaining values are merged pairwise, level by level, into one root value.
-/

namespace ShaderBuild.Blake3

abbrev ChainingValue := Vector UInt32 8
abbrev Block := Vector UInt32 16

def initial : ChainingValue :=
  #v[0x6A09E667, 0xBB67AE85, 0x3C6EF372, 0xA54FF53A, 0x510E527F, 0x9B05688C, 0x1F83D9AB, 0x5BE0CD19]

/-- The order in which a round reads the words of the round before it. -/
def schedule : Vector (Fin 16) 16 := #v[2, 6, 3, 10, 7, 0, 4, 13, 1, 11, 12, 5, 9, 14, 15, 8]

def chunkStart : UInt32 := 1
def chunkEnd : UInt32 := 2
def parentNode : UInt32 := 4
def rootNode : UInt32 := 8

def chunkSize : Nat := 1024
def blockSize : Nat := 64

def rotateRight (x n : UInt32) : UInt32 := (x >>> n) ||| (x <<< (32 - n))

/-- The quarter round on four words of the state. -/
def quarter (s : Block) (a b c d : Fin 16) (x y : UInt32) : Block :=
  let a1 := s[a] + s[b] + x
  let d1 := rotateRight (s[d] ^^^ a1) 16
  let c1 := s[c] + d1
  let b1 := rotateRight (s[b] ^^^ c1) 12
  let a2 := a1 + b1 + y
  let d2 := rotateRight (d1 ^^^ a2) 8
  let c2 := c1 + d2
  let b2 := rotateRight (b1 ^^^ c2) 7
  (((s.set a a2).set b b2).set c c2).set d d2

/-- Columns first, then diagonals. -/
def round (s m : Block) : Block :=
  let s := quarter s 0 4 8 12 m[0] m[1]
  let s := quarter s 1 5 9 13 m[2] m[3]
  let s := quarter s 2 6 10 14 m[4] m[5]
  let s := quarter s 3 7 11 15 m[6] m[7]
  let s := quarter s 0 5 10 15 m[8] m[9]
  let s := quarter s 1 6 11 12 m[10] m[11]
  let s := quarter s 2 7 8 13 m[12] m[13]
  quarter s 3 4 9 14 m[14] m[15]

def permute (m : Block) : Block := schedule.map fun i => m[i]

def rounds : Nat → Block → Block → Block
  | 0, s, _ => s
  | n + 1, s, m => rounds n (round s m) (permute m)

def compress (cv : ChainingValue) (block : Block) (counter : UInt64) (length flags : UInt32) :
    ChainingValue :=
  let start : Block := cv ++
    #v[initial[0], initial[1], initial[2], initial[3],
      counter.toUInt32, (counter >>> 32).toUInt32, length, flags]
  let s := rounds 7 start block
  Vector.ofFn fun i : Fin 8 => s[i.val] ^^^ s[i.val + 8]

/-- The words of 64 bytes from `offset`, with zeros after `stop`. -/
def blockAt (data : ByteArray) (offset stop : Nat) : Block :=
  let byte (i : Nat) : UInt32 := if offset + i < stop then (data.get! (offset + i)).toUInt32 else 0
  Vector.ofFn fun i : Fin 16 =>
    byte (4 * i) ||| byte (4 * i + 1) <<< 8 ||| byte (4 * i + 2) <<< 16 ||| byte (4 * i + 3) <<< 24

/-- Hashes the chunk of `data` with the given number. `last` is added to the flags of its last
block. -/
def chunk (data : ByteArray) (number : Nat) (last : UInt32) : ChainingValue :=
  let start := number * chunkSize
  let stop := min data.size (start + chunkSize)
  let blocks := max 1 ((stop - start + blockSize - 1) / blockSize)
  (List.range blocks).foldl (fun cv i =>
    let offset := start + i * blockSize
    let length := min blockSize (stop - offset)
    let flags :=
      (if i = 0 then chunkStart else 0) ||| (if i + 1 = blocks then chunkEnd ||| last else 0)
    compress cv (blockAt data offset stop) number.toUInt64 length.toUInt32 flags) initial

def parent (left right : ChainingValue) (flags : UInt32) : ChainingValue :=
  compress initial (left ++ right) 0 blockSize.toUInt32 (parentNode ||| flags)

/-- One level of the tree: neighbours are merged and an odd last value moves up unchanged. -/
def mergePairs : List ChainingValue → List ChainingValue
  | left :: right :: rest => parent left right 0 :: mergePairs rest
  | rest => rest

theorem length_mergePairs_le (cvs : List ChainingValue) : (mergePairs cvs).length ≤ cvs.length := by
  fun_induction mergePairs cvs with
  | case1 left right rest ih => simp only [List.length_cons]; omega
  | case2 => exact Nat.le_refl _

/-- Merges the levels until two values are left, which make the root. -/
def mergeAll : List ChainingValue → ChainingValue
  | [] => initial
  | [cv] => cv
  | [left, right] => parent left right rootNode
  | a :: b :: c :: rest => mergeAll (parent a b 0 :: mergePairs (c :: rest))
termination_by cvs => cvs.length
decreasing_by
  have := length_mergePairs_le (c :: rest)
  simp only [List.length_cons] at *
  omega

def wordBytes (w : UInt32) : Bytes :=
  [w.toUInt8, (w >>> 8).toUInt8, (w >>> 16).toUInt8, (w >>> 24).toUInt8]

@[simp] theorem length_wordBytes (w : UInt32) : (wordBytes w).length = 4 := rfl

def root (data : Bytes) : ChainingValue :=
  let data : ByteArray := ⟨data.toArray⟩
  if data.size ≤ chunkSize then chunk data 0 rootNode
  else mergeAll ((List.range ((data.size + chunkSize - 1) / chunkSize)).map fun i => chunk data i 0)

/-- The 32 bytes of the hash. -/
def hash (data : Bytes) : Bytes := (root data).toList.flatMap wordBytes

@[simp] theorem length_hash (data : Bytes) : (hash data).length = 32 := by
  rw [hash, List.length_flatMap, List.map_congr_left fun w _ => length_wordBytes w, List.map_const',
    List.sum_replicate_nat, Vector.length_toList]

end ShaderBuild.Blake3
