/-!
# The BLAKE3 hash

The hash of a list of bytes in 32 bytes. The input is cut into chunks of 1024 bytes and each chunk
into blocks of 64. The chunks are the leaves of a binary tree, in which every left subtree is
complete and as large as it can be without taking in all chunks.
-/

namespace Reshape.Digest.Blake3

abbrev Words (n : Nat) := Vector UInt32 n

def iv : Words 8 :=
  #v[0x6A09E667, 0xBB67AE85, 0x3C6EF372, 0xA54FF53A, 0x510E527F, 0x9B05688C, 0x1F83D9AB, 0x5BE0CD19]

/-- Where each message word of a round comes from in the round before. -/
def permutation : Vector (Fin 16) 16 :=
  #v[2, 6, 3, 10, 7, 0, 4, 13, 1, 11, 12, 5, 9, 14, 15, 8]

def rotate (x : UInt32) (count : UInt32) : UInt32 :=
  (x >>> count) ||| (x <<< (32 - count))

/-- The quarter round on four words of the state. -/
def quarter (s : Words 16) (a b c d : Fin 16) (x y : UInt32) : Words 16 :=
  let s := s.set a (s.get a + s.get b + x)
  let s := s.set d (rotate (s.get d ^^^ s.get a) 16)
  let s := s.set c (s.get c + s.get d)
  let s := s.set b (rotate (s.get b ^^^ s.get c) 12)
  let s := s.set a (s.get a + s.get b + y)
  let s := s.set d (rotate (s.get d ^^^ s.get a) 8)
  let s := s.set c (s.get c + s.get d)
  s.set b (rotate (s.get b ^^^ s.get c) 7)

/-- The four columns, then the four diagonals. -/
def round (s m : Words 16) : Words 16 :=
  let s := quarter s 0 4 8 12 (m.get 0) (m.get 1)
  let s := quarter s 1 5 9 13 (m.get 2) (m.get 3)
  let s := quarter s 2 6 10 14 (m.get 4) (m.get 5)
  let s := quarter s 3 7 11 15 (m.get 6) (m.get 7)
  let s := quarter s 0 5 10 15 (m.get 8) (m.get 9)
  let s := quarter s 1 6 11 12 (m.get 10) (m.get 11)
  let s := quarter s 2 7 8 13 (m.get 12) (m.get 13)
  quarter s 3 4 9 14 (m.get 14) (m.get 15)

def rounds : Nat → Words 16 → Words 16 → Words 16
  | 0, s, _ => s
  | n + 1, s, m => rounds n (round s m) (permutation.map m.get)

/-- The input of one compression. -/
structure Node where
  chaining : Words 8
  block : Words 16
  counter : Nat
  length : Nat
  flags : UInt32

def chunkStart : UInt32 := 1
def chunkEnd : UInt32 := 2
def parent : UInt32 := 4
def root : UInt32 := 8

/-- The first half of the compressed state, which is a chaining value or the hash. -/
def compress (n : Node) (flags : UInt32) : Words 8 :=
  let tail : Words 8 := #v[iv.get 0, iv.get 1, iv.get 2, iv.get 3,
    UInt32.ofNat n.counter, UInt32.ofNat (n.counter / 0x100000000), UInt32.ofNat n.length, flags]
  let s := rounds 7 (n.chaining ++ tail) n.block
  Vector.ofFn fun i : Fin 8 => s.get (i.castLE (by decide)) ^^^ s.get (i.natAdd 8)

def Node.chainingValue (n : Node) : Words 8 :=
  compress n n.flags

/-- The little-endian word at a position; bytes past the end are zero. -/
def wordAt (bytes : List UInt8) (i : Nat) : UInt32 :=
  let byte (j : Nat) : UInt32 := (bytes.getD (4 * i + j) 0).toUInt32
  byte 0 ||| (byte 1 <<< 8) ||| (byte 2 <<< 16) ||| (byte 3 <<< 24)

def blockWords (bytes : List UInt8) : Words 16 :=
  Vector.ofFn fun i => wordAt bytes i

/-- The last block of a chunk, with the earlier ones folded into its chaining value. `bytes` are
those still to come, `flags` marks the first block. -/
def chunkNode (counter : Nat) (chaining : Words 8) (flags : UInt32) (bytes : List UInt8) : Node :=
  if 64 < bytes.length then
    let node : Node := ⟨chaining, blockWords (bytes.take 64), counter, 64, flags⟩
    chunkNode counter node.chainingValue 0 (bytes.drop 64)
  else ⟨chaining, blockWords bytes, counter, bytes.length, flags ||| chunkEnd⟩
termination_by bytes.length
decreasing_by simp only [List.length_drop]; omega

def parentNode (left right : Words 8) : Node :=
  ⟨iv, left ++ right, 0, 64, parent⟩

/-- The largest power of two below a number of chunks that is above one. -/
def leftSize (n : Nat) : Nat :=
  Nat.pow 2 (n - 1).log2

theorem leftSize_lt {n : Nat} (h : 1 < n) : leftSize n < n := by
  have : Nat.pow 2 (n - 1).log2 ≤ n - 1 := Nat.log2_self_le (by omega)
  unfold leftSize
  omega

theorem leftSize_pos (n : Nat) : 0 < leftSize n :=
  Nat.two_pow_pos _

/-- The top of the tree over `chunks`, the first of which has the number `counter`. -/
def treeNode (counter : Nat) (chunks : List (List UInt8)) : Node :=
  if h : 1 < chunks.length then
    let size := leftSize chunks.length
    have := leftSize_lt h
    have := leftSize_pos chunks.length
    parentNode (treeNode counter (chunks.take size)).chainingValue
      (treeNode (counter + size) (chunks.drop size)).chainingValue
  else chunkNode counter iv chunkStart (chunks.headD [])
termination_by chunks.length
decreasing_by
  all_goals simp only [List.length_take, List.length_drop]; omega

/-- Chunks of 1024 bytes, the last one shorter; none for no bytes. -/
def chunksOf (bytes : List UInt8) : List (List UInt8) :=
  if bytes.isEmpty then []
  else bytes.take 1024 :: chunksOf (bytes.drop 1024)
termination_by bytes.length
decreasing_by
  cases bytes with
  | nil => simp at *
  | cons => simp only [List.length_drop, List.length_cons]; omega

def wordBytes (w : UInt32) : List UInt8 :=
  [w.toUInt8, (w >>> 8).toUInt8, (w >>> 16).toUInt8, (w >>> 24).toUInt8]

def hash (bytes : List UInt8) : List UInt8 :=
  let top := treeNode 0 (chunksOf bytes)
  (compress top (top.flags ||| root)).toList.flatMap wordBytes

end Reshape.Digest.Blake3
