/-!
# Digests

The BLAKE3 digest of a sequence of bytes. The input is cut into chunks of 1024 bytes, each chunk
into blocks of 64; the chunks are the leaves of a binary tree whose left part is as large a full
tree as leaves something to the right. `Digest.hex` writes the 32 bytes of the root.
-/

namespace Testbed.Digest

/-- Eight words that carry a result from one compression to the next. -/
abbrev Chain := Vector UInt32 8

/-- The sixteen words of a block. -/
abbrev Block := Vector UInt32 16

/-- The chain that everything starts from. -/
def start : Chain :=
  #v[0x6A09E667, 0xBB67AE85, 0x3C6EF372, 0xA54FF53A, 0x510E527F, 0x9B05688C, 0x1F83D9AB, 0x5BE0CD19]

/-- Where the words of a block come from in the next round. -/
def schedule : Vector (Fin 16) 16 := #v[2, 6, 3, 10, 7, 0, 4, 13, 1, 11, 12, 5, 9, 14, 15, 8]

/-- Turn a word right by fewer than 32 bits. -/
def rotateRight (x : UInt32) (n : UInt32) : UInt32 := (x >>> n) ||| (x <<< (32 - n))

/-- Mix four words of the state with two of the block. -/
def quarter (s : Block) (a b c d : Fin 16) (x y : UInt32) : Block :=
  let va := s[a] + s[b] + x
  let vd := rotateRight (s[d] ^^^ va) 16
  let vc := s[c] + vd
  let vb := rotateRight (s[b] ^^^ vc) 12
  let va := va + vb + y
  let vd := rotateRight (vd ^^^ va) 8
  let vc := vc + vd
  let vb := rotateRight (vb ^^^ vc) 7
  (((s.set a va).set b vb).set c vc).set d vd

/-- One round: the columns of the state, then its diagonals. -/
def round (s m : Block) : Block :=
  let s := quarter s 0 4 8 12 m[0] m[1]
  let s := quarter s 1 5 9 13 m[2] m[3]
  let s := quarter s 2 6 10 14 m[4] m[5]
  let s := quarter s 3 7 11 15 m[6] m[7]
  let s := quarter s 0 5 10 15 m[8] m[9]
  let s := quarter s 1 6 11 12 m[10] m[11]
  let s := quarter s 2 7 8 13 m[12] m[13]
  quarter s 3 4 9 14 m[14] m[15]

/-- Several rounds, the block rearranged after each. -/
def rounds : Nat → Block → Block → Block
  | 0, s, _ => s
  | n + 1, s, m => rounds n (round s m) (Vector.ofFn fun i => m[schedule[i]])

/-- What a block is part of: bits that are mixed into its compression. -/
abbrev Role := UInt32

/-- The first block of a chunk. -/
def chunkStart : Role := 1

/-- The last block of a chunk. -/
def chunkEnd : Role := 2

/-- A block made of two chains. -/
def parent : Role := 4

/-- The block that gives the digest. -/
def root : Role := 8

/-- Compress a block of `length` bytes onto a chain. -/
def compress (chain : Chain) (m : Block) (counter : UInt64) (length : UInt32) (role : Role) :
    Chain :=
  let s : Block := (chain ++ #v[start[0], start[1], start[2], start[3],
    counter.toUInt32, (counter >>> 32).toUInt32, length, role] : Vector UInt32 16)
  let s := rounds 7 s m
  Vector.ofFn fun i : Fin 8 => s[i.val] ^^^ s[i.val + 8]

/-- The byte at a place, zero after the end. -/
def byteAt (data : ByteArray) (i : Nat) : UInt32 := (data[i]?.getD 0).toUInt32

/-- The block of `length` bytes from a place on, filled up with zeros. -/
def blockAt (data : ByteArray) (place length : Nat) : Block :=
  let byte (i : Nat) : UInt32 := if i < length then byteAt data (place + i) else 0
  Vector.ofFn fun i : Fin 16 =>
    let k := 4 * i.val
    byte k ||| (byte (k + 1) <<< 8) ||| (byte (k + 2) <<< 16) ||| (byte (k + 3) <<< 24)

/-- The chain of the blocks of chunk number `index` from `place` on, `left` bytes of it; `last` is
added to the role of its last block. -/
def chunkFrom (data : ByteArray) (index : Nat) (last : Role) :
    Nat → Chain → Role → Nat → Nat → Chain
  | 0, chain, _, _, _ => chain
  | fuel + 1, chain, role, place, left =>
    if left ≤ 64 then
      compress chain (blockAt data place left) index.toUInt64 left.toUInt32
        (role ||| chunkEnd ||| last)
    else
      let chain := compress chain (blockAt data place 64) index.toUInt64 64 role
      chunkFrom data index last fuel chain 0 (place + 64) (left - 64)

/-- The chain of one chunk. -/
def chunk (data : ByteArray) (index : Nat) (last : Role) : Chain :=
  let place := 1024 * index
  chunkFrom data index last 16 start chunkStart place (min 1024 (data.size - place))

/-- The number of chunks in the left part of a tree of `count` chunks. -/
def leftCount (count : Nat) : Nat := Nat.pow 2 (count - 1).log2

theorem leftCount_lt {count : Nat} (h : 2 ≤ count) : leftCount count < count := by
  have := Nat.log2_self_le (n := count - 1) (by omega)
  rw [leftCount, Nat.pow_eq]
  omega

theorem leftCount_pos (count : Nat) : 0 < leftCount count := Nat.two_pow_pos _

/-- The chain of a tree of `count` chunks from number `index` on; `last` is added to the role of
its top. -/
def tree (data : ByteArray) (index count : Nat) (last : Role) : Chain :=
  if _h : 2 ≤ count then
    let left := tree data index (leftCount count) 0
    let right := tree data (index + leftCount count) (count - leftCount count) 0
    compress start (left ++ right : Vector UInt32 16) 0 64 (parent ||| last)
  else chunk data index last
termination_by count
decreasing_by
  · exact leftCount_lt _h
  · exact Nat.sub_lt (Nat.lt_of_lt_of_le Nat.zero_lt_two _h) (leftCount_pos count)

/-- The number of chunks of so many bytes; there is always one. -/
def chunkCount (size : Nat) : Nat := max 1 ((size + 1023) / 1024)

/-- The eight words of a digest. -/
def words (data : ByteArray) : Chain := tree data 0 (chunkCount data.size) root

/-- The hexadecimal digits of a word's bytes, lowest byte first. -/
def wordHex (w : UInt32) : List Char :=
  [0, 8, 16, 24].flatMap fun (shift : UInt32) =>
    let byte := ((w >>> shift) &&& 0xFF).toNat
    [Nat.digitChar (byte / 16), Nat.digitChar (byte % 16)]

/-- The digest of bytes in hexadecimal. -/
def hex (data : ByteArray) : String := String.ofList ((words data).toList.flatMap wordHex)

end Testbed.Digest
