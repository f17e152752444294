/-!
# BLAKE3

The 256-bit digest of a byte sequence. The bytes are cut into chunks of 1024 and
those into blocks of 64; the blocks of a chunk are compressed one after the other,
and the chunks are joined as a binary tree whose root is compressed with a mark of
its own.
-/

namespace Bindery.Digest

/-- The eight words that compression hands on. -/
abbrev ChainingValue := Vector UInt32 8

/-- The sixteen words of a block of 64 bytes. -/
abbrev Block := Vector UInt32 16

/-- The chaining value that every chunk starts from. -/
def initial : ChainingValue :=
  #v[0x6a09e667, 0xbb67ae85, 0x3c6ef372, 0xa54ff53a, 0x510e527f, 0x9b05688c, 0x1f83d9ab, 0x5be0cd19]

/-- Where the words of a block come from in the next round. -/
def schedule : Vector (Fin 16) 16 :=
  #v[2, 6, 3, 10, 7, 0, 4, 13, 1, 11, 12, 5, 9, 14, 15, 8]

/-- The first block of a chunk. -/
def chunkStart : UInt32 := 1

/-- The last block of a chunk. -/
def chunkEnd : UInt32 := 2

/-- A block of two chaining values. -/
def parent : UInt32 := 4

/-- The last compression of all. -/
def root : UInt32 := 8

/-- The bits of a word moved around to the right. -/
def rotateRight (w : UInt32) (count : UInt32) : UInt32 := (w >>> count) ||| (w <<< (32 - count))

/-- Mixes two words of a block into four words of the state. -/
def mix (v : Block) (a b c d : Fin 16) (x y : UInt32) : Block :=
  let v := v.set a (v[a] + v[b] + x)
  let v := v.set d (rotateRight (v[d] ^^^ v[a]) 16)
  let v := v.set c (v[c] + v[d])
  let v := v.set b (rotateRight (v[b] ^^^ v[c]) 12)
  let v := v.set a (v[a] + v[b] + y)
  let v := v.set d (rotateRight (v[d] ^^^ v[a]) 8)
  let v := v.set c (v[c] + v[d])
  v.set b (rotateRight (v[b] ^^^ v[c]) 7)

/-- Mixes a block into the state: columns first, then diagonals. -/
def mixBlock (v m : Block) : Block :=
  let v := mix v 0 4 8 12 m[0] m[1]
  let v := mix v 1 5 9 13 m[2] m[3]
  let v := mix v 2 6 10 14 m[4] m[5]
  let v := mix v 3 7 11 15 m[6] m[7]
  let v := mix v 0 5 10 15 m[8] m[9]
  let v := mix v 1 6 11 12 m[10] m[11]
  let v := mix v 2 7 8 13 m[12] m[13]
  mix v 3 4 9 14 m[14] m[15]

/-- Rounds of mixing, with the words of the block in a new order for each. -/
def mixRounds : Nat → Block → Block → Block
  | 0, v, _ => v
  | rounds + 1, v, m => mixRounds rounds (mixBlock v m) (schedule.map fun i => m[i])

/-- All that a compression depends on. -/
structure Input where
  chaining : ChainingValue
  block : Block
  counter : UInt64
  /-- How many bytes of the block count. -/
  length : UInt32
  flags : UInt32

/-- The chaining value of a compression. -/
def Input.compress (input : Input) : ChainingValue :=
  let h := input.chaining
  let low := input.counter.toUInt32
  let high := (input.counter >>> 32).toUInt32
  let v := mixRounds 7
    #v[h[0], h[1], h[2], h[3], h[4], h[5], h[6], h[7], initial[0], initial[1], initial[2],
      initial[3], low, high, input.length, input.flags] input.block
  Vector.ofFn fun i : Fin 8 =>
    v[(⟨i, by omega⟩ : Fin 16)] ^^^ v[(⟨i + 8, by omega⟩ : Fin 16)]

/-- Cuts a list into pieces of `size`, the last of which may be shorter. -/
def pieces {α : Type} (size : Nat) : Nat → List α → List (List α)
  | 0, _ => []
  | fuel + 1, l =>
    if l.isEmpty then [] else l.take size :: pieces size fuel (l.drop size)

/-- The word of four bytes, the least significant first; bytes that are missing are zero. -/
def word (bytes : List UInt8) (i : Nat) : UInt32 :=
  let byte (k : Nat) : UInt32 := (bytes.getD (4 * i + k) 0).toUInt32
  byte 0 ||| (byte 1 <<< 8) ||| (byte 2 <<< 16) ||| (byte 3 <<< 24)

/-- The words of a block. -/
def blockOf (bytes : List UInt8) : Block := Vector.ofFn fun i => word bytes i

/-- Compresses the blocks of a chunk up to the last, which is left as an input. -/
def chunkInput (counter : UInt64) (chaining : ChainingValue) (flags : UInt32) :
    List (List UInt8) → Input
  | [] => ⟨chaining, blockOf [], counter, 0, flags ||| chunkEnd⟩
  | [last] => ⟨chaining, blockOf last, counter, last.length.toUInt32, flags ||| chunkEnd⟩
  | block :: rest =>
    let input : Input := ⟨chaining, blockOf block, counter, block.length.toUInt32, flags⟩
    chunkInput counter input.compress 0 rest

/-- The last input of a chunk. -/
def chunk (counter : Nat) (bytes : List UInt8) : Input :=
  chunkInput counter.toUInt64 initial chunkStart (pieces 64 (bytes.length + 1) bytes)

/-- The input that joins two chunks or trees. -/
def join (left right : Input) : Input :=
  ⟨initial, (left.compress ++ right.compress).cast (by rfl), 0, 64, parent⟩

/-- Joins neighbours; one that is left over stays. -/
def joinPairs : List Input → List Input
  | a :: b :: rest => join a b :: joinPairs rest
  | l => l

/-- The input at the top of the tree over the chunks. -/
def top : Nat → Input → List Input → Input
  | 0, first, _ => first
  | _, first, [] => first
  | fuel + 1, first, second :: rest => top fuel (join first second) (joinPairs rest)

/-- The eight words of the digest. -/
def digestWords (bytes : List UInt8) : ChainingValue :=
  let chunks := (pieces 1024 (bytes.length + 1) bytes).zipIdx.map fun c => chunk c.2 c.1
  let last :=
    match chunks with
    | [] => chunk 0 []
    | first :: rest => top rest.length first rest
  { last with flags := last.flags ||| root }.compress

/-- The two hexadecimal digits of a byte. -/
def hexByte (b : UInt8) : List Char :=
  [Nat.digitChar (b.toNat / 16), Nat.digitChar (b.toNat % 16)]

/-- The bytes of a word, the least significant first. -/
def wordBytes (w : UInt32) : List UInt8 :=
  [w.toUInt8, (w >>> 8).toUInt8, (w >>> 16).toUInt8, (w >>> 24).toUInt8]

/-- The digest of a text's bytes in hexadecimal. -/
def blake3 (s : String) : String :=
  String.ofList (((digestWords s.toUTF8.data.toList).toList.flatMap wordBytes).flatMap hexByte)

theorem length_flatMap_wordBytes (ws : List UInt32) :
    (ws.flatMap wordBytes).length = 4 * ws.length := by
  induction ws with
  | nil => rfl
  | cons w ws ih => simp [List.flatMap_cons, ih, wordBytes]; omega

theorem length_flatMap_hexByte (bs : List UInt8) :
    (bs.flatMap hexByte).length = 2 * bs.length := by
  induction bs with
  | nil => rfl
  | cons b bs ih => simp [List.flatMap_cons, ih, hexByte]; omega

/-- A digest has 64 digits. -/
theorem length_toList_blake3 (s : String) : (blake3 s).toList.length = 64 := by
  rw [blake3, String.toList_ofList, length_flatMap_hexByte, length_flatMap_wordBytes]
  simp

end Bindery.Digest
