/-!
The digest BLAKE3 of a list of bytes, unkeyed. The bytes are cut into chunks of 1024, each chunk is
folded block by block into a chaining value, and the chaining values are joined in a binary tree.
-/
set_option autoImplicit false

namespace Shorthand.Digest

abbrev Words (n : Nat) := Vector UInt32 n

namespace Blake3

def initial : Words 8 :=
  #v[0x6A09E667, 0xBB67AE85, 0x3C6EF372, 0xA54FF53A, 0x510E527F, 0x9B05688C, 0x1F83D9AB, 0x5BE0CD19]

def permutation : Vector (Fin 16) 16 := #v[2, 6, 3, 10, 7, 0, 4, 13, 1, 11, 12, 5, 9, 14, 15, 8]

def permute (m : Words 16) : Words 16 := permutation.map fun i => m[i]

def rotate (x : UInt32) (n : UInt32) : UInt32 := x >>> n ||| x <<< (32 - n)

def mix (v : Words 16) (a b c d : Fin 16) (x y : UInt32) : Words 16 :=
  let half (v : Words 16) (x : UInt32) (r s : UInt32) : Words 16 :=
    let v := v.set a (v[a] + v[b] + x)
    let v := v.set d (rotate (v[d] ^^^ v[a]) r)
    let v := v.set c (v[c] + v[d])
    v.set b (rotate (v[b] ^^^ v[c]) s)
  half (half v x 16 12) y 8 7

def round (v m : Words 16) : Words 16 :=
  let v := mix v 0 4 8 12 m[0] m[1]
  let v := mix v 1 5 9 13 m[2] m[3]
  let v := mix v 2 6 10 14 m[4] m[5]
  let v := mix v 3 7 11 15 m[6] m[7]
  let v := mix v 0 5 10 15 m[8] m[9]
  let v := mix v 1 6 11 12 m[10] m[11]
  let v := mix v 2 7 8 13 m[12] m[13]
  mix v 3 4 9 14 m[14] m[15]

def rounds : Nat → Words 16 → Words 16 → Words 16
  | 0, v, _ => v
  | n + 1, v, m => rounds n (round v m) (permute m)

structure Block where
  chaining : Words 8
  message : Words 16
  /-- The number of the chunk, in its low and high half. -/
  counter : Nat
  size : Nat
  flags : UInt32

def chunkStart : UInt32 := 1
def chunkEnd : UInt32 := 2
def parent : UInt32 := 4
def root : UInt32 := 8

def Block.compress (b : Block) : Words 8 :=
  let h := b.chaining
  let v : Words 16 := #v[h[0], h[1], h[2], h[3], h[4], h[5], h[6], h[7],
    initial[0], initial[1], initial[2], initial[3],
    .ofNat b.counter, .ofNat (b.counter / Nat.pow 2 32), .ofNat b.size, b.flags]
  let w := rounds 7 v b.message
  .ofFn fun i : Fin 8 => w[i.val] ^^^ w[i.val + 8]

def wordAt (bytes : List UInt8) (i : Nat) : UInt32 :=
  ((bytes.drop (4 * i)).take 4).foldr (fun b w => w * 256 + b.toUInt32) 0

def messageOf (bytes : List UInt8) : Words 16 := .ofFn fun i : Fin 16 => wordAt bytes i

def chunkBlock (counter : Nat) (chaining : Words 8) (flags : UInt32) (bytes : List UInt8) : Block :=
  if _h : bytes.length ≤ 64 then
    ⟨chaining, messageOf bytes, counter, bytes.length, flags ||| chunkEnd⟩
  else
    let first : Block := ⟨chaining, messageOf (bytes.take 64), counter, 64, flags⟩
    chunkBlock counter first.compress 0 (bytes.drop 64)
  termination_by bytes.length
  decreasing_by simp; omega

def chunkSize : Nat := 1024

def leftChunks (chunks : Nat) : Nat := Nat.pow 2 (chunks - 1).log2

/-- The topmost block of a tree of chunks. The first argument bounds the height of the tree. -/
def treeBlock : Nat → Nat → List UInt8 → Block
  | 0, counter, bytes => chunkBlock counter initial chunkStart bytes
  | height + 1, counter, bytes =>
    if bytes.length ≤ chunkSize then chunkBlock counter initial chunkStart bytes
    else
      let left := leftChunks ((bytes.length + chunkSize - 1) / chunkSize)
      let l := (treeBlock height counter (bytes.take (left * chunkSize))).compress
      let r := (treeBlock height (counter + left) (bytes.drop (left * chunkSize))).compress
      ⟨initial, l ++ r, 0, 64, parent⟩

end Blake3

def bytesOf (w : UInt32) : List UInt8 :=
  [w.toUInt8, (w >>> 8).toUInt8, (w >>> 16).toUInt8, (w >>> 24).toUInt8]

def blake3 (bytes : List UInt8) : List UInt8 :=
  let top := Blake3.treeBlock 64 0 bytes
  (Blake3.Block.compress { top with
    counter := 0, flags := top.flags ||| Blake3.root }).toList.flatMap bytesOf

def hex (bytes : List UInt8) : String :=
  .ofList (bytes.flatMap fun b => [Nat.digitChar (b.toNat / 16), Nat.digitChar (b.toNat % 16)])

end Shorthand.Digest
