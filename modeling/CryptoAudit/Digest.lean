/-!
# Digests

The BLAKE2s hash function without a key, and the short tags made of it.

## Main definitions

* `blake2s`: the digest of a list of bytes
* `runTag`: the first hexadecimal digits of an eight-byte digest
-/

namespace CryptoAudit.Digest

/-- The initial chaining words. -/
def initial : Array UInt32 :=
  #[0x6A09E667, 0xBB67AE85, 0x3C6EF372, 0xA54FF53A, 0x510E527F, 0x9B05688C, 0x1F83D9AB,
    0x5BE0CD19]

/-- The order in which each of the ten rounds takes the message words. -/
def schedule : List (Array Nat) :=
  [#[0, 1, 2, 3, 4, 5, 6, 7, 8, 9, 10, 11, 12, 13, 14, 15],
   #[14, 10, 4, 8, 9, 15, 13, 6, 1, 12, 0, 2, 11, 7, 5, 3],
   #[11, 8, 12, 0, 5, 2, 15, 13, 10, 14, 3, 6, 7, 1, 9, 4],
   #[7, 9, 3, 1, 13, 12, 11, 14, 2, 6, 5, 10, 4, 0, 15, 8],
   #[9, 0, 5, 7, 2, 4, 10, 15, 14, 1, 11, 12, 6, 8, 3, 13],
   #[2, 12, 6, 10, 0, 11, 8, 3, 4, 13, 7, 5, 15, 14, 1, 9],
   #[12, 5, 1, 15, 14, 13, 4, 10, 0, 7, 6, 3, 9, 2, 8, 11],
   #[13, 11, 7, 14, 12, 1, 3, 9, 5, 0, 15, 4, 8, 6, 2, 10],
   #[6, 15, 14, 9, 11, 3, 0, 8, 12, 2, 13, 7, 1, 4, 10, 5],
   #[10, 2, 8, 4, 7, 6, 1, 5, 15, 11, 9, 14, 3, 12, 13, 0]]

/-- The columns and diagonals that a round mixes, in order. -/
def quarters : List (Nat × Nat × Nat × Nat) :=
  [(0, 4, 8, 12), (1, 5, 9, 13), (2, 6, 10, 14), (3, 7, 11, 15),
   (0, 5, 10, 15), (1, 6, 11, 12), (2, 7, 8, 13), (3, 4, 9, 14)]

/-- The word rotated to the right. -/
def rotateRight (x k : UInt32) : UInt32 :=
  (x >>> k) ||| (x <<< (32 - k))

/-- The word at an index. -/
def word (v : Array UInt32) (i : Nat) : UInt32 :=
  v.getD i 0

/-- Mix two message words into four words of the state. -/
def mix (v : Array UInt32) (a b c d : Nat) (x y : UInt32) : Array UInt32 :=
  let va := word v a + word v b + x
  let vd := rotateRight (word v d ^^^ va) 16
  let vc := word v c + vd
  let vb := rotateRight (word v b ^^^ vc) 12
  let va := va + vb + y
  let vd := rotateRight (vd ^^^ va) 8
  let vc := vc + vd
  let vb := rotateRight (vb ^^^ vc) 7
  (((v.setIfInBounds a va).setIfInBounds b vb).setIfInBounds c vc).setIfInBounds d vd

/-- One round: four columns, then four diagonals. -/
def round (m : Array UInt32) (v : Array UInt32) (order : Array Nat) : Array UInt32 :=
  quarters.zipIdx.foldl (fun v ((a, b, c, d), i) =>
    mix v a b c d (word m (order.getD (2 * i) 0)) (word m (order.getD (2 * i + 1) 0))) v

/-- The words of a list of bytes, least significant byte first. -/
def wordsOf : List UInt8 → List UInt32
  | a :: b :: c :: d :: rest =>
    (a.toUInt32 ||| (b.toUInt32 <<< 8) ||| (c.toUInt32 <<< 16) ||| (d.toUInt32 <<< 24)) ::
      wordsOf rest
  | _ => []

/-- A block of bytes filled up with zeros to 64. -/
def fill (block : List UInt8) : List UInt8 :=
  block ++ List.replicate (64 - block.length) 0

/-- The chaining words after a block; `count` bytes have been taken, this block included. -/
def compress (h : Array UInt32) (block : List UInt8) (count : Nat) (isLast : Bool) :
    Array UInt32 :=
  let m := (wordsOf (fill block)).toArray
  let v := h ++ initial
  let v := v.setIfInBounds 12 (word v 12 ^^^ UInt32.ofNat count)
  let v := v.setIfInBounds 13 (word v 13 ^^^ UInt32.ofNat (count / 0x100000000))
  let v := if isLast then v.setIfInBounds 14 (word v 14 ^^^ 0xFFFFFFFF) else v
  let v := schedule.foldl (round m) v
  h.mapIdx fun i x => x ^^^ word v i ^^^ word v (i + 8)

/-- The chaining words after all blocks. Only the last block may be shorter than 64 bytes. -/
def absorb (h : Array UInt32) (count : Nat) : Nat → List UInt8 → Array UInt32
  | 0, _ => h
  | fuel + 1, bytes =>
    if bytes.length ≤ 64 then compress h bytes (count + bytes.length) true
    else absorb (compress h (bytes.take 64) (count + 64) false) (count + 64) fuel (bytes.drop 64)

/-- The bytes of a word, least significant first. -/
def bytesOf (x : UInt32) : List UInt8 :=
  [x.toUInt8, (x >>> 8).toUInt8, (x >>> 16).toUInt8, (x >>> 24).toUInt8]

/-- The digest of `size` bytes. -/
def blake2s (size : Nat) (bytes : List UInt8) : List UInt8 :=
  let h := initial.setIfInBounds 0 (word initial 0 ^^^ 0x01010000 ^^^ UInt32.ofNat size)
  ((absorb h 0 (bytes.length / 64 + 1) bytes).toList.flatMap bytesOf).take size

/-- The two hexadecimal digits of a byte. -/
def hexByte (b : UInt8) : List Char :=
  [Nat.digitChar (b.toNat / 16), Nat.digitChar (b.toNat % 16)]

/-- The hexadecimal text of an eight-byte digest of a text. -/
def tagDigits (id : String) : List Char :=
  (blake2s 8 id.toUTF8.toList).flatMap hexByte

/-- The first `length` digits of the digest of an identifier; a negative length leaves out that
many digits at the end. -/
def runTag (id : String) (length : Int) : String :=
  let digits := tagDigits id
  String.ofList (digits.take
    (if length < 0 then digits.length - length.natAbs else length.toNat))

/-- The number of digits of a tag. -/
def tagLength : Int := 8

end CryptoAudit.Digest
