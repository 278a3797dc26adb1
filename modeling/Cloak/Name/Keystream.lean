import Cloak.Text.Utf8

/-! The keystream that opaque names are drawn from: the ChaCha block function with twelve rounds, a key of
    eight words and a block counter of two. -/

namespace Cloak

/-- Four words, one row of the cipher's square. -/
structure Row where
  a : UInt32
  b : UInt32
  c : UInt32
  d : UInt32
  deriving DecidableEq, Repr

namespace Row

/-- Joins two rows word by word. -/
def zipWith (f : UInt32 → UInt32 → UInt32) (x y : Row) : Row := ⟨f x.a y.a, f x.b y.b, f x.c y.c, f x.d y.d⟩

/-- Turns the bits of each word left by `n`. -/
def rotate (x : Row) (n : UInt32) : Row := ⟨turn x.a, turn x.b, turn x.c, turn x.d⟩
where
  turn (w : UInt32) : UInt32 := (w <<< n) ||| (w >>> (32 - n))

/-- Moves each word one place to the left, the first to the end. -/
def shift (x : Row) : Row := ⟨x.b, x.c, x.d, x.a⟩

/-- The words in order. -/
def toList (x : Row) : List UInt32 := [x.a, x.b, x.c, x.d]

end Row

/-- The cipher's square of sixteen words. -/
structure Square where
  r0 : Row
  r1 : Row
  r2 : Row
  r3 : Row
  deriving DecidableEq, Repr

namespace Square

/-- Mixes the four columns. -/
def mixColumns (s : Square) : Square :=
  let a := s.r0.zipWith (· + ·) s.r1
  let d := (s.r3.zipWith (· ^^^ ·) a).rotate 16
  let c := s.r2.zipWith (· + ·) d
  let b := (s.r1.zipWith (· ^^^ ·) c).rotate 12
  let a := a.zipWith (· + ·) b
  let d := (d.zipWith (· ^^^ ·) a).rotate 8
  let c := c.zipWith (· + ·) d
  let b := (b.zipWith (· ^^^ ·) c).rotate 7
  ⟨a, b, c, d⟩

/-- Brings the diagonals into the columns. -/
def skew (s : Square) : Square := ⟨s.r0, s.r1.shift, s.r2.shift.shift, s.r3.shift.shift.shift⟩

/-- Undoes `skew`. -/
def unskew (s : Square) : Square := ⟨s.r0, s.r1.shift.shift.shift, s.r2.shift.shift, s.r3.shift⟩

/-- One round over the columns and one over the diagonals. -/
def doubleRound (s : Square) : Square := s.mixColumns.skew.mixColumns.unskew

/-- `n` double rounds. -/
def rounds : (n : Nat) → Square → Square
  | 0, s => s
  | n + 1, s => rounds n s.doubleRound

/-- Adds two squares word by word. -/
def add (s t : Square) : Square :=
  ⟨s.r0.zipWith (· + ·) t.r0, s.r1.zipWith (· + ·) t.r1, s.r2.zipWith (· + ·) t.r2, s.r3.zipWith (· + ·) t.r3⟩

/-- The sixteen words in order. -/
def toList (s : Square) : List UInt32 := s.r0.toList ++ s.r1.toList ++ s.r2.toList ++ s.r3.toList

end Square

/-- A key of eight words. -/
structure Key where
  lo : Row
  hi : Row
  deriving DecidableEq, Repr

namespace Key

/-- The square that block `counter` starts from. -/
def square (k : Key) (counter : UInt64) : Square :=
  ⟨⟨0x61707865, 0x3320646e, 0x79622d32, 0x6b206574⟩, k.lo, k.hi,
    ⟨counter.toUInt32, (counter >>> 32).toUInt32, 0, 0⟩⟩

/-- The words of block `counter`. -/
def block (k : Key) (counter : UInt64) : List UInt32 :=
  ((k.square counter).add ((k.square counter).rounds 6)).toList

/-- The word of four bytes, the lowest first. -/
def wordOfBytes (b0 b1 b2 b3 : UInt8) : UInt32 :=
  b0.toUInt32 ||| (b1.toUInt32 <<< 8) ||| (b2.toUInt32 <<< 16) ||| (b3.toUInt32 <<< 24)

/-- The words of a sequence of bytes, four bytes each. -/
def wordsOfBytes : Bytes → List UInt32
  | b0 :: b1 :: b2 :: b3 :: rest => wordOfBytes b0 b1 b2 b3 :: wordsOfBytes rest
  | _ => []

/-- The key of eight words. -/
def ofWords? : List UInt32 → Option Key
  | [w0, w1, w2, w3, w4, w5, w6, w7] => some ⟨⟨w0, w1, w2, w3⟩, ⟨w4, w5, w6, w7⟩⟩
  | _ => none

/-- The key of 32 bytes. -/
def ofBytes? (bs : Bytes) : Option Key := ofWords? (wordsOfBytes bs)

/-- The next state of the generator that spreads a seed over a key. -/
def seedStep (state : UInt64) : UInt64 := state * 6364136223846793005 + 11634580027462260723

/-- The word that a state of that generator gives. -/
def seedWord (state : UInt64) : UInt32 :=
  let x := (((state >>> 18) ^^^ state) >>> 27).toUInt32
  let n := (state >>> 59).toUInt32
  (x >>> n) ||| (x <<< (32 - n))

/-- The key of a 64-bit seed. -/
def ofSeed (seed : UInt64) : Key :=
  let s0 := seedStep seed
  let s1 := seedStep s0
  let s2 := seedStep s1
  let s3 := seedStep s2
  let s4 := seedStep s3
  let s5 := seedStep s4
  let s6 := seedStep s5
  let s7 := seedStep s6
  ⟨⟨seedWord s0, seedWord s1, seedWord s2, seedWord s3⟩, ⟨seedWord s4, seedWord s5, seedWord s6, seedWord s7⟩⟩

end Key

/-- A source of words: each draw gives a word and the source after it. -/
class WordSource (σ : Type) where
  next : σ → UInt32 × σ

/-- A keystream at some position: the words left of the current block, and the number of the next block. -/
structure Keystream where
  key : Key
  counter : UInt64 := 0
  left : List UInt32 := []

namespace Keystream

/-- The keystream of a key from its beginning. -/
def ofKey (k : Key) : Keystream := { key := k }

/-- The keystream of a seed. -/
def ofSeed (seed : UInt64) : Keystream := ofKey (Key.ofSeed seed)

/-- Draws a word. -/
def next (k : Keystream) : UInt32 × Keystream :=
  match k.left with
  | w :: left => (w, { k with left })
  | [] =>
    match k.key.block k.counter with
    | w :: left => (w, { k with left, counter := k.counter + 1 })
    | [] => (0, { k with counter := k.counter + 1 })

instance : WordSource Keystream := ⟨next⟩

end Keystream
end Cloak
