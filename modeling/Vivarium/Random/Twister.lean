/-! The Mersenne Twister: a generator of 32-bit words with an explicit state. -/
namespace Vivarium

/-- A block of words, and how many of them have been drawn. -/
structure Twister where
  block : Array UInt32
  used : Nat
  deriving DecidableEq, Repr

namespace Twister

def blockSize : Nat := 624

private def word (block : Array UInt32) (i : Nat) : UInt32 := block.getD i 0

/-- The word before the `i`-th one, folded onto itself; every seeding step mixes it in. -/
private def carry (block : Array UInt32) (i : Nat) : UInt32 :=
  let w := word block (i - 1)
  w ^^^ (w >>> 30)

/-- The block that grows from a single word. -/
def spread (seed : UInt32) : Array UInt32 :=
  (List.range (blockSize - 1)).foldl
    (fun block i => block.push (1812433253 * carry block (i + 1) + UInt32.ofNat (i + 1))) #[seed]

/-- The place after `i`; past the end of the block its last word is copied to the front. -/
private def advance (block : Array UInt32) (i : Nat) : Array UInt32 × Nat :=
  if i + 1 < blockSize then (block, i + 1)
  else (block.setIfInBounds 0 (word block (blockSize - 1)), 1)

private def mixKey (key : Array UInt32) : Nat → Array UInt32 × Nat → Nat → Array UInt32 × Nat
  | 0, state, _ => state
  | n + 1, (block, i), j =>
    let w := (word block i ^^^ (carry block i * 1664525)) + key.getD j 0 + UInt32.ofNat j
    mixKey key n (advance (block.setIfInBounds i w) i) (if j + 1 < key.size then j + 1 else 0)

private def mixPlace : Nat → Array UInt32 × Nat → Array UInt32 × Nat
  | 0, state => state
  | n + 1, (block, i) =>
    let w := (word block i ^^^ (carry block i * 1566083941)) - UInt32.ofNat i
    mixPlace n (advance (block.setIfInBounds i w) i)

def ofKey (key : Array UInt32) : Twister :=
  let state := mixKey key (max blockSize key.size) (spread 19650218, 1) 0
  let (block, _) := mixPlace (blockSize - 1) state
  ⟨block.setIfInBounds 0 0x80000000, blockSize⟩

/-- The base-2³² digits of a number, the least significant first; zero has one digit. -/
def digits (n : Nat) : List UInt32 :=
  if _h : n < UInt32.size then [UInt32.ofNat n]
  else UInt32.ofNat (n % UInt32.size) :: digits (n / UInt32.size)
termination_by n
decreasing_by exact Nat.div_lt_self (by simp only [UInt32.size] at _h; omega) (by decide)

/-- The generator for a seed; its sign is ignored. -/
def ofSeed (seed : Int) : Twister := ofKey (digits seed.natAbs).toArray

/-- The next block, each word made from the one after it and the one 397 places on. -/
private def renew (block : Array UInt32) : Array UInt32 :=
  (List.range blockSize).foldl (fun block i =>
    let y := (word block i &&& 0x80000000) |||
      (word block ((i + 1) % blockSize) &&& 0x7fffffff)
    let w := word block ((i + 397) % blockSize) ^^^ (y >>> 1)
    block.setIfInBounds i (if y &&& 1 = 1 then w ^^^ 0x9908b0df else w)) block

private def temper (w : UInt32) : UInt32 :=
  let w := w ^^^ (w >>> 11)
  let w := w ^^^ ((w <<< 7) &&& 0x9d2c5680)
  let w := w ^^^ ((w <<< 15) &&& 0xefc60000)
  w ^^^ (w >>> 18)

def next (t : Twister) : UInt32 × Twister :=
  if t.used < blockSize then (temper (word t.block t.used), { t with used := t.used + 1 })
  else
    let block := renew t.block
    (temper (word block 0), ⟨block, 1⟩)

/-- A number of `k` random bits: whole words from the least significant upwards, and the high
bits of one more word on top. -/
def bits (t : Twister) (k : Nat) : Nat × Twister :=
  if _h : k ≤ 32 then
    let (w, t) := t.next
    (w.toNat >>> (32 - k), t)
  else
    let (w, t) := t.next
    let (high, t) := bits t (k - 32)
    (w.toNat + high <<< 32, t)
termination_by k

end Twister
end Vivarium
