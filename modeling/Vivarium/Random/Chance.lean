import Vivarium.Heading
import Vivarium.Random.Twister

/-!
Every random decision of a simulation: coins, orders, places and headings. Coins and orders may be
settled beforehand; the generator is asked only when none is left.
-/
namespace Vivarium

structure Chance where
  /-- Coins that are settled beforehand, the next one first. -/
  coins : List Bool
  /-- Orders that are settled beforehand, the next one first. -/
  orders : List (List Nat)
  source : Twister
  deriving Repr

namespace Chance

def ofSeed (seed : Int) : Chance := ⟨[], [], .ofSeed seed⟩

/-- Draws as many bits as `n` has until they make a number below `n`. Each draw fails with
probability below one half, so the bound on the number of draws is never met in practice. -/
def drawBelow (n : Nat) : Nat → Twister → Nat × Twister
  | 0, t => (0, t)
  | draws + 1, t =>
    let (r, t) := t.bits (n.log2 + 1)
    if r < n then (r, t) else drawBelow n draws t

def maxDraws : Nat := 1024

/-- A number below `n`, or 0 if there is none. -/
def below (c : Chance) (n : Nat) : Nat × Chance :=
  if n = 0 then (0, c)
  else
    let (r, t) := drawBelow n maxDraws c.source
    (r, { c with source := t })

theorem drawBelow_lt {n : Nat} (h : 0 < n) (draws : Nat) (t : Twister) :
    (drawBelow n draws t).1 < n := by
  induction draws generalizing t with
  | zero => simpa [drawBelow] using h
  | succ draws ih =>
    simp only [drawBelow]
    split
    · assumption
    · exact ih _

theorem below_lt {n : Nat} (h : 0 < n) (c : Chance) : (c.below n).1 < n := by
  simp only [below, Nat.ne_of_gt h, if_false]
  exact drawBelow_lt h _ _

def choose? {α : Type} (c : Chance) (xs : List α) : Option α × Chance :=
  if xs.isEmpty then (none, c)
  else
    let (i, c) := c.below xs.length
    (xs[i]?, c)

def coin (c : Chance) : Bool × Chance :=
  match c.coins with
  | b :: rest => (b, { c with coins := rest })
  | [] =>
    let (r, c) := c.below 2
    (r = 0, c)

/-- Exchanges the element at `i` with one at or before it, then goes on with `i - 1`. -/
def shuffleFrom {α : Type} : Nat → Array α → Chance → Array α × Chance
  | 0, xs, c => (xs, c)
  | i + 1, xs, c =>
    let (j, c) := c.below (i + 2)
    shuffleFrom i (xs.swapIfInBounds (i + 1) j) c

def shuffle {α : Type} (c : Chance) (xs : List α) : List α × Chance :=
  let (ys, c) := shuffleFrom (xs.length - 1) xs.toArray c
  (ys.toList, c)

/-- The order in which `n` creatures take their turns. -/
def order (c : Chance) (n : Nat) : List Nat × Chance :=
  match c.orders with
  | o :: rest => (o, { c with orders := rest })
  | [] => c.shuffle (List.range n)

def heading (c : Chance) : Heading × Chance :=
  let (i, c) := c.below Heading.all.length
  (Heading.all[i]?.getD .north, c)

end Chance
end Vivarium
