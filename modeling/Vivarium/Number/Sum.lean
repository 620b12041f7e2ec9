import Vivarium.Number.Binary64

/-!
Sums of 64-bit binary numbers. As each addition is rounded, the order of the additions is part of
what a sum is.
-/
namespace Vivarium

namespace Binary64

def sumOnto (x : Binary64) (ys : List Binary64) : Binary64 := ys.foldl add x

def sumPairs : List Binary64 → List Binary64
  | x :: y :: zs => add x y :: sumPairs zs
  | zs => zs

/-- The count of running sums that are kept side by side. -/
def lanes : Nat := 8

/-- The sums of every eighth number, as far as eights go. -/
def sumLanes (xs : List Binary64) : List Binary64 :=
  (List.range (xs.length / lanes - 1)).foldl
    (fun sums i => sums.zipWith add ((xs.drop (lanes * (i + 1))).take lanes)) (xs.take lanes)

/-- Few numbers are summed from left to right. More are summed in eight lanes, whose sums are added
in pairs, and what does not fill the lanes comes last. -/
def sumBlock (xs : List Binary64) : Binary64 :=
  if xs.length < lanes then sumOnto .negativeZero xs
  else
    let sums := sumPairs (sumPairs (sumPairs (sumLanes xs)))
    sumOnto (sums.headD .negativeZero) (xs.drop (lanes * (xs.length / lanes)))

/-- The most numbers that are summed without being divided in two. -/
def blockSize : Nat := 128

/-- Many numbers are divided in two, at a whole count of lanes, until they are few. -/
def sumHalves (xs : List Binary64) : Binary64 :=
  if xs.length ≤ blockSize then sumBlock xs
  else
    let half := xs.length / 2 / lanes * lanes
    add (sumHalves (xs.take half)) (sumHalves (xs.drop half))
termination_by xs.length
decreasing_by all_goals simp_all only [blockSize, lanes, List.length_take, List.length_drop]; omega

/-- The first number, to which the sum of the others is added. -/
def sum : List Binary64 → Binary64
  | [] => .finite 0
  | x :: ys => if ys.isEmpty then x else add x (sumHalves ys)

/-- A running sum, and by how much its last addition was rounded up. -/
structure Compensated where
  sum : Binary64
  excess : Binary64
  deriving DecidableEq, Repr

def Compensated.add (s : Compensated) (x : Binary64) : Compensated :=
  let y := x.sub s.excess
  let sum := s.sum.add y
  let excess := (sum.sub s.sum).sub y
  ⟨sum, if excess = .undefined then .finite 0 else excess⟩

/-- From left to right, each addition making up for the rounding of the one before. -/
def compensatedSum (xs : List Binary64) : Binary64 :=
  (xs.foldl Compensated.add ⟨.finite 0, .finite 0⟩).sum

end Binary64

inductive Summation
  | plain
  | compensated
  deriving DecidableEq, Repr

def Summation.sum : Summation → List Binary64 → Binary64
  | .plain => Binary64.sum
  | .compensated => Binary64.compensatedSum

end Vivarium
