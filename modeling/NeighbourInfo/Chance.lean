import NeighbourInfo.Table.Basic

/-
  The supply of chance: normal numbers and permutations.

  Key definitions include:
    * `NeighbourInfo.Chance`
    * `NeighbourInfo.Chance.permutations`
    * `NeighbourInfo.Table.addNoise`

  Nothing is drawn at random here.  Normal numbers come from a
  list that is used over and over, and the orders of points
  from a function that stands for whatever generator is used:
  it tells the order that comes of each draw in turn.
-/

------------------------------------------------------------
-- Supplies
------------------------------------------------------------

namespace NeighbourInfo

/-
  What is drawn from: the normal numbers, and the orders that
  so many points are put in by the draw with a given number.
  There is room for so many bytes of what is drawn.  How much
  has been drawn so far is counted.
-/
structure Chance (α : Type) where
  normals : List α
  orders : Nat → Nat → List Int
  room : Int
  drawn : Nat
  shuffles : Nat
deriving Inhabited

namespace Chance

variable {α : Type} [Scalar α]

/- The normal number some places ahead of the next one. -/
def normal
    (c : Chance α)
    (ahead : Nat) :
    α :=
  c.normals.getD ((c.drawn + ahead) % c.normals.length) 0

end Chance

end NeighbourInfo

------------------------------------------------------------
-- Permutations
------------------------------------------------------------

namespace NeighbourInfo

namespace Chance

variable {α : Type}

/- The order of `n` points some draws ahead of the next one. -/
def order
    (c : Chance α)
    (n : Nat)
    (ahead : Nat) :
    List Int :=
  c.orders n (c.shuffles + ahead)

/- Draw `count` permutations of `n` points. -/
def permutations
    (c : Chance α)
    (n : Nat)
    (count : Nat) :
    List (List Int) × Chance α :=
  ((List.range count).map (c.order n),
    { c with shuffles := c.shuffles + count })

/-
  Draw permutations, with both numbers as a caller gives them.
  There has to be room for an array of all of them.
-/
def permutations?
    (c : Chance α)
    (n : Int)
    (count : Int) :
    Except (Error α) (List (List Int) × Chance α) := do
  Tensor.checkSizes c.room [count, n]
  return c.permutations n.toNat count.toNat

end Chance

end NeighbourInfo

------------------------------------------------------------
-- Noise
------------------------------------------------------------

namespace NeighbourInfo

namespace Table

variable {α : Type} [Scalar α]

/-
  Add a normal number to every entry, row by row.  The level
  is their standard deviation; it has no minus sign.
-/
def addNoise
    (level : α)
    (t : Table α)
    (c : Chance α) :
    Except (Error α) (Table α × Chance α) :=
  if Scalar.isNegative level then .error .negativeScale
  else
    let noisy :=
      t.rows.mapIdx fun i row =>
        row.mapIdx fun j a =>
          a + level * c.normal (i * t.width + j)
    .ok (⟨t.width, noisy⟩,
      { c with drawn := c.drawn + t.size * t.width })

end Table

end NeighbourInfo
