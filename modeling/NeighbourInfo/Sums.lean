import NeighbourInfo.Counts

/-
  From counts to local values and to the average.

  Key definitions include:
    * `NeighbourInfo.Counts.localValue`
    * `NeighbourInfo.Sums`
    * `NeighbourInfo.Sums.ofCounts`
    * `NeighbourInfo.Sums.average`

  All values are in nats.  The sums over a block of points
  are added up over the blocks and divided by the number of
  points before the closing formula is applied.
-/

------------------------------------------------------------
-- Terms Of One Point
------------------------------------------------------------

namespace NeighbourInfo

namespace Counts

variable {α : Type} [Scalar α]

/- The digamma terms of a point. -/
def digammas
    (algorithm : Algorithm)
    (c : Counts) :
    α :=
  match algorithm with
  | .first =>
      Scalar.digamma (Scalar.ofNat (c.z + 1)) -
        Scalar.digamma (Scalar.ofNat (c.xz + 1)) -
        Scalar.digamma (Scalar.ofNat (c.yz + 1))
  | .second =>
      Scalar.digamma (Scalar.ofNat c.z) -
        Scalar.digamma (Scalar.ofNat c.xz) -
        Scalar.digamma (Scalar.ofNat c.yz)

/- One divided by a count. -/
def inverse
    (n : Nat) :
    α :=
  Scalar.ofNat 1 / Scalar.ofNat n

/- The local value of a point. -/
def localValue
    (algorithm : Algorithm)
    (k : α)
    (c : Counts) :
    α :=
  let base := Scalar.digamma k
  match algorithm with
  | .first => base + c.digammas .first
  | .second =>
      base - Scalar.ofInt 2 / k + c.digammas .second +
        inverse c.xz + inverse c.yz

end Counts

end NeighbourInfo

------------------------------------------------------------
-- Sums Over Points
------------------------------------------------------------

namespace NeighbourInfo

/-
  Sums over some points: of the digamma terms, of the three
  counts, and of the inverse counts that only the second
  algorithm uses.
-/
structure Sums (α : Type) where
  digammas : α
  xz : α
  yz : α
  z : α
  inverseXZ : α
  inverseYZ : α
deriving DecidableEq, Repr, Inhabited

namespace Sums

variable {α : Type} [Scalar α]

/- The sums over no points. -/
def zero :
    Sums α :=
  ⟨0, 0, 0, 0, 0, 0⟩

/- The sums over the points of both. -/
def add
    (s : Sums α)
    (t : Sums α) :
    Sums α :=
  ⟨s.digammas + t.digammas, s.xz + t.xz, s.yz + t.yz,
    s.z + t.z, s.inverseXZ + t.inverseXZ,
    s.inverseYZ + t.inverseYZ⟩

/- The sums over the points of all blocks. -/
def total
    (blocks : List (Sums α)) :
    Sums α :=
  blocks.foldl add zero

/- The sums as a list, in the order of their fields. -/
def toList
    (s : Sums α) :
    List α :=
  [s.digammas, s.xz, s.yz, s.z, s.inverseXZ, s.inverseYZ]

/- The sum of one of the counts over some points. -/
def ofCount
    (count : Counts → Nat) :
    List Counts → Nat
  | [] => 0
  | c :: counts => count c + ofCount count counts

/- The sums over points with the given counts. -/
def ofCounts
    (algorithm : Algorithm)
    (counts : List Counts) :
    Sums α :=
  let inverses (count : Counts → Nat) : α :=
    match algorithm with
    | .first => 0
    | .second =>
        Scalar.sum
          (counts.map fun c => Counts.inverse (count c))
  ⟨Scalar.sum (counts.map (Counts.digammas algorithm)),
    Scalar.ofNat (ofCount (·.xz) counts),
    Scalar.ofNat (ofCount (·.yz) counts),
    Scalar.ofNat (ofCount (·.z) counts),
    inverses (·.xz),
    inverses (·.yz)⟩

/- Divide all sums by the number of points. -/
def dividedBy
    (s : Sums α)
    (points : α) :
    Sums α :=
  ⟨s.digammas / points, s.xz / points, s.yz / points,
    s.z / points, s.inverseXZ / points,
    s.inverseYZ / points⟩

end Sums

end NeighbourInfo

------------------------------------------------------------
-- Closing Formula
------------------------------------------------------------

namespace NeighbourInfo

namespace Sums

variable {α : Type} [Scalar α]

/- The average information, from the means over all points. -/
def average
    (algorithm : Algorithm)
    (k : α)
    (means : Sums α) :
    α :=
  let base := Scalar.digamma k
  match algorithm with
  | .first => base + means.digammas
  | .second =>
      base - Scalar.ofInt 2 / k + means.digammas +
        means.inverseXZ + means.inverseYZ

end Sums

namespace Algorithm

variable {α : Type}

/- A formula that divides by `k` needs it not to be zero. -/
def checkDivisor
    (isZero : Bool) :
    Algorithm → Except (Error α) Unit
  | .first => .ok ()
  | .second =>
      if isZero then .error .divisionByZero else .ok ()

end Algorithm

end NeighbourInfo
