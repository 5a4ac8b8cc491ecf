import NeighbourInfo.Value.Number

/-
  Norms that measure distances between points.

  Key definitions include:
    * `NeighbourInfo.Norm`
    * `NeighbourInfo.Norm.ofValue`
    * `NeighbourInfo.Norm.distance`
-/

------------------------------------------------------------
-- Norms And Their Names
------------------------------------------------------------

namespace NeighbourInfo

/- How the differences of coordinates are put together. -/
inductive Norm where
  | maximum
  | euclidean
  | euclideanSquared
deriving DecidableEq, Repr, Inhabited

namespace Norm

/- The name a norm is known by. -/
def name :
    Norm → String
  | .maximum => "MAX_NORM"
  | .euclidean => "EUCLIDEAN"
  | .euclideanSquared => "EUCLIDEAN_SQUARED"

/- The norm of a name in upper case. -/
def ofName? :
    String → Option Norm
  | "MAX_NORM" => some .maximum
  | "MAX" => some .maximum
  | "LINF" => some .maximum
  | "CHEBYSHEV" => some .maximum
  | "EUCLIDEAN" => some .euclidean
  | "L2" => some .euclidean
  | "EUCLIDEAN_SQUARED" => some .euclideanSquared
  | "EUCLIDEAN_NORM_SQUARED" => some .euclideanSquared
  | _ => none

/- A norm is found under its own name. -/
@[simp]
theorem ofName?_name
    (norm : Norm) :
    ofName? norm.name = some norm := by
  cases norm <;> rfl

/- The norm that a value names, in any letter case. -/
def ofValue
    {α : Type} [Literal α]
    (v : Value α) :
    Except (Error α) Norm :=
  match ofName? (Text.upper (Text.strip v.toText)) with
  | some norm => .ok norm
  | none => .error (.unknownNorm v)

/- A norm with its name, as it is shown to a reader. -/
def describe
    (norm : Norm) :
    String :=
  "Norm('" ++ norm.name ++ "')"

end Norm

end NeighbourInfo

------------------------------------------------------------
-- Distances
------------------------------------------------------------

namespace NeighbourInfo

namespace Norm

variable {α : Type} [Scalar α]

/-
  The largest difference of two points.  A difference that is
  no number is not larger than any, so it is left out.
-/
def maximumDistance
    (p : List α)
    (q : List α) :
    α :=
  (List.zipWith (fun a b => Scalar.abs (a - b)) p q).foldl
    (fun largest d => if Scalar.lt largest d then d else largest)
    0

/- The sum of the squared differences of two points. -/
def squaredDistance
    (p : List α)
    (q : List α) :
    α :=
  Scalar.sum
    (List.zipWith (fun a b => (a - b) * (a - b)) p q)

/- The distance of two points. -/
def distance :
    Norm → List α → List α → α
  | .maximum, p, q => maximumDistance p q
  | .euclidean, p, q => Scalar.sqrt (squaredDistance p q)
  | .euclideanSquared, p, q => squaredDistance p q

end Norm

end NeighbourInfo
