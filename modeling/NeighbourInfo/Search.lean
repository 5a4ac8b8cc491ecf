import NeighbourInfo.Counts
import NeighbourInfo.Distances

/-
  Searching the neighbours of a point among all points.

  Key definitions include:
    * `NeighbourInfo.Search`
    * `NeighbourInfo.Search.counts`
    * `NeighbourInfo.Distances.counts`
    * `NeighbourInfo.Observations.countsAt`

  The points that may be neighbours are the rows of `x`.  The
  tables of an estimator have as many rows as each other; a
  caller who hands in arrays may have given a single row for
  some of the variables.
-/

------------------------------------------------------------
-- Searches
------------------------------------------------------------

namespace NeighbourInfo

/-
  How neighbours are searched for.  Their number is kept as it
  was given; one that is not whole is refused when the points
  admitted to a point are ranked.
-/
structure Search (α : Type) where
  k : Value α
  norm : Norm
  window : Int
deriving Inhabited

namespace Search

variable {α : Type} [Scalar α]

/- At least `k` points have to be admitted to a point. -/
def checkEnough
    (search : Search α)
    (point : Int)
    (found : Nat) :
    Except (Error α) Unit := do
  if ← search.k.isAbove found then
    throw (.tooFewNeighbours point found search.k)

/-
  The number of neighbours, where enough points are admitted
  to a point.  It has to be whole.
-/
def neighbours
    (search : Search α)
    (point : Int)
    (found : Nat) :
    Except (Error α) Int := do
  search.checkEnough point found
  search.k.exactInt

/- A whole number is taken if that many points are found. -/
theorem neighbours_of_whole
    {search : Search α}
    {k : Int}
    (hWhole : search.k = .whole k)
    (point : Int)
    (found : Nat) :
    search.neighbours point found =
      if (found : Int) < k then
        .error (.tooFewNeighbours point found (.whole k))
      else .ok k := by
  simp only [neighbours, checkEnough, hWhole]
  by_cases hFew : (found : Int) < k
  · simp [Value.isAbove, hFew]
    rfl
  · simp [Value.isAbove, Value.exactInt, hFew]
    rfl

/- The counts of a point, from its separations from all. -/
def counts
    (search : Search α)
    (algorithm : Algorithm)
    (point : Int)
    (all : List (Separation α)) :
    Except (Error α) Counts := do
  let others := Window.keep search.window point all
  let k ← search.neighbours point others.length
  Counts.ofSeparations algorithm k others

end Search

end NeighbourInfo

------------------------------------------------------------
-- Tables Of A Single Row
------------------------------------------------------------

namespace NeighbourInfo

namespace Distances

variable {α : Type} [Scalar α]

/- The points admitted to a point, each with its place. -/
def placed
    (search : Search α)
    (point : Int)
    (d : Distances α)
    (all : List (Separation α)) :
    List (Separation α × Nat) :=
  let points := d.x.length
  (all.zipIdx.take points).filter fun item =>
    Window.admits search.window point points item.2

/- The places of the nearest points, the nearest one first. -/
def nearestPlaces
    (k : Int)
    (others : List (Separation α × Nat)) :
    List Nat :=
  let ranked :=
    others.mergeSort fun s t => s.1.ranksUpTo t.1
  let rank := (Separation.rank? k others.length).getD 0
  (ranked.take rank).map Prod.snd

/- The distances have an entry at each of the places. -/
def checkPlaces
    (distances : List α)
    (places : List Nat) :
    Except (Error α) Unit :=
  match places.find? fun i => distances.length ≤ i with
  | some i => .error (.outOfBounds i distances.length)
  | none => .ok ()

/-
  The counts within the distances of the chosen points.  The
  points near in z are told from each other by the distances
  in z alone, of which there may be a single one.
-/
def countsWithin
    (chosen : List (Separation α))
    (d : Distances α)
    (all : List (Separation α)) :
    Counts :=
  let near := Counts.within chosen (all.take d.z.length)
  ⟨near.xz, (Counts.within chosen all).yz, near.z⟩

/-
  The counts where some of the tables have a single row.  The
  first algorithm needs a row of `x` for each point.  The
  second looks up the nearest points in every table, and finds
  but the first of them where there is a single row.
-/
def unevenCounts
    (search : Search α)
    (algorithm : Algorithm)
    (point : Int)
    (d : Distances α)
    (all : List (Separation α)) :
    Except (Error α) Counts :=
  let points := d.x.length
  match algorithm with
  | .first =>
      if all.length = points then
        search.counts .first point all
      else .error (.misaligned 0 all.length points)
  | .second => do
      let others := placed search point d all
      let chosen := others.map Prod.fst
      let k ← search.neighbours point others.length
      let counts ← Counts.ofSeparations .second k chosen
      let places := nearestPlaces k others
      checkPlaces d.y places
      checkPlaces d.z places
      if all.length = points then return counts
      else return countsWithin chosen d all

end Distances

end NeighbourInfo

------------------------------------------------------------
-- Counts Of A Point
------------------------------------------------------------

namespace NeighbourInfo

namespace Distances

variable {α : Type} [Scalar α]

/- The counts of a point with the given distances. -/
def counts
    (search : Search α)
    (algorithm : Algorithm)
    (point : Int)
    (d : Distances α) :
    Except (Error α) Counts := do
  let all ← d.separations
  if d.isEven then search.counts algorithm point all
  else d.unevenCounts search algorithm point all

/- Even distances are searched as separations. -/
theorem counts_of_isEven
    {d : Distances α}
    (hEven : d.isEven)
    (search : Search α)
    (algorithm : Algorithm)
    (point : Int) :
    d.counts search algorithm point =
      d.separations.bind (search.counts algorithm point) := by
  simp only [counts, hEven, if_true]
  rfl

end Distances

namespace Observations

variable {α : Type} [Scalar α]

/- The counts of one point. -/
def countsAt
    (algorithm : Algorithm)
    (search : Search α)
    (data : Observations α)
    (point : Int) :
    Except (Error α) Counts := do
  let d ← data.distancesAt search.norm point
  d.counts search algorithm point

end Observations

end NeighbourInfo
