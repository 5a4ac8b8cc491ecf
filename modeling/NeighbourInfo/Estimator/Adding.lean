import NeighbourInfo.Chance
import NeighbourInfo.Estimator.Basic

/-
  Collecting the observations of an estimator.

  Key definitions include:
    * `NeighbourInfo.Observations.ofValues`
    * `NeighbourInfo.Estimator.start`
    * `NeighbourInfo.Estimator.add`
    * `NeighbourInfo.Estimator.close`
    * `NeighbourInfo.Estimator.install`
    * `NeighbourInfo.Estimator.addNoise`

  Completing the observations takes three stages: the chunks
  are closed, the new tables are installed, and noise is added
  to them.  Each stage takes effect as a whole or not at all.
-/

------------------------------------------------------------
-- Reading Chunks
------------------------------------------------------------

namespace NeighbourInfo

namespace Observations

variable {α : Type} [Scalar α] [Literal α]

/-
  Read the tables of a chunk in turn.  They need to have as
  many rows as each other.
-/
def ofValues
    (dimensions : Dimensions)
    (x : Value α)
    (y : Value α)
    (z : Value α) :
    Except (Error α) (Observations α) := do
  let x ← Table.ofValue dimensions.x x
  let y ← Table.ofValue dimensions.y y
  let z ← Table.ofValue dimensions.z z
  if x.size = y.size ∧ y.size = z.size then return ⟨x, y, z⟩
  else throw (.unequalRows x.size y.size z.size)

/- Keep the rows of a mask, or all rows without one. -/
def masked
    (mask : Value α)
    (data : Observations α) :
    Except (Error α) (Observations α) :=
  match mask with
  | .null => .ok data
  | mask => do
      let mask ← Mask.ofValue mask
      data.retain mask

end Observations

end NeighbourInfo

------------------------------------------------------------
-- Adding
------------------------------------------------------------

namespace NeighbourInfo

namespace Estimator

variable {α : Type}

/- Open an empty list of chunks. -/
def start
    (e : Estimator α) :
    Except (Error α) (Estimator α) :=
  if e.isInitialised then .ok { e with pending := some [] }
  else .error .notInitialised

/- The open chunks. -/
def openChunks
    (e : Estimator α) :
    Except (Error α) (List (Observations α)) :=
  match e.pending with
  | some chunks => .ok chunks
  | none => .error .notAdding

/- Add a chunk, without the rows that its mask drops. -/
def add
    [Scalar α] [Literal α]
    (x : Value α)
    (y : Value α)
    (z : Value α)
    (mask : Value α)
    (e : Estimator α) :
    Except (Error α) (Estimator α) := do
  let chunks ← e.openChunks
  let chunk ← Observations.ofValues e.dimensions x y z
  let kept ← chunk.masked mask
  return { e with pending := some (chunks ++ [kept]) }

end Estimator

end NeighbourInfo

------------------------------------------------------------
-- Completing
------------------------------------------------------------

namespace NeighbourInfo

namespace Estimator

variable {α : Type}

/- Close the list of chunks and take them out of it. -/
def close
    (e : Estimator α) :
    Except (Error α)
      (List (Observations α) × Estimator α) := do
  let chunks ← e.openChunks
  return (chunks, { e with pending := none })

variable [Scalar α]

/- Hold new observations, from which nothing is computed. -/
def hold
    (data : Observations α)
    (e : Estimator α) :
    Estimator α :=
  { e with observations := some data, lastAverage := none }

/- Put chunks together to new observations. -/
def install
    (chunks : List (Observations α))
    (e : Estimator α) :
    Except (Error α) (Estimator α) :=
  let data := Observations.concat chunks
  if data.size = 0 then .error .noObservations
  else
    .ok
      (e.hold
        (if e.settings.normalise then data.standardise
        else data))

end Estimator

namespace Observations

variable {α : Type} [Scalar α]

/- Add noise to the tables, one after the other. -/
def addNoise
    (level : α)
    (data : Observations α)
    (c : Chance α) :
    Except (Error α) (Observations α × Chance α) := do
  let (x, c) ← data.x.addNoise level c
  let (y, c) ← data.y.addNoise level c
  let (z, c) ← data.z.addNoise level c
  return (⟨x, y, z⟩, c)

end Observations

namespace Estimator

variable {α : Type} [Scalar α]

/- Add the noise that is asked for to the observations. -/
def addNoise
    (e : Estimator α)
    (c : Chance α) :
    Except (Error α) (Estimator α × Chance α) :=
  match e.settings.noise, e.observations with
  | some level, some data => do
      let (noisy, c) ← data.addNoise level c
      return ({ e with observations := some noisy }, c)
  | _, _ => .ok (e, c)

end Estimator

end NeighbourInfo
