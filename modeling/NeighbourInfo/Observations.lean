import NeighbourInfo.Mask
import NeighbourInfo.Norm
import NeighbourInfo.Table.Gather
import NeighbourInfo.Table.Standardise

/-
  Observations of the three variables of an estimate.

  Key definitions include:
    * `NeighbourInfo.Observations`
    * `NeighbourInfo.Variable`
    * `NeighbourInfo.Observations.withTable`
    * `NeighbourInfo.Observations.standardise`

  The information that `x` and `y` share is measured given
  `z`.  A row of each table belongs to the same observation.
-/

------------------------------------------------------------
-- Observations
------------------------------------------------------------

namespace NeighbourInfo

/- One table for each variable. -/
structure Observations (α : Type) where
  x : Table α
  y : Table α
  z : Table α
deriving DecidableEq, Repr, Inhabited

namespace Observations

variable {α : Type}

/- The number of observations. -/
def size
    (data : Observations α) :
    Nat :=
  data.x.size

/- The three tables have the same number of rows. -/
def IsAligned
    (data : Observations α) :
    Prop :=
  data.y.size = data.x.size ∧ data.z.size = data.x.size

/- Keep the rows of a mask in every table. -/
def retain
    (mask : Mask)
    (data : Observations α) :
    Except (Error α) (Observations α) := do
  let x ← data.x.retain mask
  let y ← data.y.retain mask
  let z ← data.z.retain mask
  return ⟨x, y, z⟩

/- Put several sets of observations below each other. -/
def concat
    (chunks : List (Observations α)) :
    Observations α :=
  let joined (part : Observations α → Table α) :=
    let tables := chunks.map part
    Table.concat ((tables.head?.map Table.width).getD 0) tables
  ⟨joined (·.x), joined (·.y), joined (·.z)⟩

/- Standardise every table on its own. -/
def standardise
    [Scalar α]
    (data : Observations α) :
    Observations α :=
  ⟨data.x.standardise, data.y.standardise,
    data.z.standardise⟩

end Observations

end NeighbourInfo

------------------------------------------------------------
-- Reordering One Variable
------------------------------------------------------------

namespace NeighbourInfo

/- The variables that surrogates are made from. -/
inductive Variable where
  | x
  | y
deriving DecidableEq, Repr, Inhabited

namespace Variable

/- The variable that a value numbers: one or two. -/
def ofValue
    {α : Type} [Scalar α]
    (v : Value α) :
    Except (Error α) Variable :=
  if v.equalsInt 1 then .ok .x
  else if v.equalsInt 2 then .ok .y
  else .error (.wrongVariable v)

end Variable

namespace Observations

variable {α : Type}

/- The table of a variable. -/
def table
    (data : Observations α) :
    Variable → Table α
  | .x => data.x
  | .y => data.y

/- Exchange the table of a variable. -/
def withTable
    (data : Observations α)
    (t : Table α) :
    Variable → Observations α
  | .x => { data with x := t }
  | .y => { data with y := t }

end Observations

end NeighbourInfo
