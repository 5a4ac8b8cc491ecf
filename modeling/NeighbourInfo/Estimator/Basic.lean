import NeighbourInfo.Method

/-
  Estimators: their settings, their data and their last value.

  Key definitions include:
    * `NeighbourInfo.Estimator`
    * `NeighbourInfo.Estimator.create`
    * `NeighbourInfo.Estimator.initialise`
    * `NeighbourInfo.Estimator.set`
    * `NeighbourInfo.Estimator.get`

  An estimator is initialised with the dimensions of its three
  variables, then collects observations in chunks, and then
  computes from them.  It keeps the last average it computed
  from the observations that it holds.
-/

------------------------------------------------------------
-- Dimensions
------------------------------------------------------------

namespace NeighbourInfo

/- The number of columns of each variable. -/
structure Dimensions where
  x : Nat
  y : Nat
  z : Nat
deriving DecidableEq, Repr, Inhabited

namespace Dimensions

variable {α : Type} [Scalar α] [Literal α]

/- Read one dimension, which is at least one. -/
def readOne
    (v : Value α) :
    Except (Error α) Nat := do
  let n ← v.toInt
  if n < 1 then throw .smallDimension
  return n.toNat

/- Read up to three dimensions; the missing ones are one. -/
def ofValues
    (args : List (Value α)) :
    Except (Error α) Dimensions := do
  if 3 < args.length then throw .wrongKind
  let given (i : Nat) := readOne (args.getD i (.whole 1))
  let x ← given 0
  let y ← given 1
  let z ← given 2
  return ⟨x, y, z⟩

/- Read the dimensions that are the items of a value. -/
def ofItems
    (v : Value α) :
    Except (Error α) Dimensions :=
  match v.items? with
  | some args => ofValues args
  | none => .error .wrongKind

end Dimensions

end NeighbourInfo

------------------------------------------------------------
-- Estimators
------------------------------------------------------------

namespace NeighbourInfo

/-
  An estimator.  `pending` holds the open chunks while there
  are observations being added, and `lastAverage` the last
  average since the observations were replaced.  Without a
  method an estimator only keeps data.
-/
structure Estimator (α : Type) where
  method : Option (Method α)
  settings : Settings α
  dimensions : Dimensions
  isInitialised : Bool
  pending : Option (List (Observations α))
  observations : Option (Observations α)
  lastAverage : Option α

namespace Estimator

variable {α : Type}

/- A new estimator, not yet initialised. -/
def create
    (method : Option (Method α))
    (settings : Settings α) :
    Estimator α :=
  ⟨method, settings, ⟨0, 0, 0⟩, false, none, none, none⟩

/- The number of observations it holds. -/
def size
    (e : Estimator α) :
    Nat :=
  (e.observations.map Observations.size).getD 0

/- Something was computed from the observations. -/
def isComputed
    (e : Estimator α) :
    Bool :=
  e.lastAverage.isSome

/- The last average, no number where there is none. -/
def shownAverage
    [Scalar α]
    (e : Estimator α) :
    α :=
  e.lastAverage.getD Scalar.nan

/- Exchange the table of a variable, if there is one. -/
def withTable
    (t : Table α)
    (chosen : Variable)
    (e : Estimator α) :
    Estimator α :=
  { e with
    observations :=
      e.observations.map fun data =>
        data.withTable t chosen }

/- The observations, once they are complete. -/
def finalised
    (e : Estimator α) :
    Except (Error α) (Observations α) :=
  match e.observations with
  | some data => .ok data
  | none => .error .notFinalised

theorem finalised_of_some
    {e : Estimator α}
    {data : Observations α}
    (hData : e.observations = some data) :
    e.finalised = .ok data := by
  rw [finalised, hData]

theorem finalised_of_none
    {e : Estimator α}
    (hNone : e.observations = none) :
    e.finalised = .error .notFinalised := by
  rw [finalised, hNone]

end Estimator

end NeighbourInfo

------------------------------------------------------------
-- Initialising
------------------------------------------------------------

namespace NeighbourInfo

namespace Estimator

variable {α : Type} [Scalar α] [Literal α]

/-
  Prepare for new observations of the given dimensions.  All
  former observations and values are dropped.
-/
def initialise
    (dims : Value α)
    (e : Estimator α) :
    Except (Error α) (Estimator α) := do
  let dimensions ← Dimensions.ofItems dims
  return { e with
    dimensions := dimensions
    isInitialised := true
    pending := none
    observations := none
    lastAverage := none }

end Estimator

end NeighbourInfo

------------------------------------------------------------
-- Properties
------------------------------------------------------------

namespace NeighbourInfo

namespace Estimator

variable {α : Type}

/-
  The property that a name stands for, if it is a property of
  the estimator.  Without a method it only has those that
  concern data.
-/
def property
    (e : Estimator α)
    (name : Value α) :
    Except (Error α) (Option Property) := do
  let named ← Property.ofValue name
  return named.filter fun property =>
    e.method.isSome || property.concernsData

variable [Scalar α] [Literal α]

/- Set a property; names of no property are ignored. -/
def set
    (processors : Nat)
    (name : Value α)
    (v : Value α)
    (e : Estimator α) :
    Except (Error α) (Estimator α) := do
  match ← e.property name with
  | some property =>
      let settings ← e.settings.set processors property v
      return { e with settings := settings }
  | none => return e

/- The value of a property, if the name is one. -/
def get
    (name : Value α)
    (e : Estimator α) :
    Except (Error α) (Option String) := do
  let property ← e.property name
  return property.map e.settings.get

/- Announce the terms of every computation, or stop it. -/
def setDebug
    (debug : Bool)
    (e : Estimator α) :
    Estimator α :=
  { e with settings := { e.settings with debug := debug } }

end Estimator

end NeighbourInfo
