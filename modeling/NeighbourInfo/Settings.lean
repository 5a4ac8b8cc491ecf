import NeighbourInfo.Search
import NeighbourInfo.Threads

/-
  Settings of an estimator and the properties that name them.

  Key definitions include:
    * `NeighbourInfo.Settings`
    * `NeighbourInfo.Property`
    * `NeighbourInfo.Settings.set`
    * `NeighbourInfo.Settings.get`

  Properties are set from values of any kind.  A value that is
  refused leaves the settings as they were.
-/

------------------------------------------------------------
-- Settings
------------------------------------------------------------

namespace NeighbourInfo

/-
  The settings of an estimator.  `noise` is the level of the
  noise to be added, if any is.  The number `k` is a whole one
  where it was set, and what the session has by default where
  it was not.
-/
structure Settings (α : Type) where
  k : Value α
  norm : Norm
  noise : Option α
  threads : ThreadCount
  normalise : Bool
  window : Nat
  debug : Bool
deriving Inhabited

namespace Settings

variable {α : Type}

/- The settings that are not left to the session. -/
def initial
    (k : Value α)
    (threads : ThreadCount) :
    Settings α :=
  ⟨k, .maximum, none, threads, true, 0, false⟩

/- How neighbours are searched for. -/
def search
    (s : Settings α) :
    Search α :=
  ⟨s.k, s.norm, s.window⟩

/- The level of the noise, zero where none is added. -/
def noiseLevel
    [Scalar α]
    (s : Settings α) :
    α :=
  s.noise.getD 0

end Settings

end NeighbourInfo

------------------------------------------------------------
-- Properties
------------------------------------------------------------

namespace NeighbourInfo

/- The properties that name the settings. -/
inductive Property where
  | neighbours
  | norm
  | noise
  | threads
  | normalise
  | window
deriving DecidableEq, Repr, Inhabited

namespace Property

/- The property of a name in upper case. -/
def ofName? :
    String → Option Property
  | "K" => some .neighbours
  | "NORM_TYPE" => some .norm
  | "NOISE_LEVEL_TO_ADD" => some .noise
  | "NUM_THREADS" => some .threads
  | "NORMALISE" => some .normalise
  | "DYN_CORR_EXCL" => some .window
  | _ => none

/- The property concerns data, whatever is computed of it. -/
def concernsData :
    Property → Bool
  | .normalise => true
  | .window => true
  | _ => false

/-
  The property that a value names, in any letter case.  Only
  a text names one; other texts name nothing.
-/
def ofValue
    {α : Type}
    (v : Value α) :
    Except (Error α) (Option Property) :=
  match v with
  | .text s => .ok (ofName? (Text.upper s))
  | _ => .error .noSuchPart

end Property

end NeighbourInfo

------------------------------------------------------------
-- Setting
------------------------------------------------------------

namespace NeighbourInfo

namespace Settings

variable {α : Type} [Scalar α] [Literal α]

/- Read a number of neighbours, which is at least one. -/
def readNeighbours
    (v : Value α) :
    Except (Error α) Int := do
  let k ← v.toInt
  if k < 1 then throw (.smallNeighbours k)
  return k

/- Read a window, which is not negative. -/
def readWindow
    (v : Value α) :
    Except (Error α) Nat := do
  let window ← v.toInt
  if window < 0 then throw (.negativeWindow window)
  return window.toNat

/- Set a property on a machine with some processors. -/
def set
    (processors : Nat)
    (property : Property)
    (v : Value α)
    (s : Settings α) :
    Except (Error α) (Settings α) :=
  match property with
  | .neighbours => do
      let k ← readNeighbours v
      return { s with k := .whole k }
  | .norm => do
      let norm ← Norm.ofValue v
      return { s with norm := norm }
  | .noise => do
      let level ← v.toScalar
      return { s with noise := some level }
  | .threads => do
      let threads ← ThreadCount.ofValue processors v
      return { s with threads := .count threads }
  | .normalise => do
      let normalise ← v.toTruth
      return { s with normalise := normalise }
  | .window => do
      let window ← readWindow v
      return { s with window := window }

end Settings

end NeighbourInfo

------------------------------------------------------------
-- Getting
------------------------------------------------------------

namespace NeighbourInfo

namespace Settings

variable {α : Type} [Scalar α] [Literal α]

/- The value of a property as a text. -/
def get
    (property : Property)
    (s : Settings α) :
    String :=
  match property with
  | .neighbours => s.k.toText
  | .norm => s.norm.name
  | .noise => Literal.freeText s.noiseLevel
  | .threads => s.threads.text
  | .normalise => if s.normalise then "true" else "false"
  | .window => toString s.window

end Settings

end NeighbourInfo
