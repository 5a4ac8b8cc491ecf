import NeighbourInfo.Estimator.Adding
import NeighbourInfo.Proofs.Refusal

/-
  What has become of an estimator that an operation did not
  refuse to change.

  Key definitions include:
    * `NeighbourInfo.Estimator.startWith`
    * `NeighbourInfo.Observations.prepared`
    * `NeighbourInfo.Observations.withNoise`

  This is proven by:
    * `NeighbourInfo.Estimator.eq_of_initialise`
    * `NeighbourInfo.Estimator.eq_of_set`
    * `NeighbourInfo.Estimator.eq_of_start`
    * `NeighbourInfo.Estimator.eq_of_add`
    * `NeighbourInfo.Estimator.eq_of_close`
    * `NeighbourInfo.Estimator.eq_hold_of_install`
    * `NeighbourInfo.Estimator.eq_of_addNoise`
-/

------------------------------------------------------------
-- Changes That Were Not Refused
------------------------------------------------------------

namespace NeighbourInfo

namespace Estimator

variable {α : Type}
variable {e after : Estimator α}

/- Chunks are open while they can be added to. -/
theorem pending_of_openChunks
    {chunks : List (Observations α)}
    (hOk : e.openChunks = .ok chunks) :
    e.pending = some chunks := by
  unfold openChunks at hOk
  split at hOk
  · next hPending =>
      cases hOk
      exact hPending
  · cases hOk

theorem eq_of_start
    (hOk : e.start = .ok after) :
    e.isInitialised = true ∧
      after = { e with pending := some [] } := by
  unfold start at hOk
  by_cases hReady : e.isInitialised = true
  · rw [if_pos hReady] at hOk
    cases hOk
    exact ⟨hReady, rfl⟩
  · rw [if_neg hReady] at hOk
    cases hOk

theorem eq_of_close
    {chunks : List (Observations α)}
    (hOk : e.close = .ok (chunks, after)) :
    e.pending = some chunks ∧
      after = { e with pending := none } := by
  unfold close at hOk
  rcases exists_of_bind_eq_ok hOk with ⟨_, hOpen, hOk⟩
  cases hOk
  exact ⟨pending_of_openChunks hOpen, rfl⟩

variable [Scalar α] [Literal α]

theorem eq_of_set
    {processors : Nat}
    {name v : Value α}
    (hOk : e.set processors name v = .ok after) :
    after = e ∨
      ∃ property settings,
        e.settings.set processors property v = .ok settings ∧
        after = { e with settings := settings } := by
  unfold set at hOk
  rcases exists_of_bind_eq_ok hOk with ⟨named, -, hOk⟩
  split at hOk
  · next property =>
      rcases exists_of_bind_eq_ok hOk with
        ⟨settings, hSet, hOk⟩
      cases hOk
      exact .inr ⟨property, settings, hSet, rfl⟩
  · cases hOk
    exact .inl rfl

theorem eq_of_add
    {x y z mask : Value α}
    (hOk : e.add x y z mask = .ok after) :
    ∃ chunks chunk kept,
      e.pending = some chunks ∧
      Observations.ofValues e.dimensions x y z = .ok chunk ∧
      chunk.masked mask = .ok kept ∧
      after =
        { e with pending := some (chunks ++ [kept]) } := by
  unfold add at hOk
  rcases exists_of_bind_eq_ok hOk with ⟨chunks, hOpen, hOk⟩
  rcases exists_of_bind_eq_ok hOk with ⟨chunk, hChunk, hOk⟩
  rcases exists_of_bind_eq_ok hOk with ⟨kept, hKept, hOk⟩
  cases hOk
  exact
    ⟨chunks, chunk, kept, pending_of_openChunks hOpen, hChunk,
      hKept, rfl⟩

/- Open a new list of chunks and add one to it. -/
def startWith
    (x : Value α)
    (y : Value α)
    (z : Value α)
    (e : Estimator α) :
    Except (Error α) (Estimator α) := do
  let opened ← e.start
  opened.add x y z .null

theorem eq_of_startWith
    {x y z : Value α}
    (hOk : e.startWith x y z = .ok after) :
    e.isInitialised = true ∧
      ∃ chunk,
        Observations.ofValues e.dimensions x y z = .ok chunk ∧
        after = { e with pending := some [chunk] } := by
  rcases exists_of_bind_eq_ok hOk with ⟨opened, hStart, hAdd⟩
  rcases eq_of_start hStart with ⟨hReady, rfl⟩
  rcases eq_of_add hAdd with
    ⟨chunks, chunk, kept, hPending, hChunk, hKept, rfl⟩
  cases hPending
  cases hKept
  exact ⟨hReady, chunk, hChunk, rfl⟩

theorem eq_of_initialise
    {dims : Value α}
    (hOk : initialise dims e = .ok after) :
    ∃ dimensions,
      after =
        { e with
          dimensions := dimensions
          isInitialised := true
          pending := none
          observations := none
          lastAverage := none } := by
  unfold initialise at hOk
  rcases exists_of_bind_eq_ok hOk with ⟨dimensions, -, hOk⟩
  cases hOk
  exact ⟨dimensions, rfl⟩

end Estimator

end NeighbourInfo

------------------------------------------------------------
-- New Observations
------------------------------------------------------------

namespace NeighbourInfo

namespace Observations

variable {α : Type} [Scalar α]

/- The rows of all chunks, standardised if that is asked for. -/
def prepared
    (normalise : Bool)
    (chunks : List (Observations α)) :
    Observations α :=
  if normalise then (concat chunks).standardise
  else concat chunks

end Observations

namespace Estimator

variable {α : Type} [Scalar α]

theorem install_eq
    (chunks : List (Observations α))
    (e : Estimator α) :
    e.install chunks =
      if (Observations.concat chunks).size = 0 then
        .error .noObservations
      else
        .ok
          (e.hold
            (Observations.prepared e.settings.normalise
              chunks)) := rfl

/- What is installed has rows, and nothing is computed yet. -/
theorem eq_hold_of_install
    {chunks : List (Observations α)}
    {e installed : Estimator α}
    (hOk : e.install chunks = .ok installed) :
    (Observations.concat chunks).size ≠ 0 ∧
      installed =
        e.hold
          (Observations.prepared e.settings.normalise
            chunks) := by
  rw [install_eq] at hOk
  by_cases hNone : (Observations.concat chunks).size = 0
  · rw [if_pos hNone] at hOk
    cases hOk
  · rw [if_neg hNone] at hOk
    cases hOk
    exact ⟨hNone, rfl⟩

end Estimator

end NeighbourInfo

------------------------------------------------------------
-- Noise
------------------------------------------------------------

namespace NeighbourInfo

variable {α : Type}

/- The supply of chance when some numbers have been drawn. -/
def Chance.skip
    (count : Nat)
    (c : Chance α) :
    Chance α :=
  { c with drawn := c.drawn + count }

variable [Scalar α]

namespace Table

/- A normal number is added to every entry, row by row. -/
def withNoise
    (level : α)
    (c : Chance α)
    (t : Table α) :
    Table α :=
  ⟨t.width,
    t.rows.mapIdx fun i row =>
      row.mapIdx fun j a =>
        a + level * c.normal (i * t.width + j)⟩

theorem addNoise_eq
    (level : α)
    (t : Table α)
    (c : Chance α) :
    t.addNoise level c =
      if Scalar.isNegative level then .error .negativeScale
      else
        .ok
          (t.withNoise level c, c.skip (t.size * t.width)) :=
  rfl

end Table

namespace Observations

/- Every table gets its own noise, one after the other. -/
def withNoise
    (level : α)
    (c : Chance α)
    (data : Observations α) :
    Observations α :=
  let afterX := c.skip (data.x.size * data.x.width)
  let afterY := afterX.skip (data.y.size * data.y.width)
  ⟨data.x.withNoise level c, data.y.withNoise level afterX,
    data.z.withNoise level afterY⟩

/- Only a level with a minus sign keeps noise from tables. -/
theorem addNoise_eq
    (level : α)
    (data : Observations α)
    (c : Chance α) :
    data.addNoise level c =
      if Scalar.isNegative level then .error .negativeScale
      else
        .ok
          (data.withNoise level c,
            ((c.skip (data.x.size * data.x.width)).skip
                (data.y.size * data.y.width)).skip
              (data.z.size * data.z.width)) := by
  unfold addNoise
  simp only [Table.addNoise_eq]
  by_cases hSign : Scalar.isNegative level = true
  · simp only [if_pos hSign]
    rfl
  · simp only [if_neg hSign]
    rfl

end Observations

namespace Estimator

variable {e after : Estimator α} {chance next : Chance α}

/- Noise is added to observations, or nothing is done. -/
theorem eq_of_addNoise
    (hOk : e.addNoise chance = .ok (after, next)) :
    after = e ∨
      ∃ level data,
        e.observations = some data ∧
        after =
          { e with
            observations :=
              some (data.withNoise level chance) } := by
  unfold addNoise at hOk
  split at hOk
  · next level data hLevel hData =>
      rw [Observations.addNoise_eq] at hOk
      by_cases hSign : Scalar.isNegative level = true
      · rw [if_pos hSign] at hOk
        cases hOk
      · rw [if_neg hSign] at hOk
        cases hOk
        exact .inr ⟨level, data, hData, rfl⟩
  · cases hOk
    exact .inl rfl

end Estimator

end NeighbourInfo
