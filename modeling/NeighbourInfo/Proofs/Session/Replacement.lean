import NeighbourInfo.Scalar.Double
import NeighbourInfo.Proofs.Session.Completing
import NeighbourInfo.Proofs.Session.Runs

/-
  How new observations take the place of former ones.

  Key definitions include:
    * `NeighbourInfo.Command.Replaces`
    * `NeighbourInfo.Command.chunks?`

  Without any rows the former observations stay, and so does
  what was computed from them.  Rows are put together, they
  are standardised if that is asked for, and only then is
  noise added.  A level with a minus sign, which the property
  takes as it is, is found out at that point: the new
  observations are there by then, without their noise.

  This is proven by:
    * `NeighbourInfo.Command.run_of_none`
    * `NeighbourInfo.Command.run_of_rows`
    * `NeighbourInfo.Command.replacement`
    * `NeighbourInfo.Session.replacement_incomplete`
-/

------------------------------------------------------------
-- Commands
------------------------------------------------------------

namespace NeighbourInfo

namespace Command

variable {α : Type} [Scalar α] [Literal α]

/- The command replaces the observations of an estimator. -/
def Replaces :
    Command α → Prop
  | .finalise => True
  | .setObservations _ _ _ => True
  | _ => False

/- The chunks that a command makes new observations from. -/
def chunks?
    (c : Context α) :
    Command α → Option (List (Observations α))
  | .finalise => c.estimator.pending
  | .setObservations x y z =>
      match c.estimator.startWith x y z with
      | .ok added => added.pending
      | .error _ => none
  | _ => none

theorem chunks?_setObservations
    (x : Value α)
    (y : Value α)
    (z : Value α)
    (c : Context α) :
    (setObservations x y z).chunks? c =
      match c.estimator.startWith x y z with
      | .ok added => added.pending
      | .error _ => none := rfl

variable {command : Command α} {c : Context α}

/- Both commands do nothing else than to replace. -/
theorem run_finalise
    (c : Context α) :
    (run .finalise c).1.result =
        (Context.finalise c).1.result.map (fun _ => .done) ∧
      (run .finalise c).2 = (Context.finalise c).2 :=
  ⟨Transition.result_map _ _ c, Transition.state_map _ _ c⟩

theorem run_setObservations
    (x : Value α)
    (y : Value α)
    (z : Value α)
    (c : Context α) :
    (run (.setObservations x y z) c).1.result =
        (Context.setObservations x y z c).1.result.map
          (fun _ => .done) ∧
      (run (.setObservations x y z) c).2 =
        (Context.setObservations x y z c).2 :=
  ⟨Transition.result_map _ _ c, Transition.state_map _ _ c⟩

theorem run_of_none
    (hReplaces : command.Replaces)
    (hNone :
      ∀ chunks, command.chunks? c = some chunks →
        (Observations.concat chunks).size = 0) :
    (∃ refusal, (command.run c).1.result = .error refusal) ∧
      ∃ pending,
        (command.run c).2 =
          { c with
            estimator :=
              { c.estimator with pending := pending } } := by
  cases command with
  | finalise =>
      rcases run_finalise c with ⟨hResult, hAfter⟩
      rcases Context.finalise_of_none hNone with
        ⟨⟨refusal, hRefusal⟩, hPending⟩
      rw [hResult, hAfter, hRefusal]
      exact ⟨⟨refusal, rfl⟩, hPending⟩
  | setObservations x y z =>
      rcases run_setObservations x y z c with ⟨hResult, hAfter⟩
      rw [hResult, hAfter]
      cases hAdded : c.estimator.startWith x y z with
      | error e =>
          rcases Context.setObservations_of_error hAdded with
            ⟨hRefusal, hPending⟩
          rw [hRefusal]
          exact ⟨⟨e, rfl⟩, hPending⟩
      | ok added =>
          rw [Context.setObservations_of_ok hAdded]
          rw [chunks?_setObservations, hAdded] at hNone
          rcases Context.finalise_of_none
              (c := { c with estimator := added }) hNone with
            ⟨⟨refusal, hRefusal⟩, pending, hPending⟩
          rcases Estimator.eq_of_startWith hAdded with
            ⟨-, chunk, -, rfl⟩
          rw [hRefusal]
          exact ⟨⟨refusal, rfl⟩, pending, hPending⟩
  | _ => exact hReplaces.elim

theorem run_of_rows
    (hReplaces : command.Replaces)
    {chunks : List (Observations α)}
    (hChunks : command.chunks? c = some chunks)
    (hRows : (Observations.concat chunks).size ≠ 0) :
    let completed :=
      Observations.completed c.estimator.settings
        c.shared.chance chunks
    (command.run c).1.result =
        completed.1.map (fun _ => .done) ∧
      (command.run c).2.estimator =
        c.estimator.holding completed.2 := by
  intro completed
  cases command with
  | finalise =>
      rcases run_finalise c with ⟨hResult, hAfter⟩
      rcases Context.finalise_of_rows hChunks hRows with
        ⟨hOutcome, hHeld⟩
      rw [hResult, hAfter, hOutcome]
      exact ⟨rfl, hHeld⟩
  | setObservations x y z =>
      rcases run_setObservations x y z c with ⟨hResult, hAfter⟩
      cases hAdded : c.estimator.startWith x y z with
      | error e =>
          rw [chunks?_setObservations, hAdded] at hChunks
          cases hChunks
      | ok added =>
          rw [chunks?_setObservations, hAdded] at hChunks
          rcases Context.finalise_of_rows
              (c := { c with estimator := added })
              hChunks hRows with
            ⟨hOutcome, hHeld⟩
          rcases Estimator.eq_of_startWith hAdded with
            ⟨-, chunk, -, rfl⟩
          rw [hResult, hAfter,
            Context.setObservations_of_ok hAdded, hOutcome]
          exact ⟨rfl, hHeld⟩
  | _ => exact hReplaces.elim

/-
  What a command to replace the observations does in every
  state.  It fails without rows, and changes the list of open
  chunks at most.  With rows the observations are put together
  and standardised as asked for, and nothing counts as
  computed.  They get noise where there should be some, all of
  them, unless its level has a minus sign; then the command
  fails, and the observations stay without noise.
-/
theorem replacement
    (command : Command α)
    (hReplaces : command.Replaces)
    (c : Context α) :
    let e := c.estimator
    let result := (command.run c).1.result
    let after := (command.run c).2
    ((∀ chunks, command.chunks? c = some chunks →
        (Observations.concat chunks).size = 0) →
      (∃ refusal, result = .error refusal) ∧
        ∃ pending,
          after =
            { c with
              estimator := { e with pending := pending } }) ∧
    ∀ chunks, command.chunks? c = some chunks →
      (Observations.concat chunks).size ≠ 0 →
      let data :=
        Observations.prepared e.settings.normalise chunks
      (e.settings.noise = none →
        result = .ok .done ∧
          after.estimator = e.holding data) ∧
      ∀ level, e.settings.noise = some level →
        (Scalar.isNegative level = false →
          result = .ok .done ∧
            after.estimator =
              e.holding
                (data.withNoise level c.shared.chance)) ∧
        (Scalar.isNegative level = true →
          result = .error .negativeScale ∧
            after.estimator = e.holding data) := by
  intro e result after
  refine ⟨run_of_none hReplaces, ?_⟩
  intro chunks hChunks hRows data
  rcases run_of_rows hReplaces hChunks hRows with
    ⟨hResult, hAfter⟩
  unfold Observations.completed at hResult hAfter
  dsimp only at hResult hAfter
  constructor
  · intro hNone
    rw [hNone] at hResult hAfter
    exact ⟨hResult, hAfter⟩
  · intro level hLevel
    rw [hLevel] at hResult hAfter
    dsimp only at hResult hAfter
    constructor
    · intro hSign
      rw [hSign] at hResult hAfter
      exact ⟨hResult, hAfter⟩
    · intro hSign
      rw [if_pos hSign] at hResult hAfter
      exact ⟨hResult, hAfter⟩

/- Two rows get their noise; without open chunks all stays. -/
theorem replacement_doubles :
    let chunk : Observations Float :=
      ⟨⟨1, [[5], [6]]⟩, ⟨1, [[7], [9]]⟩, ⟨1, [[2], [4]]⟩⟩
    let settings : Settings Float :=
      { Settings.initial (.whole 1) (.count 1) with
        noise := some 0.5 }
    let e : Estimator Float := .create none settings
    let opened : Estimator Float :=
      { e with isInitialised := true, pending := some [chunk] }
    let shared : Shared Float :=
      .initial none { (default : Chance Float) with
        normals := [1, -1] }
    let data := Observations.prepared true [chunk]
    (run .finalise ⟨opened, shared⟩).1.result = .ok .done ∧
      (run .finalise ⟨opened, shared⟩).2.estimator =
        opened.holding (data.withNoise 0.5 shared.chance) ∧
      ∃ pending,
        (run .finalise ⟨e, shared⟩).2.estimator =
          { e with pending := pending } := by
  intro chunk settings e opened shared data
  have hRows : (Observations.concat [chunk]).size ≠ 0 := by
    decide
  have hSign : Scalar.isNegative (0.5 : Float) = false := rfl
  rcases replacement .finalise trivial ⟨opened, shared⟩ with
    ⟨-, hCompleted⟩
  rcases hCompleted [chunk] rfl hRows with ⟨-, hNoise⟩
  rcases (hNoise 0.5 rfl).1 hSign with ⟨hResult, hAfter⟩
  rcases replacement .finalise trivial ⟨e, shared⟩ with
    ⟨hKept, -⟩
  have hNone :
      ∀ chunks : List (Observations Float),
        chunks? ⟨e, shared⟩ .finalise = some chunks →
          (Observations.concat chunks).size = 0 := by
    intro chunks hChunks
    cases hChunks
  rcases hKept hNone with ⟨-, pending, hPending⟩
  exact
    ⟨hResult, hAfter, pending,
      congrArg Context.estimator hPending⟩

end Command

namespace Session

/-
  A level with a minus sign is taken, and then found out when
  the three former observations have become two new ones.
-/
theorem replacement_incomplete :
    let column (entries : List Float) : Value Float :=
      .list (entries.map .real)
    let requests : List (Request Float) :=
      [.create "first" (some (.counting .first)),
        .command "first" (.initialise (.list [])),
        .command "first" (.set (.text "K") (.whole 1)),
        .command "first"
          (.set (.text "NORMALISE") (.text "false")),
        .command "first"
          (.setObservations (column [0, 1, 3])
            (column [0, 2, 1]) (column [0, 0, 1])),
        .command "first" (.average (.whole 1) .null),
        .command "first"
          (.set (.text "NOISE_LEVEL_TO_ADD") (.real (-1)))]
    let s := ((initial (.initial none default)).run requests).2
    let request : Request Float :=
      .command "first"
        (.setObservations (column [5, 6]) (column [7, 9])
          (column [2, 4]))
    let before := s.estimator? "first"
    let after := (step request s).2.estimator? "first"
    (step request s).1.result = .error .negativeScale ∧
      before.bind Estimator.observations =
        some
          ⟨⟨1, [[0], [1], [3]]⟩, ⟨1, [[0], [2], [1]]⟩,
            ⟨1, [[0], [0], [1]]⟩⟩ ∧
      before.map Estimator.isComputed = some true ∧
      after.bind Estimator.observations =
        some
          ⟨⟨1, [[5], [6]]⟩, ⟨1, [[7], [9]]⟩,
            ⟨1, [[2], [4]]⟩⟩ ∧
      after.map Estimator.isComputed = some false := by
  intro column requests s request before after
  exact ⟨rfl, rfl, rfl, rfl, rfl⟩

end Session

end NeighbourInfo
