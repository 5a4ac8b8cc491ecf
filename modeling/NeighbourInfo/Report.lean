import NeighbourInfo.Summary

/-
  Results together with what was announced on the way.

  Key definitions include:
    * `NeighbourInfo.Note`
    * `NeighbourInfo.Note.lines`
    * `NeighbourInfo.Note.warning?`
    * `NeighbourInfo.Report`

  A note says what happened; its words are given here in one
  place.  Notes are kept when the operation fails later on.
-/

------------------------------------------------------------
-- Notes
------------------------------------------------------------

namespace NeighbourInfo

/- What an operation announces. -/
inductive Note (α : Type) where
  /- There are few points for the number of neighbours. -/
  | fewPoints (points : Nat) (k : Value α)
  /- The points are divided among threads. -/
  | division (threads : ThreadCount) (size : Int) (rest : Int)
  | thread (number : Nat) (block : Block)
  /- The means that enter the closing formula. -/
  | meanCounts (means : Sums α)
  | closing
      (algorithm : Algorithm)
      (k : α)
      (means : Sums α)
      (average : α)
  | calculated
  /- The default of the threads. -/
  | usedThreads (threads : ThreadCount) (processors : Nat)
  | automaticThreads (processors : Nat)
  | lastComputation (summary : Summary α)

namespace Note

variable {α : Type} [Literal α]

/- A value to three places. -/
def number
    (a : α) :
    String :=
  Literal.fixedText 3 a

/- A block as a pair of its start and its length. -/
def blockText
    (b : Block) :
    String :=
  "(" ++ toString b.start ++ ", " ++ toString b.length ++ ")"

/- The terms of the closing formula. -/
def closingText
    [Scalar α]
    (algorithm : Algorithm)
    (k : α)
    (means : Sums α)
    (average : α) :
    String :=
  let base := Scalar.digamma k
  let lead :=
    "Av = digamma(k)=" ++ number base ++ " + <digammas>=" ++
      number means.digammas
  match algorithm with
  | .first => lead ++ " = " ++ number average
  | .second =>
      let share := Scalar.ofInt 2 / k
      lead ++ " + <inverses>=" ++
        number (means.inverseXZ + means.inverseYZ) ++
        " - 2/k=" ++ number share ++
        " = " ++ number average ++
        " (<1/n_yz>=" ++ number means.inverseYZ ++
        ", <1/n_xz>=" ++ number means.inverseXZ ++ ")"

/- The record of a computation, a line for each part. -/
def summaryLines
    (s : Summary α) :
    List String :=
  ["from last function call:",
    "- nb of observations:         " ++ toString s.points,
    "- nb of threads:              " ++ s.threads.text,
    "- blocks (start, length):     [" ++
      ", ".intercalate (s.blocks.map blockText) ++ "]",
    "- <n_xz>, <n_yz>, <n_z>:      " ++ number s.meanXZ ++
      ", " ++ number s.meanYZ ++ ", " ++ number s.meanZ,
    "- elapsed time:               <t> s"]

/-
  The lines that a note prints.  Times are not measured and
  stand as `<t>`.
-/
def lines
    [Scalar α] :
    Note α → List String
  | .fewPoints _ _ => []
  | .division threads size rest =>
      ["Computing Kraskov conditional MI with " ++
        threads.text ++ " threads (" ++ toString size ++
        " timesteps each, plus " ++ toString rest ++
        " residual)"]
  | .thread number block =>
      [toString number ++ ".Thread: from " ++
        toString block.start ++ " to " ++
        toString block.stop]
  | .meanCounts means =>
      ["<n_xz>=" ++ number means.xz ++ ", <n_yz>=" ++
        number means.yz ++ ", <n_z>=" ++ number means.z]
  | .closing algorithm k means average =>
      [closingText algorithm k means average]
  | .calculated => ["Calculation time: <t> sec"]
  | .usedThreads threads processors =>
      ["currently using " ++ threads.text ++ " out of " ++
        toString processors ++ " cores available"]
  | .automaticThreads processors =>
      [" (-1 means largest number available, so " ++
        toString processors ++ " here)"]
  | .lastComputation summary => summaryLines summary

/- The warning that a note gives instead of a line. -/
def warning? :
    Note α → Option String
  | .fewPoints points k =>
      some
        ("Only " ++ toString points ++ " points for k=" ++
          k.toText ++ " neighbors")
  | _ => none

end Note

end NeighbourInfo

------------------------------------------------------------
-- Reports
------------------------------------------------------------

namespace NeighbourInfo

/- The notes of an operation, and its result or its error. -/
structure Report (α : Type) (β : Type) where
  notes : List (Note α)
  result : Except (Error α) β

namespace Report

variable {α β γ δ : Type}

/- A result without notes. -/
def ofExcept
    (result : Except (Error α) β) :
    Report α β :=
  ⟨[], result⟩

/- Announce something. -/
def note
    (n : Note α) :
    Report α Unit :=
  ⟨[n], .ok ()⟩

/- Announce something if asked to. -/
def noteWhen
    (condition : Bool)
    (notes : List (Note α)) :
    Report α Unit :=
  ⟨if condition then notes else [], .ok ()⟩

/- Go on with the result; the notes of both are kept. -/
def andThen
    (r : Report α β)
    (f : β → Report α γ) :
    Report α γ :=
  match r.result with
  | .ok b =>
      let next := f b
      ⟨r.notes ++ next.notes, next.result⟩
  | .error e => ⟨r.notes, .error e⟩

instance : Monad (Report α) where
  pure b := ⟨[], .ok b⟩
  bind := andThen

/- A result alone is that result. -/
@[simp]
theorem result_ofExcept
    (result : Except (Error α) β) :
    (ofExcept result).result = result := rfl

/- Going on after a success. -/
theorem bind_ok
    (notes : List (Note α))
    (b : β)
    (f : β → Report α γ) :
    (⟨notes, .ok b⟩ : Report α β) >>= f =
      ⟨notes ++ (f b).notes, (f b).result⟩ := rfl

/- Going on after a failure. -/
theorem bind_error
    (notes : List (Note α))
    (e : Error α)
    (f : β → Report α γ) :
    (⟨notes, .error e⟩ : Report α β) >>= f =
      ⟨notes, .error e⟩ := rfl

/- The result of going on is that of the last part. -/
theorem result_bind
    (r : Report α β)
    (f : β → Report α γ) :
    (r >>= f).result = r.result.bind fun b => (f b).result := by
  rcases r with ⟨notes, _ | b⟩
  · rfl
  · rfl

/- Doing nothing with the result changes nothing. -/
theorem map_id
    (r : Report α β) :
    id <$> r = r := by
  rcases r with ⟨notes, _ | b⟩
  · rfl
  · exact congrArg (Report.mk · _) (List.append_nil notes)

/- It does not matter which of two steps is joined first. -/
theorem bind_bind
    (r : Report α β)
    (f : β → Report α γ)
    (g : γ → Report α δ) :
    r >>= f >>= g = r >>= fun b => f b >>= g := by
  rcases r with ⟨notes, _ | b⟩
  · rfl
  · rcases hNext : f b with ⟨more, _ | c⟩
    · simp [bind_ok, hNext, bind_error]
    · simp [bind_ok, hNext]

instance : LawfulMonad (Report α) :=
  LawfulMonad.mk' (Report α) map_id (fun _ _ => rfl) bind_bind

end Report

end NeighbourInfo
