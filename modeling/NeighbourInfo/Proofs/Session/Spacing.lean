import NeighbourInfo.Proofs.Evaluation
import NeighbourInfo.Proofs.Excerpts
import NeighbourInfo.Proofs.Session.Changes
import NeighbourInfo.Proofs.Session.Observing
import NeighbourInfo.Proofs.Session.Runs

/-
  Windows among observations that are left by masks.

  Key definitions include:
    * `NeighbourInfo.Observations.AgreesApart`
    * `NeighbourInfo.Observations.Disregards`
    * `NeighbourInfo.Method.localAt`
    * `NeighbourInfo.Addition`
    * `NeighbourInfo.Estimator.Collected`

  Rows that are dropped bring the rows around them together,
  never apart.  Rows that were in each other's window when all
  of them were given are so among the ones that are left, and
  neither of the two has any part in what is counted for the
  other.  In a session, chunks come to be open by additions
  and in no other way.

  This is proven by:
    * `NeighbourInfo.Observations.AgreesApart.countsAt_eq`
    * `NeighbourInfo.Observations.AgreesApart.localAt_eq`
    * `NeighbourInfo.Observations.disregards_of_near`
    * `NeighbourInfo.Estimator.Collected.exists_excerpts`
    * `NeighbourInfo.Session.isCollected_run`
    * `NeighbourInfo.Context.finalise_spacing`
-/

------------------------------------------------------------
-- Rows Apart From One
------------------------------------------------------------

namespace NeighbourInfo

/- Aligned observations that differ in one row at most. -/
structure Observations.AgreesApart
    {α : Type}
    (b : Nat)
    (data : Observations α)
    (data' : Observations α) :
    Prop where
  isAligned : data.IsAligned
  isAligned' : data'.IsAligned
  size : data'.size = data.size
  x : ∀ j, j ≠ b → data'.x.rows[j]? = data.x.rows[j]?
  y : ∀ j, j ≠ b → data'.y.rows[j]? = data.y.rows[j]?
  z : ∀ j, j ≠ b → data'.z.rows[j]? = data.z.rows[j]?

/-
  The local value of a point, and whether there are any local
  values at all.
-/
def Method.localAt
    {α : Type} [Scalar α]
    (algorithm : Algorithm)
    (settings : Settings α)
    (data : Observations α)
    (i : Nat) :
    Except (Error α) (Option α) :=
  (((counting algorithm).locals settings data).result.map
    Prod.snd).map (·[i]?)

/- The local value of a point is that of its counts. -/
theorem Method.localAt_eq
    {α : Type} [Scalar α]
    {settings : Settings α}
    {k : Nat}
    (hWhole : settings.k = .whole k)
    (hThreads : 1 ≤ settings.threads.toNat)
    (hPos : 1 ≤ k)
    {data : Observations α}
    (hAligned : data.IsAligned)
    (hSize : data.size < 2 ^ 63)
    {i : Nat}
    (hPoint : i < data.size)
    (algorithm : Algorithm) :
    localAt algorithm settings data i =
      unlessRefused
        (Window.firstRefusal? settings.window k data.size)
        (some
          (Counts.localValue algorithm (Scalar.ofNat k)
            (data.pointCounts algorithm settings.norm
              settings.window k i))) := by
  unfold localAt
  rw [result_locals_counting algorithm hWhole hThreads hPos
      hAligned (by omega) hSize,
    map_unlessRefused, List.getElem?_map,
    List.getElem?_range hPoint]
  rfl

namespace Observations

namespace AgreesApart

variable {α : Type} [Scalar α]
variable {data data' : Observations α} {a b : Nat}

theorem separation_eq
    (hAgrees : data.AgreesApart b data')
    (hA : a ≠ b)
    {j : Nat}
    (hJ : j ≠ b)
    (norm : Norm) :
    data'.separation norm a j = data.separation norm a j := by
  simp only [separation, List.getD_eq_getElem?_getD,
    hAgrees.x _ hA, hAgrees.y _ hA, hAgrees.z _ hA,
    hAgrees.x _ hJ, hAgrees.y _ hJ, hAgrees.z _ hJ]

/- A point that is not admissible is not looked at. -/
theorem others_eq
    (hAgrees : data.AgreesApart b data')
    (hA : a ≠ b)
    {window : Nat}
    (hOut : b ∉ Window.admissible window a data.size)
    (norm : Norm) :
    data'.others norm window a = data.others norm window a := by
  unfold others
  rw [hAgrees.size]
  apply List.map_congr_left
  intro j hJ
  refine hAgrees.separation_eq hA ?_ norm
  rintro rfl
  exact hOut hJ

/- Nothing is counted of it, however many are searched for. -/
theorem countsAt_eq
    (hAgrees : data.AgreesApart b data')
    (hA : a ≠ b)
    (hPoint : a < data.size)
    {window : Nat}
    (hOut : b ∉ Window.admissible window a data.size)
    (algorithm : Algorithm)
    (norm : Norm)
    (k : Value α) :
    data'.countsAt algorithm ⟨k, norm, window⟩ a =
      data.countsAt algorithm ⟨k, norm, window⟩ a := by
  have hPoint' : a < data'.size := hAgrees.size ▸ hPoint
  rw [countsAt_eq_bind hAgrees.isAligned' hPoint',
    countsAt_eq_bind hAgrees.isAligned hPoint,
    hAgrees.others_eq hA hOut, hAgrees.size]

/- Nor does the local value depend on it, or on threads. -/
theorem localAt_eq
    (hAgrees : data.AgreesApart b data')
    (hA : a ≠ b)
    (hPoint : a < data.size)
    (hSize : data.size < 2 ^ 63)
    {settings : Settings α}
    (hOut : b ∉ Window.admissible settings.window a data.size)
    {k : Nat}
    (hWhole : settings.k = .whole k)
    (hPos : 1 ≤ k)
    {threads threads' : ThreadCount}
    (hThreads : 1 ≤ threads.toNat)
    (hThreads' : 1 ≤ threads'.toNat)
    (algorithm : Algorithm) :
    let under (t : ThreadCount) : Settings α :=
      { settings with threads := t }
    Method.localAt algorithm (under threads') data' a =
      Method.localAt algorithm (under threads) data a := by
  intro under
  have hPoint' : a < data'.size := hAgrees.size ▸ hPoint
  have hSize' : data'.size < 2 ^ 63 := hAgrees.size ▸ hSize
  have hCounts :
      data'.pointCounts algorithm settings.norm settings.window
          k a =
        data.pointCounts algorithm settings.norm settings.window
          k a := by
    unfold pointCounts
    rw [hAgrees.others_eq hA hOut]
  have hUnder (t : ThreadCount) :
      (under t).k = .whole k := hWhole
  rw [Method.localAt_eq (hUnder threads') hThreads' hPos
      hAgrees.isAligned' hSize' hPoint',
    Method.localAt_eq (hUnder threads) hThreads hPos
      hAgrees.isAligned hSize hPoint,
    hAgrees.size, hCounts]

end AgreesApart

end Observations

end NeighbourInfo

------------------------------------------------------------
-- Points Without A Part In What Is Counted
------------------------------------------------------------

namespace NeighbourInfo

/- A block has the counts of each of its points in its place. -/
theorem Kernel.exists_getElem?_blockCounts
    {α : Type} [Scalar α]
    {config : Config α}
    {data : Observations α}
    {start m : Nat}
    {counts : List Counts}
    (hOk : blockCounts config data ⟨start, m⟩ = .ok counts)
    {a : Nat}
    (hFrom : start ≤ a)
    (hUpTo : a < start + m) :
    ∃ c,
      counts[a - start]? = some c ∧
        data.countsAt config.algorithm config.search a =
          .ok c := by
  unfold blockCounts at hOk
  rw [if_neg (by simp), Block.points_natCast, mapM_eq_ok_iff,
    List.map_map] at hOk
  have hEntry := congrArg (·[a - start]?) hOk
  have hPlace : start + (a - start) = a := by omega
  simp only [List.getElem?_map,
    List.getElem?_range' (by omega : a - start < m), one_mul,
    hPlace, Option.map_some] at hEntry
  rcases Option.map_eq_some_iff.mp hEntry.symm with
    ⟨c, hC, hSame⟩
  exact ⟨c, hC, hSame.symm⟩

/-
  Among the observations one point has no part in what is
  counted for another.  It is not admitted to it, and counted
  are admissible points alone, in whatever block the other one
  comes.  Its row might be any other: the counts and the local
  value of the other point are the same, for any number of
  threads.
-/
structure Observations.Disregards
    {α : Type} [Scalar α]
    (window : Nat)
    (a : Nat)
    (b : Nat)
    (data : Observations α) :
    Prop where
  notAdmitted : Window.admits window a data.size b = false
  notAmong : b ∉ Window.admissible window a data.size
  counts :
    ∀ (algorithm : Algorithm) (norm : Norm) (k : Value α),
      let search : Search α := ⟨k, norm, window⟩
      let points := Window.admissible window a data.size
      data.countsAt algorithm search a =
        (search.neighbours a points.length).bind fun k =>
          Counts.ofSeparations algorithm k
            (points.map (data.separation norm a))
  blocks :
    ∀ (config : Config α) (start m : Nat)
        (counts : List Counts),
      start ≤ a → a < start + m →
      Kernel.blockCounts config data ⟨start, m⟩ = .ok counts →
        ∃ c,
          counts[a - start]? = some c ∧
            data.countsAt config.algorithm config.search a =
              .ok c
  rows :
    a ≠ b → ∀ data', data.AgreesApart b data' →
      ∀ (algorithm : Algorithm) (norm : Norm) (k : Value α),
        let search : Search α := ⟨k, norm, window⟩
        data'.countsAt algorithm search a =
          data.countsAt algorithm search a
  locals :
    a ≠ b → ∀ data', data.AgreesApart b data' →
      ∀ (algorithm : Algorithm) (settings : Settings α)
          (k : Nat),
        settings.window = window →
        settings.k = .whole k → 1 ≤ k →
        data.size < 2 ^ 63 →
        ∀ threads threads' : ThreadCount,
          1 ≤ threads.toNat → 1 ≤ threads'.toNat →
          let under (t : ThreadCount) : Settings α :=
            { settings with threads := t }
          Method.localAt algorithm (under threads') data' a =
            Method.localAt algorithm (under threads) data a

/- Places that are near each other are not admitted. -/
private theorem Window.admits_eq_false
    {window a b : Nat}
    (hNear : ((a : Int) - b).natAbs ≤ window)
    (n : Nat) :
    admits window a n b = false := by
  rw [Bool.eq_false_iff, ne_eq, admits_iff]
  exact Nat.not_lt.mpr hNear

/- Points in each other's window disregard each other. -/
theorem Observations.disregards_of_near
    {α : Type} [Scalar α]
    {data : Observations α}
    (hAligned : data.IsAligned)
    {window a b : Nat}
    (hPoint : a < data.size)
    (hNear : ((a : Int) - b).natAbs ≤ window) :
    data.Disregards window a b := by
  have hOut : b ∉ Window.admissible window a data.size := by
    rw [Window.mem_admissible_iff]
    omega
  exact
    { notAdmitted := Window.admits_eq_false hNear data.size
      notAmong := hOut
      counts := fun algorithm norm k =>
        countsAt_eq_bind hAligned hPoint algorithm norm window k
      blocks := fun config start m counts hFrom hUpTo hOk =>
        Kernel.exists_getElem?_blockCounts hOk hFrom hUpTo
      rows := fun hA data' hAgrees algorithm norm k =>
        hAgrees.countsAt_eq hA hPoint hOut algorithm norm k
      locals := by
        intro hA data' hAgrees algorithm settings k hWindow
          hWhole hPos hSize threads threads' hThreads hThreads'
        subst hWindow
        exact
          hAgrees.localAt_eq hA hPoint hSize hOut hWhole hPos
            hThreads hThreads' algorithm }

end NeighbourInfo

------------------------------------------------------------
-- Chunks With Masks Of Any Kind
------------------------------------------------------------

namespace NeighbourInfo

/- What a chunk is added from: the data, and any mask. -/
structure Addition (α : Type) where
  x : Value α
  y : Value α
  z : Value α
  mask : Value α

variable {α : Type} [Scalar α] [Literal α]

/- The rows of a chunk, and which of them its mask keeps. -/
def Addition.read
    (dimensions : Dimensions)
    (addition : Addition α) :
    Except (Error α) (Excerpt α) := do
  let data ←
    Observations.ofValues dimensions addition.x addition.y
      addition.z
  let keeps ← Mask.keeping addition.mask
  return ⟨data, keeps⟩

namespace Estimator

/-
  The chunks that have been added since a list was opened for
  them.  In between the estimator may have been used as well,
  as long as no list was opened or closed.
-/
inductive Collected :
    Estimator α → List (Addition α) → Prop where
  | opened
      {e : Estimator α}
      (hOpen : e.pending = some []) :
      Collected e []
  | added
      {e after : Estimator α}
      {additions : List (Addition α)}
      (hBefore : Collected e additions)
      (addition : Addition α)
      (hOk :
        e.add addition.x addition.y addition.z addition.mask =
          .ok after) :
      Collected after (additions ++ [addition])
  | used
      {e after : Estimator α}
      {additions : List (Addition α)}
      (hBefore : Collected e additions)
      (hPending : after.pending = e.pending)
      (hDimensions : after.dimensions = e.dimensions) :
      Collected after additions

/- What is added is an excerpt: the rows that a mask keeps. -/
private theorem exists_excerpt_of_add
    {e after : Estimator α}
    {addition : Addition α}
    (hOk :
      e.add addition.x addition.y addition.z addition.mask =
        .ok after) :
    ∃ chunks excerpt,
      e.pending = some chunks ∧
        addition.read e.dimensions = .ok excerpt ∧
        excerpt.data.Fits e.dimensions ∧
        after =
          { e with
            pending := some (chunks ++ [excerpt.kept]) } := by
  rcases eq_of_add hOk with
    ⟨chunks, data, kept, hPending, hData, hKept, rfl⟩
  have hFits := Observations.fits_ofValues hData
  rcases
      Observations.exists_keeping_of_masked hFits.isAligned
        hKept with
    ⟨keeps, hKeeps, rfl⟩
  refine ⟨chunks, ⟨data, keeps⟩, hPending, ?_, hFits, rfl⟩
  unfold Addition.read
  rw [hData, hKeeps]
  rfl

/- So the open chunks are what all additions have kept. -/
theorem Collected.exists_excerpts
    {e : Estimator α}
    {additions : List (Addition α)}
    (hCollected : e.Collected additions) :
    ∃ excerpts,
      additions.mapM (Addition.read e.dimensions) =
          .ok excerpts ∧
        (∀ excerpt ∈ excerpts,
          excerpt.data.Fits e.dimensions) ∧
        e.pending = some (excerpts.map Excerpt.kept) := by
  induction hCollected with
  | opened hOpen => exact ⟨[], rfl, by simp, hOpen⟩
  | added hBefore addition hOk ih =>
      rcases ih with ⟨excerpts, hRead, hFits, hPending⟩
      rcases exists_excerpt_of_add hOk with
        ⟨chunks, excerpt, hChunks, hLast, hLastFits, rfl⟩
      cases hPending.symm.trans hChunks
      refine ⟨excerpts ++ [excerpt], ?_, ?_, ?_⟩
      · show List.mapM (Addition.read _) (_ ++ [_]) = _
        rw [List.mapM_append, hRead, List.mapM_cons, hLast]
        rfl
      · rw [List.forall_mem_append, List.forall_mem_singleton]
        exact ⟨hFits, hLastFits⟩
      · rw [List.map_append]
        rfl
  | used hBefore hPending hDimensions ih =>
      rw [hPending, hDimensions]
      exact ih

/- Whatever chunks are open have been added. -/
def IsCollected
    (e : Estimator α) :
    Prop :=
  e.pending.isSome = true → ∃ additions, e.Collected additions

theorem isCollected_of_none
    {e : Estimator α}
    (hNone : e.pending = none) :
    e.IsCollected := by
  intro hOpen
  rw [hNone] at hOpen
  cases hOpen

theorem IsCollected.used
    {e after : Estimator α}
    (hBefore : e.IsCollected)
    (hPending : after.pending = e.pending)
    (hDimensions : after.dimensions = e.dimensions) :
    after.IsCollected := by
  intro hOpen
  rw [hPending] at hOpen
  rcases hBefore hOpen with ⟨additions, hCollected⟩
  exact ⟨additions, hCollected.used hPending hDimensions⟩

/- Chunks come into an estimator in no other way. -/
theorem IsCollected.change
    {e after : Estimator α}
    (hBefore : e.IsCollected)
    {processors : Nat}
    (hChange : e.Change processors after) :
    after.IsCollected := by
  cases hChange with
  | set hOk =>
      rcases eq_of_set hOk with
        rfl | ⟨property, settings, -, rfl⟩
      · exact hBefore
      · exact hBefore.used rfl rfl
  | setDebug debug => exact hBefore.used rfl rfl
  | start hOk =>
      rcases eq_of_start hOk with ⟨-, rfl⟩
      exact fun _ => ⟨[], .opened rfl⟩
  | @add x y z mask _ hOk =>
      rcases eq_of_add hOk with
        ⟨chunks, chunk, kept, hPending, -⟩
      have hOpen : e.pending.isSome = true := by
        rw [hPending]
        rfl
      rcases hBefore hOpen with ⟨additions, hCollected⟩
      exact fun _ =>
        ⟨additions ++ [⟨x, y, z, mask⟩],
          hCollected.added ⟨x, y, z, mask⟩ hOk⟩
  | close hOk =>
      rcases eq_of_close hOk with ⟨-, rfl⟩
      exact isCollected_of_none rfl
  | install hClose hOk =>
      rcases eq_of_close hClose with ⟨-, rfl⟩
      rw [(eq_hold_of_install hOk).2]
      exact isCollected_of_none rfl
  | addNoise hFresh hOk =>
      rcases eq_of_addNoise hOk with
        rfl | ⟨level, data, -, rfl⟩
      · exact hBefore
      · exact hBefore.used rfl rfl
  | average hOk => exact hBefore.used rfl rfl
  | locals hOk => exact hBefore.used rfl rfl

end Estimator

namespace Session

theorem keeps_collected
    (request : Request α) :
    Transition.Keeps
      (Holds (fun _ => True) Estimator.IsCollected)
      (step request) := by
  refine keeps_step ?_ ?_ request ?_ ?_
  · exact fun _ _ _ => Estimator.isCollected_of_none rfl
  · exact fun _ _ _ _ _ _ => trivial
  · exact fun _ _ _ _ => trivial
  · intro id command _
    refine command.keeps_run ?_ ?_
    · intro c after hChange hCollected
      refine
        ⟨trivial, hChange.keeps_estimator ?_ hCollected.2⟩
      exact fun _ _ _ hChange hBefore => hBefore.change hChange
    · intro dims _ c e hOk _
      rcases Estimator.eq_of_initialise hOk with
        ⟨dimensions, rfl⟩
      exact ⟨trivial, Estimator.isCollected_of_none rfl⟩

/- In any session what is open is what has been added. -/
theorem isCollected_run
    (shared : Shared α)
    (requests : List (Request α))
    {id : String}
    {e : Estimator α}
    (hFound :
      ((initial shared).run requests).2.estimator? id =
        some e) :
    e.IsCollected := by
  have hHolds :
      ((initial shared).run requests).2.Holds (fun _ => True)
        Estimator.IsCollected :=
    keeps_run (fun request _ => keeps_collected request)
      (holds_initial _ trivial)
  exact hHolds.2 id e hFound

end Session

end NeighbourInfo

------------------------------------------------------------
-- Windows Of What Is Left
------------------------------------------------------------

namespace NeighbourInfo

namespace Observations

variable {α : Type} [Scalar α]

/- Neither standardising nor noise moves any row. -/
private theorem fits_completed
    {dimensions : Dimensions}
    {chunks : List (Observations α)}
    (hFits : (concat chunks).Fits dimensions)
    (settings : Settings α)
    (chance : Chance α) :
    (completed settings chance chunks).2.Fits dimensions ∧
      (completed settings chance chunks).2.size =
        (concat chunks).size := by
  have hPrepared := hFits.prepared settings.normalise
  have hSize := size_prepared settings.normalise chunks
  unfold completed
  cases settings.noise with
  | none => exact ⟨hPrepared, hSize⟩
  | some level =>
      dsimp only
      by_cases hSign : Scalar.isNegative level = true
      · rw [if_pos hSign]
        exact ⟨hPrepared, hSize⟩
      · rw [if_neg hSign]
        exact
          ⟨hPrepared.withNoise level chance,
            (size_withNoise level chance _).trans hSize⟩

end Observations

namespace Context

variable {α : Type} [Scalar α] [Literal α]

/-
  A window is never undercut by masks or by chunks.  The rows
  that are left by the masks of some chunks stood at certain
  positions among all rows of the chunks, one after the other.
  Two of them that were in each other's window there have no
  part in what is counted for each other in the observations
  that the chunks are completed to.
-/
theorem finalise_spacing
    {c : Context α}
    {additions : List (Addition α)}
    (hCollected : c.estimator.Collected additions) :
    let e := c.estimator
    ∃ excerpts,
      additions.mapM (Addition.read e.dimensions) =
          .ok excerpts ∧
      let whole := Excerpt.whole excerpts
      let positions := Excerpt.positions 0 excerpts
      let data :=
        (Observations.completed e.settings c.shared.chance
          [whole.pick positions]).2
      positions.Pairwise (· < ·) ∧
      (∀ p ∈ positions, p < whole.size) ∧
      (positions ≠ [] →
        (finalise c).2.estimator.observations = some data ∧
        data.size = positions.length ∧
        ∀ window a b p q : Nat,
          positions[a]? = some p → positions[b]? = some q →
          ((p : Int) - q).natAbs ≤ window →
            data.Disregards window a b ∧
              data.Disregards window b a) := by
  intro e
  rcases hCollected.exists_excerpts with
    ⟨excerpts, hRead, hFits, hPending⟩
  refine ⟨excerpts, hRead, ?_⟩
  intro whole positions data
  have hSorted : positions.Pairwise (· < ·) :=
    Excerpt.pairwise_positions 0 excerpts
  refine
    ⟨hSorted, fun p hP => Excerpt.lt_size_whole hP, ?_⟩
  intro hSome
  have hKept :
      Observations.concat (excerpts.map Excerpt.kept) =
        whole.pick positions :=
    Excerpt.concat_kept fun excerpt hE =>
      (hFits excerpt hE).isAligned
  have hRows :
      (Observations.concat (excerpts.map Excerpt.kept)).size ≠
        0 := by
    rw [hKept, Observations.size_pick]
    exact mt List.length_eq_zero_iff.mp hSome
  have hFitting : (whole.pick positions).Fits e.dimensions := by
    rw [← hKept]
    refine Observations.fits_concat ?_ hRows
    refine List.forall_mem_map.mpr fun excerpt hE => ?_
    apply (hFits excerpt hE).pick
    exact fun i hI => (Excerpt.mem_places_iff.mp hI).1
  have hCompleted :
      (Observations.completed e.settings c.shared.chance
        (excerpts.map Excerpt.kept)).2 = data := by
    unfold data Observations.completed Observations.prepared
    rw [hKept, Observations.concat_singleton]
  have hData :
      (finalise c).2.estimator.observations = some data := by
    rw [(finalise_of_rows hPending hRows).2, hCompleted]
    rfl
  rw [← Observations.concat_singleton (whole.pick positions)]
    at hFitting
  rcases
      Observations.fits_completed hFitting e.settings
        c.shared.chance with
    ⟨⟨hAligned, -, -, -⟩, hSize⟩
  rw [Observations.concat_singleton, Observations.size_pick]
    at hSize
  refine ⟨hData, hSize, ?_⟩
  intro window a b p q hFirst hSecond hNear
  have hRow {i p : Nat} (hPlace : positions[i]? = some p) :
      i < data.size := by
    rw [hSize]
    exact (List.getElem?_eq_some_iff.mp hPlace).1
  have hSpacing :=
    (natAbs_sub_le_of_pairwise hSorted hFirst hSecond).trans
      hNear
  exact
    ⟨Observations.disregards_of_near hAligned (hRow hFirst)
        hSpacing,
      Observations.disregards_of_near hAligned (hRow hSecond)
        (by omega)⟩

/-
  The second row of the first chunk is dropped.  The rows next
  to it, which are the first two that are left, were two rows
  apart.
-/
theorem finalise_spacing_doubles :
    let column (entries : List Float) : Value Float :=
      .list (entries.map .real)
    let first : Addition Float :=
      ⟨column [0, 1, 3, 2], column [0, 2, 1, 4],
        column [0, 0, 1, 1],
        .list [.whole 1, .whole (-1), .whole 2, .truth true]⟩
    let second : Addition Float :=
      ⟨column [5, 4], column [1, 3], column [2, 2], .null⟩
    let kept : Observations Float :=
      ⟨⟨1, [[0], [3], [2]]⟩, ⟨1, [[0], [1], [4]]⟩,
        ⟨1, [[0], [1], [1]]⟩⟩
    let chunk : Observations Float :=
      ⟨⟨1, [[5], [4]]⟩, ⟨1, [[1], [3]]⟩, ⟨1, [[2], [2]]⟩⟩
    let e : Estimator Float :=
      { Estimator.create (some (.counting .first))
          (.initial (.whole 1) (.count 2)) with
        dimensions := ⟨1, 1, 1⟩
        isInitialised := true
        pending := some [kept, chunk] }
    e.Collected [first, second] ∧
      let c : Context Float := ⟨e, .initial none default⟩
      ∃ data,
        (finalise c).2.estimator.observations = some data ∧
          data.size = 5 ∧
          data.Disregards 2 0 1 ∧ data.Disregards 2 1 0 := by
  intro column first second kept chunk e
  have hOpened :
      Estimator.Collected { e with pending := some [] } [] :=
    .opened rfl
  have hFirst :
      Estimator.Collected { e with pending := some [kept] }
        [first] :=
    hOpened.added first rfl
  have hCollected : e.Collected [first, second] :=
    hFirst.added second rfl
  rcases
      finalise_spacing (c := ⟨e, .initial none default⟩) hCollected
    with ⟨excerpts, hRead, -, -, hLeft⟩
  cases hRead
  rcases hLeft (by decide) with ⟨hData, hSize, hApart⟩
  rcases hApart 2 0 1 0 2 rfl rfl (by decide) with
    ⟨hBefore, hAfter⟩
  exact ⟨hCollected, _, hData, hSize, hBefore, hAfter⟩

end Context

end NeighbourInfo
