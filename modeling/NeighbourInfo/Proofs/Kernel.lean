import NeighbourInfo.Kernel
import NeighbourInfo.Proofs.Radius
import NeighbourInfo.Proofs.Refusal
import NeighbourInfo.Proofs.Scalar.Double
import NeighbourInfo.Proofs.Search

/-
  What the counting kernel gives for a block of points.

  Key definitions include:
    * `NeighbourInfo.Window.refusal?`
    * `NeighbourInfo.Observations.pointCounts`

  A point is refused where too few points are admissible to
  it, whatever the observations are.  A block is refused for
  the first of its points that is, and otherwise has the
  counts of its points in their order.

  This is proven by:
    * `NeighbourInfo.Kernel.blockCounts_of_isAligned`
    * `NeighbourInfo.Kernel.sums_counting`
    * `NeighbourInfo.Kernel.locals_counting`
    * `NeighbourInfo.Kernel.counting_first`
-/

------------------------------------------------------------
-- Points
------------------------------------------------------------

namespace NeighbourInfo

namespace Window

/- The reason to refuse one of `n` points, if there is one. -/
def refusal?
    {α : Type}
    (window : Nat)
    (k : Nat)
    (n : Nat)
    (i : Nat) :
    Option (Error α) :=
  let found := (admissible window i n).length
  if found < k then some (.tooFewNeighbours i found (.whole k))
  else none

end Window

namespace Observations

variable {α : Type} [Scalar α]

/- The counts of a point that is not refused. -/
def pointCounts
    (algorithm : Algorithm)
    (norm : Norm)
    (window : Nat)
    (k : Nat)
    (data : Observations α)
    (i : Nat) :
    Counts :=
  let others := data.others norm window i
  match algorithm with
  | .first =>
      Counts.inside (Separation.radius k others) others
  | .second =>
      Counts.within (Separation.nearest k others) others

theorem countsAt_eq_unlessRefused
    {data : Observations α}
    (hAligned : data.IsAligned)
    {i : Nat}
    (hPoint : i < data.size)
    {k : Nat}
    (hPos : 1 ≤ k)
    (algorithm : Algorithm)
    (norm : Norm)
    (window : Nat) :
    data.countsAt algorithm ⟨.whole k, norm, window⟩ i =
      unlessRefused (Window.refusal? window k data.size i)
        (data.pointCounts algorithm norm window k i) := by
  rw [countsAt_of_isAligned hAligned hPoint,
    Window.refusal?]
  by_cases hFew :
      (Window.admissible window i data.size).length < k
  · rw [if_pos (by omega), if_pos hFew]
    rfl
  · rw [if_neg (by omega), if_neg hFew]
    cases algorithm with
    | first => exact Counts.ofSeparations_first hPos _
    | second => exact Counts.ofSeparations_second hPos _

/- A point with enough admissible points is not refused. -/
theorem countsAt_of_enough
    {data : Observations α}
    (hAligned : data.IsAligned)
    {i : Nat}
    (hPoint : i < data.size)
    {k : Nat}
    (hPos : 1 ≤ k)
    (algorithm : Algorithm)
    (norm : Norm)
    {window : Nat}
    (hEnough :
      k ≤ (Window.admissible window i data.size).length) :
    data.countsAt algorithm ⟨.whole k, norm, window⟩ i =
      .ok (data.pointCounts algorithm norm window k i) := by
  rw [countsAt_eq_unlessRefused hAligned hPoint hPos,
    Window.refusal?, if_neg (Nat.not_lt.mpr hEnough)]
  rfl

end Observations

end NeighbourInfo

------------------------------------------------------------
-- Blocks
------------------------------------------------------------

namespace NeighbourInfo

namespace Block

/- The points of a block that begins at a point. -/
theorem points_natCast
    (start : Nat)
    (m : Nat) :
    (⟨start, m⟩ : Block).points =
      (List.range' start m).map Int.ofNat := by
  rw [points, List.range'_eq_map_range, List.map_map]
  rfl

end Block

namespace Value

/- A number of rows is a word. -/
theorem isWord_of_lt
    {n : Nat}
    (hBits : n < 2 ^ 63) :
    isWord (n : Int) := by
  simp only [isWord, Bool.and_eq_true, decide_eq_true_eq]
  omega

end Value

namespace Kernel

variable {α : Type} [Scalar α]
variable {config : Config α}
variable {k : Nat} {norm : Norm} {window : Nat}

/- The counts of a block among aligned observations. -/
theorem blockCounts_of_isAligned
    (hSearch : config.search = ⟨.whole k, norm, window⟩)
    (hPos : 1 ≤ k)
    {data : Observations α}
    (hAligned : data.IsAligned)
    {start m : Nat}
    (hBlock : start + m ≤ data.size) :
    blockCounts config data ⟨start, m⟩ =
      unlessRefused
        ((List.range' start m).findSome?
          (Window.refusal? window k data.size))
        ((List.range' start m).map
          (data.pointCounts config.algorithm norm window
            k)) := by
  have hLength : ¬ (m : Int) < 0 := by omega
  rw [blockCounts, if_neg hLength, hSearch,
    Block.points_natCast, List.mapM_map]
  apply mapM_unlessRefused
  intro i hI
  have hPoint : i < data.size := by
    have hEnd := (List.mem_range'_1.mp hI).2
    omega
  exact
    Observations.countsAt_eq_unlessRefused hAligned hPoint
      hPos _ _ _

/- The sums over a block among aligned observations. -/
theorem sums_counting
    (hSearch : config.search = ⟨.whole k, norm, window⟩)
    (hPos : 1 ≤ k)
    {data : Observations α}
    (hAligned : data.IsAligned)
    {start m : Nat}
    (hBlock : start + m ≤ data.size) :
    counting.sums config data ⟨start, m⟩ =
      unlessRefused
        ((List.range' start m).findSome?
          (Window.refusal? window k data.size))
        (Sums.ofCounts config.algorithm
          ((List.range' start m).map
            (data.pointCounts config.algorithm norm window
              k))) := by
  simp only [counting,
    blockCounts_of_isAligned hSearch hPos hAligned hBlock]
  cases (List.range' start m).findSome?
      (Window.refusal? (α := α) window k data.size) with
  | some e => rfl
  | none => rfl

/- A block with a refused point has no local values. -/
theorem locals_counting_of_refused
    (hSearch : config.search = ⟨.whole k, norm, window⟩)
    (hPos : 1 ≤ k)
    {data : Observations α}
    (hAligned : data.IsAligned)
    {start m : Nat}
    (hBlock : start + m ≤ data.size)
    {e : Error α}
    (hRefused :
      (List.range' start m).findSome?
          (Window.refusal? window k data.size) =
        some e) :
    counting.locals config data ⟨start, m⟩ = .error e := by
  simp only [counting,
    blockCounts_of_isAligned hSearch hPos hAligned hBlock,
    hRefused]
  rfl

/- A positive word is taken by the formula of either kind. -/
private theorem neighbours_of_lt
    (hSearch : config.search = ⟨.whole k, norm, window⟩)
    (hPos : 1 ≤ k)
    (hBits : k < 2 ^ 63) :
    neighbours config = .ok (Scalar.ofNat k) := by
  have hWord := Value.isWord_of_lt hBits
  have hDivisor :
      config.algorithm.checkDivisor
          ((Value.whole k : Value α).equalsInt 0) =
        (.ok () : Except (Error α) Unit) := by
    cases config.algorithm with
    | first => rfl
    | second =>
        have hNonzero : k ≠ 0 := by omega
        simp [Algorithm.checkDivisor, hNonzero]
  simp only [neighbours, hSearch, Value.toArgument, hWord,
    if_true, hDivisor]
  rfl

/- The local values of a block among aligned observations. -/
theorem locals_counting
    (hSearch : config.search = ⟨.whole k, norm, window⟩)
    (hPos : 1 ≤ k)
    (hBits : k < 2 ^ 63)
    {data : Observations α}
    (hAligned : data.IsAligned)
    {start m : Nat}
    (hBlock : start + m ≤ data.size) :
    counting.locals config data ⟨start, m⟩ =
      unlessRefused
        ((List.range' start m).findSome?
          (Window.refusal? window k data.size))
        ((List.range' start m).map fun i =>
          Counts.localValue config.algorithm (Scalar.ofNat k)
            (data.pointCounts config.algorithm norm window k
              i)) := by
  simp only [counting,
    blockCounts_of_isAligned hSearch hPos hAligned hBlock,
    neighbours_of_lt hSearch hPos hBits]
  cases (List.range' start m).findSome?
      (Window.refusal? (α := α) window k data.size) with
  | some e => rfl
  | none =>
      change Except.ok _ = Except.ok _
      rw [List.map_map]
      rfl

end Kernel

end NeighbourInfo

------------------------------------------------------------
-- The First Algorithm
------------------------------------------------------------

namespace NeighbourInfo

namespace Window

variable {α : Type}
variable {window k n : Nat}

/- No point of a block is refused if all have enough. -/
theorem findSome?_refusal_eq_none
    {points : List Nat}
    (hEnough :
      ∀ i ∈ points, k ≤ (admissible window i n).length) :
    points.findSome? (refusal? (α := α) window k n) = none := by
  rw [List.findSome?_eq_none_iff]
  intro i hI
  have hMany := hEnough i hI
  rw [refusal?, if_neg (by omega)]

end Window

namespace Observations

variable {α : Type} [Scalar α]

/- Enough numbers, where all of enough distances are. -/
theorem le_countP_hasNumber
    {norm : Norm}
    {window k : Nat}
    {data : Observations α}
    {i : Nat}
    (hEnough :
      k ≤ (Window.admissible window i data.size).length)
    (hNumbers :
      ∀ j ∈ Window.admissible window i data.size,
        (data.separation norm i j).HasNumber) :
    k ≤ (data.others norm window i).countP fun s =>
      s.HasNumber := by
  have hAll :
      ∀ s ∈ data.others norm window i,
        decide s.HasNumber := by
    refine List.forall_mem_map.mpr ?_
    intro j hJ
    exact decide_eq_true (hNumbers j hJ)
  rw [List.countP_eq_length.mpr hAll, length_others]
  exact hEnough

/- The counts of points strictly inside of a radius. -/
def countsInside
    (norm : Norm)
    (window : Nat)
    (data : Observations α)
    (i : Nat)
    (e : α) :
    Counts :=
  let points := Window.admissible window i data.size
  let d := data.separation norm i
  ⟨points.countP fun j =>
      Scalar.lt (d j).z e && Scalar.lt (d j).x e,
    points.countP fun j =>
      Scalar.lt (d j).z e && Scalar.lt (d j).y e,
    points.countP fun j => Scalar.lt (d j).z e⟩

theorem inside_others
    (norm : Norm)
    (window : Nat)
    (data : Observations α)
    (i : Nat)
    (e : α) :
    Counts.inside e (data.others norm window i) =
      data.countsInside norm window i e := by
  simp only [Counts.inside, Counts.ofTests, others,
    List.countP_map]
  rfl

end Observations

namespace Sums

theorem ofCount_map
    {β : Type}
    (count : Counts → Nat)
    (counts : β → Counts)
    (points : List β) :
    ofCount count (points.map counts) =
      (points.map fun p => count (counts p)).sum := by
  induction points with
  | nil => rfl
  | cons p points ih =>
      rw [List.map_cons, ofCount, ih, List.map_cons,
        List.sum_cons]

end Sums

namespace Kernel

variable {α : Type} [Scalar α] [Scalar.LawfulOrder α]

/-
  The first algorithm by its definition.  At each point of a
  block there is one radius that is attained, with fewer than
  `k` joint distances less than it and at least `k` up to it.
  The points strictly inside of that radius are counted, and
  the kernel gives the sums over the block, or the local value
  of each point at its position in the block.
-/
theorem counting_first
    {data : Observations α}
    (hAligned : data.IsAligned)
    (hSize : data.size < 2 ^ 63)
    (norm : Norm)
    (window : Nat)
    {k : Nat}
    (hPos : 1 ≤ k)
    (threads : ThreadCount)
    (debug : Bool)
    {start m : Nat}
    (hBlock : start + m ≤ data.size)
    (hEnough :
      ∀ i, start ≤ i → i < start + m →
        k ≤ (Window.admissible window i data.size).length)
    (hNumbers :
      ∀ i, start ≤ i → i < start + m →
        ∀ j ∈ Window.admissible window i data.size,
          (data.separation norm i j).HasNumber) :
    let config : Config α :=
      ⟨.first, ⟨.whole k, norm, window⟩, threads, debug⟩
    ∃ e : Nat → α,
      (∀ i, start ≤ i → i < start + m →
        let points := Window.admissible window i data.size
        let joint j := (data.separation norm i j).joint
        let IsKth (r : α) : Prop :=
          (∃ j ∈ points, joint j = r) ∧
          (points.countP fun j => Scalar.lt (joint j) r) < k ∧
          k ≤ points.countP fun j => Scalar.le (joint j) r
        IsKth (e i) ∧ ∀ r, IsKth r → Scalar.eq r (e i)) ∧
      let counts i := data.countsInside norm window i (e i)
      let ψ (n : Nat) : α := Scalar.digamma (Scalar.ofNat n)
      let terms i :=
        ψ ((counts i).z + 1) - ψ ((counts i).xz + 1) -
          ψ ((counts i).yz + 1)
      let block := List.range' start m
      counting.sums config data ⟨start, m⟩ =
        .ok
          ⟨Scalar.sum (block.map terms),
            Scalar.ofNat (block.map fun i => (counts i).xz).sum,
            Scalar.ofNat (block.map fun i => (counts i).yz).sum,
            Scalar.ofNat (block.map fun i => (counts i).z).sum,
            0, 0⟩ ∧
      (0 < m →
        ∃ values,
          counting.locals config data ⟨start, m⟩ =
              .ok values ∧
            values.length = m ∧
            ∀ p < m,
              values[p]? = some (ψ k + terms (start + p))) := by
  intro config
  have hSearch :
      config.search = ⟨.whole k, norm, window⟩ := rfl
  have hNone :
      (List.range' start m).findSome?
          (Window.refusal? (α := α) window k data.size) =
        none := by
    apply Window.findSome?_refusal_eq_none
    intro i hI
    rcases List.mem_range'_1.mp hI with ⟨hFirst, hLast⟩
    exact hEnough i hFirst hLast
  have hCounts :
      ∀ i, data.pointCounts config.algorithm norm window k i =
        data.countsInside norm window i
          (Separation.radius k (data.others norm window i)) :=
    fun i => data.inside_others norm window i _
  refine
    ⟨fun i => Separation.radius k (data.others norm window i),
      ?_, ?_, ?_⟩
  · intro i hFirst hLast points joint IsKth
    have hNumbered :=
      Observations.le_countP_hasNumber
        (hEnough i hFirst hLast) (hNumbers i hFirst hLast)
    have hRadius :=
      Separation.isRadius_radius hPos hNumbered
    refine
      ⟨⟨?_, Separation.isRadius_map_iff.mp hRadius⟩, ?_⟩
    · rcases
          Separation.exists_joint_eq_radius hPos hNumbered with
        ⟨s, hS, -, hJoint⟩
      rcases List.mem_map.mp hS with ⟨j, hJ, rfl⟩
      exact ⟨j, hJ, hJoint⟩
    · rintro r ⟨-, hR⟩
      exact
        (Separation.isRadius_map_iff.mpr hR).eq hPos hRadius
  · rw [sums_counting hSearch hPos hAligned hBlock, hNone,
      unlessRefused_none]
    simp only [Sums.ofCounts, Sums.ofCount_map, List.map_map,
      Function.comp_def, hCounts]
    rfl
  · intro hSome
    have hBits : k < 2 ^ 63 := by
      calc
        k ≤ (Window.admissible window start data.size).length :=
          hEnough start (Nat.le_refl _) (by omega)
        _ ≤ data.size := Window.length_admissible_le _ _ _
        _ < 2 ^ 63 := hSize
    rw [locals_counting hSearch hPos hBits hAligned hBlock,
      hNone, unlessRefused_none]
    refine ⟨_, rfl, by simp, ?_⟩
    intro p hP
    simp only [List.getElem?_map, List.getElem?_range' hP,
      Option.map_some, hCounts]
    rw [Nat.one_mul]
    rfl

/- Two points in the middle of four points of doubles. -/
theorem counting_first_doubles :
    let data : Observations Float :=
      ⟨⟨1, [[0], [1], [3], [4]]⟩, ⟨1, [[0], [2], [1], [5]]⟩,
        ⟨1, [[0], [0], [1], [1]]⟩⟩
    let config : Config Float :=
      ⟨.first, ⟨.whole 2, .maximum, 0⟩, .count 1, false⟩
    data.IsAligned ∧ 1 + 2 ≤ data.size ∧
      (∀ i, 1 ≤ i → i < 1 + 2 →
        2 ≤ (Window.admissible 0 i data.size).length) ∧
      (∀ i, 1 ≤ i → i < 1 + 2 →
        ∀ j ∈ Window.admissible 0 i data.size,
          (data.separation .maximum i j).HasNumber) ∧
      ∃ values,
        counting.locals config data ⟨1, 2⟩ = .ok values ∧
          values.length = 2 := by
  intro data config
  have hAligned : data.IsAligned := ⟨by decide, by decide⟩
  have hEnough :
      ∀ i, 1 ≤ i → i < 1 + 2 →
        2 ≤ (Window.admissible 0 i data.size).length := by
    decide +kernel
  have hNumbers :
      ∀ i, 1 ≤ i → i < 1 + 2 →
        ∀ j ∈ Window.admissible 0 i data.size,
          (data.separation .maximum i j).HasNumber := by
    decide +kernel
  rcases
      counting_first hAligned (by decide) .maximum 0 (by decide)
        (.count 1) false (by decide) hEnough hNumbers with
    ⟨e, -, -, hLocals⟩
  rcases hLocals (by decide) with
    ⟨values, hValues, hLength, -⟩
  exact
    ⟨hAligned, by decide, hEnough, hNumbers, values, hValues,
      hLength⟩

end Kernel

end NeighbourInfo
