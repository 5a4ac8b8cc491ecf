import NeighbourInfo.Chance
import NeighbourInfo.Proofs.Gather

/-
  Permutations that are drawn.

  Key definitions include:
    * `NeighbourInfo.Chance.identity`
    * `NeighbourInfo.Chance.Permutes`
    * `NeighbourInfo.Chance.turning`

  Of the orders that are drawn nothing else is known than that
  each of them has all of the points, and each of these once.
  How many of them there are is up to the caller alone, as
  long as there is room for that many.

  This is proven by:
    * `NeighbourInfo.Tensor.lengths_of_checkSizes`
    * `NeighbourInfo.Chance.permutations?_of_ok`
    * `NeighbourInfo.Chance.Permutes.perm_of_mem`
-/

------------------------------------------------------------
-- Room
------------------------------------------------------------

namespace NeighbourInfo

namespace Tensor

variable {α : Type} {lengths : List Int}

/- An axis of a negative length is refused, wherever it is. -/
private theorem nonneg_of_checkBytes
    {bytes : Int}
    (hBytes : checkBytes (α := α) bytes lengths = .ok ()) :
    ∀ n ∈ lengths, 0 ≤ n := by
  induction lengths generalizing bytes with
  | nil => simp
  | cons m ms ih =>
      rw [checkBytes] at hBytes
      rw [List.forall_mem_cons]
      by_cases hNone : m = 0
      · rw [if_pos hNone] at hBytes
        exact ⟨by omega, ih hBytes⟩
      · rw [if_neg hNone] at hBytes
        by_cases hNegative : m < 0
        · rw [if_pos hNegative] at hBytes
          cases hBytes
        · rw [if_neg hNegative] at hBytes
          split at hBytes
          · cases hBytes
          · exact ⟨by omega, ih hBytes⟩

/- What there is room for has words without sign as lengths. -/
theorem lengths_of_checkSizes
    {room : Int}
    (hRoom : checkSizes (α := α) room lengths = .ok ()) :
    ∀ n ∈ lengths, 0 ≤ n ∧ n < 2 ^ 63 := by
  unfold checkSizes at hRoom
  split at hRoom
  · next hWords =>
      intro n hN
      have hBytes : checkBytes (α := α) 8 lengths = .ok () := by
        cases hChecked : checkBytes (α := α) 8 lengths with
        | error e =>
            rw [hChecked] at hRoom
            cases hRoom
        | ok _ => rfl
      have hIndex : IsIndex n :=
        of_decide_eq_true (List.all_eq_true.mp hWords n hN)
      exact ⟨nonneg_of_checkBytes hBytes n hN, hIndex.2⟩
  · cases hRoom

end Tensor

end NeighbourInfo

------------------------------------------------------------
-- Permutations
------------------------------------------------------------

namespace NeighbourInfo

namespace Chance

/- The order that `n` points are in already. -/
def identity
    (n : Nat) :
    List Int :=
  (List.range n).map Int.ofNat

section Permutation

variable {n : Nat} {p : List Int}
variable (hPerm : p.Perm (identity n))
include hPerm

theorem length_of_perm :
    p.length = n := by
  rw [hPerm.length_eq, identity, List.length_map,
    List.length_range]

/- The entries of a permutation are the numbers below `n`. -/
theorem mem_iff_of_perm
    {i : Int} :
    i ∈ p ↔ 0 ≤ i ∧ i < n := by
  rw [hPerm.mem_iff, identity, List.mem_map]
  constructor
  · rintro ⟨j, hJ, rfl⟩
    have hBound := List.mem_range.mp hJ
    exact ⟨Int.natCast_nonneg j, Int.ofNat_lt.mpr hBound⟩
  · rintro ⟨hLow, hHigh⟩
    refine ⟨i.toNat, List.mem_range.mpr ?_, ?_⟩
    · omega
    · exact Int.toNat_of_nonneg hLow

theorem isWithin_of_perm :
    ∀ i ∈ p, Table.IsWithin n i := by
  intro i hI
  have hBounds := (mem_iff_of_perm hPerm).mp hI
  exact ⟨by omega, hBounds.2⟩

theorem nodup_of_perm :
    p.Nodup := by
  rw [hPerm.nodup_iff, identity]
  exact List.nodup_range.map Int.ofNat_injective

end Permutation

end Chance

end NeighbourInfo

------------------------------------------------------------
-- Drawing
------------------------------------------------------------

namespace NeighbourInfo

namespace Chance

variable {α : Type}

/-
  Whichever order of `n` points is drawn, every point is in it
  once.
-/
def Permutes
    (n : Nat)
    (c : Chance α) :
    Prop :=
  ∀ number, (c.orders n number).Perm (identity n)

/- Turn the points on by one more place in every draw. -/
def turning
    (room : Int) :
    Chance α where
  normals := []
  orders n number := (identity n).rotate (number + 1)
  room := room
  drawn := 0
  shuffles := 0

theorem permutes_turning
    (n : Nat)
    (room : Int) :
    (turning room : Chance α).Permutes n :=
  fun number => List.rotate_perm (identity n) (number + 1)

@[simp]
theorem length_permutations
    (c : Chance α)
    (n count : Nat) :
    (c.permutations n count).1.length = count := by
  simp [permutations]

/- As many are drawn as were asked for, by a whole number. -/
theorem length_permutations_toNat
    (c : Chance α)
    (n : Nat)
    {count : Int}
    (hCount : 0 ≤ count) :
    ((c.permutations n count.toNat).1.length : Int) =
      count := by
  rw [length_permutations]
  exact Int.toNat_of_nonneg hCount

/- Every draw is an order, however many were drawn before. -/
theorem Permutes.perm_of_mem
    {c : Chance α}
    {n : Nat}
    (hPermutes : c.Permutes n)
    (count : Nat) :
    ∀ p ∈ (c.permutations n count).1, p.Perm (identity n) := by
  refine List.forall_mem_map.mpr ?_
  intro ahead _
  exact hPermutes (c.shuffles + ahead)

section Room

variable {c : Chance α} {n count : Int}

/- Nothing is drawn where there is no room for it. -/
theorem permutations?_of_error
    {e : Error α}
    (hRoom : Tensor.checkSizes c.room [count, n] = .error e) :
    c.permutations? n count = .error e := by
  rw [permutations?, hRoom]
  rfl

theorem permutations?_of_ok
    (hRoom : Tensor.checkSizes (α := α) c.room [count, n] =
      .ok ()) :
    c.permutations? n count =
      .ok (c.permutations n.toNat count.toNat) := by
  rw [permutations?, hRoom]
  rfl

end Room

end Chance

end NeighbourInfo
