import NeighbourInfo.Proofs.Search

/-
  How many points are admissible to a point.

  A window is cut off at both ends of the points, so that the
  points near an end lose fewer neighbours than the ones in
  the middle do.  Whether all points have enough neighbours is
  therefore decided in the middle.

  This is proven by:
    * `NeighbourInfo.Window.length_admissible`
    * `NeighbourInfo.Window.forall_le_length_admissible_iff`
-/

------------------------------------------------------------
-- Sizes
------------------------------------------------------------

namespace NeighbourInfo

namespace Window

variable {window k n i : Nat}

/- Admissible are the points before a window and after it. -/
private theorem admissible_perm
    (hPoint : i < n) :
    (admissible window i n).Perm
      (List.range (i - window) ++
        List.range' (i + window + 1)
          (n - (i + window + 1))) := by
  have hNodup :
      (List.range (i - window) ++
          List.range' (i + window + 1)
            (n - (i + window + 1))).Nodup := by
    refine
      List.nodup_range.append List.nodup_range' ?_
    intro j hBefore hAfter
    rw [List.mem_range] at hBefore
    rw [List.mem_range'_1] at hAfter
    omega
  rw [List.perm_ext_iff_of_nodup
    (nodup_admissible window i n) hNodup]
  intro j
  rw [mem_admissible_iff, List.mem_append, List.mem_range,
    List.mem_range'_1]
  omega

/- A point loses itself and what of its window there is. -/
theorem length_admissible
    (hPoint : i < n) :
    (admissible window i n).length =
      n - 1 - min i window - min (n - 1 - i) window := by
  rw [(admissible_perm hPoint).length_eq, List.length_append,
    List.length_range, List.length_range']
  omega

/- A point in the middle loses a whole window or has none. -/
theorem forall_le_length_admissible_iff
    (hPos : 1 ≤ k)
    (hSome : 1 ≤ n) :
    (∀ i < n, k ≤ (admissible window i n).length) ↔
      2 * window + 1 + k ≤ n := by
  constructor
  · intro hEnough
    have hMiddle : (n - 1) / 2 < n := by omega
    have hFound := hEnough _ hMiddle
    rw [length_admissible hMiddle] at hFound
    omega
  · intro hFits i hPoint
    rw [length_admissible hPoint]
    omega

/- Where some point has too few there is a first such point. -/
theorem exists_first_length_admissible_lt
    (hPos : 1 ≤ k)
    (hSome : 1 ≤ n)
    (hFew : n < 2 * window + 1 + k) :
    ∃ i < n,
      (admissible window i n).length < k ∧
        ∀ j < i, k ≤ (admissible window j n).length := by
  have hNotAll :
      ∃ i, i < n ∧ (admissible window i n).length < k := by
    by_contra hNone
    push Not at hNone
    have hFits :=
      (forall_le_length_admissible_iff hPos hSome).mp hNone
    omega
  rcases Nat.find_spec hNotAll with ⟨hPoint, hRefused⟩
  refine ⟨Nat.find hNotAll, hPoint, hRefused, ?_⟩
  intro j hJ
  have hBefore := Nat.find_min hNotAll hJ
  by_contra hTooFew
  apply hBefore
  exact ⟨by omega, Nat.lt_of_not_le hTooFew⟩

end Window

end NeighbourInfo
