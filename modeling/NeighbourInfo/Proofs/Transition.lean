import NeighbourInfo.Transition

/-
  What operations leave alone, keep true and depend on, and
  which of them may be exchanged.

  Key definitions include:
    * `NeighbourInfo.Transition.Leaves`
    * `NeighbourInfo.Transition.Keeps`
    * `NeighbourInfo.Transition.DependsOn`
    * `NeighbourInfo.Transition.IsAtomic`
    * `NeighbourInfo.Transition.Respects`
    * `NeighbourInfo.Transition.Commutes`

  An operation that is made of others leaves alone what all of
  them leave alone, whether it succeeds or fails on the way.
  In the same way it keeps what all of them keep true, and
  depends on no more than they depend on.  That it takes
  effect as a whole or not at all is not passed on like this:
  what comes first must change nothing, or what comes next
  must not fail.  A change that all of its parts respect is
  respected, and may as well be made afterwards.

  This is proven by:
    * `NeighbourInfo.Transition.exists_of_bind_ok`
    * `NeighbourInfo.Transition.Leaves.bind`
    * `NeighbourInfo.Transition.Keeps.bind`
    * `NeighbourInfo.Transition.Keeps.mapM`
    * `NeighbourInfo.Transition.DependsOn.bind`
    * `NeighbourInfo.Transition.DependsOn.mapM`
    * `NeighbourInfo.Transition.IsAtomic.bind_of_leaves`
    * `NeighbourInfo.Transition.IsAtomic.bind_of_succeeds`
    * `NeighbourInfo.Transition.Respects.bind`
    * `NeighbourInfo.Transition.commutes_of_respects`
-/

------------------------------------------------------------
-- Runs
------------------------------------------------------------

namespace NeighbourInfo

namespace Transition

variable {σ α β γ : Type}

/- What only reads the state goes on from the same state. -/
theorem bind_of_read
    {t : Transition σ α β}
    {s : σ}
    {b : β}
    (hRead : t s = (⟨[], .ok b⟩, s))
    (f : β → Transition σ α γ) :
    (t >>= f) s = f b s := by
  rw [bind_ok hRead]
  rfl

@[simp]
theorem ofExcept_ok_bind
    (b : β)
    (f : β → Transition σ α γ) :
    (ofExcept (.ok b) : Transition σ α β) >>= f = f b := rfl

/- An operation that is refused does not go on. -/
@[simp]
theorem ofExcept_error_bind
    (e : Error α)
    (f : β → Transition σ α γ)
    (s : σ) :
    ((ofExcept (.error e) : Transition σ α β) >>= f) s =
      (⟨[], .error e⟩, s) := rfl

/- Where all went well, both of two parts went well. -/
theorem exists_of_bind_ok
    {t : Transition σ α β}
    {f : β → Transition σ α γ}
    {s : σ}
    {c : γ}
    (hOk : ((t >>= f) s).1.result = .ok c) :
    ∃ notes b after,
      t s = (⟨notes, .ok b⟩, after) ∧
        (f b after).1.result = .ok c := by
  rcases hRun : t s with ⟨⟨notes, e | b⟩, after⟩
  · rw [bind_error hRun] at hOk
    cases hOk
  · rw [bind_ok hRun] at hOk
    exact ⟨notes, b, after, rfl, hOk⟩

/- An answer made from the result changes nothing more. -/
theorem state_map
    (t : Transition σ α β)
    (f : β → γ)
    (s : σ) :
    ((t >>= fun b => pure (f b)) s).2 = (t s).2 := by
  rcases hRun : t s with ⟨⟨notes, _ | b⟩, after⟩
  · rw [bind_error hRun]
  · rw [bind_ok hRun]
    rfl

/- Nor does it add or take away a result. -/
theorem result_map
    (t : Transition σ α β)
    (f : β → γ)
    (s : σ) :
    ((t >>= fun b => pure (f b)) s).1.result =
      (t s).1.result.map f := by
  rcases hRun : t s with ⟨⟨notes, _ | b⟩, after⟩
  · rw [bind_error hRun]
    rfl
  · rw [bind_ok hRun]
    rfl

/- An answer that is missing was missing before. -/
theorem error_of_map
    {t : Transition σ α β}
    {f : β → γ}
    {s : σ}
    {e : Error α}
    (hError :
      ((t >>= fun b => pure (f b)) s).1.result = .error e) :
    (t s).1.result = .error e := by
  rw [result_map] at hError
  cases hRun : (t s).1.result with
  | error e' =>
      rw [hRun] at hError
      cases hError
      rfl
  | ok b =>
      rw [hRun] at hError
      cases hError

end Transition

end NeighbourInfo

------------------------------------------------------------
-- Frames
------------------------------------------------------------

namespace NeighbourInfo

namespace Transition

variable {σ τ α β γ : Type}
variable {view : σ → τ}

/-
  The operation leaves alone what is seen of the state in some
  view, in success as in failure.
-/
def Leaves
    (view : σ → τ)
    (t : Transition σ α β) :
    Prop :=
  ∀ s, view (t s).2 = view s

theorem leaves_report
    (r : Report α β) :
    Leaves view (report r : Transition σ α β) :=
  fun _ => rfl

theorem leaves_pure
    (b : β) :
    Leaves view (pure b : Transition σ α β) :=
  leaves_report _

theorem leaves_ofExcept
    (result : Except (Error α) β) :
    Leaves view (ofExcept result : Transition σ α β) :=
  leaves_report _

/- What both parts of an operation leave alone is left alone. -/
theorem Leaves.bind
    {t : Transition σ α β}
    {f : β → Transition σ α γ}
    (hFirst : Leaves view t)
    (hSecond : ∀ b, Leaves view (f b)) :
    Leaves view (t >>= f) := by
  intro s
  have hBefore := hFirst s
  rcases hRun : t s with ⟨⟨notes, _ | b⟩, after⟩
  · rw [hRun] at hBefore
    rw [bind_error hRun]
    exact hBefore
  · rw [hRun] at hBefore
    rw [bind_ok hRun]
    exact (hSecond b after).trans hBefore

/- An answer made from the result changes nothing more. -/
theorem Leaves.map
    {t : Transition σ α β}
    (hFirst : Leaves view t)
    (f : β → γ) :
    Leaves view (t >>= fun b => pure (f b)) :=
  hFirst.bind fun b => leaves_pure (f b)

end Transition

end NeighbourInfo

------------------------------------------------------------
-- Invariants
------------------------------------------------------------

namespace NeighbourInfo

namespace Transition

variable {σ α β γ : Type} {inv : σ → Prop}

/- The operation keeps something true, even where it fails. -/
def Keeps
    (inv : σ → Prop)
    (t : Transition σ α β) :
    Prop :=
  ∀ s, inv s → inv (t s).2

theorem keeps_report
    (r : Report α β) :
    Keeps inv (report r : Transition σ α β) :=
  fun _ hInv => hInv

theorem keeps_pure
    (b : β) :
    Keeps inv (pure b : Transition σ α β) :=
  keeps_report _

theorem Keeps.bind
    {t : Transition σ α β}
    {f : β → Transition σ α γ}
    (hFirst : Keeps inv t)
    (hSecond : ∀ b, Keeps inv (f b)) :
    Keeps inv (t >>= f) := by
  intro s hInv
  have hBetween := hFirst s hInv
  rcases hRun : t s with ⟨⟨notes, _ | b⟩, after⟩
  · rw [hRun] at hBetween
    rw [bind_error hRun]
    exact hBetween
  · rw [hRun] at hBetween
    rw [bind_ok hRun]
    exact hSecond b after hBetween

/- What each run of a loop keeps is kept by the loop. -/
theorem Keeps.mapM
    {f : β → Transition σ α γ}
    (hEach : ∀ b, Keeps inv (f b))
    (bs : List β) :
    Keeps inv (bs.mapM f) := by
  induction bs with
  | nil => exact keeps_pure []
  | cons b bs ih =>
      rw [List.mapM_cons]
      refine (hEach b).bind fun c => ?_
      exact ih.bind fun cs => keeps_pure (c :: cs)

end Transition

end NeighbourInfo

------------------------------------------------------------
-- Two Runs
------------------------------------------------------------

namespace NeighbourInfo

namespace Transition

variable {σ τ α β γ : Type}
variable {view : σ → τ}

/- What is left alone is kept as it happens to be. -/
theorem leaves_of_keeps
    {t : Transition σ α β}
    (hKeeps : ∀ seen, Keeps (fun s => view s = seen) t) :
    Leaves view t :=
  fun s => hKeeps (view s) s rfl

/-
  What the operation answers, and what is seen of the state
  afterwards, depends on no more than was seen of it before.
-/
def DependsOn
    (view : σ → τ)
    (t : Transition σ α β) :
    Prop :=
  ∀ s s', view s = view s' →
    (t s).1 = (t s').1 ∧ view (t s).2 = view (t s').2

theorem dependsOn_report
    (r : Report α β) :
    DependsOn view (report r : Transition σ α β) :=
  fun _ _ hSeen => ⟨rfl, hSeen⟩

theorem dependsOn_pure
    (b : β) :
    DependsOn view (pure b : Transition σ α β) :=
  dependsOn_report _

theorem dependsOn_ofExcept
    (result : Except (Error α) β) :
    DependsOn view (ofExcept result : Transition σ α β) :=
  dependsOn_report _

/- The second part starts from states that look the same. -/
theorem DependsOn.bind
    {t : Transition σ α β}
    {f : β → Transition σ α γ}
    (hFirst : DependsOn view t)
    (hSecond : ∀ b, DependsOn view (f b)) :
    DependsOn view (t >>= f) := by
  intro s s' hSeen
  rcases hFirst s s' hSeen with ⟨hReport, hBetween⟩
  rcases hRun : t s with ⟨⟨notes, e | b⟩, after⟩
  · rcases hRun' : t s' with ⟨r, after'⟩
    rw [hRun, hRun'] at hReport hBetween
    cases hReport
    rw [bind_error hRun, bind_error hRun']
    exact ⟨rfl, hBetween⟩
  · rcases hRun' : t s' with ⟨r, after'⟩
    rw [hRun, hRun'] at hReport hBetween
    cases hReport
    rcases hSecond b after after' hBetween with
      ⟨hNext, hAfter⟩
    rw [bind_ok hRun, bind_ok hRun', hNext]
    exact ⟨rfl, hAfter⟩

/- An answer made from the result depends on nothing more. -/
theorem DependsOn.map
    {t : Transition σ α β}
    (hFirst : DependsOn view t)
    (f : β → γ) :
    DependsOn view (t >>= fun b => pure (f b)) :=
  hFirst.bind fun b => dependsOn_pure (f b)

/- What goes on by the present state goes on by what is seen. -/
theorem dependsOn_bind_current
    {f : σ → Transition σ α β}
    (hSame : ∀ s s', view s = view s' → f s = f s')
    (hEach : ∀ s, DependsOn view (f s)) :
    DependsOn view (current >>= f) := by
  intro s s' hSeen
  have hRead (s : σ) :
      (current : Transition σ α σ) s = (⟨[], .ok s⟩, s) := rfl
  rw [bind_of_read (hRead s), bind_of_read (hRead s'),
    hSame s s' hSeen]
  exact hEach s' s s' hSeen

/- A loop depends on no more than each of its runs. -/
theorem DependsOn.mapM
    {f : β → Transition σ α γ}
    (hEach : ∀ b, DependsOn view (f b))
    (bs : List β) :
    DependsOn view (bs.mapM f) := by
  induction bs with
  | nil => exact dependsOn_pure []
  | cons b bs ih =>
      rw [List.mapM_cons]
      refine (hEach b).bind fun c => ?_
      exact ih.bind fun cs => dependsOn_pure (c :: cs)

/- A change succeeds or fails by what is seen of the state. -/
theorem dependsOn_change
    {f : σ → Except (Error α) (β × σ)}
    (hSame :
      ∀ s s', view s = view s' →
        (f s).map (Prod.map id view) =
          (f s').map (Prod.map id view)) :
    DependsOn view (change f) := by
  intro s s' hSeen
  have hOutcome := hSame s s' hSeen
  rcases hRun : f s with e | ⟨b, after⟩
  · rcases hRun' : f s' with e' | ⟨b', after'⟩
    · rw [hRun, hRun'] at hOutcome
      cases hOutcome
      rw [change_error hRun, change_error hRun']
      exact ⟨rfl, hSeen⟩
    · rw [hRun, hRun'] at hOutcome
      cases hOutcome
  · rcases hRun' : f s' with e' | ⟨b', after'⟩
    · rw [hRun, hRun'] at hOutcome
      cases hOutcome
    · rw [hRun, hRun'] at hOutcome
      rcases Prod.mk.inj (Except.ok.inj hOutcome) with
        ⟨hResult, hAfter⟩
      change b = b' at hResult
      rw [change_ok hRun, change_ok hRun', hResult]
      exact ⟨rfl, hAfter⟩

end Transition

end NeighbourInfo

------------------------------------------------------------
-- Operations That Fail As A Whole
------------------------------------------------------------

namespace NeighbourInfo

namespace Transition

variable {σ α β γ : Type}

/- Where the operation fails, the state is as it was before. -/
def IsAtomic
    (t : Transition σ α β) :
    Prop :=
  ∀ s e, (t s).1.result = .error e → (t s).2 = s

/- What changes nothing fails as a whole. -/
theorem Leaves.isAtomic
    {t : Transition σ α β}
    (hLeaves : Leaves id t) :
    IsAtomic t :=
  fun s _ _ => hLeaves s

theorem isAtomic_change
    (f : σ → Except (Error α) (β × σ)) :
    IsAtomic (change f) := by
  intro s e hError
  rcases hRun : f s with e' | ⟨b, after⟩
  · rw [change_error hRun]
  · rw [change_ok hRun] at hError
    exact absurd hError (by simp)

/- Nothing is changed before the part that may fail. -/
theorem IsAtomic.bind_of_leaves
    {t : Transition σ α β}
    {f : β → Transition σ α γ}
    (hFirst : Leaves id t)
    (hSecond : ∀ b, IsAtomic (f b)) :
    IsAtomic (t >>= f) := by
  intro s e hError
  have hBefore : (t s).2 = s := hFirst s
  rcases hRun : t s with ⟨⟨notes, _ | b⟩, after⟩
  · rw [hRun] at hBefore
    rw [bind_error hRun]
    exact hBefore
  · rw [hRun] at hBefore
    rw [bind_ok hRun] at hError ⊢
    exact (hSecond b after e hError).trans hBefore

/- Nothing fails after the part that changes the state. -/
theorem IsAtomic.bind_of_succeeds
    {t : Transition σ α β}
    {f : β → Transition σ α γ}
    (hFirst : IsAtomic t)
    (hSecond : ∀ b s, ∃ c, (f b s).1.result = .ok c) :
    IsAtomic (t >>= f) := by
  intro s e hError
  rcases hRun : t s with ⟨⟨notes, e' | b⟩, after⟩
  · have hBefore := hFirst s e' (by rw [hRun])
    rw [hRun] at hBefore
    rw [bind_error hRun]
    exact hBefore
  · rw [bind_ok hRun] at hError
    rcases hSecond b after with ⟨c, hOk⟩
    rw [hOk] at hError
    exact absurd hError (by simp)

/- An answer made from the result alone adds no failure. -/
theorem IsAtomic.map
    {t : Transition σ α β}
    (hFirst : IsAtomic t)
    (f : β → γ) :
    IsAtomic (t >>= fun b => pure (f b)) :=
  hFirst.bind_of_succeeds fun b _ => ⟨f b, rfl⟩

end Transition

end NeighbourInfo

------------------------------------------------------------
-- Operations In Either Order
------------------------------------------------------------

namespace NeighbourInfo

namespace Transition

variable {σ α β γ : Type} {f : σ → σ}

/-
  To change the state before the operation is the same as to
  change it afterwards.
-/
def Respects
    (f : σ → σ)
    (t : Transition σ α β) :
    Prop :=
  ∀ s, t (f s) = ((t s).1, f (t s).2)

theorem respects_id
    (t : Transition σ α β) :
    Respects id t :=
  fun _ => rfl

theorem respects_report
    (r : Report α β) :
    Respects f (report r : Transition σ α β) :=
  fun _ => rfl

theorem respects_pure
    (b : β) :
    Respects f (pure b : Transition σ α β) :=
  respects_report _

theorem respects_ofExcept
    (result : Except (Error α) β) :
    Respects f (ofExcept result : Transition σ α β) :=
  respects_report _

/- What both parts of an operation respect is respected. -/
theorem Respects.bind
    {t : Transition σ α β}
    {g : β → Transition σ α γ}
    (hFirst : Respects f t)
    (hSecond : ∀ b, Respects f (g b)) :
    Respects f (t >>= g) := by
  intro s
  have hBetween := hFirst s
  rcases hRun : t s with ⟨⟨notes, e | b⟩, after⟩
  · rw [hRun] at hBetween
    rw [bind_error hBetween, bind_error hRun]
  · rw [hRun] at hBetween
    rw [bind_ok hBetween, bind_ok hRun, hSecond b after]

theorem Respects.map
    {t : Transition σ α β}
    (hFirst : Respects f t)
    (g : β → γ) :
    Respects f (t >>= fun b => pure (g b)) :=
  hFirst.bind fun b => respects_pure (g b)

/- What each run of a loop respects is respected by the loop. -/
theorem Respects.mapM
    {g : β → Transition σ α γ}
    (hEach : ∀ b, Respects f (g b))
    (bs : List β) :
    Respects f (bs.mapM g) := by
  induction bs with
  | nil => exact respects_pure []
  | cons b bs ih =>
      rw [List.mapM_cons]
      refine (hEach b).bind fun c => ?_
      exact ih.bind fun cs => respects_pure (c :: cs)

/- A change of the state that does not mind another one. -/
theorem respects_change
    {g : σ → Except (Error α) (β × σ)}
    (hSame :
      ∀ s, g (f s) = (g s).map fun (b, s) => (b, f s)) :
    Respects f (change g) := by
  intro s
  have hOutcome := hSame s
  rcases hRun : g s with e | ⟨b, after⟩
  · rw [hRun] at hOutcome
    rw [change_error hRun, change_error hOutcome]
  · rw [hRun] at hOutcome
    rw [change_ok hRun, change_ok hOutcome]

/-
  Both orders of the operations give the same two answers and
  end in the same state, from every state.
-/
def Commutes
    (t : Transition σ α β)
    (u : Transition σ α γ) :
    Prop :=
  ∀ s,
    (u (t s).2).1 = (u s).1 ∧
      (t (u s).2).1 = (t s).1 ∧
      (u (t s).2).2 = (t (u s).2).2

/-
  An operation that makes one and the same change before and
  after another one, which respects it, commutes with it.
-/
theorem commutes_of_respects
    {t : Transition σ α β}
    {u : Transition σ α γ}
    (hUniform :
      ∀ s, ∃ r f,
        Respects f u ∧
          t s = (r, f s) ∧ t (u s).2 = (r, f (u s).2)) :
    Commutes t u := by
  intro s
  rcases hUniform s with ⟨r, f, hRespects, hBefore, hAfter⟩
  rw [hBefore, hAfter, hRespects s]
  exact ⟨rfl, rfl, rfl⟩

end Transition

end NeighbourInfo
