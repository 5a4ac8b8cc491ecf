import NeighbourInfo.Report

/-
  Operations that change a state.

  Key definitions include:
    * `NeighbourInfo.Transition`
    * `NeighbourInfo.Transition.update`
    * `NeighbourInfo.Transition.result`

  An operation may fail after it has changed the state.  What
  it changed until then stays changed, and what it announced
  until then stays announced.
-/

------------------------------------------------------------
-- Transitions
------------------------------------------------------------

namespace NeighbourInfo

/-
  An operation on states in `σ`: from each state it gives a
  report and the state afterwards.
-/
def Transition (σ α β : Type) :=
  σ → Report α β × σ

namespace Transition

variable {σ α β γ : Type}

/- Leave the state alone. -/
def report
    (r : Report α β) :
    Transition σ α β :=
  fun s => (r, s)

/- Go on with the result, unless there is none. -/
def andThen
    (t : Transition σ α β)
    (f : β → Transition σ α γ) :
    Transition σ α γ :=
  fun s =>
    match t s with
    | (⟨notes, .ok b⟩, s) =>
        let (next, s) := f b s
        (⟨notes ++ next.notes, next.result⟩, s)
    | (⟨notes, .error e⟩, s) => (⟨notes, .error e⟩, s)

instance : Monad (Transition σ α) where
  pure b := report (pure b)
  bind := andThen

/- A result or an error, with the state left alone. -/
def ofExcept
    (result : Except (Error α) β) :
    Transition σ α β :=
  report (.ofExcept result)

/- The present state. -/
def current :
    Transition σ α σ :=
  fun s => (pure s, s)

/- Change the state, and give a result besides. -/
def change
    (f : σ → Except (Error α) (β × σ)) :
    Transition σ α β :=
  fun s =>
    match f s with
    | .ok (b, s) => (pure b, s)
    | .error e => (.ofExcept (.error e), s)

/- Change the state, or leave it alone if that fails. -/
def update
    (f : σ → Except (Error α) σ) :
    Transition σ α Unit :=
  change fun s => (f s).map fun s => ((), s)

/- Change the state in any case. -/
def modify
    (f : σ → σ) :
    Transition σ α Unit :=
  update fun s => .ok (f s)

/- Announce something if asked to. -/
def noteWhen
    (condition : Bool)
    (notes : List (Note α)) :
    Transition σ α Unit :=
  report (.noteWhen condition notes)

end Transition

end NeighbourInfo

------------------------------------------------------------
-- Interface Lemmas
------------------------------------------------------------

namespace NeighbourInfo

namespace Transition

variable {σ α β γ δ : Type}

/- A change that fails leaves the state alone. -/
theorem change_error
    {f : σ → Except (Error α) (β × σ)}
    {s : σ}
    {e : Error α}
    (hError : f s = .error e) :
    change f s = (⟨[], .error e⟩, s) := by
  simp [change, hError, Report.ofExcept]

/- A change that succeeds changes the state. -/
theorem change_ok
    {f : σ → Except (Error α) (β × σ)}
    {s : σ}
    {b : β}
    {t : σ}
    (hOk : f s = .ok (b, t)) :
    change f s = (⟨[], .ok b⟩, t) := by
  simp [change, hOk, pure]

/- Going on after a success, from the state it left. -/
theorem bind_ok
    {t : Transition σ α β}
    {s : σ}
    {notes : List (Note α)}
    {b : β}
    {s₁ : σ}
    (hOk : t s = (⟨notes, .ok b⟩, s₁))
    (f : β → Transition σ α γ) :
    (t >>= f) s =
      (⟨notes ++ (f b s₁).1.notes, (f b s₁).1.result⟩,
        (f b s₁).2) := by
  simp only [bind, andThen, hOk]

/- Going on after a failure. -/
theorem bind_error
    {t : Transition σ α β}
    {s : σ}
    {notes : List (Note α)}
    {e : Error α}
    {s₁ : σ}
    (hError : t s = (⟨notes, .error e⟩, s₁))
    (f : β → Transition σ α γ) :
    (t >>= f) s = (⟨notes, .error e⟩, s₁) := by
  simp only [bind, andThen, hError]

/- Doing nothing with the result changes nothing. -/
theorem map_id
    (t : Transition σ α β) :
    id <$> t = t := by
  funext s
  show (t >>= fun b => pure (id b)) s = t s
  rcases hRun : t s with ⟨⟨notes, _ | b⟩, s₁⟩
  · exact bind_error hRun _
  · rw [bind_ok hRun]
    simp [pure, report]

/- It does not matter which of two steps is joined first. -/
theorem bind_bind
    (t : Transition σ α β)
    (f : β → Transition σ α γ)
    (g : γ → Transition σ α δ) :
    t >>= f >>= g = t >>= fun b => f b >>= g := by
  funext s
  rcases hFirst : t s with ⟨⟨notes, _ | b⟩, s₁⟩
  · rw [bind_error hFirst, bind_error (bind_error hFirst f)]
  · rcases hSecond : f b s₁ with ⟨⟨more, _ | c⟩, s₂⟩
    · have hBoth := bind_ok hFirst f
      rw [hSecond] at hBoth
      rw [bind_error hBoth, bind_ok hFirst,
        bind_error hSecond]
    · have hBoth := bind_ok hFirst f
      rw [hSecond] at hBoth
      rw [bind_ok hBoth, bind_ok hFirst, bind_ok hSecond]
      simp only [List.append_assoc]

/- A value alone is handed on as it is. -/
theorem pure_bind
    (b : β)
    (f : β → Transition σ α γ) :
    pure b >>= f = f b := rfl

instance : LawfulMonad (Transition σ α) :=
  LawfulMonad.mk' (Transition σ α) map_id pure_bind bind_bind

end Transition

end NeighbourInfo
