import Mathlib

/-
  Results that may be refused.

  Key definitions include:
    * `NeighbourInfo.unlessRefused`

  Of several results that are computed in order the first
  refusal counts.  Keeping the reasons for it apart from the
  results, each can be described on its own.  Where nothing
  was refused, every one of the results was computed.  So it
  is where results may be missing.

  This is proven by:
    * `NeighbourInfo.mapM_unlessRefused`
    * `NeighbourInfo.exists_of_bind_eq_ok`
    * `NeighbourInfo.mapM_eq_ok_iff`
    * `NeighbourInfo.mapM_id_append_error`
    * `NeighbourInfo.map_eq_of_mapM_eq_some`
-/

------------------------------------------------------------
-- Refusals
------------------------------------------------------------

namespace NeighbourInfo

variable {ε β γ : Type}

/- A result, or in its place the reason to refuse it. -/
def unlessRefused
    (refusal : Option ε)
    (b : β) :
    Except ε β :=
  match refusal with
  | some e => .error e
  | none => .ok b

@[simp]
theorem unlessRefused_none
    (b : β) :
    unlessRefused (none : Option ε) b = .ok b := rfl

@[simp]
theorem unlessRefused_some
    (e : ε)
    (b : β) :
    unlessRefused (some e) b = .error e := rfl

@[simp]
theorem map_unlessRefused
    (refusal : Option ε)
    (b : β)
    (f : β → γ) :
    (unlessRefused refusal b).map f =
      unlessRefused refusal (f b) := by
  cases refusal with
  | some e => rfl
  | none => rfl

/- There is a result unless there is a reason to refuse it. -/
theorem exists_unlessRefused_eq_ok_iff
    {refusal : Option ε}
    {b : β} :
    (∃ c, unlessRefused refusal b = .ok c) ↔
      refusal = none := by
  cases refusal with
  | some e => simp
  | none => simp

theorem unlessRefused_eq_ok_iff
    {refusal : Option ε}
    {b c : β} :
    unlessRefused refusal b = .ok c ↔
      refusal = none ∧ b = c := by
  cases refusal with
  | some e => simp
  | none => simp

theorem unlessRefused_eq_error_iff
    {refusal : Option ε}
    {b : β}
    {e : ε} :
    unlessRefused refusal b = .error e ↔
      refusal = some e := by
  cases refusal with
  | some e' => simp
  | none => simp

/- The first refusal is the one that several results have. -/
theorem mapM_unlessRefused
    {f : β → Except ε γ}
    {refusal : β → Option ε}
    {g : β → γ}
    {bs : List β}
    (hEach : ∀ b ∈ bs, f b = unlessRefused (refusal b) (g b)) :
    bs.mapM f =
      unlessRefused (bs.findSome? refusal) (bs.map g) := by
  induction bs with
  | nil => rfl
  | cons b bs ih =>
      have hHead := hEach b List.mem_cons_self
      have hTail :=
        ih fun b hB => hEach b (List.mem_cons_of_mem _ hB)
      rw [List.mapM_cons, hHead, hTail, List.findSome?_cons]
      cases refusal b with
      | some e => rfl
      | none =>
          cases bs.findSome? refusal with
          | some e => rfl
          | none => rfl

/- Refusals of several parts are those of their points. -/
theorem findSome?_flatMap
    {points : β → List Nat}
    {refusal : Nat → Option ε}
    {bs : List β} :
    (bs.flatMap points).findSome? refusal =
      bs.findSome? fun b => (points b).findSome? refusal := by
  induction bs with
  | nil => rfl
  | cons b bs ih =>
      rw [List.flatMap_cons, List.findSome?_append, ih,
        List.findSome?_cons]
      cases (points b).findSome? refusal with
      | none => rfl
      | some e => rfl

end NeighbourInfo

------------------------------------------------------------
-- Results That Are Not Refused
------------------------------------------------------------

namespace NeighbourInfo

variable {ε β γ : Type}

/- Where all went well, both of two steps went well. -/
theorem exists_of_bind_eq_ok
    {x : Except ε β}
    {f : β → Except ε γ}
    {c : γ}
    (hOk : x >>= f = .ok c) :
    ∃ b, x = .ok b ∧ f b = .ok c := by
  cases x with
  | error e => cases hOk
  | ok b => exact ⟨b, rfl, hOk⟩

/- What is read in order has as many parts as there were. -/
theorem length_of_mapM_eq_ok
    {f : β → Except ε γ}
    {bs : List β}
    {cs : List γ}
    (hOk : bs.mapM f = .ok cs) :
    cs.length = bs.length := by
  induction bs generalizing cs with
  | nil =>
      cases hOk
      rfl
  | cons b bs ih =>
      rw [List.mapM_cons] at hOk
      rcases exists_of_bind_eq_ok hOk with ⟨c, -, hOk⟩
      rcases exists_of_bind_eq_ok hOk with ⟨rest, hRest, hOk⟩
      cases hOk
      rw [List.length_cons, List.length_cons, ih hRest]

/- Results that were not refused are read as they are. -/
theorem mapM_id_map_ok
    (bs : List β) :
    (bs.map Except.ok).mapM id =
      (.ok bs : Except ε (List β)) := by
  induction bs with
  | nil => rfl
  | cons b bs ih =>
      rw [List.map_cons, List.mapM_cons, ih]
      rfl

/- All results are computed just if none of them is refused. -/
theorem mapM_eq_ok_iff
    {f : β → Except ε γ}
    {bs : List β}
    {cs : List γ} :
    bs.mapM f = .ok cs ↔ bs.map f = cs.map .ok := by
  constructor
  · intro hOk
    induction bs generalizing cs with
    | nil =>
        cases hOk
        rfl
    | cons b bs ih =>
        rw [List.mapM_cons] at hOk
        rcases exists_of_bind_eq_ok hOk with ⟨c, hHead, hOk⟩
        rcases exists_of_bind_eq_ok hOk with ⟨rest, hRest, hOk⟩
        cases hOk
        rw [List.map_cons, List.map_cons, hHead, ih hRest]
  · intro hAll
    have hRead : (bs.map f).mapM id = bs.mapM f := List.mapM_map
    rw [← hRead, hAll, mapM_id_map_ok]

/- Each result is computed from one of the items. -/
theorem exists_of_mem_of_mapM
    {f : β → Except ε γ}
    {bs : List β}
    {cs : List γ}
    (hOk : bs.mapM f = .ok cs)
    {c : γ}
    (hMem : c ∈ cs) :
    ∃ b ∈ bs, f b = .ok c := by
  have hRead : Except.ok c ∈ bs.map f := by
    rw [mapM_eq_ok_iff.mp hOk]
    exact List.mem_map_of_mem hMem
  exact List.mem_map.mp hRead

/- Each result is computed from what it is paired with. -/
theorem eq_ok_of_mem_zip
    {f : β → Except ε γ}
    {bs : List β}
    {cs : List γ}
    (hAll : bs.map f = cs.map .ok)
    {b : β}
    {c : γ}
    (hPair : (b, c) ∈ bs.zip cs) :
    f b = .ok c := by
  induction bs generalizing cs with
  | nil => cases hPair
  | cons b' bs ih =>
      cases cs with
      | nil => cases hPair
      | cons c' cs =>
          rw [List.map_cons, List.map_cons] at hAll
          rcases List.cons_eq_cons.mp hAll with ⟨hHead, hRest⟩
          rw [List.zip_cons_cons] at hPair
          rcases List.mem_cons.mp hPair with hHere | hLater
          · cases hHere
            exact hHead
          · exact ih hRest hLater

/- Of several results the first refusal is read. -/
theorem mapM_id_append_error
    (before : List β)
    (e : ε)
    (after : List (Except ε β)) :
    (before.map Except.ok ++ Except.error e :: after).mapM id =
      (.error e : Except ε (List β)) := by
  induction before with
  | nil => rfl
  | cons b before ih =>
      rw [List.map_cons, List.cons_append, List.mapM_cons, ih]
      rfl

end NeighbourInfo

------------------------------------------------------------
-- Results That Are Missing
------------------------------------------------------------

namespace NeighbourInfo

variable {β γ : Type}

/- Where all items are found, no item is missing. -/
theorem map_eq_of_mapM_eq_some
    {f : β → Option γ}
    {bs : List β}
    {cs : List γ}
    (hAll : bs.mapM f = some cs) :
    bs.map f = cs.map some := by
  induction bs generalizing cs with
  | nil =>
      cases hAll
      rfl
  | cons b bs ih =>
      rw [List.mapM_cons] at hAll
      rcases Option.bind_eq_some_iff.mp hAll with
        ⟨c, hHead, hRest⟩
      rcases Option.bind_eq_some_iff.mp hRest with
        ⟨rest, hTail, hBoth⟩
      cases hBoth
      rw [List.map_cons, List.map_cons, hHead, ih hTail]

/- Where not all are found, some item is missing. -/
theorem exists_of_mapM_eq_none
    {f : β → Option γ}
    {bs : List β}
    (hMissing : bs.mapM f = none) :
    ∃ b ∈ bs, f b = none := by
  induction bs with
  | nil => cases hMissing
  | cons b bs ih =>
      rw [List.mapM_cons] at hMissing
      cases hHead : f b with
      | none => exact ⟨b, List.mem_cons_self, hHead⟩
      | some c =>
          cases hTail : bs.mapM f with
          | none =>
              rcases ih hTail with ⟨b', hB, hNone⟩
              exact ⟨b', List.mem_cons_of_mem _ hB, hNone⟩
          | some rest =>
              rw [hHead, hTail] at hMissing
              cases hMissing

end NeighbourInfo
