import NeighbourInfo.Proofs.Numerals
import NeighbourInfo.Proofs.Session.Soundness

/-
  Properties by their names, and settings property by property.

  Key definitions include:
    * `NeighbourInfo.Property.name`
    * `NeighbourInfo.Property.isWhole`
    * `NeighbourInfo.Settings.taking`
    * `NeighbourInfo.Settings.Same`

  What a value does to a property does not depend on the
  settings that it is given to: it is taken over as it would
  be in any others.  The text that a property is written as
  is such a value, and stands for what the property is.

  This is proven by:
    * `NeighbourInfo.Property.ofName?_eq_some_iff`
    * `NeighbourInfo.Settings.taking_comm`
    * `NeighbourInfo.Settings.set_eq_map_taking`
    * `NeighbourInfo.Settings.set_get`
-/

------------------------------------------------------------
-- Names
------------------------------------------------------------

namespace NeighbourInfo

namespace Property

/- The name of a property, in upper case. -/
def name :
    Property → String
  | .neighbours => "K"
  | .norm => "NORM_TYPE"
  | .noise => "NOISE_LEVEL_TO_ADD"
  | .threads => "NUM_THREADS"
  | .normalise => "NORMALISE"
  | .window => "DYN_CORR_EXCL"

/- The property is a whole number. -/
def isWhole :
    Property → Bool
  | .neighbours => true
  | .threads => true
  | .window => true
  | _ => false

/- No two properties are found under one name. -/
theorem ofName?_eq_some_iff
    {s : String}
    {property : Property} :
    ofName? s = some property ↔ s = property.name := by
  constructor
  · intro hFound
    unfold ofName? at hFound
    split at hFound
    all_goals
      cases hFound
      try rfl
  · rintro rfl
    cases property <;> rfl

theorem ofName?_eq_none_iff
    {s : String} :
    ofName? s = none ↔ ∀ property : Property,
      s ≠ property.name := by
  rw [Option.eq_none_iff_forall_ne_some]
  exact forall_congr' fun property =>
    not_congr ofName?_eq_some_iff

theorem name_injective :
    Function.Injective name := by
  intro property other hName
  have hFound := ofName?_eq_some_iff.mpr hName
  rw [ofName?_eq_some_iff.mpr rfl] at hFound
  exact Option.some.inj hFound

end Property

end NeighbourInfo

------------------------------------------------------------
-- Taking Over
------------------------------------------------------------

namespace NeighbourInfo

namespace Settings

variable {α : Type}

/- The settings with one property taken from others. -/
def taking
    (s : Settings α)
    (property : Property)
    (source : Settings α) :
    Settings α :=
  match property with
  | .neighbours => { s with k := source.k }
  | .norm => { s with norm := source.norm }
  | .noise => { s with noise := source.noise }
  | .threads => { s with threads := source.threads }
  | .normalise => { s with normalise := source.normalise }
  | .window => { s with window := source.window }

/- It does not matter which of two properties comes first. -/
theorem taking_comm
    {property other : Property}
    (hOther : property ≠ other)
    (source : Settings α)
    (source' : Settings α)
    (s : Settings α) :
    (s.taking property source).taking other source' =
      (s.taking other source').taking property source := by
  cases property <;> cases other
  all_goals first
    | rfl
    | exact absurd rfl hOther

variable [Scalar α] [Literal α]

/- A value means the same whatever the settings are. -/
theorem set_eq_map_taking
    (processors : Nat)
    (property : Property)
    (v : Value α)
    (s : Settings α)
    (t : Settings α) :
    s.set processors property v =
      (t.set processors property v).map fun source =>
        s.taking property source := by
  cases property with
  | neighbours => unfold set; cases readNeighbours v <;> rfl
  | norm => unfold set; cases Norm.ofValue v <;> rfl
  | noise => unfold set; cases v.toScalar <;> rfl
  | threads =>
      unfold set
      cases ThreadCount.ofValue processors v <;> rfl
  | normalise => unfold set; cases v.toTruth <;> rfl
  | window => unfold set; cases readWindow v <;> rfl

end Settings

end NeighbourInfo

------------------------------------------------------------
-- Reading Back
------------------------------------------------------------

namespace NeighbourInfo

variable {α : Type} [Scalar α]

/- The values are the same, or neither of them is a number. -/
def Scalar.Same
    (a : α)
    (b : α) :
    Prop :=
  a = b ∨ isNaN a ∧ isNaN b

/- The free form of a scalar is read as that scalar. -/
def Literal.ReadsBack
    [Literal α]
    (a : α) :
    Prop :=
  ∃ b, Literal.read? (freeText a) = some b ∧ Scalar.Same b a

/-
  The settings are the same, but that one level of noise may
  be another that is no number either.
-/
structure Settings.Same
    (s : Settings α)
    (t : Settings α) :
    Prop where
  k : s.k = t.k
  norm : s.norm = t.norm
  noise :
    s.noise = t.noise ∨
      ∃ a b, s.noise = some a ∧ t.noise = some b ∧
        Scalar.Same a b
  threads : s.threads = t.threads
  normalise : s.normalise = t.normalise
  window : s.window = t.window
  debug : s.debug = t.debug

theorem Settings.Same.refl
    (s : Settings α) :
    s.Same s :=
  ⟨rfl, rfl, .inl rfl, rfl, rfl, rfl, rfl⟩

section Texts

variable [Literal α]

omit [Scalar α] in
/- A norm is found under its own name. -/
theorem Norm.ofValue_name
    (norm : Norm) :
    Norm.ofValue (.text norm.name : Value α) = .ok norm := by
  have hWord :
      Text.upper (Text.strip norm.name) = norm.name := by
    cases norm <;> decide
  unfold Norm.ofValue Value.toText
  simp only [hWord, Norm.ofName?_name]

omit [Scalar α] in
/- Both truth values have a word that stands for them. -/
theorem Value.toTruth_text
    (b : Bool) :
    (Value.text (if b then "true" else "false") :
        Value α).toTruth =
      .ok b := by
  have hTrue : Text.lower (Text.strip "true") = "true" := by
    decide
  have hFalse : Text.lower (Text.strip "false") = "false" := by
    decide
  unfold toTruth toText
  cases b with
  | true =>
      simp only [if_true, hTrue]
      exact if_pos (by decide)
  | false =>
      simp only [Bool.false_eq_true, if_false, hFalse]
      exact if_neg (by decide)

/- Digits do not ask for all processors. -/
private theorem ThreadCount.ofValue_repr
    (processors : Nat)
    {n : Nat}
    (hPos : 1 ≤ n)
    (hShort : n.repr.length ≤ Decimal.maxDigits) :
    ofValue processors (.text n.repr : Value α) = .ok n := by
  have hOther : Text.upper (Text.strip n.repr) ≠ allWord := by
    intro hAll
    have hMem : 'U' ∈ n.repr.toList := by
      rw [← Text.upper_strip_repr, hAll]
      decide
    exact absurd (isDigit_of_mem_repr hMem) (by decide)
  have hNotSmall : ¬ (n : Int) < 1 := by omega
  unfold ofValue
  simp only [if_neg hOther, Value.toInt_repr hShort]
  exact if_neg hNotSmall

private theorem Settings.readNeighbours_repr
    {n : Nat}
    (hPos : 1 ≤ n)
    (hShort : n.repr.length ≤ Decimal.maxDigits) :
    readNeighbours (.text n.repr : Value α) = .ok n := by
  have hNotSmall : ¬ (n : Int) < 1 := by omega
  unfold readNeighbours
  rw [Value.toInt_repr hShort]
  exact if_neg hNotSmall

private theorem Settings.readWindow_repr
    {n : Nat}
    (hShort : n.repr.length ≤ Decimal.maxDigits) :
    readWindow (.text n.repr : Value α) = .ok n := by
  have hNotNegative : ¬ (n : Int) < 0 := by omega
  unfold readWindow
  rw [Value.toInt_repr hShort]
  simp only [bind, Except.bind, if_neg hNotNegative, pure,
    Except.pure, Int.toNat_natCast]

end Texts

namespace Settings

variable [Literal α]

/-
  The text of a property that was set stands for it, in these
  settings as in any others.  Whole numbers must not be too
  long, and the level of noise must be read back.
-/
theorem set_get
    {processors : Nat}
    (hProcessors : 1 ≤ processors)
    {property : Property}
    {v : Value α}
    {s after : Settings α}
    (hOk : s.set processors property v = .ok after)
    (hShort :
      property.isWhole →
        (after.get property).length ≤ Decimal.maxDigits)
    (hLevel :
      ∀ level, property = .noise → after.noise = some level →
        Literal.ReadsBack level) :
    ∃ source : Settings α,
      source.Same after ∧
        after.taking property source = source ∧
        ∀ (processors' : Nat) (t : Settings α),
          t.set processors' property
              (.text (after.get property)) =
            .ok (t.taking property source) := by
  cases property with
  | neighbours =>
      rcases exists_of_bind_eq_ok hOk with ⟨k, hRead, hOk⟩
      cases hOk
      have hPos := one_le_of_readNeighbours hRead
      rcases Int.eq_ofNat_of_zero_le (by omega : 0 ≤ k) with
        ⟨n, rfl⟩
      have hBack :
          readNeighbours (.text n.repr : Value α) = .ok n :=
        readNeighbours_repr (by omega) (hShort rfl)
      refine ⟨_, .refl _, rfl, fun _ t => ?_⟩
      change
        (readNeighbours (.text n.repr : Value α) >>= _) = _
      rw [hBack]
      rfl
  | norm =>
      refine ⟨after, .refl _, rfl, fun _ t => ?_⟩
      change (Norm.ofValue (.text after.norm.name) >>= _) = _
      rw [Norm.ofValue_name]
      rfl
  | noise =>
      rcases exists_of_bind_eq_ok hOk with ⟨level, -, hOk⟩
      cases hOk
      rcases hLevel level rfl rfl with ⟨b, hBack, hSame⟩
      refine
        ⟨{ s with noise := some b },
          { Same.refl s with
            noise := .inr ⟨b, level, rfl, rfl, hSame⟩ },
          rfl, fun _ t => ?_⟩
      change
        ((Value.text (Literal.freeText level) :
            Value α).toScalar >>= _) = _
      rw [Value.toScalar, hBack]
      rfl
  | threads =>
      rcases exists_of_bind_eq_ok hOk with ⟨n, hRead, hOk⟩
      cases hOk
      have hPos :=
        ThreadCount.one_le_of_ofValue hProcessors hRead
      refine ⟨_, .refl _, rfl, fun processors' t => ?_⟩
      change
        (ThreadCount.ofValue processors'
          (.text n.repr : Value α) >>= _) = _
      rw [ThreadCount.ofValue_repr processors' hPos
        (hShort rfl)]
      rfl
  | normalise =>
      refine ⟨after, .refl _, rfl, fun _ t => ?_⟩
      change
        ((Value.text
            (if after.normalise then "true" else "false") :
            Value α).toTruth >>= _) = _
      rw [Value.toTruth_text]
      rfl
  | window =>
      refine ⟨after, .refl _, rfl, fun _ t => ?_⟩
      change
        (readWindow (.text after.window.repr : Value α) >>=
          _) = _
      rw [readWindow_repr (hShort rfl)]
      rfl

end Settings

end NeighbourInfo
