namespace ProtoApi

/-!
# Computations that may fail

* `bind_eq_ok_iff`, `bind_eq_error_iff` — a computation in two steps succeeds if both of them do,
  else it fails as the first one that does not;
* `map_eq_ok_iff`, `mapError_eq_ok_iff`, `mapError_eq_error_iff` — what is done to a result, or to
  an error, does not make a computation succeed;
* `mapM_eq_error_iff` — many computations fail as the first one that does not succeed;
* `ite_error_eq_ok_iff` — a computation behind a check succeeds if it does and the check finds
  nothing;
* `SameOutcome` — two computations both fail, or both succeed with related results;
* `SameResult` — they even fail with the same error.
-/

universe u v w

variable {ε : Type u} {α β : Type v}

/-- A computation in two steps succeeds if both of them do. -/
theorem bind_eq_ok_iff {x : Except ε α} {f : α → Except ε β} {b : β} :
    (x >>= f) = .ok b ↔ ∃ a, x = .ok a ∧ f a = .ok b := by
  cases x with
  | error e =>
    constructor
    · intro h
      cases h
    · rintro ⟨a, ha, -⟩
      cases ha
  | ok a =>
    constructor
    · intro h
      exact ⟨a, rfl, h⟩
    · rintro ⟨a', ha, h⟩
      cases ha
      exact h

/-- A computation in two steps fails if one of them does, with the error of the first one that
    does. -/
theorem bind_eq_error_iff {x : Except ε α} {f : α → Except ε β} {e : ε} :
    (x >>= f) = .error e ↔ x = .error e ∨ ∃ a, x = .ok a ∧ f a = .error e := by
  cases x with
  | error e' =>
    constructor
    · intro h
      cases h
      exact Or.inl rfl
    · rintro (h | ⟨a, ha, -⟩)
      · cases h
        rfl
      · cases ha
  | ok a =>
    constructor
    · intro h
      exact Or.inr ⟨a, rfl, h⟩
    · rintro (h | ⟨a', ha, h⟩)
      · cases h
      · cases ha
        exact h

/-- What is done to a result makes no computation succeed. -/
theorem map_eq_ok_iff {γ : Type w} {x : Except ε α} {f : α → γ} {b : γ} :
    x.map f = .ok b ↔ ∃ a, x = .ok a ∧ f a = b := by
  cases x with
  | error e =>
    constructor
    · intro h
      cases h
    · rintro ⟨a, ha, -⟩
      cases ha
  | ok a =>
    constructor
    · intro h
      exact ⟨a, rfl, Except.ok.inj h⟩
    · rintro ⟨a', ha, rfl⟩
      cases ha
      rfl

/-- Nor does what is done to an error. -/
theorem mapError_eq_ok_iff {δ : Type w} {x : Except ε α} {f : ε → δ} {a : α} :
    x.mapError f = .ok a ↔ x = .ok a := by
  cases x with
  | error e =>
    constructor
    · intro h
      cases h
    · intro h
      cases h
  | ok b =>
    constructor
    · intro h
      cases h
      rfl
    · intro h
      cases h
      rfl

/-- A computation whose errors are renamed fails when it did before. -/
theorem mapError_eq_error_iff {δ : Type w} {x : Except ε α} {f : ε → δ} {e : δ} :
    x.mapError f = .error e ↔ ∃ e', x = .error e' ∧ f e' = e := by
  cases x with
  | error e' =>
    constructor
    · intro h
      exact ⟨e', rfl, Except.error.inj h⟩
    · rintro ⟨e'', he, rfl⟩
      cases he
      rfl
  | ok a =>
    constructor
    · intro h
      cases h
    · rintro ⟨e', he, -⟩
      cases he

/-- Many computations fail if one of them does, with the error of the first one that does. -/
theorem mapM_eq_error_iff {f : α → Except ε β} {xs : List α} {e : ε} :
    xs.mapM f = .error e ↔
      ∃ before x after, xs = before ++ x :: after ∧ (∀ y ∈ before, ∃ b, f y = .ok b) ∧
      f x = .error e := by
  induction xs with
  | nil =>
    constructor
    · intro h
      cases h
    · rintro ⟨before, x, after, h, -⟩
      simp at h
  | cons x xs ih =>
    -- Behind a success, the whole fails if the rest does.
    have hrest : ∀ b, (xs.mapM f >>= fun bs => pure (b :: bs)) = .error e ↔
        xs.mapM f = .error e := by
      intro b
      rw [bind_eq_error_iff]
      exact or_iff_left fun ⟨bs, _, h⟩ => nomatch h
    rw [List.mapM_cons, bind_eq_error_iff]
    simp only [hrest, ih]
    constructor
    · rintro (hx | ⟨b, hb, before, y, after, rfl, hbefore, hy⟩)
      · exact ⟨[], x, xs, rfl, fun y hy => absurd hy List.not_mem_nil, hx⟩
      · exact ⟨x :: before, y, after, rfl, List.forall_mem_cons.2 ⟨⟨b, hb⟩, hbefore⟩, hy⟩
    · rintro ⟨before, y, after, hxs, hbefore, hy⟩
      -- The computation that fails is the first one, or the first one succeeds.
      cases before with
      | nil =>
        obtain ⟨rfl, -⟩ := List.cons.inj hxs
        exact Or.inl hy
      | cons z before =>
        obtain ⟨rfl, rfl⟩ := List.cons.inj hxs
        obtain ⟨⟨b, hb⟩, hbefore⟩ := List.forall_mem_cons.1 hbefore
        exact Or.inr ⟨b, hb, before, y, after, rfl, hbefore, hy⟩

/-- A computation behind a check succeeds if it does and the check finds nothing. -/
theorem ite_error_eq_ok_iff {c : Prop} [Decidable c] {e : ε} {x : Except ε α} {a : α} :
    (if c then .error e else x) = .ok a ↔ ¬ c ∧ x = .ok a := by
  by_cases h : c <;> simp [h]

/-- A computation that is checked to succeed has a result. -/
theorem exists_eq_ok_of_isOk {x : Except ε α} (h : x.isOk = true) : ∃ a, x = .ok a := by
  cases x with
  | error e => cases h
  | ok a => exact ⟨a, rfl⟩

/-- Else it has an error. -/
theorem exists_eq_error_of_isOk {x : Except ε α} (h : x.isOk = false) : ∃ e, x = .error e := by
  cases x with
  | error e => exact ⟨e, rfl⟩
  | ok a => cases h

/-! ### Two computations -/

/-- Each success of one computation is matched by a success of the other one. As a computation has
    one outcome, both fail or both succeed. -/
structure SameOutcome {ε : Type u} {α : Type v} (R : α → α → Prop) (x y : Except ε α) : Prop where
  forth : ∀ a, x = .ok a → ∃ b, y = .ok b ∧ R a b
  back : ∀ b, y = .ok b → ∃ a, x = .ok a ∧ R a b

namespace SameOutcome

variable {ε : Type u} {α β : Type v} {R : α → α → Prop} {S : β → β → Prop} {x y : Except ε α}

/-- A computation succeeds when it does, with a result that is related to itself. -/
theorem refl (hR : ∀ a, R a a) (x : Except ε α) : SameOutcome R x x :=
  ⟨fun a ha => ⟨a, ha, hR a⟩, fun a ha => ⟨a, ha, hR a⟩⟩

/-- Two computations that fail are not told apart by their errors. -/
theorem error (e e' : ε) : SameOutcome R (.error e : Except ε α) (.error e') := by
  constructor
  · intro a ha
    cases ha
  · intro b hb
    cases hb

theorem ok {a b : α} (h : R a b) : SameOutcome R (.ok a : Except ε α) (.ok b) := by
  constructor
  · intro a' ha
    cases ha
    exact ⟨b, rfl, h⟩
  · intro b' hb
    cases hb
    exact ⟨a, rfl, h⟩

/-- The relation of the results may be a wider one. -/
theorem mono {R' : α → α → Prop} (hR : ∀ a b, R a b → R' a b) (h : SameOutcome R x y) :
    SameOutcome R' x y := by
  constructor
  · intro a ha
    obtain ⟨b, hb, hab⟩ := h.forth a ha
    exact ⟨b, hb, hR a b hab⟩
  · intro b hb
    obtain ⟨a, ha, hab⟩ := h.back b hb
    exact ⟨a, ha, hR a b hab⟩

/-- Two computations in two steps. -/
theorem bind (h : SameOutcome R x y) {f g : α → Except ε β}
    (hfg : ∀ a b, R a b → SameOutcome S (f a) (g b)) : SameOutcome S (x >>= f) (y >>= g) := by
  constructor
  · intro c hc
    obtain ⟨a, ha, hfa⟩ := bind_eq_ok_iff.1 hc
    obtain ⟨b, hb, hab⟩ := h.forth a ha
    obtain ⟨d, hd, hcd⟩ := (hfg a b hab).forth c hfa
    exact ⟨d, bind_eq_ok_iff.2 ⟨b, hb, hd⟩, hcd⟩
  · intro d hd
    obtain ⟨b, hb, hgb⟩ := bind_eq_ok_iff.1 hd
    obtain ⟨a, ha, hab⟩ := h.back b hb
    obtain ⟨c, hc, hcd⟩ := (hfg a b hab).back d hgb
    exact ⟨c, bind_eq_ok_iff.2 ⟨a, ha, hc⟩, hcd⟩

/-- What is done to both results. -/
theorem map (h : SameOutcome R x y) {f : α → β} (hf : ∀ a b, R a b → S (f a) (f b)) :
    SameOutcome S (x.map f) (y.map f) := by
  constructor
  · intro c hc
    obtain ⟨a, ha, rfl⟩ := map_eq_ok_iff.1 hc
    obtain ⟨b, hb, hab⟩ := h.forth a ha
    exact ⟨f b, map_eq_ok_iff.2 ⟨b, hb, rfl⟩, hf a b hab⟩
  · intro d hd
    obtain ⟨b, hb, rfl⟩ := map_eq_ok_iff.1 hd
    obtain ⟨a, ha, hab⟩ := h.back b hb
    exact ⟨f a, map_eq_ok_iff.2 ⟨a, ha, rfl⟩, hf a b hab⟩

/-- What is done to both errors. -/
theorem mapError (h : SameOutcome R x y) {δ : Type w} {f : ε → δ} :
    SameOutcome R (x.mapError f) (y.mapError f) := by
  constructor
  · intro a ha
    obtain ⟨b, hb, hab⟩ := h.forth a (mapError_eq_ok_iff.1 ha)
    exact ⟨b, mapError_eq_ok_iff.2 hb, hab⟩
  · intro b hb
    obtain ⟨a, ha, hab⟩ := h.back b (mapError_eq_ok_iff.1 hb)
    exact ⟨a, mapError_eq_ok_iff.2 ha, hab⟩

/-- The two directions leave two cases: both fail, or both succeed. -/
theorem errors_or_results (h : SameOutcome R x y) :
    ((∃ e, x = .error e) ∧ ∃ e, y = .error e) ∨ ∃ a b, x = .ok a ∧ y = .ok b ∧ R a b := by
  cases hx : x with
  | ok a =>
    obtain ⟨b, hb, hab⟩ := h.forth a hx
    exact Or.inr ⟨a, b, rfl, hb, hab⟩
  | error e =>
    cases hy : y with
    | ok b =>
      obtain ⟨a, ha, -⟩ := h.back b hy
      rw [hx] at ha
      cases ha
    | error e' => exact Or.inl ⟨⟨e, rfl⟩, e', rfl⟩

end SameOutcome

/-- Both computations fail with the same error, or they succeed with related results. -/
inductive SameResult {ε : Type u} {α : Type v} (R : α → α → Prop) : Except ε α → Except ε α → Prop
  | error (e : ε) : SameResult R (.error e) (.error e)
  | ok {a b : α} (h : R a b) : SameResult R (.ok a) (.ok b)

namespace SameResult

variable {ε : Type u} {α β : Type v} {R : α → α → Prop} {S : β → β → Prop} {x y : Except ε α}

/-- Equal computations have the same result. -/
theorem of_eq (hR : ∀ a, R a a) (h : x = y) : SameResult R x y := by
  subst h
  cases x with
  | error e => exact .error e
  | ok a => exact .ok (hR a)

/-- Computations with the same result, where results are compared by equality, are equal. -/
theorem eq (h : SameResult Eq x y) : x = y := by
  cases h with
  | error => rfl
  | ok h => rw [h]

/-- Two computations in two steps. -/
theorem bind (h : SameResult R x y) {f g : α → Except ε β}
    (hfg : ∀ a b, R a b → SameResult S (f a) (g b)) : SameResult S (x >>= f) (y >>= g) := by
  cases h with
  | error e => exact .error e
  | ok h => exact hfg _ _ h

/-- Two computations in two steps that come to the same in the end. -/
theorem bind_eq (h : SameResult R x y) {f g : α → Except ε β} (hfg : ∀ a b, R a b → f a = g b) :
    x >>= f = y >>= g := by
  cases h with
  | error e => rfl
  | ok h => exact hfg _ _ h

/-- What is done to both results. -/
theorem map (h : SameResult R x y) {γ : Type w} {T : γ → γ → Prop} {f g : α → γ}
    (hfg : ∀ a b, R a b → T (f a) (g b)) : SameResult T (x.map f) (y.map g) := by
  cases h with
  | error e => exact .error e
  | ok h => exact .ok (hfg _ _ h)

end SameResult

end ProtoApi
