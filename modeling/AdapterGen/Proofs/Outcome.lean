import Mathlib.Data.List.Forall2

/-!
# Results of steps that may fail

Taking apart a sequence of steps: it succeeds when each of its steps does, and fails as the first
of them that fails.
-/

namespace AdapterGen

variable {ε ε' α β : Type}

theorem bind_eq_ok_iff {step : Except ε α} {next : α → Except ε β} {b : β} :
    (step >>= next) = .ok b ↔ ∃ a, step = .ok a ∧ next a = .ok b := by
  cases step with
  | error cause => simp [bind, Except.bind]
  | ok a => simp [bind, Except.bind]

theorem bind_eq_error_iff {step : Except ε α} {next : α → Except ε β} {cause : ε} :
    (step >>= next) = .error cause ↔
      step = .error cause ∨ ∃ a, step = .ok a ∧ next a = .error cause := by
  cases step with
  | error other => simp [bind, Except.bind]
  | ok a => simp [bind, Except.bind]

/-- Steps that go on alike, but for what is made of the result in the end. -/
theorem bind_eq_map_bind {γ : Type} {step : Except ε α} {next : α → Except ε β}
    {other : α → Except ε γ} {f : γ → β} (same : ∀ a, step = .ok a → next a = (other a).map f) :
    (step >>= next) = (step >>= other).map f := by
  cases step with
  | error cause => rfl
  | ok a => exact same a rfl

theorem mapError_eq_ok_iff {step : Except ε α} {wrap : ε → ε'} {a : α} :
    step.mapError wrap = .ok a ↔ step = .ok a := by
  cases step <;> simp [Except.mapError]

theorem mapM_eq_ok_iff {step : α → Except ε β} {items : List α} {results : List β} :
    items.mapM step = .ok results ↔
      List.Forall₂ (fun item result => step item = .ok result) items results := by
  induction items generalizing results with
  | nil => simp [pure, Except.pure, eq_comm]
  | cons item rest ih =>
      rw [List.mapM_cons]
      constructor
      · intro succeeded
        obtain ⟨first, own, succeeded⟩ := bind_eq_ok_iff.mp succeeded
        obtain ⟨others, later, succeeded⟩ := bind_eq_ok_iff.mp succeeded
        obtain rfl := Except.ok.inj succeeded
        exact .cons own (ih.mp later)
      · rintro (_ | ⟨own, later⟩)
        exact bind_eq_ok_iff.mpr ⟨_, own, bind_eq_ok_iff.mpr ⟨_, ih.mpr later, rfl⟩⟩

theorem forall₂_comp {γ : Type} {R : α → β → Prop} {S : β → γ → Prop} {as : List α} {bs : List β}
    {cs : List γ} (first : List.Forall₂ R as bs) (second : List.Forall₂ S bs cs) :
    List.Forall₂ (fun a c => ∃ b, R a b ∧ S b c) as cs := by
  induction first generalizing cs with
  | nil =>
      cases second
      exact .nil
  | cons related _ ih =>
      obtain _ | ⟨own, others⟩ := second
      exact .cons ⟨_, related, own⟩ (ih others)

theorem forM_eq_ok_iff {step : α → Except ε Unit} {items : List α} :
    items.forM step = .ok () ↔ ∀ item ∈ items, step item = .ok () := by
  induction items with
  | nil => simp [pure, Except.pure]
  | cons item rest ih =>
      rw [List.forM_eq_forM, List.forM_cons, bind_eq_ok_iff, List.forall_mem_cons, ← ih]
      exact ⟨fun ⟨(), own, others⟩ => ⟨own, others⟩, fun ⟨own, others⟩ => ⟨(), own, others⟩⟩

/-! ### First failures -/

/-- The error of a step that fails. -/
def errorOf? : Except ε α → Option ε
  | .ok _ => none
  | .error cause => some cause

@[simp] theorem errorOf?_ok (a : α) : errorOf? (.ok a : Except ε α) = none := rfl

@[simp] theorem errorOf?_error (cause : ε) :
    errorOf? (.error cause : Except ε α) = some cause := rfl

theorem errorOf?_eq_some_iff {step : Except ε α} {cause : ε} :
    errorOf? step = some cause ↔ step = .error cause := by
  cases step <;> simp

theorem errorOf?_eq_none_iff {step : Except ε α} :
    errorOf? step = none ↔ ∃ a, step = .ok a := by
  cases step <;> simp

theorem errorOf?_bind_pure (step : Except ε α) (f : α → β) :
    errorOf? (step >>= fun a => pure (f a)) = errorOf? step := by
  cases step <;> rfl

theorem errorOf?_mapM (step : α → Except ε β) (items : List α) :
    errorOf? (items.mapM step) = items.findSome? fun item => errorOf? (step item) := by
  induction items with
  | nil => rfl
  | cons item rest ih =>
      rw [List.mapM_cons, List.findSome?_cons]
      cases own : step item with
      | error cause => rfl
      | ok first =>
          calc errorOf? (rest.mapM step >>= fun others => pure (first :: others))
              = errorOf? (rest.mapM step) := errorOf?_bind_pure _ _
            _ = rest.findSome? fun item => errorOf? (step item) := ih

theorem findSome?_flatMap {γ : Type} (items : List α) (parts : α → List β) (f : β → Option γ) :
    (items.flatMap parts).findSome? f = items.findSome? fun item => (parts item).findSome? f := by
  induction items with
  | nil => rfl
  | cons item rest ih =>
      rw [List.flatMap_cons, List.findSome?_append, ih, List.findSome?_cons]
      cases (parts item).findSome? f <;> rfl

end AdapterGen
