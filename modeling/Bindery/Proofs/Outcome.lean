import Bindery.Event

/-!
# Traversals that stop at the first failure

A traversal succeeds exactly when each of its steps does, and fails with the error
of the first step that fails. What a computation with events comes to is what the
same computation without them comes to.
-/

namespace Bindery

variable {ε α β γ : Type}

/-! ## One step after another -/

@[simp] theorem ok_bind (a : α) (f : α → Except ε β) : (Except.ok a >>= f) = f a := rfl

@[simp] theorem error_bind (e : ε) (f : α → Except ε β) :
    ((Except.error e : Except ε α) >>= f) = .error e := rfl

@[simp] theorem pure_eq_ok (a : α) : (pure a : Except ε α) = .ok a := rfl

theorem bind_eq_ok {x : Except ε α} {f : α → Except ε β} {b : β} :
    (x >>= f) = .ok b ↔ ∃ a, x = .ok a ∧ f a = .ok b := by
  cases x with
  | ok a => simp
  | error e => simp

theorem map_eq_ok {x : Except ε α} {f : α → β} {b : β} :
    x.map f = .ok b ↔ ∃ a, x = .ok a ∧ f a = b := by
  cases x with
  | ok a => simp [Except.map]
  | error e => simp [Except.map]

theorem isOk_iff {x : Except ε α} : x.isOk = true ↔ ∃ a, x = .ok a := by
  cases x with
  | ok a => simp [Except.isOk, Except.toBool]
  | error e => simp [Except.isOk, Except.toBool]

theorem isOk_bind {x : Except ε α} {f : α → Except ε β} :
    (x >>= f).isOk = true ↔ ∃ a, x = .ok a ∧ (f a).isOk = true := by
  cases x with
  | ok a => simp
  | error e => simp [isOk_iff]

@[simp] theorem isOk_map (x : Except ε α) (f : α → β) : (x.map f).isOk = x.isOk := by
  cases x <;> rfl

/-- The error of an outcome that is one. -/
def failure? : Except ε α → Option ε
  | .ok _ => none
  | .error e => some e

theorem failure?_eq_some {x : Except ε α} {e : ε} : failure? x = some e ↔ x = .error e := by
  cases x with
  | ok a => simp [failure?]
  | error e' => simp [failure?]

theorem failure?_eq_none {x : Except ε α} : failure? x = none ↔ x.isOk = true := by
  cases x with
  | ok a => simp [failure?, isOk_iff]
  | error e => simp [failure?, isOk_iff]

@[simp] theorem failure?_map (x : Except ε α) (f : α → β) : failure? (x.map f) = failure? x := by
  cases x <;> rfl

/-- What comes second is looked at only after a success. -/
theorem failure?_bind_const (x : Except ε α) (y : Except ε β) :
    failure? (x >>= fun _ => y) = (failure? x).or (failure? y) := by
  cases x <;> rfl

/-- A second step that fails in one way only, whatever the first gives it. -/
theorem failure?_bind {x : Except ε α} {f : α → Except ε β} {e : Option ε}
    (h : ∀ a, x = .ok a → failure? (f a) = e) : failure? (x >>= f) = (failure? x).or e := by
  cases x with
  | ok a => exact h a rfl
  | error e' => rfl

theorem failure?_bind_pure (x : Except ε α) (f : α → β) :
    failure? (x >>= fun a => pure (f a)) = failure? x := by
  cases x <;> rfl

/-- Of a step whose result is not used, only the failure matters. -/
theorem bind_const_congr {x : Except ε α} {y : Except ε β}
    (h : failure? x = failure? y) (z : Except ε γ) : (x >>= fun _ => z) = y >>= fun _ => z := by
  cases x with
  | ok a =>
      cases y with
      | ok b => rfl
      | error e => cases h
  | error e =>
      cases y with
      | ok b => cases h
      | error e' =>
          obtain rfl : e = e' := Option.some.inj h
          rfl

/-! ## Traversals -/

theorem mapM_eq_ok {f : α → Except ε β} {l : List α} {r : List β} :
    l.mapM f = .ok r ↔ l.map f = r.map .ok := by
  induction l generalizing r with
  | nil => cases r <;> simp
  | cons a rest ih =>
      rw [List.mapM_cons, bind_eq_ok, List.map_cons]
      constructor
      · intro h
        obtain ⟨b, hb, h⟩ := h
        obtain ⟨bs, hbs, h⟩ := bind_eq_ok.1 h
        cases h
        rw [List.map_cons, hb, ih.1 hbs]
      · intro h
        cases r with
        | nil => simp at h
        | cons b bs =>
            rw [List.map_cons, List.cons.injEq] at h
            exact ⟨b, h.1, bind_eq_ok.2 ⟨bs, ih.2 h.2, rfl⟩⟩

/-- What a traversal gives comes from one of its steps. -/
theorem mem_iff_of_mapM {f : α → Except ε β} {l : List α} {r : List β} (h : l.mapM f = .ok r)
    {b : β} : b ∈ r ↔ ∃ a ∈ l, f a = .ok b := by
  have hmem : b ∈ r ↔ Except.ok (ε := ε) b ∈ r.map .ok := by simp
  rw [hmem, ← mapM_eq_ok.1 h, List.mem_map]

/-- A traversal gives what its steps are known to give. -/
theorem eq_map_of_mapM {f : α → Except ε β} {g : α → β} (hg : ∀ a b, f a = .ok b → b = g a)
    {l : List α} {r : List β} (h : l.mapM f = .ok r) : r = l.map g := by
  induction l generalizing r with
  | nil => cases r <;> simp_all
  | cons a rest ih =>
      rw [List.mapM_cons] at h
      obtain ⟨b, hb, h⟩ := bind_eq_ok.1 h
      obtain ⟨bs, hbs, h⟩ := bind_eq_ok.1 h
      cases h
      rw [List.map_cons, hg a b hb, ih hbs]

/-- Success of a traversal is success of every step. -/
theorem isOk_mapM {f : α → Except ε β} {l : List α} :
    (l.mapM f).isOk = true ↔ ∀ a ∈ l, (f a).isOk = true := by
  induction l with
  | nil => simp [isOk_iff]
  | cons a rest ih =>
      rw [List.forall_mem_cons, ← ih, List.mapM_cons]
      cases f a with
      | error e => simp [isOk_iff]
      | ok b => cases rest.mapM f <;> simp [isOk_iff]

/-- A traversal fails with the error of the first step that fails, and with no other. -/
theorem failure?_mapM (f : α → Except ε β) (l : List α) :
    failure? (l.mapM f) = l.findSome? fun a => failure? (f a) := by
  induction l with
  | nil => rfl
  | cons a rest ih =>
      rw [List.mapM_cons, List.findSome?_cons, ← ih]
      cases f a with
      | error e => rfl
      | ok b => cases rest.mapM f <;> rfl

/-- A traversal that fails has done every step before the one that fails. -/
theorem mapM_eq_error {f : α → Except ε β} {l : List α} {e : ε} :
    l.mapM f = .error e ↔ ∃ before a after, l = before ++ a :: after ∧
      (∀ b ∈ before, (f b).isOk = true) ∧ f a = .error e := by
  rw [← failure?_eq_some, failure?_mapM, List.findSome?_eq_some_iff]
  simp only [failure?_eq_some, failure?_eq_none, and_comm]

theorem mapM_congr {f g : α → Except ε β} {l : List α} (h : ∀ a ∈ l, f a = g a) :
    l.mapM f = l.mapM g := by
  induction l with
  | nil => rfl
  | cons a rest ih =>
      rw [List.forall_mem_cons] at h
      rw [List.mapM_cons, List.mapM_cons, h.1, ih h.2]

/-- Traversals whose steps depend on what the items show come to the same. -/
theorem mapM_eq_of_map_eq {f g : α → Except ε γ} {view : α → β} {l l' : List α}
    (h : l.map view = l'.map view) (hfg : ∀ x y, view x = view y → f x = g y) :
    l.mapM f = l'.mapM g := by
  induction l generalizing l' with
  | nil =>
      cases l' with
      | nil => rfl
      | cons y rest' => cases h
  | cons x rest ih =>
      cases l' with
      | nil => cases h
      | cons y rest' =>
          obtain ⟨hxy, hrest⟩ := List.cons.inj h
          rw [List.mapM_cons, List.mapM_cons, hfg x y hxy, ih hrest]

/-- A traversal whose results are worked on one by one. -/
theorem map_mapM (f : α → Except ε β) (k : β → γ) (l : List α) :
    (l.mapM f).map (List.map k) = l.mapM fun x => (f x).map k := by
  induction l with
  | nil => rfl
  | cons x rest ih =>
      rw [List.mapM_cons, List.mapM_cons, ← ih]
      cases f x with
      | error e => rfl
      | ok y => cases rest.mapM f <;> rfl

theorem findSome?_congr {f g : α → Option β} {l : List α} (h : ∀ a ∈ l, f a = g a) :
    l.findSome? f = l.findSome? g := by
  induction l with
  | nil => rfl
  | cons a rest ih =>
      rw [List.forall_mem_cons] at h
      rw [List.findSome?_cons, List.findSome?_cons, h.1, ih h.2]

/-! ## Outcomes of computations with events -/

namespace Logged

@[simp] theorem outcome_ofExcept (x : Except GenerationError α) : (ofExcept x).outcome = x := rfl

@[simp] theorem outcome_log (events : List Event) : (log events).outcome = .ok () := rfl

@[simp] theorem outcome_pure (a : α) : (pure a : Logged α).outcome = .ok a := rfl

@[simp] theorem outcome_bind (x : Logged α) (f : α → Logged β) :
    (x >>= f).outcome = x.outcome >>= fun a => (f a).outcome := by
  change (x.andThen f).outcome = _
  unfold andThen
  cases x.outcome <;> rfl

end Logged

end Bindery
