import SchemaNaming.Fault

/-!
Runs read and change a state and end in a result or a failure. A failure keeps every change made
before it.
-/

namespace SchemaNaming

def Run (σ α : Type) : Type := σ → Except Failure α × σ

namespace Run

def pure (a : α) : Run σ α := fun s => (.ok a, s)

def bind (x : Run σ α) (f : α → Run σ β) : Run σ β := fun s =>
  match x s with
  | (.ok a, s) => f a s
  | (.error e, s) => (.error e, s)

instance : Monad (Run σ) where
  pure := pure
  bind := bind

def get : Run σ σ := fun s => (.ok s, s)

def modify (f : σ → σ) : Run σ Unit := fun s => (.ok (), f s)

def fail (failure : Failure) : Run σ α := fun s => (.error failure, s)

def fault (f : Fault) : Run σ α := fail (.of f)

/-- Continues with the result or the failure of a run. -/
def attempt (x : Run σ α) : Run σ (Except Failure α) := fun s =>
  match x s with
  | (result, s) => (.ok result, s)

def lift : Except Failure α → Run σ α
  | .ok a => pure a
  | .error e => fail e

/-- The result of a rule that may find a fault. -/
def check (x : Except Fault α) : Run σ α := lift (x.mapError .of)

/-- Turns an ordinary failure into another one raised because of it; a stop passes. -/
def wrapping (f : Failure → Fault) (x : Run σ α) : Run σ α := fun s =>
  match x s with
  | (.ok a, s) => (.ok a, s)
  | (.error e, s) => (.error (if e.isStop then e else .because (f e) e), s)

@[simp] theorem pure_apply (a : α) (s : σ) : (Pure.pure a : Run σ α) s = (.ok a, s) := rfl

@[simp] theorem bind_apply (x : Run σ α) (f : α → Run σ β) (s : σ) :
    (x >>= f) s = match x s with
      | (.ok a, s) => f a s
      | (.error e, s) => (.error e, s) := rfl

@[simp] theorem get_apply (s : σ) : (get : Run σ σ) s = (.ok s, s) := rfl

@[simp] theorem modify_apply (f : σ → σ) (s : σ) : modify f s = (.ok (), f s) := rfl

@[simp] theorem fail_apply (e : Failure) (s : σ) : (fail e : Run σ α) s = (.error e, s) := rfl

@[simp] theorem fault_apply (f : Fault) (s : σ) :
    (fault f : Run σ α) s = (.error (.of f), s) := rfl

@[simp] theorem lift_apply (x : Except Failure α) (s : σ) : (lift x : Run σ α) s = (x, s) := by
  cases x <;> rfl

@[simp] theorem check_ok (a : α) (s : σ) : check (.ok a) s = (.ok a, s) := rfl

@[simp] theorem check_error (f : Fault) (s : σ) :
    (check (.error f) : Run σ α) s = (.error (.of f), s) := rfl

theorem bind_eq_ok {x : Run σ α} {f : α → Run σ β} :
    (x >>= f) s = (.ok b, t) ↔ ∃ a u, x s = (.ok a, u) ∧ f a u = (.ok b, t) := by
  rw [bind_apply]
  rcases x s with ⟨_ | a, u⟩ <;> simp [and_assoc]

theorem bind_eq_error {x : Run σ α} {f : α → Run σ β} :
    (x >>= f) s = (.error e, t) ↔
      x s = (.error e, t) ∨ ∃ a u, x s = (.ok a, u) ∧ f a u = (.error e, t) := by
  rw [bind_apply]
  rcases x s with ⟨_ | a, u⟩ <;> simp [and_assoc]

theorem wrapping_eq_ok {f : Failure → Fault} {x : Run σ α} :
    wrapping f x s = (.ok a, t) ↔ x s = (.ok a, t) := by
  rw [wrapping]
  rcases x s with ⟨_ | a, u⟩ <;> simp

theorem check_eq_ok {x : Except Fault α} :
    check x s = (.ok a, t) ↔ x = .ok a ∧ t = s := by
  change lift (x.mapError .of) s = (.ok a, t) ↔ _
  cases x with
  | error f =>
    constructor
    · intro ran
      cases ran
    · rintro ⟨same, _⟩
      cases same
  | ok b =>
    constructor
    · intro ran
      cases ran
      exact ⟨rfl, rfl⟩
    · rintro ⟨same, rfl⟩
      cases same
      rfl

theorem check_bind_eq_ok {x : Except Fault α} {f : α → Run σ β} :
    (check x >>= f) s = (.ok b, t) ↔ ∃ a, x = .ok a ∧ f a s = (.ok b, t) := by
  rw [bind_apply]
  cases x <;> simp

theorem check_bind_eq_error {x : Except Fault α} {f : α → Run σ β} :
    (check x >>= f) s = (.error e, t) ↔
      (∃ fault, x = .error fault ∧ e = .of fault ∧ t = s) ∨
        ∃ a, x = .ok a ∧ f a s = (.error e, t) := by
  rw [bind_apply]
  cases x <;> simp [eq_comm]

theorem bind_assoc' (x : Run σ α) (f : α → Run σ β) (g : β → Run σ γ) :
    x >>= f >>= g = x >>= fun a => f a >>= g := by
  funext s
  simp only [bind_apply]
  rcases x s with ⟨_ | _, _⟩ <;> rfl

theorem bind_pure' (x : Run σ α) : x >>= Pure.pure = x := by
  funext s
  simp only [bind_apply]
  rcases x s with ⟨_ | _, _⟩ <;> rfl

instance : LawfulMonad (Run σ) :=
  LawfulMonad.mk' (Run σ) bind_pure' (fun _ _ => rfl) bind_assoc'

end Run

end SchemaNaming
