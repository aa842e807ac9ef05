import SchemaNaming.Plugin.Loader

/-!
How runs can fail. A run is safe when it keeps an invariant of the host and fails only with failures
that are expected. Runs that are made of safe ones are safe.
-/

namespace SchemaNaming.Plugin

variable {I : Host → Prop} {E E' : Failure → Host → Prop}

/-- The host behind a run satisfies the invariant, and a failure is an expected one. -/
structure SafeAt (I : Host → Prop) (E : Failure → Host → Prop) (x : Run Host α) (h : Host) :
    Prop where
  keeps : I (x h).2
  expected : ∀ failure, (x h).1 = .error failure → E failure (x h).2

def Safe (I : Host → Prop) (E : Failure → Host → Prop) (x : Run Host α) : Prop :=
  ∀ h, I h → SafeAt I E x h

theorem SafeAt.of_ok {x : Run Host α} (ran : x h = (.ok a, h')) (holds : I h') :
    SafeAt I E x h := by
  refine ⟨by rwa [ran], fun failure failed => ?_⟩
  rw [ran] at failed
  contradiction

theorem SafeAt.of_error {x : Run Host α} {failure : Failure} (ran : x h = (.error failure, h')) (holds : I h')
    (expected : E failure h') : SafeAt I E x h := by
  refine ⟨by rwa [ran], fun other failed => ?_⟩
  rw [ran] at failed ⊢
  obtain rfl := Except.error.inj failed
  exact expected

/-- A run that goes on behind another one. -/
theorem SafeAt.bind {x : Run Host α} {f : α → Run Host β} (first : SafeAt I E x h)
    (second : ∀ a h', x h = (.ok a, h') → I h' → SafeAt I E (f a) h') :
    SafeAt I E (x >>= f) h := by
  obtain ⟨keeps, expected⟩ := first
  rcases ran : x h with ⟨failure | a, h'⟩ <;> rw [ran] at keeps expected
  · exact .of_error (by rw [Run.bind_apply, ran]) keeps (expected failure rfl)
  · have same : (x >>= f) h = f a h' := by rw [Run.bind_apply, ran]
    obtain ⟨keepsToo, expectedToo⟩ := second a h' ran keeps
    exact ⟨same ▸ keepsToo, same ▸ expectedToo⟩

/-- A run that looks at the registry first. -/
theorem SafeAt.registry {f : Registry → Run Host α} (safe : SafeAt I E (f h.plugins) h) :
    SafeAt I E (Plugin.registry >>= f) h := ⟨safe.keeps, safe.expected⟩

namespace Safe

theorem pure (a : α) : Safe I E (Pure.pure a : Run Host α) := fun _ holds => .of_ok rfl holds

theorem bind {x : Run Host α} {f : α → Run Host β} (first : Safe I E x)
    (second : ∀ a, Safe I E (f a)) : Safe I E (x >>= f) :=
  fun h holds => .bind (first h holds) fun a h' _ => second a h'

theorem map {x : Run Host α} (f : α → β) (safe : Safe I E x) : Safe I E (f <$> x) :=
  bind safe fun a => pure (f a)

/-- A run that looks at the host first. -/
theorem get {f : Host → Run Host α} (safe : ∀ h, I h → SafeAt I E (f h) h) :
    Safe I E (Run.get >>= f) := fun h holds => ⟨(safe h holds).keeps, (safe h holds).expected⟩

theorem registry {f : Registry → Run Host α}
    (safe : ∀ h, I h → SafeAt I E (f h.plugins) h) : Safe I E (Plugin.registry >>= f) :=
  fun h holds => .registry (safe h holds)

theorem fail {failure : Failure} (expected : ∀ h, I h → E failure h) :
    Safe I E (Run.fail failure : Run Host α) :=
  fun h holds => .of_error rfl holds (expected h holds)

theorem fault {f : Fault} (expected : ∀ h, I h → E (.of f) h) :
    Safe I E (Run.fault f : Run Host α) := fail expected

/-- A rule that only looks at what it is given. -/
theorem check {x : Except Fault α} (expected : ∀ f, x = .error f → ∀ h, I h → E (.of f) h) :
    Safe I E (Run.check x : Run Host α) := by
  cases x with
  | error f => exact fault (expected f rfl)
  | ok a => exact pure a

/-- A run that cannot fail. -/
theorem of_ok {x : Run Host α} (keeps : ∀ h, I h → ∃ a h', x h = (.ok a, h') ∧ I h') :
    Safe I E x := by
  intro h holds
  obtain ⟨a, h', ran, holdsToo⟩ := keeps h holds
  exact .of_ok ran holdsToo

theorem change {f : Registry → Registry}
    (keeps : ∀ h, I h → I { h with plugins := f h.plugins }) : Safe I E (Plugin.change f) :=
  of_ok fun h holds => ⟨(), _, rfl, keeps h holds⟩

/-- A run that goes on whether another one has failed or not. -/
theorem attempt {x : Run Host α} {f : Except Failure α → Run Host β} (safe : Safe I E' x)
    (done : ∀ a, Safe I E (f (.ok a)))
    (failed : ∀ failure h, I h → E' failure h → SafeAt I E (f (.error failure)) h) :
    Safe I E (Run.attempt x >>= f) := by
  intro h holds
  obtain ⟨keeps, expected⟩ := safe h holds
  have same : (Run.attempt x >>= f) h = f (x h).1 (x h).2 := by
    rw [Run.bind_apply, Run.attempt]
  rcases ran : x h with ⟨failure | a, h'⟩ <;> rw [ran] at keeps expected same
  · have safeToo := failed failure h' keeps (expected failure rfl)
    exact ⟨same ▸ safeToo.keeps, same ▸ safeToo.expected⟩
  · have safeToo := done a h' keeps
    exact ⟨same ▸ safeToo.keeps, same ▸ safeToo.expected⟩

theorem wrapping {x : Run Host α} {f : Failure → Fault} (safe : Safe I E' x)
    (stopped : ∀ failure h, E' failure h → failure.isStop = true → E failure h)
    (raised : ∀ failure h, E' failure h → failure.isStop = false →
      E (.because (f failure) failure) h) : Safe I E (Run.wrapping f x) := by
  intro h holds
  obtain ⟨keeps, expected⟩ := safe h holds
  rcases ran : x h with ⟨failure | a, h'⟩ <;> rw [ran] at keeps expected
  · have inner := expected failure rfl
    cases stops : failure.isStop with
    | true =>
      exact .of_error (by simp [Run.wrapping, ran, stops]) keeps (stopped failure h' inner stops)
    | false =>
      exact .of_error (by simp [Run.wrapping, ran, stops]) keeps (raised failure h' inner stops)
  · exact .of_ok (Run.wrapping_eq_ok.mpr ran) keeps

end Safe

end SchemaNaming.Plugin
