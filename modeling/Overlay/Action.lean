/-!
# Actions

An `Action σ ε α` works on a state `σ` and gives a value or an error. What it did to the state
before it failed stays done: a failing operation is not undone unless it is written so.

* `Action.attempt` turns the failure of an action into a value.
* `Action.zoom` runs an action on one part of a larger state, through a `Part`.
-/

namespace Overlay

/-- An action on a state that gives a value or an error, and the state afterwards in both cases. -/
def Action (σ ε α : Type) : Type :=
  σ → Except ε α × σ

namespace Action

variable {σ τ ε ε' α β : Type}

/-- The state is left alone and the value given. -/
protected def pure (a : α) : Action σ ε α :=
  fun s => (.ok a, s)

/-- The second action runs on the state the first one left, unless the first one failed. -/
protected def bind (x : Action σ ε α) (f : α → Action σ ε β) : Action σ ε β :=
  fun s => match x s with
    | (.ok a, s') => f a s'
    | (.error e, s') => (.error e, s')

instance : Monad (Action σ ε) where
  pure := Action.pure
  bind := Action.bind

/-- Fails and leaves the state alone. -/
def fail (e : ε) : Action σ ε α :=
  fun s => (.error e, s)

instance : MonadExceptOf ε (Action σ ε) where
  throw := Action.fail
  tryCatch x h := fun s => match x s with
    | (.ok a, s') => (.ok a, s')
    | (.error e, s') => h e s'

/-- The state itself. -/
def read : Action σ ε σ :=
  fun s => (.ok s, s)

/-- A value computed from the state. -/
def inspect (f : σ → α) : Action σ ε α :=
  fun s => (.ok (f s), s)

/-- Replaces the state by a function of it. -/
def modify (f : σ → σ) : Action σ ε Unit :=
  fun s => (.ok (), f s)

/-- A step that cannot fail. -/
def step (f : σ → α × σ) : Action σ ε α :=
  fun s => ((.ok (f s).1), (f s).2)

/-- A result that needs no state. -/
def ofExcept (r : Except ε α) : Action σ ε α :=
  fun s => (r, s)

/-- Gives the failure of an action as a value. -/
def attempt (x : Action σ ε α) : Action σ ε' (Except ε α) :=
  fun s => (.ok (x s).1, (x s).2)

/-- Turns the error of a failing action into another one. -/
def mapError (f : ε → ε') (x : Action σ ε α) : Action σ ε' α :=
  fun s => ((x s).1.mapError f, (x s).2)

/-- The state an action leaves behind. -/
def after (x : Action σ ε α) (s : σ) : σ :=
  (x s).2

/-- The value or error of an action. -/
def result (x : Action σ ε α) (s : σ) : Except ε α :=
  (x s).1

/-! ## What each operation does -/

@[simp] theorem pure_apply (a : α) (s : σ) : (pure a : Action σ ε α) s = (.ok a, s) := rfl

theorem bind_apply (x : Action σ ε α) (f : α → Action σ ε β) (s : σ) :
    (x >>= f) s = match x s with
      | (.ok a, s') => f a s'
      | (.error e, s') => (.error e, s') := rfl

theorem bind_of_ok {x : Action σ ε α} {s s' : σ} {a : α} (h : x s = (.ok a, s'))
    (f : α → Action σ ε β) : (x >>= f) s = f a s' := by
  rw [bind_apply, h]

theorem bind_of_error {x : Action σ ε α} {s s' : σ} {e : ε} (h : x s = (.error e, s'))
    (f : α → Action σ ε β) : (x >>= f) s = (.error e, s') := by
  rw [bind_apply, h]

@[simp] theorem throw_apply (e : ε) (s : σ) : (throw e : Action σ ε α) s = (.error e, s) := rfl

@[simp] theorem fail_apply (e : ε) (s : σ) : (fail e : Action σ ε α) s = (.error e, s) := rfl

@[simp] theorem read_apply (s : σ) : (read : Action σ ε σ) s = (.ok s, s) := rfl

@[simp] theorem inspect_apply (f : σ → α) (s : σ) :
    (inspect f : Action σ ε α) s = (.ok (f s), s) := rfl

@[simp] theorem modify_apply (f : σ → σ) (s : σ) :
    (modify f : Action σ ε Unit) s = (.ok (), f s) := rfl

@[simp] theorem step_apply (f : σ → α × σ) (s : σ) :
    (step f : Action σ ε α) s = (.ok (f s).1, (f s).2) := rfl

@[simp] theorem ofExcept_apply (r : Except ε α) (s : σ) :
    (ofExcept r : Action σ ε α) s = (r, s) := rfl

@[simp] theorem attempt_apply (x : Action σ ε α) (s : σ) :
    (attempt x : Action σ ε' (Except ε α)) s = (.ok (x s).1, (x s).2) := rfl

@[simp] theorem mapError_apply (f : ε → ε') (x : Action σ ε α) (s : σ) :
    mapError f x s = ((x s).1.mapError f, (x s).2) := rfl

instance : LawfulMonad (Action σ ε) := .mk' _
  (fun x => by
    funext s
    change (match x s with | (.ok a, s') => (.ok a, s') | (.error e, s') => (.error e, s')) = x s
    rcases x s with ⟨_ | _, _⟩ <;> rfl)
  (fun _ _ => rfl)
  (fun x f g => by
    funext s
    simp only [bind_apply]
    rcases x s with ⟨_ | _, _⟩ <;> rfl)

end Action

/-! ## Parts of a state -/

/-- A part of a larger state: it can be read and replaced, and a replacement changes nothing else
that can be read through it. -/
structure Part (σ τ : Type) where
  get : σ → τ
  set : τ → σ → σ
  get_set : ∀ t s, get (set t s) = t := by intros; rfl
  set_get : ∀ s, set (get s) s = s := by intros; rfl
  set_set : ∀ t t' s, set t (set t' s) = set t s := by intros; rfl

namespace Part

/-- The whole state as a part of itself. -/
def whole (σ : Type) : Part σ σ where
  get s := s
  set t _ := t

end Part

/-- Runs an action on a part of a state. -/
def Action.zoom {σ τ ε α : Type} (p : Part σ τ) (x : Action τ ε α) : Action σ ε α :=
  fun s => ((x (p.get s)).1, p.set (x (p.get s)).2 s)

@[simp] theorem Action.zoom_apply {σ τ ε α : Type} (p : Part σ τ) (x : Action τ ε α) (s : σ) :
    x.zoom p s = ((x (p.get s)).1, p.set (x (p.get s)).2 s) := rfl

@[simp] theorem Action.zoom_whole {σ ε α : Type} (x : Action σ ε α) :
    x.zoom (Part.whole σ) = x := rfl

end Overlay
