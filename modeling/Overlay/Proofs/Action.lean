import Overlay.Action

/-!
# Reasoning about actions

`Action.Triple P x Q E` says what an action does to a state in which `P` holds: if it gives a value
`a`, then `Q a` holds afterwards, and if it fails with `e`, then `E e` holds. An action always ends,
so a triple speaks of every run. There is one rule for each way to build an action; what an action
leaves alone is part of the assertions.
-/

namespace Overlay.Action

variable {σ τ ε ε' α β : Type} {P P' : σ → Prop} {Q Q' : α → σ → Prop} {E E' : ε → σ → Prop}

/-- What holds after an action that started where `P` holds. -/
structure Triple (P : σ → Prop) (x : Action σ ε α) (Q : α → σ → Prop) (E : ε → σ → Prop) :
    Prop where
  of_ok : ∀ {s s' a}, P s → x s = (.ok a, s') → Q a s'
  of_error : ∀ {s s' e}, P s → x s = (.error e, s') → E e s'

namespace Triple

/-- Both ends of an action at once. -/
theorem of_match {x : Action σ ε α} (h : ∀ s, P s → match x s with
    | (.ok a, s') => Q a s'
    | (.error e, s') => E e s') : Triple P x Q E := by
  constructor
  · intro s s' a hs hx
    have hafter := h s hs
    rwa [hx] at hafter
  · intro s s' e hs hx
    have hafter := h s hs
    rwa [hx] at hafter

/-- An action that does not fail gives a value. -/
theorem exists_ok {x : Action σ ε α} {s : σ} (h : Triple P x Q fun _ _ => False) (hs : P s) :
    ∃ a s', x s = (.ok a, s') ∧ Q a s' := by
  rcases hx : x s with ⟨e | a, s'⟩
  · exact (h.of_error hs hx).elim
  · exact ⟨a, s', rfl, h.of_ok hs hx⟩

/-- What holds afterwards in any case. -/
theorem of_after {x : Action σ ε α} {R : σ → Prop} (h : ∀ s, P s → R (x s).2) :
    Triple P x (fun _ => R) (fun _ => R) := by
  constructor
  · intro s s' a hs hx
    have hafter := h s hs
    rwa [hx] at hafter
  · intro s s' e hs hx
    have hafter := h s hs
    rwa [hx] at hafter

/-- The result and the state afterwards. -/
theorem result {x : Action σ ε α} {R : Except ε α → σ → Prop} {s : σ} (h : Triple P x Q E)
    (hs : P s) (hok : ∀ a s', Q a s' → R (.ok a) s') (herror : ∀ e s', E e s' → R (.error e) s') :
    R (x s).1 (x s).2 := by
  rcases hx : x s with ⟨e | a, s'⟩
  · exact herror e s' (h.of_error hs hx)
  · exact hok a s' (h.of_ok hs hx)

/-- The state afterwards. -/
theorem after {x : Action σ ε α} {R : σ → Prop} {s : σ} (h : Triple P x (fun _ => R) (fun _ => R))
    (hs : P s) : R (x s).2 :=
  h.result (R := fun _ => R) hs (fun _ _ hr => hr) fun _ _ hr => hr

/-- A triple for each state is a triple. -/
theorem of_forall {x : Action σ ε α} (h : ∀ s, P s → Triple (· = s) x Q E) : Triple P x Q E where
  of_ok hs hx := (h _ hs).of_ok rfl hx
  of_error hs hx := (h _ hs).of_error rfl hx

/-- Less is asked for before, more is known afterwards. -/
theorem conseq {x : Action σ ε α} (h : Triple P x Q E) (hP : ∀ s, P' s → P s)
    (hQ : ∀ a s, Q a s → Q' a s) (hE : ∀ e s, E e s → E' e s) : Triple P' x Q' E' where
  of_ok hs hx := hQ _ _ (h.of_ok (hP _ hs) hx)
  of_error hs hx := hE _ _ (h.of_error (hP _ hs) hx)

/-- Less is asked for before. -/
theorem pre {x : Action σ ε α} (h : Triple P x Q E) (hP : ∀ s, P' s → P s) : Triple P' x Q E :=
  h.conseq hP (fun _ _ hs => hs) fun _ _ hs => hs

/-- More is known afterwards. -/
theorem mono {x : Action σ ε α} (h : Triple P x Q E) (hQ : ∀ a s, Q a s → Q' a s)
    (hE : ∀ e s, E e s → E' e s) : Triple P x Q' E' :=
  h.conseq (fun _ hs => hs) hQ hE

/-- Where nothing holds, everything holds afterwards. -/
theorem of_false {x : Action σ ε α} : Triple (fun _ => False) x Q E where
  of_ok hs := hs.elim
  of_error hs := hs.elim

theorem pure {a : α} (h : ∀ s, P s → Q a s) : Triple P (Pure.pure a : Action σ ε α) Q E where
  of_ok hs hx := by
    obtain ⟨ha, rfl⟩ := Prod.mk.inj hx
    obtain rfl := Except.ok.inj ha
    exact h _ hs
  of_error _ hx := nomatch (Prod.mk.inj hx).1

theorem throw {e : ε} (h : ∀ s, P s → E e s) :
    Triple P (MonadExcept.throw e : Action σ ε α) Q E where
  of_ok _ hx := nomatch (Prod.mk.inj hx).1
  of_error hs hx := by
    obtain ⟨he, rfl⟩ := Prod.mk.inj hx
    obtain rfl := Except.error.inj he
    exact h _ hs

/-- The second action starts where the first one ended. -/
theorem bind {x : Action σ ε α} {f : α → Action σ ε β} {R : α → σ → Prop} {Q : β → σ → Prop}
    (hx : Triple P x R E) (hf : ∀ a, Triple (R a) (f a) Q E) : Triple P (x >>= f) Q E where
  of_ok {s s' b} hs h := by
    rcases hxs : x s with ⟨e | a, t⟩
    · rw [bind_of_error hxs] at h
      cases h
    · rw [bind_of_ok hxs] at h
      exact (hf a).of_ok (hx.of_ok hs hxs) h
  of_error {s s' e} hs h := by
    rcases hxs : x s with ⟨e' | a, t⟩
    · rw [bind_of_error hxs] at h
      cases h
      exact hx.of_error hs hxs
    · rw [bind_of_ok hxs] at h
      exact (hf a).of_error (hx.of_ok hs hxs) h

/-- An attempt never fails. What follows it goes on from either end of the action. -/
theorem attempt_bind {x : Action σ ε α} {f : Except ε α → Action σ ε' β} {R : α → σ → Prop}
    {F : ε → σ → Prop} {Q : β → σ → Prop} {E : ε' → σ → Prop} (hx : Triple P x R F)
    (hok : ∀ a, Triple (R a) (f (.ok a)) Q E) (herror : ∀ e, Triple (F e) (f (.error e)) Q E) :
    Triple P (x.attempt >>= f) Q E where
  of_ok {s s' b} hs h := by
    rcases hxs : x s with ⟨e | a, t⟩
    · have hattempt : (x.attempt : Action σ ε' _) s = (.ok (.error e), t) := by simp [hxs]
      rw [bind_of_ok hattempt] at h
      exact (herror e).of_ok (hx.of_error hs hxs) h
    · have hattempt : (x.attempt : Action σ ε' _) s = (.ok (.ok a), t) := by simp [hxs]
      rw [bind_of_ok hattempt] at h
      exact (hok a).of_ok (hx.of_ok hs hxs) h
  of_error {s s' e} hs h := by
    rcases hxs : x s with ⟨e' | a, t⟩
    · have hattempt : (x.attempt : Action σ ε' _) s = (.ok (.error e'), t) := by simp [hxs]
      rw [bind_of_ok hattempt] at h
      exact (herror e').of_error (hx.of_error hs hxs) h
    · have hattempt : (x.attempt : Action σ ε' _) s = (.ok (.ok a), t) := by simp [hxs]
      rw [bind_of_ok hattempt] at h
      exact (hok a).of_error (hx.of_ok hs hxs) h

theorem mapError {x : Action σ ε α} {f : ε → ε'} {E' : ε' → σ → Prop}
    (h : Triple P x Q fun e => E' (f e)) : Triple P (x.mapError f) Q E' where
  of_ok {s s' a} hs hx := by
    rw [mapError_apply] at hx
    rcases hxs : x s with ⟨e | b, t⟩
    · rw [hxs] at hx
      cases (Prod.mk.inj hx).1
    · rw [hxs] at hx
      obtain ⟨hb, rfl⟩ := Prod.mk.inj hx
      obtain rfl := Except.ok.inj hb
      exact h.of_ok hs hxs
  of_error {s s' e} hs hx := by
    rw [mapError_apply] at hx
    rcases hxs : x s with ⟨e' | b, t⟩
    · rw [hxs] at hx
      obtain ⟨he, rfl⟩ := Prod.mk.inj hx
      obtain rfl := Except.error.inj he
      exact h.of_error hs hxs
    · rw [hxs] at hx
      cases (Prod.mk.inj hx).1

theorem ofExcept {r : Except ε α} (hQ : ∀ a s, r = .ok a → P s → Q a s)
    (hE : ∀ e s, r = .error e → P s → E e s) : Triple P (Action.ofExcept r) Q E where
  of_ok hs hx := by
    obtain ⟨hr, rfl⟩ := Prod.mk.inj hx
    exact hQ _ _ hr hs
  of_error hs hx := by
    obtain ⟨hr, rfl⟩ := Prod.mk.inj hx
    exact hE _ _ hr hs

/-- A step that cannot fail. -/
theorem step {f : σ → α × σ} (h : ∀ s, P s → Q (f s).1 (f s).2) :
    Triple P (Action.step f : Action σ ε α) Q E where
  of_ok hs hx := by
    obtain ⟨ha, rfl⟩ := Prod.mk.inj hx
    obtain rfl := Except.ok.inj ha
    exact h _ hs
  of_error _ hx := nomatch (Prod.mk.inj hx).1

theorem inspect {f : σ → α} (h : ∀ s, P s → Q (f s) s) :
    Triple P (Action.inspect f : Action σ ε α) Q E :=
  step (f := fun s => (f s, s)) h

/-- What follows a look at a known state goes on with what is there. -/
theorem inspect_bind {f : σ → α} {g : α → Action σ ε β} {s : σ} {Q : β → σ → Prop}
    (h : Triple (· = s) (g (f s)) Q E) : Triple (· = s) (Action.inspect f >>= g) Q E where
  of_ok := by
    rintro _ s' b rfl hx
    exact h.of_ok rfl hx
  of_error := by
    rintro _ s' e rfl hx
    exact h.of_error rfl hx

theorem modify {f : σ → σ} {Q : Unit → σ → Prop} (h : ∀ s, P s → Q () (f s)) :
    Triple P (Action.modify f : Action σ ε Unit) Q E :=
  step (f := fun s => ((), f s)) h

/-- An action on a part starts from the part, and the rest of the state stays as it is. -/
theorem zoom {p : Part σ τ} {x : Action τ ε α}
    (h : ∀ s, P s → Triple (· = p.get s) x (fun a t => Q a (p.set t s))
      fun e t => E e (p.set t s)) : Triple P (x.zoom p) Q E where
  of_ok {s s' a} hs hx := by
    rw [zoom_apply] at hx
    obtain ⟨ha, rfl⟩ := Prod.mk.inj hx
    exact (h s hs).of_ok rfl (Prod.ext ha rfl)
  of_error {s s' e} hs hx := by
    rw [zoom_apply] at hx
    obtain ⟨he, rfl⟩ := Prod.mk.inj hx
    exact (h s hs).of_error rfl (Prod.ext he rfl)

/-- An action on a part of a known state replaces the part. -/
theorem zoom_at {p : Part σ τ} {x : Action τ ε α} {s : σ} {R : α → τ → Prop} {F : ε → τ → Prop}
    (h : Triple (· = p.get s) x R F) : Triple (· = s) (x.zoom p)
      (fun a s' => ∃ t, s' = p.set t s ∧ R a t) (fun e s' => ∃ t, s' = p.set t s ∧ F e t) := by
  refine .zoom ?_
  rintro _ rfl
  exact h.mono (fun _ t ht => ⟨t, rfl, ht⟩) fun _ t ht => ⟨t, rfl, ht⟩

end Triple

/-! ## Runs that give a value -/

/-- Both actions of a run that gives a value have given one. -/
theorem bind_eq_ok_iff {x : Action σ ε α} {f : α → Action σ ε β} {s s'' : σ} {b : β} :
    (x >>= f) s = (.ok b, s'') ↔ ∃ a s', x s = (.ok a, s') ∧ f a s' = (.ok b, s'') := by
  constructor
  · intro h
    rcases hx : x s with ⟨e | a, s'⟩
    · rw [bind_of_error hx] at h
      cases h
    · exact ⟨a, s', rfl, (bind_of_ok hx f).symm.trans h⟩
  · rintro ⟨a, s', hx, hf⟩
    exact (bind_of_ok hx f).trans hf

/-- Another error is no other value. -/
theorem mapError_eq_ok_iff {x : Action σ ε α} {f : ε → ε'} {s s' : σ} {a : α} :
    x.mapError f s = (.ok a, s') ↔ x s = (.ok a, s') := by
  rw [mapError_apply]
  rcases x s with ⟨e | a', t⟩
  · constructor <;> (intro h; cases h)
  · constructor <;> (intro h; cases h; rfl)

/-- An attempt gives what the action ends with. -/
theorem attempt_eq_ok_iff {x : Action σ ε α} {s s' : σ} {outcome : Except ε α} :
    (x.attempt : Action σ ε' _) s = (.ok outcome, s') ↔ x s = (outcome, s') := by
  rw [attempt_apply, Prod.ext_iff, Prod.ext_iff, Except.ok.injEq]

/-- Nothing follows a failure. -/
@[simp] theorem throw_bind (e : ε) (f : α → Action σ ε β) :
    ((throw e : Action σ ε α) >>= f) = throw e := rfl

/-! ## Actions on a part -/

/-- An action on a part of a known state. -/
theorem zoom_of_eq {p : Part σ τ} {x : Action τ ε α} {s : σ} {result : Except ε α} {t : τ}
    (h : x (p.get s) = (result, t)) : x.zoom p s = (result, p.set t s) := by
  rw [zoom_apply, h]

variable (p : Part σ τ)

/-- One action on a part after the other is one action on the part. -/
theorem zoom_bind (x : Action τ ε α) (f : α → Action τ ε β) :
    (x >>= f).zoom p = x.zoom p >>= fun a => (f a).zoom p := by
  funext s
  rw [bind_apply, zoom_apply, zoom_apply, bind_apply]
  rcases x (p.get s) with ⟨_ | a, t⟩
  · rfl
  · dsimp only
    rw [zoom_apply, p.get_set, p.set_set]

theorem zoom_pure (a : α) : (pure a : Action τ ε α).zoom p = pure a := by
  funext s
  rw [zoom_apply, pure_apply, pure_apply, p.set_get]

theorem zoom_throw (e : ε) : (throw e : Action τ ε α).zoom p = throw e := by
  funext s
  rw [zoom_apply, throw_apply, throw_apply, p.set_get]

theorem zoom_inspect (f : τ → α) :
    (Action.inspect f : Action τ ε α).zoom p = .inspect fun s => f (p.get s) := by
  funext s
  rw [zoom_apply, inspect_apply, inspect_apply, p.set_get]

theorem zoom_modify (f : τ → τ) :
    (Action.modify f : Action τ ε Unit).zoom p = .modify fun s => p.set (f (p.get s)) s := rfl

end Overlay.Action
