/-!
# Steps

A `Step σ ε α` is an operation on a state of type `σ`. It answers with an `α` or fails
with an `ε`, and the state it leaves behind counts either way : a step that fails half
way keeps what it did before the failure.

Steps are plain functions, so a step is run by applying it. Sequencing stops at the
first failure (`bind_apply`). A part of a state is acted on through `Step.within`, which
also says how the part's failures read in the whole (`within_ok`, `within_error`).
-/

namespace VizSession

/-- An operation that answers or fails, and leaves a state in both cases. -/
def Step (σ ε α : Type) : Type := σ → Except ε α × σ

namespace Step

variable {σ τ ε ε' α β : Type}

instance : Monad (Step σ ε) where
  pure a := fun s => (.ok a, s)
  bind x f := fun s =>
    match x s with
    | (.ok a, s') => f a s'
    | (.error e, s') => (.error e, s')

/-- Stops with a failure, leaving the state alone. -/
def fail (e : ε) : Step σ ε α := fun s => (.error e, s)

/-- Asks the state a question that cannot fail. -/
def read (f : σ → α) : Step σ ε α := fun s => (.ok (f s), s)

/-- Asks the state a question that may fail. -/
def query (f : σ → Except ε α) : Step σ ε α := fun s => (f s, s)

/-- Changes the state. -/
def update (f : σ → σ) : Step σ ε Unit := fun s => (.ok (), f s)

/-- The answer of a computation without state. -/
def ofExcept (r : Except ε α) : Step σ ε α := fun s => (r, s)

/-- Runs a step on a part of the state, `wrap` turning the part's failures into failures
of the whole. -/
def within (part : σ → τ) (replace : τ → σ → σ) (wrap : ε → ε') (x : Step τ ε α) :
    Step σ ε' α := fun s =>
  ((x (part s)).1.mapError wrap, replace (x (part s)).2 s)

/-! ## Running -/

@[simp] theorem pure_apply (a : α) (s : σ) : (pure a : Step σ ε α) s = (.ok a, s) := rfl

theorem bind_apply (x : Step σ ε α) (f : α → Step σ ε β) (s : σ) :
    (x >>= f) s =
      match x s with
      | (.ok a, s') => f a s'
      | (.error e, s') => (.error e, s') := rfl

theorem within_ok {part : σ → τ} {replace : τ → σ → σ} {wrap : ε → ε'} {x : Step τ ε α} {s : σ}
    {a : α} {t : τ} (h : x (part s) = (.ok a, t)) :
    within part replace wrap x s = (.ok a, replace t s) := by
  unfold within
  rw [h]
  rfl

theorem within_error {part : σ → τ} {replace : τ → σ → σ} {wrap : ε → ε'} {x : Step τ ε α}
    {s : σ} {e : ε} {t : τ} (h : x (part s) = (.error e, t)) :
    within part replace wrap x s = (.error (wrap e), replace t s) := by
  unfold within
  rw [h]
  rfl

theorem bind_ok {x : Step σ ε α} {f : α → Step σ ε β} {s s' : σ} {a : α}
    (h : x s = (.ok a, s')) : (x >>= f) s = f a s' := by
  rw [bind_apply, h]

theorem bind_error {x : Step σ ε α} {f : α → Step σ ε β} {s s' : σ} {e : ε}
    (h : x s = (.error e, s')) : (x >>= f) s = (.error e, s') := by
  rw [bind_apply, h]

/-- A step has one answer. -/
theorem answer_unique {x : Step σ ε α} {s s' s'' : σ} {a b : α} (h : x s = (.ok a, s'))
    (h' : x s = (.ok b, s'')) : a = b :=
  Except.ok.inj (congrArg Prod.fst (h.symm.trans h'))

/-- Answering with something made of the answer leaves the state alone. -/
theorem snd_bind_pure (x : Step σ ε α) (f : α → β) (s : σ) :
    ((x >>= fun a => pure (f a)) s).2 = (x s).2 := by
  rw [bind_apply]
  split
  · rename_i a s' h
    rw [h]
    rfl
  · rename_i e s' h
    rw [h]

theorem ok_of_map {r : Except ε α} {f : α → β} {b : β} (h : r.map f = .ok b) :
    ∃ a, r = .ok a ∧ f a = b := by
  cases r with
  | ok a => exact ⟨a, rfl, Except.ok.inj h⟩
  | error e => cases h

/-- An answer that was made of an answer. -/
theorem ok_of_bind_pure {x : Step σ ε α} {f : α → β} {s : σ} {b : β}
    (h : ((x >>= fun a => pure (f a)) s).1 = .ok b) : ∃ a, (x s).1 = .ok a ∧ f a = b := by
  rw [bind_apply] at h
  split at h
  · rename_i a s' hx
    rw [hx]
    exact ⟨a, rfl, Except.ok.inj h⟩
  · cases h

@[simp] theorem fail_apply (e : ε) (s : σ) : (fail e : Step σ ε α) s = (.error e, s) := rfl

@[simp] theorem read_apply (f : σ → α) (s : σ) : (read f : Step σ ε α) s = (.ok (f s), s) := rfl

@[simp] theorem query_apply (f : σ → Except ε α) (s : σ) : query f s = (f s, s) := rfl

@[simp] theorem update_apply (f : σ → σ) (s : σ) :
    (update f : Step σ ε Unit) s = (.ok (), f s) := rfl

end Step

end VizSession
