import ReleaseCatalog.Journal.Event

/-!
# Computations that keep a journal

Looking a release up may fail, and it notes events on the way.  What was noted
before a failure stays noted.  A traced computation is its outcome together
with the events noted, oldest first.
-/

namespace ReleaseCatalog.Journal

/-- An outcome and the events noted on the way to it. -/
structure Traced (ε α : Type) where
  outcome : Except ε α
  /-- The events, oldest first. -/
  events : List Event

namespace Traced

variable {ε α β : Type}

/-- Succeeds without noting anything. -/
protected def pure (a : α) : Traced ε α := ⟨.ok a, []⟩

/-- Goes on after a success.  After a failure only what was noted is left. -/
protected def bind (x : Traced ε α) (f : α → Traced ε β) : Traced ε β :=
  match x.outcome with
  | .ok a => ⟨(f a).outcome, x.events ++ (f a).events⟩
  | .error e => ⟨.error e, x.events⟩

instance : Monad (Traced ε) where
  pure := Traced.pure
  bind := Traced.bind

/-- Notes events. -/
def note (events : List Event) : Traced ε Unit := ⟨.ok (), events⟩

/-- An outcome that notes nothing. -/
def ofExcept (outcome : Except ε α) : Traced ε α := ⟨outcome, []⟩

/-! ## Outcomes and events of sequences -/

/-- The outcome of a sequence does not depend on what is noted. -/
@[simp] theorem outcome_bind (x : Traced ε α) (f : α → Traced ε β) :
    (x >>= f).outcome = x.outcome >>= fun a => (f a).outcome := by
  show (Traced.bind x f).outcome = _
  unfold Traced.bind
  cases x.outcome with
  | ok a => rfl
  | error e => rfl

/-- A computation goes on with the value of its first step. -/
theorem outcome_bind_of_ok {x : Traced ε α} {f : α → Traced ε β} {a : α} (h : x.outcome = .ok a) :
    (x >>= f).outcome = (f a).outcome := by
  rw [outcome_bind, h]
  rfl

@[simp] theorem outcome_note (events : List Event) :
    (note events : Traced ε Unit).outcome = .ok () := rfl

end Traced

end ReleaseCatalog.Journal
