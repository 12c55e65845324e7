import Mathlib.Tactic.Ring
/-!
# Computations that may fail

A computation over a state gives a value or stops with an error. What it did to
the state before an error stays done, so that a caller can clean up after it.
`Does` is one successful computation. Its simp lemmas take a straight line of
calls apart into what each call asked and one final state.
-/

namespace CameraStreamer.Effects

/-- Over the state `σ`, with errors `ε`. -/
def Fallible (σ ε α : Type) : Type := σ → Except ε α × σ

variable {σ ε α β : Type}

instance : Monad (Fallible σ ε) where
  pure a := fun s => (.ok a, s)
  bind x f := fun s =>
    match x s with
    | (.ok a, t) => f a t
    | (.error e, t) => (.error e, t)

def fail (e : ε) : Fallible σ ε α := fun s => (.error e, s)

def modify (f : σ → σ) : Fallible σ ε Unit := fun s => (.ok (), f s)

/-- Goes on only if `c`. -/
def require (c : Bool) (e : ε) : Fallible σ ε Unit := if c then pure () else fail e

/-- The value of a result obtained before. -/
def value : Except ε α → Fallible σ ε α
  | .ok a => pure a
  | .error e => fail e

/-! ## Success -/

/-- From `s` the computation gives `a` and leaves `t`. -/
def Does (x : Fallible σ ε α) (s : σ) (a : α) (t : σ) : Prop := x s = (.ok a, t)

variable {s t u : σ} {a b : α} {e : ε} {x : Fallible σ ε α} {f : α → Fallible σ ε β}

@[simp] theorem does_pure : Does (pure a : Fallible σ ε α) s b t ↔ a = b ∧ s = t := by
  simp [Does, pure]

@[simp] theorem does_fail : ¬ Does (fail e : Fallible σ ε α) s b t := by
  simp [Does, fail]

@[simp] theorem does_modify {g : σ → σ} {v : Unit} : Does (modify g : Fallible σ ε Unit) s v t ↔ g s = t := by
  simp [Does, modify]

@[simp] theorem does_bind {b : β} : Does (x >>= f) s b u ↔ ∃ a t, Does x s a t ∧ Does (f a) t b u := by
  constructor
  · intro h
    simp only [Does, bind] at h
    split at h
    · rename_i a t hx
      exact ⟨a, t, hx, h⟩
    · cases h
  · rintro ⟨a, t, hx, hf⟩
    simp only [Does, bind] at hx ⊢
    rw [hx]
    exact hf

@[simp] theorem does_require {c : Bool} {v : Unit} :
    Does (require c e : Fallible σ ε Unit) s v t ↔ c = true ∧ s = t := by
  cases c with
  | true => simp [require]
  | false => simp [require]

@[simp] theorem does_value {r : Except ε α} : Does (value r : Fallible σ ε α) s a t ↔ r = .ok a ∧ s = t := by
  cases r with
  | ok b => simp [value]
  | error e => simp [value]

/-! ## Growth -/

/-- Whatever the outcome, the computation adds at most `n` to `measure`. -/
def Adds (measure : σ → Nat) (n : Nat) (x : Fallible σ ε α) : Prop := ∀ s, measure (x s).2 ≤ measure s + n

variable {measure : σ → Nat} {n m : Nat}

theorem Adds.pure : Adds measure n (pure a : Fallible σ ε α) := fun _ => Nat.le_add_right _ _

theorem Adds.fail : Adds measure n (fail e : Fallible σ ε α) := fun _ => Nat.le_add_right _ _

theorem Adds.require {c : Bool} : Adds measure n (require c e : Fallible σ ε Unit) := by
  cases c with
  | true => exact .pure
  | false => exact .fail

theorem Adds.value {r : Except ε α} : Adds measure n (value r : Fallible σ ε α) := by
  cases r with
  | ok b => exact .pure
  | error e => exact .fail

theorem Adds.modify {g : σ → σ} (h : ∀ s, measure (g s) ≤ measure s + n) :
    Adds measure n (modify g : Fallible σ ε Unit) := h

/-- What the first part does not add is left for the rest. -/
theorem Adds.bind (hx : Adds measure n x) (hnm : n ≤ m) (hf : ∀ a, Adds measure (m - n) (f a)) :
    Adds measure m (x >>= f) := by
  intro s
  have h := hx s
  show measure (match x s with | (.ok a, t) => f a t | (.error e, t) => (.error e, t)).2 ≤ _
  split
  · rename_i a t he
    rw [he] at h
    exact (hf a t).trans (by dsimp only at h; omega)
  · rename_i e t he
    rw [he] at h
    exact h.trans (by omega)

theorem Adds.mono (h : Adds measure n x) (hnm : n ≤ m) : Adds measure m x := fun s => (h s).trans (by omega)

/-- After a first part that succeeded and left `measure` as it was, only the rest counts. -/
theorem bind_le {bound : Nat} (hx : measure (x s).2 ≤ bound)
    (hf : ∀ a t, Does x s a t → measure (f a t).2 ≤ bound) : measure ((x >>= f) s).2 ≤ bound := by
  show measure (match x s with | (.ok a, t) => f a t | (.error e, t) => (.error e, t)).2 ≤ bound
  split
  · rename_i a t he
    exact hf a t he
  · rename_i e t he
    rw [he] at hx
    exact hx

end CameraStreamer.Effects
