import Mathlib.Data.Set.Basic
/-!
# What can be computed from what is known

`operations` says which values an operation anyone can apply makes from which.
What someone can compute is what such operations, applied again and again, make
from what they know. To show that a value stays out of reach, find a set that
the operations do not leave (`Computes.mem_of_closed`).
-/

namespace CameraStreamer.Knowledge

variable {M : Type} (operations : List M → M → Prop)

/-- From the values of `known`, applying the operations, to the value. -/
inductive Computes (known : Set M) : M → Prop
  | given {m} : m ∈ known → Computes known m
  | apply {args m} : (∀ x ∈ args, Computes known x) → operations args m → Computes known m

/-- No operation leads from values of `S` out of it. -/
def Closed (S : Set M) : Prop := ∀ args m, operations args m → (∀ x ∈ args, x ∈ S) → m ∈ S

variable {operations}

theorem Computes.mem_of_closed {known S : Set M} {m : M} (h : Computes operations known m)
    (hS : Closed operations S) (hk : known ⊆ S) : m ∈ S := by
  induction h with
  | given hm => exact hk hm
  | apply _ ho ih => exact hS _ _ ho ih

end CameraStreamer.Knowledge
