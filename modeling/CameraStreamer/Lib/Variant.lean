import CameraStreamer.Lib.Runs
/-!
# Runs that come to an end

Where each good action from a pending state lowers a rank or is the last one, and a
pending state always has a good action, every run of good actions is short and can be
taken to its end.
-/

namespace CameraStreamer.Runs

variable {σ α : Type} {step : σ → α → Option σ}

/-- `Good` actions take a `Pending` state towards `Done`, where there are none. -/
structure Variant (step : σ → α → Option σ) (Good : σ → α → Prop) (Pending Done : σ → Prop) (rank : σ → Nat) :
    Prop where
  lowers : ∀ s a s', Pending s → Good s a → step s a = some s' → Pending s' ∧ rank s' < rank s ∨ Done s' ∧ 0 < rank s
  last : ∀ s a, Done s → ¬ Good s a
  next : ∀ s, Pending s → ∃ a s', Good s a ∧ step s a = some s'

variable {Good : σ → α → Prop} {Pending Done : σ → Prop} {rank : σ → Nat}

/-- What is left of the rank after a run of good actions. -/
theorem Variant.spent (hv : Variant step Good Pending Done rank) {s t : σ} {as : List α} (hs : Pending s)
    (h : Run step s as t) (hm : Meets step Good s as) :
    Pending t ∧ as.length + rank t ≤ rank s ∨ Done t ∧ as.length ≤ rank s := by
  induction h with
  | nil => exact .inl ⟨hs, Nat.le_of_eq (Nat.zero_add _)⟩
  | @snoc as t a t' hr ha ih =>
    have hgood : Good t a := hm.last hr
    rw [List.length_append, List.length_singleton]
    rcases ih hm.left with ⟨hp, hle⟩ | ⟨hd, -⟩
    · rcases hv.lowers t a t' hp hgood ha with ⟨hp', hlt⟩ | ⟨hd', hpos⟩
      · exact .inl ⟨hp', by omega⟩
      · exact .inr ⟨hd', by omega⟩
    · exact absurd hgood (hv.last t a hd)

/-- No run of good actions is longer than the rank, and one that is over is done. -/
theorem Variant.ends (hv : Variant step Good Pending Done rank) {s t : σ} {as : List α} (hs : Pending s)
    (h : Run step s as t) (hm : Meets step Good s as) :
    as.length ≤ rank s ∧ (Done t ∨ ∃ a t', Good t a ∧ step t a = some t') := by
  rcases hv.spent hs h hm with ⟨hp, hle⟩ | ⟨hd, hle⟩
  · exact ⟨by omega, .inr (hv.next t hp)⟩
  · exact ⟨hle, .inl hd⟩

end CameraStreamer.Runs
