import CameraStreamer.Lib.Runs
/-!
# Fan-out

A source hands each item to whoever was registered when the item was pulled, one
call after the other, while others go on registering. Over any run a subscriber
gets each item as often as it had registered before the item, in order.
-/

namespace CameraStreamer.Fanout

open Runs

variable {κ ι : Type}

inductive Act (κ ι : Type) where
  | register (k : κ)
  | pull (item : ι)
  /-- The next call, or after the last one the end of the item. -/
  | next

structure State (κ ι : Type) where
  registered : List κ := []
  /-- The item under way, and the calls still to make. -/
  under_way : Option (ι × List κ) := none
  given : List (κ × ι) := []

def step (s : State κ ι) : Act κ ι → Option (State κ ι)
  | .register k => some { s with registered := s.registered ++ [k] }
  | .pull item =>
    match s.under_way with
    | none => some { s with under_way := some (item, s.registered) }
    | some _ => none
  | .next =>
    match s.under_way with
    | some (item, k :: ks) => some { s with under_way := some (item, ks), given := s.given ++ [(k, item)] }
    | some (_, []) => some { s with under_way := none }
    | none => none

/-- The registrations among the actions. -/
def registrations : List (Act κ ι) → List κ
  | .register k :: as => k :: registrations as
  | _ :: as => registrations as
  | [] => []

theorem registrations_append (as bs : List (Act κ ι)) :
    registrations (as ++ bs) = registrations as ++ registrations bs := by
  induction as with
  | nil => rfl
  | cons a as ih => cases a <;> simp [registrations, ih]

variable [DecidableEq κ]

/-- What is owed to `k` for the actions, which it had registered `n` times before. -/
def due (k : κ) : Nat → List (Act κ ι) → List ι
  | n, .register k' :: as => due k (if k' = k then n + 1 else n) as
  | n, .pull item :: as => List.replicate n item ++ due k n as
  | n, .next :: as => due k n as
  | _, [] => []

def State.got (s : State κ ι) (k : κ) : List ι := (s.given.filter (·.1 = k)).map (·.2)

/-- What `k` still gets of the item under way. -/
def State.pending (s : State κ ι) (k : κ) : List ι :=
  match s.under_way with
  | some (item, ks) => List.replicate (ks.count k) item
  | none => []

theorem due_append (k : κ) (n : Nat) (as bs : List (Act κ ι)) :
    due k n (as ++ bs) = due k n as ++ due k (n + (registrations as).count k) bs := by
  induction as generalizing n with
  | nil => rfl
  | cons a as ih =>
    cases a with
    | register k' =>
      by_cases hk : k' = k
      · simp [due, registrations, ih, hk, Nat.add_assoc, Nat.add_comm 1]
      · simp [due, registrations, ih, hk]
    | pull item => simp [due, registrations, ih]
    | next => simp [due, registrations, ih]

/-- What one action adds to what `k` got and still gets. -/
theorem step_due {s s' : State κ ι} {a : Act κ ι} (h : step s a = some s') (k : κ) :
    s'.got k ++ s'.pending k = s.got k ++ s.pending k ++ due k (s.registered.count k) [a] ∧
      s'.registered = s.registered ++ registrations [a] := by
  cases a with
  | register k' =>
    simp only [step, Option.some.injEq] at h
    subst h
    simp [State.got, State.pending, due, registrations]
  | pull item =>
    simp only [step] at h
    split at h
    · rename_i hnone
      simp only [Option.some.injEq] at h
      subst h
      simp [State.got, State.pending, due, registrations, hnone]
    · cases h
  | next =>
    simp only [step] at h
    split at h
    · rename_i item k' ks hway
      simp only [Option.some.injEq] at h
      subst h
      by_cases hk : k' = k
      · simp [State.got, State.pending, due, registrations, hway, hk, List.replicate_succ]
      · simp [State.got, State.pending, due, registrations, hway, hk]
    · rename_i item hway
      simp only [Option.some.injEq] at h
      subst h
      simp [State.got, State.pending, due, registrations, hway]
    · cases h

/-- Over every run, what a subscriber got and still gets is what is owed to it. -/
theorem got_pending {as : List (Act κ ι)} {t : State κ ι} (h : Run step {} as t) (k : κ) :
    t.got k ++ t.pending k = due k 0 as := by
  have hrun : t.registered = registrations as ∧ t.got k ++ t.pending k = due k 0 as := by
    refine h.inv_trace (fun as s => s.registered = registrations as ∧ s.got k ++ s.pending k = due k 0 as)
      ⟨rfl, rfl⟩ ?_
    rintro as s a s' - ⟨hreg, hgot⟩ hs
    obtain ⟨hdue, hreg'⟩ := step_due hs k
    refine ⟨by rw [hreg', hreg, registrations_append], ?_⟩
    rw [hdue, hgot, hreg, due_append, Nat.zero_add]
  exact hrun.2

end CameraStreamer.Fanout
