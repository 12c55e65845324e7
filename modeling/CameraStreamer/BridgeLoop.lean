import Mathlib.Logic.Function.Basic
import Mathlib.Order.Fin.Basic
import CameraStreamer.Lib.Runs
/-!
# The loop of the host's bridge

`Impl::run` polls two listeners and two clients, and then looks at each channel in
turn: it accepts a new client, which replaces the old one, and reads from the client
if `poll` has reported something on it. What it looks at is what was reported of the
old client.
-/

namespace CameraStreamer.Secure.BridgeLoop

open Runs

/-- What `poll` reports: `POLLIN` of a listener, any of `POLLIN`, `POLLHUP` and `POLLERR` of a client. -/
structure Revents where
  listener : Fin 2 → Bool
  client : Fin 2 → Bool

/-- A `recv` of turn `turn`, on the client of a channel, where `revents` were those of
`polled`. A client goes by the turn it was accepted in. -/
structure Recv where
  turn : Nat
  channel : Fin 2
  client : Nat
  polled : Option Nat

inductive Pc where
  /-- At `while (!stopping)`. -/
  | idle
  /-- In the loop over the channels. -/
  | serving (i : Fin 2) (fds : Revents) (polled : Fin 2 → Option Nat)
  | draining
  | ended

structure Bridge where
  pc : Pc
  clients : Fin 2 → Option Nat
  turn : Nat
  stopping : Bool
  usbFailed : Bool
  recvs : List Recv

/-- What `recv` gives, and whether `sendRecord` works. -/
inductive Received where
  | ended
  | bytes (sent : Bool)

inductive Act where
  /-- All zero where it was interrupted. -/
  | poll (fds : Revents)
  | poll_failed
  /-- One channel: whether `accept4` works. -/
  | serve (accepts : Bool) (received : Received)
  /-- A record for a channel, in `drainInbound`. -/
  | deliver (i : Fin 2) (written : Bool)
  | drained (ok : Bool)
  | leave
  /-- Other threads. -/
  | stop
  | usb_fail

namespace Bridge

def new : Bridge := ⟨.idle, fun _ => none, 0, false, false, []⟩

def closeClient (s : Bridge) (i : Fin 2) : Bridge := { s with clients := Function.update s.clients i none }

def accept (s : Bridge) (i : Fin 2) (fds : Revents) (accepts : Bool) : Bridge :=
  if fds.listener i && accepts then { s with clients := Function.update s.clients i (some s.turn) } else s

/-- After the loop. -/
def finish (s : Bridge) : Bridge := { s with pc := .ended, stopping := true, clients := fun _ => none }

/-- The next channel, or what comes after the last. -/
def next (s : Bridge) (i : Fin 2) (fds : Revents) (polled : Fin 2 → Option Nat) : Bridge :=
  if h : i.val + 1 < 2 then { s with pc := .serving ⟨i.val + 1, h⟩ fds polled }
  else if s.usbFailed then s.finish
  else { s with pc := .draining }

def recv (s : Bridge) (i : Fin 2) (fds : Revents) (polled : Fin 2 → Option Nat) (received : Received) : Bridge :=
  match s.clients i, fds.client i with
  | some client, true =>
    let s := { s with recvs := s.recvs ++ [(⟨s.turn, i, client, polled i⟩ : Recv)] }
    match received with
    | .ended => (s.closeClient i).next i fds polled
    | .bytes true => s.next i fds polled
    | .bytes false => { s with usbFailed := true }.finish
  | _, _ => s.next i fds polled

def step (s : Bridge) (a : Act) : Option Bridge :=
  match s.pc, a with
  | .idle, .poll fds =>
    -- nothing is reported of a descriptor that is negative
    if !s.stopping && decide (∀ i, fds.client i = true → (s.clients i).isSome = true) then
      some { s with turn := s.turn + 1, pc := .serving ⟨0, Nat.two_pos⟩ fds s.clients }
    else none
  | .idle, .poll_failed => if s.stopping then none else some s.finish
  | .idle, .leave => if s.stopping then some s.finish else none
  | .serving i fds polled, .serve accepts received => some ((s.accept i fds accepts).recv i fds polled received)
  | .draining, .deliver i written => some (if (s.clients i).isSome && !written then s.closeClient i else s)
  | .draining, .drained ok => some (if ok then { s with pc := .idle } else s.finish)
  | _, .stop => some { s with stopping := true }
  | _, .usb_fail => some { s with usbFailed := true }
  | _, _ => none

/-- Each `recv` was on what `poll` had reported, which was accepted in an earlier turn. -/
def Sound (s : Bridge) : Prop := ∀ r ∈ s.recvs, r.polled = some r.client ∧ r.client < r.turn

/-- No client is replaced in a turn that has something reported of it. -/
def keeps (s : Bridge) (a : Act) : Bool :=
  match s.pc, a with
  | .serving i fds _, .serve accepts _ => !(fds.listener i && accepts && fds.client i)
  | _, _ => true

/-- Clients were accepted by now. -/
def Past (s : Bridge) : Prop := ∀ i c, s.clients i = some c → c ≤ s.turn

/-- From channel `i` on, the clients are those that were polled. -/
structure Polled (s : Bridge) (i : Fin 2) (fds : Revents) (polled : Fin 2 → Option Nat) : Prop where
  same : ∀ j, i ≤ j → polled j = s.clients j
  past : ∀ j c, polled j = some c → c < s.turn
  ready : ∀ j, fds.client j = true → (polled j).isSome = true

structure Inv (s : Bridge) : Prop where
  past : s.Past
  polled : ∀ i fds polled, s.pc = .serving i fds polled → s.Polled i fds polled

/-! ## One channel -/

variable {s s' : Bridge} {i : Fin 2} {fds : Revents} {polled : Fin 2 → Option Nat}

theorem next_recvs : (s.next i fds polled).recvs = s.recvs := by
  unfold next
  split
  · rfl
  · split
    · rfl
    · rfl

theorem Past.closeClient (h : s.Past) : (s.closeClient i).Past := by
  intro j c hc
  by_cases hj : j = i
  · rw [hj] at hc
    simp [Bridge.closeClient] at hc
  · exact h j c (by simpa [Bridge.closeClient, hj] using hc)

theorem accept_clients {accepts : Bool} {j : Fin 2} (hj : j ≠ i) :
    (s.accept i fds accepts).clients j = s.clients j := by
  unfold accept
  split
  · exact Function.update_of_ne hj _ _
  · rfl

theorem Past.accept (h : s.Past) (accepts : Bool) : (s.accept i fds accepts).Past := by
  unfold Bridge.accept
  split
  · intro j c hc
    by_cases hj : j = i
    · rw [hj] at hc
      simp only [Function.update_self, Option.some.injEq] at hc
      exact hc.ge
    · exact h j c (by simpa [hj] using hc)
  · exact h

/-- Ended, or with no more channels to serve, there is nothing to say but of the clients. -/
theorem Inv.of_past (h : s.Past) (hpc : ∀ i fds polled, s.pc ≠ .serving i fds polled) : s.Inv :=
  ⟨h, fun i fds polled he => absurd he (hpc i fds polled)⟩

/-- The flags are no part of it. -/
theorem Inv.flagged (h : s.Inv) (stopping usbFailed : Bool) :
    Inv { s with stopping := stopping, usbFailed := usbFailed } :=
  ⟨h.past, fun i fds polled he =>
    ⟨(h.polled i fds polled he).same, (h.polled i fds polled he).past, (h.polled i fds polled he).ready⟩⟩

theorem finish_inv : s.finish.Inv :=
  .of_past (fun _ _ h => (Option.some_ne_none _ h.symm).elim) fun _ _ _ h => by cases h

theorem next_inv (h : s.Past) (hother : ∀ j, i < j → polled j = s.clients j)
    (hpast : ∀ j c, polled j = some c → c < s.turn)
    (hready : ∀ j, fds.client j = true → (polled j).isSome = true) : (s.next i fds polled).Inv := by
  unfold next
  split
  · rename_i hi
    refine ⟨h, fun j fds' polled' he => ?_⟩
    cases he
    exact ⟨fun j hj => hother j (Nat.lt_of_succ_le hj), hpast, hready⟩
  · split
    · exact finish_inv
    · exact .of_past h fun _ _ _ he => by cases he

/-- What looking at a client comes to. -/
theorem recv_cases (s : Bridge) (i : Fin 2) (fds : Revents) (polled : Fin 2 → Option Nat) (received : Received) :
    (s.recv i fds polled received = s.next i fds polled ∧ ¬ ((s.clients i).isSome = true ∧ fds.client i = true)) ∨
    ∃ client, s.clients i = some client ∧ fds.client i = true ∧
      let read := { s with recvs := s.recvs ++ [(⟨s.turn, i, client, polled i⟩ : Recv)] }
      s.recv i fds polled received = (read.closeClient i).next i fds polled ∨
        s.recv i fds polled received = read.next i fds polled ∨
        s.recv i fds polled received = { read with usbFailed := true }.finish := by
  unfold recv
  cases hc : s.clients i with
  | none => exact .inl ⟨rfl, fun h => by cases h.1⟩
  | some client =>
    cases hr : fds.client i with
    | false => exact .inl ⟨rfl, fun h => by cases h.2⟩
    | true =>
      refine .inr ⟨client, rfl, rfl, ?_⟩
      cases received with
      | ended => exact .inl rfl
      | bytes sent =>
        cases sent with
        | true => exact .inr (.inl rfl)
        | false => exact .inr (.inr rfl)

theorem accept_turn {accepts : Bool} :
    (s.accept i fds accepts).turn = s.turn ∧ (s.accept i fds accepts).recvs = s.recvs := by
  unfold accept
  split
  · exact ⟨rfl, rfl⟩
  · exact ⟨rfl, rfl⟩

theorem serve_inv (hI : s.Inv) (hpc : s.pc = .serving i fds polled) (accepts : Bool) (received : Received) :
    ((s.accept i fds accepts).recv i fds polled received).Inv := by
  have hpolled := hI.polled i fds polled hpc
  have hpast : (s.accept i fds accepts).Past := hI.past.accept accepts
  have hother : ∀ j, i < j → polled j = (s.accept i fds accepts).clients j := fun j hj => by
    rw [accept_clients (ne_of_gt hj)]
    exact hpolled.same j (le_of_lt hj)
  have hturn : ∀ j c, polled j = some c → c < (s.accept i fds accepts).turn := fun j c hc => by
    rw [accept_turn.1]
    exact hpolled.past j c hc
  rcases recv_cases (s.accept i fds accepts) i fds polled received with ⟨he, -⟩ | ⟨client, -, -, he | he | he⟩
  · rw [he]
    exact next_inv hpast hother hturn hpolled.ready
  · rw [he]
    refine next_inv (Past.closeClient hpast) (fun j hj => ?_) hturn hpolled.ready
    rw [hother j hj]
    exact (Function.update_of_ne (ne_of_gt hj) _ _).symm
  · rw [he]
    exact next_inv hpast hother hturn hpolled.ready
  · rw [he]
    exact finish_inv

/-- What a channel's turn logs. -/
theorem serve_recvs (s : Bridge) (i : Fin 2) (fds : Revents) (polled : Fin 2 → Option Nat) (accepts : Bool)
    (received : Received) :
    let t := s.accept i fds accepts
    ((t.recv i fds polled received).recvs = s.recvs ∧ ¬ ((t.clients i).isSome = true ∧ fds.client i = true)) ∨
      ∃ client, t.clients i = some client ∧ fds.client i = true ∧
        (t.recv i fds polled received).recvs = s.recvs ++ [⟨s.turn, i, client, polled i⟩] := by
  intro t
  have hturn : t.turn = s.turn ∧ t.recvs = s.recvs := accept_turn
  rcases recv_cases t i fds polled received with ⟨he, hno⟩ | ⟨client, hc, hr, he⟩
  · exact .inl ⟨by rw [he, next_recvs, hturn.2], hno⟩
  · refine .inr ⟨client, hc, hr, ?_⟩
    rw [← hturn.1, ← hturn.2]
    rcases he with he | he | he
    · rw [he, next_recvs]
      rfl
    · rw [he, next_recvs]
    · rw [he]
      rfl

theorem accept_some {accepts : Bool} (h : (fds.listener i && accepts) = true) :
    (s.accept i fds accepts).clients i = some s.turn := by
  unfold accept
  rw [if_pos h]
  exact Function.update_self _ _ _

theorem accept_none {accepts : Bool} (h : ¬ (fds.listener i && accepts) = true) : s.accept i fds accepts = s := if_neg h

/-- A channel's turn is sound just when it does not replace a client of which something was reported. -/
theorem serve_sound_iff (hI : s.Inv) (hS : s.Sound) (hpc : s.pc = .serving i fds polled) (accepts : Bool)
    (received : Received) :
    ((s.accept i fds accepts).recv i fds polled received).Sound ↔ s.keeps (.serve accepts received) = true := by
  have hkeeps : s.keeps (.serve accepts received) = !(fds.listener i && accepts && fds.client i) := by
    unfold keeps
    rw [hpc]
  rw [hkeeps]
  unfold Sound
  rcases serve_recvs s i fds polled accepts received with ⟨hrecvs, hno⟩ | ⟨client, hc, hr, hrecvs⟩
  · rw [hrecvs]
    refine iff_of_true hS ?_
    cases ha : fds.listener i && accepts with
    | false => rfl
    | true =>
      rw [accept_some ha] at hno
      simpa using hno
  · rw [hrecvs, hr, Bool.and_true]
    cases ha : fds.listener i && accepts with
    | true =>
      -- the new client, of which nothing can have been reported
      rw [accept_some ha] at hc
      cases hc
      refine iff_of_false (fun h => ?_) (by simp)
      exact absurd (h _ (List.mem_append_right _ (List.mem_singleton_self _))).2 (Nat.lt_irrefl _)
    | false =>
      rw [accept_none (by simp [ha])] at hc
      have hpolled := hI.polled i fds polled hpc
      have hsame : polled i = some client := (hpolled.same i (le_refl i)).trans hc
      refine iff_of_true (fun r hr => ?_) rfl
      rcases List.mem_append.1 hr with hr | hr
      · exact hS r hr
      · obtain rfl := List.mem_singleton.1 hr
        exact ⟨hsame, hpolled.past i client hsame⟩

theorem step_inv {a : Act} (hI : s.Inv) (h : s.step a = some s') : s'.Inv := by
  unfold step at h
  split at h
  · rename_i fds hpc
    split at h
    · rename_i hready
      cases h
      rw [Bool.and_eq_true, decide_eq_true_eq] at hready
      refine ⟨fun i c hc => Nat.le_succ_of_le (hI.past i c hc), fun i fds' polled he => ?_⟩
      cases he
      exact ⟨fun _ _ => rfl, fun j c hc => Nat.lt_succ_of_le (hI.past j c hc), hready.2⟩
    · cases h
  · split at h
    · cases h
    · cases h
      exact finish_inv
  · split at h
    · cases h
      exact finish_inv
    · cases h
  · rename_i hpc
    cases h
    exact serve_inv hI hpc _ _
  · rename_i i written hpc
    cases h
    split
    · exact .of_past hI.past.closeClient fun i fds polled he => by
        rw [show (s.closeClient _).pc = s.pc from rfl, hpc] at he
        cases he
    · exact hI
  · cases h
    split
    · exact .of_past hI.past fun _ _ _ he => by cases he
    · exact finish_inv
  · cases h
    exact hI.flagged _ _
  · cases h
    exact hI.flagged _ _
  · cases h

theorem step_sound_iff {a : Act} (hI : s.Inv) (hS : s.Sound) (h : s.step a = some s') :
    s'.Sound ↔ s.keeps a = true := by
  by_cases hserve : ∃ i fds polled accepts received, s.pc = .serving i fds polled ∧ a = .serve accepts received
  · obtain ⟨i, fds, polled, accepts, received, hpc, rfl⟩ := hserve
    have he : s' = (s.accept i fds accepts).recv i fds polled received := by
      unfold step at h
      rw [hpc] at h
      exact (Option.some.inj h).symm
    rw [he]
    exact serve_sound_iff hI hS hpc accepts received
  · -- nothing is read
    have hrecvs : s'.recvs = s.recvs := by
      unfold step at h
      split at h
      · split at h <;> cases h
        rfl
      · split at h <;> cases h
        rfl
      · split at h <;> cases h
        rfl
      · rename_i hpc
        exact absurd ⟨_, _, _, _, _, hpc, rfl⟩ hserve
      · cases h
        split
        · rfl
        · rfl
      · cases h
        split
        · rfl
        · rfl
      · cases h
        rfl
      · cases h
        rfl
      · cases h
    have hkeeps : s.keeps a = true := by
      unfold keeps
      split
      · rename_i hpc
        exact absurd ⟨_, _, _, _, _, hpc, rfl⟩ hserve
      · rfl
    exact iff_of_true (by unfold Sound; rw [hrecvs]; exact hS) hkeeps

/-- In a run the loop reads from what `poll` reported, and from no client in the turn that
accepted it, if and only if no client is replaced in a turn that has something reported of it. -/
theorem reads_what_was_reported_iff (as : List Act) (t : Bridge) (h : Run step new as t) :
    (∀ pre post s, as = pre ++ post → Run step new pre s → s.Sound) ↔
      Meets step (fun s a => s.keeps a = true) new as := by
  apply h.always_iff_meets Inv Sound
  · exact .of_past (fun _ _ h => (Option.some_ne_none _ h.symm).elim) fun _ _ _ h => by cases h
  · exact fun r hr => by cases hr
  · exact fun s a s' hI hs => step_inv hI hs
  · exact fun s a s' hI hA hs => step_sound_iff hI hA hs

/-- Only the listener of channel 0 is ready. -/
def knocks : Revents := ⟨fun i => i.val == 0, fun _ => false⟩

/-- The listener of channel 0 is ready, and so is its client. -/
def knocks_again : Revents := ⟨fun i => i.val == 0, fun i => i.val == 0⟩

/-- Only the client of channel 0 is ready. -/
def writes : Revents := ⟨fun _ => false, fun i => i.val == 0⟩

def one_client : List Act :=
  [.poll knocks, .serve true .ended, .serve true .ended, .drained true, .poll writes, .serve true (.bytes true),
    .serve true .ended]

theorem reads_what_was_reported_one : ∃ t, Run step new one_client t ∧ t.recvs = [⟨2, 0, 1, some 1⟩] ∧
    ∀ pre post s, one_client = pre ++ post → Run step new pre s → s.Sound := by
  obtain ⟨t, ht, hrecvs⟩ : ∃ t, exec step new one_client = some t ∧ t.recvs = [⟨2, 0, 1, some 1⟩] := ⟨_, rfl, rfl⟩
  have hrun := run_of_exec ht
  exact ⟨t, hrun, hrecvs, (reads_what_was_reported_iff one_client t hrun).2 (meets_of_checks (by decide +kernel))⟩

/-- A client connects; then another, when the first has hung up. -/
def reconnects : List Act :=
  [.poll knocks, .serve true .ended, .serve true .ended, .drained true, .poll knocks_again, .serve true (.bytes true)]

/-- What `poll` reported of the first is read from the second. -/
theorem reconnects_reads_new : ¬ ∀ as t, Run step new as t → t.Sound := by
  intro hall
  obtain ⟨t, ht, hrecvs⟩ : ∃ t, exec step new reconnects = some t ∧ t.recvs = [⟨2, 0, 2, some 1⟩] := ⟨_, rfl, rfl⟩
  have hbad := hall reconnects t (run_of_exec ht) ⟨2, 0, 2, some 1⟩ (by rw [hrecvs]; exact List.mem_singleton_self _)
  exact absurd hbad.2 (Nat.lt_irrefl _)

end Bridge

end CameraStreamer.Secure.BridgeLoop
