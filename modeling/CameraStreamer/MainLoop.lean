import CameraStreamer.Lib.Runs
/-!
# The main loop and the secure USB worker

The main thread of `Application` (the loop, its jobs, `reload`, shutdown, `stop`)
and the worker of `SecureUsbServer` (reading records, `deliver`) as one machine,
with the update handler and the session's other threads as further actions.
-/

namespace CameraStreamer.MainLoop

open Runs

/-- Where the main thread is. -/
inductive Main where
  /-- `start_servers`, before the loop runs. -/
  | starting
  /-- In the loop, between two callbacks. -/
  | looping
  /-- In `reload`, before `stop`. -/
  | reloading
  /-- In `stop`, in `reload`. -/
  | reload_stop
  /-- In `reload`, in `start_servers`. -/
  | restarting
  /-- The loop has returned. -/
  | left_loop
  /-- In `stop`, after the loop. -/
  | shutdown_stop
  | done
  deriving DecidableEq

/-- Where the worker is. -/
inductive Worker where
  /-- There is no secure USB server. -/
  | absent
  /-- In `read` on the endpoint, or between two sessions. -/
  | reading
  /-- Between two records of what was read. -/
  | draining
  /-- In `deliver`, with `n` complete lines in `control_buffer_`. -/
  | lines (n : Nat)
  /-- In `run_on_main_loop`, on its condition variable. -/
  | waiting (n : Nat)
  /-- In `deliver`, about to call `open_update_`. -/
  | opening_update (size attempt : Nat)
  /-- In `endpoint_write_all` on `update_`. -/
  | writing (size left attempt : Nat)
  | exited
  deriving DecidableEq

def Worker.in_write : Worker → Bool
  | .writing _ _ _ => true
  | _ => false

/-- `endpoint_write_all` of `size` bytes begins: with none it returns at once. -/
def Worker.write_all (size attempt : Nat) : Worker := if 0 < size then .writing size size attempt else .draining

/-- The socketpair of `update_`: the bytes that still fit and the bytes the handler
has not read. -/
structure Socket where
  room : Nat
  held : Nat
  handler_open : Bool
  deriving DecidableEq

structure Session where
  dead : Bool
  update_ : Option Socket
  deriving DecidableEq

/-- A write to `update_` blocks: there is no room, and neither `EPIPE` nor an `EINTR`
in a dead session ends it. -/
def Session.blocks (session : Session) : Bool :=
  !session.dead && session.update_.any fun k => k.handler_open && k.room == 0

structure Service where
  main : Main
  worker : Worker
  stopping_ : Bool
  /-- The worker's job is queued on the main loop and has not run. -/
  queued : Bool
  /-- Idle callbacks of `ReloadHandler`. -/
  reloads : Nat
  /-- `terminateLoopSoon` has been called. -/
  quit : Bool
  session : Option Session
  deriving DecidableEq

inductive Action where
  | run_loop
  /-- The loop runs the worker's job, whose handler may ask for a reload. -/
  | run_job (reload : Bool)
  /-- `ReloadHandler` for a client of the control server. -/
  | request_reload
  /-- `reload` from an idle callback, or else from SIGHUP. -/
  | reload (idle : Bool)
  /-- SIGINT or SIGTERM. -/
  | signal
  | loop_ends
  | stop
  /-- The worker has exited and is joined. -/
  | joined
  | start_servers (usb failed : Bool)
  | received
  /-- `EINTR` from `read` on the endpoint. -/
  | interrupted
  /-- The endpoint was recycled, or the host is gone. -/
  | endpoint_failed
  /-- A `ClientHello`, which ends the session before it. -/
  | handshake (ok : Bool)
  /-- A record that cannot be framed or opened. -/
  | rejected
  /-- The bytes that were read hold no further record. -/
  | drained
  /-- A control record after which `n` lines are complete. -/
  | control (n : Nat)
  /-- `run_on_main_loop`; its job runs at once where the loop does not own the context. -/
  | call (reload : Bool)
  | woken
  | answered
  | update (size : Nat)
  | open_update (room : Nat)
  | open_fails
  | write (k : Nat)
  | write_fails
  | handler_reads (k : Nat)
  | handler_closes
  | pump_closes
  | die

namespace Service

def init : Service := ⟨.starting, .reading, false, false, 0, false, none⟩

/-- The main thread owns the main context, so that `g_main_context_invoke_full`
in another thread only queues. -/
def owns_context (s : Service) : Bool :=
  match s.main with
  | .looping | .reloading | .reload_stop | .restarting => true
  | _ => false

/-- `serve_session` returns; `run` goes on unless it is to stop. -/
def leave_session (s : Service) : Service :=
  { s with session := none, worker := if s.stopping_ then .exited else .reading }

/-- `deliver` goes on with its next attempt, if there is one. -/
def next_attempt (s : Service) (session : Session) (size attempt : Nat) : Service :=
  { s with
    session := some { session with update_ := none }
    worker := if attempt + 1 < 2 then .opening_update size (attempt + 1) else .draining }

def more_reloads (s : Service) (reload : Bool) : Nat := if reload then s.reloads + 1 else s.reloads

/-- What the main thread does. -/
def main_step (s : Service) : Action → Option Service
  | .run_loop => if s.main = .starting then some { s with main := .looping } else none
  | .run_job reload =>
    if s.main = .looping ∧ s.queued then some { s with queued := false, reloads := s.more_reloads reload } else none
  | .request_reload => if s.main = .looping then some { s with reloads := s.reloads + 1 } else none
  | .reload idle =>
    if s.main = .looping ∧ (idle → 0 < s.reloads) then
      some { s with main := .reloading, reloads := if idle then s.reloads - 1 else s.reloads }
    else none
  | .signal => if s.main = .looping then some { s with quit := true } else none
  | .loop_ends => if s.main = .looping ∧ s.quit then some { s with main := .left_loop } else none
  | .stop =>
    match s.main with
    | .reloading => some { s with main := .reload_stop, stopping_ := true }
    | .left_loop => some { s with main := .shutdown_stop, stopping_ := true }
    | _ => none
  | .joined =>
    if s.worker = .exited ∨ s.worker = .absent then
      match s.main with
      | .reload_stop => some { s with main := .restarting, worker := .absent }
      | .shutdown_stop => some { s with main := .done, worker := .absent }
      | _ => none
    else none
  | .start_servers usb failed =>
    if s.main = .restarting then
      some { s with
        main := .looping
        worker := if usb then .reading else .absent
        stopping_ := false
        quit := s.quit || failed }
    else none
  | _ => none

/-- What the worker does. -/
def worker_step (s : Service) (a : Action) : Option Service :=
  match s.worker, s.session, a with
  | .reading, _, .received => some { s with worker := .draining }
  | .reading, _, .interrupted => some (if s.stopping_ then s.leave_session else s)
  | .reading, _, .endpoint_failed => some s.leave_session
  | .draining, _, .endpoint_failed => some s.leave_session
  | .draining, _, .handshake ok => some { s with session := if ok then some ⟨false, none⟩ else none }
  | .draining, some _, .rejected => some s.leave_session
  | .draining, _, .drained =>
    some (if s.stopping_ ∨ s.session.any (·.dead) then s.leave_session else { s with worker := .reading })
  | .draining, some _, .control n => some { s with worker := .lines n }
  | .lines (n + 1), _, .call reload =>
    if s.owns_context then some { s with queued := true, worker := .waiting n }
    else some { s with reloads := s.more_reloads reload, worker := .lines n }
  | .waiting n, _, .woken => if s.queued then none else some { s with worker := .lines n }
  | .lines 0, _, .answered => some { s with worker := .draining }
  | .draining, some session, .update size =>
    some { s with worker := if session.update_.isSome then .write_all size 0 else .opening_update size 0 }
  | .opening_update size attempt, some session, .open_update room =>
    if 0 < room then
      some { s with
        session := some { session with update_ := some ⟨room, 0, true⟩ }
        worker := .write_all size attempt }
    else none
  | .opening_update _ _, _, .open_fails => some { s with worker := .draining }
  | .writing size left attempt, some ⟨dead, some ⟨room, held, true⟩⟩, .write k =>
    if 0 < k ∧ k ≤ left ∧ k ≤ room then
      some { s with
        session := some ⟨dead, some ⟨room - k, held + k, true⟩⟩
        worker := if k < left then .writing size (left - k) attempt else .draining }
    else none
  | .writing size _ attempt, some session, .write_fails =>
    -- `EPIPE`, or `EINTR` in a session that is over; `stopping_` is not looked at
    if session.dead ∨ session.update_.all (!·.handler_open) then some (s.next_attempt session size attempt) else none
  | _, _, _ => none

/-- What the other threads do to the session. -/
def other_step (s : Service) (a : Action) : Option Service :=
  match s.session, a with
  | some ⟨dead, some ⟨room, held, handler_open⟩⟩, .handler_reads k =>
    if k ≤ held then some { s with session := some ⟨dead, some ⟨room + k, held - k, handler_open⟩⟩ } else none
  | some ⟨dead, some ⟨room, held, _⟩⟩, .handler_closes =>
    some { s with session := some ⟨dead, some ⟨room, held, false⟩⟩ }
  | some session, .pump_closes =>
    -- `deliver` holds `mutex_`
    match s.worker with
    | .opening_update _ _ | .writing _ _ _ => none
    | _ => some { s with session := some { session with update_ := none } }
  | some session, .die => some { s with session := some { session with dead := true } }
  | _, _ => none

def step (s : Service) (a : Action) : Option Service :=
  match a with
  | .run_loop | .run_job _ | .request_reload | .reload _ | .signal | .loop_ends | .stop | .joined
  | .start_servers _ _ => s.main_step a
  | .handler_reads _ | .handler_closes | .pump_closes | .die => s.other_step a
  | _ => s.worker_step a

/-! ## Waiting for each other -/

/-- The worker waits for a job that only the main loop can run. -/
def awaits_job (s : Service) : Bool :=
  match s.worker with
  | .waiting _ => s.queued
  | _ => false

/-- The worker waits for the update handler to read. -/
def awaits_handler (s : Service) : Bool := s.worker.in_write && s.session.any Session.blocks

/-- The main thread waits for the worker to exit. -/
def in_stop (s : Service) : Bool := s.main == .reload_stop || s.main == .shutdown_stop

def CircularWait (s : Service) : Prop := s.in_stop = true ∧ (s.awaits_job || s.awaits_handler) = true

/-- The conditions on a run. `stop` is called while no job is queued and the worker's
write to the update handler is not blocked. During the `stop` of a reload no control line
is dispatched, and during any `stop` no update record with a payload comes to a full
socket or fills it with bytes left over. -/
def safe (s : Service) : Action → Bool
  | .stop => !s.awaits_job && !s.awaits_handler
  | .call _ => s.main != .reload_stop
  | .update size => size == 0 || !s.in_stop || !s.session.any Session.blocks
  | .write k =>
    match s.worker, s.session with
    | .writing _ left _, some session => !s.in_stop || session.dead || k == left || session.update_.all (·.room != k)
    | _, _ => true
  | _ => true

theorem write_all_awaits_job (s : Service) (size attempt : Nat) :
    ({ s with worker := .write_all size attempt } : Service).awaits_job = false := by
  unfold Worker.write_all
  cases size with
  | zero => rfl
  | succ n => simp [awaits_job]

theorem write_all_in_write (size attempt : Nat) : (Worker.write_all size attempt).in_write = (size != 0) := by
  unfold Worker.write_all
  split
  · rename_i hpos
    exact (bne_iff_ne.2 (Nat.ne_of_gt hpos)).symm
  · rename_i hzero
    rw [Nat.eq_zero_of_not_pos hzero]
    rfl

theorem circular_wait_of_in_stop {s : Service} (h : s.in_stop = true) :
    s.CircularWait ↔ (s.awaits_job || s.awaits_handler) = true := and_iff_right h

theorem not_circular_wait {s : Service} (h : s.in_stop = false) : ¬ s.CircularWait := by
  rintro ⟨hs, -⟩
  rw [h] at hs
  cases hs

/-- Outside `stop`, and where the worker is not waiting, nobody waits in a circle. -/
theorem not_circular_wait_of_worker {s : Service} (hj : s.awaits_job = false) (hh : s.awaits_handler = false) :
    ¬ s.CircularWait := by
  rintro ⟨-, hw⟩
  rw [hj, hh] at hw
  cases hw

theorem main_step_in_stop {s s' : Service} {a : Action} (h : s.main_step a = some s') (ha : a ≠ .stop) :
    s'.in_stop = false := by
  unfold main_step at h
  split at h
  case h_7 => exact absurd rfl ha
  case h_8 =>
    split at h
    · split at h <;> cases h <;> rfl
    · cases h
  all_goals
    first
    | cases h
    | (obtain ⟨hg, he⟩ := Option.ite_none_right_eq_some.1 h
       cases he
       simp_all [in_stop])

theorem stop_circular {s s' : Service} (h : s.main_step .stop = some s') : s'.CircularWait ↔ ¬ s.safe .stop = true := by
  have hwaits : s'.in_stop = true ∧ s'.awaits_job = s.awaits_job ∧ s'.awaits_handler = s.awaits_handler := by
    simp only [main_step] at h
    split at h
    · cases h; exact ⟨rfl, rfl, rfl⟩
    · cases h; exact ⟨rfl, rfl, rfl⟩
    · cases h
  rw [circular_wait_of_in_stop hwaits.1, hwaits.2.1, hwaits.2.2, safe]
  cases s.awaits_job <;> cases s.awaits_handler <;> simp

/-- The update handler and the session's other threads can only end a blocked write. -/
theorem other_step_waits {s s' : Service} {a : Action} (h : s.other_step a = some s') :
    s'.main = s.main ∧ s'.awaits_job = s.awaits_job ∧ (s'.awaits_handler = true → s.awaits_handler = true) := by
  have hmono : ∀ session session' : Session, s.session = some session →
      (session'.blocks = true → session.blocks = true) →
      ({ s with session := some session' } : Service).awaits_handler = true → s.awaits_handler = true := by
    intro session session' hs hb hw
    simp only [awaits_handler, Option.any_some, Bool.and_eq_true] at hw ⊢
    rw [hs]
    exact ⟨hw.1, hb hw.2⟩
  unfold other_step at h
  split at h
  · rename_i dead room held handler_open k hs
    split at h
    · cases h
      refine ⟨rfl, rfl, hmono _ _ hs fun hb => ?_⟩
      simp only [Session.blocks, Option.any_some, Bool.and_eq_true, beq_iff_eq] at hb ⊢
      exact ⟨hb.1, hb.2.1, by omega⟩
    · cases h
  · rename_i hs
    cases h
    exact ⟨rfl, rfl, hmono _ _ hs fun hb => by simp [Session.blocks] at hb⟩
  · rename_i hs
    split at h
    · cases h
    · cases h
    · cases h
      exact ⟨rfl, rfl, hmono _ _ hs fun hb => by simp [Session.blocks] at hb⟩
  · rename_i hs
    cases h
    exact ⟨rfl, rfl, hmono _ _ hs fun hb => by simp [Session.blocks] at hb⟩
  · cases h

theorem leave_session_waits (s : Service) :
    s.leave_session.awaits_job = false ∧ s.leave_session.awaits_handler = false := by
  unfold leave_session awaits_job awaits_handler
  cases s.stopping_ <;> exact ⟨rfl, rfl⟩

theorem next_attempt_waits (s : Service) (session : Session) (size attempt : Nat) :
    (s.next_attempt session size attempt).awaits_job = false ∧
      (s.next_attempt session size attempt).awaits_handler = false := by
  unfold next_attempt
  split <;> exact ⟨rfl, rfl⟩

theorem worker_step_main {s s' : Service} {a : Action} (h : s.worker_step a = some s') : s'.main = s.main := by
  unfold worker_step at h
  split at h <;> try (split at h)
  all_goals
    first
    | contradiction
    | (cases h; rfl)

/-- After these actions the worker is not waiting. -/
theorem worker_step_waits {s s' : Service} {a : Action} (h : s.worker_step a = some s')
    (hc : ∀ reload, a ≠ .call reload) (hu : ∀ size, a ≠ .update size) (hw : ∀ k, a ≠ .write k) :
    s'.awaits_job = false ∧ s'.awaits_handler = false := by
  unfold worker_step at h
  split at h
  · cases h; exact ⟨rfl, rfl⟩
  · rename_i hr
    split at h
    · cases h; exact leave_session_waits s
    · cases h; simp [awaits_job, awaits_handler, Worker.in_write, hr]
  · cases h; exact leave_session_waits s
  · cases h; exact leave_session_waits s
  · rename_i hr
    cases h; simp [awaits_job, awaits_handler, Worker.in_write, hr]
  · cases h; exact leave_session_waits s
  · split at h
    · cases h; exact leave_session_waits s
    · cases h; exact ⟨rfl, rfl⟩
  · cases h; exact ⟨rfl, rfl⟩
  · exact absurd rfl (hc _)
  · split at h
    · cases h
    · cases h; exact ⟨rfl, rfl⟩
  · cases h; exact ⟨rfl, rfl⟩
  · exact absurd rfl (hu _)
  · split at h
    · rename_i hroom
      cases h
      refine ⟨write_all_awaits_job _ _ _, ?_⟩
      simp [awaits_handler, Session.blocks]
      omega
    · cases h
  · cases h; exact ⟨rfl, rfl⟩
  · exact absurd rfl (hw _)
  · split at h
    · cases h; exact next_attempt_waits s _ _ _
    · cases h
  · cases h

theorem in_stop_eq {s s' : Service} (h : s'.main = s.main) : s'.in_stop = s.in_stop := by
  rw [in_stop, in_stop, h]

/-- A control line waits in a circle exactly where a reload is in `stop`. -/
theorem call_circular {s s' : Service} {reload : Bool} (h : s.worker_step (.call reload) = some s') :
    s'.CircularWait ↔ ¬ s.safe (.call reload) = true := by
  have hreload : s.main = .reload_stop → s.owns_context = true := fun hm => by rw [owns_context, hm]
  unfold worker_step at h
  split at h <;> try contradiction
  split at h
  · rename_i howns
    cases h
    have hshut : s.main ≠ .shutdown_stop := fun hm => by simp [owns_context, hm] at howns
    simp [CircularWait, in_stop, awaits_job, safe, hshut]
  · rename_i howns
    cases h
    refine iff_of_false (not_circular_wait_of_worker rfl rfl) ?_
    have hne : s.main ≠ .reload_stop := fun hm => howns (hreload hm)
    simp [safe, hne]

theorem update_circular {s s' : Service} {size : Nat} (h : s.worker_step (.update size) = some s') :
    s'.CircularWait ↔ ¬ s.safe (.update size) = true := by
  have hstop := in_stop_eq (worker_step_main h)
  unfold worker_step at h
  split at h <;> try contradiction
  rename_i session a hw hs he
  cases he
  cases h
  have hj : ({ s with worker := if session.update_.isSome then .write_all size 0 else .opening_update size 0 } :
      Service).awaits_job = false := by
    cases session.update_ with
    | none => rfl
    | some k => exact write_all_awaits_job s size 0
  have hh : ({ s with worker := if session.update_.isSome then .write_all size 0 else .opening_update size 0 } :
      Service).awaits_handler = (size != 0 && session.blocks) := by
    rw [awaits_handler, hs, Option.any_some]
    cases hu : session.update_ with
    | none => simp [Session.blocks, Worker.in_write, hu]
    | some k => rw [Option.isSome_some, if_pos rfl, write_all_in_write]
  rw [CircularWait, hj, hh, hstop, safe, hs]
  cases hz : size == 0 <;> cases s.in_stop <;> cases hb : session.blocks <;> simp_all [bne]

/-- A write waits in a circle exactly where it fills the socket with bytes left over. -/
theorem write_circular {s s' : Service} {k : Nat} (h : s.worker_step (.write k) = some s') :
    s'.CircularWait ↔ ¬ s.safe (.write k) = true := by
  have hstop := in_stop_eq (worker_step_main h)
  unfold worker_step at h
  split at h <;> try contradiction
  rename_i size left attempt dead room held a hw hs he
  cases he
  split at h
  · rename_i hk
    cases h
    simp only [safe, hw, hs]
    by_cases hl : k < left
    · have hne : (k == left) = false := by simpa using Nat.ne_of_lt hl
      have hfull : (room - k == 0) = (room == k) := by
        rw [Bool.eq_iff_iff, beq_iff_eq, beq_iff_eq]
        omega
      rw [CircularWait, hstop]
      simp only [awaits_job, awaits_handler, Worker.in_write, if_pos hl, Session.blocks, Option.any_some,
        Option.all_some, hne, hfull, bne]
      cases s.in_stop <;> cases dead <;> cases room == k <;> simp
    · have heq : (k == left) = true := beq_iff_eq.2 (by omega)
      refine iff_of_false (not_circular_wait_of_worker ?_ ?_) (by simp [heq])
      · simp [awaits_job, hl]
      · simp [awaits_handler, Worker.in_write, hl]
  · cases h

/-- From a state without one, a step leads to a circular wait exactly where it breaks
the conditions. -/
theorem step_circular {s s' : Service} {a : Action} (h : s.step a = some s') (hs : ¬ s.CircularWait) :
    s'.CircularWait ↔ ¬ s.safe a = true := by
  have hmain : s.main_step a = some s' → a ≠ .stop → s.safe a = true → (s'.CircularWait ↔ ¬ s.safe a = true) :=
    fun hm ha hsafe => iff_of_false (not_circular_wait (main_step_in_stop hm ha)) (not_not.2 hsafe)
  have hother : s.other_step a = some s' → s.safe a = true → (s'.CircularWait ↔ ¬ s.safe a = true) := by
    intro ho hsafe
    obtain ⟨hm, hj, hh⟩ := other_step_waits ho
    refine iff_of_false ?_ (not_not.2 hsafe)
    rintro ⟨hstop, hw⟩
    rw [in_stop_eq hm] at hstop
    rw [hj, Bool.or_eq_true] at hw
    exact hs ⟨hstop, Bool.or_eq_true _ _ ▸ hw.imp_right hh⟩
  have hworker : s.worker_step a = some s' → (∀ reload, a ≠ .call reload) → (∀ size, a ≠ .update size) →
      (∀ k, a ≠ .write k) → s.safe a = true → (s'.CircularWait ↔ ¬ s.safe a = true) := by
    intro hw hc hu hk hsafe
    obtain ⟨hj, hh⟩ := worker_step_waits hw hc hu hk
    exact iff_of_false (not_circular_wait_of_worker hj hh) (not_not.2 hsafe)
  cases a with
  | stop => exact stop_circular h
  | call reload => exact call_circular h
  | update size => exact update_circular h
  | write k => exact write_circular h
  | run_loop | run_job | request_reload | reload | signal | loop_ends | joined | start_servers =>
    exact hmain h (by simp) rfl
  | handler_reads | handler_closes | pump_closes | die => exact hother h rfl
  | received | interrupted | endpoint_failed | handshake | rejected | drained | control | woken | answered
  | open_update | open_fails | write_fails =>
    exact hworker h (by simp) (by simp) (by simp) rfl

/-- Through a whole run nobody waits in a circle exactly where every action meets
the conditions. -/
theorem no_circular_wait_iff (as : List Action) (s : Service) (h : Run step init as s) :
    (∀ pre post t, as = pre ++ post → Run step init pre t → ¬ t.CircularWait) ↔
      Meets step (fun t a => t.safe a = true) init as := by
  refine h.always_iff_meets (fun _ => True) (fun t => ¬ t.CircularWait) trivial (not_circular_wait rfl)
    (fun _ _ _ _ _ => trivial) ?_
  intro t a t' _ ht hs
  rw [step_circular hs ht, Decidable.not_not]

/-- An upload that blocks for a while, then a control line that asks for a reload. -/
def upload_and_reload : List Action :=
  [.run_loop, .received, .handshake true, .drained, .received, .update 0, .open_update 8, .update 10, .write 8,
    .handler_reads 4, .write 2, .control 1, .call false, .run_job true, .woken, .answered, .drained, .reload true, .stop,
    .interrupted, .joined, .start_servers true false]

theorem no_circular_wait_reload :
    ∃ s, Run step init upload_and_reload s ∧ s.main = .looping ∧
      Meets step (fun t a => t.safe a = true) init upload_and_reload ∧
      ∀ pre post t, upload_and_reload = pre ++ post → Run step init pre t → ¬ t.CircularWait := by
  obtain ⟨s, hs, hm⟩ : ∃ s, exec step init upload_and_reload = some s ∧ s.main = .looping := ⟨_, rfl, rfl⟩
  have hsafe : Meets step (fun t a => t.safe a = true) init upload_and_reload := meets_of_checks (by decide +kernel)
  exact ⟨s, run_of_exec hs, hm, hsafe, (no_circular_wait_iff _ s (run_of_exec hs)).2 hsafe⟩

/-- A record with two control lines, the first of which asks for a reload. -/
def reload_and_ping : List Action :=
  [.run_loop, .received, .handshake true, .drained, .received, .control 2, .call false, .run_job true, .woken,
    .reload true, .stop, .call false]

/-- The second line waits for the loop, and the loop for the worker. -/
theorem reload_and_ping_hangs : ¬ ∀ as s, Run step init as s → ¬ s.CircularWait := by
  intro hall
  obtain ⟨s, hs, hstop, hjob⟩ : ∃ s, exec step init reload_and_ping = some s ∧ s.in_stop = true ∧ s.awaits_job = true :=
    ⟨_, rfl, rfl, rfl⟩
  exact hall _ s (run_of_exec hs) ⟨hstop, by rw [hjob, Bool.true_or]⟩

/-! ## A job that waits for `stop` waits forever -/

theorem main_step_hung {s s' : Service} {a : Action} (hstop : s.in_stop = true) (hw : s.worker ≠ .exited)
    (hw' : s.worker ≠ .absent) : s.main_step a ≠ some s' := by
  have hmain : s.main = .reload_stop ∨ s.main = .shutdown_stop := by
    rw [in_stop, Bool.or_eq_true, beq_iff_eq, beq_iff_eq] at hstop
    exact hstop
  intro h
  unfold main_step at h
  split at h
  case h_8 =>
    rw [if_neg (by simp [hw, hw'])] at h
    cases h
  all_goals rcases hmain with hm | hm <;> simp [hm] at h

theorem worker_step_hung {s s' : Service} {a : Action} {n : Nat} (hw : s.worker = .waiting n) (hq : s.queued = true) :
    s.worker_step a ≠ some s' := by
  intro h
  unfold worker_step at h
  rw [hw] at h
  split at h <;> try contradiction
  rw [if_pos hq] at h
  cases h

theorem step_hung {s s' : Service} {a : Action} (hstop : s.in_stop = true) (hjob : s.awaits_job = true)
    (h : s.step a = some s') : s'.in_stop = true ∧ s'.awaits_job = true := by
  obtain ⟨n, hw, hq⟩ : ∃ n, s.worker = .waiting n ∧ s.queued = true := by
    unfold awaits_job at hjob
    split at hjob
    · rename_i n hw
      exact ⟨n, hw, hjob⟩
    · cases hjob
  have hmain : s.main_step a ≠ some s' := main_step_hung hstop (by simp [hw]) (by simp [hw])
  have hworker : s.worker_step a ≠ some s' := worker_step_hung hw hq
  unfold step at h
  split at h
  all_goals
    first
    | exact absurd h hmain
    | exact absurd h hworker
    | (obtain ⟨hm, hj, -⟩ := other_step_waits h
       exact ⟨(in_stop_eq hm).trans hstop, hj.trans hjob⟩)

/-- Nothing that any thread does ends it. -/
theorem hung_forever {s t : Service} {as : List Action} (hstop : s.in_stop = true) (hjob : s.awaits_job = true)
    (h : Run step s as t) : t.CircularWait := by
  have hI : t.in_stop = true ∧ t.awaits_job = true :=
    h.inv (fun t => t.in_stop = true ∧ t.awaits_job = true) ⟨hstop, hjob⟩ fun _ _ _ hI => step_hung hI.1 hI.2
  exact ⟨hI.1, by rw [hI.2, Bool.true_or]⟩

end Service

end CameraStreamer.MainLoop
