import CameraStreamer.SwupdateClient
/-!
# Attempts side by side

`SwupdateClient` with all its threads: each attempt has the call that began it,
the thread that watches it, and, for a stream, the upload handler that ends the
stream when it is done forwarding. They share one status, which no thread holds
for longer than one write. `react_eq` says that the thread of an attempt does
what the machine of the single attempt does.
-/

namespace CameraStreamer.Update.UpdateAttempts

open Runs

/-! ## Writes -/

/-- A locked section that writes the status. -/
inductive Write where
  | message (m : ProgressMsg)
  | answer (a : UpdateStatus)
  /-- From Uploading to Installing. -/
  | start
  /-- `set_state(UpdateState::Success)` -/
  | success
  | fail (error : String)

def Write.apply (w : Write) (st : UpdateStatus) : UpdateStatus :=
  match w with
  | .message m => { st with
      percent := m.cur_percent.toInt32
      step := m.cur_step.toInt32
      total_steps := m.nsteps.toInt32
      current_name := if m.cur_image = "" then st.current_name else m.cur_image }
  | .answer a => { st with
      percent := a.percent
      step := a.step
      total_steps := a.total_steps
      current_name := if a.current_name = "" then st.current_name else a.current_name }
  | .start => { st with state := if st.state = .Uploading then .Installing else st.state }
  | .success => { st with state := .Success }
  | .fail error => { st with state := .Failure, error := error }

/-- How the attempt ends with this write, if it does. -/
def Write.verdict? : Write → Option UpdateState
  | .success => some .Success
  | .fail _ => some .Failure
  | _ => none

/-- What a thread does on an observation: its writes, and where it is after them. -/
abbrev Reaction := List Write × Phase

def fails (error : String) : Reaction := ([.fail error], .none)

def succeeds : Reaction := ([.success], .none)

def goes_to (phase : Phase) : Reaction := ([], phase)

/-- After the writes `ws`. -/
def after (ws : List Write) (r : Reaction) : Reaction := (ws ++ r.1, r.2)

def progress_top (idle_count : Nat) (saw_start : Bool) : Reaction :=
  if idle_count < 600 then goes_to (.progress idle_count saw_start) else fails SwupdateClient.timed_out

def fallback_top (i : Nat) (last_logged_state : UpdateState) : Reaction :=
  if i < 600 then goes_to (.fallback i last_logged_state) else fails SwupdateClient.timed_out

def on_message (saw_start : Bool) (m : ProgressMsg) : Reaction :=
  match m.recovery with
  | some .Idle => after [.message m] (progress_top 0 saw_start)
  | some .Start | some .Run | some .Progress | some .Download | some .Subprocess =>
    after [.message m, .start] (progress_top 0 true)
  | some .Success | some .Done => after [.message m] succeeds
  | some .Failure => after [.message m] (fails "installation failed")
  | none => after [.message m, .start] (progress_top 0 saw_start)

def on_timeout_reply (idle_count : Nat) (r : StatusReply) : Reaction :=
  match poll_status r with
  | .error _ => progress_top idle_count true
  | .ok a =>
    if a.state = .Success ∨ a.state = .Done ∨ (a.state = .Idle ∧ a.last_result ≠ .Failure) then succeeds
    else if a.state = .Failure ∨ (a.state = .Idle ∧ a.last_result = .Failure) then fails a.error
    else progress_top idle_count true

def on_closed_reply (r : StatusReply) : Reaction :=
  match poll_status r with
  | .error _ => succeeds
  | .ok a => if a.last_result = .Failure then fails a.error else succeeds

def on_fallback_reply (i : Nat) (last_logged_state : UpdateState) (r : StatusReply) : Reaction :=
  match poll_status r with
  | .error _ => fallback_top (i + 1) last_logged_state
  | .ok a =>
    if a.state = .Success ∨ a.state = .Done then after [.answer a] succeeds
    else if a.state = .Failure then after [.answer a] (fails a.error)
    else if a.state = .Idle then
      if i < 5 ∧ last_logged_state = .Idle then after [.answer a] (fallback_top (i + 1) last_logged_state)
      else if a.last_result = .Failure then after [.answer a] (fails a.error)
      else after [.answer a] succeeds
    else
      after (if a.state = .Installing then [.answer a, .start] else [.answer a]) (fallback_top (i + 1) a.state)

def observe : Phase → Observation → Option Reaction
  | .requesting_file, .install_reply r => some (goes_to (if request_install r then .streaming_file else .subprocess))
  | .streaming_file, .file_streamed r =>
    match r with
    | .open_failed error => some (fails ("open: " ++ error))
    | .write_failed => some (fails "write to swupdate IPC failed")
    | .read_failed error => some (fails ("read: " ++ error))
    | .done => some (goes_to .connecting)
  | .subprocess, .subprocess_exit rc =>
    if rc = 0 then some succeeds else some (fails ("swupdate subprocess exited with code " ++ toString rc))
  | .requesting_stream, .install_reply r =>
    if request_install r then some (goes_to .connecting) else some (fails "cannot connect to swupdate IPC")
  | .connecting, .progress_connect ok => if ok then some (goes_to .awaiting_ack) else some (fallback_top 0 .Idle)
  | .awaiting_ack, .progress_ack ok =>
    if ok then some (progress_top 0 false) else some (fails "progress socket connect failed")
  | .progress idle_count saw_start, .select_interrupted => some (goes_to (.progress idle_count saw_start))
  | .progress _ _, .select_error => some (fails SwupdateClient.timed_out)
  | .progress idle_count saw_start, .silence =>
    if saw_start then some (goes_to (.timeout_query (idle_count + 1)))
    else some (progress_top (idle_count + 1) false)
  | .progress _ saw_start, .closed =>
    if saw_start then some (goes_to .closed_query)
    else some (fails "swupdate closed progress socket before install started")
  | .progress _ saw_start, .message m => some (on_message saw_start m)
  | .timeout_query idle_count, .status_reply r => some (on_timeout_reply idle_count r)
  | .closed_query, .status_reply r => some (on_closed_reply r)
  | .fallback i last_logged_state, .status_reply r => some (on_fallback_reply i last_logged_state r)
  | _, _ => none

/-! ## The single attempt -/

/-- The client once a reaction is over. -/
def done (s : SwupdateClient) (r : Reaction) : SwupdateClient :=
  { s with status_ := r.1.foldl (fun st w => w.apply st) s.status_, phase := r.2 }

theorem done_progress_top (s : SwupdateClient) (n : Nat) (saw : Bool) :
    done s (progress_top n saw) = s.progress_top n saw := by
  unfold progress_top SwupdateClient.progress_top
  split
  · rfl
  · rfl

theorem done_fallback_top (s : SwupdateClient) (i : Nat) (last : UpdateState) :
    done s (fallback_top i last) = s.fallback_top i last := by
  unfold fallback_top SwupdateClient.fallback_top
  split
  · rfl
  · rfl

theorem done_after (s : SwupdateClient) (ws : List Write) (r : Reaction) :
    done s (after ws r) = done { s with status_ := ws.foldl (fun st w => w.apply st) s.status_ } r := by
  simp only [done, after, List.foldl_append]

theorem done_message (s : SwupdateClient) (saw : Bool) (m : ProgressMsg) :
    done s (on_message saw m) = s.on_message saw m := by
  unfold on_message SwupdateClient.on_message
  cases m.recovery with
  | none => rw [done_after, done_progress_top]; rfl
  | some status =>
    cases status with
    | Idle => rw [done_after, done_progress_top]; rfl
    | Success | Done | Failure => rw [done_after]; rfl
    | _ => rw [done_after, done_progress_top]; rfl

theorem done_timeout (s : SwupdateClient) (n : Nat) (r : StatusReply) :
    done s (on_timeout_reply n r) = s.on_timeout_reply n r := by
  unfold on_timeout_reply SwupdateClient.on_timeout_reply
  cases poll_status r with
  | error e => exact done_progress_top s n true
  | ok a =>
    dsimp only
    split
    · rfl
    split
    · rfl
    · exact done_progress_top s n true

theorem done_closed (s : SwupdateClient) (r : StatusReply) : done s (on_closed_reply r) = s.on_closed_reply r := by
  unfold on_closed_reply SwupdateClient.on_closed_reply
  cases poll_status r with
  | error e => rfl
  | ok a =>
    dsimp only
    split
    · rfl
    · rfl

theorem done_fallback (s : SwupdateClient) (i : Nat) (last : UpdateState) (r : StatusReply) :
    done s (on_fallback_reply i last r) = s.on_fallback_reply i last r := by
  unfold on_fallback_reply SwupdateClient.on_fallback_reply
  cases poll_status r with
  | error e => exact done_fallback_top s (i + 1) last
  | ok a =>
    dsimp only
    split
    · rw [done_after]; rfl
    split
    · rw [done_after]; rfl
    split
    · split
      · rw [done_after, done_fallback_top]; rfl
      split
      · rw [done_after]; rfl
      · rw [done_after]; rfl
    · rw [done_after, done_fallback_top]
      split
      · rfl
      · rfl

/-- On every observation the thread's writes, one after the other, are what the
single attempt does at once. -/
theorem react_eq (s : SwupdateClient) (o : Observation) : s.react o = (observe s.phase o).map (done s) := by
  rcases s with ⟨status_, phase, seen⟩
  -- what a phase does not observe is refused on both sides
  cases phase <;> cases o <;> try rfl
  case streaming_file.file_streamed r => cases r <;> rfl
  case subprocess.subprocess_exit rc =>
    simp only [SwupdateClient.react, observe]
    split
    · rfl
    · rfl
  case requesting_stream.install_reply r =>
    simp only [SwupdateClient.react, observe]
    split
    · rfl
    · rfl
  case connecting.progress_connect ok =>
    cases ok with
    | true => rfl
    | false => exact congrArg some (done_fallback_top _ 0 .Idle).symm
  case awaiting_ack.progress_ack ok =>
    cases ok with
    | true => exact congrArg some (done_progress_top _ 0 false).symm
    | false => rfl
  case progress.silence idle_count saw_start =>
    cases saw_start with
    | true => rfl
    | false => exact congrArg some (done_progress_top _ (idle_count + 1) false).symm
  case progress.closed idle_count saw_start => cases saw_start <;> rfl
  case progress.message idle_count saw_start m => exact congrArg some (done_message _ saw_start m).symm
  case timeout_query.status_reply idle_count r => exact congrArg some (done_timeout _ idle_count r).symm
  case closed_query.status_reply r => exact congrArg some (done_closed _ r).symm
  case fallback.status_reply i last_logged_state r => exact congrArg some (done_fallback _ i last_logged_state r).symm

/-! ## Threads -/

/-- The thread that made the call which began the attempt. -/
inductive Caller where
  /-- `install_from_file`, before it starts the worker. -/
  | spawning
  /-- `begin_stream_install`, in `request_install`. -/
  | requesting
  /-- Before `fail`. -/
  | refused
  /-- Before it starts the polling thread. -/
  | granted
  /-- The upload handler, before its `end_stream_install`. -/
  | forwarding
  | returned
  deriving DecidableEq

/-- The call that began the attempt has not returned. -/
def Caller.begins : Caller → Bool
  | .spawning | .requesting | .refused | .granted => true
  | .forwarding | .returned => false

/-- The thread of `run_install` or `poll_completion`. -/
inductive Worker where
  | unstarted
  /-- With these writes to make before it is in `phase`. -/
  | running (writes : List Write) (phase : Phase)
  | returned

structure Attempt where
  caller : Caller
  worker : Worker
  /-- How the attempt ended. -/
  verdict : Option UpdateState

/-- Its begin call or its own thread is still running. -/
def Attempt.Running (x : Attempt) : Prop :=
  x.caller.begins = true ∨ ∃ writes phase, x.worker = .running writes phase

/-- The shared status, and the attempts that began, in order. -/
structure Updater where
  status_ : UpdateStatus
  count : Nat
  attempts : Nat → Attempt

def Updater.new : Updater := ⟨{}, 0, fun _ => ⟨.returned, .unstarted, none⟩⟩

inductive Act where
  | install_from_file (stat : Bool)
  | begin_stream_install
  | spawn (k : Nat)
  | install_reply (k : Nat) (r : InstallReply)
  | fail (k : Nat)
  | end_stream_install (k : Nat)
  | observe (k : Nat) (o : Observation)
  | write (k : Nat)

/-- The attempt whose step it is; a request has none yet. -/
def Act.attempt : Act → Option Nat
  | .install_from_file _ | .begin_stream_install => none
  | .spawn k | .install_reply k _ | .fail k | .end_stream_install k | .observe k _ | .write k => some k

def busy (st : UpdateStatus) : Bool := st.state == .Uploading || st.state == .Installing

def Terminal (st : UpdateStatus) : Prop := st.state = .Success ∨ st.state = .Failure

namespace Updater

/-- Attempt `k` becomes `x`. -/
def put (s : Updater) (k : Nat) (x : Attempt) : Updater :=
  { s with attempts := fun j => if j = k then x else s.attempts j }

/-- `try_begin`, and a call that goes on as `caller`. -/
def try_begin (s : Updater) (initial : UpdateState) (caller : Caller) : Updater :=
  if busy s.status_ then s
  else { s.put s.count ⟨caller, .unstarted, none⟩ with status_ := { state := initial }, count := s.count + 1 }

/-- What attempt `k` does next on its own. -/
def attempt_step (s : Updater) (k : Nat) (x : Attempt) : Act → Option Updater
  | .spawn _ =>
    match x.caller with
    | .spawning => some (s.put k { x with caller := .returned, worker := .running [] .requesting_file })
    | .granted => some (s.put k { x with caller := .forwarding, worker := .running [] .connecting })
    | _ => none
  | .install_reply _ r =>
    if x.caller = .requesting then
      some (s.put k { x with caller := if request_install r then .granted else .refused })
    else none
  | .fail _ =>
    if x.caller = .refused then
      some { s.put k { x with caller := .returned, verdict := some .Failure } with
        status_ := (Write.fail "cannot connect to swupdate IPC").apply s.status_ }
    else none
  | .end_stream_install _ =>
    if x.caller = .forwarding then
      some { s.put k { x with caller := .returned } with status_ := Write.start.apply s.status_ }
    else none
  | .observe _ o =>
    match x.worker with
    | .running [] phase =>
      (UpdateAttempts.observe phase o).map fun r => s.put k { x with worker := .running r.1 r.2 }
    | _ => none
  | .write _ =>
    match x.worker with
    | .running (w :: ws) phase =>
      some { s.put k { x with
          worker := if ws = [] ∧ phase = .none then .returned else .running ws phase
          verdict := if w.verdict?.isSome then w.verdict? else x.verdict } with
        status_ := w.apply s.status_ }
    | _ => none
  | _ => none

def step (s : Updater) (a : Act) : Option Updater :=
  match a.attempt with
  | some k => if k < s.count then s.attempt_step k (s.attempts k) a else none
  | none =>
    match a with
    | .install_from_file stat => some (if stat then s.try_begin .Installing .spawning else s)
    | .begin_stream_install => some (s.try_begin .Uploading .requesting)
    | _ => none

end Updater

/-! ## What a write does to the state -/

theorem Write.busy_apply {w : Write} (h : w.verdict? = none) (st : UpdateStatus) : busy (w.apply st) = busy st := by
  cases w with
  | message m => rfl
  | answer a => rfl
  | start =>
    simp only [Write.apply, busy]
    split
    · rename_i hs
      rw [hs]
      rfl
    · rfl
  | success => cases h
  | fail error => cases h

theorem Write.terminal_apply {w : Write} (h : w.verdict?.isSome = true) (st : UpdateStatus) :
    Terminal (w.apply st) := by
  cases w with
  | success => exact .inl rfl
  | fail error => exact .inr rfl
  | _ => cases h

theorem Terminal.not_busy {st : UpdateStatus} (h : Terminal st) : busy st = false := by
  unfold busy
  rcases h with h | h
  · rw [h]
    rfl
  · rw [h]
    rfl

/-- The end of a stream changes nothing but Uploading. -/
theorem start_apply {st : UpdateStatus} (h : st.state ≠ .Uploading) : Write.start.apply st = st := by
  simp only [Write.apply, if_neg h]

/-! ## Reactions end with their verdict -/

/-- A verdict is the last write, and the thread returns after it and only then. -/
def Ends : List Write → Phase → Prop
  | [], phase => phase ≠ .none
  | w :: ws, phase => if w.verdict?.isSome then ws = [] ∧ phase = .none else Ends ws phase

theorem ends_after {ws : List Write} {r : Reaction} (h : ∀ w ∈ ws, w.verdict? = none) (hr : Ends r.1 r.2) :
    Ends (after ws r).1 (after ws r).2 := by
  induction ws with
  | nil => exact hr
  | cons w ws ih =>
    have hw := h w (by simp)
    simp only [after, List.cons_append, Ends, hw]
    exact ih fun x hx => h x (by simp [hx])

theorem ends_fails (error : String) : Ends (fails error).1 (fails error).2 := ⟨rfl, rfl⟩

theorem ends_succeeds : Ends succeeds.1 succeeds.2 := ⟨rfl, rfl⟩

theorem ends_progress_top (n : Nat) (saw : Bool) : Ends (progress_top n saw).1 (progress_top n saw).2 := by
  unfold progress_top
  split
  · exact fun h => by cases h
  · exact ends_fails _

theorem ends_fallback_top (i : Nat) (last : UpdateState) : Ends (fallback_top i last).1 (fallback_top i last).2 := by
  unfold fallback_top
  split
  · exact fun h => by cases h
  · exact ends_fails _

theorem ends_message (saw : Bool) (m : ProgressMsg) : Ends (on_message saw m).1 (on_message saw m).2 := by
  unfold on_message
  split
  · exact ends_after (by simp [Write.verdict?]) (ends_progress_top _ _)
  · exact ends_after (by simp [Write.verdict?]) (ends_progress_top _ _)
  · exact ends_after (by simp [Write.verdict?]) (ends_progress_top _ _)
  · exact ends_after (by simp [Write.verdict?]) (ends_progress_top _ _)
  · exact ends_after (by simp [Write.verdict?]) (ends_progress_top _ _)
  · exact ends_after (by simp [Write.verdict?]) (ends_progress_top _ _)
  · exact ends_after (by simp [Write.verdict?]) ends_succeeds
  · exact ends_after (by simp [Write.verdict?]) ends_succeeds
  · exact ends_after (by simp [Write.verdict?]) (ends_fails _)
  · exact ends_after (by simp [Write.verdict?]) (ends_progress_top _ _)

theorem ends_timeout (n : Nat) (r : StatusReply) : Ends (on_timeout_reply n r).1 (on_timeout_reply n r).2 := by
  unfold on_timeout_reply
  split
  · exact ends_progress_top _ _
  split
  · exact ends_succeeds
  split
  · exact ends_fails _
  · exact ends_progress_top _ _

theorem ends_closed (r : StatusReply) : Ends (on_closed_reply r).1 (on_closed_reply r).2 := by
  unfold on_closed_reply
  split
  · exact ends_succeeds
  split
  · exact ends_fails _
  · exact ends_succeeds

theorem ends_fallback (i : Nat) (last : UpdateState) (r : StatusReply) :
    Ends (on_fallback_reply i last r).1 (on_fallback_reply i last r).2 := by
  unfold on_fallback_reply
  split
  · exact ends_fallback_top _ _
  rename_i a _
  have ha : ∀ w ∈ [Write.answer a], w.verdict? = none := by simp [Write.verdict?]
  split
  · exact ends_after ha ends_succeeds
  split
  · exact ends_after ha (ends_fails _)
  split
  · split
    · exact ends_after ha (ends_fallback_top _ _)
    split
    · exact ends_after ha (ends_fails _)
    · exact ends_after ha ends_succeeds
  · refine ends_after ?_ (ends_fallback_top _ _)
    split
    · simp [Write.verdict?]
    · exact ha

theorem ends_observe {phase : Phase} {o : Observation} {r : Reaction} (h : observe phase o = some r) :
    Ends r.1 r.2 := by
  have hgo : ∀ {p : Phase}, p ≠ .none → Ends (goes_to p).1 (goes_to p).2 := fun hp => hp
  unfold observe at h
  split at h
  · cases h
    refine hgo ?_
    split
    · simp
    · simp
  · split at h
    · cases h; exact ends_fails _
    · cases h; exact ends_fails _
    · cases h; exact ends_fails _
    · cases h; exact hgo (by simp)
  · split at h
    · cases h; exact ends_succeeds
    · cases h; exact ends_fails _
  · split at h
    · cases h; exact hgo (by simp)
    · cases h; exact ends_fails _
  · split at h
    · cases h; exact hgo (by simp)
    · cases h; exact ends_fallback_top _ _
  · split at h
    · cases h; exact ends_progress_top _ _
    · cases h; exact ends_fails _
  · cases h; exact hgo (by simp)
  · cases h; exact ends_fails _
  · split at h
    · cases h; exact hgo (by simp)
    · cases h; exact ends_progress_top _ _
  · split at h
    · cases h; exact hgo (by simp)
    · cases h; exact ends_fails _
  · cases h; exact ends_message _ _
  · cases h; exact ends_timeout _ _
  · cases h; exact ends_closed _
  · cases h; exact ends_fallback _ _ _
  · cases h

/-! ## The invariant -/

/-- An attempt is being begun, or its thread is at work, or it is over. -/
inductive Attempt.Wf : Attempt → Prop
  | begins {c} : c.begins = true → Wf ⟨c, .unstarted, none⟩
  | works {c ws phase} : c.begins = false → Ends ws phase → Wf ⟨c, .running ws phase, none⟩
  | ended {c w v} : c.begins = false → (∀ ws phase, w ≠ .running ws phase) → Wf ⟨c, w, some v⟩

namespace Updater

/-- Only the attempt that began last may be without a verdict, and the status is busy as long as it is. -/
structure Inv (s : Updater) : Prop where
  wf : ∀ k < s.count, (s.attempts k).Wf
  older : ∀ k, k + 1 < s.count → (s.attempts k).verdict ≠ none
  idle : s.count = 0 → busy s.status_ = false
  open_ : ∀ k, k + 1 = s.count → (s.attempts k).verdict = none → busy s.status_ = true
  closed : ∀ k, k + 1 = s.count → (s.attempts k).verdict ≠ none → Terminal s.status_

variable {s s' : Updater}

theorem inv_new : Inv .new where
  wf k h := by cases h
  older k h := by cases h
  idle _ := rfl
  open_ k h := by cases h
  closed k h := by cases h

theorem Inv.last (hI : Inv s) {k : Nat} (hk : k < s.count) (hv : (s.attempts k).verdict = none) : k + 1 = s.count := by
  refine Nat.le_antisymm hk (Nat.le_of_not_lt fun h => ?_)
  exact hI.older k h hv

/-- A status that is not busy has every attempt over. -/
theorem Inv.all_over (hI : Inv s) (hb : busy s.status_ = false) (k : Nat) (hk : k < s.count) :
    (s.attempts k).verdict ≠ none := by
  intro hv
  have := hI.open_ k (hI.last hk hv) hv
  rw [hb] at this
  cases this

theorem inv_try_begin (hI : Inv s) {initial : UpdateState} {caller : Caller} (hc : caller.begins = true)
    (hi : busy { state := initial } = true) : Inv (s.try_begin initial caller) := by
  unfold try_begin
  split
  · exact hI
  · rename_i hb
    have hb : busy s.status_ = false := Bool.eq_false_iff.2 hb
    constructor
    · intro k hk
      simp only [put] at hk ⊢
      split
      · exact .begins hc
      · exact hI.wf k (by omega)
    · intro k hk
      simp only [put] at hk ⊢
      rw [if_neg (by omega)]
      exact hI.all_over hb k (by omega)
    · intro h
      cases h
    · intro k _ _
      exact hi
    · intro k hk hv
      simp only [put] at hk hv
      rw [if_pos (by omega)] at hv
      exact absurd rfl hv

/-- The attempt without a verdict goes on, or gets one. -/
theorem Inv.go (hI : Inv s) {k : Nat} {x : Attempt} {st : UpdateStatus} (hk : k + 1 = s.count) (hx : x.Wf)
    (hb : x.verdict = none → busy st = true) (ht : x.verdict ≠ none → Terminal st) :
    Inv { s.put k x with status_ := st } := by
  constructor
  · intro j hj
    simp only [put]
    split
    · exact hx
    · exact hI.wf j hj
  · intro j hj
    simp only [put] at hj ⊢
    rw [if_neg (by omega)]
    exact hI.older j hj
  · intro h
    simp only [put] at h
    omega
  · intro j hj hv
    simp only [put] at hj hv
    rw [if_pos (by omega)] at hv
    exact hb hv
  · intro j hj hv
    simp only [put] at hj hv
    rw [if_pos (by omega)] at hv
    exact ht hv

/-- An upload handler ends its stream. -/
theorem Inv.end_stream (hI : Inv s) {k : Nat} (hk : k < s.count) (hc : (s.attempts k).caller = .forwarding) :
    Inv { s.put k { s.attempts k with caller := .returned } with status_ := Write.start.apply s.status_ } := by
  have hwf : Attempt.Wf { s.attempts k with caller := .returned } := by
    have hx := hI.wf k hk
    cases hx' : s.attempts k with
    | mk c w v =>
      rw [hx'] at hx hc
      cases hx with
      | begins h => rw [show c = Caller.forwarding from hc] at h; cases h
      | works h he => exact .works rfl he
      | ended h hw => exact .ended rfl hw
  have hverdict : ∀ j, ((s.put k { s.attempts k with caller := .returned }).attempts j).verdict =
      (s.attempts j).verdict := by
    intro j
    simp only [put]
    split
    · rename_i h
      rw [h]
    · rfl
  constructor
  · intro j hj
    simp only [put]
    split
    · exact hwf
    · exact hI.wf j hj
  · intro j hj
    rw [hverdict]
    exact hI.older j hj
  · intro h
    rw [Write.busy_apply rfl]
    exact hI.idle h
  · intro j hj hv
    rw [hverdict] at hv
    rw [Write.busy_apply rfl]
    exact hI.open_ j hj hv
  · intro j hj hv
    rw [hverdict] at hv
    have ht := hI.closed j hj hv
    rw [start_apply (by rcases ht with h | h <;> rw [h] <;> simp)]
    exact ht

/-- A call that has not returned has neither thread nor verdict. -/
theorem Inv.beginning (hI : Inv s) {k : Nat} (hk : k < s.count) (hc : (s.attempts k).caller.begins = true) :
    (s.attempts k).worker = .unstarted ∧ (s.attempts k).verdict = none := by
  have hx := hI.wf k hk
  generalize s.attempts k = x at hx hc
  cases hx with
  | begins h => exact ⟨rfl, rfl⟩
  | works h he => exact absurd (hc.symm.trans h) (by simp)
  | ended h hw => exact absurd (hc.symm.trans h) (by simp)

/-- A thread at work has no verdict, and its writes end with one if it is about to return. -/
theorem Inv.working (hI : Inv s) {k : Nat} {ws : List Write} {phase : Phase} (hk : k < s.count)
    (hw : (s.attempts k).worker = .running ws phase) :
    (s.attempts k).caller.begins = false ∧ Ends ws phase ∧ (s.attempts k).verdict = none := by
  have hx := hI.wf k hk
  generalize s.attempts k = x at hx hw
  cases hx with
  | begins h => cases hw
  | works h he =>
    cases hw
    exact ⟨h, he, rfl⟩
  | ended h hn => exact absurd hw (hn ws phase)

/-- What a step of attempt `k` does: it leaves the status alone, or writes it as
the attempt that has no verdict yet, or ends a stream. -/
inductive Moves (s : Updater) (k : Nat) (a : Act) : Updater → Prop
  | quiet {x} : (s.attempts k).verdict = none → x.Wf → x.verdict = none → x.worker ≠ .returned →
      Moves s k a (s.put k x)
  | writes {x} (w : Write) : (s.attempts k).verdict = none → x.Wf → x.verdict = w.verdict? →
      (x.worker = .returned → w.verdict?.isSome = true) →
      Moves s k a { s.put k x with status_ := w.apply s.status_ }
  | ends_stream : a = .end_stream_install k → (s.attempts k).caller = .forwarding →
      Moves s k a { s.put k { s.attempts k with caller := .returned } with status_ := Write.start.apply s.status_ }

theorem attempt_step_moves {k : Nat} {a : Act} (hI : Inv s) (ha : a.attempt = some k) (hk : k < s.count)
    (h : s.attempt_step k (s.attempts k) a = some s') : s.Moves k a s' := by
  have begin_ : ∀ {c : Caller}, (s.attempts k).caller = c → c.begins = true →
      (s.attempts k).worker = .unstarted ∧ (s.attempts k).verdict = none := fun hc hb =>
    hI.beginning hk (hc ▸ hb)
  unfold attempt_step at h
  split at h
  · -- the thread is started
    split at h
    · rename_i hc
      obtain ⟨-, hv⟩ := begin_ hc rfl
      cases h
      refine .quiet hv ?_ hv (by simp)
      rw [hv]
      exact .works rfl (fun h => by cases h)
    · rename_i hc
      obtain ⟨-, hv⟩ := begin_ hc rfl
      cases h
      refine .quiet hv ?_ hv (by simp)
      rw [hv]
      exact .works rfl (fun h => by cases h)
    · cases h
  · rename_i r
    split at h
    · rename_i hc
      obtain ⟨hw, hv⟩ := begin_ hc rfl
      cases h
      refine .quiet hv ?_ hv (by simp [hw])
      rw [hw, hv]
      refine .begins ?_
      split
      · rfl
      · rfl
    · cases h
  · split at h
    · rename_i hc
      obtain ⟨hw, hv⟩ := begin_ hc rfl
      cases h
      exact .writes (.fail _) hv (.ended rfl (by simp [hw])) rfl (by simp [hw])
    · cases h
  · split at h
    · rename_i hc
      cases h
      cases ha
      exact .ends_stream rfl hc
    · cases h
  · split at h
    · rename_i phase hw
      obtain ⟨hb, -, hv⟩ := hI.working hk hw
      obtain ⟨r, hr, rfl⟩ := Option.map_eq_some_iff.1 h
      refine .quiet hv ?_ hv (by simp)
      rw [hv]
      exact .works hb (ends_observe hr)
    · cases h
  · split at h
    · rename_i w ws phase hw
      obtain ⟨hb, he, hv⟩ := hI.working hk hw
      cases h
      refine .writes w hv ?_ ?_ ?_
      · rw [hv]
        simp only [Ends] at he
        cases hwv : w.verdict? with
        | none =>
          simp only [hwv, Option.isSome_none, Bool.false_eq_true, if_false] at he ⊢
          rw [if_neg]
          · exact .works hb he
          · rintro ⟨rfl, hp⟩
            exact he hp
        | some v =>
          simp only [hwv, Option.isSome_some, if_true] at he ⊢
          rw [if_pos he]
          exact .ended hb (by simp)
      · rw [hv]
        cases w.verdict? with
        | none => rfl
        | some v => rfl
      · dsimp only
        split
        · rename_i hend
          intro _
          simp only [Ends, hend.1, hend.2] at he
          by_cases hs : w.verdict?.isSome = true
          · exact hs
          · rw [if_neg hs] at he
            exact absurd rfl he
        · intro hx
          cases hx
    · cases h
  · cases h

theorem Moves.inv {k : Nat} {a : Act} (hI : Inv s) (hk : k < s.count) (h : s.Moves k a s') : Inv s' := by
  cases h with
  | quiet hold hx hv hw =>
    have hl := hI.last hk hold
    exact (hI.go hl hx (fun _ => hI.open_ k hl hold) fun hn => absurd hv hn :
      Inv { s.put k _ with status_ := s.status_ })
  | writes w hold hx hv hw =>
    have hl := hI.last hk hold
    refine hI.go hl hx (fun hn => ?_) fun hn => ?_
    · rw [Write.busy_apply (hv.symm.trans hn)]
      exact hI.open_ k hl hold
    · rw [hv] at hn
      exact Write.terminal_apply (Option.isSome_iff_ne_none.2 hn) _
  | ends_stream _ hc => exact hI.end_stream hk hc

/-- A request is refused and changes nothing, or begins an attempt on a status that is not busy. -/
theorem try_begin_cases (s : Updater) (initial : UpdateState) (caller : Caller) :
    (busy s.status_ = true ∧ s.try_begin initial caller = s) ∨
      (busy s.status_ = false ∧ (s.try_begin initial caller).count = s.count + 1) := by
  unfold try_begin
  split
  · rename_i hb
    exact .inl ⟨hb, rfl⟩
  · rename_i hb
    exact .inr ⟨Bool.eq_false_iff.2 hb, rfl⟩

/-- A step is a request or a move of one attempt. -/
theorem step_cases {a : Act} (hI : Inv s) (h : s.step a = some s') :
    (a.attempt = none ∧ Inv s' ∧ (s' = s ∨ (busy s.status_ = false ∧ s'.count = s.count + 1))) ∨
      ∃ k, a.attempt = some k ∧ k < s.count ∧ s.Moves k a s' := by
  unfold step at h
  split at h
  · rename_i k ha
    split at h
    · rename_i hk
      exact .inr ⟨k, ha, hk, attempt_step_moves hI ha hk h⟩
    · cases h
  · rename_i ha
    refine .inl ⟨ha, ?_⟩
    split at h
    · cases h
      split
      · exact ⟨inv_try_begin hI rfl rfl, (s.try_begin_cases _ _).imp And.right id⟩
      · exact ⟨hI, .inl rfl⟩
    · cases h
      exact ⟨inv_try_begin hI rfl rfl, (s.try_begin_cases _ _).imp And.right id⟩
    · cases h

theorem step_inv {a : Act} (hI : Inv s) (h : s.step a = some s') : Inv s' := by
  rcases step_cases hI h with ⟨-, hI', -⟩ | ⟨k, -, hk, hm⟩
  · exact hI'
  · exact hm.inv hI hk

theorem run_inv {as : List Act} (h : Run step .new as s) : Inv s :=
  h.inv Inv inv_new fun _ _ _ => step_inv

theorem Moves.count {k : Nat} {a : Act} (h : s.Moves k a s') : s'.count = s.count := by
  cases h with
  | quiet => rfl
  | writes => rfl
  | ends_stream => rfl

/-! ## Attempts apart -/

/-- No attempt begins before every other one has ended, a refused request
changes nothing, and the status is only written by the attempt that began last. -/
def Apart (s : Updater) (a : Act) (s' : Updater) : Prop :=
  (s'.count ≠ s.count → ∀ k < s.count, (s.attempts k).verdict ≠ none) ∧
  (a.attempt = none → s'.count = s.count → s'.status_ = s.status_) ∧
  (s'.status_ ≠ s.status_ → s'.count ≠ s.count ∨ ∃ k, a.attempt = some k ∧ k + 1 = s.count)

/-- An upload handler that ends its stream belongs to the attempt that began
last, or finds the status anything but Uploading. -/
def in_time (s : Updater) : Act → Bool
  | .end_stream_install k => k + 1 = s.count ∨ s.status_.state ≠ .Uploading
  | _ => true

theorem step_apart {a : Act} (hI : Inv s) (h : s.step a = some s') (ht : s.in_time a = true) : s.Apart a s' := by
  rcases step_cases hI h with ⟨ha, -, rfl | ⟨hb, hc⟩⟩ | ⟨k, ha, hk, hm⟩
  · exact ⟨fun hn => absurd rfl hn, fun _ _ => rfl, fun hn => absurd rfl hn⟩
  · exact ⟨fun _ => hI.all_over hb, fun _ hs => by omega, fun _ => .inl (by omega)⟩
  · refine ⟨fun hn => absurd hm.count hn, fun hn => ?_, fun hn => .inr ⟨k, ha, ?_⟩⟩
    · rw [ha] at hn
      cases hn
    · cases hm with
      | quiet => exact absurd rfl hn
      | writes w hold => exact hI.last hk hold
      | ends_stream he =>
        subst he
        simp only [in_time, decide_eq_true_eq] at ht
        rcases ht with ht | ht
        · exact ht
        · exact absurd (start_apply ht) hn

/-- A handler that comes too late writes the status of another attempt. -/
theorem late_not_apart {a : Act} (hI : Inv s) (h : s.step a = some s') (ht : s.in_time a = false) : ¬ s.Apart a s' := by
  rintro ⟨-, -, hown⟩
  cases a with
  | end_stream_install k =>
    simp only [in_time, decide_eq_false_iff_not, not_or, not_not] at ht
    obtain ⟨hk, hs⟩ := ht
    rcases step_cases hI h with ⟨ha, -⟩ | ⟨j, ha, hj, hm⟩
    · cases ha
    · cases ha
      have hcount := hm.count
      have hne : s'.status_ ≠ s.status_ := by
        cases hm with
        | quiet hold => exact absurd (hI.last hj hold) hk
        | writes w hold => exact absurd (hI.last hj hold) hk
        | ends_stream =>
          intro he
          have := congrArg UpdateStatus.state he
          simp [Write.apply, hs] at this
      rcases hown hne with hc | ⟨i, hi, hl⟩
      · exact hc hcount
      · cases hi
        exact hk hl
  | _ => cases ht

/-- Attempts are apart through a whole run exactly where every upload handler
ends its stream in time. -/
theorem attempts_apart_iff (as : List Act) (s : Updater) (h : Run step .new as s) :
    (∀ pre a post t t', as = pre ++ a :: post → Run step .new pre t → t.step a = some t' → t.Apart a t') ↔
      Meets step (fun t a => t.in_time a = true) .new as := by
  constructor
  · intro hall pre a post t he ht
    subst he
    obtain ⟨t', ht'⟩ := h.next ht
    refine Bool.of_not_eq_false fun hlate => ?_
    exact late_not_apart (run_inv ht) ht' hlate (hall pre a post t t' rfl ht ht')
  · intro hm pre a post t t' he ht ht'
    exact step_apart (run_inv ht) ht' (hm pre a post t he ht)

/-- A stream that swupdate takes and closes before it starts, and then another. -/
def closed_and_retried : List Act :=
  [.begin_stream_install, .install_reply 0 (.response 1), .spawn 0, .observe 0 (.progress_connect true),
    .observe 0 (.progress_ack true), .observe 0 .closed, .write 0, .begin_stream_install]

/-- With the handler of the first stream done before the second begins, and a third request refused. -/
def in_time_run : List Act :=
  [.begin_stream_install, .install_reply 0 (.response 1), .spawn 0, .end_stream_install 0,
    .observe 0 (.progress_connect true), .observe 0 (.progress_ack true), .observe 0 .closed, .write 0,
    .begin_stream_install, .install_from_file true]

theorem attempts_apart_in_time :
    ∃ s, Run step .new in_time_run s ∧ s.count = 2 ∧ Meets step (fun t a => t.in_time a = true) .new in_time_run ∧
      ∀ pre a post t t', in_time_run = pre ++ a :: post → Run step .new pre t → t.step a = some t' → t.Apart a t' := by
  obtain ⟨s, hs, hc⟩ : ∃ s, exec step .new in_time_run = some s ∧ s.count = 2 := ⟨_, rfl, rfl⟩
  have htime : Meets step (fun t a => t.in_time a = true) .new in_time_run := meets_of_checks (by decide +kernel)
  exact ⟨s, run_of_exec hs, hc, htime, (attempts_apart_iff _ s (run_of_exec hs)).2 htime⟩

/-- The upload handler of a failed attempt moves the next one from Uploading to Installing. -/
theorem late_end_stream :
    ¬ ∀ as t a t', Run step .new as t → t.step a = some t' → t.Apart a t' := by
  intro hall
  obtain ⟨t, ht, t', ht', hlate⟩ : ∃ t, exec step .new closed_and_retried = some t ∧
      ∃ t', t.step (.end_stream_install 0) = some t' ∧ t.in_time (.end_stream_install 0) = false :=
    ⟨_, rfl, _, rfl, by decide⟩
  exact late_not_apart (run_inv (run_of_exec ht)) ht' hlate (hall _ t _ t' (run_of_exec ht) ht')

/-! ## Never stuck busy -/

theorem Inv.busy_running (hI : Inv s) (hb : busy s.status_ = true) : ∃ k < s.count, (s.attempts k).Running := by
  have hc : s.count ≠ 0 := by
    intro h
    rw [hI.idle h] at hb
    cases hb
  have hlast : s.count - 1 + 1 = s.count := by omega
  refine ⟨s.count - 1, by omega, ?_⟩
  have hv : (s.attempts (s.count - 1)).verdict = none := by
    refine Option.not_isSome_iff_eq_none.1 fun hv => ?_
    have := (hI.closed _ hlast (Option.isSome_iff_ne_none.1 hv)).not_busy
    rw [hb] at this
    cases this
  have hx := hI.wf (s.count - 1) (by omega)
  generalize s.attempts (s.count - 1) = x at hx hv
  cases hx with
  | begins h => exact .inl h
  | works h he => exact .inr ⟨_, _, rfl⟩
  | ended h hw => cases hv

/-- A thread that returns has left the status terminal. -/
theorem step_returns {a : Act} (hI : Inv s) (h : s.step a = some s') {k : Nat} (hk : k < s.count)
    (hr : (s.attempts k).Running) (hr' : (s'.attempts k).worker = .returned) : Terminal s'.status_ := by
  have hne : (s.attempts k).worker ≠ .returned := by
    rcases hr with hb | ⟨ws, phase, hw⟩
    · rw [(hI.beginning hk hb).1]
      simp
    · rw [hw]
      simp
  rcases step_cases hI h with ⟨-, hI', rfl | ⟨hb, -⟩⟩ | ⟨j, -, hj, hm⟩
  · exact absurd hr' hne
  · -- a status that is not busy has no thread running
    exfalso
    refine hI.all_over hb k hk ?_
    rcases hr with hc | ⟨ws, phase, hw⟩
    · exact (hI.beginning hk hc).2
    · exact (hI.working hk hw).2.2
  · have hput : ∀ x : Attempt, x.worker ≠ .returned → ((s.put j x).attempts k).worker ≠ .returned := by
      intro x hx
      simp only [put]
      split
      · exact hx
      · exact hne
    cases hm with
    | quiet hold hx hv hw => exact absurd hr' (hput _ hw)
    | writes w hold hx hv hw =>
      refine Write.terminal_apply (Decidable.byContradiction fun hn => ?_) _
      exact hput _ (fun h => hn (hw h)) hr'
    | ends_stream he hc =>
      refine absurd hr' ?_
      simp only [put]
      split
      · rename_i hkj
        rw [← hkj]
        exact hne
      · exact hne

/-- A busy status has an attempt whose begin call or thread is running; a thread
of an attempt returns on a terminal status; and with no such call or thread
running, every request is accepted. -/
theorem never_stuck_busy (as : List Act) (s : Updater) (h : Run step .new as s) :
    (busy s.status_ = true → ∃ k < s.count, (s.attempts k).Running) ∧
    (∀ a s' k, s.step a = some s' → k < s.count → (s.attempts k).Running → (s'.attempts k).worker = .returned →
      Terminal s'.status_) ∧
    ((∀ k < s.count, ¬ (s.attempts k).Running) →
      (∃ s', s.step .begin_stream_install = some s' ∧ s'.count = s.count + 1) ∧
      ∃ s', s.step (.install_from_file true) = some s' ∧ s'.count = s.count + 1) := by
  have hI := run_inv h
  refine ⟨hI.busy_running, fun a s' k hs hk hr hr' => step_returns hI hs hk hr hr', fun hno => ?_⟩
  have hb : busy s.status_ = false := by
    refine Bool.eq_false_iff.2 fun hb => ?_
    obtain ⟨k, hk, hr⟩ := hI.busy_running hb
    exact hno k hk hr
  have accepted : ∀ initial caller, (s.try_begin initial caller).count = s.count + 1 := by
    intro initial caller
    rcases s.try_begin_cases initial caller with ⟨hb', -⟩ | ⟨-, hc⟩
    · rw [hb] at hb'
      cases hb'
    · exact hc
  exact ⟨⟨_, rfl, accepted _ _⟩, ⟨_, rfl, accepted _ _⟩⟩

/-- A file that cannot be opened: the attempt fails, and the next request is accepted. -/
theorem never_stuck_busy_failed :
    ∃ s, Run step .new [.install_from_file true, .spawn 0, .observe 0 (.install_reply (.response 1)),
        .observe 0 (.file_streamed (.open_failed "No such file or directory")), .write 0] s ∧
      busy s.status_ = false ∧ ((∀ k < s.count, ¬ (s.attempts k).Running) →
        (∃ s', s.step .begin_stream_install = some s' ∧ s'.count = s.count + 1) ∧
        ∃ s', s.step (.install_from_file true) = some s' ∧ s'.count = s.count + 1) := by
  obtain ⟨s, hs, hb⟩ : ∃ s, exec step .new [.install_from_file true, .spawn 0, .observe 0 (.install_reply (.response 1)),
      .observe 0 (.file_streamed (.open_failed "No such file or directory")), .write 0] = some s ∧
      busy s.status_ = false := ⟨_, rfl, rfl⟩
  exact ⟨s, run_of_exec hs, hb, (never_stuck_busy _ s (run_of_exec hs)).2.2⟩

end Updater

end CameraStreamer.Update.UpdateAttempts
