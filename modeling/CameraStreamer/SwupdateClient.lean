import CameraStreamer.SwupdateIpc
import CameraStreamer.Lib.Runs
/-!
# The update client

`SwupdateClient` as a machine whose steps are what an install attempt observes:
the answers and messages of swupdate, silences, failed calls, the exit of the
subprocess. `seen` is what the attempt has observed so far.
-/

namespace CameraStreamer.Update

open Runs

/-- What streaming a file to swupdate ends with. -/
inductive FileStream where
  | open_failed (error : String)
  | write_failed
  | read_failed (error : String)
  | done
  deriving DecidableEq

/-- What an install attempt observes. -/
inductive Observation where
  | install_reply (r : InstallReply)
  | file_streamed (r : FileStream)
  | subprocess_exit (rc : Int)
  | progress_connect (ok : Bool)
  | progress_ack (ok : Bool)
  /-- `EINTR` from `select`. -/
  | select_interrupted
  | select_error
  /-- 60 s without a message. -/
  | silence
  /-- A message could not be read: swupdate closed the socket. -/
  | closed
  | message (m : ProgressMsg)
  | status_reply (r : StatusReply)
  deriving DecidableEq

/-- Where the thread of the attempt is. -/
inductive Phase where
  | none
  /-- `run_install`, in `request_install`. -/
  | requesting_file
  | streaming_file
  | subprocess
  /-- `begin_stream_install`, in `request_install`. -/
  | requesting_stream
  /-- `poll_completion`, connecting to the progress socket. -/
  | connecting
  | awaiting_ack
  /-- In `select`. -/
  | progress (idle_count : Nat) (saw_start : Bool)
  /-- In `poll_status` after a silence; it has seen START. -/
  | timeout_query (idle_count : Nat)
  /-- In `poll_status` after the socket was closed; it has seen START. -/
  | closed_query
  /-- `poll_completion_via_control_socket`, in `poll_status` for the `i`-th time. -/
  | fallback (i : Nat) (last_logged_state : UpdateState)
  deriving DecidableEq

structure SwupdateClient where
  status_ : UpdateStatus
  phase : Phase
  seen : List Observation

def SwupdateClient.new : SwupdateClient := ⟨{}, .none, []⟩

namespace SwupdateClient

def is_busy (s : SwupdateClient) : Bool := s.status_.state == .Uploading || s.status_.state == .Installing

/-- `set_state`, and the thread returns. -/
def finish (s : SwupdateClient) (state : UpdateState) : SwupdateClient :=
  { s with status_ := { s.status_ with state := state }, phase := .none }

/-- `fail`, and the thread returns. -/
def fail (s : SwupdateClient) (error : String) : SwupdateClient :=
  { s with status_ := { s.status_ with state := .Failure, error := error }, phase := .none }

/-- The thread goes on in `phase`. -/
def goto (s : SwupdateClient) (phase : Phase) : SwupdateClient := { s with phase := phase }

def timed_out : String := "timed out waiting for swupdate completion"

/-- The test of `idle_count` at the top of the progress loop. -/
def progress_top (s : SwupdateClient) (idle_count : Nat) (saw_start : Bool) : SwupdateClient :=
  if idle_count < 600 then s.goto (.progress idle_count saw_start) else s.fail timed_out

/-- The test of `i` at the top of the fallback loop. -/
def fallback_top (s : SwupdateClient) (i : Nat) (last_logged_state : UpdateState) : SwupdateClient :=
  if i < 600 then s.goto (.fallback i last_logged_state) else s.fail timed_out

/-- From Uploading to Installing, when swupdate starts. -/
def started (s : SwupdateClient) : SwupdateClient :=
  { s with status_ := { s.status_ with
      state := if s.status_.state = .Uploading then .Installing else s.status_.state } }

/-- The part of a progress message that goes into the status. -/
def with_message (s : SwupdateClient) (m : ProgressMsg) : SwupdateClient :=
  { s with status_ := { s.status_ with
      percent := m.cur_percent.toInt32
      step := m.cur_step.toInt32
      total_steps := m.nsteps.toInt32
      current_name := if m.cur_image = "" then s.status_.current_name else m.cur_image } }

/-- The part of an answer that goes into the status, in the fallback. -/
def with_answer (s : SwupdateClient) (a : UpdateStatus) : SwupdateClient :=
  { s with status_ := { s.status_ with
      percent := a.percent
      step := a.step
      total_steps := a.total_steps
      current_name := if a.current_name = "" then s.status_.current_name else a.current_name } }

/-- A progress message in the loop. -/
def on_message (s : SwupdateClient) (saw_start : Bool) (m : ProgressMsg) : SwupdateClient :=
  let s := s.with_message m
  match m.recovery with
  | some .Idle => s.progress_top 0 saw_start
  | some .Start | some .Run | some .Progress | some .Download | some .Subprocess => s.started.progress_top 0 true
  | some .Success => s.finish .Success
  | some .Failure => s.fail "installation failed"
  | some .Done => s.finish .Success
  -- the switch has no default: `new_state` stays Installing
  | none => s.started.progress_top 0 saw_start

/-- The answer to the query after a silence. -/
def on_timeout_reply (s : SwupdateClient) (idle_count : Nat) (r : StatusReply) : SwupdateClient :=
  match poll_status r with
  | .error _ => s.progress_top idle_count true
  | .ok a =>
    if a.state = .Success ∨ a.state = .Done ∨ (a.state = .Idle ∧ a.last_result ≠ .Failure) then s.finish .Success
    else if a.state = .Failure ∨ (a.state = .Idle ∧ a.last_result = .Failure) then s.fail a.error
    else s.progress_top idle_count true

/-- The answer to the query after the socket was closed. -/
def on_closed_reply (s : SwupdateClient) (r : StatusReply) : SwupdateClient :=
  match poll_status r with
  | .error _ => s.finish .Success
  | .ok a => if a.last_result = .Failure then s.fail a.error else s.finish .Success

/-- One turn of the fallback loop. -/
def on_fallback_reply (s : SwupdateClient) (i : Nat) (last_logged_state : UpdateState) (r : StatusReply) :
    SwupdateClient :=
  match poll_status r with
  | .error _ => s.fallback_top (i + 1) last_logged_state
  | .ok a =>
    let s := s.with_answer a
    if a.state = .Success ∨ a.state = .Done then s.finish .Success
    else if a.state = .Failure then s.fail a.error
    else if a.state = .Idle then
      if i < 5 ∧ last_logged_state = .Idle then s.fallback_top (i + 1) last_logged_state
      else if a.last_result = .Failure then s.fail a.error
      else s.finish .Success
    else
      let s := if a.state = .Installing then s.started else s
      s.fallback_top (i + 1) a.state

/-- What the thread of the attempt does on an observation it can make. -/
def react (s : SwupdateClient) (o : Observation) : Option SwupdateClient :=
  match s.phase, o with
  | .requesting_file, .install_reply r => some (s.goto (if request_install r then .streaming_file else .subprocess))
  | .streaming_file, .file_streamed r =>
    match r with
    | .open_failed error => some (s.fail ("open: " ++ error))
    | .write_failed => some (s.fail "write to swupdate IPC failed")
    | .read_failed error => some (s.fail ("read: " ++ error))
    | .done => some (s.goto .connecting)
  | .subprocess, .subprocess_exit rc =>
    if rc = 0 then some (s.finish .Success)
    else some (s.fail ("swupdate subprocess exited with code " ++ toString rc))
  | .requesting_stream, .install_reply r =>
    if request_install r then some (s.goto .connecting) else some (s.fail "cannot connect to swupdate IPC")
  | .connecting, .progress_connect ok => if ok then some (s.goto .awaiting_ack) else some (s.fallback_top 0 .Idle)
  | .awaiting_ack, .progress_ack ok =>
    if ok then some (s.progress_top 0 false) else some (s.fail "progress socket connect failed")
  | .progress _ _, .select_interrupted => some s
  | .progress _ _, .select_error => some (s.fail timed_out)
  | .progress idle_count saw_start, .silence =>
    if saw_start then some (s.goto (.timeout_query (idle_count + 1))) else some (s.progress_top (idle_count + 1) false)
  | .progress _ saw_start, .closed =>
    if saw_start then some (s.goto .closed_query)
    else some (s.fail "swupdate closed progress socket before install started")
  | .progress _ saw_start, .message m => some (s.on_message saw_start m)
  | .timeout_query idle_count, .status_reply r => some (s.on_timeout_reply idle_count r)
  | .closed_query, .status_reply r => some (s.on_closed_reply r)
  | .fallback i last_logged_state, .status_reply r => some (s.on_fallback_reply i last_logged_state r)
  | _, _ => none

/-- `try_begin`, and the attempt's thread. -/
def begin_attempt (s : SwupdateClient) (initial : UpdateState) (phase : Phase) : Option SwupdateClient :=
  if s.is_busy then some s
  else if s.phase = .none then some ⟨{ state := initial }, phase, []⟩
  else none

/-- The calls of the class, and what its threads observe. -/
inductive Event where
  /-- `install_from_file`; `stat` says whether it finds the file. -/
  | install_from_file (stat : Bool)
  | begin_stream_install
  | end_stream_install
  | observe (o : Observation)
  deriving DecidableEq

def step (s : SwupdateClient) : Event → Option SwupdateClient
  | .install_from_file stat => if stat then s.begin_attempt .Installing .requesting_file else some s
  | .begin_stream_install => s.begin_attempt .Uploading .requesting_stream
  | .end_stream_install => some s.started
  | .observe o => (s.react o).map fun s' => { s' with seen := s.seen ++ [o] }

end SwupdateClient

/-! ## Evidence -/

/-- A result of an install that says it went well. -/
def UpdateState.succeeded (r : UpdateState) : Prop := r = .Success ∨ r = .Done

instance (r : UpdateState) : Decidable r.succeeded := inferInstanceAs (Decidable (_ ∨ _))

@[simp] theorem idle_not_succeeded : ¬ UpdateState.succeeded .Idle := by simp [UpdateState.succeeded]

/-- swupdate says SUCCESS or DONE, in a message or in an answer. -/
def Observation.reports_success : Observation → Prop
  | .message m => m.recovery = some .Success ∨ m.recovery = some .Done
  | .status_reply r => ∃ a, poll_status r = .ok a ∧ a.state.succeeded
  | _ => False

/-- swupdate says that it is at work. -/
def Observation.reports_running : Observation → Prop
  | .message m => m.recovery = some .Start ∨ m.recovery = some .Run ∨ m.recovery = some .Progress ∨
      m.recovery = some .Download ∨ m.recovery = some .Subprocess
  | .status_reply r => ∃ a, poll_status r = .ok a ∧ a.state = .Installing
  | _ => False

/-- swupdate is idle, and its last install went well. -/
def Observation.idle_after_success : Observation → Prop
  | .status_reply r => ∃ a, poll_status r = .ok a ∧ a.state = .Idle ∧ a.last_result.succeeded
  | _ => False

def Running (seen : List Observation) : Prop := ∃ o ∈ seen, o.reports_running

/-- Why an attempt that observed `seen` may be called successful. -/
def Evidence (seen : List Observation) : Prop :=
  (∃ o ∈ seen, o.reports_success) ∨ .subprocess_exit 0 ∈ seen ∨
    ∃ before o after, seen = before ++ o :: after ∧ Running before ∧ o.idle_after_success

/-- What one more observation adds. -/
def Convincing (seen : List Observation) (o : Observation) : Prop :=
  o.reports_success ∨ o = .subprocess_exit 0 ∨ (Running seen ∧ o.idle_after_success)

theorem running_snoc (seen : List Observation) (o : Observation) :
    Running (seen ++ [o]) ↔ Running seen ∨ o.reports_running := by
  simp only [Running, List.mem_append, List.mem_singleton]
  constructor
  · rintro ⟨x, hx | rfl, hr⟩
    · exact .inl ⟨x, hx, hr⟩
    · exact .inr hr
  · rintro (⟨x, hx, hr⟩ | hr)
    · exact ⟨x, .inl hx, hr⟩
    · exact ⟨o, .inr rfl, hr⟩

theorem evidence_snoc (seen : List Observation) (o : Observation) :
    Evidence (seen ++ [o]) ↔ Evidence seen ∨ Convincing seen o := by
  constructor
  · rintro (⟨x, hx, hs⟩ | hx | ⟨before, x, after, he, hr, hi⟩)
    · rcases List.mem_append.1 hx with hx | hx
      · exact .inl (.inl ⟨x, hx, hs⟩)
      · rw [List.mem_singleton] at hx
        subst hx
        exact .inr (.inl hs)
    · rcases List.mem_append.1 hx with hx | hx
      · exact .inl (.inr (.inl hx))
      · rw [List.mem_singleton] at hx
        exact .inr (.inr (.inl hx.symm))
    · rcases List.eq_nil_or_concat after with rfl | ⟨after, y, rfl⟩
      · obtain ⟨rfl, hx⟩ := List.append_inj' he rfl
        cases hx
        exact .inr (.inr (.inr ⟨hr, hi⟩))
      · rw [List.concat_eq_append, ← List.cons_append, ← List.append_assoc] at he
        obtain ⟨rfl, -⟩ := List.append_inj' he rfl
        exact .inl (.inr (.inr ⟨before, x, after, rfl, hr, hi⟩))
  · rintro ((⟨x, hx, hs⟩ | hx | ⟨before, x, after, rfl, hr, hi⟩) | hs | rfl | ⟨hr, hi⟩)
    · exact .inl ⟨x, List.mem_append.2 (.inl hx), hs⟩
    · exact .inr (.inl (List.mem_append.2 (.inl hx)))
    · exact .inr (.inr ⟨before, x, after ++ [o], by simp, hr, hi⟩)
    · exact .inl ⟨o, by simp, hs⟩
    · exact .inr (.inl (by simp))
    · exact .inr (.inr ⟨seen, o, [], rfl, hr, hi⟩)

/-! ## Unbacked success -/

/-- The observations after which the code calls the attempt successful and
should not. After the progress socket was closed: the query fails, or its answer
says neither that the install went well nor that it failed. After a silence: the
answer is IDLE, with no result. In the fallback, an IDLE answer that is taken
for the end of the install, with no result, or when the install was never seen
to run. -/
def Unbacked (s : SwupdateClient) (o : Observation) : Prop :=
  match s.phase, o with
  | .closed_query, .status_reply r =>
    match poll_status r with
    | .error _ => True
    | .ok a => a.last_result ≠ .Failure ∧ ¬ a.state.succeeded ∧ ¬ (a.state = .Idle ∧ a.last_result.succeeded)
  | .timeout_query _, .status_reply r =>
    match poll_status r with
    | .error _ => False
    | .ok a => a.state = .Idle ∧ a.last_result ≠ .Failure ∧ ¬ a.last_result.succeeded
  | .fallback i last_logged_state, .status_reply r =>
    match poll_status r with
    | .error _ => False
    | .ok a => a.state = .Idle ∧ a.last_result ≠ .Failure ∧ (5 ≤ i ∨ last_logged_state ≠ .Idle) ∧
        (last_logged_state = .Idle ∨ ¬ a.last_result.succeeded)
  | _, _ => False

/-! ## The phases -/

/-- What a phase says about the observations so far. -/
def Phase.Fits (seen : List Observation) : Phase → Prop
  | .progress _ saw_start => saw_start = true ↔ Running seen
  | .timeout_query _ => Running seen
  | .closed_query => Running seen
  | .fallback _ last_logged_state =>
    (last_logged_state = .Idle ∧ ¬ Running seen) ∨ (last_logged_state = .Installing ∧ Running seen)
  | .none => True
  | _ => ¬ Running seen

namespace SwupdateClient

/-- `is_busy`, as a proposition. -/
def Busy (s : SwupdateClient) : Prop := s.status_.state = .Uploading ∨ s.status_.state = .Installing

theorem Busy.started {s : SwupdateClient} (h : s.Busy) : s.started.Busy := by
  rcases h with h | h
  · exact .inr (by simp [SwupdateClient.started, h])
  · exact .inr (by simp [SwupdateClient.started, h])

/-- An attempt whose thread runs is busy, has no evidence yet, and knows whether it saw the install run. -/
structure Attempt (s : SwupdateClient) : Prop where
  busy : s.Busy
  undecided : ¬ Evidence s.seen
  fits : s.phase.Fits s.seen

theorem Attempt.fits_at {s : SwupdateClient} {p : Phase} (hI : s.Attempt) (hp : s.phase = p) : p.Fits s.seen := by
  rw [← hp]
  exact hI.fits

/-- The thread goes on, or it is over: with an error, or with success, and then
the observation was convincing or unbacked. -/
inductive Outcome (s : SwupdateClient) (o : Observation) (s' : SwupdateClient) : Prop
  | goes_on (h : s'.Busy) (hf : s'.phase.Fits (s.seen ++ [o])) (hc : ¬ Convincing s.seen o) (hu : ¬ Unbacked s o)
  | failed (h : s'.phase = .none) (hs : s'.status_.state = .Failure) (hu : ¬ Unbacked s o)
  | succeeded (h : s'.phase = .none) (hs : s'.status_.state = .Success) (hc : Convincing s.seen o ↔ ¬ Unbacked s o)

theorem outcome_progress_top {s t : SwupdateClient} {o : Observation} {n : Nat} {saw : Bool} (ht : t.Busy)
    (hf : saw = true ↔ Running (s.seen ++ [o])) (hc : ¬ Convincing s.seen o) (hu : ¬ Unbacked s o) :
    Outcome s o (t.progress_top n saw) := by
  unfold progress_top
  split
  · exact .goes_on ht hf hc hu
  · exact .failed rfl rfl hu

theorem outcome_fallback_top {s t : SwupdateClient} {o : Observation} {i : Nat} {last : UpdateState} (ht : t.Busy)
    (hf : (last = .Idle ∧ ¬ Running (s.seen ++ [o])) ∨ (last = .Installing ∧ Running (s.seen ++ [o])))
    (hc : ¬ Convincing s.seen o) (hu : ¬ Unbacked s o) : Outcome s o (t.fallback_top i last) := by
  unfold fallback_top
  split
  · exact .goes_on ht hf hc hu
  · exact .failed rfl rfl hu

/-! ## One observation -/

theorem running_other (seen : List Observation) {o : Observation} (h : ¬ o.reports_running) :
    Running (seen ++ [o]) ↔ Running seen := by
  rw [running_snoc]
  exact or_iff_left h

theorem running_more {seen : List Observation} (o : Observation) (h : Running seen) : Running (seen ++ [o]) :=
  (running_snoc seen o).2 (.inl h)

/-- What an answer to `GET_STATUS` says, in terms of the status read from it. -/
theorem convincing_reply {seen : List Observation} {r : StatusReply} {a : UpdateStatus} (h : poll_status r = .ok a) :
    Convincing seen (.status_reply r) ↔
      a.state.succeeded ∨ (Running seen ∧ a.state = .Idle ∧ a.last_result.succeeded) := by
  simp [Convincing, Observation.reports_success, Observation.idle_after_success, h]

theorem convincing_no_reply {seen : List Observation} {r : StatusReply} {e : String} (h : poll_status r = .error e) :
    ¬ Convincing seen (.status_reply r) := by
  simp [Convincing, Observation.reports_success, Observation.idle_after_success, h]

theorem running_reply (seen : List Observation) {r : StatusReply} {a : UpdateStatus} (h : poll_status r = .ok a) :
    Running (seen ++ [.status_reply r]) ↔ Running seen ∨ a.state = .Installing := by
  rw [running_snoc]
  simp [Observation.reports_running, h]

theorem poll_status_uploading {r : StatusReply} {a : UpdateStatus} (h : poll_status r = .ok a) :
    a.state ≠ .Uploading := by
  cases r with
  | answer status => rw [(poll_status_states h).1]; exact to_state_uploading _
  | _ => cases h

theorem message_outcome {s : SwupdateClient} {n : Nat} {saw : Bool} (m : ProgressMsg)
    (hI : s.Attempt) (hp : s.phase = .progress n saw) : Outcome s (.message m) (s.on_message saw m) := by
  have hsaw : saw = true ↔ Running s.seen := hI.fits_at hp
  have hu : ¬ Unbacked s (.message m) := by simp [Unbacked, hp]
  have hbusy : (s.with_message m).Busy := hI.busy
  have hrun : Observation.reports_running (.message m) → (true = true ↔ Running (s.seen ++ [.message m])) := fun h =>
    iff_of_true rfl ((running_snoc _ _).2 (.inr h))
  have hquiet : ¬ Observation.reports_running (.message m) → (saw = true ↔ Running (s.seen ++ [.message m])) := fun h =>
    hsaw.trans (running_other s.seen h).symm
  have hconv : Convincing s.seen (.message m) ↔ m.recovery = some .Success ∨ m.recovery = some .Done := by
    simp [Convincing, Observation.reports_success, Observation.idle_after_success]
  unfold on_message
  dsimp only
  cases hr : m.recovery with
  | none =>
    exact outcome_progress_top hbusy.started (hquiet (by simp [Observation.reports_running, hr]))
      (by simp [hconv, hr]) hu
  | some st =>
    cases st with
    | Idle =>
      exact outcome_progress_top hbusy (hquiet (by simp [Observation.reports_running, hr])) (by simp [hconv, hr]) hu
    | Success => exact .succeeded rfl rfl (by simp [hconv, hr, hu])
    | Done => exact .succeeded rfl rfl (by simp [hconv, hr, hu])
    | Failure => exact .failed rfl rfl hu
    | Start | Run | Download | Subprocess | Progress =>
      exact outcome_progress_top hbusy.started (hrun (by simp [Observation.reports_running, hr]))
        (by simp [hconv, hr]) hu

theorem timeout_outcome {s : SwupdateClient} {n : Nat} (r : StatusReply) (hI : s.Attempt)
    (hp : s.phase = .timeout_query n) : Outcome s (.status_reply r) (s.on_timeout_reply n r) := by
  have hrun : Running s.seen := hI.fits_at hp
  have hf : true = true ↔ Running (s.seen ++ [.status_reply r]) := iff_of_true rfl (running_more _ hrun)
  unfold on_timeout_reply
  cases ha : poll_status r with
  | error e => exact outcome_progress_top hI.busy hf (convincing_no_reply ha) (by simp [Unbacked, hp, ha])
  | ok a =>
    have hu : Unbacked s (.status_reply r) ↔
        a.state = .Idle ∧ a.last_result ≠ .Failure ∧ ¬ a.last_result.succeeded := by
      simp [Unbacked, hp, ha]
    dsimp only
    split
    · rename_i hok
      refine .succeeded rfl rfl ?_
      rw [convincing_reply ha, hu]
      rcases hok with h | h | ⟨h, hl⟩
      · simp [UpdateState.succeeded, h]
      · simp [UpdateState.succeeded, h]
      · simp [h, hl, hrun]
    · rename_i hno
      simp only [not_or, not_and, Decidable.not_not] at hno
      obtain ⟨h1, h2, h3⟩ := hno
      have hnu : ¬ Unbacked s (.status_reply r) := fun h => (hu.1 h).2.1 (h3 (hu.1 h).1)
      split
      · exact .failed rfl rfl hnu
      · rename_i hfail
        simp only [not_or, not_and] at hfail
        refine outcome_progress_top hI.busy hf ?_ hnu
        rw [convincing_reply ha]
        rintro ((h | h) | ⟨-, h, -⟩)
        · exact h1 h
        · exact h2 h
        · exact hfail.2 h (h3 h)

theorem closed_outcome {s : SwupdateClient} (r : StatusReply) (hI : s.Attempt) (hp : s.phase = .closed_query) :
    Outcome s (.status_reply r) (s.on_closed_reply r) := by
  have hrun : Running s.seen := hI.fits_at hp
  unfold on_closed_reply
  cases ha : poll_status r with
  | error e => exact .succeeded rfl rfl (by simp [convincing_no_reply ha, Unbacked, hp, ha])
  | ok a =>
    have hu : Unbacked s (.status_reply r) ↔ a.last_result ≠ .Failure ∧ ¬ a.state.succeeded ∧
        ¬ (a.state = .Idle ∧ a.last_result.succeeded) := by
      simp [Unbacked, hp, ha]
    dsimp only
    split
    · rename_i hl
      exact .failed rfl rfl fun h => (hu.1 h).1 hl
    · rename_i hl
      refine .succeeded rfl rfl ?_
      rw [convincing_reply ha, hu]
      by_cases h1 : a.state.succeeded
      · simp [h1]
      · simp [h1, hl, hrun]

theorem fallback_outcome {s : SwupdateClient} {i : Nat} {last : UpdateState} (r : StatusReply) (hI : s.Attempt)
    (hp : s.phase = .fallback i last) : Outcome s (.status_reply r) (s.on_fallback_reply i last r) := by
  have hlast : (last = .Idle ∧ ¬ Running s.seen) ∨ (last = .Installing ∧ Running s.seen) := hI.fits_at hp
  unfold on_fallback_reply
  cases ha : poll_status r with
  | error e =>
    have hr := running_other s.seen (o := .status_reply r) (by simp [Observation.reports_running, ha])
    exact outcome_fallback_top hI.busy (by rwa [hr]) (convincing_no_reply ha) (by simp [Unbacked, hp, ha])
  | ok a =>
    have hu : Unbacked s (.status_reply r) ↔ a.state = .Idle ∧ a.last_result ≠ .Failure ∧
        (5 ≤ i ∨ last ≠ .Idle) ∧ (last = .Idle ∨ ¬ a.last_result.succeeded) := by
      simp [Unbacked, hp, ha]
    have hbusy : (s.with_answer a).Busy := hI.busy
    dsimp only
    split
    · rename_i hok
      refine .succeeded rfl rfl ?_
      rw [convincing_reply ha, hu]
      rcases hok with h | h <;> simp [UpdateState.succeeded, h]
    rename_i hno
    have hns : ¬ a.state.succeeded := hno
    split
    · rename_i hfail
      exact .failed rfl rfl (by rw [hu, hfail]; simp)
    split
    · rename_i hidle
      have hr := running_reply s.seen ha
      simp only [hidle, reduceCtorEq, or_false] at hr
      split
      · -- one of the first polls: the install may not have started
        rename_i hearly
        refine outcome_fallback_top hbusy (by rwa [hr]) ?_ ?_
        · rw [convincing_reply ha]
          rcases hlast with ⟨-, hnr⟩ | ⟨hl, -⟩
          · simp [hns, hnr]
          · rw [hl] at hearly; cases hearly.2
        · rw [hu]
          rintro ⟨-, -, h | h, -⟩
          · omega
          · exact h hearly.2
      · rename_i hlate
        split
        · rename_i hl
          exact .failed rfl rfl fun h => (hu.1 h).2.1 hl
        · rename_i hl
          refine .succeeded rfl rfl ?_
          rw [convincing_reply ha, hu]
          rcases hlast with ⟨h, hnr⟩ | ⟨h, hr⟩
          · have hi : 5 ≤ i := by
              refine Decidable.byContradiction fun hlt => hlate ⟨by omega, h⟩
            simp [hnr, hidle, hl, h, hi]
          · simp [hr, hidle, hl, h]
    · rename_i hidle
      have hinst : a.state = .Installing := by
        have hup := poll_status_uploading ha
        cases hst : a.state <;> simp_all [UpdateState.succeeded]
      rw [if_pos hinst]
      refine outcome_fallback_top hbusy.started (.inr ⟨hinst, (running_reply s.seen ha).2 (.inr hinst)⟩) ?_ ?_
      · rw [convincing_reply ha]
        simp [hns, hidle]
      · rw [hu]
        simp [hidle]

/-- What the thread observes of its own sockets and files says nothing about the install. -/
def Neutral : Observation → Prop
  | .message _ | .status_reply _ | .subprocess_exit _ => False
  | _ => True

theorem Neutral.running {seen : List Observation} {o : Observation} (h : Neutral o) :
    Running (seen ++ [o]) ↔ Running seen := by
  refine running_other seen ?_
  cases o <;> simp_all [Neutral, Observation.reports_running]

theorem Neutral.not_convincing {seen : List Observation} {o : Observation} (h : Neutral o) : ¬ Convincing seen o := by
  cases o <;> simp_all [Neutral, Convincing, Observation.reports_success, Observation.idle_after_success]

theorem Neutral.not_unbacked {s : SwupdateClient} {o : Observation} (h : Neutral o) : ¬ Unbacked s o := by
  unfold Unbacked
  split
  · exact h.elim
  · exact h.elim
  · exact h.elim
  · exact id

/-- A phase only knows whether the install was seen to run. -/
theorem Neutral.fits {seen : List Observation} {o : Observation} (h : Neutral o) (p : Phase) :
    p.Fits (seen ++ [o]) ↔ p.Fits seen := by
  cases p <;> simp only [Phase.Fits, h.running]

theorem outcome_goto {s : SwupdateClient} {o : Observation} {p : Phase} (hI : s.Attempt) (hn : Neutral o)
    (hf : p.Fits s.seen) : Outcome s o (s.goto p) :=
  .goes_on hI.busy ((hn.fits p).2 hf) hn.not_convincing hn.not_unbacked

theorem react_outcome {s s' : SwupdateClient} {o : Observation} (hI : s.Attempt) (h : s.react o = some s') :
    Outcome s o s' := by
  unfold react at h
  split at h
  · -- `requesting_file`
    rename_i r hp
    cases h
    have hr := hI.fits_at hp
    refine outcome_goto hI trivial ?_
    split
    · exact hr
    · exact hr
  · -- `streaming_file`
    rename_i r hp
    have hu : ¬ Unbacked s (.file_streamed r) := Neutral.not_unbacked trivial
    cases r with
    | open_failed e => cases h; exact .failed rfl rfl hu
    | write_failed => cases h; exact .failed rfl rfl hu
    | read_failed e => cases h; exact .failed rfl rfl hu
    | done =>
      cases h
      have hr := hI.fits_at hp
      exact outcome_goto hI trivial hr
  · -- `subprocess`
    rename_i rc hp
    have hu : ¬ Unbacked s (.subprocess_exit rc) := by simp [Unbacked, hp]
    split at h
    · rename_i hrc
      cases h
      exact .succeeded rfl rfl (iff_of_true (.inr (.inl (by rw [hrc]))) hu)
    · cases h; exact .failed rfl rfl hu
  · -- `requesting_stream`
    rename_i r hp
    have hr := hI.fits_at hp
    split at h
    · cases h; exact outcome_goto hI trivial hr
    · cases h; exact .failed rfl rfl (Neutral.not_unbacked trivial)
  · -- `connecting`
    rename_i ok hp
    have hn : Neutral (.progress_connect ok) := trivial
    have hr := hI.fits_at hp
    split at h
    · cases h; exact outcome_goto hI hn hr
    · cases h
      exact outcome_fallback_top hI.busy (.inl ⟨rfl, fun h => hr (hn.running.1 h)⟩) hn.not_convincing hn.not_unbacked
  · -- `awaiting_ack`
    rename_i ok hp
    have hn : Neutral (.progress_ack ok) := trivial
    have hr := hI.fits_at hp
    split at h
    · cases h
      exact outcome_progress_top hI.busy (iff_of_false (by simp) fun h => hr (hn.running.1 h)) hn.not_convincing
        hn.not_unbacked
    · cases h; exact .failed rfl rfl hn.not_unbacked
  · -- `progress`, and the ways its `select` ends
    rename_i n saw hp
    cases h
    have hn : Neutral .select_interrupted := trivial
    exact .goes_on hI.busy ((hn.fits _).2 hI.fits) hn.not_convincing hn.not_unbacked
  · cases h
    exact .failed rfl rfl (Neutral.not_unbacked trivial)
  · rename_i n saw hp
    have hn : Neutral .silence := trivial
    have hsaw : saw = true ↔ Running s.seen := hI.fits_at hp
    split at h
    · rename_i hs
      cases h
      have hr := hsaw.1 hs
      exact outcome_goto hI hn hr
    · rename_i hs
      cases h
      exact outcome_progress_top hI.busy (iff_of_false (by simp) fun h => hs (hsaw.2 (hn.running.1 h)))
        hn.not_convincing hn.not_unbacked
  · rename_i n saw hp
    have hn : Neutral .closed := trivial
    have hsaw : saw = true ↔ Running s.seen := hI.fits_at hp
    split at h
    · rename_i hs
      cases h
      have hr := hsaw.1 hs
      exact outcome_goto hI hn hr
    · cases h; exact .failed rfl rfl hn.not_unbacked
  · rename_i n saw m hp
    cases h
    exact message_outcome m hI hp
  · -- the queries
    rename_i n r hp
    cases h
    exact timeout_outcome r hI hp
  · rename_i r hp
    cases h
    exact closed_outcome r hI hp
  · rename_i i last r hp
    cases h
    exact fallback_outcome r hI hp
  · -- nothing else happens in any phase
    cases h

/-! ## Every run -/

/-- A thread at work has an attempt that is still open. -/
def Inv (s : SwupdateClient) : Prop := s.phase ≠ .none → s.Attempt

theorem react_seen {s s' : SwupdateClient} {o : Observation} (h : s.react o = some s') : s.phase ≠ .none := by
  intro hp
  unfold react at h
  rw [hp] at h
  cases h

theorem inv_started {s : SwupdateClient} (h : s.Inv) : s.started.Inv := fun hp =>
  ⟨(h hp).busy.started, (h hp).undecided, (h hp).fits⟩

theorem not_running_nil : ¬ Running [] := by
  rintro ⟨o, ho, -⟩
  cases ho

theorem not_evidence_nil : ¬ Evidence [] := by
  rintro (⟨o, ho, -⟩ | ho | ⟨before, o, after, he, -⟩)
  · cases ho
  · cases ho
  · simp at he

/-- A call that begins an attempt finds the client idle; otherwise it changes nothing. -/
theorem begin_attempt_cases {s s' : SwupdateClient} {initial : UpdateState} {phase : Phase}
    (h : s.begin_attempt initial phase = some s') : s' = s ∨ s' = ⟨{ state := initial }, phase, []⟩ := by
  unfold begin_attempt at h
  split at h
  · exact .inl (Option.some.inj h).symm
  split at h
  · exact .inr (Option.some.inj h).symm
  · cases h

theorem step_inv {s s' : SwupdateClient} {e : Event} (hI : s.Inv) (h : s.step e = some s') : s'.Inv := by
  cases e with
  | install_from_file stat =>
    simp only [step] at h
    split at h
    · rcases begin_attempt_cases h with rfl | rfl
      · exact hI
      · exact fun _ => ⟨.inr rfl, not_evidence_nil, not_running_nil⟩
    · cases h; exact hI
  | begin_stream_install =>
    rcases begin_attempt_cases h with rfl | rfl
    · exact hI
    · exact fun _ => ⟨.inl rfl, not_evidence_nil, not_running_nil⟩
  | end_stream_install => cases h; exact inv_started hI
  | observe o =>
    obtain ⟨t, ht, rfl⟩ := Option.map_eq_some_iff.1 h
    have hA := hI (react_seen ht)
    intro hp
    cases react_outcome hA ht with
    | goes_on hb hf hc _ => exact ⟨hb, fun he => ((evidence_snoc _ _).1 he).elim hA.undecided hc, hf⟩
    | failed hn => exact absurd hn hp
    | succeeded hn => exact absurd hn hp

theorem run_inv {as : List Event} {s : SwupdateClient} (h : Run step .new as s) : s.Inv :=
  h.inv Inv (fun hp => absurd rfl hp) fun _ _ _ => step_inv

/-- An unbacked observation among the events. -/
def Misled (s : SwupdateClient) : Event → Prop
  | .observe o => Unbacked s o
  | _ => False

/-- Where the client says Success, the last attempt has evidence for it. -/
def Backed (s : SwupdateClient) : Prop := s.status_.state = .Success → Evidence s.seen

theorem step_backed {s s' : SwupdateClient} {e : Event} (hI : s.Inv) (hB : s.Backed) (hm : ¬ s.Misled e)
    (h : s.step e = some s') : s'.Backed := by
  cases e with
  | install_from_file stat =>
    simp only [step] at h
    split at h
    · rcases begin_attempt_cases h with rfl | rfl
      · exact hB
      · intro hs; cases hs
    · cases h; exact hB
  | begin_stream_install =>
    rcases begin_attempt_cases h with rfl | rfl
    · exact hB
    · intro hs; cases hs
  | end_stream_install =>
    cases h
    intro hs
    refine hB ?_
    simp only [started] at hs
    split at hs
    · cases hs
    · exact hs
  | observe o =>
    obtain ⟨t, ht, rfl⟩ := Option.map_eq_some_iff.1 h
    intro hs
    cases react_outcome (hI (react_seen ht)) ht with
    | goes_on hb =>
      rcases hb with hb | hb
      · exact absurd (hb.symm.trans hs) (by simp)
      · exact absurd (hb.symm.trans hs) (by simp)
    | failed _ hf => exact absurd (hf.symm.trans hs) (by simp)
    | succeeded _ _ hc => exact (evidence_snoc _ _).2 (.inr (hc.2 hm))

/-- An unbacked observation makes a success without evidence. -/
theorem misled_not_backed {s s' : SwupdateClient} {e : Event} (hI : s.Inv) (hm : s.Misled e) (h : s.step e = some s') :
    ¬ s'.Backed := by
  cases e with
  | observe o =>
    obtain ⟨t, ht, rfl⟩ := Option.map_eq_some_iff.1 h
    have hA := hI (react_seen ht)
    intro hB
    cases react_outcome hA ht with
    | goes_on _ _ _ hu => exact hu hm
    | failed _ _ hu => exact hu hm
    | succeeded _ hs hc =>
      rcases (evidence_snoc _ _).1 (hB hs) with he | he
      · exact hA.undecided he
      · exact hc.1 he hm
  | _ => exact hm.elim

/-- Through a whole run the client says Success only with evidence exactly where
no observation of the run is an unbacked one. -/
theorem success_backed_iff (as : List Event) (s : SwupdateClient) (h : Run step .new as s) :
    (∀ pre post t, as = pre ++ post → Run step .new pre t → t.status_.state = .Success → Evidence t.seen) ↔
      Meets step (fun t e => ¬ t.Misled e) .new as := by
  refine h.always_iff_meets Inv Backed (fun hp => absurd rfl hp) (fun hs => by cases hs)
    (fun _ _ _ => step_inv) ?_
  intro t e t' hI hB hs
  exact ⟨fun hB' hm => misled_not_backed hI hm hs hB', fun hm => step_backed hI hB hm hs⟩

/-- A streamed update that swupdate reports done. -/
def reported_update : List Event :=
  [.begin_stream_install, .observe (.install_reply (.response 1)), .observe (.progress_connect true),
    .observe (.progress_ack true), .observe (.message ⟨1, 2, 1, 0, "rootfs.ext4"⟩), .end_stream_install,
    .observe (.message ⟨3, 2, 2, 100, "rootfs.ext4"⟩)]

theorem success_backed_reported :
    ∃ s, Run step .new reported_update s ∧ s.status_.state = .Success ∧
      ((∀ pre post t, reported_update = pre ++ post → Run step .new pre t → t.status_.state = .Success →
          Evidence t.seen) ↔ Meets step (fun t e => ¬ t.Misled e) .new reported_update) := by
  obtain ⟨s, hs, hst⟩ : ∃ s, exec step .new reported_update = some s ∧ s.status_.state = .Success := ⟨_, rfl, rfl⟩
  exact ⟨s, run_of_exec hs, hst, success_backed_iff _ s (run_of_exec hs)⟩

/-- A streamed update whose swupdate dies after START. -/
def crashed_update : List Event :=
  [.begin_stream_install, .observe (.install_reply (.response 1)), .observe (.progress_connect true),
    .observe (.progress_ack true), .observe (.message ⟨1, 2, 1, 0, "rootfs.ext4"⟩), .observe .closed]

/-- Where then the status query fails, too, the client says Success. -/
theorem crashed_update_succeeds :
    ¬ ∀ as s, Run step .new as s → s.status_.state = .Success → Evidence s.seen := by
  intro hall
  obtain ⟨t, ht, hp⟩ : ∃ t, exec step .new crashed_update = some t ∧ t.phase = .closed_query := ⟨_, rfl, rfl⟩
  have hrun := run_of_exec ht
  have hstep : step t (.observe (.status_reply .no_connection)) = some
      { t.on_closed_reply .no_connection with seen := t.seen ++ [.status_reply .no_connection] } := by
    simp [step, react, hp]
  refine misled_not_backed (run_inv hrun) ?_ hstep (hall _ _ (hrun.snoc hstep))
  simp [Misled, Unbacked, hp, poll_status]

end SwupdateClient

end CameraStreamer.Update
