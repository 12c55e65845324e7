import Mathlib.Tactic.Ring
/-!
# What swupdate says

The answers to `REQ_INSTALL` and `GET_STATUS` on the control socket and the
messages of the progress socket, and `poll_status`, which reads an answer. Texts
are C strings; numbers have the width of the struct's fields.
-/

namespace CameraStreamer.Update

inductive UpdateState where
  | Idle
  | Uploading
  | Installing
  | Success
  | Failure
  | Done
  deriving DecidableEq, Repr

structure UpdateStatus where
  state : UpdateState := .Idle
  last_result : UpdateState := .Idle
  percent : Int32 := 0
  step : Int32 := 0
  total_steps : Int32 := 0
  current_name : String := ""
  error : String := ""
  deriving DecidableEq

/-- swupdate's own states. -/
inductive RecoveryStatus where
  | Idle
  | Start
  | Run
  | Success
  | Failure
  | Download
  | Done
  | Subprocess
  | Progress
  deriving DecidableEq, Repr

/-- The state with this number, if there is one. -/
def RecoveryStatus.ofInt? (n : Int) : Option RecoveryStatus :=
  if n = 0 then some .Idle else if n = 1 then some .Start else if n = 2 then some .Run
  else if n = 3 then some .Success else if n = 4 then some .Failure else if n = 5 then some .Download
  else if n = 6 then some .Done else if n = 7 then some .Subprocess else if n = 8 then some .Progress else none

/-- What the connection attempt, the write and the read of `request_install` give. -/
inductive InstallReply where
  | no_connection
  | write_failed
  | read_failed
  | response (type : Int32)
  deriving DecidableEq

def kAck : Int32 := 1

/-- Whether `request_install` returns a descriptor to stream on. -/
def request_install : InstallReply → Bool
  | .response type => type == kAck
  | _ => false

/-! ## The text of a status -/

/-- The value of a sign and digits, as `strtol` gives it for a `long`. -/
def long_value (negative : Bool) (digits : List Char) : Int :=
  let value := digits.foldl (fun n d => 10 * n + (d.toNat - 48)) 0
  if negative then -(min value (2 ^ 63) : Nat) else (min value (2 ^ 63 - 1) : Nat)

/-- The number in front of the first `%`, if there is one, between 0 and 100. -/
def parse_percent (desc : List Char) : Option Int32 :=
  if desc.contains '%' then
    -- walk backwards from the `%`
    let digits := ((desc.takeWhile (· != '%')).reverse.takeWhile Char.isDigit).reverse
    if digits.isEmpty then none
    else
      let percent := Int32.ofInt (long_value false digits)
      some (if percent < 0 then 0 else if 100 < percent then 100 else percent)
  else none

/-- A space in a `sscanf` format. -/
def scan_space (s : List Char) : List Char := s.dropWhile fun c => c.isWhitespace || c.toNat == 11 || c.toNat == 12

/-- Literal characters in a `sscanf` format. -/
def scan_literal (literal s : List Char) : Option (List Char) :=
  if literal.isPrefixOf s then some (s.drop literal.length) else none

/-- `%d` -/
def scan_int (s : List Char) : Option (Int32 × List Char) :=
  let digits (t : List Char) (negative : Bool) : Option (Int32 × List Char) :=
    if (t.takeWhile Char.isDigit).isEmpty then none
    else some (Int32.ofInt (long_value negative (t.takeWhile Char.isDigit)), t.dropWhile Char.isDigit)
  match scan_space s with
  | [] => none
  | c :: t => if c == '-' then digits t true else if c == '+' then digits t false else digits (c :: t) false

/-- `sscanf(desc, "Step %d of %d", &step, &total)`, where both are found. -/
def parse_step (desc : List Char) : Option (Int32 × Int32) := do
  let s ← scan_literal "Step".toList desc
  let (step, s) ← scan_int (scan_space s)
  let s ← scan_literal "of".toList (scan_space s)
  let (total, _) ← scan_int (scan_space s)
  return (step, total)

/-! ## `GET_STATUS` -/

/-- The `status` member of an answer. -/
structure IpcStatus where
  current : Int32
  last_result : Int32
  error : Int32
  desc : String
  deriving DecidableEq

/-- What the connection attempt, the write and the read of `poll_status` give. -/
inductive StatusReply where
  | no_connection
  | write_failed
  | read_failed
  | answer (status : IpcStatus)
  deriving DecidableEq

def to_state (s : Int32) : UpdateState :=
  match RecoveryStatus.ofInt? s.toInt with
  | some .Idle => .Idle
  | some .Success => .Success
  | some .Failure => .Failure
  | some .Done => .Done
  | _ => .Installing

/-- The text of an answer, read into the status. -/
def with_desc (desc : String) (out : UpdateStatus) : UpdateStatus :=
  if desc = "" then out
  else
    let steps := parse_step desc.toList
    { out with
      current_name := desc
      percent := (parse_percent desc.toList).getD out.percent
      step := (steps.map Prod.fst).getD out.step
      total_steps := (steps.map Prod.snd).getD out.total_steps }

def poll_status : StatusReply → Except String UpdateStatus
  | .no_connection => .error "cannot connect to swupdate IPC"
  | .write_failed => .error "GET_STATUS write failed"
  | .read_failed => .error "GET_STATUS read failed"
  | .answer status =>
    let out := with_desc status.desc { state := to_state status.current, last_result := to_state status.last_result }
    .ok (if status.error ≠ 0 then { out with error := status.desc } else out)

theorem with_desc_state (desc : String) (out : UpdateStatus) :
    (with_desc desc out).state = out.state ∧ (with_desc desc out).last_result = out.last_result := by
  unfold with_desc
  split <;> exact ⟨rfl, rfl⟩

/-- The states of an answer do not depend on its text. -/
theorem poll_status_states {status : IpcStatus} {out : UpdateStatus} (h : poll_status (.answer status) = .ok out) :
    out.state = to_state status.current ∧ out.last_result = to_state status.last_result := by
  simp only [poll_status, Except.ok.injEq] at h
  rw [← h]
  split <;> exact with_desc_state _ _

/-- An answer never says that a file is being uploaded: only this device knows that. -/
theorem to_state_uploading (s : Int32) : to_state s ≠ .Uploading := by
  unfold to_state
  split <;> simp

example : (parse_percent "Installing 57% done".toList, parse_step "Step 2 of 7: rootfs".toList) =
    (some 57, some (2, 7)) := by decide

/-! ## The progress socket -/

/-- The fields of a `progress_msg` that the client reads. -/
structure ProgressMsg where
  status : UInt32
  nsteps : UInt32
  cur_step : UInt32
  cur_percent : UInt32
  cur_image : String
  deriving DecidableEq

/-- The state a message is about. -/
def ProgressMsg.recovery (m : ProgressMsg) : Option RecoveryStatus := RecoveryStatus.ofInt? m.status.toNat

end CameraStreamer.Update
