import CameraStreamer.ControlCarriers
/-!
# The local tunnel

`LocalTunnel` with all four channels: `deliver` for each message of a session,
and the pump that reads from the two local connections and closes them. What a
connection answers is given with each call; `dispatch_` answers by the number
of its call, since the device changes between two of them.
-/

namespace CameraStreamer.Secure

open Incremental Runs ControlTunnel ControlCarriers

/-! ## Connections -/

inductive Peer where
  /-- What `open_update_` gives. -/
  | in_process
  | loopback (port : Nat)
  deriving DecidableEq, Repr

structure Connection where
  peer : Peer
  /-- What its `write`s have taken. -/
  accepted : Bytes
  deriving DecidableEq, Repr

/-- `control_` or `update_`: the connections it has stood for, and the one it stands for now. -/
structure Descriptor where
  ended : List Connection
  current : Option Connection
  deriving DecidableEq, Repr

/-- What an attempt of `deliver` meets. -/
structure Attempt where
  /-- Where a connection is asked for, there is one. -/
  opens : Bool
  /-- How much of a payload the connection takes. -/
  takes : Nat

namespace Descriptor

def opened (fd : Descriptor) (peer : Peer) : Descriptor := { fd with current := some ⟨peer, []⟩ }

def closed (fd : Descriptor) : Descriptor := ⟨fd.ended ++ fd.current.toList, none⟩

def written (fd : Descriptor) (bytes : Bytes) : Descriptor :=
  { fd with current := fd.current.map fun c => { c with accepted := c.accepted ++ bytes } }

/-- All that was written, over all connections. -/
def bytes (fd : Descriptor) : Bytes := ((fd.ended ++ fd.current.toList).map (·.accepted)).flatten

/-- The loop of `deliver` with `n` attempts left, of which `i` is next. -/
def send (peer : Peer) (attempt : Nat → Attempt) (payload : Bytes) : Nat → Nat → Descriptor → Descriptor
  | 0, _, fd => fd
  | n + 1, i, fd =>
    let fd := if fd.current.isNone ∧ (attempt i).opens then fd.opened peer else fd
    if fd.current.isNone then fd
    else if payload.length ≤ (attempt i).takes then fd.written payload
    else send peer attempt payload n (i + 1) (fd.written (payload.take (attempt i).takes)).closed

@[simp] theorem opened_bytes {fd : Descriptor} (h : fd.current = none) (peer : Peer) :
    (fd.opened peer).bytes = fd.bytes := by
  simp [opened, bytes, h]

@[simp] theorem closed_bytes (fd : Descriptor) : fd.closed.bytes = fd.bytes := by
  simp [closed, bytes]

theorem written_bytes {fd : Descriptor} (h : fd.current ≠ none) (b : Bytes) :
    (fd.written b).bytes = fd.bytes ++ b := by
  obtain ⟨c, hc⟩ := Option.ne_none_iff_exists'.1 h
  simp [written, bytes, hc]

/-- A payload the connection takes is written once. -/
theorem send_accepted {fd : Descriptor} {attempt : Nat → Attempt} {payload : Bytes} (peer : Peer) (n i : Nat)
    (hfd : fd.current ≠ none ∨ (attempt i).opens = true) (hlen : payload.length ≤ (attempt i).takes) :
    (fd.send peer attempt payload (n + 1) i).bytes = fd.bytes ++ payload := by
  rw [send]
  by_cases hc : fd.current = none
  · have ho : (attempt i).opens = true := hfd.resolve_left (not_not_intro hc)
    simp only [hc, ho, Option.isNone_none, and_self, if_true, hlen]
    rw [if_neg (by simp [opened]), written_bytes (by simp [opened]), opened_bytes hc]
  · have hs : fd.current.isNone = false := by
      obtain ⟨c, hc⟩ := Option.ne_none_iff_exists'.1 hc
      rw [hc]; rfl
    simp only [hs, Bool.false_eq_true, false_and, if_false, hlen, if_true]
    exact written_bytes hc payload

/-- Without a connection nothing happens. -/
theorem send_refused {fd : Descriptor} {attempt : Nat → Attempt} (peer : Peer) (payload : Bytes) (n i : Nat)
    (hc : fd.current = none) (ho : (attempt i).opens = false) : fd.send peer attempt payload (n + 1) i = fd := by
  rw [send]
  simp [hc, ho]

end Descriptor

/-! ## The tunnel -/

structure LocalTunnel where
  control_buffer_ : Bytes
  control_ : Descriptor
  update_ : Descriptor
  /-- What `dispatch_` was called with. -/
  dispatched : List Bytes
  /-- What `enqueue_` was called with. -/
  enqueued : List (Channel × Bytes)
  deriving DecidableEq, Repr

namespace LocalTunnel

def start : LocalTunnel := ⟨[], ⟨[], none⟩, ⟨[], none⟩, [], []⟩

def dispatch_line (dispatch_ : Nat → Bytes → Bytes) (s : LocalTunnel) (line : Bytes) : LocalTunnel :=
  let reply := dispatch_ s.dispatched.length line
  { s with
    dispatched := s.dispatched ++ [line]
    enqueued := if reply = [] then s.enqueued else s.enqueued ++ [(.Control, reply)] }

/-- The loop of `deliver` over `control_buffer_`. -/
def dispatch_lines (dispatch_ : Nat → Bytes → Bytes) (s : LocalTunnel) : LocalTunnel :=
  let taken := (Lines.reader newline no_pair).drain none s.control_buffer_
  taken.1.foldl (dispatch_line dispatch_) { s with control_buffer_ := taken.2.elim [] (·.2) }

section Machine
variable (dispatch_ : Option (Nat → Bytes → Bytes)) (open_update_ : Bool)

def deliver (attempt : Nat → Attempt) (message : WireMessage) (s : LocalTunnel) : LocalTunnel :=
  if message.channel = .Video then s
  else
    match if message.channel = .Control then dispatch_ else none with
    | some dispatch => dispatch_lines dispatch { s with control_buffer_ := s.control_buffer_ ++ message.payload }
    | none =>
      let port := if message.channel = .Control then 8555 else 8557
      let peer := if message.channel = .Update ∧ open_update_ then .in_process else .loopback port
      if message.channel = .Control then { s with control_ := s.control_.send peer attempt message.payload 2 0 }
      else { s with update_ := s.update_.send peer attempt message.payload 2 0 }

inductive Action where
  | deliver (attempt : Nat → Attempt) (message : WireMessage)
  /-- `pump` has read from a local connection. -/
  | pump_read (channel : Channel) (chunk : Bytes)
  | close_channel (channel : Channel)

def step (s : LocalTunnel) : Action → Option LocalTunnel
  | .deliver attempt message => some (deliver dispatch_ open_update_ attempt message s)
  | .pump_read channel chunk =>
    if channel = .Control ∨ channel = .Update then
      some { s with enqueued := s.enqueued ++ [(channel, chunk)] }
    else none
  | .close_channel channel =>
    if channel = .Control then some { s with control_ := s.control_.closed }
    else some { s with update_ := s.update_.closed }

end Machine

/-- The messages delivered. -/
def delivered (as : List Action) : List WireMessage :=
  as.filterMap fun
    | .deliver _ message => some message
    | _ => none

/-- All payloads on a channel, one after the other. -/
def payloads (channel : Channel) (ms : List WireMessage) : Bytes :=
  ((ms.filter (·.channel = channel)).map (·.payload)).flatten

/-- The lines are the complete lines of `b`. -/
def LinesOf (lines : List Bytes) (b : Bytes) : Prop :=
  ∃ rest, b = (lines.map (· ++ [10])).flatten ++ rest ∧ (∀ line ∈ lines, 10 ∉ line) ∧ 10 ∉ rest

/-- Each channel's bytes got where they belong and nowhere else: the Update
payloads to the update connection; the lines of the Control payloads to the
dispatcher or, where there is none, the payloads to the control connection. -/
structure Isolated (dispatch_ : Option (Nat → Bytes → Bytes)) (s : LocalTunnel) (ms : List WireMessage) : Prop where
  update : s.update_.bytes = payloads .Update ms
  dispatched : if dispatch_.isSome then LinesOf s.dispatched (payloads .Control ms) else s.dispatched = []
  control : s.control_.bytes = if dispatch_.isSome then [] else payloads .Control ms

/-- The message is for one of the two connections. -/
def Socketed (dispatch_ : Option (Nat → Bytes → Bytes)) (message : WireMessage) : Prop :=
  message.channel ≠ .Video ∧ (message.channel = .Control → dispatch_ = none)

/-- The connections accept: one for Control or Update is made where it is asked for, and takes what is written. -/
def Accepting (dispatch_ : Option (Nat → Bytes → Bytes)) : Action → Prop
  | .deliver attempt message => Socketed dispatch_ message →
      message.payload.length ≤ (attempt 0).takes ∧ (message.channel ≠ .Meta → (attempt 0).opens = true)
  | _ => True

/-- A Meta message with a payload finds no update connection and can have none. -/
def Harmless (s : LocalTunnel) : Action → Prop
  | .deliver attempt message => message.channel = .Meta → message.payload ≠ [] →
      s.update_.current = none ∧ (attempt 0).opens = false
  | _ => True

/-! ## One message -/

section Steps
variable {dispatch_ : Option (Nat → Bytes → Bytes)} {open_update_ : Bool} {attempt : Nat → Attempt}
  {message : WireMessage} {s : LocalTunnel}

theorem deliver_video (h : message.channel = .Video) : deliver dispatch_ open_update_ attempt message s = s := by
  rw [deliver, if_pos h]

theorem deliver_dispatched {dispatch : Nat → Bytes → Bytes} (h : message.channel = .Control)
    (hd : dispatch_ = some dispatch) : deliver dispatch_ open_update_ attempt message s =
      dispatch_lines dispatch { s with control_buffer_ := s.control_buffer_ ++ message.payload } := by
  simp [deliver, h, hd]

theorem deliver_control (h : message.channel = .Control) (hd : dispatch_ = none) :
    deliver dispatch_ open_update_ attempt message s =
      { s with control_ := s.control_.send (.loopback 8555) attempt message.payload 2 0 } := by
  simp [deliver, h, hd]

theorem deliver_update (h : message.channel = .Update) : deliver dispatch_ open_update_ attempt message s =
    { s with update_ :=
        s.update_.send (if open_update_ then .in_process else .loopback 8557) attempt message.payload 2 0 } := by
  simp [deliver, h]

/-- A Meta message takes the way of an upload that has no `open_update_`. -/
theorem deliver_meta (h : message.channel = .Meta) : deliver dispatch_ open_update_ attempt message s =
    { s with update_ := s.update_.send (.loopback 8557) attempt message.payload 2 0 } := by
  simp [deliver, h]

end Steps

theorem dispatch_fold (dispatch : Nat → Bytes → Bytes) (lines : List Bytes) (s : LocalTunnel) :
    (lines.foldl (dispatch_line dispatch) s).control_buffer_ = s.control_buffer_ ∧
    (lines.foldl (dispatch_line dispatch) s).control_ = s.control_ ∧
    (lines.foldl (dispatch_line dispatch) s).update_ = s.update_ ∧
    (lines.foldl (dispatch_line dispatch) s).dispatched = s.dispatched ++ lines := by
  induction lines generalizing s with
  | nil => simp
  | cons line lines ih =>
    obtain ⟨hbuf, hcontrol, hupdate, hdispatched⟩ := ih (dispatch_line dispatch s line)
    rw [List.foldl_cons]
    refine ⟨hbuf, hcontrol, hupdate, ?_⟩
    rw [hdispatched]
    simp [dispatch_line]

/-- The loop over the buffer takes its complete lines. -/
theorem dispatch_lines_spec (dispatch : Nat → Bytes → Bytes) (s : LocalTunnel) :
    ∃ lines rest, s.control_buffer_ = (lines.map (· ++ [10])).flatten ++ rest ∧ (∀ line ∈ lines, 10 ∉ line) ∧
      10 ∉ rest ∧ (dispatch_lines dispatch s).control_buffer_ = rest ∧
      (dispatch_lines dispatch s).control_ = s.control_ ∧ (dispatch_lines dispatch s).update_ = s.update_ ∧
      (dispatch_lines dispatch s).dispatched = s.dispatched ++ lines := by
  have hread : (Lines.reader newline no_pair).drain none ([] ++ s.control_buffer_) = _ :=
    Lines.drain_read none [] s.control_buffer_ (by simp) (by simp)
  have hnewline : ∀ b, newline b = true ↔ b = 10 := by simp [newline]
  have hpair : ∀ t b, no_pair t b = false := fun _ _ => rfl
  obtain ⟨heq, hlines, hrest⟩ := Lines.read_terminated hnewline hpair none [] s.control_buffer_ (by simp)
  rw [List.nil_append] at hread heq
  obtain ⟨hbuf, hcontrol, hupdate, hdispatched⟩ := dispatch_fold dispatch
    (Lines.read newline no_pair none [] s.control_buffer_).1
    { s with control_buffer_ := (Lines.read newline no_pair none [] s.control_buffer_).2.2 }
  refine ⟨_, _, heq, hlines, hrest, ?_⟩
  simp only [dispatch_lines, hread, Option.elim_some]
  exact ⟨hbuf, hcontrol, hupdate, hdispatched⟩

/-! ## Reassembly -/

section Reassembly
variable {dispatch : Nat → Bytes → Bytes} {open_update_ : Bool}

theorem delivered_snoc (as : List Action) (a : Action) : delivered (as ++ [a]) = delivered as ++ delivered [a] :=
  List.filterMap_append

theorem payloads_append (channel : Channel) (ms ms' : List WireMessage) :
    payloads channel (ms ++ ms') = payloads channel ms ++ payloads channel ms' := by
  simp [payloads]

/-- Of the bytes `b` that came on the control channel, the complete lines are
dispatched and the unfinished one is kept. -/
structure Reassembled (s : LocalTunnel) (b : Bytes) : Prop where
  stream : b = (s.dispatched.map (· ++ [10])).flatten ++ s.control_buffer_
  lines : ∀ line ∈ s.dispatched, 10 ∉ line
  unfinished : 10 ∉ s.control_buffer_

/-- A record of another channel, or one without a dispatcher, does not touch what is reassembled. -/
theorem deliver_other (dispatch_ : Option (Nat → Bytes → Bytes)) (attempt : Nat → Attempt) {message : WireMessage}
    (s : LocalTunnel) (h : message.channel ≠ .Control) :
    (deliver dispatch_ open_update_ attempt message s).dispatched = s.dispatched ∧
      (deliver dispatch_ open_update_ attempt message s).control_buffer_ = s.control_buffer_ := by
  cases hc : message.channel with
  | Control => exact absurd hc h
  | Video => rw [deliver_video hc]; exact ⟨rfl, rfl⟩
  | Update => rw [deliver_update hc]; exact ⟨rfl, rfl⟩
  | Meta => rw [deliver_meta hc]; exact ⟨rfl, rfl⟩

theorem Reassembled.congr {s s' : LocalTunnel} {b : Bytes} (hi : Reassembled s b)
    (h : s'.dispatched = s.dispatched ∧ s'.control_buffer_ = s.control_buffer_) : Reassembled s' b := by
  obtain ⟨hstream, hlines, hrest⟩ := hi
  rw [← h.1, ← h.2] at hstream
  rw [← h.1] at hlines
  rw [← h.2] at hrest
  exact ⟨hstream, hlines, hrest⟩

theorem Reassembled.control {s : LocalTunnel} {b : Bytes} {attempt : Nat → Attempt} {message : WireMessage}
    (hi : Reassembled s b) (h : message.channel = .Control) :
    Reassembled (deliver (some dispatch) open_update_ attempt message s) (b ++ message.payload) := by
  obtain ⟨lines, rest, hline, hlines, hrest, hbuf, -, -, hdispatched⟩ := dispatch_lines_spec dispatch
    { s with control_buffer_ := s.control_buffer_ ++ message.payload }
  rw [deliver_dispatched h rfl]
  refine ⟨?_, ?_, by rw [hbuf]; exact hrest⟩
  · have hline : s.control_buffer_ ++ message.payload = (lines.map (· ++ [10])).flatten ++ rest := hline
    rw [hi.stream, hbuf, hdispatched, List.append_assoc, hline, List.map_append, List.flatten_append,
      List.append_assoc]
  · rw [hdispatched]
    intro line hl
    exact (List.mem_append.1 hl).elim (hi.lines line) (hlines line)

theorem Reassembled.step {s s' : LocalTunnel} {b : Bytes} {a : Action} (hi : Reassembled s b)
    (h : LocalTunnel.step (some dispatch) open_update_ s a = some s') :
    Reassembled s' (b ++ payloads .Control (delivered [a])) := by
  cases a with
  | deliver attempt message =>
    cases h
    by_cases hc : message.channel = .Control
    · rw [show payloads .Control (delivered [.deliver attempt message]) = message.payload by
        simp [payloads, delivered, hc]]
      exact hi.control hc
    · rw [show payloads .Control (delivered [.deliver attempt message]) = [] by simp [payloads, delivered, hc],
        List.append_nil]
      exact hi.congr (deliver_other _ _ _ hc)
  | pump_read channel chunk =>
    rw [show payloads .Control (delivered [.pump_read channel chunk]) = [] from rfl, List.append_nil]
    simp only [LocalTunnel.step] at h
    split at h
    · cases h; exact hi.congr ⟨rfl, rfl⟩
    · cases h
  | close_channel channel =>
    rw [show payloads .Control (delivered [.close_channel channel]) = [] from rfl, List.append_nil]
    simp only [LocalTunnel.step] at h
    split at h
    · cases h; exact hi.congr ⟨rfl, rfl⟩
    · cases h; exact hi.congr ⟨rfl, rfl⟩

theorem reassembled {as : List Action} {s : LocalTunnel} (hr : Run (step (some dispatch) open_update_) start as s) :
    Reassembled s (payloads .Control (delivered as)) := by
  induction hr with
  | nil => exact ⟨rfl, by simp [start], by simp [start]⟩
  | @snoc as s a s' hr hs ih =>
    rw [delivered_snoc, payloads_append]
    exact ih.step hs

/-- Lines with their newlines, and an unfinished one, split where they were joined. -/
theorem splitOn_lines (lines : List Bytes) (rest : Bytes) (hl : ∀ line ∈ lines, 10 ∉ line) (hr : 10 ∉ rest) :
    ((lines.map (· ++ [10])).flatten ++ rest).splitOn 10 = lines ++ [rest] := by
  induction lines with
  | nil => exact List.splitOn_eq_singleton hr
  | cons line lines ih =>
    rw [List.map_cons, List.flatten_cons, List.append_assoc, List.append_assoc, List.singleton_append,
      List.splitOn_append_cons_self_of_not_mem (hl line (by simp)), ih fun l h => hl l (by simp [h])]
    rfl

theorem Reassembled.splitOn {s : LocalTunnel} {b : Bytes} (hi : Reassembled s b) :
    b.splitOn 10 = s.dispatched ++ [s.control_buffer_] := by
  rw [hi.stream]
  exact splitOn_lines _ _ hi.lines hi.unfinished

/-- What is dispatched and what is kept depends on the stream alone. -/
theorem Reassembled.unique {s s' : LocalTunnel} {b : Bytes} (hi : Reassembled s b) (hi' : Reassembled s' b) :
    s'.dispatched = s.dispatched ∧ s'.control_buffer_ = s.control_buffer_ := by
  have h : s'.dispatched ++ [s'.control_buffer_] = s.dispatched ++ [s.control_buffer_] :=
    hi'.splitOn.symm.trans hi.splitOn
  obtain ⟨hd, hb⟩ := List.append_inj' h rfl
  exact ⟨hd, List.singleton_inj.1 hb⟩

/-- The lines dispatched are the segments of the control stream that a newline
ends, in order, and what follows the last newline is kept. Another run whose
control records carry the same stream, whatever is between them and whatever the
requests are answered with, dispatches and keeps the same. -/
theorem control_reassembled (dispatch : Nat → Bytes → Bytes) (open_update_ : Bool) (as : List Action) (s : LocalTunnel)
    (hr : Run (step (some dispatch) open_update_) start as s) :
    (payloads .Control (delivered as)).splitOn 10 = s.dispatched ++ [s.control_buffer_] ∧
    (∀ dispatch' open_update' as' s', Run (step (some dispatch') open_update') start as' s' →
      payloads .Control (delivered as') = payloads .Control (delivered as) →
      s'.dispatched = s.dispatched ∧ s'.control_buffer_ = s.control_buffer_) ∧
    ∀ attempt message, message.channel ≠ .Control →
      (deliver (some dispatch) open_update_ attempt message s).dispatched = s.dispatched ∧
      (deliver (some dispatch) open_update_ attempt message s).control_buffer_ = s.control_buffer_ := by
  have hi := reassembled hr
  refine ⟨hi.splitOn, ?_, fun attempt message => deliver_other _ attempt s⟩
  intro dispatch' open_update' as' s' hr' hb
  have hi' := reassembled hr'
  rw [hb] at hi'
  exact hi.unique hi'

end Reassembly

/-! ## The update connection -/

section Runs
variable {dispatch_ : Option (Nat → Bytes → Bytes)} {open_update_ : Bool}

/-- The bytes an action brings to the update connection. -/
def reached (s : LocalTunnel) : Action → Bytes
  | .deliver attempt message =>
    if message.channel = .Update ∨
        message.channel = .Meta ∧ ¬ (s.update_.current = none ∧ (attempt 0).opens = false) then message.payload
    else []
  | _ => []

theorem step_update {s s' : LocalTunnel} {a : Action} (ha : Accepting dispatch_ a)
    (h : step dispatch_ open_update_ s a = some s') : s'.update_.bytes = s.update_.bytes ++ reached s a := by
  cases a with
  | deliver attempt message =>
    cases h
    have hs : ∀ {peer}, Socketed dispatch_ message →
        (s.update_.current ≠ none ∨ (attempt 0).opens = true) →
        (s.update_.send peer attempt message.payload 2 0).bytes = s.update_.bytes ++ message.payload :=
      fun hsock hfd => Descriptor.send_accepted _ 1 0 hfd (ha hsock).1
    cases hc : message.channel with
    | Video => simp [deliver_video hc, reached, hc]
    | Control =>
      cases hd : dispatch_ with
      | none => simp [deliver_control hc rfl, reached, hc]
      | some dispatch =>
        obtain ⟨lines, rest, -, -, -, -, -, hupdate, -⟩ := dispatch_lines_spec dispatch
          { s with control_buffer_ := s.control_buffer_ ++ message.payload }
        rw [deliver_dispatched hc rfl, hupdate]
        simp [reached, hc]
    | Update =>
      have hsock : Socketed dispatch_ message := ⟨by simp [hc], by simp [hc]⟩
      rw [deliver_update hc]
      simp only [hs hsock (.inr ((ha hsock).2 (by simp [hc]))), reached, hc, true_or, if_true]
    | Meta =>
      have hsock : Socketed dispatch_ message := ⟨by simp [hc], by simp [hc]⟩
      rw [deliver_meta hc]
      by_cases hnone : s.update_.current = none ∧ (attempt 0).opens = false
      · simp [Descriptor.send_refused _ _ 1 0 hnone.1 hnone.2, reached, hc, hnone.1, hnone.2]
      · have hfd : s.update_.current ≠ none ∨ (attempt 0).opens = true := by
          by_cases hcur : s.update_.current = none
          · exact .inr (by simpa using fun ho => hnone ⟨hcur, ho⟩)
          · exact .inl hcur
        have hr : reached s (.deliver attempt message) = message.payload := if_pos (.inr ⟨hc, hnone⟩)
        rw [hr]
        exact hs hsock hfd
  | pump_read channel chunk =>
    simp only [step] at h
    split at h
    · cases h; simp [reached]
    · cases h
  | close_channel channel =>
    simp only [step] at h
    split at h
    · cases h; simp [reached]
    · cases h; simp [reached]

/-- What an action brings to the update connection is at least its Update payload, and no more where it is harmless. -/
theorem reached_payload (s : LocalTunnel) (a : Action) :
    (payloads .Update (delivered [a])).length ≤ (reached s a).length ∧
      (Harmless s a ↔ reached s a = payloads .Update (delivered [a])) := by
  cases a with
  | deliver attempt message =>
    cases hc : message.channel with
    | Meta =>
      by_cases hnone : s.update_.current = none ∧ (attempt 0).opens = false
      · simp [reached, delivered, payloads, Harmless, hc, hnone.1, hnone.2]
      · simp only [reached, delivered, payloads, Harmless, hc, hnone]
        simp [hc, eq_comm]
    | _ => simp [reached, delivered, payloads, Harmless, hc]
  | _ => simp [reached, delivered, payloads, Harmless]

/-- The update connection gets exactly the Update payloads where every action is harmless. -/
theorem update_bytes {as : List Action} {s : LocalTunnel} (hr : Run (step dispatch_ open_update_) start as s)
    (ha : ∀ a ∈ as, Accepting dispatch_ a) :
    (payloads .Update (delivered as)).length ≤ s.update_.bytes.length ∧
      (s.update_.bytes = payloads .Update (delivered as) ↔ Meets (step dispatch_ open_update_) Harmless start as) := by
  induction hr with
  | nil => exact ⟨by simp [payloads, delivered], fun _ => Meets.nil, fun _ => rfl⟩
  | @snoc as s a s' hr hs ih =>
    obtain ⟨hle, hiff⟩ := ih fun b hb => ha b (by simp [hb])
    obtain ⟨hle', hiff'⟩ := reached_payload s a
    rw [step_update (ha a (by simp)) hs, delivered_snoc, payloads_append]
    refine ⟨by simp only [List.length_append]; omega, fun heq => ?_, fun hm => ?_⟩
    · -- neither part is longer than what it must be, so each is equal to it
      have hlen := congrArg List.length heq
      simp only [List.length_append] at hlen
      obtain ⟨h1, h2⟩ := List.append_inj heq (by omega)
      exact (hiff.1 h1).snoc hr (hiff'.2 h2)
    · rw [hiff.2 hm.left, hiff'.1 (hm.last hr)]

/-! ## The control channel -/

/-- What the dispatcher has seen, or the control connection has got. -/
structure ControlInv (dispatch_ : Option (Nat → Bytes → Bytes)) (s : LocalTunnel) (ms : List WireMessage) : Prop where
  dispatched : dispatch_.isSome → payloads .Control ms = (s.dispatched.map (· ++ [10])).flatten ++ s.control_buffer_ ∧
    (∀ line ∈ s.dispatched, 10 ∉ line) ∧ 10 ∉ s.control_buffer_
  nothing : dispatch_ = none → s.dispatched = []
  control : s.control_.bytes = if dispatch_.isSome then [] else payloads .Control ms

theorem payloads_other {channel : Channel} {message : WireMessage} (h : message.channel ≠ channel)
    (ms : List WireMessage) :
    payloads channel (ms ++ [message]) = payloads channel ms := by
  simp [payloads, h]

theorem payloads_same {channel : Channel} {message : WireMessage} (h : message.channel = channel)
    (ms : List WireMessage) :
    payloads channel (ms ++ [message]) = payloads channel ms ++ message.payload := by
  simp [payloads, h]

/-- A message on another channel leaves the control channel alone. -/
theorem ControlInv.other {s : LocalTunnel} {ms : List WireMessage} {message : WireMessage} {update_ : Descriptor}
    (hi : ControlInv dispatch_ s ms) (h : message.channel ≠ .Control) :
    ControlInv dispatch_ { s with update_ } (ms ++ [message]) := by
  have hp := payloads_other h ms
  exact ⟨by rw [hp]; exact hi.dispatched, hi.nothing, by rw [hp]; exact hi.control⟩

theorem ControlInv.deliver {s : LocalTunnel} {ms : List WireMessage} {attempt : Nat → Attempt} {message : WireMessage}
    (hi : ControlInv dispatch_ s ms) (ha : Accepting dispatch_ (.deliver attempt message)) :
    ControlInv dispatch_ (deliver dispatch_ open_update_ attempt message s) (ms ++ [message]) := by
  cases hc : message.channel with
  | Video => rw [deliver_video hc]; exact hi.other (by simp [hc])
  | Update => rw [deliver_update hc]; exact hi.other (by simp [hc])
  | Meta => rw [deliver_meta hc]; exact hi.other (by simp [hc])
  | Control =>
    have hp := payloads_same hc ms
    cases hd : dispatch_ with
    | none =>
      subst hd
      obtain ⟨htakes, hopens⟩ := ha ⟨by simp [hc], fun _ => rfl⟩
      rw [deliver_control hc rfl]
      refine ⟨by simp, fun _ => hi.nothing rfl, ?_⟩
      have hcontrol := hi.control
      simp only [Option.isSome_none, Bool.false_eq_true, if_false] at hcontrol ⊢
      rw [Descriptor.send_accepted _ 1 0 (.inr (hopens (by simp [hc]))) htakes, hcontrol, hp]
    | some dispatch =>
      subst hd
      obtain ⟨heq, hlines, hrest⟩ := hi.dispatched rfl
      have hre : Reassembled (LocalTunnel.deliver (some dispatch) open_update_ attempt message s)
          (payloads .Control ms ++ message.payload) := Reassembled.control ⟨heq, hlines, hrest⟩ hc
      obtain ⟨heq', hlines', hrest'⟩ := hre
      obtain ⟨-, -, -, -, -, -, hcontrol, -⟩ := dispatch_lines_spec dispatch
        { s with control_buffer_ := s.control_buffer_ ++ message.payload }
      refine ⟨fun _ => ⟨by rw [hp]; exact heq', hlines', hrest'⟩, by simp, ?_⟩
      rw [deliver_dispatched hc rfl, hcontrol]
      exact hi.control

theorem control_inv {as : List Action} {s : LocalTunnel} (hr : Run (step dispatch_ open_update_) start as s)
    (ha : ∀ a ∈ as, Accepting dispatch_ a) : ControlInv dispatch_ s (delivered as) := by
  induction hr with
  | nil =>
    exact ⟨fun _ => ⟨rfl, by simp [start], by simp [start]⟩, fun _ => rfl,
      by simp [start, Descriptor.bytes, payloads, delivered]⟩
  | @snoc as s a s' hr hs ih =>
    have hi := ih fun b hb => ha b (by simp [hb])
    rw [delivered_snoc]
    cases a with
    | deliver attempt message =>
      cases hs
      exact hi.deliver (ha _ (by simp))
    | pump_read channel chunk =>
      simp only [step] at hs
      split at hs
      · cases hs
        rw [show delivered [.pump_read channel chunk] = [] from rfl, List.append_nil]
        exact { hi with }
      · cases hs
    | close_channel channel =>
      rw [show delivered [.close_channel channel] = [] from rfl, List.append_nil]
      simp only [step] at hs
      split at hs
      · cases hs
        exact ⟨hi.dispatched, hi.nothing, by rw [Descriptor.closed_bytes]; exact hi.control⟩
      · cases hs
        exact { hi with }

/-! ## Isolation -/

/-- In every run with accepting connections each channel's bytes get where they
belong and nowhere else, exactly where no Meta message with a payload finds an
update connection. -/
theorem isolated_iff {as : List Action} {s : LocalTunnel} (hr : Run (step dispatch_ open_update_) start as s)
    (ha : ∀ a ∈ as, Accepting dispatch_ a) :
    Isolated dispatch_ s (delivered as) ↔ Meets (step dispatch_ open_update_) Harmless start as := by
  have hc := control_inv hr ha
  rw [← (update_bytes hr ha).2]
  constructor
  · exact fun h => h.update
  · refine fun h => ⟨h, ?_, hc.control⟩
    cases hd : dispatch_ with
    | none => exact hc.nothing hd
    | some dispatch => exact ⟨s.control_buffer_, hc.dispatched (by rw [hd]; rfl)⟩

end Runs

/-- Connections that are there and take whatever is written. -/
def open_door : Nat → Attempt := fun _ => ⟨true, kMaxPayload⟩

/-- A silent dispatcher. -/
def no_reply : Nat → Bytes → Bytes := fun _ _ => []

/-- Half a line, an upload in two records with a picture between them, and the other half of the line. -/
def mixed : List Action :=
  [.deliver open_door ⟨.Control, 0, [97]⟩, .deliver open_door ⟨.Update, 0, [1, 2]⟩,
    .deliver open_door ⟨.Video, 1, [9]⟩, .deliver open_door ⟨.Update, 7, [3]⟩,
    .deliver open_door ⟨.Control, 0, [98, 10, 99]⟩]

theorem mixed_accepting : ∀ a ∈ mixed, Accepting (some no_reply) a := by
  simp [mixed, Accepting, open_door, kMaxPayload]

/-- No message of it is a Meta message. -/
theorem mixed_harmless : Meets (step (some no_reply) true) Harmless start mixed := by
  have hall : ∀ a ∈ mixed, ∀ t, Harmless t a := by simp [mixed, Harmless]
  exact fun pre a post t he _ => hall a (by simp [he]) t

/-- The upload arrives whole. -/
theorem isolated_iff_mixed : ∃ s, Run (step (some no_reply) true) start mixed s ∧
    Meets (step (some no_reply) true) Harmless start mixed ∧ Isolated (some no_reply) s (delivered mixed) ∧
    s.update_.bytes = [1, 2, 3] := by
  obtain ⟨s, hs, hbytes⟩ : ∃ s, exec (step (some no_reply) true) start mixed = some s ∧ s.update_.bytes = [1, 2, 3] :=
    ⟨_, rfl, rfl⟩
  exact ⟨s, run_of_exec hs, mixed_harmless, (isolated_iff (run_of_exec hs) mixed_accepting).2 mixed_harmless, hbytes⟩

/-- The line is dispatched, and the beginning of the next one is kept. -/
theorem control_reassembled_mixed : ∃ s, Run (step (some no_reply) true) start mixed s ∧
    s.dispatched = [[97, 98]] ∧ s.control_buffer_ = [99] ∧
    (payloads .Control (delivered mixed)).splitOn 10 = s.dispatched ++ [s.control_buffer_] := by
  obtain ⟨s, hs, hdispatched, hbuffer⟩ : ∃ s, exec (step (some no_reply) true) start mixed = some s ∧
      s.dispatched = [[97, 98]] ∧ s.control_buffer_ = [99] := ⟨_, rfl, rfl, rfl⟩
  exact ⟨s, run_of_exec hs, hdispatched, hbuffer, (control_reassembled no_reply true mixed s (run_of_exec hs)).1⟩

/-- A Meta message in the middle of an upload. -/
def spoiled : List Action :=
  [.deliver open_door ⟨.Update, 0, [1]⟩, .deliver open_door ⟨.Meta, 0, [9]⟩, .deliver open_door ⟨.Update, 0, [2]⟩]

/-- The byte 9 of the Meta message is written between the two of the upload. -/
theorem meta_in_upload : ¬ ∀ (dispatch_ : Option (Nat → Bytes → Bytes)) (open_update_ : Bool) (as : List Action)
    (s : LocalTunnel), Run (step dispatch_ open_update_) start as s → (∀ a ∈ as, Accepting dispatch_ a) →
    Isolated dispatch_ s (delivered as) := by
  intro h
  have hrun : Run (step (some no_reply) true) start spoiled
      ⟨[], ⟨[], none⟩, ⟨[], some ⟨.in_process, [1, 9, 2]⟩⟩, [], []⟩ := run_of_exec rfl
  have hupdate := (h (some no_reply) true spoiled _ hrun (by simp [spoiled, Accepting, open_door, kMaxPayload])).update
  revert hupdate
  decide

end LocalTunnel

end CameraStreamer.Secure
