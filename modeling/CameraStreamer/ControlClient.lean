import CameraStreamer.Lib.Runs
import CameraStreamer.QtJson
import Mathlib.Data.List.Perm.Basic
/-!
# The host's control requests

`ControlClient` holds a request's callback until a reply names it or the connection
ends. Callbacks and the slots of its signals run in the middle of its functions and
may use it again, so what these still have to do is on a stack.
-/

namespace CameraStreamer.ControlClient
open Runs QtJson

/-- A line of the device, as parsed. -/
inductive Line (D : Type) where
  | blank
  | malformed
  | object (response : Json.Members D)

/-- A request as it is held in `m_pending`. -/
structure Call where
  /-- The calls of `sendRequest` go by their number. -/
  number : Nat
  id : Int
  /-- The connection it was sent on. -/
  connection : Nat
  /-- Whether there is a callback to run. -/
  callback : Bool

/-- Why a callback ran. -/
inductive Outcome (D : Type) where
  /-- A reply, read from a connection, for which this request was found. -/
  | reply (response : Json.Members D) (call : Call) (connection : Nat)
  | failed (message : String)

inductive Signal (D : Type) where
  | connected
  | disconnected
  | errorOccurred (message : String)
  | eventReceived (event : String) (camera : Int) (data : Json.Members D)

inductive Socket where
  | unconnected
  | connecting
  | connected
  | closing
  deriving DecidableEq

/-- What is left of a function that has not returned. -/
inductive Frame (D : Type) where
  /-- A callback or a slot. -/
  | user
  /-- The loop of `readLines`. -/
  | readLines
  /-- The loop of `failAllPending`. -/
  | failing (message : String) (pending : List Call)
  /-- The `emit` after it. -/
  | emitting (signal : Signal D)
  /-- The end of `disconnectFromDevice`. -/
  | disconnecting (wasConnected : Bool)
  /-- `connectToHost`, the end of `connectToDevice`. -/
  | connecting

def Frame.pending {D : Type} : Frame D → List Call
  | .failing _ pending => pending
  | _ => []

/-- Connections go by their number. -/
structure Client (D : Type) where
  socket : Socket := .unconnected
  connection : Nat := 0
  /-- Lines received, with the connection they came on. -/
  buffer : List (Line D × Nat) := []
  /-- Requests written to the socket. -/
  written : List (Json.Members D) := []
  m_pending : List Call := []
  m_nextId : Int := 1
  stack : List (Frame D) := []
  signals : List (Signal D) := []
  calls : Nat := 0
  /-- The calls that gave a callback, and those whose callback ran. -/
  given : List Nat := []
  ran : List (Nat × Outcome D) := []

inductive Act (D : Type) where
  | sendRequest (method : String) (params : Json.Members D) (callback : Bool)
  | connectToDevice
  | disconnectFromDevice
  | connected
  | receive (line : Line D)
  | readyRead
  /-- The socket begins to close. -/
  | closing
  | disconnected
  /-- An error, with which the connection may end. -/
  | errorOccurred (ends : Bool) (message : String)
  /-- A callback or a slot returns. -/
  | return_user
  /-- A function goes on, `failAllPending` with any of the callbacks that are left. -/
  | advance (i : Nat)

section Messages
variable {D : Type} [QtJson D]

def makeError (message : String) : Json.Members D :=
  insert (insert [] "code" (.int (-1))) "message" (.string message)

/-- What the callback is given. -/
def Outcome.result : Outcome D → Json.Members D
  | .reply response _ _ => toObject (value response "result")
  | .failed _ => []

def Outcome.error : Outcome D → Json.Members D
  | .reply response _ _ => toObject (value response "error")
  | .failed message => makeError message

/-- A request as it is written. -/
def request (id : Int) (method : String) (params : Json.Members D) : Json.Members D :=
  let request := insert (insert [] "id" (.int id)) "method" (.string method)
  if params.isEmpty then request else insert request "params" (.object params)

/-- A line the device sends on its own. -/
def is_event (response : Json.Members D) : Bool := !contains response "id" && contains response "event"

variable [Doubles D]

/-- The `id` that `readLines` looks up. -/
def reply_id (response : Json.Members D) : Int :=
  Doubles.toInt (toDouble (value response "id") (Doubles.ofInt (-1)))

/-- The line has this id. -/
def carries (response : Json.Members D) (id : Int) : Bool :=
  match value response "id" with
  | some (.int i) => i == id
  | some (.double d) => Doubles.isInt d id
  | _ => false

/-- The reply is to the request that it was taken for. -/
def Outcome.own : Outcome D → Bool
  | .reply response call _ => carries response call.id
  | .failed _ => true

/-- The number is of the request that the reply was taken for, and this was sent on the
connection of the reply. -/
def Outcome.is_for (number : Nat) : Outcome D → Prop
  | .reply _ call connection => call.number = number ∧ connection = call.connection
  | .failed _ => True

end Messages

/-- Those that have a callback to run. -/
def numbers (calls : List Call) : List Nat := (calls.filter (·.callback)).map (·.number)

theorem numbers_append (calls calls' : List Call) : numbers (calls ++ calls') = numbers calls ++ numbers calls' := by
  unfold numbers
  rw [List.filter_append, List.map_append]

theorem numbers_single_pos {call : Call} (h : call.callback = true) : numbers [call] = [call.number] := by
  simp [numbers, h]

theorem numbers_single_neg {call : Call} (h : call.callback = false) : numbers [call] = [] := by
  simp [numbers, h]

/-- Taking one call out leaves the others. -/
theorem numbers_perm {call : Call} {calls rest : List Call} (h : calls.Perm (call :: rest)) (n : Nat) :
    (numbers calls).count n = (numbers rest).count n + (numbers [call]).count n := by
  have hperm : (numbers calls).Perm (numbers ([call] ++ rest)) := (h.filter _).map _
  rw [hperm.count_eq, numbers_append, List.count_append, Nat.add_comm]

theorem find_perm {p : Call → Bool} {calls : List Call} {call : Call} (h : calls.find? p = some call) :
    calls.Perm (call :: calls.eraseP p) := by
  induction calls with
  | nil => cases h
  | cons c calls ih =>
    cases hc : p c with
    | true =>
      rw [List.find?_cons_of_pos hc] at h
      cases h
      rw [List.eraseP_cons_of_pos hc]
    | false =>
      have hneg : ¬ p c = true := by simp [hc]
      rw [List.find?_cons_of_neg hneg] at h
      rw [List.eraseP_cons_of_neg hneg]
      exact ((ih h).cons c).trans (.swap call c _)

namespace Client

section Functions
variable {D : Type} [QtJson D]

def isConnected (s : Client D) : Bool := s.socket == .connected

def emit (s : Client D) (signal : Signal D) : Client D :=
  { s with signals := s.signals ++ [signal], stack := .user :: s.stack }

/-- `if (callback) callback(..)` -/
def run (s : Client D) (call : Call) (outcome : Outcome D) : Client D :=
  if call.callback then { s with ran := s.ran ++ [(call.number, outcome)], stack := .user :: s.stack } else s

def failAllPending (s : Client D) (message : String) : Client D :=
  if s.m_pending.isEmpty then s
  else { s with m_pending := [], stack := .failing message s.m_pending :: s.stack }

/-- The slot of `QAbstractSocket::errorOccurred`. -/
def onError (s : Client D) (message : String) : Client D :=
  { s with stack := .emitting (.errorOccurred message) :: s.stack }.failAllPending message

/-- The slot of `QTcpSocket::disconnected`. -/
def onDisconnected (s : Client D) : Client D :=
  { s with stack := .emitting .disconnected :: s.stack }.failAllPending "control connection closed"

/-- `QAbstractSocket::connectToHost` -/
def connectToHost (s : Client D) : Client D :=
  if s.socket = .unconnected then
    { s with socket := .connecting, connection := s.connection + 1, buffer := [] }
  else s.onError "Trying to connect while connection is in progress"

def disconnectFromDevice (s : Client D) : Client D :=
  if s.socket = .unconnected then s
  else { s with
    socket := .unconnected
    buffer := []
    stack := .disconnecting s.isConnected :: s.stack }.failAllPending "disconnected"

def connectToDevice (s : Client D) : Client D :=
  { s with stack := .connecting :: s.stack }.disconnectFromDevice

/-- The next call of `sendRequest`. -/
def called (s : Client D) (callback : Bool) : Client D :=
  { s with calls := s.calls + 1, given := if callback then s.given ++ [s.calls] else s.given }

def sendRequest (s : Client D) (method : String) (params : Json.Members D) (callback : Bool) : Client D :=
  let call : Call := ⟨s.calls, s.m_nextId, s.connection, callback⟩
  let s := s.called callback
  if !s.isConnected then s.run call (.failed "not connected")
  else { s with
    m_nextId := s.m_nextId + 1
    m_pending := s.m_pending.filter (·.id != call.id) ++ [call]
    written := s.written ++ [request call.id method params] }

variable [Doubles D]

/-- One turn of the loop of `readLines`. -/
def readLine (s : Client D) : Line D × Nat → Client D
  | (.blank, _) => s
  | (.malformed, _) => s.emit (.errorOccurred "malformed control response")
  | (.object response, connection) =>
    if is_event response then
      s.emit (.eventReceived (toString (value response "event")) (toInt (value response "camera") (-1))
        (toObject (value response "data")))
    else match s.m_pending.find? (·.id == reply_id response) with
      | none => s
      | some call =>
        { s with m_pending := s.m_pending.eraseP (·.id == reply_id response) }.run call
          (.reply response call connection)

def advance (s : Client D) (i : Nat) : Option (Client D) :=
  match s.stack with
  | [] => none
  | .user :: _ => none
  | .readLines :: rest => match s.buffer with
    | [] => some { s with stack := rest }
    | line :: buffer => some ({ s with buffer := buffer }.readLine line)
  | .failing _ [] :: rest => some { s with stack := rest }
  | .failing message pending :: rest => pending[i]?.map fun call =>
    { s with stack := .failing message (pending.eraseIdx i) :: rest }.run call (.failed message)
  | .emitting signal :: rest => some ({ s with stack := rest }.emit signal)
  | .disconnecting wasConnected :: rest =>
    let s := { s with stack := rest }
    some (if wasConnected then s.emit .disconnected else s)
  | .connecting :: rest => some { s with stack := rest }.connectToHost

/-- The event loop or a callback may do something. -/
def can_act (s : Client D) : Bool :=
  match s.stack with
  | [] => true
  | .user :: _ => true
  | _ => false

def act (s : Client D) : Act D → Option (Client D)
  | .sendRequest method params callback => some (s.sendRequest method params callback)
  | .connectToDevice => some s.connectToDevice
  | .disconnectFromDevice => some s.disconnectFromDevice
  | .connected =>
    if s.socket = .connecting then some ({ s with socket := .connected }.emit .connected) else none
  | .receive line =>
    if s.socket = .connected ∨ s.socket = .closing then
      some { s with buffer := s.buffer ++ [(line, s.connection)] }
    else none
  | .readyRead => some { s with stack := .readLines :: s.stack }
  | .closing => if s.socket = .connected then some { s with socket := .closing } else none
  | .disconnected =>
    if s.socket = .unconnected then none else some { s with socket := .unconnected }.onDisconnected
  | .errorOccurred ends message =>
    some ((if ends then { s with socket := .unconnected } else s).onError message)
  | .return_user => match s.stack with
    | .user :: rest => some { s with stack := rest }
    | _ => none
  | .advance _ => none

def step (s : Client D) : Act D → Option (Client D)
  | .advance i => s.advance i
  | a => if s.can_act then s.act a else none

/-- A reply that will run a callback has the id of that request. -/
def own_line (s : Client D) : Line D × Nat → Bool
  | (.object response, _) => is_event response || (s.m_pending.find? (·.id == reply_id response)).all fun call =>
      !call.callback || carries response call.id
  | _ => true

/-- The line that is read next, if one is, is such a reply or runs no callback. -/
def own (s : Client D) : Act D → Bool
  | .advance _ => match s.stack with
    | .readLines :: _ => s.buffer.head?.all s.own_line
    | _ => true
  | _ => true

/-- The callbacks that a loop of `failAllPending` has still to run. -/
def drained (s : Client D) : List Nat := numbers (s.stack.flatMap Frame.pending)

/-- Every callback runs once, for a reply to its own request or as this fails. -/
structure Sound (s : Client D) : Prop where
  once : (s.ran.map Prod.fst).Nodup
  kept : ∀ n ∈ s.given, n ∈ s.ran.map Prod.fst ∨ n ∈ numbers s.m_pending ∨ n ∈ s.drained
  found : ∀ e ∈ s.ran, e.2.is_for e.1
  own : ∀ e ∈ s.ran, e.2.own = true
  ended : s.socket = .unconnected → s.m_pending = [] ∧ (s.stack = [] → ∀ n ∈ s.given, n ∈ s.ran.map Prod.fst)

end Functions

/-! ## What a step can do -/

variable {D : Type} {s s' : Client D}

/-- Nothing is done to the requests; the buffer gets lines of this connection only. -/
structure Beside (s t : Client D) : Prop where
  given : t.given = s.given
  calls : t.calls = s.calls
  ran : t.ran = s.ran
  pending : t.m_pending = s.m_pending
  nextId : t.m_nextId = s.m_nextId
  connection : t.connection = s.connection
  drained : t.drained = s.drained
  received : ∀ l ∈ t.buffer, l ∈ s.buffer ∨ l.2 = s.connection

/-- There is no connection, or not yet. -/
def Out (s : Client D) : Prop := s.socket = .unconnected ∨ s.socket = .connecting

theorem Beside.refl (s : Client D) : Beside s s := ⟨rfl, rfl, rfl, rfl, rfl, rfl, rfl, fun _ hl => .inl hl⟩

/-- A function that has no callbacks to run returns. -/
theorem Beside.pop {frame : Frame D} {rest : List (Frame D)} (hstack : s.stack = frame :: rest)
    (hframe : frame.pending = []) : Beside s { s with stack := rest } := by
  refine { Beside.refl s with drained := ?_ }
  unfold Client.drained
  rw [hstack, List.flatMap_cons, hframe]
  rfl

theorem Beside.push {t : Client D} (h : Beside s t) (frame : Frame D) (hframe : frame.pending = []) :
    Beside s { t with stack := frame :: t.stack } := by
  refine { h with drained := ?_ }
  rw [← h.drained]
  unfold Client.drained
  rw [List.flatMap_cons, hframe]
  rfl

theorem Beside.emit {t : Client D} (h : Beside s t) (signal : Signal D) : Beside s (t.emit signal) :=
  { h with drained := h.drained }

variable [QtJson D]

/-- What a step does other than to read a line. -/
inductive Did (s : Client D) : Client D → Prop
  | sent (method : String) (params : Json.Members D) (callback : Bool) : Did s (s.sendRequest method params callback)
  | beside {t : Client D} (h : Beside s t) (hout : t.Out → s.Out) : Did s t
  | failing {t : Client D} (h : Beside s t) (message : String) : Did s (t.failAllPending message)
  | failed {message : String} {pending : List Call} {rest : List (Frame D)} {i : Nat} {call : Call}
      (hstack : s.stack = .failing message pending :: rest) (hcall : pending[i]? = some call) :
      Did s ({ s with stack := .failing message (pending.eraseIdx i) :: rest }.run call (.failed message))
  | began {rest : List (Frame D)} (hstack : s.stack = .connecting :: rest) (hsocket : s.socket = .unconnected) :
      Did s { s with stack := rest, socket := .connecting, connection := s.connection + 1, buffer := [] }

theorem disconnectFromDevice_did {t : Client D} (h : Beside s t) (hsocket : t.socket = s.socket) :
    Did s t.disconnectFromDevice := by
  unfold Client.disconnectFromDevice
  split
  · refine .beside h fun hout => ?_
    unfold Out
    rw [← hsocket]
    exact hout
  · have haborted : Beside s { t with socket := .unconnected, buffer := [] } :=
      { h with drained := h.drained, received := fun l hl => by cases hl }
    exact .failing (haborted.push (.disconnecting t.isConnected) rfl) "disconnected"

theorem onError_did {t : Client D} (h : Beside s t) (message : String) : Did s (t.onError message) :=
  .failing (h.push (.emitting (.errorOccurred message)) rfl) message

theorem act_did {a : Act D} (ha : s.act a = some s') : Did s s' := by
  cases a with
  | sendRequest method params callback =>
    cases ha
    exact .sent method params callback
  | connectToDevice =>
    cases ha
    exact disconnectFromDevice_did ((Beside.refl s).push .connecting rfl) rfl
  | disconnectFromDevice =>
    cases ha
    exact disconnectFromDevice_did (.refl s) rfl
  | connected =>
    obtain ⟨-, ha⟩ := Option.ite_none_right_eq_some.1 ha
    cases ha
    refine .beside { Beside.refl s with } ?_
    rintro (hs | hs) <;> cases hs
  | receive line =>
    obtain ⟨-, ha⟩ := Option.ite_none_right_eq_some.1 ha
    cases ha
    refine .beside { Beside.refl s with received := fun l hl => ?_ } id
    rcases List.mem_append.1 hl with hl | hl
    · exact .inl hl
    · rw [List.mem_singleton.1 hl]
      exact .inr rfl
  | readyRead =>
    cases ha
    exact .beside ((Beside.refl s).push .readLines rfl) id
  | closing =>
    obtain ⟨-, ha⟩ := Option.ite_none_right_eq_some.1 ha
    cases ha
    refine .beside { Beside.refl s with } ?_
    rintro (hs | hs) <;> cases hs
  | disconnected =>
    obtain ⟨-, ha⟩ := Option.ite_none_left_eq_some.1 ha
    cases ha
    have hgone : Beside s { s with socket := .unconnected } := { Beside.refl s with }
    exact .failing (hgone.push (.emitting .disconnected) rfl) "control connection closed"
  | errorOccurred ends message =>
    cases ha
    refine onError_did ?_ message
    cases ends with
    | false => exact .refl s
    | true => exact { Beside.refl s with }
  | return_user =>
    dsimp only [Client.act] at ha
    split at ha
    · rename_i hstack
      cases ha
      exact .beside (.pop hstack rfl) id
    · cases ha
  | advance i => cases ha

theorem connectToHost_did {rest : List (Frame D)} (hstack : s.stack = .connecting :: rest) :
    Did s { s with stack := rest }.connectToHost := by
  unfold Client.connectToHost
  split
  · rename_i hsocket
    exact .began hstack hsocket
  · exact onError_did (.pop hstack rfl) _

section Steps
variable [Doubles D]

theorem own_other {frame : Frame D} {rest : List (Frame D)} (hstack : s.stack = frame :: rest)
    (hframe : frame ≠ .readLines) (i : Nat) : s.own (.advance i) = true := by
  unfold Client.own
  dsimp only
  rw [hstack]
  cases frame with
  | readLines => exact absurd rfl hframe
  | user | failing | emitting | disconnecting | connecting => rfl

/-- A function goes on; it may read a line. -/
theorem advance_did {i : Nat} (ha : s.advance i = some s') :
    Did s s' ∧ s.own (.advance i) = true ∨
      ∃ line buffer, s.buffer = line :: buffer ∧ s' = { s with buffer := buffer }.readLine line ∧
        s.own (.advance i) = s.own_line line := by
  unfold Client.advance at ha
  split at ha
  · cases ha
  · cases ha
  · rename_i rest hstack
    have hown : s.own (.advance i) = s.buffer.head?.all s.own_line := by
      unfold Client.own
      dsimp only
      rw [hstack]
    split at ha
    · rename_i hbuffer
      cases ha
      exact .inl ⟨.beside (.pop hstack rfl) id, by rw [hown, hbuffer]; rfl⟩
    · rename_i line buffer hbuffer
      cases ha
      exact .inr ⟨line, buffer, hbuffer, rfl, by rw [hown, hbuffer]; rfl⟩
  · rename_i hstack
    cases ha
    exact .inl ⟨.beside (.pop hstack rfl) id, own_other hstack (fun hf => by cases hf) i⟩
  · rename_i message pending rest hne hstack
    obtain ⟨call, hcall, rfl⟩ := Option.map_eq_some_iff.1 ha
    exact .inl ⟨.failed hstack hcall, own_other hstack (fun hf => by cases hf) i⟩
  · rename_i signal rest hstack
    cases ha
    exact .inl ⟨.beside ((Beside.pop hstack rfl).emit signal) id, own_other hstack (fun hf => by cases hf) i⟩
  · rename_i wasConnected rest hstack
    cases ha
    refine .inl ⟨?_, own_other hstack (fun hf => by cases hf) i⟩
    split
    · exact .beside ((Beside.pop hstack rfl).emit .disconnected) id
    · exact .beside (.pop hstack rfl) id
  · rename_i rest hstack
    cases ha
    exact .inl ⟨connectToHost_did hstack, own_other hstack (fun hf => by cases hf) i⟩

/-- A step reads a line, or runs no callback for a reply. -/
theorem step_cases {a : Act D} (ha : s.step a = some s') :
    Did s s' ∧ s.own a = true ∨
      ∃ line buffer, s.buffer = line :: buffer ∧ s' = { s with buffer := buffer }.readLine line ∧
        s.own a = s.own_line line := by
  cases a with
  | advance i => exact advance_did ha
  | sendRequest | connectToDevice | disconnectFromDevice | connected | receive | readyRead | closing | disconnected
  | errorOccurred | return_user =>
    obtain ⟨-, ha⟩ := Option.ite_none_right_eq_some.1 ha
    exact .inl ⟨act_did ha, rfl⟩

end Steps

/-! ## Where the callbacks are -/

/-- Every callback given has run, or is pending, or is about to be failed, or is in
`held`, and is in one place only. -/
structure Kept (held : List Call) (s : Client D) : Prop where
  count : ∀ n, s.given.count n = (s.ran.map Prod.fst).count n + (numbers s.m_pending).count n + s.drained.count n +
    (numbers held).count n
  given_le : ∀ n, s.given.count n ≤ 1
  given_lt : ∀ n ∈ s.given, n < s.calls
  ids : ∀ c ∈ s.m_pending, c.id < s.m_nextId
  here : ∀ c ∈ s.m_pending, c.connection = s.connection
  received : ∀ l ∈ s.buffer, l.2 = s.connection
  found : ∀ e ∈ s.ran, e.2.is_for e.1

omit [QtJson D] in
theorem Kept.beside {t : Client D} (h : Kept [] s) (hb : Beside s t) : Kept [] t := by
  constructor
  · rw [hb.given, hb.ran, hb.pending, hb.drained]
    exact h.count
  · rw [hb.given]
    exact h.given_le
  · rw [hb.given, hb.calls]
    exact h.given_lt
  · rw [hb.pending, hb.nextId]
    exact h.ids
  · rw [hb.pending, hb.connection]
    exact h.here
  · intro l hl
    rw [hb.connection]
    exact (hb.received l hl).elim (h.received l) id
  · rw [hb.ran]
    exact h.found

omit [QtJson D] in
/-- A callback in hand runs once. -/
theorem Kept.run {call : Call} (h : Kept [call] s) (outcome : Outcome D) (hfor : outcome.is_for call.number) :
    Kept [] (s.run call outcome) := by
  unfold Client.run
  cases hcallback : call.callback with
  | false =>
    rw [if_neg Bool.false_ne_true]
    refine { h with count := fun n => ?_ }
    rw [h.count n, numbers_single_neg hcallback]
    rfl
  | true =>
    rw [if_pos rfl]
    have hran : Kept [] { s with ran := s.ran ++ [(call.number, outcome)] } := by
      refine { h with count := fun n => ?_, found := fun e he => ?_ }
      · rw [h.count n, numbers_single_pos hcallback, List.map_append, List.count_append]
        show _ = _ + _ + (numbers s.m_pending).count n + s.drained.count n + 0
        simp only [List.map_cons, List.map_nil]
        omega
      · rcases List.mem_append.1 he with he | he
        · exact h.found e he
        · rw [List.mem_singleton.1 he]
          exact hfor
    exact hran.beside { Beside.refl _ with }

omit [QtJson D] in
/-- The loop of `failAllPending` takes over what is pending. -/
theorem Kept.failAllPending (h : Kept [] s) (message : String) : Kept [] (s.failAllPending message) := by
  unfold Client.failAllPending
  split
  · exact h
  · refine { h with count := fun n => ?_, ids := fun c hc => (by cases hc), here := fun c hc => (by cases hc) }
    have hmoved : ({ s with m_pending := [], stack := .failing message s.m_pending :: s.stack } : Client D).drained =
        numbers s.m_pending ++ s.drained := by
      unfold drained
      rw [List.flatMap_cons, numbers_append]
      rfl
    rw [h.count n, hmoved, List.count_append]
    show (s.ran.map Prod.fst).count n + (numbers s.m_pending).count n + s.drained.count n + 0 =
      (s.ran.map Prod.fst).count n + 0 + ((numbers s.m_pending).count n + s.drained.count n) + 0
    omega

omit [QtJson D] in
/-- One of the callbacks that a loop still has is in hand. -/
theorem Kept.take {message : String} {pending : List Call} {rest : List (Frame D)} {i : Nat} {call : Call}
    (h : Kept [] s) (hstack : s.stack = .failing message pending :: rest) (hcall : pending[i]? = some call) :
    Kept [call] { s with stack := .failing message (pending.eraseIdx i) :: rest } := by
  obtain ⟨hi, hget⟩ := List.getElem?_eq_some_iff.1 hcall
  refine { h with count := fun n => ?_ }
  have hperm : pending.Perm (call :: pending.eraseIdx i) := by
    rw [← hget]
    exact (List.getElem_cons_eraseIdx_perm hi).symm
  have hmoved := numbers_perm hperm n
  have hbefore : s.drained.count n =
      (numbers pending).count n + (numbers (rest.flatMap Frame.pending)).count n := by
    unfold drained
    rw [hstack, List.flatMap_cons, numbers_append, List.count_append]
    rfl
  have hafter : { s with stack := .failing message (pending.eraseIdx i) :: rest }.drained.count n =
      (numbers (pending.eraseIdx i)).count n + (numbers (rest.flatMap Frame.pending)).count n := by
    unfold drained
    rw [List.flatMap_cons, numbers_append, List.count_append]
    rfl
  rw [h.count n, hbefore, hmoved, hafter]
  show (s.ran.map Prod.fst).count n + (numbers s.m_pending).count n + _ + 0 =
    (s.ran.map Prod.fst).count n + (numbers s.m_pending).count n + _ + _
  omega

omit [QtJson D] in
theorem Kept.called (h : Kept [] s) (callback : Bool) :
    Kept [⟨s.calls, s.m_nextId, s.connection, callback⟩] (s.called callback) := by
  cases callback with
  | false =>
    refine { h with given_lt := fun n hn => Nat.lt_succ_of_lt (h.given_lt n hn), count := fun n => ?_ }
    rw [numbers_single_neg rfl]
    exact h.count n
  | true =>
    have hnew : s.given.count s.calls = 0 := List.count_eq_zero.2 fun hn => Nat.lt_irrefl _ (h.given_lt _ hn)
    refine { h with count := fun n => ?_, given_le := fun n => ?_, given_lt := fun n hn => ?_ }
    · show (s.given ++ [s.calls]).count n = _
      rw [List.count_append, h.count n, numbers_single_pos rfl]
      rfl
    · show (s.given ++ [s.calls]).count n ≤ 1
      rw [List.count_append]
      by_cases hn : n = s.calls
      · rw [hn, hnew, List.count_singleton_self]
      · have hzero : List.count n [s.calls] = 0 := List.count_eq_zero.2 (by simpa using hn)
        rw [hzero]
        exact h.given_le n
    · rcases List.mem_append.1 hn with hn | hn
      · exact Nat.lt_succ_of_lt (h.given_lt n hn)
      · rw [List.mem_singleton.1 hn]
        exact Nat.lt_succ_self _

theorem Kept.sendRequest (h : Kept [] s) (method : String) (params : Json.Members D) (callback : Bool) :
    Kept [] (s.sendRequest method params callback) := by
  have hcalled := h.called callback
  unfold Client.sendRequest
  dsimp only
  split
  · exact hcalled.run (.failed "not connected") trivial
  · have hfresh : (s.called callback).m_pending.filter (·.id != s.m_nextId) = s.m_pending :=
      List.filter_eq_self.2 fun c hc => by simpa using (h.ids c hc).ne
    rw [hfresh]
    refine { hcalled with count := fun n => ?_, ids := fun c hc => ?_, here := fun c hc => ?_ }
    · have hcount := hcalled.count n
      show (s.called callback).given.count n = (s.ran.map Prod.fst).count n +
        (numbers (s.m_pending ++ [⟨s.calls, s.m_nextId, s.connection, callback⟩])).count n + s.drained.count n + 0
      rw [hcount, numbers_append, List.count_append]
      show (s.ran.map Prod.fst).count n + (numbers s.m_pending).count n + s.drained.count n + _ = _
      omega
    · rcases List.mem_append.1 hc with hc | hc
      · exact (h.ids c hc).trans (Int.lt_succ _)
      · rw [List.mem_singleton.1 hc]
        exact Int.lt_succ _
    · rcases List.mem_append.1 hc with hc | hc
      · exact h.here c hc
      · rw [List.mem_singleton.1 hc]
        rfl

/-- Without a connection nothing is pending. -/
def Idle (s : Client D) : Prop := s.Out → s.m_pending = []

theorem did_kept (h : Kept [] s) (hidle : s.Idle) (hd : Did s s') : Kept [] s' := by
  cases hd with
  | sent method params callback => exact h.sendRequest method params callback
  | beside hb => exact h.beside hb
  | failing hb message => exact (h.beside hb).failAllPending message
  | failed hstack hcall => exact (h.take hstack hcall).run _ trivial
  | began hstack hsocket =>
    refine { h.beside (.pop hstack rfl) with here := fun c hc => ?_, received := fun l hl => by cases hl }
    rw [show s.m_pending = [] from hidle (.inl hsocket)] at hc
    cases hc

omit [QtJson D] in
theorem failAllPending_pending (s : Client D) (message : String) : (s.failAllPending message).m_pending = [] := by
  unfold Client.failAllPending
  split
  · rename_i hempty
    exact List.isEmpty_iff.1 hempty
  · rfl

omit [QtJson D] in
theorem run_idle (h : s.Idle) (call : Call) (outcome : Outcome D) : (s.run call outcome).Idle := by
  unfold Client.run
  split
  · exact h
  · exact h

theorem did_idle (h : s.Idle) (hd : Did s s') : s'.Idle := by
  cases hd with
  | sent method params callback =>
    unfold Client.sendRequest
    dsimp only
    split
    · have hcalled : (s.called callback).Idle := h
      exact run_idle hcalled _ _
    · rename_i hconnected
      have hsocket : s.socket = .connected := by simpa [isConnected, called] using hconnected
      rintro (hs | hs) <;> exact absurd (hsocket.symm.trans hs) (by decide)
  | beside hb hout =>
    intro hs
    rw [hb.pending]
    exact h (hout hs)
  | failing hb message => exact fun _ => failAllPending_pending _ _
  | failed hstack hcall =>
    apply run_idle
    exact h
  | began hstack hsocket => exact fun _ => h (.inl hsocket)

/-! ## The replies that callbacks ran for -/

section Replies
variable [Doubles D]

/-- Every reply is to the request that it was taken for. -/
def Owned (s : Client D) : Prop := ∀ e ∈ s.ran, e.2.own = true

theorem run_owned_iff (h : s.Owned) (call : Call) (outcome : Outcome D) :
    (s.run call outcome).Owned ↔ (!call.callback || outcome.own) = true := by
  unfold Client.run
  cases call.callback with
  | false => exact iff_of_true h rfl
  | true =>
    show (∀ e ∈ s.ran ++ [(call.number, outcome)], e.2.own = true) ↔ outcome.own = true
    rw [List.forall_mem_append]
    simp only [List.forall_mem_singleton]
    exact and_iff_right h

theorem run_failed_owned (h : s.Owned) (call : Call) (message : String) : (s.run call (.failed message)).Owned :=
  (run_owned_iff h call (.failed message)).2 (Bool.or_true _)

theorem did_owned (h : s.Owned) (hd : Did s s') : s'.Owned := by
  cases hd with
  | sent method params callback =>
    have hcalled : (s.called callback).Owned := h
    unfold Client.sendRequest
    dsimp only
    split
    · exact run_failed_owned hcalled _ _
    · exact h
  | beside hb =>
    unfold Owned
    rw [hb.ran]
    exact h
  | failing hb message =>
    unfold Client.failAllPending Owned
    split
    · rw [hb.ran]
      exact h
    · dsimp only
      rw [hb.ran]
      exact h
  | failed hstack hcall =>
    apply run_failed_owned
    exact h
  | began hstack hsocket => exact h

/-! ## A line that is read -/

/-- A callback taken from the table is in hand, and the line that it was taken for is of
its connection. -/
theorem Kept.readLine (h : Kept [] s) {line : Line D × Nat} (hline : line.2 = s.connection) :
    Kept [] (s.readLine line) := by
  obtain ⟨line, connection⟩ := line
  unfold Client.readLine
  cases line with
  | blank => exact h
  | malformed => exact h.beside ((Beside.refl s).emit _)
  | object response =>
    dsimp only
    split
    · exact h.beside ((Beside.refl s).emit _)
    · split
      · exact h
      · rename_i call hfind
        have hmem : call ∈ s.m_pending := List.mem_of_find?_eq_some hfind
        apply Kept.run
        · refine { h with count := fun n => ?_, ids := fun c hc => ?_, here := fun c hc => ?_ }
          · have hmoved := numbers_perm (find_perm hfind) n
            rw [h.count n, hmoved]
            show (s.ran.map Prod.fst).count n + (_ + _) + s.drained.count n + 0 =
              (s.ran.map Prod.fst).count n + (numbers (s.m_pending.eraseP _)).count n + s.drained.count n + _
            omega
          · exact h.ids c (List.mem_of_mem_eraseP hc)
          · exact h.here c (List.mem_of_mem_eraseP hc)
        · exact ⟨rfl, hline.trans (h.here call hmem).symm⟩

theorem readLine_idle (h : s.Idle) (line : Line D × Nat) : (s.readLine line).Idle := by
  obtain ⟨line, connection⟩ := line
  unfold Client.readLine
  cases line with
  | blank => exact h
  | malformed => exact h
  | object response =>
    dsimp only
    split
    · exact h
    · split
      · exact h
      · rename_i call hfind
        apply run_idle
        intro hs
        have hnone : s.m_pending = [] := h hs
        simp [hnone] at hfind

theorem readLine_owned_iff (h : s.Owned) (line : Line D × Nat) :
    (s.readLine line).Owned ↔ s.own_line line = true := by
  obtain ⟨line, connection⟩ := line
  unfold Client.readLine Client.own_line
  cases line with
  | blank => exact iff_of_true h rfl
  | malformed => exact iff_of_true h rfl
  | object response =>
    dsimp only
    cases is_event response with
    | true => exact iff_of_true h rfl
    | false =>
      rw [if_neg Bool.false_ne_true, Bool.false_or]
      cases s.m_pending.find? (·.id == reply_id response) with
      | none => exact iff_of_true h rfl
      | some call =>
        have htaken : Owned { s with m_pending := s.m_pending.eraseP (·.id == reply_id response) } := h
        exact run_owned_iff htaken call (.reply response call connection)

/-! ## Runs -/

/-- Callbacks are accounted for, and none is left pending without a connection. -/
structure Inv (s : Client D) : Prop where
  kept : Kept [] s
  idle : s.Idle

theorem step_inv {a : Act D} (h : s.Inv) (ha : s.step a = some s') : s'.Inv := by
  rcases step_cases ha with ⟨hd, -⟩ | ⟨line, buffer, hbuffer, rfl, -⟩
  · exact ⟨did_kept h.kept h.idle hd, did_idle h.idle hd⟩
  · have hreceived := h.kept.received
    rw [hbuffer] at hreceived
    have htaken : Inv { s with buffer := buffer } :=
      ⟨{ h.kept with received := fun l hl => hreceived l (List.mem_cons_of_mem _ hl) }, h.idle⟩
    exact ⟨htaken.kept.readLine (hreceived line List.mem_cons_self), readLine_idle htaken.idle line⟩

theorem step_own_iff {a : Act D} (h : s.Owned) (ha : s.step a = some s') : s'.Owned ↔ s.own a = true := by
  rcases step_cases ha with ⟨hd, hown⟩ | ⟨line, buffer, hbuffer, rfl, hown⟩
  · exact iff_of_true (did_owned h hd) hown
  · have htaken : Owned { s with buffer := buffer } := h
    rw [hown]
    exact readLine_owned_iff htaken line

omit [Doubles D] [QtJson D] in
theorem init_inv : Inv ({} : Client D) where
  kept := ⟨fun _ => rfl, fun _ => Nat.zero_le _, fun n hn => (by cases hn), fun c hc => (by cases hc),
    fun c hc => (by cases hc), fun l hl => (by cases hl), fun e he => (by cases he)⟩
  idle := fun _ => rfl

theorem Inv.sound_iff (h : s.Inv) : s.Sound ↔ s.Owned := by
  have hkept : ∀ n ∈ s.given, n ∈ s.ran.map Prod.fst ∨ n ∈ numbers s.m_pending ∨ n ∈ s.drained := by
    intro n hn
    have hcount := h.kept.count n
    have hpos : 0 < s.given.count n := List.count_pos_iff.2 hn
    have hnil : (numbers []).count n = 0 := rfl
    rw [← List.count_pos_iff, ← List.count_pos_iff, ← List.count_pos_iff]
    omega
  refine ⟨fun hs => hs.own, fun ho => ⟨?_, hkept, h.kept.found, ho, fun hs => ⟨h.idle (.inl hs), ?_⟩⟩⟩
  · refine List.nodup_iff_count.2 fun n => ?_
    have hle := h.kept.given_le n
    have hcount := h.kept.count n
    omega
  · intro hstack n hn
    have hdrained : s.drained = [] := by
      unfold drained
      rw [hstack]
      rfl
    have hn := hkept n hn
    rw [hdrained, h.idle (.inl hs)] at hn
    rcases hn with hn | hn | hn
    · exact hn
    · cases hn
    · cases hn

/-- In a run of the client every callback runs once if and only if no line is read whose
`id` converts to that of a pending request that it is not. -/
theorem callbacks_once_iff (as : List (Act D)) (t : Client D) (h : Run step {} as t) :
    (∀ pre post s, as = pre ++ post → Run step {} pre s → s.Sound) ↔ Meets step (fun s a => s.own a = true) {} as := by
  apply h.always_iff_meets Inv Sound init_inv
  · exact init_inv.sound_iff.2 fun e he => by cases he
  · exact fun s a s' hi ha => step_inv hi ha
  · intro s a s' hi hs ha
    rw [(step_inv hi ha).sound_iff]
    exact step_own_iff hs.own ha

end Replies

/-- A device is connected. -/
def connecting : List (Act Rat) := [.connectToDevice, .advance 0, .connected, .return_user]

/-- Two requests, a reply to the second, which sends a third, and the same reply again;
then the connection is closed. -/
def two_requests : List (Act Rat) :=
  connecting ++ [.sendRequest "get-status" [] true, .sendRequest "set-stream" [("on", .bool true)] true,
    .receive (.object [("id", .int 2), ("result", .object [])]), .receive (.object [("id", .int 2)]),
    .receive (.object [("id", .null)]), .readyRead, .advance 0, .sendRequest "get-status" [] true, .return_user,
    .advance 0, .advance 0, .advance 0, .disconnected, .advance 1, .return_user, .advance 0, .return_user,
    .advance 0, .advance 0, .return_user]

theorem callbacks_once_two : ∃ t, Run step {} two_requests t ∧ t.ran.map Prod.fst = [1, 2, 0] ∧
    ∀ pre post s, two_requests = pre ++ post → Run step {} pre s → s.Sound := by
  have hrun : ((exec step {} two_requests).map fun t => t.ran.map Prod.fst) = some [1, 2, 0] := by decide +kernel
  obtain ⟨t, ht, hran⟩ := Option.map_eq_some_iff.1 hrun
  refine ⟨t, run_of_exec ht, hran, ?_⟩
  exact (callbacks_once_iff two_requests t (run_of_exec ht)).2 (meets_of_checks (by decide +kernel))

/-- The request 1, and a reply with an `id` between 1 and 2. -/
def half_reply : List (Act Rat) :=
  connecting ++ [.sendRequest "get-status" [] true,
    .receive (.object [("id", .double (3 / 2)), ("result", .object [])]), .readyRead, .advance 0]

theorem half_reply_taken : ¬ ∀ (as : List (Act Rat)) t, Run step {} as t → t.Sound := by
  intro hall
  have hrun : ((exec step {} half_reply).map fun t => t.ran.all fun e => e.2.own) = some false := by decide +kernel
  obtain ⟨t, ht, htaken⟩ := Option.map_eq_some_iff.1 hrun
  have hown : (t.ran.all fun e => e.2.own) = true := List.all_eq_true.2 (hall half_reply t (run_of_exec ht)).own
  rw [hown] at htaken
  cases htaken

end Client

end CameraStreamer.ControlClient
