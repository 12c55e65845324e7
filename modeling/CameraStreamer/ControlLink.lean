import Mathlib.Data.List.Induction
import CameraStreamer.ControlServer
import CameraStreamer.ControlClient
/-!
# A control request, from its call to its callback

The host's `ControlClient` and the device's `ControlServer` on the two ends of the
host's connections, among other clients. A request that is written is read by the
device later or never, and so is a reply by the host; connections that the host has
given up are still read by the device.
-/

namespace CameraStreamer.ControlLink
open Runs Json JsonGenerator Control ControlClient

/-- A request that was written. -/
structure Sent (D : Type) where
  /-- The call of `sendRequest`. -/
  number : Nat
  id : Int
  method : String
  params : Members D

structure Link (D W : Type) where
  client : Client D := {}
  service : Service W
  /-- The host's connection that one of the device is the other end of. -/
  owner : Nat → Option Nat := fun _ => none
  /-- What was written to a connection of the host. -/
  sent : Nat → List (Sent D) := fun _ => []
  /-- How many requests the device has read from one of its connections, and of how many
  of its writes the host has the line. -/
  read : Nat → Nat := fun _ => 0
  heard : Nat → Nat := fun _ => 0

inductive Act (D W : Type) where
  /-- Any event or call of the host, other than that a line comes. -/
  | host (a : ControlClient.Act D)
  /-- A line of the device reaches the host. -/
  | receive (conn : Nat)
  /-- The device accepts a connection of the host. -/
  | accept (connection : Nat) (tls_ok : Bool)
  /-- It reads a request of the host. -/
  | request (conn : Nat) (took : Nat)
  /-- Anything else of the device: other clients, broadcasts, the end of a connection or of the server. -/
  | device (a : Service.Act W)

/-- One more at this place. -/
def bump (f : Nat → Nat) (c : Nat) : Nat → Nat := fun d => if d = c then f d + 1 else f d

section
variable {D W : Type} [Doubles D] [JsonGenerator D] [QtJson D] (parse : JsonParser D) (registry : ControlRegistry D W)
  (toJson : Members D → Bytes) (line : Bytes → Line D)

/-- The line of a request. -/
def text (r : Sent D) : Bytes := toJson (request r.id r.method r.params)

namespace Link

/-- The host goes on, and may have written a request. -/
def follow (s : Link D W) (a : ControlClient.Act D) (client : Client D) : Link D W :=
  { s with
    client := client
    sent := match a with
      | .sendRequest method params _ =>
        if s.client.isConnected then
          fun k => if k = s.client.connection then
            s.sent k ++ [⟨s.client.calls, s.client.m_nextId, method, params⟩]
          else s.sent k
        else s.sent
      | _ => s.sent }

/-- A line that is broadcast is one line, and no reply to the host. -/
def is_broadcast (b : Bytes) : Bool :=
  !b.contains 10 && match line (Service.terminated b) with
    | .object response => is_event response
    | _ => true

/-- What the device does on its own. -/
def own (s : Link D W) : Service.Act W → Bool
  | .on_line c (some _) _ => (s.owner c).isNone
  | .broadcast b _ => is_broadcast line b
  | _ => true

def step (s : Link D W) : Act D W → Option (Link D W)
  | .host a => match a with
    | .receive _ => none
    | a => (s.client.step a).map (s.follow a)
  | .receive c =>
    if s.owner c = some s.client.connection then
      (s.service.sockets c).sent[s.heard c]?.bind fun b =>
        if b.getLast? = some 10 then
          (s.client.step (.receive (line b))).map fun client => { s with client := client, heard := bump s.heard c }
        else none
    else none
  | .accept k tls_ok =>
    if k ≤ s.client.connection ∧ ∀ c < s.service.accepted, s.owner c ≠ some k then
      (s.service.step parse registry (.accept tls_ok)).map fun service =>
        { s with
          service := service
          owner := if tls_ok then fun c => if c = s.service.accepted then some k else s.owner c else s.owner }
    else none
  | .request c took => (s.owner c).bind fun k => (s.sent k)[s.read c]?.bind fun r =>
    (s.service.step parse registry (.on_line c (some (text toJson r)) took)).map fun service =>
      { s with service := service, read := bump s.read c }
  | .device a =>
    if s.own line a then (s.service.step parse registry a).map fun service => { s with service := service } else none

end Link

/-! ## What each end makes of the other's text -/

/-- The parameters that a handler is given. -/
def params_of (members : Members D) : Option (Members D) :=
  match members.lookup "params" with
  | some (.object p) => some p
  | _ => none

/-- What the device does with a request: the result, and the state after it. -/
def served (method : String) (params : Option (Members D)) (w : W) : HandlerResult D × W :=
  match registry.find method with
  | none => (.error ⟨kUnknownMethod, "unknown method '" ++ method ++ "'"⟩, w)
  | some handler => handler params w

/-- The device reads the request as it was written, and its handler is given `params`. -/
structure Reads (r : Sent D) (params : Option (Members D)) : Prop where
  line : c_str (text toJson r) ≠ []
  parses : ∃ members, parse (c_str (text toJson r)) = .ok (some (.object members)) ∧
    members.lookup "id" = some (.int r.id) ∧ members.lookup "method" = some (.string r.method) ∧
    params_of members = params

/-- The host reads the reply as one to its request. -/
def Hears (r : Sent D) (res : HandlerResult D) : Prop :=
  ∃ response, line (to_data (envelope (.int r.id) res) ++ [10]) = .object response ∧
    is_event response = false ∧ reply_id response = r.id

omit [Doubles D] [JsonGenerator D] in
theorem outcome_served {r : Sent D} {params : Option (Members D)} (h : Reads parse toJson r params) (w : W) :
    outcome parse registry (c_str (text toJson r)) w =
      (.int r.id, served registry r.method params w) := by
  obtain ⟨members, hparse, hid, hmethod, hparams⟩ := h.parses
  unfold outcome served
  rw [hparse, ← hparams]
  dsimp only
  rw [hid, hmethod]
  dsimp only
  cases registry.find r.method with
  | none => rfl
  | some handler => rfl

omit [Doubles D] in
/-- What the device writes for a request. -/
theorem dispatch_served {r : Sent D} {params : Option (Members D)} (h : Reads parse toJson r params) (w : W) :
    dispatch_request parse registry (text toJson r) w =
      (to_data (envelope (.int r.id) (served registry r.method params w).1) ++ [10],
        (served registry r.method params w).2) := by
  rw [dispatch_line _ _ h.line, outcome_served parse registry toJson h]

end

/-! ## The host's steps -/

section Host
variable {D : Type} {s t : Client D}

/-- No request is sent, no line comes and no reply is taken. -/
structure Quiet (s t : Client D) : Prop where
  buffer : ∀ l ∈ t.buffer, l ∈ s.buffer
  nextId : t.m_nextId = s.m_nextId
  connection : s.connection ≤ t.connection
  ran : ∀ e ∈ t.ran, e ∈ s.ran ∨ ∃ message, e.2 = .failed message

/-- What is pending stays, with the lines that have come, or nothing is pending. -/
def Keeps (s t : Client D) : Prop := t.m_pending = s.m_pending ∧ t.buffer = s.buffer ∨ t.m_pending = []

theorem Quiet.refl (s : Client D) : Quiet s s := ⟨fun _ hl => hl, rfl, Nat.le_refl _, fun _ he => .inl he⟩

theorem Keeps.refl (s : Client D) : Keeps s s := .inl ⟨rfl, rfl⟩

theorem Keeps.sub (h : Keeps s t) : ∀ call ∈ t.m_pending, call ∈ s.m_pending := by
  intro call hc
  rcases h with ⟨hpending, -⟩ | hnone
  · rwa [← hpending]
  · rw [hnone] at hc
    cases hc

theorem Quiet.run (h : Quiet s t) (call : Call) (message : String) : Quiet s (t.run call (.failed message)) := by
  unfold Client.run
  split
  · refine { h with ran := fun e he => ?_ }
    rcases List.mem_append.1 he with he | he
    · exact h.ran e he
    · rw [List.mem_singleton.1 he]
      exact .inr ⟨message, rfl⟩
  · exact h

theorem Keeps.run (h : Keeps s t) (call : Call) (outcome : ControlClient.Outcome D) : Keeps s (t.run call outcome) := by
  unfold Client.run
  split
  · exact h
  · exact h

theorem Quiet.fail (h : Quiet s t) (message : String) : Quiet s (t.failAllPending message) := by
  unfold Client.failAllPending
  split
  · exact h
  · exact { h with }

theorem Keeps.fail (s t : Client D) (message : String) : Keeps s (t.failAllPending message) :=
  .inr (Client.failAllPending_pending t message)

theorem disconnect_quiet (h : Quiet s t) (hk : Keeps s t) :
    Quiet s t.disconnectFromDevice ∧ Keeps s t.disconnectFromDevice := by
  unfold Client.disconnectFromDevice
  split
  · exact ⟨h, hk⟩
  · have haborted : Quiet s { t with
        socket := .unconnected
        buffer := []
        stack := .disconnecting t.isConnected :: t.stack } := { h with buffer := fun l hl => by cases hl }
    exact ⟨haborted.fail _, .fail _ _ _⟩

theorem onError_quiet (h : Quiet s t) (message : String) :
    Quiet s (t.onError message) ∧ Keeps s (t.onError message) := by
  have hpushed : Quiet s { t with stack := .emitting (.errorOccurred message) :: t.stack } := { h with }
  exact ⟨hpushed.fail message, .fail _ _ _⟩

theorem act_quiet [QtJson D] {a : ControlClient.Act D} (ha : s.act a = some t) (hreceive : ∀ l, a ≠ .receive l)
    (hsend : ∀ method params callback, a ≠ .sendRequest method params callback) : Quiet s t ∧ Keeps s t := by
  cases a with
  | sendRequest method params callback => exact absurd rfl (hsend method params callback)
  | receive l => exact absurd rfl (hreceive l)
  | connectToDevice =>
    cases ha
    have hpushed : Quiet s { s with stack := .connecting :: s.stack } := { Quiet.refl s with }
    exact disconnect_quiet hpushed (.refl s)
  | disconnectFromDevice =>
    cases ha
    exact disconnect_quiet (.refl s) (.refl s)
  | connected =>
    obtain ⟨-, ha⟩ := Option.ite_none_right_eq_some.1 ha
    cases ha
    exact ⟨{ Quiet.refl s with }, .refl s⟩
  | readyRead =>
    cases ha
    exact ⟨{ Quiet.refl s with }, .refl s⟩
  | closing =>
    obtain ⟨-, ha⟩ := Option.ite_none_right_eq_some.1 ha
    cases ha
    exact ⟨{ Quiet.refl s with }, .refl s⟩
  | disconnected =>
    obtain ⟨-, ha⟩ := Option.ite_none_left_eq_some.1 ha
    cases ha
    have hgone : Quiet s { s with socket := .unconnected, stack := .emitting .disconnected :: s.stack } :=
      { Quiet.refl s with }
    exact ⟨hgone.fail _, .fail _ _ _⟩
  | errorOccurred ends message =>
    cases ha
    cases ends with
    | false => exact onError_quiet (.refl s) message
    | true =>
      have hgone : Quiet s { s with socket := .unconnected } := { Quiet.refl s with }
      exact onError_quiet hgone message
  | return_user =>
    dsimp only [Client.act] at ha
    split at ha
    · cases ha
      exact ⟨{ Quiet.refl s with }, .refl s⟩
    · cases ha
  | advance i => cases ha

variable [Doubles D] [QtJson D]

/-- A function goes on; it may read a line. -/
theorem advance_quiet {i : Nat} (hidle : s.Idle) (ha : s.advance i = some t) :
    Quiet s t ∧ Keeps s t ∨
      ∃ line buffer, s.buffer = line :: buffer ∧ t = { s with buffer := buffer }.readLine line := by
  unfold Client.advance at ha
  split at ha
  · cases ha
  · cases ha
  · split at ha
    · cases ha
      exact .inl ⟨{ Quiet.refl s with }, .refl s⟩
    · rename_i line buffer hbuffer
      cases ha
      exact .inr ⟨line, buffer, hbuffer, rfl⟩
  · cases ha
    exact .inl ⟨{ Quiet.refl s with }, .refl s⟩
  · rename_i message pending rest hne hstack
    obtain ⟨call, -, rfl⟩ := Option.map_eq_some_iff.1 ha
    have htaken : Quiet s { s with stack := .failing message (pending.eraseIdx i) :: rest } := { Quiet.refl s with }
    have hkept : Keeps s { s with stack := .failing message (pending.eraseIdx i) :: rest } := .refl s
    exact .inl ⟨htaken.run call message, hkept.run call _⟩
  · cases ha
    exact .inl ⟨{ Quiet.refl s with }, .refl s⟩
  · cases ha
    refine .inl ?_
    split
    · exact ⟨{ Quiet.refl s with }, .refl s⟩
    · exact ⟨{ Quiet.refl s with }, .refl s⟩
  · rename_i rest hstack
    cases ha
    have hpop : Quiet s { s with stack := rest } := { Quiet.refl s with }
    unfold Client.connectToHost
    split
    · rename_i hsocket
      exact .inl ⟨{ Quiet.refl s with
        buffer := fun l hl => by cases hl
        connection := Nat.le_succ _ }, .inr (hidle (.inl hsocket))⟩
    · exact .inl (onError_quiet hpop _)

theorem step_quiet {a : ControlClient.Act D} (hidle : s.Idle) (ha : s.step a = some t) (hreceive : ∀ l, a ≠ .receive l)
    (hsend : ∀ method params callback, a ≠ .sendRequest method params callback) :
    Quiet s t ∧ Keeps s t ∨
      ∃ line buffer, s.buffer = line :: buffer ∧ t = { s with buffer := buffer }.readLine line := by
  cases a with
  | advance i => exact advance_quiet hidle ha
  | sendRequest method params callback => exact absurd rfl (hsend method params callback)
  | receive l => exact absurd rfl (hreceive l)
  | connectToDevice | disconnectFromDevice | connected | readyRead | closing | disconnected | errorOccurred
  | return_user =>
    obtain ⟨-, ha⟩ := Option.ite_none_right_eq_some.1 ha
    exact .inl (act_quiet ha (by simp) (by simp))

theorem send_cases {method : String} {params : Members D} {callback : Bool}
    (ha : s.step (.sendRequest method params callback) = some t) :
    s.isConnected = false ∧ Quiet s t ∧ Keeps s t ∨
      s.isConnected = true ∧ t.m_nextId = s.m_nextId + 1 ∧ t.connection = s.connection ∧ t.buffer = s.buffer ∧
        t.ran = s.ran ∧ t.m_pending = s.m_pending.filter (·.id != s.m_nextId) ++
          [⟨s.calls, s.m_nextId, s.connection, callback⟩] := by
  obtain ⟨-, ha⟩ := Option.ite_none_right_eq_some.1 ha
  cases ha
  unfold Client.sendRequest
  dsimp only
  have hsame : (s.called callback).isConnected = s.isConnected := rfl
  rw [hsame]
  cases hconnected : s.isConnected with
  | false =>
    have hcalled : Quiet s (s.called callback) := { Quiet.refl s with }
    have hkept : Keeps s (s.called callback) := .refl s
    exact .inl ⟨rfl, hcalled.run _ _, hkept.run _ _⟩
  | true =>
    exact .inr ⟨rfl, rfl, rfl, rfl, rfl, rfl⟩

theorem receive_eq {l : Line D} (ha : s.step (.receive l) = some t) :
    t = { s with buffer := s.buffer ++ [(l, s.connection)] } := by
  obtain ⟨-, ha⟩ := Option.ite_none_right_eq_some.1 ha
  obtain ⟨-, ha⟩ := Option.ite_none_right_eq_some.1 ha
  cases ha
  rfl

/-- A line that is read takes no pending request, or the one that its `id` names. -/
theorem readLine_cases (s : Client D) (l : Line D × Nat) :
    (s.readLine l).buffer = s.buffer ∧ (s.readLine l).m_nextId = s.m_nextId ∧
      (s.readLine l).connection = s.connection ∧
      ((s.readLine l).m_pending = s.m_pending ∧ (s.readLine l).ran = s.ran ∧
          (∀ response, l.1 = .object response → is_event response = false →
            s.m_pending.find? (·.id == reply_id response) = none) ∨
        ∃ response call, l.1 = .object response ∧ is_event response = false ∧
          s.m_pending.find? (·.id == reply_id response) = some call ∧
          (s.readLine l).m_pending = s.m_pending.eraseP (·.id == reply_id response) ∧
          ∀ e ∈ (s.readLine l).ran, e ∈ s.ran ∨ e = (call.number, .reply response call l.2)) := by
  obtain ⟨l, k⟩ := l
  unfold Client.readLine
  cases l with
  | blank => exact ⟨rfl, rfl, rfl, .inl ⟨rfl, rfl, fun r hr => by cases hr⟩⟩
  | malformed => exact ⟨rfl, rfl, rfl, .inl ⟨rfl, rfl, fun r hr => by cases hr⟩⟩
  | object response =>
    dsimp only
    cases hevent : is_event response with
    | true =>
      refine ⟨rfl, rfl, rfl, .inl ⟨rfl, rfl, fun r hr hne => ?_⟩⟩
      cases hr
      rw [hevent] at hne
      cases hne
    | false =>
      rw [if_neg Bool.false_ne_true]
      cases hfind : s.m_pending.find? (·.id == reply_id response) with
      | none =>
        refine ⟨rfl, rfl, rfl, .inl ⟨rfl, rfl, fun r hr _ => ?_⟩⟩
        cases hr
        exact hfind
      | some call =>
        dsimp only
        unfold Client.run
        split
        · refine ⟨rfl, rfl, rfl, .inr ⟨response, call, rfl, hevent, hfind, rfl, fun e he => ?_⟩⟩
          exact (List.mem_append.1 he).imp_right List.mem_singleton.1
        · exact ⟨rfl, rfl, rfl, .inr ⟨response, call, rfl, hevent, hfind, rfl, fun e he => .inl he⟩⟩

end Host

/-! ## What the device writes -/

section Device
variable {D W : Type} [JsonGenerator D] {parse : JsonParser D} {registry : ControlRegistry D W}

/-- What a connection is due was a reply to one of its requests, or was broadcast. -/
theorem mem_due {log : List (Event W)} {c : Nat} {b : Bytes} (hb : b ∈ (Service.account parse registry log c).due) :
    (∃ l w, .request c l w ∈ log ∧ b = (dispatch_request parse registry l w).1 ∧ b ≠ []) ∨
      ∃ l, .broadcast l ∈ log ∧ b = Service.terminated l := by
  induction log using List.reverseRecOn with
  | nil => cases hb
  | append_singleton log e ih =>
    have hold : b ∈ (Service.account parse registry log c).due →
        (∃ l w, .request c l w ∈ log ++ [e] ∧ b = (dispatch_request parse registry l w).1 ∧ b ≠ []) ∨
          ∃ l, .broadcast l ∈ log ++ [e] ∧ b = Service.terminated l := by
      intro hb
      rcases ih hb with ⟨l, w, hl, hrest⟩ | ⟨l, hl, hrest⟩
      · exact .inl ⟨l, w, List.mem_append_left _ hl, hrest⟩
      · exact .inr ⟨l, List.mem_append_left _ hl, hrest⟩
    rw [Service.account_snoc] at hb
    unfold Service.Account.add at hb
    cases e with
    | accepted d =>
      dsimp only at hb
      split at hb
      · exact hold hb
      · exact hold hb
    | request d l w =>
      dsimp only at hb
      split at hb
      · rename_i hd
        obtain ⟨rfl, hne⟩ := hd
        rcases List.mem_append.1 hb with hb | hb
        · exact hold hb
        · rw [List.mem_singleton.1 hb]
          exact .inl ⟨l, w, List.mem_append_right _ (List.mem_singleton_self _), rfl, hne⟩
      · exact hold hb
    | broadcast l =>
      dsimp only at hb
      split at hb
      · rcases List.mem_append.1 hb with hb | hb
        · exact hold hb
        · rw [List.mem_singleton.1 hb]
          exact .inr ⟨l, List.mem_append_right _ (List.mem_singleton_self _), rfl⟩
      · exact hold hb
    | closed d =>
      dsimp only at hb
      split at hb
      · exact hold hb
      · exact hold hb
    | destroyed => exact hold hb

omit [JsonGenerator D] in
/-- A write of which a whole line came was taken in full. -/
theorem whole_line {due : List Bytes} {s : Control.Socket} (h : Service.Took due s) (hlines : ∀ b ∈ due, OneLine b)
    {i : Nat} {b : Bytes} (hb : s.sent[i]? = some b) (hend : b.getLast? = some 10) : due[i]? = some b := by
  cases h with
  | all => exact hb
  | @broke before after out took hshort =>
    dsimp only at hb
    rcases Nat.lt_or_ge i before.length with hi | hi
    · rw [List.getElem?_append_left hi] at hb ⊢
      exact hb
    · rw [List.getElem?_append_right hi] at hb
      obtain ⟨hzero, hget⟩ := List.getElem?_eq_some_iff.1 hb
      obtain ⟨text, rfl, htext⟩ := hlines out (List.mem_append_right _ List.mem_cons_self)
      have hcut : (text ++ [10]).take took = text.take took := by
        rw [List.length_append, List.length_singleton] at hshort
        exact List.take_append_of_le_length (Nat.le_of_lt_succ hshort)
      rw [List.length_singleton, Nat.lt_one_iff] at hzero
      simp only [hzero, List.getElem_cons_zero, hcut] at hget
      subst hget
      exact absurd (List.mem_of_mem_take (List.mem_of_getLast? hend)) htext

end Device

/-! ## The link -/

namespace Link

section
variable {D W : Type} [JsonGenerator D] [QtJson D]

/-- Each end reads what the other wrote. -/
structure Understood [Doubles D] (parse : JsonParser D) (registry : ControlRegistry D W) (toJson : Members D → Bytes)
    (line : Bytes → Line D) (s : Link D W) : Prop where
  requests : ∀ k, ∀ r ∈ s.sent k, ∃ params, Reads parse toJson r params
  replies : ∀ c k, s.owner c = some k → ∀ r ∈ s.sent k, ∀ w, .request c (text toJson r) w ∈ s.service.log →
    ∀ params, Reads parse toJson r params → Hears line r (served registry r.method params w).1

/-- The response is the device's to this request: it was dispatched for the connection it
was sent on, and the response is the line that this made. -/
def Answers (parse : JsonParser D) (registry : ControlRegistry D W) (toJson : Members D → Bytes)
    (line : Bytes → Line D) (s : Link D W) (k : Nat) (r : Sent D) (response : Members D) : Prop :=
  ∃ c w params, s.owner c = some k ∧ r ∈ s.sent k ∧ .request c (text toJson r) w ∈ s.service.log ∧
    Reads parse toJson r params ∧
    line (to_data (envelope (.int r.id) (served registry r.method params w).1) ++ [10]) = .object response

/-- What is written to a connection of the host, and what the device has read of it. -/
structure Carried (toJson : Members D → Bytes) (s : Link D W) : Prop where
  owned : ∀ c k, s.owner c = some k → c < s.service.accepted ∧ k ≤ s.client.connection
  single : ∀ c c' k, s.owner c = some k → s.owner c' = some k → c = c'
  ids : ∀ k, ∀ r ∈ s.sent k, r.id < s.client.m_nextId
  once : ∀ k, ((s.sent k).map (·.id)).Nodup
  later : ∀ k, s.client.connection < k → s.sent k = []
  unique : ∀ k k', ∀ r ∈ s.sent k, ∀ r' ∈ s.sent k', r.id = r'.id → r = r'
  requests : ∀ c k, s.owner c = some k →
    Service.requests s.service.log c <+: ((s.sent k).take (s.read c)).map (text toJson) ∧
      (c ∈ s.service.conns_ → Service.requests s.service.log c = ((s.sent k).take (s.read c)).map (text toJson))
  read_le : ∀ c k, s.owner c = some k → s.read c ≤ (s.sent k).length
  unread : ∀ c, s.service.accepted ≤ c → s.read c = 0 ∧ s.heard c = 0 ∧ Service.requests s.service.log c = []

/-- What holds whatever the texts are taken for. -/
structure Base (parse : JsonParser D) (registry : ControlRegistry D W) (toJson : Members D → Bytes)
    (line : Bytes → Line D) (s : Link D W) : Prop where
  client : s.client.Inv
  service : s.service.Inv parse registry
  carried : s.Carried toJson
  broadcast : ∀ b, .broadcast b ∈ s.service.log → is_broadcast line b = true
  pending : ∀ call ∈ s.client.m_pending, ∃ r ∈ s.sent call.connection, r.number = call.number ∧ r.id = call.id

/-- The replies that have come, and those that callbacks ran for. -/
structure Told (parse : JsonParser D) (registry : ControlRegistry D W) (toJson : Members D → Bytes)
    (line : Bytes → Line D) (s : Link D W) : Prop where
  buffered : ∀ l ∈ s.client.buffer, ∀ response, l.1 = .object response → is_event response = false →
    ∃ r, Answers parse registry toJson line s l.2 r response
  ran : ∀ e ∈ s.client.ran, ∀ response call k, e.2 = .reply response call k →
    ∃ r, r.number = e.1 ∧ Answers parse registry toJson line s k r response

variable {parse : JsonParser D} {registry : ControlRegistry D W} {toJson : Members D → Bytes}
  {line : Bytes → Line D} {s s' : Link D W}

/-- Nothing that was said is forgotten. -/
structure Grows (s s' : Link D W) : Prop where
  sent : ∀ k, ∀ r ∈ s.sent k, r ∈ s'.sent k
  log : ∀ e ∈ s.service.log, e ∈ s'.service.log
  owner : ∀ c k, s.owner c = some k → s'.owner c = some k

theorem Understood.before [Doubles D] (h : s'.Understood parse registry toJson line) (hg : Grows s s') :
    s.Understood parse registry toJson line where
  requests k r hr := h.requests k r (hg.sent k r hr)
  replies c k hc r hr w hw := h.replies c k (hg.owner c k hc) r (hg.sent k r hr) w (hg.log _ hw)

theorem Answers.after {k : Nat} {r : Sent D} {response : Members D}
    (h : s.Answers parse registry toJson line k r response) (hg : Grows s s') :
    s'.Answers parse registry toJson line k r response := by
  obtain ⟨c, w, params, hc, hr, hw, hreads, hline⟩ := h
  exact ⟨c, w, params, hg.owner c k hc, hg.sent k r hr, hg.log _ hw, hreads, hline⟩

/-! ### The host goes on -/

omit [JsonGenerator D] [QtJson D] in
theorem follow_grows (s : Link D W) (a : ControlClient.Act D) (client : Client D) : Grows s (s.follow a client) := by
  refine ⟨fun k r hr => ?_, fun e he => he, fun c k hc => hc⟩
  unfold follow
  cases a with
  | sendRequest method params callback =>
    dsimp only
    split
    · dsimp only
      split
      · exact List.mem_append_left _ hr
      · exact hr
    · exact hr
  | connectToDevice | disconnectFromDevice | connected | receive | readyRead | closing | disconnected | errorOccurred
  | return_user | advance => exact hr

omit [JsonGenerator D] [QtJson D] in
theorem follow_sent (s : Link D W) (method : String) (params : Members D) (callback : Bool) (client : Client D)
    (hconnected : s.client.isConnected = true) (k : Nat) :
    (s.follow (.sendRequest method params callback) client).sent k =
      s.sent k ++ if k = s.client.connection then [⟨s.client.calls, s.client.m_nextId, method, params⟩] else [] := by
  unfold follow
  dsimp only
  rw [if_pos hconnected]
  split
  · rfl
  · rw [List.append_nil]

/-- The host has written nothing. -/
theorem Base.quiet (h : s.Base parse registry toJson line) {client : Client D} (hi : client.Inv)
    (hnext : client.m_nextId = s.client.m_nextId) (hconnection : s.client.connection ≤ client.connection)
    (hpending : ∀ call ∈ client.m_pending, call ∈ s.client.m_pending) :
    Base parse registry toJson line { s with client := client } := by
  refine ⟨hi, h.service, ?_, h.broadcast, fun call hc => h.pending call (hpending call hc)⟩
  refine { h.carried with owned := fun c k hc => ?_, ids := fun k r hr => ?_, later := fun k hk => ?_ }
  · exact ⟨(h.carried.owned c k hc).1, (h.carried.owned c k hc).2.trans hconnection⟩
  · rw [hnext]
    exact h.carried.ids k r hr
  · exact h.carried.later k (hconnection.trans_lt hk)

/-- A request is written. -/
theorem Base.send [Doubles D] (h : s.Base parse registry toJson line) {method : String} {params : Members D}
    {callback : Bool} {client : Client D} (ha : s.client.step (.sendRequest method params callback) = some client) :
    (s.follow (.sendRequest method params callback) client).Base parse registry toJson line := by
  have hi := ControlClient.Client.step_inv h.client ha
  rcases send_cases ha with ⟨hconnected, hq, hk⟩ | ⟨hconnected, hnext, hconnection, -, -, hpending⟩
  · have hunsent : s.follow (.sendRequest method params callback) client = { s with client := client } := by
      unfold follow
      dsimp only
      rw [hconnected, if_neg Bool.false_ne_true]
    rw [hunsent]
    exact h.quiet hi hq.nextId hq.connection hk.sub
  · have hg := follow_grows s (.sendRequest method params callback) client
    have hsent := follow_sent s method params callback client hconnected
    have hnew : ∀ k r, r ∈ (s.follow (.sendRequest method params callback) client).sent k →
        r ∈ s.sent k ∨ r = ⟨s.client.calls, s.client.m_nextId, method, params⟩ := by
      intro k r hr
      rw [hsent k] at hr
      rcases List.mem_append.1 hr with hr | hr
      · exact .inl hr
      · split at hr
        · exact .inr (List.mem_singleton.1 hr)
        · cases hr
    refine ⟨hi, h.service, ?_, h.broadcast, fun call hc => ?_⟩
    · refine ⟨fun c k hc => ?_, h.carried.single, fun k r hr => ?_, fun k => ?_, fun k hk => ?_,
        fun k k' r hr r' hr' hid => ?_,
        fun c k hc => ?_, fun c k hc => ?_, h.carried.unread⟩
      · obtain ⟨hlt, hle⟩ := h.carried.owned c k hc
        exact ⟨hlt, hle.trans_eq hconnection.symm⟩
      · show r.id < client.m_nextId
        rw [hnext]
        rcases hnew k r hr with hr | rfl
        · exact (h.carried.ids k r hr).trans (Int.lt_succ _)
        · exact Int.lt_succ _
      · rw [hsent k, List.map_append]
        refine (h.carried.once k).append ?_ ?_
        · split
          · exact List.nodup_singleton _
          · exact .nil
        · intro id hid hid'
          obtain ⟨r, hr, rfl⟩ := List.mem_map.1 hid
          split at hid'
          · exact absurd (List.mem_singleton.1 hid') (h.carried.ids k r hr).ne
          · cases hid'
      · have hk' : s.client.connection < k := hconnection ▸ hk
        rw [hsent k, h.carried.later k hk', if_neg hk'.ne']
        rfl
      · rcases hnew k r hr with hr | rfl
        · rcases hnew k' r' hr' with hr' | rfl
          · exact h.carried.unique k k' r hr r' hr' hid
          · exact absurd hid (h.carried.ids k r hr).ne
        · rcases hnew k' r' hr' with hr' | rfl
          · exact absurd hid.symm (h.carried.ids k' r' hr').ne
          · rfl
      · have htake : ((s.follow (.sendRequest method params callback) client).sent k).take (s.read c) =
            (s.sent k).take (s.read c) := by
          rw [hsent k]
          exact List.take_append_of_le_length (h.carried.read_le c k hc)
        have hrequests := h.carried.requests c k hc
        rw [← htake] at hrequests
        exact hrequests
      · rw [hsent k, List.length_append]
        exact (h.carried.read_le c k hc).trans (Nat.le_add_right _ _)
    · have hc' : call ∈ client.m_pending := hc
      rw [hpending] at hc'
      rcases List.mem_append.1 hc' with hc' | hc'
      · obtain ⟨r, hr, hnumber⟩ := h.pending call (List.mem_of_mem_filter hc')
        exact ⟨r, hg.sent _ r hr, hnumber⟩
      · obtain rfl := List.mem_singleton.1 hc'
        refine ⟨⟨s.client.calls, s.client.m_nextId, method, params⟩, ?_, rfl, rfl⟩
        rw [hsent, if_pos rfl]
        exact List.mem_append_right _ (List.mem_singleton_self _)

/-! ### The device goes on -/

/-- The device has made a step, and may have read a request or accepted the host. -/
theorem Base.serve (h : s.Base parse registry toJson line) {a : Service.Act W}
    (ha : s.service.step parse registry a = some s'.service) (hclient : s'.client = s.client)
    (hsent : s'.sent = s.sent) (hcarried : s'.Carried toJson)
    (hb : ∀ b took, a = .broadcast b took → is_broadcast line b = true) : s'.Base parse registry toJson line := by
  refine ⟨hclient ▸ h.client, Service.step_inv h.service ha, hcarried, fun b hb' => ?_, fun call hc => ?_⟩
  · rw [(Service.step_log h.service ha).1] at hb'
    rcases List.mem_append.1 hb' with hb' | hb'
    · exact h.broadcast b hb'
    · obtain ⟨took, rfl⟩ := Service.broadcast_added hb'
      exact hb b took rfl
  · rw [hsent]
    exact h.pending call (hclient ▸ hc)

omit [QtJson D] in
theorem grows_log {a : Service.Act W} {service : Service W} (h : s.service.Inv parse registry)
    (ha : s.service.step parse registry a = some service) : ∀ e ∈ s.service.log, e ∈ service.log := by
  intro e he
  rw [(Service.step_log h ha).1]
  exact List.mem_append_left _ he

theorem Base.accept (h : s.Base parse registry toJson line) {k : Nat} {tls_ok : Bool} {service : Service W}
    (hk : k ≤ s.client.connection) (hnew : ∀ c < s.service.accepted, s.owner c ≠ some k)
    (ha : s.service.step parse registry (.accept tls_ok) = some service) :
    Base parse registry toJson line { s with
      service := service
      owner := if tls_ok then fun c => if c = s.service.accepted then some k else s.owner c else s.owner } := by
  have hi := Service.step_inv h.service ha
  obtain ⟨hlog, hle, hconns⟩ := Service.step_log h.service ha
  have hrequests : ∀ c, Service.requests service.log c = Service.requests s.service.log c := by
    intro c
    rw [Service.step_requests h.service ha c]
    exact (congrArg _ (ite_self _)).trans (List.append_nil _)
  cases tls_ok with
  | false =>
    have hsame : service = s.service := by
      obtain ⟨_, -, hs⟩ := Option.map_eq_some_iff.1 ha
      exact hs.symm
    subst hsame
    exact h
  | true =>
    have haccepted : service.accepted = s.service.accepted + 1 := by
      obtain ⟨_, -, rfl⟩ := Option.map_eq_some_iff.1 ha
      rfl
    refine h.serve ha rfl rfl ?_ fun b took hb => by cases hb
    · have howner : ∀ c k', (if c = s.service.accepted then some k else s.owner c) = some k' →
          c = s.service.accepted ∧ k' = k ∨ c < s.service.accepted ∧ s.owner c = some k' := by
        intro c k' hc
        split at hc
        · rename_i hnew'
          exact .inl ⟨hnew', (Option.some.inj hc).symm⟩
        · exact .inr ⟨(h.carried.owned c k' hc).1, hc⟩
      rw [if_pos rfl]
      refine { h.carried with
        owned := fun c k' hc => ?_
        single := fun c c' k' hc hc' => ?_
        requests := fun c k' hc => ?_
        read_le := fun c k' hc => ?_
        unread := fun c hc => ?_ }
      · dsimp only
        rcases howner c k' hc with ⟨rfl, rfl⟩ | ⟨hlt, hc⟩
        · exact ⟨by omega, hk⟩
        · exact ⟨by omega, (h.carried.owned c k' hc).2⟩
      · rcases howner c k' hc with ⟨rfl, rfl⟩ | ⟨hlt, hc⟩
        · rcases howner c' k' hc' with ⟨rfl, -⟩ | ⟨hlt', hc'⟩
          · rfl
          · exact absurd hc' (hnew c' hlt')
        · rcases howner c' k' hc' with ⟨-, hkk⟩ | ⟨hlt', hc'⟩
          · exact absurd (hc.trans (congrArg some hkk)) (hnew c hlt)
          · exact h.carried.single c c' k' hc hc'
      · dsimp only
        rw [hrequests c]
        rcases howner c k' hc with ⟨rfl, rfl⟩ | ⟨hlt, hc⟩
        · obtain ⟨hread, -, hnone⟩ := h.carried.unread _ (Nat.le_refl _)
          rw [hread, hnone]
          exact ⟨List.nil_prefix, fun _ => rfl⟩
        · obtain ⟨hstart, hall⟩ := h.carried.requests c k' hc
          refine ⟨hstart, fun hm => hall ((hconns c (.inl hm)).resolve_right (Nat.not_le.2 hlt))⟩
      · dsimp only
        rcases howner c k' hc with ⟨rfl, rfl⟩ | ⟨-, hc⟩
        · rw [(h.carried.unread _ (Nat.le_refl _)).1]
          exact Nat.zero_le _
        · exact h.carried.read_le c k' hc
      · dsimp only at hc ⊢
        rw [hrequests c]
        exact h.carried.unread c (by omega)

/-- A request is read, and dispatched if the server is there. -/
theorem Base.request (h : s.Base parse registry toJson line) {c k took : Nat} {r : Sent D} {service : Service W}
    (hc : s.owner c = some k) (hr : (s.sent k)[s.read c]? = some r)
    (ha : s.service.step parse registry (.on_line c (some (text toJson r)) took) = some service) :
    Base parse registry toJson line { s with service := service, read := bump s.read c } := by
  obtain ⟨hlog, hle, hconns⟩ := Service.step_log h.service ha
  obtain ⟨hlt, hget⟩ := List.getElem?_eq_some_iff.1 hr
  have hother : ∀ d, d ≠ c → Service.requests service.log d = Service.requests s.service.log d := by
    intro d hd
    rw [Service.step_requests h.service ha d]
    have hnone : Service.lines [(.on_line c (some (text toJson r)) took : Service.Act W)] d = [] := by
      simp [Service.lines, Ne.symm hd]
    rw [hnone, ite_self, List.append_nil]
  have hown : Service.requests service.log c =
      Service.requests s.service.log c ++ if c ∈ s.service.conns_ then [text toJson r] else [] := by
    rw [Service.step_requests h.service ha c]
    simp [Service.lines]
  refine h.serve ha rfl rfl ?_ fun b took hb => by cases hb
  have hconn : c < s.service.accepted := (h.carried.owned c k hc).1
  refine { h.carried with
    owned := fun d k' hd => ?_
    requests := fun d k' hd => ?_
    read_le := fun d k' hd => ?_
    unread := fun d hd => ?_ }
  · exact ⟨(h.carried.owned d k' hd).1.trans_le hle, (h.carried.owned d k' hd).2⟩
  · obtain ⟨hstart, hall⟩ := h.carried.requests d k' hd
    have hstill : d ∈ service.conns_ → d ∈ s.service.conns_ := fun hm =>
      (hconns d (.inl hm)).resolve_right (Nat.not_le.2 (h.carried.owned d k' hd).1)
    unfold bump
    dsimp only
    by_cases hdc : d = c
    · subst hdc
      obtain rfl : k = k' := Option.some.inj (hc.symm.trans hd)
      rw [if_pos rfl, hown, List.take_add_one, hr, Option.toList_some, List.map_append, List.map_singleton]
      by_cases hm : d ∈ s.service.conns_
      · rw [if_pos hm, hall hm]
        exact ⟨List.prefix_rfl, fun _ => rfl⟩
      · rw [if_neg hm, List.append_nil]
        exact ⟨hstart.trans (List.prefix_append _ _), fun hm' => absurd (hstill hm') hm⟩
    · rw [if_neg hdc, hother d hdc]
      exact ⟨hstart, fun hm => hall (hstill hm)⟩
  · unfold bump
    dsimp only
    split
    · rename_i hdc
      subst hdc
      obtain rfl : k = k' := Option.some.inj (hc.symm.trans hd)
      exact hlt
    · exact h.carried.read_le d k' hd
  · have hd' : s.service.accepted ≤ d := hle.trans hd
    have hne : d ≠ c := fun hdc => absurd hd' (Nat.not_le.2 (hdc ▸ hconn))
    unfold bump
    dsimp only
    rw [if_neg hne, hother d hne]
    exact h.carried.unread d hd'

/-- What the device does for others leaves the host's requests. -/
theorem Base.device (h : s.Base parse registry toJson line) {a : Service.Act W} {service : Service W}
    (hown : s.own line a = true) (ha : s.service.step parse registry a = some service) :
    Base parse registry toJson line { s with service := service } := by
  obtain ⟨hlog, hle, hconns⟩ := Service.step_log h.service ha
  have hnone : ∀ c, s.owner c ≠ none → Service.lines [a] c = [] := by
    intro c hc
    cases a with
    | on_line d l took =>
      cases l with
      | none => simp [Service.lines]
      | some l =>
        have hne : d ≠ c := by
          rintro rfl
          exact hc (Option.isNone_iff_eq_none.1 hown)
        simp [Service.lines, hne]
    | construct | accept | broadcast | destroy | world => rfl
  have hrequests : ∀ c, Service.lines [a] c = [] →
      Service.requests service.log c = Service.requests s.service.log c := by
    intro c hc
    rw [Service.step_requests h.service ha c, hc, ite_self, List.append_nil]
  refine h.serve ha rfl rfl ?_ fun b took hb => ?_
  · refine { h.carried with
      owned := fun c k hc => ?_
      requests := fun c k hc => ?_
      unread := fun c hc => ?_ }
    · exact ⟨(h.carried.owned c k hc).1.trans_le hle, (h.carried.owned c k hc).2⟩
    · dsimp only
      rw [hrequests c (hnone c fun hn => by rw [hn] at hc; cases hc)]
      obtain ⟨hstart, hall⟩ := h.carried.requests c k hc
      exact ⟨hstart, fun hm =>
        hall ((hconns c (.inl hm)).resolve_right (Nat.not_le.2 (h.carried.owned c k hc).1))⟩
    · have hc' : s.service.accepted ≤ c := hle.trans hc
      have hunread : c ∉ s.service.reads := fun hr => by
        have hsome := (h.service.heap.pending c).1 hr
        rw [h.service.heap.fresh c hc'] at hsome
        cases hsome
      dsimp only
      rw [hrequests c (Service.step_lines ha hunread)]
      exact h.carried.unread c hc'
  · subst hb
    exact hown

/-! ### A line reaches the host -/

omit [JsonGenerator D] in
/-- What is broadcast is one line, and no reply to the host. -/
theorem is_broadcast_iff {b : Bytes} : is_broadcast line b = true ↔
    10 ∉ b ∧ ∀ response, line (Service.terminated b) = .object response → is_event response = true := by
  unfold is_broadcast
  rw [Bool.and_eq_true, Bool.not_eq_true', ← Bool.not_eq_true, List.contains_iff_mem]
  refine and_congr_right fun _ => ?_
  cases line (Service.terminated b) with
  | blank => simp
  | malformed => simp
  | object response => simp

theorem due_line (h : s.Base parse registry toJson line) {c : Nat} {b : Bytes}
    (hb : b ∈ (Service.account parse registry s.service.log c).due) : OneLine b := by
  rcases mem_due hb with ⟨l, w, -, rfl, hne⟩ | ⟨l, hl, rfl⟩
  · by_cases hblank : c_str l = []
    · rw [dispatch_blank _ _ hblank] at hne
      exact absurd rfl hne
    · rw [dispatch_line _ _ hblank]
      exact reply_line _ _
  · have hnewline := (is_broadcast_iff.1 (h.broadcast l hl)).1
    unfold Service.terminated
    rw [if_neg fun hlast => hnewline (List.mem_of_getLast? hlast)]
    exact ⟨l, rfl, hnewline⟩

variable [Doubles D]

/-- The line is a reply to a request of this connection, or no reply. -/
theorem due_answers (h : s.Base parse registry toJson line) (hu : s.Understood parse registry toJson line) {c k : Nat}
    (hc : s.owner c = some k) {b : Bytes} (hb : b ∈ (Service.account parse registry s.service.log c).due)
    {response : Members D} (hline : line b = .object response) (he : is_event response = false) :
    ∃ r, Answers parse registry toJson line s k r response := by
  rcases mem_due hb with ⟨l, w, hl, rfl, -⟩ | ⟨l, hl, rfl⟩
  · have hl' : l ∈ Service.requests s.service.log c := List.mem_filterMap.2 ⟨_, hl, if_pos rfl⟩
    obtain ⟨r, hr, rfl⟩ := List.mem_map.1 ((h.carried.requests c k hc).1.subset hl')
    obtain ⟨params, hreads⟩ := hu.requests k r (List.mem_of_mem_take hr)
    rw [dispatch_served parse registry toJson hreads] at hline
    exact ⟨r, c, w, params, hc, List.mem_of_mem_take hr, hl, hreads, hline⟩
  · rw [(is_broadcast_iff.1 (h.broadcast l hl)).2 response hline] at he
    cases he

theorem Base.receive (h : s.Base parse registry toJson line) {c : Nat} {b : Bytes} {client : Client D}
    (hc : s.owner c = some s.client.connection) (ha : s.client.step (.receive (line b)) = some client) :
    Base parse registry toJson line { s with client := client, heard := bump s.heard c } := by
  have hi := ControlClient.Client.step_inv h.client ha
  obtain rfl := receive_eq ha
  refine ⟨hi, h.service, { h.carried with unread := fun d hd => ?_ }, h.broadcast, h.pending⟩
  have hne : d ≠ c := fun hdc => absurd hd (Nat.not_le.2 (hdc ▸ (h.carried.owned c _ hc).1))
  unfold bump
  dsimp only
  rw [if_neg hne]
  exact h.carried.unread d hd

/-! ### Steps -/

/-- What a step can do. -/
inductive Did (parse : JsonParser D) (registry : ControlRegistry D W) (toJson : Members D → Bytes)
    (line : Bytes → Line D) (s : Link D W) : Link D W → Prop
  | host {a : ControlClient.Act D} {client : Client D} (hreceive : ∀ l, a ≠ .receive l)
      (ha : s.client.step a = some client) : Did parse registry toJson line s (s.follow a client)
  | receive {c : Nat} {b : Bytes} {client : Client D} (hc : s.owner c = some s.client.connection)
      (hb : (s.service.sockets c).sent[s.heard c]? = some b) (hend : b.getLast? = some 10)
      (ha : s.client.step (.receive (line b)) = some client) :
      Did parse registry toJson line s { s with client := client, heard := bump s.heard c }
  | accept {k : Nat} {tls_ok : Bool} {service : Service W} (hk : k ≤ s.client.connection)
      (hnew : ∀ c < s.service.accepted, s.owner c ≠ some k)
      (ha : s.service.step parse registry (.accept tls_ok) = some service) :
      Did parse registry toJson line s { s with
        service := service
        owner := if tls_ok then fun c => if c = s.service.accepted then some k else s.owner c else s.owner }
  | request {c k took : Nat} {r : Sent D} {service : Service W} (hc : s.owner c = some k)
      (hr : (s.sent k)[s.read c]? = some r)
      (ha : s.service.step parse registry (.on_line c (some (text toJson r)) took) = some service) :
      Did parse registry toJson line s { s with service := service, read := bump s.read c }
  | device {a : Service.Act W} {service : Service W} (hown : s.own line a = true)
      (ha : s.service.step parse registry a = some service) :
      Did parse registry toJson line s { s with service := service }

theorem step_did {a : Act D W} (ha : s.step parse registry toJson line a = some s') :
    Did parse registry toJson line s s' := by
  cases a with
  | host a =>
    have hhost : (∀ l, a ≠ .receive l) ∧ (s.client.step a).map (s.follow a) = some s' := by
      cases a with
      | receive l => cases ha
      | sendRequest | connectToDevice | disconnectFromDevice | connected | readyRead | closing | disconnected
      | errorOccurred | return_user | advance => exact ⟨fun l => by simp, ha⟩
    obtain ⟨client, hclient, rfl⟩ := Option.map_eq_some_iff.1 hhost.2
    exact .host hhost.1 hclient
  | receive c =>
    obtain ⟨hc, ha⟩ := Option.ite_none_right_eq_some.1 ha
    obtain ⟨b, hb, ha⟩ := Option.bind_eq_some_iff.1 ha
    obtain ⟨hend, ha⟩ := Option.ite_none_right_eq_some.1 ha
    obtain ⟨client, hclient, rfl⟩ := Option.map_eq_some_iff.1 ha
    exact .receive hc hb hend hclient
  | accept k tls_ok =>
    obtain ⟨⟨hk, hnew⟩, ha⟩ := Option.ite_none_right_eq_some.1 ha
    obtain ⟨service, hservice, rfl⟩ := Option.map_eq_some_iff.1 ha
    exact .accept hk hnew hservice
  | request c took =>
    obtain ⟨k, hc, ha⟩ := Option.bind_eq_some_iff.1 ha
    obtain ⟨r, hr, ha⟩ := Option.bind_eq_some_iff.1 ha
    obtain ⟨service, hservice, rfl⟩ := Option.map_eq_some_iff.1 ha
    exact .request hc hr hservice
  | device a =>
    obtain ⟨hown, ha⟩ := Option.ite_none_right_eq_some.1 ha
    obtain ⟨service, hservice, rfl⟩ := Option.map_eq_some_iff.1 ha
    exact .device hown hservice

theorem step_grows (h : s.Base parse registry toJson line) (hd : Did parse registry toJson line s s') : Grows s s' := by
  cases hd with
  | host => exact follow_grows s _ _
  | receive => exact ⟨fun _ _ hr => hr, fun _ he => he, fun _ _ hc => hc⟩
  | accept hk hnew ha =>
    refine ⟨fun _ _ hr => hr, grows_log h.service ha, fun c k' hc => ?_⟩
    dsimp only
    split
    · exact (if_neg (h.carried.owned c k' hc).1.ne).trans hc
    · exact hc
  | request hc hr ha => exact ⟨fun _ _ hr => hr, grows_log h.service ha, fun _ _ hc => hc⟩
  | device hown ha => exact ⟨fun _ _ hr => hr, grows_log h.service ha, fun _ _ hc => hc⟩

omit [Doubles D] [JsonGenerator D] [QtJson D] in
theorem follow_other {a : ControlClient.Act D} (client : Client D)
    (hsend : ∀ method params callback, a ≠ .sendRequest method params callback) :
    s.follow a client = { s with client := client } := by
  unfold follow
  cases a with
  | sendRequest method params callback => exact absurd rfl (hsend method params callback)
  | receive | connectToDevice | disconnectFromDevice | connected | readyRead | closing | disconnected
  | errorOccurred | return_user | advance => rfl

theorem step_base (h : s.Base parse registry toJson line) (hd : Did parse registry toJson line s s') :
    s'.Base parse registry toJson line := by
  cases hd with
  | @host a client hreceive ha =>
    by_cases hsend : ∃ method params callback, a = .sendRequest method params callback
    · obtain ⟨method, params, callback, rfl⟩ := hsend
      exact h.send ha
    · have hother : ∀ method params callback, a ≠ .sendRequest method params callback :=
        fun method params callback hs => hsend ⟨method, params, callback, hs⟩
      have hi := ControlClient.Client.step_inv h.client ha
      rw [follow_other client hother]
      rcases step_quiet h.client.idle ha hreceive hother with ⟨hq, hk⟩ | ⟨l, buffer, hbuffer, rfl⟩
      · exact h.quiet hi hq.nextId hq.connection hk.sub
      · obtain ⟨-, hnext, hconnection, hcases⟩ := readLine_cases { s.client with buffer := buffer } l
        refine h.quiet hi hnext hconnection.ge ?_
        rcases hcases with ⟨hpending, -⟩ | ⟨response, call, -, -, -, hpending, -⟩
        · rw [hpending]
          exact fun call hc => hc
        · rw [hpending]
          exact fun call hc => List.mem_of_mem_eraseP hc
  | receive hc hb hend ha => exact h.receive hc ha
  | accept hk hnew ha => exact h.accept hk hnew ha
  | request hc hr ha => exact h.request hc hr ha
  | device hown ha => exact h.device hown ha

/-! ### Replies -/

omit [Doubles D] in
/-- Nothing has come, and callbacks have run for failures only. -/
theorem Told.quiet (h : s.Told parse registry toJson line) (hg : Grows s s')
    (hbuffer : ∀ l ∈ s'.client.buffer, l ∈ s.client.buffer)
    (hran : ∀ e ∈ s'.client.ran, e ∈ s.client.ran ∨ ∃ message, e.2 = .failed message) :
    s'.Told parse registry toJson line := by
  refine ⟨fun l hl response hr he => ?_, fun e he response call k ho => ?_⟩
  · obtain ⟨r, hr'⟩ := h.buffered l (hbuffer l hl) response hr he
    exact ⟨r, hr'.after hg⟩
  · rcases hran e he with he | ⟨message, hfailed⟩
    · obtain ⟨r, hn, hr'⟩ := h.ran e he response call k ho
      exact ⟨r, hn, hr'.after hg⟩
    · rw [hfailed] at ho
      cases ho

/-- The pending request with the `id` of a reply is the one that this answers. -/
theorem Base.named (h : s.Base parse registry toJson line) (hu : s.Understood parse registry toJson line) {k : Nat}
    {r : Sent D} {response : Members D} (hanswers : s.Answers parse registry toJson line k r response) {call : Call}
    (hfind : s.client.m_pending.find? (·.id == reply_id response) = some call) : r.number = call.number := by
  obtain ⟨c, w, params, hc, hr, hw, hreads, hline⟩ := hanswers
  have hid : reply_id response = r.id := by
    obtain ⟨response', hline', -, hid⟩ := hu.replies c k hc r hr w hw params hreads
    rw [hline] at hline'
    cases hline'
    exact hid
  have hnamed : call.id = reply_id response := by simpa using List.find?_some hfind
  obtain ⟨r', hr', hnumber, hid'⟩ := h.pending call (List.mem_of_find?_eq_some hfind)
  obtain rfl : r' = r := h.carried.unique _ _ r' hr' r hr (hid'.trans (hnamed.trans hid))
  exact hnumber

/-- A reply runs the callback of the request that it answers. -/
theorem Told.read (h : s.Told parse registry toJson line) (hb : s.Base parse registry toJson line)
    (hu : s.Understood parse registry toJson line) {l : Line D × Nat} {buffer : List (Line D × Nat)}
    (hbuffer : s.client.buffer = l :: buffer) :
    Told parse registry toJson line { s with client := { s.client with buffer := buffer }.readLine l } := by
  obtain ⟨hbuffer', -, -, hcases⟩ := readLine_cases { s.client with buffer := buffer } l
  have hg : Grows s { s with client := { s.client with buffer := buffer }.readLine l } :=
    ⟨fun _ _ hr => hr, fun _ he => he, fun _ _ hc => hc⟩
  have hrest : ∀ l' ∈ ({ s.client with buffer := buffer }.readLine l).buffer, l' ∈ s.client.buffer := by
    rw [hbuffer', hbuffer]
    exact fun l' hl' => List.mem_cons_of_mem _ hl'
  rcases hcases with ⟨-, hran, -⟩ | ⟨response, call, hl, hevent, hfind, -, hran⟩
  · refine h.quiet hg hrest ?_
    rw [hran]
    exact fun e he => .inl he
  · obtain ⟨r, hanswers⟩ := h.buffered l (by rw [hbuffer]; exact List.mem_cons_self) response hl hevent
    refine ⟨fun l' hl' response' hr' he => ?_, fun e he response' call' k ho => ?_⟩
    · obtain ⟨r, hr⟩ := h.buffered l' (hrest l' hl') response' hr' he
      exact ⟨r, hr.after hg⟩
    · rcases hran e he with he | rfl
      · obtain ⟨r, hn, hr⟩ := h.ran e he response' call' k ho
        exact ⟨r, hn, hr.after hg⟩
      · cases ho
        exact ⟨r, hb.named hu hanswers hfind, hanswers.after hg⟩

theorem step_told (hb : s.Base parse registry toJson line) (hu : s.Understood parse registry toJson line)
    (h : s.Told parse registry toJson line) (hd : Did parse registry toJson line s s') :
    s'.Told parse registry toJson line := by
  have hg := step_grows hb hd
  cases hd with
  | @host a client hreceive ha =>
    by_cases hsend : ∃ method params callback, a = .sendRequest method params callback
    · obtain ⟨method, params, callback, rfl⟩ := hsend
      rcases send_cases ha with ⟨-, hq, -⟩ | ⟨-, -, -, hbuffer, hran, -⟩
      · exact h.quiet hg hq.buffer hq.ran
      · refine h.quiet hg (fun l hl => ?_) fun e he => .inl ?_
        · rw [← hbuffer]
          exact hl
        · rw [← hran]
          exact he
    · have hother : ∀ method params callback, a ≠ .sendRequest method params callback :=
        fun method params callback hs => hsend ⟨method, params, callback, hs⟩
      rw [follow_other client hother] at hg ⊢
      rcases step_quiet hb.client.idle ha hreceive hother with ⟨hq, -⟩ | ⟨l, buffer, hbuffer, rfl⟩
      · exact h.quiet hg hq.buffer hq.ran
      · exact h.read hb hu hbuffer
  | @receive c b client hc hsent hend ha =>
    obtain rfl := receive_eq ha
    have hdue := whole_line (hb.service.books.took c) (fun b hb' => due_line hb hb') hsent hend
    refine ⟨fun l hl response hl' he => ?_, fun e he response call k ho => ?_⟩
    · rcases List.mem_append.1 hl with hl | hl
      · obtain ⟨r, hr⟩ := h.buffered l hl response hl' he
        exact ⟨r, hr.after hg⟩
      · obtain rfl := List.mem_singleton.1 hl
        obtain ⟨r, hr⟩ := due_answers hb hu hc (List.mem_of_getElem? hdue) hl' he
        exact ⟨r, hr.after hg⟩
    · obtain ⟨r, hn, hr⟩ := h.ran e he response call k ho
      exact ⟨r, hn, hr.after hg⟩
  | accept | request | device => exact h.quiet hg (fun _ hl => hl) fun _ he => .inl he

/-! ### Runs -/

omit [Doubles D] in
theorem init_base (w : W) : ({ service := { w := w } } : Link D W).Base parse registry toJson line where
  client := ControlClient.Client.init_inv
  service := Service.init_inv w
  carried := {
    owned := fun c k hc => by cases hc
    single := fun c c' k hc => by cases hc
    ids := fun k r hr => by cases hr
    once := fun _ => .nil
    later := fun _ _ => rfl
    unique := fun k k' r hr => by cases hr
    requests := fun c k hc => by cases hc
    read_le := fun c k hc => by cases hc
    unread := fun _ _ => ⟨rfl, rfl, rfl⟩ }
  broadcast b hb := by cases hb
  pending call hc := by cases hc

/-- What steps keep where each end reads what the other wrote, in runs in which it does. -/
theorem run_understood {P : Link D W → Prop} {w : W} {as : List (Act D W)}
    (h : Run (step parse registry toJson line) { service := { w := w } } as s) (h0 : P { service := { w := w } })
    (hs : ∀ s s', s.Base parse registry toJson line → s.Understood parse registry toJson line → P s →
      Did parse registry toJson line s s' → P s') :
    s.Base parse registry toJson line ∧ (s.Understood parse registry toJson line → P s) := by
  refine h.inv (fun s => s.Base parse registry toJson line ∧ (s.Understood parse registry toJson line → P s))
    ⟨init_base w, fun _ => h0⟩ ?_
  intro s a s' hi ha
  have hd := step_did ha
  refine ⟨step_base hi.1 hd, fun hu => ?_⟩
  -- what is understood in the end was understood all along
  have hu' := hu.before (step_grows hi.1 hd)
  exact hs s s' hi.1 hu' (hi.2 hu') hd

omit [Doubles D] in
theorem init_told (w : W) : ({ service := { w := w } } : Link D W).Told parse registry toJson line :=
  ⟨fun l hl => (by cases hl), fun e he => (by cases he)⟩

/-- In every run of the host and the device, however requests, replies, broadcasts, other
clients, reconnects and reloads interleave: where each end reads what the other wrote, a
callback that runs for a reply is given the result of its own request, which the device
has dispatched, for the connection that it was sent on; and whatever is read, the device
dispatches the requests of a connection in the order in which they were sent, each at
most once. -/
theorem reply_is_of_request {w : W} {as : List (Act D W)}
    (h : Run (step parse registry toJson line) { service := { w := w } } as s) :
    (s.Understood parse registry toJson line → ∀ n response call k, (n, .reply response call k) ∈ s.client.ran →
      ∃ r ∈ s.sent k, r.number = n ∧ s.Answers parse registry toJson line k r response) ∧
    ∀ c k, s.owner c = some k → Service.requests s.service.log c <+: (s.sent k).map (text toJson) ∧
      ((s.sent k).map (·.id)).Nodup ∧ ∀ c', s.owner c' = some k → c' = c := by
  obtain ⟨hbase, htold⟩ := run_understood h (init_told w) fun _ _ => step_told
  refine ⟨fun hu n response call k he => ?_, fun c k hc => ?_⟩
  · obtain ⟨r, hn, hanswers⟩ := (htold hu).ran _ he response call k rfl
    obtain ⟨c, w, params, hc, hr, hrest⟩ := id hanswers
    exact ⟨r, hr, hn, hanswers⟩
  · have hread := (hbase.carried.requests c k hc).1
    refine ⟨hread.trans ?_, hbase.carried.once k, fun c' hc' => hbase.carried.single c' c k hc' hc⟩
    exact (List.take_prefix _ _).map _

end

/-! ## Two pings -/

def ping (id : Int) : Members Rat := [("id", .int id), ("method", .string "ping")]

def pong_result : Json Rat := .object [("pong", .bool true), ("version", .string "dev")]

def pong (id : Int) : Members Rat := [("id", .int id), ("result", pong_result)]

/-- `QJsonDocument::toJson` sorts by name. -/
def to_json (members : Members Rat) : Bytes := to_data (.object members.reverse)

def faces : Bytes := utf8 "\x7b\"event\":\"faces\"\x7d"

def parse_ping : JsonParser Rat := fun b =>
  if b = to_data (.object (ping 1)) then .ok (some (.object (ping 1)))
  else if b = to_data (.object (ping 2)) then .ok (some (.object (ping 2)))
  else .error "Parse error"

def read_pong (b : Bytes) : Line Rat :=
  if b = to_data (.object (pong 1)) ++ [10] then .object (pong 1)
  else if b = to_data (.object (pong 2)) ++ [10] then .object (pong 2)
  else if b = faces ++ [10] then .object [("event", .string "faces")]
  else .malformed

/-- Another client is accepted first; boxes are broadcast between the two replies, of
which the second comes in the slot of the first. -/
def two_pings : List (Act Rat Unit) :=
  [.device .construct] ++ Client.connecting.map .host ++
  [.device (.accept true), .host (.sendRequest "ping" [] true), .host (.sendRequest "ping" [] true), .accept 1 true,
    .request 1 100, .device (.on_line 0 (some [120]) 100), .device (.broadcast faces fun _ => 100), .receive 1,
    .host .readyRead, .host (.advance 0), .request 1 100, .receive 1, .receive 1, .host .readyRead, .host (.advance 0),
    .host .return_user, .host (.advance 0), .host .return_user, .host (.advance 0), .host .return_user,
    .host (.advance 0)]

/-- The connection of the reply that a callback ran for. -/
def reply_connection (e : Nat × ControlClient.Outcome Rat) : Option Nat :=
  match e.2 with
  | .reply _ _ k => some k
  | .failed _ => none

/-- Where that run ends. -/
def ponged (s : Link Rat Unit) : Bool :=
  s.client.ran.map (fun e => (e.1, reply_connection e)) == [(0, some 1), (1, some 1)] &&
    s.client.connection == 1 && (s.sent 0).isEmpty &&
    (s.sent 1).map (fun r => (r.number, r.id, r.method)) == [(0, 1, "ping"), (1, 2, "ping")] &&
    (s.sent 1).all (·.params.isEmpty) && s.owner 1 == some 1 && s.service.conns_.contains 1 &&
    !(s.service.sockets 1).broken && s.read 1 == 2 && s.heard 1 == (s.service.sockets 1).sent.length &&
    s.client.buffer.isEmpty

theorem two_pings_run : ∃ s,
    Run (step parse_ping Service.pings to_json read_pong) { service := { w := () } } two_pings s ∧ ponged s = true := by
  have hrun : (exec (step parse_ping Service.pings to_json read_pong) { service := { w := () } } two_pings).map
      ponged = some true := by
    decide +kernel
  obtain ⟨s, hs, hponged⟩ := Option.map_eq_some_iff.1 hrun
  exact ⟨s, run_of_exec hs, hponged⟩

theorem ping_text {r : Sent Rat} (hmethod : r.method = "ping") (hparams : r.params = []) :
    text to_json r = to_data (.object (ping r.id)) := by
  unfold text
  rw [hmethod, hparams]
  rfl

theorem reads_ping {r : Sent Rat} (hid : r.id = 1 ∨ r.id = 2) (hmethod : r.method = "ping") (hparams : r.params = []) :
    Reads parse_ping to_json r none := by
  have hc : c_str (to_data (.object (ping r.id))) = to_data (.object (ping r.id)) := by
    rcases hid with hid | hid <;> rw [hid] <;> decide +kernel
  have hparse : parse_ping (to_data (.object (ping r.id))) = .ok (some (.object (ping r.id))) := by
    unfold parse_ping
    rcases hid with hid | hid
    · rw [hid, if_pos rfl]
    · rw [hid, if_neg (by decide +kernel), if_pos rfl]
  have htext := ping_text hmethod hparams
  constructor
  · rw [htext, hc]
    exact List.cons_ne_nil _ _
  · refine ⟨ping r.id, ?_, rfl, ?_, rfl⟩
    · rw [htext, hc, hparse]
    · rw [hmethod]
      rfl

theorem hears_pong {r : Sent Rat} (hid : r.id = 1 ∨ r.id = 2) :
    Hears read_pong r (.ok pong_result) := by
  have htext : to_data (envelope (.int r.id) (.ok pong_result)) ++ [10] = to_data (.object (pong r.id)) ++ [10] := rfl
  refine ⟨pong r.id, ?_, rfl, ?_⟩
  · rw [htext]
    unfold read_pong
    rcases hid with hid | hid
    · rw [hid, if_pos rfl]
    · rw [hid, if_neg (by decide +kernel), if_pos rfl]
  · rcases hid with hid | hid <;> rw [hid] <;> decide +kernel

theorem two_pings_understood {s : Link Rat Unit}
    (hr : Run (step parse_ping Service.pings to_json read_pong) { service := { w := () } } two_pings s)
    (h : ponged s = true) : s.Understood parse_ping Service.pings to_json read_pong := by
  obtain ⟨hbase, -⟩ := run_understood hr trivial fun _ _ _ _ _ _ => trivial
  simp only [ponged, Bool.and_eq_true, beq_iff_eq] at h
  obtain ⟨⟨⟨⟨⟨⟨⟨⟨⟨⟨-, hconnection⟩, hempty⟩, hrequests⟩, hparams⟩, -⟩, -⟩, -⟩, -⟩, -⟩, -⟩ := h
  have hsent : ∀ k, ∀ r ∈ s.sent k, (r.id = 1 ∨ r.id = 2) ∧ r.method = "ping" ∧ r.params = [] := by
    intro k r hr
    have hk : ¬ s.client.connection < k := fun hlt => by
      rw [hbase.carried.later k hlt] at hr
      cases hr
    have hone : k = 0 ∨ k = 1 := by omega
    rcases hone with rfl | rfl
    · rw [List.isEmpty_iff.1 hempty] at hr
      cases hr
    · have hr' : (r.number, r.id, r.method) ∈ [(0, 1, "ping"), (1, 2, "ping")] :=
        hrequests ▸ List.mem_map_of_mem hr
      refine ⟨?_, ?_, List.isEmpty_iff.1 (List.all_eq_true.1 hparams r hr)⟩
      · simp only [List.mem_cons, Prod.mk.injEq, List.not_mem_nil, or_false] at hr'
        exact hr'.imp (fun h => h.2.1) fun h => h.2.1
      · simp only [List.mem_cons, Prod.mk.injEq, List.not_mem_nil, or_false] at hr'
        exact hr'.elim (fun h => h.2.2) fun h => h.2.2
  refine ⟨fun k r hr => ?_, fun c k hc r hr w hw params hreads => ?_⟩
  · obtain ⟨hid, hmethod, hparams⟩ := hsent k r hr
    exact ⟨none, reads_ping hid hmethod hparams⟩
  · obtain ⟨hid, hmethod, -⟩ := hsent k r hr
    rw [hmethod]
    exact hears_pong hid

theorem reply_is_of_request_two : ∃ s : Link Rat Unit,
    Run (step parse_ping Service.pings to_json read_pong) { service := { w := () } } two_pings s ∧
      (∃ response call r, (1, .reply response call 1) ∈ s.client.ran ∧ r.number = 1 ∧
        s.Answers parse_ping Service.pings to_json read_pong 1 r response) ∧
      Service.requests s.service.log 1 <+: (s.sent 1).map (text to_json) := by
  obtain ⟨s, hr, h⟩ := two_pings_run
  obtain ⟨hreplies, hcarried⟩ := reply_is_of_request hr
  have hfields := h
  simp only [ponged, Bool.and_eq_true, beq_iff_eq] at hfields
  obtain ⟨⟨⟨⟨⟨⟨⟨⟨⟨⟨hran, -⟩, -⟩, -⟩, -⟩, howner⟩, -⟩, -⟩, -⟩, -⟩, -⟩ := hfields
  have hlast : ((1, some 1) : Nat × Option Nat) ∈ s.client.ran.map fun e => (e.1, reply_connection e) := by
    rw [hran]
    exact List.mem_cons_of_mem _ (List.mem_singleton_self _)
  obtain ⟨⟨n, outcome⟩, hmem, he⟩ := List.mem_map.1 hlast
  obtain ⟨rfl, hconnection⟩ := Prod.mk.inj he
  cases outcome with
  | failed message => cases hconnection
  | reply response call k =>
    obtain rfl : k = 1 := Option.some.inj hconnection
    obtain ⟨r, -, hnumber, hanswers⟩ := hreplies (two_pings_understood hr h) 1 response call 1 hmem
    exact ⟨s, hr, ⟨response, call, r, hmem, hnumber, hanswers⟩, (hcarried 1 1 howner).1⟩

end Link

end CameraStreamer.ControlLink
