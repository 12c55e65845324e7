import CameraStreamer.SecureWire
import CameraStreamer.UpdateServer
/-!
# The update tunnel

The way of an upload within one session: TCP clients of the bridge's update
port, the records in flight, `LocalTunnel::deliver` and `pump`, and a
`handle_connection` at the far end of every socketpair. Any order of the
parties' actions is a run.
-/

namespace CameraStreamer.Update.UpdateTunnel

open Runs UpdateServer

/-- Byte `index` of host connection `conn`. -/
structure HostByte where
  conn : Nat
  index : Nat
  value : UInt8
  deriving DecidableEq, Repr

/-- Bytes of a connection, from byte `n` on. -/
def host_bytes (conn : Nat) : Nat → Bytes → List HostByte
  | _, [] => []
  | n, v :: vs => ⟨conn, n, v⟩ :: host_bytes conn (n + 1) vs

/-- A record of the update channel: what one `recv` of the bridge has read. -/
structure Record where
  conn : Nat
  start : Nat
  payload : Bytes
  deriving DecidableEq

def Record.bytes (r : Record) : List HostByte := host_bytes r.conn r.start r.payload

def Record.stop (r : Record) : Nat := r.start + r.payload.length

/-- A socketpair: `pair[0]` with the handler that adopted it, `pair[1]` for the tunnel. -/
structure Channel where
  handler_fd : Nat
  tunnel_fd : Nat
  handler : Handler
  /-- The handler has not closed `pair[0]`. -/
  handler_open : Bool
  /-- Written and not yet read. -/
  inbox : List HostByte
  /-- Read by the handler. -/
  reads : List HostByte

/-- The device's worker. -/
inductive Worker where
  | idle
  /-- In `deliver`, which holds `mutex_`. -/
  | delivering (record : Record) (attempt written : Nat)
  | ended
  deriving DecidableEq

inductive Pump where
  | idle
  /-- `poll` has reported this descriptor of the snapshot. -/
  | polled (fd : Nat)
  /-- `read` gave nothing: about to call `close_channel`. -/
  | closing
  deriving DecidableEq

structure Tunnel where
  /-- How many connections the bridge has accepted. -/
  accepted : Nat
  /-- `clients[1]`: the connection and how much of it has been read. -/
  client : Option (Nat × Nat)
  /-- Records sent and not yet taken by the worker. -/
  usb : List Record
  channels : List Channel
  /-- The channel whose `pair[1]` is `update_`. -/
  update_ : Option Nat
  worker : Worker
  pump : Pump
  dead : Bool

inductive Action where
  | accept
  | recv (payload : Bytes)
  /-- `recv` gave nothing. -/
  | close_client
  | take_record
  /-- `open_update_`, with the descriptors it gets. -/
  | open_update (handler_fd tunnel_fd : Nat) (buf : Buffer)
  | open_fails
  /-- A `write` that takes `k` bytes. -/
  | write (k : Nat)
  | write_fails
  | die
  | end_session
  | pump_snapshot
  /-- `read` in the pump gives `n` bytes, 0 also for an error. -/
  | pump_read (n : Nat)
  | close_channel
  | handler (i : Nat) (o : Outcome)
  | handler_close (i : Nat)

namespace Channel

def opened (handler_fd tunnel_fd : Nat) (buf : Buffer) : Channel :=
  ⟨handler_fd, tunnel_fd, .accepted buf, true, [], []⟩

def written (c : Channel) (bytes : List HostByte) : Channel := { c with inbox := c.inbox ++ bytes }

/-- Bytes taken from the inbox by another reader. -/
def stolen (c : Channel) (n : Nat) : Channel := { c with inbox := c.inbox.drop n }

/-- The bytes that an outcome of the handler takes out of the socket. -/
def taken : Outcome → Bytes
  | .read r => r.bytes
  | _ => []

/-- What the handler's calls on the socket return fits what is in it. -/
def Sees (c : Channel) (tunnel_open : Bool) (o : Outcome) : Prop :=
  c.handler_open = true ∧ taken o = (c.inbox.take (taken o).length).map HostByte.value ∧
    (o = .read .end_of_stream → c.inbox = [] ∧ tunnel_open = false)

instance (c : Channel) (tunnel_open : Bool) (o : Outcome) : Decidable (c.Sees tunnel_open o) :=
  inferInstanceAs (Decidable (_ ∧ _ ∧ (_ → _ ∧ _)))

def handled (c : Channel) (handler : Handler) (o : Outcome) : Channel :=
  { c with
    handler := handler
    inbox := c.inbox.drop (taken o).length
    reads := c.reads ++ c.inbox.take (taken o).length }

end Channel

namespace Tunnel

def init : Tunnel := ⟨0, none, [], [], none, .idle, .idle, false⟩

/-- The channel of `update_`. -/
def channel (s : Tunnel) : Option Channel := s.update_.bind fun i => s.channels[i]?

def on_channel (s : Tunnel) (i : Nat) (f : Channel → Channel) : Tunnel := { s with channels := s.channels.modify i f }

/-- The descriptor number is in use by a channel's end. -/
def in_use (s : Tunnel) (fd : Nat) : Bool :=
  s.channels.any (fun c => c.handler_open && c.handler_fd == fd) || s.channel.any (·.tunnel_fd == fd)

/-- `pump` reads from whatever has the number now: after a close it can be the
handler's end of a new channel. -/
def pump_take (s : Tunnel) (fd n : Nat) : Tunnel :=
  { s with channels := s.channels.map fun c => if c.handler_open && c.handler_fd == fd then c.stolen n else c }

/-- `deliver` goes on with its next attempt, if there is one. -/
def next_attempt (s : Tunnel) (record : Record) (attempt : Nat) : Tunnel :=
  { s with update_ := none, worker := if attempt + 1 < 2 then .delivering record (attempt + 1) 0 else .idle }

variable (size_member : Bytes → Option Int64)

def step (s : Tunnel) : Action → Option Tunnel
  | .accept => some { s with accepted := s.accepted + 1, client := some (s.accepted, 0) }
  | .recv payload =>
    match s.client with
    | some (conn, n) =>
      if 0 < payload.length ∧ payload.length ≤ Secure.kMaxPayload - 2 then
        some { s with client := some (conn, n + payload.length), usb := s.usb ++ [⟨conn, n, payload⟩] }
      else none
    | none => none
  | .close_client => some { s with client := none }
  | .take_record =>
    match s.worker, s.usb with
    | .idle, r :: usb => some { s with usb := usb, worker := .delivering r 0 0 }
    | _, _ => none
  | .open_update handler_fd tunnel_fd buf =>
    match s.worker, s.update_ with
    | .delivering _ _ _, none =>
      if handler_fd ≠ tunnel_fd ∧ ¬ s.in_use handler_fd ∧ ¬ s.in_use tunnel_fd then
        some { s with
          channels := s.channels ++ [.opened handler_fd tunnel_fd buf]
          update_ := some s.channels.length }
      else none
    | _, _ => none
  | .open_fails =>
    match s.worker, s.update_ with
    | .delivering _ _ _, none => some { s with worker := .idle }
    | _, _ => none
  | .write k =>
    match s.worker, s.update_ with
    | .delivering r attempt w, some i =>
      if s.channel.any (·.handler_open) ∧ 0 < k ∧ w + k ≤ r.payload.length then
        some { s.on_channel i (·.written ((r.bytes.drop w).take k)) with
          worker := if w + k < r.payload.length then .delivering r attempt (w + k) else .idle }
      else none
    | _, _ => none
  | .write_fails =>
    match s.worker, s.update_ with
    | .delivering r attempt _, some _ =>
      -- `EPIPE`, or `EINTR` in a session that is over
      if s.channel.all (!·.handler_open) ∨ s.dead then some (s.next_attempt r attempt) else none
    | _, _ => none
  | .die => some { s with dead := true }
  | .end_session =>
    match s.worker with
    | .idle => some { s with dead := true, update_ := none, worker := .ended }
    | _ => none
  | .pump_snapshot =>
    match s.worker, s.pump with
    | .delivering _ _ _, _ => none
    | _, .closing => none
    | _, _ => if s.dead then none else some { s with pump := (s.channel.map (·.tunnel_fd)).elim .idle .polled }
  | .pump_read n =>
    match s.pump with
    | .polled fd =>
      -- `update_` itself gives nothing only after its handler has closed
      if s.channel.all fun c => c.tunnel_fd != fd || n != 0 || !c.handler_open then
        some { s.pump_take fd n with pump := if n = 0 then .closing else .idle }
      else none
    | _ => none
  | .close_channel =>
    match s.worker, s.pump with
    | .delivering _ _ _, _ => none
    | _, .closing => some { s with update_ := none, pump := .idle }
    | _, _ => none
  | .handler i o =>
    match s.channels[i]? with
    | some c =>
      if c.Sees (s.update_ == some i) o then
        (c.handler.step size_member o).map fun h => s.on_channel i (·.handled h o)
      else none
    | none => none
  | .handler_close i =>
    match s.channels[i]? with
    | some c =>
      if c.handler.phase = .finished then some (s.on_channel i ({ · with handler_open := false })) else none
    | none => none

/-! ## Bytes of one connection -/

end Tunnel

/-- Consecutive bytes of `conn`, from byte `n` on. -/
def Consecutive (conn : Nat) : Nat → List HostByte → Prop
  | _, [] => True
  | n, b :: bs => (b.conn = conn ∧ b.index = n) ∧ Consecutive conn (n + 1) bs

theorem consecutive_host_bytes (conn n : Nat) (payload : Bytes) : Consecutive conn n (host_bytes conn n payload) := by
  induction payload generalizing n with
  | nil => exact trivial
  | cons v vs ih => exact ⟨⟨rfl, rfl⟩, ih (n + 1)⟩

theorem host_bytes_length (conn n : Nat) (payload : Bytes) : (host_bytes conn n payload).length = payload.length := by
  induction payload generalizing n with
  | nil => rfl
  | cons v vs ih => simp [host_bytes, ih]

theorem consecutive_append (conn n : Nat) (xs ys : List HostByte) :
    Consecutive conn n (xs ++ ys) ↔ Consecutive conn n xs ∧ Consecutive conn (n + xs.length) ys := by
  induction xs generalizing n with
  | nil => simp [Consecutive]
  | cons x xs ih =>
    simp only [List.cons_append, Consecutive, ih, List.length_cons, and_assoc]
    rw [show n + 1 + xs.length = n + (xs.length + 1) by omega]

theorem consecutive_conn {conn n : Nat} {bs : List HostByte} (h : Consecutive conn n bs) : ∀ b ∈ bs, b.conn = conn := by
  induction bs generalizing n with
  | nil =>
    intro b hb
    cases hb
  | cons x xs ih =>
    intro b hb
    rcases List.mem_cons.1 hb with rfl | hb
    · exact h.1.1
    · exact ih h.2 b hb

/-- A piece of a record holds the bytes that follow what was written before it. -/
theorem consecutive_piece (r : Record) (w k : Nat) (hw : w ≤ r.payload.length) :
    Consecutive r.conn (r.start + w) ((r.bytes.drop w).take k) := by
  have h := consecutive_host_bytes r.conn r.start r.payload
  have hl := host_bytes_length r.conn r.start r.payload
  rw [← List.take_append_drop w (host_bytes r.conn r.start r.payload), consecutive_append, List.length_take,
    Nat.min_eq_left (by omega), ← List.take_append_drop k ((host_bytes r.conn r.start r.payload).drop w),
    consecutive_append] at h
  exact h.2.1

theorem piece_length (r : Record) (w k : Nat) (h : w + k ≤ r.payload.length) :
    ((r.bytes.drop w).take k).length = k := by
  have hl := host_bytes_length r.conn r.start r.payload
  simp only [Record.bytes, List.length_take, List.length_drop, hl]
  omega

/-! ## Channels -/

namespace Channel

def busy (c : Channel) : Prop := c.handler.phase ≠ .finished

/-- All that was ever written to the channel is the first `n` bytes of `conn`. -/
def Holds (c : Channel) (conn n : Nat) : Prop :=
  Consecutive conn 0 (c.reads ++ c.inbox) ∧ (c.reads ++ c.inbox).length = n

/-- The handler has read the first bytes of one connection, and while it is at
work no other bytes wait for it. -/
def Sound (c : Channel) : Prop :=
  ∃ conn, Consecutive conn 0 c.reads ∧ (c.busy → Consecutive conn 0 (c.reads ++ c.inbox))

theorem Holds.sound {c : Channel} {conn n : Nat} (h : c.Holds conn n) : c.Sound :=
  ⟨conn, ((consecutive_append _ _ _ _).1 h.1).1, fun _ => h.1⟩

theorem opened_sound (a b : Nat) (buf : Buffer) : (opened a b buf).Sound := ⟨0, trivial, fun _ => trivial⟩

/-- A write that follows what the channel holds. -/
theorem Holds.written {c : Channel} {conn n : Nat} {bytes : List HostByte} (h : c.Holds conn n)
    (hb : Consecutive conn n bytes) : (c.written bytes).Holds conn (n + bytes.length) := by
  obtain ⟨hc, hl⟩ := h
  constructor
  · rw [Channel.written, ← List.append_assoc, consecutive_append, hl, Nat.zero_add]
    exact ⟨hc, hb⟩
  · rw [Channel.written, ← List.append_assoc, List.length_append, hl]

theorem step_busy {size_member : Bytes → Option Int64} {h h' : Handler} {o : Outcome}
    (hs : h.step size_member o = some h') : h.phase ≠ .finished := by
  intro hp
  simp [Handler.step, hp] at hs

/-- The handler's calls do not change what was written to the channel. -/
theorem handled_bytes (c : Channel) (h : Handler) (o : Outcome) :
    (c.handled h o).reads ++ (c.handled h o).inbox = c.reads ++ c.inbox := by
  simp [handled]

theorem handled_sound {c : Channel} {h : Handler} {o : Outcome} (hs : c.Sound) (hb : c.busy) :
    (c.handled h o).Sound := by
  obtain ⟨conn, -, hall⟩ := hs
  have hall := hall hb
  rw [← handled_bytes c h o] at hall
  exact ⟨conn, ((consecutive_append _ _ _ _).1 hall).1, fun _ => hall⟩

end Channel

/-! ## The records in flight -/

/-- The records lead from byte `pos.2` of connection `pos.1` to `last`: each goes on where
the one before it ends, or begins a connection. -/
def InOrder (pos last : Nat × Nat) : List Record → Prop
  | [] => pos = last
  | r :: rs => (r.start = 0 ∨ (r.conn, r.start) = pos) ∧ InOrder (r.conn, r.stop) last rs

theorem in_order_snoc {pos last : Nat × Nat} {rs : List Record} {r : Record} (h : InOrder pos last rs)
    (hr : r.start = 0 ∨ (r.conn, r.start) = last) : InOrder pos (r.conn, r.stop) (rs ++ [r]) := by
  induction rs generalizing pos with
  | nil =>
    cases h
    exact ⟨hr, rfl⟩
  | cons q qs ih => exact ⟨h.1, ih h.2⟩

namespace Tunnel

/-- Where the bytes of a record belong: the channel it is written to while its
handler is at work got exactly what comes before them. -/
def Placed (s : Tunnel) (conn n : Nat) : Prop := ∀ c, s.channel = some c → c.busy → c.Holds conn n

structure Inv (s : Tunnel) (pos last : Nat × Nat) : Prop where
  channels : ∀ c ∈ s.channels, c.Sound
  in_order : InOrder pos last s.usb
  client : ∀ conn n, s.client = some (conn, n) → n = 0 ∨ last = (conn, n)
  idle : s.worker = .idle → s.Placed pos.1 pos.2
  delivering : ∀ r attempt w, s.worker = .delivering r attempt w → pos = (r.conn, r.stop) ∧
    w ≤ r.payload.length ∧ (s.update_ = none → w = 0) ∧ (w = 0 ∧ r.start = 0 ∨ s.Placed r.conn (r.start + w))

/-- The conditions on a run. The update channel is opened for the first record of a
connection only; a first record is written only to a channel that is unused or whose
handler has finished; and `pump` never takes bytes from a descriptor that has become
a handler's. -/
def safe (s : Tunnel) : Action → Bool
  | .open_update _ _ _ =>
    match s.worker with
    | .delivering r _ _ => r.start == 0
    | _ => true
  | .write _ =>
    match s.worker, s.channel with
    | .delivering r _ 0, some c =>
      r.start != 0 || c.handler.phase == .finished || (c.inbox.isEmpty && c.reads.isEmpty)
    | _, _ => true
  | .pump_read n =>
    match s.pump with
    | .polled fd => n == 0 || s.channels.all fun c => !c.handler_open || c.handler_fd != fd
    | _ => true
  | _ => true

/-- Closing `update_` leaves nothing to go on with. -/
theorem placed_closed {s : Tunnel} (h : s.update_ = none) (conn n : Nat) : s.Placed conn n := by
  intro c hc
  rw [channel, h] at hc
  cases hc

theorem channel_on_channel {s : Tunnel} {i : Nat} {f : Channel → Channel} {c : Channel}
    (h : (s.on_channel i f).channel = some c) :
    (s.update_ = some i ∧ ∃ d, s.channel = some d ∧ s.channels[i]? = some d ∧ c = f d) ∨
      s.update_ ≠ some i ∧ s.channel = some c := by
  obtain ⟨j, hj, hc⟩ := Option.bind_eq_some_iff.1 h
  dsimp only [Tunnel.on_channel] at hj hc
  rw [List.getElem?_modify] at hc
  obtain ⟨d, hd, rfl⟩ := Option.map_eq_some_iff.1 hc
  have hsd : s.channel = some d := by rw [channel, hj]; exact hd
  split
  · rename_i hij
    subst hij
    exact .inl ⟨hj, d, hsd, hd, rfl⟩
  · rename_i hij
    exact .inr ⟨fun he => hij (Option.some.inj (he.symm.trans hj)), hsd⟩

/-- An action on a channel that keeps what was written to it. -/
theorem Placed.on_channel {s : Tunnel} {i : Nat} {f : Channel → Channel} {conn n : Nat} (h : s.Placed conn n)
    (hf : ∀ c, s.channels[i]? = some c → (f c).busy → c.busy ∧ (f c).reads ++ (f c).inbox = c.reads ++ c.inbox) :
    (s.on_channel i f).Placed conn n := by
  intro c hc hb
  rcases channel_on_channel hc with ⟨-, d, hsd, hd, rfl⟩ | ⟨-, hsc⟩
  · obtain ⟨hbusy, heq⟩ := hf d hd hb
    rw [Channel.Holds, heq]
    exact h d hsd hbusy
  · exact h c hsc hb

theorem on_channel_sound {s : Tunnel} {i : Nat} {f : Channel → Channel} (h : ∀ c ∈ s.channels, c.Sound)
    (hf : ∀ c, s.channels[i]? = some c → (f c).Sound) : ∀ c ∈ (s.on_channel i f).channels, c.Sound := by
  intro c hc
  obtain ⟨j, hj⟩ := List.mem_iff_getElem?.1 hc
  dsimp only [Tunnel.on_channel] at hj
  rw [List.getElem?_modify] at hj
  obtain ⟨d, hd, rfl⟩ := Option.map_eq_some_iff.1 hj
  split
  · rename_i hij
    subst hij
    exact hf d hd
  · exact h d (List.mem_of_getElem? hd)

/-! ## Each action keeps the invariant -/

section

variable {s : Tunnel} {pos last : Nat × Nat} (h : s.Inv pos last)
include h

theorem recv_inv {conn n : Nat} {payload : Bytes} (hc : s.client = some (conn, n)) :
    ({ s with client := some (conn, n + payload.length), usb := s.usb ++ [⟨conn, n, payload⟩] } : Tunnel).Inv pos
      (conn, n + payload.length) where
  channels := h.channels
  in_order := in_order_snoc (r := ⟨conn, n, payload⟩) h.in_order ((h.client conn n hc).imp_right Eq.symm)
  client conn' n' he := by
    cases he
    exact .inr rfl
  idle := h.idle
  delivering := h.delivering

/-- The record that is taken begins a connection or goes on with the last one. -/
theorem take_record_inv {r : Record} {usb : List Record} (hw : s.worker = .idle) (hu : s.usb = r :: usb) :
    ({ s with usb := usb, worker := .delivering r 0 0 } : Tunnel).Inv (r.conn, r.stop) last where
  channels := h.channels
  in_order := by
    have ho := h.in_order
    rw [hu] at ho
    exact ho.2
  client := h.client
  idle he := by cases he
  delivering r' attempt w he := by
    cases he
    refine ⟨rfl, Nat.zero_le _, fun _ => rfl, ?_⟩
    have ho := h.in_order
    rw [hu] at ho
    rcases ho.1 with hz | hp
    · exact .inl ⟨rfl, hz⟩
    · right
      have hi := h.idle hw
      rw [← hp] at hi
      exact hi

theorem open_update_inv {a b : Nat} {buf : Buffer} {r : Record} {attempt w : Nat}
    (hw : s.worker = .delivering r attempt w) (hup : s.update_ = none) (hz : r.start = 0) :
    ({ s with
      channels := s.channels ++ [.opened a b buf], update_ := some s.channels.length } : Tunnel).Inv pos last where
  channels c hc := by
    rcases List.mem_append.1 hc with hc | hc
    · exact h.channels c hc
    · rw [List.mem_singleton.1 hc]
      exact Channel.opened_sound a b buf
  in_order := h.in_order
  client := h.client
  idle he := by cases hw.symm.trans he
  delivering r' attempt' w' he := by
    cases hw.symm.trans he
    obtain ⟨hpos, hwl, hw0, -⟩ := h.delivering _ _ _ hw
    exact ⟨hpos, hwl, fun he => (by cases he), .inl ⟨hw0 hup, hz⟩⟩

/-- Without an update channel, and with nothing or a whole record in hand. -/
theorem closed_inv {t : Tunnel} (hch : t.channels = s.channels) (husb : t.usb = s.usb) (hcl : t.client = s.client)
    (hup : t.update_ = none)
    (hw : ∀ r attempt w, t.worker = .delivering r attempt w → pos = (r.conn, r.stop) ∧ w = 0) : t.Inv pos last where
  channels := by rw [hch]; exact h.channels
  in_order := by rw [husb]; exact h.in_order
  client := by rw [hcl]; exact h.client
  idle _ := placed_closed hup _ _
  delivering r attempt w he := by
    obtain ⟨hpos, rfl⟩ := hw r attempt w he
    exact ⟨hpos, Nat.zero_le _, fun _ => rfl, .inr (placed_closed hup _ _)⟩

/-- The channel that a piece is written to, while its handler is at work, got
exactly what comes before the piece. -/
theorem write_holds {r : Record} {attempt w k : Nat} {c : Channel} (hw : s.worker = .delivering r attempt w)
    (hc : s.channel = some c) (hb : c.busy) (hg : s.safe (.write k) = true) : c.Holds r.conn (r.start + w) := by
  obtain ⟨-, -, -, ⟨rfl, hz⟩ | hp⟩ := h.delivering r attempt w hw
  · simp only [safe, hw, hc] at hg
    have hphase : c.handler.phase ≠ .finished := hb
    have hempty : c.inbox = [] ∧ c.reads = [] := by simpa [hz, hphase] using hg
    rw [Channel.Holds, hempty.1, hempty.2, hz]
    exact ⟨trivial, rfl⟩
  · exact hp c hc hb

theorem write_inv {r : Record} {attempt w i k : Nat} (hw : s.worker = .delivering r attempt w) (hi : s.update_ = some i)
    (hk : w + k ≤ r.payload.length) (hg : s.safe (.write k) = true) :
    ({ s.on_channel i (·.written ((r.bytes.drop w).take k)) with
      worker := if w + k < r.payload.length then .delivering r attempt (w + k) else .idle } : Tunnel).Inv pos last := by
  obtain ⟨hpos, hwl, -, -⟩ := h.delivering r attempt w hw
  have hpiece := consecutive_piece r w k hwl
  have hlen := piece_length r w k hk
  have hat : ∀ c, s.channels[i]? = some c → s.channel = some c := fun c hc => by rw [channel, hi]; exact hc
  have hplaced : (s.on_channel i (·.written ((r.bytes.drop w).take k))).Placed r.conn (r.start + (w + k)) := by
    intro c hc hb
    rcases channel_on_channel hc with ⟨-, d, hsd, -, rfl⟩ | ⟨hne, -⟩
    · have := (write_holds h hw hsd hb hg).written hpiece
      rwa [hlen, Nat.add_assoc] at this
    · exact absurd hi hne
  refine ⟨on_channel_sound h.channels ?_, h.in_order, h.client, ?_, ?_⟩
  · intro c hc
    by_cases hb : c.busy
    · exact ((write_holds h hw (hat c hc) hb hg).written hpiece).sound
    · obtain ⟨conn, hreads, -⟩ := h.channels c (List.mem_of_getElem? hc)
      exact ⟨conn, hreads, fun hb' => absurd hb' hb⟩
  · intro he
    have hdone : w + k = r.payload.length := by
      dsimp only at he
      split at he
      · cases he
      · omega
    rw [hpos]
    rw [hdone] at hplaced
    exact hplaced
  · intro r' attempt' w' he
    dsimp only at he
    split at he
    · cases he
      exact ⟨hpos, hk, fun hup => (by cases hi.symm.trans hup), .inr hplaced⟩
    · cases he

theorem write_fails_inv {r : Record} {attempt w : Nat} (hw : s.worker = .delivering r attempt w) :
    (s.next_attempt r attempt).Inv pos last := by
  refine closed_inv h rfl rfl rfl rfl ?_
  intro r' attempt' w' he
  dsimp only [next_attempt] at he
  split at he
  · cases he
    exact ⟨(h.delivering _ _ _ hw).1, rfl⟩
  · cases he

/-- What a handler does keeps the bytes of its channel. -/
theorem on_channel_inv {i : Nat} {f : Channel → Channel} (hs : ∀ c, s.channels[i]? = some c → (f c).Sound)
    (hf : ∀ c, s.channels[i]? = some c → (f c).busy → c.busy ∧ (f c).reads ++ (f c).inbox = c.reads ++ c.inbox) :
    (s.on_channel i f).Inv pos last where
  channels := on_channel_sound h.channels hs
  in_order := h.in_order
  client := h.client
  idle he := (h.idle he).on_channel hf
  delivering r attempt w he := by
    obtain ⟨hpos, hwl, hup, hp⟩ := h.delivering r attempt w he
    exact ⟨hpos, hwl, hup, hp.imp_right (·.on_channel hf)⟩

theorem handled_inv {size_member : Bytes → Option Int64} {i : Nat} {c : Channel} {o : Outcome} {hd : Handler}
    (hc : s.channels[i]? = some c) (hs : c.handler.step size_member o = some hd) :
    (s.on_channel i (·.handled hd o)).Inv pos last := by
  have hb : c.busy := Channel.step_busy hs
  refine on_channel_inv h ?_ ?_
  · intro d hdc
    cases hc.symm.trans hdc
    exact Channel.handled_sound (h.channels c (List.mem_of_getElem? hc)) hb
  · intro d hdc _
    cases hc.symm.trans hdc
    exact ⟨hb, Channel.handled_bytes c hd o⟩

theorem handler_close_inv {i : Nat} : (s.on_channel i ({ · with handler_open := false })).Inv pos last :=
  on_channel_inv h (fun c hc => h.channels c (List.mem_of_getElem? hc)) fun _ _ hb => ⟨hb, rfl⟩

/-- `pump` takes nothing from a handler's end where its descriptor is no handler's. -/
theorem pump_read_inv {fd n : Nat} (hp : s.pump = .polled fd) (hg : s.safe (.pump_read n) = true) (pump : Pump) :
    ({ s.pump_take fd n with pump := pump } : Tunnel).Inv pos last := by
  simp only [safe, hp, Bool.or_eq_true, beq_iff_eq, List.all_eq_true] at hg
  have hsame : s.pump_take fd n = s := by
    have hmap : s.channels.map (fun c => if c.handler_open && c.handler_fd == fd then c.stolen n else c) =
        s.channels := by
      refine (List.map_congr_left fun c hc => ?_).trans (List.map_id _)
      split
      · rename_i hfd
        rcases hg with rfl | hg
        · rfl
        · have hno := hg c hc
          simp only [Bool.and_eq_true, beq_iff_eq] at hfd
          simp [hfd.1, hfd.2] at hno
      · rfl
    rw [pump_take, hmap]
  rw [hsame]
  exact { h with }

end

section

variable {size_member : Bytes → Option Int64}

theorem step_inv {s s' : Tunnel} {a : Action} {pos last : Nat × Nat} (hI : s.Inv pos last) (hg : s.safe a = true)
    (h : s.step size_member a = some s') : ∃ pos last, s'.Inv pos last := by
  cases a with
  | accept =>
    cases h
    exact ⟨pos, last, hI.channels, hI.in_order, fun _ _ he => (by cases he; exact .inl rfl), hI.idle, hI.delivering⟩
  | recv payload =>
    simp only [step] at h
    split at h
    · rename_i conn n hc
      split at h
      · cases h
        exact ⟨pos, _, recv_inv hI hc⟩
      · cases h
    · cases h
  | close_client =>
    cases h
    exact ⟨pos, last, hI.channels, hI.in_order, fun _ _ he => (by cases he), hI.idle, hI.delivering⟩
  | take_record =>
    simp only [step] at h
    split at h
    · rename_i r usb hw hu
      cases h
      exact ⟨_, last, take_record_inv hI hw hu⟩
    · cases h
  | open_update a b buf =>
    simp only [step] at h
    split at h
    · rename_i r attempt w hw hup
      split at h
      · cases h
        simp only [safe, hw, beq_iff_eq] at hg
        exact ⟨pos, last, open_update_inv hI hw hup hg⟩
      · cases h
    · cases h
  | open_fails =>
    simp only [step] at h
    split at h
    · rename_i hup
      cases h
      exact ⟨pos, last, closed_inv hI rfl rfl rfl hup fun _ _ _ he => by cases he⟩
    · cases h
  | write k =>
    simp only [step] at h
    split at h
    · rename_i r attempt w i hw hi
      split at h
      · rename_i hk
        cases h
        exact ⟨pos, last, write_inv hI hw hi hk.2.2 hg⟩
      · cases h
    · cases h
  | write_fails =>
    simp only [step] at h
    split at h
    · rename_i r attempt w i hw hi
      split at h
      · cases h
        exact ⟨pos, last, write_fails_inv hI hw⟩
      · cases h
    · cases h
  | die =>
    cases h
    exact ⟨pos, last, { hI with }⟩
  | end_session =>
    simp only [step] at h
    split at h
    · cases h
      exact ⟨pos, last, closed_inv hI rfl rfl rfl rfl fun _ _ _ he => by cases he⟩
    · cases h
  | pump_snapshot =>
    simp only [step] at h
    split at h
    · cases h
    · cases h
    · split at h
      · cases h
      · cases h
        exact ⟨pos, last, { hI with }⟩
  | pump_read n =>
    simp only [step] at h
    split at h
    · rename_i fd hp
      split at h
      · cases h
        exact ⟨pos, last, pump_read_inv hI hp hg _⟩
      · cases h
    · cases h
  | close_channel =>
    simp only [step] at h
    split at h
    · cases h
    · rename_i hp hnd
      cases h
      exact ⟨pos, last, closed_inv hI rfl rfl rfl rfl fun r attempt w he => absurd he (hnd r attempt w)⟩
    · cases h
  | handler i o =>
    simp only [step] at h
    split at h
    · rename_i c hc
      split at h
      · obtain ⟨hd, hs, rfl⟩ := Option.map_eq_some_iff.1 h
        exact ⟨pos, last, handled_inv hI hc hs⟩
      · cases h
    · cases h
  | handler_close i =>
    simp only [step] at h
    split at h
    · split at h
      · cases h
        exact ⟨pos, last, handler_close_inv hI⟩
      · cases h
    · cases h

theorem init_inv : init.Inv (0, 0) (0, 0) where
  channels _ hc := by cases hc
  in_order := rfl
  client _ _ he := by cases he
  idle _ := placed_closed rfl _ _
  delivering _ _ _ he := by cases he

end

/-- In every run that meets the conditions, each handler reads bytes of one host
connection only, from its first byte on. -/
theorem one_connection_one_upload (size_member : Bytes → Option Int64) (as : List Action) (s : Tunnel)
    (h : Run (step size_member) init as s) (hm : Meets (step size_member) (fun s a => s.safe a = true) init as) :
    ∀ c ∈ s.channels, ∃ conn, Consecutive conn 0 c.reads := by
  obtain ⟨pos, last, hI⟩ : ∃ pos last, s.Inv pos last :=
    h.inv_meets (fun s => ∃ pos last, s.Inv pos last) ⟨_, _, init_inv⟩
      (fun _ _ _ ⟨_, _, hI⟩ hg hs => step_inv hI hg hs) hm
  intro c hc
  obtain ⟨conn, hreads, -⟩ := hI.channels c hc
  exact ⟨conn, hreads⟩

def stack : Buffer := ⟨List.replicate 65536 0, List.length_replicate⟩

/-- Reads the member of one header. -/
def three (text : Bytes) : Option Int64 := if text = Handler.three_bytes then some 3 else none

/-- A client that sends a header for three bytes and the first of them, up to a
handler that waits for the others. -/
def begun_upload : List Action :=
  [.accept, .recv (Handler.three_bytes ++ [10, 7]), .take_record, .open_update 3 4 stack, .write 12] ++
    (Handler.three_bytes ++ [10]).map (fun v => .handler 0 (.read (.data [v]))) ++
    [.handler 0 (.begin_stream_install true), .handler 0 (.read (.data [7])), .handler 0 (.send (.sent 1))]

/-- The upload is completed, and a second connection comes after its handler has closed. -/
def two_uploads : List Action :=
  begun_upload ++
    [.recv [8, 9], .take_record, .write 2, .handler 0 (.read (.data [8, 9])), .handler 0 (.send (.sent 2)),
      .handler_close 0, .pump_snapshot, .pump_read 37, .accept, .recv (Handler.three_bytes ++ [10]), .take_record,
      .write_fails, .open_update 3 4 stack, .write 11, .handler 1 (.read (.data [123]))]

theorem one_connection_one_upload_two :
    ∃ s, Run (step three) init two_uploads s ∧ s.channels.map (·.reads.length) = [14, 1] ∧
      ∀ c ∈ s.channels, ∃ conn, Consecutive conn 0 c.reads := by
  obtain ⟨s, hs, hlen⟩ : ∃ s, exec (step three) init two_uploads = some s ∧
      s.channels.map (·.reads.length) = [14, 1] := ⟨_, rfl, rfl⟩
  exact ⟨s, run_of_exec hs, hlen, one_connection_one_upload three _ s (run_of_exec hs) (meets_of_checks rfl)⟩

/-- The client goes away in the middle of the upload and a new one tries again. -/
def retried_upload : List Action :=
  begun_upload ++ [.accept, .recv (Handler.three_bytes ++ [10]), .take_record, .write 11,
    .handler 0 (.read (.data [123, 34]))]

/-- The header of the second upload goes into the image of the first. -/
theorem retried_header_in_image :
    ¬ ∀ size_member as s, Run (step size_member) init as s → ∀ c ∈ s.channels, ∃ conn, Consecutive conn 0 c.reads := by
  intro hall
  obtain ⟨s, hs, hreads⟩ : ∃ s, exec (step three) init retried_upload = some s ∧
      s.channels.map (fun c => (c.reads.drop 11).map (·.conn)) = [[0, 1, 1]] := ⟨_, rfl, rfl⟩
  obtain ⟨c, hc, he⟩ : ∃ c ∈ s.channels, (c.reads.drop 11).map (·.conn) = [0, 1, 1] :=
    List.mem_map.1 (hreads ▸ List.mem_singleton_self _)
  obtain ⟨conn, hone⟩ := hall three _ s (run_of_exec hs) c hc
  have hconn : ∀ k ∈ [0, 1, 1], k = conn := by
    intro k hk
    rw [← he] at hk
    obtain ⟨b, hb, rfl⟩ := List.mem_map.1 hk
    exact consecutive_conn hone b (List.mem_of_mem_drop hb)
  have h0 := hconn 0 (by simp)
  have h1 := hconn 1 (by simp)
  omega

end Tunnel

end CameraStreamer.Update.UpdateTunnel
