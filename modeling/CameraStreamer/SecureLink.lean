import Mathlib.Data.List.TakeWhile
import CameraStreamer.LocalTunnel
import CameraStreamer.EndpointBuffer
import CameraStreamer.SessionSecurity
/-!
# The tunnel from end to end

A session as both ends see it: the worker and the reader of the host's bridge,
the two bulk pipes, the device's demultiplexer with its `LocalTunnel`, and the
record writer among its producers. The ends read the pipes in whatever pieces
they come in, and any order of the threads' steps is a run; the worker's loop
takes its own steps in some order, which is not looked at here.
-/

namespace CameraStreamer.Secure.SecureLink

open Incremental Runs

/-! ## The two ends -/

/-- `kChannels` of the bridge: what its two listeners are for. -/
def kChannels (i : Fin 2) : Channel := if i.val = 0 then .Control else .Update

/-- The place of `Channel::Control` there. -/
def kControl : Fin 2 := ⟨0, Nat.two_pos⟩

def channelIndex (channel : Channel) : Option (Fin 2) :=
  if channel = .Control then some kControl else if channel = .Update then some ⟨1, Nat.one_lt_two⟩ else none

/-- A TCP connection to a port of the bridge. -/
structure Client where
  index : Fin 2
  /-- What its program has written to it, and what of that the bridge has received. -/
  written : Bytes
  received : Bytes
  /-- What the bridge has written to it. -/
  got : Bytes
  /-- A write to it has failed. -/
  broken : Bool

/-- Where the serve thread is. -/
inductive Place where
  | reading
  | parsing
  /-- In the loop of `deliver` over `control_buffer_`. -/
  | dispatching
  /-- In `enqueue_`, with a reply. -/
  | enqueuing
  /-- The session is over. -/
  | ended
  deriving DecidableEq

/-- Producers of the writer: the serve thread, the pump, and from 2 on the cameras and detectors. -/
def kServe : Nat := 0
def kPump : Nat := 1

/-- `sent` and `taken` are the records of the bridge's two directions, each with
the client it came from or went to, and `out` is what was transferred to the device. -/
structure Link where
  clients : Fin 2 → Option Nat
  conns : List Client
  encrypt : SecureRecord
  decrypt : SecureRecord
  inbound : WireBuffer
  ended : Bool
  sent : List (Option Nat × WireMessage)
  taken : List (Option Nat × WireMessage)
  failures : List String
  out : Bytes
  out_read : Nat
  in_read : Nat
  place : Place
  demux : Demux
  stream : WireBuffer
  served : List Served
  tunnel : LocalTunnel
  /-- The channels whose descriptor was open in the snapshot that `pump` took last. -/
  polled : List Channel
  writer : RecordWriter

/-- Both ends have the keys of the handshake. -/
def start (keys : SessionKeys) : Link where
  clients := fun _ => none
  conns := []
  encrypt := .new keys.host_key keys.host_iv
  decrypt := .new keys.device_key keys.device_iv
  inbound := []
  ended := false
  sent := []
  taken := []
  failures := []
  out := []
  out_read := 0
  in_read := 0
  place := .reading
  demux := ⟨some (.new keys.host_key keys.host_iv), some 0, 1⟩
  stream := []
  served := []
  tunnel := .start
  polled := []
  writer := .new keys.device_key keys.device_iv

inductive Act where
  /-- A program connects to a port. -/
  | connect (i : Fin 2)
  | app_writes (k : Nat) (bytes : Bytes)
  /-- `recv` of `n` bytes and `sendRecord`; a transfer that fails has moved `cut` bytes. -/
  | recv (i : Fin 2) (n : Nat) (cut : Option Nat)
  /-- `recv` finds the client gone. -/
  | hang_up (i : Fin 2)
  /-- `readerLoop` appends `n` bytes of what the device has written: no transfer is padded. -/
  | read_in (n : Nat)
  /-- A turn of `drainInbound`; the client takes `accepts` bytes. -/
  | drain (accepts : Nat)
  /-- The reader fails, or the bridge is stopped. -/
  | leave
  /-- `read` of the endpoint, by the serve thread. -/
  | read_out (n : Nat)
  | read_fails
  /-- A turn of its inner loop. -/
  | turn (attempt : Nat → Attempt)
  /-- A turn of the loop over `control_buffer_`. -/
  | dispatch
  | enqueued
  | take_snapshot
  /-- The pump reads `chunk` from a number of its snapshot, whatever that stands for by then. -/
  | pump (channel : Channel) (chunk : Bytes)
  | close_channel (channel : Channel)
  /-- `enqueue` from a camera's sink or detector. -/
  | other (p : Nat) (message : WireMessage) (droppable : Bool)
  | writer (a : WriterAction)

namespace Link

/-! ## The bridge -/

def sendRecord (A : Aead) (s : Link) (i : Fin 2) (k : Nat) (payload : Bytes) (cut : Option Nat) : Link :=
  let message : WireMessage := ⟨kChannels i, 0, payload⟩
  match make_wire_record A .ok message.channel message.stream message.payload s.encrypt with
  | (.error e, encrypt) =>
    { s with encrypt, failures := s.failures ++ ["cannot seal outbound record: " ++ e], ended := true }
  | (.ok wire, encrypt) =>
    let s := { s with encrypt, sent := s.sent ++ [(some k, message)] }
    match cut with
    | none => { s with out := s.out ++ wire }
    | some moved => { s with out := s.out ++ wire.take moved, ended := true }

def closeClient (s : Link) (i : Fin 2) : Link := { s with clients := Function.update s.clients i none }

def on_client (s : Link) (k : Nat) (f : Client → Client) : Link := { s with conns := s.conns.modify k f }

/-- What `drainInbound` does with a message. -/
def take (s : Link) (accepts : Nat) (message : WireMessage) : Link :=
  match channelIndex message.channel with
  | none => { s with taken := s.taken ++ [(none, message)] }
  | some i =>
    match s.clients i with
    | none => { s with taken := s.taken ++ [(none, message)] }
    | some k =>
      let s := { s with taken := s.taken ++ [(some k, message)] }
      if message.payload.length ≤ accepts then s.on_client k fun c => { c with got := c.got ++ message.payload }
      else
        (s.on_client k fun c => { c with got := c.got ++ message.payload.take accepts, broken := true }).closeClient i

/-- What is printed when the session ends for what was received. -/
def report : Received → Option String
  | .message _ => none
  | .framing_failure e => some ("framing failure: " ++ e)
  | .record_rejected e => some ("record rejected: " ++ e)

def drainInbound (A : Aead) (s : Link) (accepts : Nat) : Link :=
  match (Secure.drainInbound A Ssl.works).turn s.decrypt s.inbound with
  | .more evs decrypt inbound => (messages evs).foldl (·.take accepts) { s with decrypt, inbound }
  | .wait _ decrypt inbound => { s with decrypt, inbound }
  | .stop evs => { s with failures := s.failures ++ evs.filterMap report, ended := true }

/-! ## The device -/

/-- `find('\n')`, `substr` and `erase`. -/
def find_line (buffer : Bytes) : Option (Bytes × Bytes) :=
  if 10 ∈ buffer then some (buffer.takeWhile (· ≠ 10), (buffer.dropWhile (· ≠ 10)).tail) else none

/-- `deliver_local`, up to the loop over `control_buffer_`. -/
def deliver (dispatch_ : Nat → Bytes → Bytes) (open_update_ : Bool) (attempt : Nat → Attempt) (message : WireMessage)
    (s : Link) : Link :=
  if message.channel = .Control then
    { s with
      tunnel := { s.tunnel with control_buffer_ := s.tunnel.control_buffer_ ++ message.payload }
      place := .dispatching }
  else { s with tunnel := s.tunnel.deliver (some dispatch_) open_update_ attempt message }

/-- A turn of the inner loop of `serve_session`. What is not a record of this session ends it. -/
def turn (A : Aead) (answer : Answer) (dispatch_ : Nat → Bytes → Bytes) (open_update_ : Bool)
    (attempt : Nat → Attempt) (s : Link) : Link :=
  match (Secure.demux (.works A answer)).turn s.demux s.stream with
  | .more evs demux stream =>
    let s := { s with demux, stream, served := s.served ++ evs }
    match evs with
    | [.delivered _ message] => s.deliver dispatch_ open_update_ attempt message
    | _ => { s with place := .ended }
  | .wait evs demux stream =>
    { s with demux, stream, served := s.served ++ evs, place := if evs = [] ∧ ¬ s.writer.dead_ then .reading else .ended }
  | .stop evs => { s with served := s.served ++ evs, place := .ended }

/-- What the descriptor of a channel stands for. -/
def descriptor (s : Link) (channel : Channel) : Option Connection :=
  if channel = .Control then s.tunnel.control_.current else s.tunnel.update_.current

/-- `enqueue` is called. -/
def call (A : Aead) (s : Link) (p : Nat) (message : WireMessage) (droppable : Bool) : Option Link :=
  (s.writer.step A (.call p message droppable)).map fun writer => { s with writer }

/-- The loop over `control_buffer_` has found a line. -/
def dispatch_line (A : Aead) (dispatch_ : Nat → Bytes → Bytes) (s : Link) (line rest : Bytes) : Option Link :=
  let reply := dispatch_ s.tunnel.dispatched.length line
  let s := { s with tunnel := { s.tunnel with control_buffer_ := rest }.dispatch_line dispatch_ line }
  if reply = [] then some s else { s with place := .enqueuing }.call A kServe ⟨.Control, 0, reply⟩ false

def step (A : Aead) (answer : Answer) (dispatch_ : Nat → Bytes → Bytes) (open_update_ : Bool) (s : Link) :
    Act → Option Link
  | .connect i =>
    if s.ended then none
    else some { s with
      conns := s.conns ++ [⟨i, [], [], [], false⟩]
      clients := Function.update s.clients i (some s.conns.length) }
  | .app_writes k bytes => some (s.on_client k fun c => { c with written := c.written ++ bytes })
  | .recv i n cut =>
    match s.ended, s.clients i with
    | false, some k =>
      match s.conns[k]? with
      | some c =>
        let payload := (c.written.drop c.received.length).take n
        if 0 < n ∧ n ≤ kMaxPayload - 2 ∧ payload.length = n then
          some ((s.on_client k fun c => { c with received := c.received ++ payload }).sendRecord A i k payload cut)
        else none
      | none => none
    | _, _ => none
  | .hang_up i => if s.ended then none else some (s.closeClient i)
  | .read_in n =>
    let bytes := (s.writer.endpoint.drop s.in_read).take n
    if s.ended ∨ bytes.length ≠ n then none
    else some { s with inbound := s.inbound.append bytes, in_read := s.in_read + n }
  | .drain accepts => if s.ended then none else some (s.drainInbound A accepts)
  | .leave => some { s with ended := true }
  | .read_out n =>
    let chunk := (s.out.drop s.out_read).take n
    if s.place = .reading ∧ 0 < n ∧ n ≤ kEndpointChunk ∧ chunk.length = n then
      some { s with stream := s.stream.append chunk, out_read := s.out_read + n, place := .parsing }
    else none
  | .read_fails => if s.place = .reading then some { s with place := .ended } else none
  | .turn attempt => if s.place = .parsing then some (s.turn A answer dispatch_ open_update_ attempt) else none
  | .dispatch =>
    if s.place = .dispatching then
      match find_line s.tunnel.control_buffer_ with
      | some (line, rest) => s.dispatch_line A dispatch_ line rest
      | none => some { s with place := .parsing }
    else none
  | .enqueued =>
    match s.place, s.writer.callers kServe with
    | .enqueuing, .outside => some { s with place := .dispatching }
    | _, _ => none
  | .take_snapshot =>
    some { s with polled := [Channel.Control, .Update].filter fun channel => (s.descriptor channel).isSome }
  | .pump channel chunk =>
    if channel ∈ s.polled ∧ 0 < chunk.length ∧ chunk.length ≤ 32 * 1024 then
      { s with tunnel := { s.tunnel with enqueued := s.tunnel.enqueued ++ [(channel, chunk)] } }.call A kPump
        ⟨channel, 0, chunk⟩ false
    else none
  | .close_channel channel =>
    (LocalTunnel.step (some dispatch_) open_update_ s.tunnel (.close_channel channel)).map fun tunnel =>
      { s with tunnel }
  | .other p message droppable =>
    if 2 ≤ p ∧ (message.channel = .Video ∨ message.channel = .Meta) then s.call A p message droppable else none
  | .writer (.call _ _ _) => none
  | .writer a => (s.writer.step A a).map fun writer => { s with writer }

end Link

/-! ## A reader of a wire -/

section Wire
variable {A : Aead} {r0 r : SecureRecord} {ms done : List WireMessage} {b wire : Bytes} {n : Nat}

theorem framed_all_split (A : Aead) (r : SecureRecord) (ms ms' : List WireMessage) :
    framed_all A r (ms ++ ms') = framed_all A r ms ++ framed_all A (r.skip ms.length) ms' := by
  induction ms generalizing r with
  | nil => rw [List.nil_append, List.length_nil, SecureRecord.skip_zero]; rfl
  | cons m ms ih => rw [List.cons_append, framed_all, framed_all, ih, List.length_cons, SecureRecord.skip_succ]; rfl

/-- Of the `n` bytes it has taken off the wire, the reader has opened the records
of `done` and has `b` left. -/
structure Reads (A : Aead) (r0 : SecureRecord) (ms done : List WireMessage) (r : SecureRecord) (b wire : Bytes)
    (n : Nat) : Prop where
  bytes : (framed_all A r0 done).flatten ++ b = wire.take n
  bound : n ≤ wire.length
  record : r = r0.skip done.length
  opened : done <+: ms

/-- More is written. -/
theorem Reads.grow (h : Reads A r0 ms done r b wire n) {ms' : List WireMessage} {wire' : Bytes} (hms : ms <+: ms')
    (hwire : wire <+: wire') : Reads A r0 ms' done r b wire' n where
  bytes := by
    obtain ⟨x, rfl⟩ := hwire
    rw [List.take_append_of_le_length h.bound]
    exact h.bytes
  bound := h.bound.trans hwire.length_le
  record := h.record
  opened := h.opened.trans hms

/-- More is read. -/
theorem Reads.append (h : Reads A r0 ms done r b wire n) {k : Nat} (hk : ((wire.drop n).take k).length = k) :
    Reads A r0 ms done r (b ++ (wire.drop n).take k) wire (n + k) where
  bytes := by rw [← List.append_assoc, h.bytes, ← List.take_add]
  bound := by
    have := h.bound
    rw [List.length_take, List.length_drop] at hk
    omega
  record := h.record
  opened := h.opened

/-- The next record is opened. -/
theorem Reads.open {m : WireMessage} {rest : Bytes} (h : Reads A r0 ms done r (framed A r m ++ rest) wire n)
    (hm : done ++ [m] <+: ms) : Reads A r0 ms (done ++ [m]) r.next_nonce.2 rest wire n where
  bytes := by
    rw [framed_all_append, ← h.record, List.flatten_append, List.flatten_singleton, List.append_assoc]
    exact h.bytes
  bound := h.bound
  record := by rw [h.record, SecureRecord.skip_next, List.length_append, List.length_singleton]
  opened := hm

/-- The wire carries a beginning of the records: what the reader has left starts
with the next one, or is less than that. -/
theorem Reads.next (h : Reads A r0 ms done r b wire n) (hwire : wire <+: (framed_all A r0 ms).flatten)
    (hms : ∀ m ∈ ms, m.Fits) :
    (∃ m, m.Fits ∧ b <+: framed A r m ∧ b ≠ framed A r m) ∨
      ∃ m rest, m.Fits ∧ b = framed A r m ++ rest ∧ done ++ [m] <+: ms := by
  obtain ⟨todo, rfl⟩ := h.opened
  have hb : b <+: (framed_all A r todo).flatten := by
    have hpre : (framed_all A r0 done).flatten ++ b <+: (framed_all A r0 (done ++ todo)).flatten :=
      h.bytes ▸ (List.take_prefix n wire).trans hwire
    rwa [framed_all_split, ← h.record, List.flatten_append, List.prefix_append_right_inj] at hpre
  cases todo with
  | nil =>
    have hnil : b = [] := List.prefix_nil.1 hb
    refine .inl ⟨⟨.Control, 0, []⟩, by decide, hnil ▸ List.nil_prefix, fun he => ?_⟩
    have hlen := congrArg List.length he
    rw [hnil, framed_length] at hlen
    simp at hlen
  | cons m todo =>
    have hm : m.Fits := hms m (by simp)
    rcases List.prefix_or_prefix_of_prefix hb (List.prefix_append (framed A r m) _) with hpart | ⟨rest, rfl⟩
    · by_cases he : b = framed A r m
      · exact .inr ⟨m, [], hm, by rw [he, List.append_nil], ⟨todo, by simp⟩⟩
      · exact .inl ⟨m, hm, hpart, he⟩
    · exact .inr ⟨m, rest, hm, rfl, ⟨todo, by simp⟩⟩

/-- Nothing is left of a wire that was written to its end. -/
theorem Reads.all (h : Reads A r0 ms done r [] wire wire.length) (hwire : wire = (framed_all A r0 ms).flatten) :
    done = ms := by
  obtain ⟨todo, rfl⟩ := h.opened
  have hb := h.bytes
  rw [List.take_length, hwire, framed_all_split, List.flatten_append, List.append_right_inj] at hb
  cases todo with
  | nil => rw [List.append_nil]
  | cons m todo =>
    have hlen := congrArg List.length hb
    rw [framed_all, List.flatten_cons, List.length_append, framed_length, List.length_nil] at hlen
    omega

end Wire

/-! ## The invariant -/

/-- The bytes of the records that came from client `k` or went to it. -/
def part (k : Nat) (records : List (Option Nat × WireMessage)) : Bytes :=
  ((records.filter (·.1 = some k)).map (·.2.payload)).flatten

/-- What client `k` has is what the records that came from it and went to it have,
all of them on its channel. -/
structure Client.Sound (k : Nat) (sent taken : List (Option Nat × WireMessage)) (c : Client) : Prop where
  received : c.received = part k sent
  of_written : c.received <+: c.written
  got : c.got <+: part k taken
  whole : c.broken = false → c.got = part k taken
  channel : ∀ x ∈ sent ++ taken, x.1 = some k → x.2.channel = kChannels c.index

/-- The payloads on a channel. -/
def on (channel : Channel) (ms : List WireMessage) : List Bytes := (ms.filter (·.channel = channel)).map (·.payload)

/-- What `dispatch_` has answered, where it has. -/
def answers (dispatch_ : Nat → Bytes → Bytes) (lines : List Bytes) : List Bytes :=
  (lines.zipIdx.map fun l => dispatch_ l.2 l.1).filter (· ≠ [])

/-- There is room for the payload in a record. -/
def room (payload : Bytes) : Bool := payload.length + 2 ≤ kMaxPayload

namespace Link

/-- The messages the device delivered, and those its writer sealed. -/
def delivered (s : Link) : List WireMessage := Secure.delivered 0 s.served

def sealed (s : Link) : List WireMessage := s.writer.sealed.map (·.call.message)

/-- What `enqueue_` was called with on a channel. -/
def enqueued (s : Link) (channel : Channel) : List Bytes := (s.tunnel.enqueued.filter (·.1 = channel)).map (·.2)

/-- The message of the call a producer is in, while its outcome is open. -/
def asked (w : RecordWriter) (p : Nat) : List WireMessage := (w.callers p).open?.toList.map (·.message)

structure Outward (A : Aead) (keys : SessionKeys) (s : Link) : Prop where
  fits : ∀ x ∈ s.sent, x.2.Fits
  encrypt : s.encrypt = (SecureRecord.new keys.host_key keys.host_iv).skip s.sent.length
  carried : s.out <+: (framed_all A (.new keys.host_key keys.host_iv) (s.sent.map (·.2))).flatten
  whole : s.ended = false → s.out = (framed_all A (.new keys.host_key keys.host_iv) (s.sent.map (·.2))).flatten
  reads : ∃ r, s.demux = ⟨some r, some 0, 1⟩ ∧
    Reads A (.new keys.host_key keys.host_iv) (s.sent.map (·.2)) s.delivered r s.stream s.out s.out_read
  served : ∀ e ∈ s.served, ∃ m, e = .delivered (some 0) m

structure Inward (A : Aead) (keys : SessionKeys) (s : Link) : Prop where
  writer : s.writer.Inv
  synced : Synced A keys.device_key keys.device_iv s.writer
  reads : Reads A (.new keys.device_key keys.device_iv) s.sealed (s.taken.map (·.2)) s.decrypt s.inbound
    s.writer.endpoint s.in_read
  failures : s.failures = []

structure Connected (s : Link) : Prop where
  clients : ∀ i k, s.clients i = some k → ∃ c, s.conns[k]? = some c ∧ c.index = i ∧ c.broken = false
  known : ∀ x ∈ s.sent ++ s.taken, ∀ k, x.1 = some k → k < s.conns.length
  sound : ∀ k c, s.conns[k]? = some c → Client.Sound k s.sent s.taken c

/-- No client but `k` has connected to the control port. -/
def Sole (conns : List Client) (k : Nat) : Prop := ∀ j, (conns[j]?).map Client.index = some kControl → j = k

structure Attached (s : Link) : Prop where
  origin : ∀ x ∈ s.sent, ∃ k, x.1 = some k
  sole : ∀ k, s.clients kControl = some k → Sole s.conns k → ∀ x ∈ s.taken, x.2.channel = .Control → x.1 = some k
  /-- What comes on the channel once the only client has gone comes after what went to it. -/
  first : ∀ k, (s.conns[k]?).map Client.index = some kControl → Sole s.conns k →
    part k s.taken <+: (on .Control (s.taken.map (·.2))).flatten

/-- A call of producer `p` is on its own channel, and the calls of the tunnel are not droppable. -/
def Proper (p : Nat) (c : Call) : Prop :=
  if p = kServe then c.message.channel = .Control ∧ c.droppable = false
  else if p = kPump then c.message.channel = .Update ∧ c.droppable = false
  else c.message.channel = .Video ∨ c.message.channel = .Meta

/-- What producer `p` was asked to send on its channel is sealed, but for the call it is in. -/
def Relayed (w : RecordWriter) (channel : Channel) (p : Nat) (enqueued : List Bytes) : Prop :=
  on channel (w.sealed.map (·.call.message) ++ (asked w p).filter (·.Fits)) = enqueued.filter room

structure Tunnelled (dispatch_ : Nat → Bytes → Bytes) (s : Link) : Prop where
  lines : LocalTunnel.payloads .Control s.delivered =
    (s.tunnel.dispatched.map (· ++ [10])).flatten ++ s.tunnel.control_buffer_
  clean : ∀ line ∈ s.tunnel.dispatched, 10 ∉ line
  unfinished : s.place = .reading ∨ s.place = .parsing → 10 ∉ s.tunnel.control_buffer_
  control_ : s.tunnel.control_.current = none
  polled : ∀ channel ∈ s.polled, channel = .Update
  replies : s.enqueued .Control = answers dispatch_ s.tunnel.dispatched
  proper : ∀ p c, (s.writer.callers p).open? = some c → Proper p c
  control : Relayed s.writer .Control kServe (s.enqueued .Control)
  update : Relayed s.writer .Update kPump (s.enqueued .Update)

structure Inv (A : Aead) (keys : SessionKeys) (dispatch_ : Nat → Bytes → Bytes) (s : Link) : Prop where
  outward : s.Outward A keys
  inward : s.Inward A keys
  connected : s.Connected
  attached : s.Attached
  tunnelled : s.Tunnelled dispatch_

end Link

/-! ## The writer's steps -/

section Writer
variable {A : Aead} {w w' : RecordWriter} {a : WriterAction}

/-- `p` moves, within its call or out of it. -/
theorem open_moved (callers : Nat → Caller) (p : Nat) (c : Caller) :
    (∀ q, (moved callers p c q).open? = if q = p then c.open? else (callers q).open?) := by
  intro q
  by_cases hq : q = p
  · rw [hq, RecordWriter.moved_self, if_pos rfl]
  · rw [RecordWriter.moved_other callers c hq, if_neg hq]

/-- Within its call nothing changes. -/
theorem open_moved_same {callers : Nat → Caller} {p : Nat} {c : Caller} (h : c.open? = (callers p).open?) (q : Nat) :
    (moved callers p c q).open? = (callers q).open? := by
  rw [open_moved]
  split
  · rename_i hq
    rw [hq, h]
  · rfl

/-- What a step of the writer, a call apart, does to the calls and to what is sealed. -/
theorem writer_cases (ha : ∀ p m d, a ≠ .call p m d) (hw : ∀ p evp, a = .make_record p evp → evp = .ok)
    (h : w.step A a = some w') :
    ((∀ q, (w'.callers q).open? = (w.callers q).open?) ∧ w'.sealed = w.sealed) ∨
      ∃ p c, (w.callers p).open? = some c ∧
        (∀ q, (w'.callers q).open? = if q = p then none else (w.callers q).open?) ∧
        (w'.sealed = w.sealed ∧ (c.droppable = true ∨ ¬ c.message.Fits) ∨
          ∃ wire, w'.sealed = w.sealed ++ [⟨c, wire⟩] ∧ c.message.Fits) := by
  cases a with
  | call p m d => exact absurd rfl (ha p m d)
  | lock p =>
    obtain ⟨c, hp, -, rfl⟩ := RecordWriter.step_lock h
    exact .inl ⟨open_moved_same (by rw [hp]; rfl), rfl⟩
  | test p =>
    obtain ⟨c, hp, ⟨hd, -, rfl⟩ | ⟨-, rfl⟩⟩ := RecordWriter.step_test h
    · exact .inr ⟨p, c, by rw [hp]; rfl, open_moved _ p .outside, .inl ⟨rfl, .inl hd⟩⟩
    · exact .inl ⟨open_moved_same (by rw [hp]; rfl), rfl⟩
  | make_record p evp =>
    obtain rfl := hw p evp rfl
    obtain ⟨c, hp, hc⟩ := RecordWriter.step_make_record h
    refine .inr ⟨p, c, by rw [hp]; rfl, ?_⟩
    rw [make_wire_record_eq A c.message w.encrypt_] at hc
    by_cases hf : c.message.Fits
    · rw [if_pos hf] at hc
      obtain ⟨e, encrypt, he, -⟩ | ⟨wire, encrypt, -, rfl⟩ := hc
      · cases he
      · exact ⟨open_moved _ p (.pushing c wire), .inr ⟨wire, rfl, hf⟩⟩
    · rw [if_neg hf] at hc
      obtain ⟨e, encrypt, -, rfl⟩ | ⟨wire, encrypt, he, -⟩ := hc
      · exact ⟨open_moved _ p .outside, .inl ⟨rfl, .inr hf⟩⟩
      · cases he
  | push p =>
    obtain ⟨c, wire, hp, -, rfl⟩ := RecordWriter.step_push h
    exact .inl ⟨open_moved_same (by rw [hp]; rfl), rfl⟩
  | check e =>
    obtain ⟨-, dead, drainer, rfl, -⟩ := RecordWriter.step_check h
    exact .inl ⟨fun _ => rfl, rfl⟩
  | wake => obtain ⟨-, ⟨-, rfl⟩ | ⟨record, queue, -, rfl⟩⟩ := RecordWriter.step_wake h <;> exact .inl ⟨fun _ => rfl, rfl⟩
  | write n =>
    obtain ⟨record, offset, -, ⟨-, -, rfl⟩ | ⟨-, rfl⟩⟩ := RecordWriter.step_write h <;> exact .inl ⟨fun _ => rfl, rfl⟩
  | write_fails =>
    obtain ⟨record, offset, -, rfl⟩ := RecordWriter.step_write_fails h
    exact .inl ⟨fun _ => rfl, rfl⟩
  | die =>
    rw [RecordWriter.step_die h]
    exact .inl ⟨fun _ => rfl, rfl⟩

/-- The endpoint only grows. -/
theorem writer_endpoint (h : w.step A a = some w') : w.endpoint <+: w'.endpoint := by
  cases a with
  | call p m d => obtain ⟨-, rfl⟩ := RecordWriter.step_call h; exact List.prefix_refl _
  | lock p => obtain ⟨c, -, -, rfl⟩ := RecordWriter.step_lock h; exact List.prefix_refl _
  | test p => obtain ⟨c, -, ⟨-, -, rfl⟩ | ⟨-, rfl⟩⟩ := RecordWriter.step_test h <;> exact List.prefix_refl _
  | make_record p evp =>
    obtain ⟨c, -, ⟨e, r, -, rfl⟩ | ⟨wire, r, -, rfl⟩⟩ := RecordWriter.step_make_record h <;> exact List.prefix_refl _
  | push p => obtain ⟨c, wire, -, -, rfl⟩ := RecordWriter.step_push h; exact List.prefix_refl _
  | check e => obtain ⟨-, dead, drainer, rfl, -⟩ := RecordWriter.step_check h; exact List.prefix_refl _
  | wake => obtain ⟨-, ⟨-, rfl⟩ | ⟨record, queue, -, rfl⟩⟩ := RecordWriter.step_wake h <;> exact List.prefix_refl _
  | write n =>
    obtain ⟨record, offset, -, ⟨-, -, rfl⟩ | ⟨-, rfl⟩⟩ := RecordWriter.step_write h <;> exact List.prefix_append _ _
  | write_fails => obtain ⟨record, offset, -, rfl⟩ := RecordWriter.step_write_fails h; exact List.prefix_refl _
  | die => exact RecordWriter.step_die h ▸ List.prefix_refl _

/-- What has reached the endpoint is a beginning of the sealed records. -/
theorem writer_carries {key : Key} {iv : Iv} (hw : w.Inv) (hs : Synced A key iv w) :
    w.endpoint <+: (framed_all A (.new key iv) (w.sealed.map (·.call.message))).flatten := by
  rw [← hs.wires, hw.accounted, hw.written, List.flatten_append, List.prefix_append_right_inj]
  have hpart : w.drainer.part <+: w.drainer.in_hand.flatten := by
    rcases in_hand_cases w.drainer with ⟨hh, hp⟩ | ⟨record, offset, hh, hp⟩
    · rw [hp]
      exact List.nil_prefix
    · rw [hh, hp, List.flatten_singleton]
      exact List.take_prefix _ _
  rw [List.flatten_append]
  exact hpart.trans (List.prefix_append _ _)

end Writer

/-! ## What is asked and what is sealed -/

namespace Link

section Calls
variable {A : Aead} {w w' : RecordWriter} {channel : Channel} {p : Nat} {enqueued : List Bytes}

theorem on_append (channel : Channel) (ms ms' : List WireMessage) :
    on channel (ms ++ ms') = on channel ms ++ on channel ms' := by
  rw [on, List.filter_append, List.map_append]
  rfl

theorem on_same {m : WireMessage} (h : m.channel = channel) : on channel [m] = [m.payload] := by
  rw [on, List.filter_cons_of_pos (by simpa using h)]
  rfl

theorem on_other {m : WireMessage} (h : m.channel ≠ channel) : on channel [m] = [] := by
  rw [on, List.filter_cons_of_neg (by simpa using h)]
  rfl

/-- Producer `p` alone uses the channel, and nothing it sends is droppable. -/
structure Owns (channel : Channel) (p : Nat) : Prop where
  own : ∀ c, Proper p c → c.message.channel = channel ∧ c.droppable = false
  others : ∀ q c, q ≠ p → Proper q c → c.message.channel ≠ channel

theorem serve_owns : Owns .Control kServe where
  own c h := h
  others q c hq h := by
    rw [Proper, if_neg hq] at h
    split at h
    · rw [h.1]; decide
    · rcases h with h | h <;> rw [h] <;> decide

theorem pump_owns : Owns .Update kPump where
  own c h := h
  others q c hq h := by
    rw [Proper] at h
    split at h
    · rw [h.1]; decide
    · rcases h with h | h <;> rw [h] <;> decide

theorem asked_of_open {c : Call} (h : (w.callers p).open? = some c) : asked w p = [c.message] := by rw [asked, h]; rfl

theorem asked_congr (h : (w'.callers p).open? = (w.callers p).open?) : asked w' p = asked w p := by rw [asked, h]; rfl

theorem Relayed.writer (hI : Relayed w channel p enqueued) (hown : Owns channel p)
    (hproper : ∀ q c, (w.callers q).open? = some c → Proper q c) {a : WriterAction} (ha : ∀ q m d, a ≠ .call q m d)
    (hw : ∀ q evp, a = .make_record q evp → evp = .ok) (h : w.step A a = some w') :
    Relayed w' channel p enqueued := by
  unfold Relayed at hI ⊢
  obtain ⟨hopen, hsealed⟩ | ⟨q, c, hq, hopen, hc⟩ := writer_cases ha hw h
  · rw [hsealed, asked_congr (hopen p)]
    exact hI
  by_cases hqp : q = p
  · -- its own call is over
    subst hqp
    obtain ⟨hchannel, hdrop⟩ := hown.own c (hproper q c hq)
    have hnone : asked w' q = [] := by rw [asked, hopen, if_pos rfl]; rfl
    rw [asked_of_open hq] at hI
    rw [hnone]
    obtain ⟨hsealed, hd | hf⟩ | ⟨wire, hsealed, hf⟩ := hc
    · rw [hdrop] at hd
      cases hd
    · rw [List.filter_cons_of_neg (by simpa using hf)] at hI
      rw [hsealed]
      exact hI
    · rw [List.filter_cons_of_pos (by simpa using hf)] at hI
      rw [hsealed, List.map_append, ← hI]
      simp
  · -- what another producer sends is on another channel
    have hother := hown.others q c hqp (hproper q c hq)
    rw [asked_congr ((hopen p).trans (if_neg (Ne.symm hqp)))]
    obtain ⟨hsealed, -⟩ | ⟨wire, hsealed, -⟩ := hc
    · rw [hsealed]
      exact hI
    · rw [hsealed, List.map_append, on_append, on_append, List.map_cons, List.map_nil, on_other hother,
        List.append_nil, ← on_append]
      exact hI

theorem Relayed.call (hI : Relayed w channel p enqueued) {m : WireMessage} {d : Bool} (hm : m.channel = channel)
    (h : w.step A (.call p m d) = some w') : Relayed w' channel p (enqueued ++ [m.payload]) := by
  obtain ⟨hp, rfl⟩ := RecordWriter.step_call h
  have hnone : asked w p = [] := by rw [asked, hp]; rfl
  have hone : asked { w with calls := w.calls + 1, callers := moved w.callers p (.waiting ⟨w.calls, p, m, d⟩) } p = [m] :=
    asked_of_open (c := ⟨w.calls, p, m, d⟩) ((open_moved _ _ _ _).trans (if_pos rfl))
  rw [Relayed, hnone, List.filter_nil, List.append_nil] at hI
  rw [Relayed, hone, on_append, hI, List.filter_append]
  congr 1
  by_cases hf : m.Fits
  · have hroom : room m.payload = true := decide_eq_true hf
    rw [List.filter_cons_of_pos (by simpa using hf), List.filter_nil, on_same hm, List.filter_cons_of_pos hroom,
      List.filter_nil]
  · have hroom : ¬ room m.payload = true := fun h => hf (of_decide_eq_true h)
    rw [List.filter_cons_of_neg (by simpa using hf), List.filter_nil, List.filter_cons_of_neg hroom, List.filter_nil]
    rfl

theorem Relayed.other_call (hI : Relayed w channel p enqueued) {q : Nat} {m : WireMessage} {d : Bool} (hq : p ≠ q)
    (h : w.step A (.call q m d) = some w') : Relayed w' channel p enqueued := by
  obtain ⟨-, rfl⟩ := RecordWriter.step_call h
  have hsame : asked { w with calls := w.calls + 1, callers := moved w.callers q (.waiting ⟨w.calls, q, m, d⟩) } p =
      asked w p := asked_congr (by rw [open_moved, if_neg hq])
  rw [Relayed, hsame]
  exact hI

/-- The calls stay proper. -/
theorem proper_writer (hproper : ∀ q c, (w.callers q).open? = some c → Proper q c) {a : WriterAction}
    (ha : ∀ q m d, a ≠ .call q m d) (hw : ∀ q evp, a = .make_record q evp → evp = .ok)
    (h : w.step A a = some w') : ∀ q c, (w'.callers q).open? = some c → Proper q c := by
  intro q c hc
  obtain ⟨hopen, -⟩ | ⟨q', c', -, hopen, -⟩ := writer_cases ha hw h
  · exact hproper q c ((hopen q).symm.trans hc)
  · rw [hopen] at hc
    split at hc
    · cases hc
    · exact hproper q c hc

theorem proper_call (hproper : ∀ q c, (w.callers q).open? = some c → Proper q c) {m : WireMessage} {d : Bool}
    (hm : ∀ c, c.message = m → c.droppable = d → Proper p c) (h : w.step A (.call p m d) = some w') :
    ∀ q c, (w'.callers q).open? = some c → Proper q c := by
  intro q c hc
  obtain ⟨-, rfl⟩ := RecordWriter.step_call h
  rw [open_moved] at hc
  split at hc
  · rename_i hq
    cases hc
    exact hq ▸ hm _ rfl rfl
  · exact hproper q c hc

end Calls

end Link

/-! ## What the ends find -/

namespace Link

variable {A : Aead} {keys : SessionKeys} {answer : Answer} {dispatch_ : Nat → Bytes → Bytes} {open_update_ : Bool}
  {s s' : Link}

/-- A part of a record is no padding. -/
theorem part_unpadded {r : SecureRecord} {m : WireMessage} (hf : m.Fits) {b : Bytes} (hb : b <+: framed A r m) :
    unpadded b = b := by
  refine unpadded_eq b fun rest hrest => ?_
  obtain ⟨x, hx⟩ := hb
  have hframed : unpadded (framed A r m) = framed A r m := by
    simpa using unpadded_framed A r ⟨0, m⟩ hf (.inl rfl) []
  rw [← hx, hrest, List.cons_append, List.cons_append, List.cons_append, List.cons_append, unpadded_zeros] at hframed
  have hle := unpadded_length (0 :: 0 :: 0 :: (rest ++ x))
  rw [hframed] at hle
  simp only [List.length_cons] at hle
  omega

/-- The bridge opens the next record or waits for the rest of it. -/
theorem drainInbound_cases (hA : A.Opens) (hI : s.Inward A keys) (accepts : Nat) :
    s.drainInbound A accepts = s ∨
      ∃ m rest, m.Fits ∧ s.inbound = framed A s.decrypt m ++ rest ∧ s.taken.map (·.2) ++ [m] <+: s.sealed ∧
        s.drainInbound A accepts = { s with decrypt := s.decrypt.next_nonce.2, inbound := rest }.take accepts m := by
  have hfits : ∀ m ∈ s.sealed, m.Fits := by
    intro m hm
    obtain ⟨x, hx, rfl⟩ := List.mem_map.1 hm
    exact hI.synced.fits x hx
  rcases hI.reads.next (writer_carries hI.writer hI.synced) hfits with ⟨m, hf, hb, hne⟩ | ⟨m, rest, hf, hb, hm⟩
  · left
    have hturn := waits_part A hA s.decrypt m hf s.inbound hb hne s.inbound (List.prefix_refl _)
    rw [part_unpadded hf hb] at hturn
    simp only [drainInbound, hturn]
  · right
    have hturn := drainInbound_segment A s.decrypt ⟨0, m⟩ (hA _ _ _) hf (.inl rfl) rest
    rw [List.replicate_zero, List.nil_append] at hturn
    refine ⟨m, rest, hf, hb, hm, ?_⟩
    simp only [drainInbound, hb, hturn]
    rfl

variable (answer dispatch_ open_update_) in
/-- The device delivers the next record or waits for the rest of it. -/
theorem turn_cases (hA : A.Opens) (hI : s.Outward A keys) (attempt : Nat → Attempt) :
    (∃ place, s.turn A answer dispatch_ open_update_ attempt = { s with place } ∧ (place = .reading ∨ place = .ended)) ∨
      ∃ r m rest, m.Fits ∧ s.demux = ⟨some r, some 0, 1⟩ ∧ s.stream = framed A r m ++ rest ∧
        s.delivered ++ [m] <+: s.sent.map (·.2) ∧
        s.turn A answer dispatch_ open_update_ attempt =
          { s with
            demux := ⟨some r.next_nonce.2, some 0, 1⟩
            stream := rest
            served := s.served ++ [Served.delivered (some 0) m] }.deliver dispatch_ open_update_ attempt m := by
  obtain ⟨r, hdemux, hreads⟩ := hI.reads
  have hfits : ∀ m ∈ s.sent.map (·.2), m.Fits := by
    intro m hm
    obtain ⟨x, hx, rfl⟩ := List.mem_map.1 hm
    exact hI.fits x hx
  rcases hreads.next hI.carried hfits with ⟨m, hf, hb, hne⟩ | ⟨m, rest, hf, hb, hm⟩
  · left
    have hturn := (demux_record_frame A hA answer r 0 1 m hf).part s.stream hb hne (Nat.zero_le _)
    refine ⟨if s.writer.dead_ then .ended else .reading, ?_, by split <;> simp⟩
    simp only [turn, hdemux, hturn, List.append_nil, id]
    cases hd : s.writer.dead_ <;> simp [← hdemux]
  · right
    have hturn := (demux_record_frame A hA answer r 0 1 m hf).whole rest
    refine ⟨r, m, rest, hf, hdemux, hb, hm, ?_⟩
    simp only [turn, hdemux, hb, hturn]

/-- What the bridge seals has room. -/
theorem sendRecord_eq (A : Aead) (s : Link) (i : Fin 2) (k : Nat) {payload : Bytes} (cut : Option Nat)
    (h : payload.length ≤ kMaxPayload - 2) :
    let m : WireMessage := ⟨kChannels i, 0, payload⟩
    m.Fits ∧ s.sendRecord A i k payload cut =
      { s with
        encrypt := s.encrypt.next_nonce.2
        sent := s.sent ++ [(some k, m)]
        out := s.out ++ cut.elim (framed A s.encrypt m) (framed A s.encrypt m).take
        ended := s.ended || cut.isSome } := by
  intro m
  have hf : m.Fits := by
    simp only [WireMessage.Fits, m, kMaxPayload] at h ⊢
    omega
  refine ⟨hf, ?_⟩
  have hmake := make_wire_record_fits A m s.encrypt hf
  simp only [sendRecord, m] at hmake ⊢
  rw [hmake]
  cases cut with
  | none => simp
  | some moved => simp

/-- Taking a message changes the bridge's clients alone. -/
theorem take_eq (s : Link) (accepts : Nat) (m : WireMessage) :
    ∃ who clients conns, s.take accepts m = { s with clients, conns, taken := s.taken ++ [(who, m)] } := by
  unfold take
  split
  · exact ⟨none, s.clients, s.conns, rfl⟩
  · split
    · exact ⟨none, s.clients, s.conns, rfl⟩
    · rename_i i _ k _
      dsimp only
      split
      · exact ⟨some k, s.clients, _, rfl⟩
      · exact ⟨some k, _, _, rfl⟩

variable (dispatch_ open_update_) in
/-- Delivering changes the tunnel alone, and what is not for the dispatcher only its update connection. -/
theorem deliver_eq (attempt : Nat → Attempt) (m : WireMessage) (s : Link) :
    (m.channel = .Control ∧ s.deliver dispatch_ open_update_ attempt m =
      { s with
        tunnel := { s.tunnel with control_buffer_ := s.tunnel.control_buffer_ ++ m.payload }
        place := .dispatching }) ∨
    m.channel ≠ .Control ∧ ∃ update_, s.deliver dispatch_ open_update_ attempt m =
      { s with tunnel := { s.tunnel with update_ } } := by
  unfold deliver
  by_cases hc : m.channel = .Control
  · exact .inl ⟨hc, if_pos hc⟩
  · refine .inr ⟨hc, ?_⟩
    rw [if_neg hc]
    cases hm : m.channel with
    | Control => exact absurd hm hc
    | Video => exact ⟨_, by rw [LocalTunnel.deliver_video hm]⟩
    | Update => exact ⟨_, by rw [LocalTunnel.deliver_update hm]⟩
    | Meta => exact ⟨_, by rw [LocalTunnel.deliver_meta hm]⟩

theorem find_line_some {b line rest : Bytes} (h : find_line b = some (line, rest)) :
    b = line ++ 10 :: rest ∧ 10 ∉ line := by
  unfold find_line at h
  split at h
  · rename_i hmem
    cases h
    have hne : b.dropWhile (· ≠ 10) ≠ [] := by
      intro hnil
      have hall := List.dropWhile_eq_nil_iff.1 hnil 10 hmem
      simp at hall
    have hhead : (b.dropWhile (· ≠ 10)).head hne = 10 := by
      have := List.head_dropWhile_not (fun x : UInt8 => decide (x ≠ 10)) hne
      simpa using this
    have hcons : b.dropWhile (· ≠ 10) = 10 :: (b.dropWhile (· ≠ 10)).tail := by
      have := List.cons_head_tail hne
      rw [hhead] at this
      exact this.symm
    refine ⟨?_, fun hin => ?_⟩
    · rw [← hcons, List.takeWhile_append_dropWhile]
    · have := List.mem_takeWhile_imp hin
      simp at this
  · cases h

theorem find_line_none {b : Bytes} (h : find_line b = none) : 10 ∉ b := by
  unfold find_line at h
  split at h
  · cases h
  · assumption

end Link

end CameraStreamer.Secure.SecureLink
