import CameraStreamer.RecordStream
import CameraStreamer.SecureHandshake
/-!
# The device's demultiplexer

`SecureUsbServer::serve_session` reads the endpoint and finds two framings in
the bytes: ClientHellos, which start with a magic, and records. A hello opens a
session and ends the one before it. Bytes that come before any session and do
not start with the magic are thrown away.
-/

namespace CameraStreamer.Secure

open Incremental

/-- What `serve_session` does that can be seen. Sessions are numbered by the
call of `respond` that opened them. -/
inductive Served where
  | ended (session : Nat)
  | handshake_rejected (error : String)
  | server_hello (wire : Bytes)
  | endpoint_failed
  | established (session : Nat) (keys : SessionKeys)
  | discarded (count : Nat)
  | framing_failure (error : String)
  | record_rejected (error : String)
  | delivered (session : Option Nat) (message : WireMessage)
  deriving DecidableEq

/-- The `decrypt` and `session` pointers, and how often `respond` was called. -/
structure Demux where
  decrypt : Option SecureRecord
  session : Option Nat
  responds : Nat

def Demux.new : Demux := ⟨none, none, 0⟩

/-- What the device depends on: the cipher, its handshakes, whether the `n`-th
ServerHello is written, and the OpenSSL calls of each session. -/
structure Device where
  aead : Aead
  answer : Answer
  writes : Nat → Bool
  ssl : Nat → Ssl

/-- A device on which nothing fails but what the host sends. -/
def Device.works (A : Aead) (answer : Answer) : Device := ⟨A, answer, fun _ => true, fun _ => Ssl.works⟩

/-- The `end_session` lambda: nothing without a session. -/
def end_session (s : Demux) : List Served × Demux :=
  match s.session with
  | none => ([], s)
  | some session => ([.ended session], { s with decrypt := none, session := none })

/-- The branch of a buffer that starts with the magic. -/
def hello_turn (D : Device) (s : Demux) (stream : WireBuffer) : Turn UInt8 Demux Served :=
  if stream.length < kClientHelloSize then .wait [] s stream
  else
    let hello := stream.take kClientHelloSize
    let stream := stream.consume kClientHelloSize
    let ended := (end_session s).1
    let s' := { (end_session s).2 with responds := s.responds + 1 }
    match respond D.answer s.responds hello with
    | .error e => .more (ended ++ [.handshake_rejected e]) s' stream
    | .ok (wire, keys) =>
      if D.writes s.responds then
        .more (ended ++ [.server_hello wire, .established s.responds keys])
          { s' with decrypt := some (.new keys.host_key keys.host_iv), session := some s.responds } stream
      else .stop (ended ++ [.endpoint_failed])

/-- The branch of a record, under the session's `decrypt`. -/
def record_turn (D : Device) (s : Demux) (decrypt : SecureRecord) (stream : WireBuffer) : Turn UInt8 Demux Served :=
  match WireBuffer.next stream with
  | (.error e, _) => .wait (.framing_failure e :: (end_session s).1) (end_session s).2 []
  | (.ok none, stream) => .wait [] s stream
  | (.ok (some wire), stream) =>
    match open_wire_record D.aead (D.ssl (s.session.getD 0) decrypt.sequence_) wire decrypt with
    | (.error e, _) => .wait (.record_rejected e :: (end_session s).1) (end_session s).2 []
    | (.ok message, decrypt') => .more [.delivered s.session message] { s with decrypt := some decrypt' } stream

/-- One turn of the inner loop. -/
def demux_turn (D : Device) (s : Demux) (stream : WireBuffer) : Turn UInt8 Demux Served :=
  if stream.starts_with kClientHelloMagic then hello_turn D s stream
  else
    match s.decrypt with
    | none => if stream.length ≠ 0 then .wait [.discarded stream.length] s [] else .wait [] s stream
    | some decrypt => record_turn D s decrypt stream

/-! ## The loop -/

theorem consume_eq (b : WireBuffer) (n : Nat) (h : n ≤ b.length) : b.consume n = b.drop n := by
  rw [WireBuffer.consume, Nat.min_eq_left h]

theorem hello_shrinks {D : Device} {s s' : Demux} {b rest : WireBuffer} {evs : List Served}
    (h : hello_turn D s b = .more evs s' rest) : rest.length < b.length := by
  unfold hello_turn at h
  split at h
  · cases h
  · rename_i hl
    have hc : (b.consume kClientHelloSize).length < b.length := by
      have : 0 < kClientHelloSize := by decide
      rw [consume_eq b _ (by omega), List.length_drop]
      omega
    dsimp only at h
    split at h
    · cases h; exact hc
    · split at h
      · cases h; exact hc
      · cases h

theorem record_more {D : Device} {s s' : Demux} {r : SecureRecord} {b rest : WireBuffer} {evs : List Served}
    (h : record_turn D s r b = .more evs s' rest) :
    ∃ wire m r', WireBuffer.next b = (.ok (some wire), rest) ∧
      open_wire_record D.aead (D.ssl (s.session.getD 0) r.sequence_) wire r = (.ok m, r') ∧
      evs = [.delivered s.session m] ∧ s' = { s with decrypt := some r' } := by
  unfold record_turn at h
  split at h
  · cases h
  · cases h
  · rename_i wire rest' hn
    split at h
    · cases h
    · rename_i m r' ho
      cases h
      exact ⟨wire, m, r', hn, ho, rfl, rfl⟩

theorem demux_shrinks {D : Device} {s s' : Demux} {b rest : WireBuffer} {evs : List Served}
    (h : demux_turn D s b = .more evs s' rest) : rest.length < b.length := by
  unfold demux_turn at h
  split at h
  · exact hello_shrinks h
  · split at h
    · split at h <;> cases h
    · obtain ⟨wire, m, r', hn, -, -, -⟩ := record_more h
      obtain ⟨rfl, hl, -⟩ := next_some hn
      rw [List.length_append]
      omega

/-- The inner loop. -/
def demux (D : Device) : Parser UInt8 Demux Served where
  turn := demux_turn D
  shrinks := demux_shrinks

/-- What one `read` of the endpoint gives. -/
inductive EndpointRead where
  /-- Some bytes; `dead` says whether the session is dead once they are handled. -/
  | data (chunk : Bytes) (dead : Bool)
  /-- `EINTR`, or a test of `stopping_` at the top of the loop. -/
  | interrupted (stopping : Bool)
  /-- The endpoint was recycled or the host is gone. -/
  | failed

/-- `serve_session`, from the state its outer loop is in. -/
def serve_session (D : Device) : Demux → WireBuffer → List EndpointRead → List Served
  | _, _, [] => []
  | s, stream, .interrupted stopping :: reads =>
    if stopping then (end_session s).1 else serve_session D s stream reads
  | s, _, .failed :: _ => (end_session s).1
  | s, stream, .data chunk dead :: reads =>
    match (demux D).drain s (stream.append chunk) with
    | (evs, none) => evs
    | (evs, some (s', stream')) =>
      if s'.session.isSome ∧ dead then evs ++ (end_session s').1
      else evs ++ serve_session D s' stream' reads

/-- The reads that give these chunks, the session alive after each. -/
def reads_of (chunks : List Bytes) : List EndpointRead := chunks.map (.data · false)

theorem serve_session_reads (D : Device) (s : Demux) (b : WireBuffer) (chunks : List Bytes) :
    serve_session D s b (reads_of chunks) = ((demux D).feed (some (s, b)) chunks).1 := by
  induction chunks generalizing s b with
  | nil => rfl
  | cons c cs ih =>
    simp only [reads_of, List.map_cons, serve_session, Parser.feed, WireBuffer.append]
    cases hd : (demux D).drain s (b ++ c) with
    | mk evs place =>
      cases place with
      | none => simp [Parser.feed_none]
      | some q =>
        have := ih q.1 q.2
        simp only [reads_of] at this
        simp [this]

/-! ## What a turn can do -/

@[simp] theorem end_session_session (s : Demux) : (end_session s).2.session = none := by
  unfold end_session
  cases h : s.session with
  | none => exact h
  | some n => rfl

@[simp] theorem end_session_responds (s : Demux) : (end_session s).2.responds = s.responds := by
  unfold end_session
  cases s.session <;> rfl

/-- The messages delivered to a session. -/
def delivered (session : Nat) (es : List Served) : List WireMessage :=
  es.filterMap fun
    | .delivered (some n) m => if n = session then some m else none
    | _ => none

theorem delivered_append (session : Nat) (es es' : List Served) :
    delivered session (es ++ es') = delivered session es ++ delivered session es' := List.filterMap_append

/-- Nothing is delivered, and no session opened. -/
def Quiet (es : List Served) : Prop := ∀ e ∈ es, (∀ n m, e ≠ .delivered n m) ∧ ∀ n keys, e ≠ .established n keys

theorem end_session_quiet (s : Demux) : Quiet (end_session s).1 := by
  unfold end_session
  cases s.session <;> simp [Quiet]

theorem Quiet.append {es es' : List Served} (h : Quiet es) (h' : Quiet es') : Quiet (es ++ es') := by
  intro e he
  rcases List.mem_append.1 he with he | he
  · exact h e he
  · exact h' e he

theorem Quiet.delivered {es : List Served} (h : Quiet es) (session : Nat) : delivered session es = [] := by
  refine List.filterMap_eq_nil_iff.2 fun e he => ?_
  match e, (h e he).1 with
  | .delivered n m, hd => exact absurd rfl (hd n m)
  | .ended _, _ => rfl
  | .handshake_rejected _, _ => rfl
  | .server_hello _, _ => rfl
  | .endpoint_failed, _ => rfl
  | .established _ _, _ => rfl
  | .discarded _, _ => rfl
  | .framing_failure _, _ => rfl
  | .record_rejected _, _ => rfl

/-- A turn that goes on has refused a hello, opened a session, or delivered a message. -/
theorem demux_more {D : Device} {s s' : Demux} {b rest : WireBuffer} {evs : List Served}
    (h : (demux D).turn s b = .more evs s' rest) :
    (Quiet evs ∧ s'.session = none ∧ s'.responds = s.responds + 1) ∨
    (∃ pre keys, Quiet pre ∧ evs = pre ++ [.established s.responds keys] ∧
      s' = ⟨some (.new keys.host_key keys.host_iv), some s.responds, s.responds + 1⟩) ∨
    ∃ r wire m r', s.decrypt = some r ∧
      open_wire_record D.aead (D.ssl (s.session.getD 0) r.sequence_) wire r = (.ok m, r') ∧
      evs = [.delivered s.session m] ∧ s' = { s with decrypt := some r' } := by
  simp only [demux, demux_turn] at h
  split at h
  · -- a hello
    unfold hello_turn at h
    split at h
    · cases h
    · dsimp only at h
      split at h
      · cases h
        refine .inl ⟨(end_session_quiet s).append ?_, end_session_session s, rfl⟩
        simp [Quiet]
      · rename_i wire keys hr
        split at h
        · cases h
          refine .inr (.inl ⟨(end_session s).1 ++ [.server_hello wire], keys, (end_session_quiet s).append ?_, ?_, rfl⟩)
          · simp [Quiet]
          · simp
        · cases h
  · split at h
    · split at h <;> cases h
    · rename_i r hr
      obtain ⟨wire, m, r', -, ho, rfl, rfl⟩ := record_more h
      exact .inr (.inr ⟨r, wire, m, r', hr, ho, rfl, rfl⟩)

/-- A turn that waits delivers nothing, and at most ends the session. -/
theorem demux_wait {D : Device} {s s' : Demux} {b rest : WireBuffer} {evs : List Served}
    (h : (demux D).turn s b = .wait evs s' rest) : Quiet evs ∧ (s' = s ∨ s' = (end_session s).2) := by
  simp only [demux, demux_turn] at h
  split at h
  · unfold hello_turn at h
    split at h
    · cases h; exact ⟨by simp [Quiet], .inl rfl⟩
    · dsimp only at h
      split at h
      · cases h
      · split at h <;> cases h
  · split at h
    · split at h <;> cases h <;> exact ⟨by simp [Quiet], .inl rfl⟩
    · unfold record_turn at h
      split at h
      · rename_i e _ _
        cases h
        have hq : Quiet [.framing_failure e] := by simp [Quiet]
        exact ⟨hq.append (end_session_quiet s), .inr rfl⟩
      · cases h; exact ⟨by simp [Quiet], .inl rfl⟩
      · split at h
        · rename_i e _ _
          cases h
          have hq : Quiet [.record_rejected e] := by simp [Quiet]
          exact ⟨hq.append (end_session_quiet s), .inr rfl⟩
        · cases h

/-- A turn that stops delivers nothing. -/
theorem demux_stop {D : Device} {s : Demux} {b : WireBuffer} {evs : List Served}
    (h : (demux D).turn s b = .stop evs) : Quiet evs := by
  simp only [demux, demux_turn] at h
  split at h
  · unfold hello_turn at h
    split at h
    · cases h
    · dsimp only at h
      split at h
      · cases h
      · split at h
        · cases h
        · cases h
          exact (end_session_quiet s).append (by simp [Quiet])
  · split at h
    · split at h <;> cases h
    · unfold record_turn at h
      split at h
      · cases h
      · cases h
      · split at h <;> cases h

/-- What holds of the events so far and the state, and is kept by every turn,
holds of every run of `serve_session`, in the form `J` at its end. -/
theorem serve_session_inv {D : Device} (I : List Served → Demux → Prop) (J : List Served → Prop)
    (hmore : ∀ {es s b evs s' rest}, I es s → (demux D).turn s b = .more evs s' rest → I (es ++ evs) s')
    (hwait : ∀ {es s b evs s' rest}, I es s → (demux D).turn s b = .wait evs s' rest → I (es ++ evs) s')
    (hstop : ∀ {es s b evs}, I es s → (demux D).turn s b = .stop evs → J (es ++ evs))
    (hend : ∀ {es s}, I es s → J (es ++ (end_session s).1)) (hhere : ∀ {es s}, I es s → J es)
    (reads : List EndpointRead) (es : List Served) (s : Demux) (b : WireBuffer) (h : I es s) :
    J (es ++ serve_session D s b reads) := by
  induction reads generalizing es s b with
  | nil => rw [serve_session, List.append_nil]; exact hhere h
  | cons read reads ih =>
    cases read with
    | interrupted stopping =>
      rw [serve_session]
      split
      · exact hend h
      · exact ih es s b h
    | failed => exact hend h
    | data chunk dead =>
      have hd := (demux D).drain_inv I J hmore hwait hstop es s (b ++ chunk) h
      rw [serve_session]
      simp only [WireBuffer.append]
      cases hp : (demux D).drain s (b ++ chunk) with
      | mk evs place =>
        rw [hp] at hd
        cases place with
        | none => exact hd
        | some q =>
          obtain ⟨s', b'⟩ := q
          dsimp only at hd ⊢
          split
          · rw [← List.append_assoc]; exact hend hd
          · rw [← List.append_assoc]; exact ih _ s' b' hd

/-! ## Conversations -/

/-- A ClientHello, the device's answer to it, and the messages of the session. -/
structure Conversation where
  hello : ClientHello
  server_hello : Bytes
  keys : SessionKeys
  messages : List WireMessage

/-- The host's record of the session. -/
def Conversation.record (c : Conversation) : SecureRecord := .new c.keys.host_key c.keys.host_iv

/-- What the host sends in the conversation. -/
def Conversation.wire (A : Aead) (c : Conversation) : Bytes :=
  encode_client_hello c.hello ++ (framed_all A c.record c.messages).flatten

/-- What the host sends. -/
def conversation_bytes (A : Aead) (cs : List Conversation) : Bytes := (cs.map (·.wire A)).flatten

/-- The device accepts the hellos, counted from `call`, and the host could seal the messages. -/
def Accepted (answer : Answer) : Nat → List Conversation → Prop
  | _, [] => True
  | call, c :: cs =>
    answer call c.hello = .ok (c.server_hello, c.keys) ∧ (∀ m ∈ c.messages, m.Fits) ∧ Accepted answer (call + 1) cs

/-- What the device is to do, from state `s`. -/
def expected (s : Demux) : List Conversation → List Served
  | [] => []
  | c :: cs =>
    (end_session s).1 ++ [.server_hello c.server_hello, .established s.responds c.keys] ++
      (c.messages.map (.delivered (some s.responds)) ++
        expected ⟨some (c.record.skip c.messages.length), some s.responds, s.responds + 1⟩ cs)

/-! ## Frames -/

theorem starts_with_short {b : WireBuffer} (h : b.length < 4) : b.starts_with kClientHelloMagic = false := by
  rw [WireBuffer.starts_with, if_pos]
  exact h

/-- A part of a hello with the whole magic in it is recognised. -/
theorem starts_with_hello (hello : ClientHello) (x p : Bytes) (hp : p <+: encode_client_hello hello ++ x)
    (h : 4 ≤ p.length) : WireBuffer.starts_with p kClientHelloMagic = true := by
  have ht : p.take 4 = (encode_client_hello hello ++ x).take 4 := by
    rw [List.prefix_iff_eq_take.1 hp, List.take_take, Nat.min_eq_left h]
  rw [WireBuffer.starts_with, if_neg (by simp only [kClientHelloMagic, List.length_cons, List.length_nil]; omega)]
  rw [show kClientHelloMagic.length = 4 from rfl, ht]
  rfl

/-- No record is taken for a hello: its length starts with a zero byte. -/
theorem starts_with_framed (A : Aead) (r : SecureRecord) (m : WireMessage) (hm : m.Fits) (x p : Bytes)
    (hp : p <+: framed A r m ++ x) : WireBuffer.starts_with p kClientHelloMagic = false := by
  by_cases h : p.length < 4
  · exact starts_with_short h
  · have ht : p.take 4 = (framed A r m ++ x).take 4 := by
      rw [List.prefix_iff_eq_take.1 hp, List.take_take, Nat.min_eq_left (by omega)]
    obtain ⟨b0, b1, b2, b3, hf, hl⟩ := framed_cons A r m hm
    rw [BigEndian.get_be32_toNat] at hl
    simp only [WireMessage.Fits, kMaxPayload] at hm
    have hb0 : b0.toNat = 0 := by omega
    have hb : b0 = 0 := UInt8.toNat_inj.1 hb0
    rw [WireBuffer.starts_with, if_neg (by simp only [kClientHelloMagic, List.length_cons, List.length_nil]; omega)]
    rw [show kClientHelloMagic.length = 4 from rfl, ht, hf, hb]
    simp [kClientHelloMagic]

section Frames
variable (A : Aead) (hA : A.Opens) (answer : Answer)

/-- A hello the device accepts is taken whole. -/
theorem demux_hello (s : Demux) (c : Conversation) (ha : answer s.responds c.hello = .ok (c.server_hello, c.keys))
    (x : Bytes) :
    (demux (Device.works A answer)).turn s (encode_client_hello c.hello ++ x) =
      .more ((end_session s).1 ++ [.server_hello c.server_hello, .established s.responds c.keys])
        ⟨some c.record, some s.responds, s.responds + 1⟩ x := by
  have hlen := encode_client_hello_length c.hello
  have hs := starts_with_hello c.hello x _ (List.prefix_refl _) (by
    rw [List.length_append, hlen, kClientHelloSize]; omega)
  have hshort : ¬ (encode_client_hello c.hello ++ x).length < kClientHelloSize := by
    rw [List.length_append, hlen]; omega
  simp only [demux, demux_turn, hs, if_true, hello_turn, hshort, if_false, Device.works]
  rw [consume_eq _ _ (by omega), ← hlen, List.take_left, List.drop_left, respond_encode, ha]
  rfl

/-- In a session, or once the magic is there, the rest of a hello is waited for. -/
theorem demux_hello_part (s : Demux) (hello : ClientHello) (p : Bytes) (hp : p <+: encode_client_hello hello)
    (hne : p ≠ encode_client_hello hello) (h : s.decrypt.isSome ∨ 4 ≤ p.length) :
    (demux (Device.works A answer)).turn s p = .wait [] s p := by
  by_cases h4 : 4 ≤ p.length
  · have hs := starts_with_hello hello [] p (by rwa [List.append_nil]) h4
    have hlt : p.length < kClientHelloSize := by
      refine Nat.lt_of_le_of_ne (by rw [← encode_client_hello_length hello]; exact hp.length_le) fun he => hne ?_
      exact hp.eq_of_length (by rw [he, encode_client_hello_length])
    simp only [demux, demux_turn, hs, if_true, hello_turn, hlt]
  · obtain ⟨r, hr⟩ := Option.isSome_iff_exists.1 (h.resolve_right h4)
    have hs : p.length < 4 := by omega
    simp only [demux, demux_turn, starts_with_short hs, hr, record_turn, next_short hs]
    rfl

theorem demux_hello_frame (s : Demux) (c : Conversation) (ha : answer s.responds c.hello = .ok (c.server_hello, c.keys))
    (least : Nat) (hl : s.decrypt.isSome ∨ 4 ≤ least) :
    (demux (Device.works A answer)).Frame id least s (encode_client_hello c.hello)
      ((end_session s).1 ++ [.server_hello c.server_hello, .established s.responds c.keys])
      ⟨some c.record, some s.responds, s.responds + 1⟩ where
  whole := demux_hello A answer s c ha
  part p hp hne hle := demux_hello_part A answer s c.hello p hp hne (hl.imp id fun h => Nat.le_trans h hle)

/-- The record branch is the receiving loop on what does not look like a hello. -/
theorem demux_record (D : Device) (s : Demux) (r : SecureRecord) (hr : s.decrypt = some r) (b : WireBuffer)
    (hb : b.starts_with kClientHelloMagic = false) :
    (demux D).turn s b = record_turn D s r b := by
  simp only [demux, demux_turn, hb, hr]
  rfl

include hA in
theorem demux_record_frame (r : SecureRecord) (session call : Nat) (m : WireMessage) (hm : m.Fits) :
    (demux (Device.works A answer)).Frame id 0 ⟨some r, some session, call⟩ (framed A r m)
      [.delivered (some session) m] ⟨some r.next_nonce.2, some session, call⟩ where
  whole x := by
    rw [demux_record _ _ r rfl _ (starts_with_framed A r m hm x _ (List.prefix_refl _))]
    simp only [record_turn, next_framed A r m hm x, Device.works, Ssl.works, open_framed A r m (hA _ _ _) hm]
  part p hp hne _ := by
    have hf := (receiver_stable A Ssl.works).frame id (fun hw => (receive_wait hw).2.2)
      (receive_framed A r m (hA _ _ _) hm)
    have hw := hf.part p hp hne (Nat.zero_le _)
    rw [demux_record _ _ r rfl _ (starts_with_framed A r m hm [] p (by rwa [List.append_nil]))]
    simp only [receiver, receive_turn] at hw
    simp only [record_turn]
    cases hn : WireBuffer.next p with
    | mk res rest =>
      rw [hn] at hw
      rcases res with e | found
      · cases hw
      cases found with
      | none => cases hw; rfl
      | some wire =>
        dsimp only at hw
        split at hw <;> cases hw

include hA in
theorem demux_records_frames (r : SecureRecord) (session call : Nat) (ms : List WireMessage) (hms : ∀ m ∈ ms, m.Fits)
    {w : Bytes} {evs : List Served} {s' : Demux}
    (hrest : (demux (Device.works A answer)).Frames id 0 ⟨some (r.skip ms.length), some session, call⟩ w evs s' []) :
    (demux (Device.works A answer)).Frames id 0 ⟨some r, some session, call⟩ ((framed_all A r ms).flatten ++ w)
      (ms.map (.delivered (some session)) ++ evs) s' [] := by
  induction ms generalizing r with
  | nil => simpa [framed_all] using hrest
  | cons m ms ih =>
    rw [List.length_cons, SecureRecord.skip_succ] at hrest
    have := ih r.next_nonce.2 (fun n hn => hms n (by simp [hn])) hrest
    rw [framed_all, List.flatten_cons, List.append_assoc, List.map_cons, List.cons_append]
    exact .cons (demux_record_frame A hA answer r session call m (hms m (by simp))) this

include hA in
/-- What the host sends is a list of frames, from any state the device is in. -/
theorem conversation_frames (s : Demux) (cs : List Conversation) (hacc : Accepted answer s.responds cs)
    (least : Nat) (hl : s.decrypt.isSome ∨ 4 ≤ least) :
    ∃ s', (demux (Device.works A answer)).Frames id least s (conversation_bytes A cs) (expected s cs) s' [] := by
  induction cs generalizing s least with
  | nil =>
    refine ⟨s, .tail fun p hp hle => ?_⟩
    rw [List.prefix_nil.1 hp] at hle ⊢
    have hsome : s.decrypt.isSome := hl.resolve_right fun h => by simp at hle; omega
    obtain ⟨r, hr⟩ := Option.isSome_iff_exists.1 hsome
    rw [demux_record _ _ r hr [] rfl]
    rfl
  | cons c cs ih =>
    obtain ⟨ha, hm, hrest⟩ := hacc
    obtain ⟨s', hs'⟩ := ih ⟨some (c.record.skip c.messages.length), some s.responds, s.responds + 1⟩ hrest 0 (.inl rfl)
    have hrec := demux_records_frames A hA answer c.record s.responds (s.responds + 1) c.messages hm hs'
    refine ⟨s', ?_⟩
    have := Parser.Frames.cons (demux_hello_frame A answer s c ha least hl) hrec
    simpa only [conversation_bytes, List.map_cons, List.flatten_cons, Conversation.wire, expected, List.append_assoc]
      using this

include hA in
/-- With four bytes in the first read, the device does what is expected, however the rest is cut. -/
theorem serve_session_conversation (cs : List Conversation) (hacc : Accepted answer 0 cs) (chunks : List Bytes)
    (hc : chunks.flatten = conversation_bytes A cs) (hfirst : ∀ c ∈ chunks.head?, 4 ≤ c.length) :
    serve_session (Device.works A answer) .new [] (reads_of chunks) = expected .new cs := by
  obtain ⟨s', hfr⟩ := conversation_frames A hA answer .new cs hacc 4 (.inr (Nat.le_refl _))
  have := hfr.feed (fun _ _ _ => rfl) [] chunks rfl hc (by simpa using hfirst)
  rw [serve_session_reads]
  exact congrArg Prod.fst this

end Frames

/-! ## When the cuts do not matter -/

theorem end_session_discards (s : Demux) (n : Nat) : .discarded n ∉ (end_session s).1 := by
  unfold end_session
  cases s.session <;> simp

theorem expected_discards (s : Demux) (cs : List Conversation) (n : Nat) : .discarded n ∉ expected s cs := by
  induction cs generalizing s with
  | nil => simp [expected]
  | cons c cs ih => simp [expected, end_session_discards, ih]

/-- A short first read is thrown away. -/
theorem short_read_discarded (D : Device) (c : Bytes) (chunks : List Bytes) (hne : c ≠ []) (h : c.length < 4) :
    .discarded c.length ∈ serve_session D .new [] (reads_of (c :: chunks)) := by
  have hl : c.length ≠ 0 := fun h0 => hne (List.length_eq_zero_iff.1 h0)
  have ht : (demux D).turn .new ([] ++ c) = .wait [.discarded c.length] .new [] := by
    simp only [List.nil_append, demux, demux_turn, starts_with_short h, Demux.new, Bool.false_eq_true, if_false, ne_eq,
      hl, not_false_eq_true, if_true]
  rw [serve_session_reads, Parser.feed, Parser.drain_wait _ ht]
  simp

/-- For any two cuttings of a conversation into reads, the device does the same
and discards nothing exactly where the first read of each has four bytes. -/
theorem demux_cut_independent_iff (A : Aead) (hA : A.Opens) (answer : Answer) (cs : List Conversation)
    (hacc : Accepted answer 0 cs) (chunks chunks' : List Bytes) (hne : ∀ c ∈ chunks, c ≠ [])
    (hne' : ∀ c ∈ chunks', c ≠ []) (hc : chunks.flatten = conversation_bytes A cs)
    (hc' : chunks'.flatten = conversation_bytes A cs) :
    (serve_session (Device.works A answer) .new [] (reads_of chunks) =
        serve_session (Device.works A answer) .new [] (reads_of chunks') ∧
      (∀ n, .discarded n ∉ serve_session (Device.works A answer) .new [] (reads_of chunks)) ∧
      ∀ n, .discarded n ∉ serve_session (Device.works A answer) .new [] (reads_of chunks')) ↔
    (∀ c ∈ chunks.head?, 4 ≤ c.length) ∧ ∀ c ∈ chunks'.head?, 4 ≤ c.length := by
  have hshort : ∀ chunks : List Bytes, (∀ c ∈ chunks, c ≠ []) →
      (∀ n, .discarded n ∉ serve_session (Device.works A answer) .new [] (reads_of chunks)) →
      ∀ c ∈ chunks.head?, 4 ≤ c.length := by
    intro chunks hne hno c hc
    cases chunks with
    | nil => cases hc
    | cons d ds =>
      cases hc
      refine Decidable.byContradiction fun h => ?_
      exact hno _ (short_read_discarded _ c ds (hne c (by simp)) (by omega))
  constructor
  · rintro ⟨-, h, h'⟩
    exact ⟨hshort chunks hne h, hshort chunks' hne' h'⟩
  · rintro ⟨h, h'⟩
    rw [serve_session_conversation A hA answer cs hacc chunks hc h,
      serve_session_conversation A hA answer cs hacc chunks' hc' h']
    exact ⟨rfl, expected_discards _ _, expected_discards _ _⟩

/-- One session with one message, in a setting where every hello is answered alike. -/
def one_conversation : Conversation :=
  ⟨⟨.replicate 32 1, .replicate 65 4⟩, [67, 83, 85, 50],
    ⟨.replicate 32 0, .replicate 32 0, .replicate 12 0, .replicate 12 0⟩, [⟨.Control, 0, [123, 125, 10]⟩]⟩

def one_answer : Answer := fun _ _ => .ok (one_conversation.server_hello, one_conversation.keys)

/-- A device that answers so, over a cipher that opens what it sealed. -/
def one_device : Device := .works (markedAead fun _ _ _ => true) one_answer

theorem one_accepted : Accepted one_answer 0 [one_conversation] := ⟨rfl, by decide, trivial⟩

/-- What the host sends in `one_conversation`. -/
def one_wire : Bytes := conversation_bytes (markedAead fun _ _ _ => true) [one_conversation]

/-- In one read, and cut in the middle of the hello: the device does the same and discards nothing. -/
theorem demux_cut_independent_one :
    serve_session (Device.works (markedAead fun _ _ _ => true) one_answer) .new [] (reads_of [one_wire]) =
        serve_session (Device.works (markedAead fun _ _ _ => true) one_answer) .new []
          (reads_of [one_wire.take 50, one_wire.drop 50]) ∧
      (∀ n, .discarded n ∉ serve_session (Device.works (markedAead fun _ _ _ => true) one_answer) .new []
        (reads_of [one_wire])) ∧
      ∀ n, .discarded n ∉ serve_session (Device.works (markedAead fun _ _ _ => true) one_answer) .new []
        (reads_of [one_wire.take 50, one_wire.drop 50]) :=
  (demux_cut_independent_iff _ markedAead_opens one_answer [one_conversation] one_accepted _ _ (by decide) (by decide)
    (by rw [one_wire]; simp) (by rw [one_wire]; simp)).2 ⟨by decide +kernel, by decide +kernel⟩

/-- A first read of two bytes is discarded, and the hello with it. -/
theorem short_first_read :
    ¬ ∀ (A : Aead), A.Opens → ∀ (answer : Answer) (cs : List Conversation), Accepted answer 0 cs →
      ∀ chunks chunks' : List Bytes, (∀ c ∈ chunks, c ≠ []) → (∀ c ∈ chunks', c ≠ []) →
        chunks.flatten = conversation_bytes A cs → chunks'.flatten = conversation_bytes A cs →
        serve_session (Device.works A answer) .new [] (reads_of chunks) =
            serve_session (Device.works A answer) .new [] (reads_of chunks') ∧
          (∀ n, .discarded n ∉ serve_session (Device.works A answer) .new [] (reads_of chunks)) ∧
          ∀ n, .discarded n ∉ serve_session (Device.works A answer) .new [] (reads_of chunks') := by
  intro h
  obtain ⟨-, -, hno⟩ := h (markedAead fun _ _ _ => true) markedAead_opens one_answer [one_conversation] one_accepted
    [one_wire] [one_wire.take 2, one_wire.drop 2] (by decide) (by decide) (by rw [one_wire]; simp)
    (by rw [one_wire]; simp)
  exact hno _ (short_read_discarded _ (one_wire.take 2) [one_wire.drop 2] (by decide) (by decide))

end CameraStreamer.Secure
