import CameraStreamer.SecureWire
import CameraStreamer.Lib.Incremental
/-!
# Streams of records

What a sequence of `make_wire_record` calls on one `SecureRecord` produces, and
the loop both ends run over the bytes they receive: take the next record off the
`WireBuffer`, open it, end the session at the first failure. The loop is a
`Stable` parser, so how the stream was cut into transfers does not matter.
-/

namespace CameraStreamer.Secure

open Incremental

/-- `make_wire_record` for each message in turn, on one record. -/
def make_wire_records (A : Aead) : SecureRecord → List WireMessage → List (Except String Bytes) × SecureRecord
  | r, [] => ([], r)
  | r, m :: ms =>
    let made := make_wire_record A .ok m.channel m.stream m.payload r
    (made.1 :: (make_wire_records A made.2 ms).1, (make_wire_records A made.2 ms).2)

/-- `open_wire_record` for each wire record in turn, on one record. -/
def open_wire_records (A : Aead) : SecureRecord → List Bytes → List (Except String WireMessage) × SecureRecord
  | r, [] => ([], r)
  | r, wire :: wires =>
    let opened := open_wire_record A .ok wire r
    (opened.1 :: (open_wire_records A opened.2 wires).1, (open_wire_records A opened.2 wires).2)

/-- What the receiving loop reports. -/
inductive Received where
  | message (m : WireMessage)
  | framing_failure (error : String)
  | record_rejected (error : String)
  deriving DecidableEq, Repr

def Received.message? : Received → Option WireMessage
  | .message m => some m
  | _ => none

/-- The messages among what was reported. -/
def messages (es : List Received) : List WireMessage := es.filterMap Received.message?

/-- How the OpenSSL calls of each `open` go, by the number of its record. -/
abbrev Ssl := UInt64 → Evp

/-- No OpenSSL call fails. -/
def Ssl.works : Ssl := fun _ => .ok

/-- `WireBuffer::next`, then `open_wire_record`; a failure of either is final. -/
def receive_turn (A : Aead) (ssl : Ssl) (decrypt : SecureRecord) (b : WireBuffer) :
    Turn UInt8 SecureRecord Received :=
  match WireBuffer.next b with
  | (.error e, _) => .stop [.framing_failure e]
  | (.ok none, b') => .wait [] decrypt b'
  | (.ok (some wire), rest) =>
    match open_wire_record A (ssl decrypt.sequence_) wire decrypt with
    | (.error e, _) => .stop [.record_rejected e]
    | (.ok m, decrypt') => .more [.message m] decrypt' rest

/-! ## One turn -/

theorem receive_more {A : Aead} {ssl : Ssl} {r r' : SecureRecord} {b rest : WireBuffer} {evs : List Received}
    (h : receive_turn A ssl r b = .more evs r' rest) :
    ∃ wire m, WireBuffer.next b = (.ok (some wire), rest) ∧
      open_wire_record A (ssl r.sequence_) wire r = (.ok m, r') ∧ evs = [.message m] := by
  unfold receive_turn at h
  split at h
  · cases h
  · cases h
  · rename_i wire rest' hn
    split at h
    · cases h
    · rename_i m r'' ho
      simp only [Turn.more.injEq] at h
      obtain ⟨rfl, rfl, rfl⟩ := h
      exact ⟨wire, m, hn, ho, rfl⟩

theorem receive_wait {A : Aead} {ssl : Ssl} {r r' : SecureRecord} {b rest : WireBuffer} {evs : List Received}
    (h : receive_turn A ssl r b = .wait evs r' rest) : evs = [] ∧ r' = r ∧ rest = b := by
  unfold receive_turn at h
  have hn := next_append b []
  split at h
  · cases h
  · rename_i b' hb
    rw [hb] at hn
    simp only [Turn.wait.injEq] at h
    obtain ⟨rfl, rfl, rfl⟩ := h
    exact ⟨rfl, rfl, hn⟩
  · split at h <;> cases h

theorem receive_stop {A : Aead} {ssl : Ssl} {r : SecureRecord} {b : WireBuffer} {evs : List Received}
    (h : receive_turn A ssl r b = .stop evs) : messages evs = [] := by
  unfold receive_turn at h
  split at h
  · cases h; rfl
  · cases h
  · split at h
    · cases h; rfl
    · cases h

/-- More bytes after the buffer do not change a turn that takes a record or fails. -/
theorem receive_append (A : Aead) (ssl : Ssl) (r : SecureRecord) (b x : WireBuffer) :
    match receive_turn A ssl r b with
    | .more evs r' rest => receive_turn A ssl r (b ++ x) = .more evs r' (rest ++ x)
    | .wait _ _ _ => True
    | .stop _ => ∃ evs, receive_turn A ssl r (b ++ x) = .stop evs := by
  have hn := next_append b x
  unfold receive_turn
  cases hb : WireBuffer.next b with
  | mk res b' =>
    rw [hb] at hn
    match res, hn with
    | .error e, hn => obtain ⟨e', he⟩ := hn; simp [he]
    | .ok none, hn => simp
    | .ok (some wire), hn =>
      simp only [hn]
      cases ho : open_wire_record A (ssl r.sequence_) wire r with
      | mk res r' => cases res <;> simp

theorem receive_shrinks {A : Aead} {ssl : Ssl} {r r' : SecureRecord} {b rest : WireBuffer} {evs : List Received}
    (h : receive_turn A ssl r b = .more evs r' rest) : rest.length < b.length := by
  obtain ⟨wire, m, hn, -, -⟩ := receive_more h
  obtain ⟨rfl, hl, -⟩ := next_some hn
  rw [List.length_append]; omega

/-- The loop over the received bytes. -/
def receiver (A : Aead) (ssl : Ssl) : Parser UInt8 SecureRecord Received where
  turn := receive_turn A ssl
  shrinks := receive_shrinks

theorem receiver_stable (A : Aead) (ssl : Ssl) : (receiver A ssl).Stable Received.message? := by
  intro r b x
  have ha := receive_append A ssl r b x
  simp only [receiver]
  cases ht : receive_turn A ssl r b with
  | more evs r' rest => rw [ht] at ha; exact ha
  | wait evs r' rest => obtain ⟨rfl, rfl, rfl⟩ := receive_wait ht; exact ⟨rfl, rfl, rfl⟩
  | stop evs =>
    rw [ht] at ha
    obtain ⟨evs', he⟩ := ha
    exact ⟨evs', he, (receive_stop he).trans (receive_stop ht).symm⟩

theorem messages_append (es es' : List Received) : messages (es ++ es') = messages es ++ messages es' :=
  List.filterMap_append

@[simp] theorem messages_map (ms : List WireMessage) : messages (ms.map .message) = ms := by
  induction ms with
  | nil => rfl
  | cons m ms ih => rw [List.map_cons, messages, List.filterMap_cons]; exact congrArg (m :: ·) ih

/-! ## What a sender produces -/

/-- The wire forms of messages sealed in order. -/
def framed_all (A : Aead) : SecureRecord → List WireMessage → List Bytes
  | _, [] => []
  | r, m :: ms => framed A r m :: framed_all A r.next_nonce.2 ms

theorem framed_all_length (A : Aead) (r : SecureRecord) (ms : List WireMessage) :
    (framed_all A r ms).length = ms.length := by
  induction ms generalizing r with
  | nil => rfl
  | cons m ms ih => simp [framed_all, ih]

theorem framed_all_getElem (A : Aead) (r : SecureRecord) (ms : List WireMessage) (k : Nat) (h : k < ms.length) :
    (framed_all A r ms)[k]? = some (framed A (r.skip k) ms[k]) := by
  induction ms generalizing r k with
  | nil => simp at h
  | cons m ms ih =>
    cases k with
    | zero => simp [framed_all]
    | succ k =>
      rw [framed_all, List.getElem?_cons_succ, ih r.next_nonce.2 k (by simpa using h), SecureRecord.skip_succ]
      rfl

theorem framed_all_pos (A : Aead) (r : SecureRecord) (ms : List WireMessage) :
    ∀ wire ∈ framed_all A r ms, 0 < wire.length := by
  induction ms generalizing r with
  | nil => intro wire hw; cases hw
  | cons m ms ih =>
    intro wire hw
    rcases List.mem_cons.1 hw with rfl | hw
    · rw [framed_length]; omega
    · exact ih r.next_nonce.2 wire hw

theorem framed_all_append (A : Aead) (r : SecureRecord) (ms : List WireMessage) (m : WireMessage) :
    framed_all A r (ms ++ [m]) = framed_all A r ms ++ [framed A (r.skip ms.length) m] := by
  induction ms generalizing r with
  | nil => simp [framed_all]
  | cons n ms ih => simp [framed_all, ih, SecureRecord.skip_succ]

theorem framed_all_take (A : Aead) (r : SecureRecord) (ms : List WireMessage) (k : Nat) :
    (framed_all A r ms).take k = framed_all A r (ms.take k) := by
  induction ms generalizing r k with
  | nil => simp [framed_all]
  | cons m ms ih =>
    cases k with
    | zero => rfl
    | succ k => simp [framed_all, ih]

/-- Whatever the cipher says to them, records that were sealed in order use up one nonce each. -/
theorem open_wire_records_skip (A : Aead) (r r' : SecureRecord) (ms : List WireMessage) (h : ∀ m ∈ ms, m.Fits) :
    (open_wire_records A r' (framed_all A r ms)).2 = r'.skip ms.length := by
  induction ms generalizing r r' with
  | nil => simp [framed_all, open_wire_records]
  | cons m ms ih =>
    rw [framed_all, open_wire_records, open_framed_state A r r' m (h m (by simp)), List.length_cons,
      SecureRecord.skip_succ]
    exact ih r.next_nonce.2 r'.next_nonce.2 fun m hm => h m (by simp [hm])

/-- A run of calls produces the wire forms of the messages that fit, under
consecutive nonces, and a refused call uses none. -/
theorem make_wire_records_eq (A : Aead) (r : SecureRecord) (ms : List WireMessage) :
    (make_wire_records A r ms).1.filterMap Except.toOption = framed_all A r (ms.filter (·.Fits)) ∧
      (make_wire_records A r ms).2 = r.skip (ms.filter (·.Fits)).length := by
  induction ms generalizing r with
  | nil => simp [make_wire_records, framed_all]
  | cons m ms ih =>
    rw [make_wire_records, make_wire_record_eq]
    by_cases hf : m.Fits
    · obtain ⟨h1, h2⟩ := ih r.next_nonce.2
      simp only [hf, if_true, List.filterMap_cons, Except.toOption, h1, h2, List.filter_cons, decide_true,
        framed_all, List.length_cons, SecureRecord.skip_succ]
      exact ⟨trivial, trivial⟩
    · obtain ⟨h1, h2⟩ := ih r
      simp only [hf, if_false, List.filterMap_cons, Except.toOption, h1, h2, List.filter_cons, decide_false,
        Bool.false_eq_true, and_self]

/-- Where every message fits no call fails. -/
theorem make_wire_records_fits (A : Aead) (r : SecureRecord) (ms : List WireMessage) (h : ∀ m ∈ ms, m.Fits) :
    make_wire_records A r ms = ((framed_all A r ms).map .ok, r.skip ms.length) := by
  induction ms generalizing r with
  | nil => simp [make_wire_records, framed_all]
  | cons m ms ih =>
    rw [make_wire_records, make_wire_record_fits A m r (h m (by simp))]
    simp only [ih r.next_nonce.2 (fun m hm => h m (by simp [hm])), framed_all, List.map_cons, List.length_cons,
      SecureRecord.skip_succ]

/-! ## Round trip -/

theorem receive_framed (A : Aead) (r : SecureRecord) (m : WireMessage)
    (hA : A.decrypt r.key_ r.next_nonce.1 (A.encrypt r.key_ r.next_nonce.1 m.plaintext) = some m.plaintext)
    (h : m.Fits) (x : Bytes) :
    receive_turn A Ssl.works r (framed A r m ++ x) = .more [.message m] r.next_nonce.2 x := by
  simp only [receive_turn, next_framed A r m h x, Ssl.works, open_framed A r m hA h]

theorem receiver_frames (A : Aead) (hA : A.Opens) (r : SecureRecord) (ms : List WireMessage) (h : ∀ m ∈ ms, m.Fits) :
    (receiver A Ssl.works).Frames id 0 r (framed_all A r ms).flatten (ms.map .message) (r.skip ms.length) [] := by
  induction ms generalizing r with
  | nil =>
    rw [List.map_nil, List.length_nil, SecureRecord.skip_zero]
    refine .tail fun p hp _ => ?_
    rw [List.prefix_nil.1 hp]; rfl
  | cons m ms ih =>
    have hf := (receiver_stable A Ssl.works).frame id (fun hw => (receive_wait hw).2.2)
      (receive_framed A r m (hA _ _ _) (h m (by simp)))
    rw [List.length_cons, SecureRecord.skip_succ]
    exact .cons hf (ih r.next_nonce.2 fun m hm => h m (by simp [hm]))

/-- Messages of any size up to the limit, sealed in order by one record, come
out of the receiver in order, however the wire bytes were cut into chunks: no
call fails, and nothing is left in the buffer. Both counters end where the
other's does, so the statement needs no bound on the number of records. -/
theorem record_stream_round_trip (A : Aead) (hA : A.Opens) (key : Key) (iv : Iv) (ms : List WireMessage)
    (h : ∀ m ∈ ms, m.payload.length ≤ kMaxPayload - 2) :
    ∃ (wires : List Bytes) (r : SecureRecord), make_wire_records A (.new key iv) ms = (wires.map .ok, r) ∧
      ∀ chunks : List Bytes, chunks.flatten = wires.flatten →
        (receiver A Ssl.works).feed (some (.new key iv, [])) chunks = (ms.map .message, some (r, [])) := by
  have hfit : ∀ m ∈ ms, m.Fits := fun m hm => by
    have := h m hm
    simp only [WireMessage.Fits, kMaxPayload] at this ⊢
    omega
  refine ⟨framed_all A (.new key iv) ms, _, make_wire_records_fits A _ ms hfit, fun chunks hc => ?_⟩
  exact (receiver_frames A hA (.new key iv) ms hfit).feed (fun _ _ _ => rfl) [] chunks rfl hc (by simp)

/-- Two messages, an empty one among them, under a key and iv of zeros. -/
theorem record_stream_round_trip_two :
    ∃ (wires : List Bytes) (r : SecureRecord),
      make_wire_records (markedAead fun _ _ _ => true) (.new (.replicate 32 0) (.replicate 12 0))
        [⟨.Control, 0, [1, 2, 3]⟩, ⟨.Video, 1, []⟩] = (wires.map .ok, r) ∧
      ∀ chunks : List Bytes, chunks.flatten = wires.flatten →
        (receiver (markedAead fun _ _ _ => true) Ssl.works).feed
          (some (.new (.replicate 32 0) (.replicate 12 0), [])) chunks =
            ([.message ⟨.Control, 0, [1, 2, 3]⟩, .message ⟨.Video, 1, []⟩], some (r, [])) :=
  record_stream_round_trip _ markedAead_opens _ _ _ (by decide)

end CameraStreamer.Secure
