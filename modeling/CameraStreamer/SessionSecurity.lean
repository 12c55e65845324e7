import CameraStreamer.RecordWriter
import CameraStreamer.ServeSession
import Mathlib.Data.List.Nodup
/-!
# What the implicit nonce gives

The nonce of a record is never sent: both ends count. Here is why no nonce is
used twice and the two counts stay together, also when a call is refused, and
why under an ideal cipher the messages an end accepts are the first ones that
were sealed, whatever reaches it on the wire.
-/

namespace CameraStreamer.Secure

open Incremental Runs

/-! ## Nonces -/

/-- The first `n` nonces under an iv. -/
def nonces (iv : Iv) (n : Nat) : List Iv := (List.range n).map fun k => nonce_at iv (UInt64.ofNat k)

/-- The wire record of `m` under a key and nonce. -/
def wire_under (A : Aead) (key : Key) (nonce : Iv) (m : WireMessage) : Bytes :=
  BigEndian.put_be32 (UInt32.ofNat (m.payload.length + 18)) ++ A.encrypt key nonce m.plaintext

theorem nonces_nodup (iv : Iv) (n : Nat) (h : n ≤ 2 ^ 64) : (nonces iv n).Nodup := by
  refine List.Nodup.map_on ?_ List.nodup_range
  intro j hj k hk heq
  rw [List.mem_range] at hj hk
  exact nonce_at_ofNat_inj iv j k (by omega) (by omega) heq

theorem nonces_getElem (iv : Iv) (n k : Nat) (h : k < n) : (nonces iv n)[k]? = some (nonce_at iv (UInt64.ofNat k)) := by
  simp [nonces, h]

/-- The `k`-th wire record is under the `k`-th nonce. -/
theorem framed_all_nonces (A : Aead) (key : Key) (iv : Iv) (ms : List WireMessage) :
    framed_all A (.new key iv) ms = List.zipWith (wire_under A key) (nonces iv ms.length) ms := by
  apply List.ext_getElem?
  intro k
  by_cases hk : k < ms.length
  · rw [framed_all_getElem A _ ms k hk, List.getElem?_zipWith, nonces_getElem iv _ k hk, List.getElem?_eq_getElem hk,
      framed, SecureRecord.skip_nonce, SecureRecord.skip_key]
    rfl
  · rw [List.getElem?_eq_none (by rw [framed_all_length]; omega),
      List.getElem?_eq_none (by simp [nonces]; omega)]

theorem filter_fits (ms : List WireMessage) : ∀ m ∈ ms.filter (·.Fits), m.Fits := by
  intro m hm
  simpa using (List.mem_filter.1 hm).2

/-! ## The writer and its peer -/

/-- No OpenSSL call fails in `as`. -/
def seals_work (as : List WriterAction) : Prop := ∀ p evp, .make_record p evp ∈ as → evp = .ok

/-- What the writer sealed is what one record seals of the messages in turn, and
it refused only what does not fit. -/
structure Synced (A : Aead) (key : Key) (iv : Iv) (s : RecordWriter) : Prop where
  fits : ∀ x ∈ s.sealed, x.call.message.Fits
  wires : s.sealed.map (·.wire) = framed_all A (.new key iv) (s.sealed.map (·.call.message))
  state : s.encrypt_ = (SecureRecord.new key iv).skip s.sealed.length
  refused : ∀ c ∈ s.refused, ¬ c.message.Fits

/-- The other steps do not touch what `Synced` is about. -/
theorem Synced.frame {A : Aead} {key : Key} {iv : Iv} {s s' : RecordWriter} (hI : Synced A key iv s)
    (h1 : s'.sealed = s.sealed) (h2 : s'.encrypt_ = s.encrypt_) (h3 : s'.refused = s.refused) :
    Synced A key iv s' := by
  refine ⟨?_, ?_, ?_, ?_⟩
  · rw [h1]; exact hI.fits
  · rw [h1]; exact hI.wires
  · rw [h1, h2]; exact hI.state
  · rw [h3]; exact hI.refused

theorem step_synced {A : Aead} {key : Key} {iv : Iv} {s s' : RecordWriter} (a : WriterAction)
    (ha : ∀ p evp, a = .make_record p evp → evp = .ok) (hI : Synced A key iv s)
    (h : RecordWriter.step A s a = some s') : Synced A key iv s' := by
  cases a with
  | call p m d => obtain ⟨-, rfl⟩ := RecordWriter.step_call h; exact hI.frame rfl rfl rfl
  | lock p => obtain ⟨c, -, -, rfl⟩ := RecordWriter.step_lock h; exact hI.frame rfl rfl rfl
  | test p => obtain ⟨c, -, ⟨-, -, rfl⟩ | ⟨-, rfl⟩⟩ := RecordWriter.step_test h <;> exact hI.frame rfl rfl rfl
  | make_record p evp =>
    have hevp := ha p evp rfl
    subst hevp
    obtain ⟨c, -, hc⟩ := RecordWriter.step_make_record h
    rw [make_wire_record_eq A c.message s.encrypt_] at hc
    by_cases hf : c.message.Fits
    · rw [if_pos hf] at hc
      rcases hc with ⟨e, r, he, -⟩ | ⟨wire, r, he, rfl⟩
      · cases he
      · cases he
        refine ⟨?_, ?_, ?_, hI.refused⟩
        · exact List.forall_mem_append.2 ⟨hI.fits, List.forall_mem_singleton.2 hf⟩
        · simp only [List.map_append, List.map_cons, List.map_nil]
          rw [hI.wires, framed_all_append, List.length_map, ← hI.state]
        · simp only [List.length_append, List.length_singleton]
          rw [hI.state, SecureRecord.skip_next]
    · -- a refused call leaves the record as it was
      rw [if_neg hf] at hc
      rcases hc with ⟨e, r, he, rfl⟩ | ⟨wire, r, he, -⟩
      · cases he
        refine ⟨hI.fits, hI.wires, hI.state, ?_⟩
        exact List.forall_mem_append.2 ⟨hI.refused, List.forall_mem_singleton.2 hf⟩
      · cases he
  | push p => obtain ⟨c, wire, -, -, rfl⟩ := RecordWriter.step_push h; exact hI.frame rfl rfl rfl
  | check e => obtain ⟨-, dead, drainer, rfl, -⟩ := RecordWriter.step_check h; exact hI.frame rfl rfl rfl
  | wake => obtain ⟨-, ⟨-, rfl⟩ | ⟨r, q, -, rfl⟩⟩ := RecordWriter.step_wake h <;> exact hI.frame rfl rfl rfl
  | write n => obtain ⟨r, o, -, ⟨-, -, rfl⟩ | ⟨-, rfl⟩⟩ := RecordWriter.step_write h <;> exact hI.frame rfl rfl rfl
  | write_fails => obtain ⟨r, o, -, rfl⟩ := RecordWriter.step_write_fails h; exact hI.frame rfl rfl rfl
  | die => rw [RecordWriter.step_die h]; exact hI.frame rfl rfl rfl

theorem run_synced {A : Aead} {key : Key} {iv : Iv} {as : List WriterAction} {s : RecordWriter}
    (h : Run (RecordWriter.step A) (.new key iv) as s) (hw : seals_work as) : Synced A key iv s := by
  refine h.inv_trace_of (P := fun a => ∀ p evp, a = .make_record p evp → evp = .ok) (fun _ => Synced A key iv) ?_ ?_
    fun a ha p evp he => hw p evp (he ▸ ha)
  · exact ⟨fun _ hx => (by cases hx), rfl, (SecureRecord.skip_zero _).symm, fun _ hc => (by cases hc)⟩
  · intro _ s a s' _ _ hI hworks hstep
    exact step_synced a hworks hI hstep

/-- A write never takes the whole rest of a record and leaves it in hand. -/
def Short (s : RecordWriter) : Prop := ∀ record ∈ s.drainer.in_hand, s.drainer.part.length < record.length

theorem step_short {A : Aead} {s s' : RecordWriter} (a : WriterAction) (hA : s.Accounted)
    (hne : ∀ x ∈ s.sealed, 0 < x.wire.length) (hI : Short s) (h : RecordWriter.step A s a = some s') : Short s' := by
  cases a with
  | call p m d => obtain ⟨-, rfl⟩ := RecordWriter.step_call h; exact hI
  | lock p => obtain ⟨c, -, -, rfl⟩ := RecordWriter.step_lock h; exact hI
  | test p => obtain ⟨c, -, ⟨-, -, rfl⟩ | ⟨-, rfl⟩⟩ := RecordWriter.step_test h <;> exact hI
  | make_record p evp =>
    obtain ⟨c, -, ⟨e, r, -, rfl⟩ | ⟨wire, r, -, rfl⟩⟩ := RecordWriter.step_make_record h <;> exact hI
  | push p => obtain ⟨c, wire, -, -, rfl⟩ := RecordWriter.step_push h; exact hI
  | check e =>
    obtain ⟨-, dead, drainer, rfl, rfl | rfl⟩ := RecordWriter.step_check h
    · intro r hr; cases hr
    · intro r hr; cases hr
  | wake =>
    obtain ⟨-, ⟨-, rfl⟩ | ⟨record, queue, hq, rfl⟩⟩ := RecordWriter.step_wake h
    · intro r hr; cases hr
    · intro r hr
      rw [Drainer.in_hand, List.mem_singleton] at hr
      subst hr
      -- a queued record is a sealed one, and none of those is empty
      have hmem : r ∈ s.sealed.map (·.wire) := by
        rw [hA, hq]
        simp
      obtain ⟨x, hx, rfl⟩ := List.mem_map.1 hmem
      simpa [Drainer.part] using hne x hx
  | write n =>
    obtain ⟨record, offset, -, ⟨-, hlt, rfl⟩ | ⟨-, rfl⟩⟩ := RecordWriter.step_write h
    · intro r hr
      rw [Drainer.in_hand, List.mem_singleton] at hr
      subst hr
      simp only [Drainer.part, List.length_take]
      omega
    · intro r hr; cases hr
  | write_fails =>
    obtain ⟨record, offset, hd, rfl⟩ := RecordWriter.step_write_fails h
    simpa [Short, hd, Drainer.in_hand, Drainer.part] using hI
  | die => rw [RecordWriter.step_die h]; exact hI

theorem run_short {A : Aead} {key : Key} {iv : Iv} {as : List WriterAction} {s : RecordWriter}
    (h : Run (RecordWriter.step A) (.new key iv) as s) (hw : seals_work as) : Short s := by
  refine h.inv_trace_of (P := fun a => ∀ p evp, a = .make_record p evp → evp = .ok) (fun _ => Short) ?_ ?_
    fun a ha p evp he => hw p evp (he ▸ ha)
  · intro r hr
    cases hr
  · intro as s a s' hr hP hI _ hstep
    have hw' : seals_work as := fun p evp hm => hP _ hm p evp rfl
    refine step_short a (RecordWriter.run_inv hr).accounted ?_ hI hstep
    intro x hx
    have hwires := (run_synced hr hw').wires
    exact framed_all_pos A _ _ x.wire (hwires ▸ List.mem_map_of_mem hx)

/-- What is in hand, and how much of it was written. -/
theorem in_hand_cases (d : Drainer) :
    (d.in_hand = [] ∧ d.part = []) ∨ ∃ record offset, d.in_hand = [record] ∧ d.part = record.take offset := by
  match d with
  | .checking => exact .inl ⟨rfl, rfl⟩
  | .waiting => exact .inl ⟨rfl, rfl⟩
  | .writing record offset => exact .inr ⟨record, offset, rfl, rfl⟩
  | .exited none => exact .inl ⟨rfl, rfl⟩
  | .exited (some (record, offset)) => exact .inr ⟨record, offset, rfl, rfl⟩

/-- The host reads what the writer has sent and goes on waiting, wherever the
writer is in the next record. -/
theorem peer_in_step {A : Aead} (hA : A.Opens) {key : Key} {iv : Iv} {as : List WriterAction} {s : RecordWriter}
    (h : Run (RecordWriter.step A) (.new key iv) as s) (hw : seals_work as) (chunks : List Bytes)
    (hc : chunks.flatten = s.endpoint) :
    ((drainInbound A Ssl.works).feed (some (.new key iv, [])) chunks).1 =
        (s.sealed.take s.sent.length).map (fun x => .message x.call.message) ∧
      ((drainInbound A Ssl.works).feed (some (.new key iv, [])) chunks).2.isSome := by
  have hI := RecordWriter.run_inv h
  have hS := run_synced h hw
  have hacc := hI.accounted
  -- the written records are the first ones sealed
  have hsent : s.sent = framed_all A (.new key iv) ((s.sealed.take s.sent.length).map (·.call.message)) := by
    rw [List.map_take, ← framed_all_take, ← hS.wires, hacc, List.take_left]
  have hfits : ∀ m ∈ (s.sealed.take s.sent.length).map (·.call.message), m.Fits := by
    intro m hm
    obtain ⟨x, hx, rfl⟩ := List.mem_map.1 hm
    exact hS.fits x (List.mem_of_mem_take hx)
  have hlen : ((s.sealed.take s.sent.length).map (·.call.message)).length = s.sent.length := by
    rw [← framed_all_length A (.new key iv), ← hsent]
  have hwait : Waits A ((SecureRecord.new key iv).skip s.sent.length) s.drainer.part := by
    rcases in_hand_cases s.drainer with ⟨-, hp⟩ | ⟨record, offset, hh, hp⟩
    · rw [hp]
      exact waits_zeros A _ 0
    · -- the record in hand is the next one sealed
      have hnth : (s.sealed.map (·.wire))[s.sent.length]? = some record := by
        rw [hacc, hh, List.getElem?_append_right (Nat.le_refl _), Nat.sub_self]
        rfl
      have hk : s.sent.length < (s.sealed.map (·.call.message)).length := by
        have := (List.getElem?_eq_some_iff.1 hnth).1
        simpa using this
      rw [hS.wires, framed_all_getElem A _ _ _ hk, Option.some.injEq] at hnth
      have hshort := run_short h hw record (by rw [hh]; simp)
      refine waits_part A hA _ _ (hS.fits _ (List.getElem_mem (by simpa using hk))) _ ?_ ?_
      · rw [hp, ← hnth, List.getElem_map]
        exact List.take_prefix _ _
      · intro he
        rw [List.getElem_map] at hnth
        rw [he, hnth] at hshort
        exact Nat.lt_irrefl _ hshort
  have hrec := drainInbound_records A hA (.new key iv) _ hfits s.drainer.part (by rw [hlen]; exact hwait) chunks
    (by rw [hc, hI.written, ← hsent])
  rw [hrec, List.map_map]
  exact ⟨rfl, rfl⟩

/-- The records that calls on one `SecureRecord` produce are under pairwise
distinct nonces, the `k`-th under the one the peer's `k`-th `open` uses, and a
refused call uses none. So the peer of a writer whose refused calls left the
session alive opens every record that is written. -/
theorem nonce_discipline (A : Aead) (key : Key) (iv : Iv) :
    (∀ ms : List WireMessage, ms.length < 2 ^ 64 →
      let produced := (make_wire_records A (.new key iv) ms).1.filterMap Except.toOption
      produced = List.zipWith (wire_under A key) (nonces iv produced.length) (ms.filter (·.Fits)) ∧
        produced.length = (ms.filter (·.Fits)).length ∧
        (nonces iv produced.length).Nodup ∧
        ∀ k < produced.length, (nonces iv produced.length)[k]? =
          some (open_wire_records A (.new key iv) (produced.take k)).2.next_nonce.1) ∧
    (∀ (m : WireMessage) (r r' : SecureRecord) (e : String),
      make_wire_record A .ok m.channel m.stream m.payload r = (.error e, r') → r' = r) ∧
    ∀ (as : List WriterAction) (s : RecordWriter), Run (RecordWriter.step A) (.new key iv) as s → seals_work as →
      A.Opens → (∀ c ∈ s.refused, ¬ c.message.Fits) ∧ ∀ chunks : List Bytes, chunks.flatten = s.endpoint →
        ((drainInbound A Ssl.works).feed (some (.new key iv, [])) chunks).1 =
            (s.sealed.take s.sent.length).map (fun x => .message x.call.message) ∧
          ((drainInbound A Ssl.works).feed (some (.new key iv, [])) chunks).2.isSome := by
  refine ⟨?_, ?_, ?_⟩
  · intro ms hms
    have hp := (make_wire_records_eq A (.new key iv) ms).1
    have hle : (ms.filter (·.Fits)).length ≤ ms.length := List.length_filter_le _ _
    intro produced
    have hpr : produced = framed_all A (.new key iv) (ms.filter (·.Fits)) := hp
    have hlen : produced.length = (ms.filter (·.Fits)).length := by rw [hpr, framed_all_length]
    refine ⟨?_, hlen, nonces_nodup iv _ (by omega), ?_⟩
    · rw [hlen, hpr]
      exact framed_all_nonces A key iv _
    · intro k hk
      have htake : ∀ m ∈ (ms.filter (·.Fits)).take k, m.Fits := fun m hm =>
        filter_fits ms m (List.mem_of_mem_take hm)
      have hklen : ((ms.filter (·.Fits)).take k).length = k := List.length_take_of_le (by omega)
      rw [nonces_getElem iv _ k hk, hpr, framed_all_take, open_wire_records_skip A _ _ _ htake, hklen,
        SecureRecord.skip_nonce]
  · intro m r r' e h
    rw [make_wire_record_eq] at h
    split at h
    · cases h
    · cases h; rfl
  · intro as s h hw hA
    exact ⟨(run_synced h hw).refused, peer_in_step hA h hw⟩

/-- Two calls on one record, and the first record of `two_producers` reaching the host. -/
theorem nonce_discipline_two :
    (nonces (.replicate 12 0) ((make_wire_records (markedAead fun _ _ _ => true)
      (.new (.replicate 32 0) (.replicate 12 0)) [⟨.Control, 0, [1]⟩, ⟨.Meta, 1, []⟩]).1.filterMap
        Except.toOption).length).Nodup ∧
    ∃ s, Run (RecordWriter.step (markedAead fun _ _ _ => true)) (.new (.replicate 32 0) (.replicate 12 0))
        two_producers s ∧
      (∀ c ∈ s.refused, ¬ c.message.Fits) ∧ ∀ chunks : List Bytes, chunks.flatten = s.endpoint →
        ((drainInbound (markedAead fun _ _ _ => true) Ssl.works).feed
            (some (.new (.replicate 32 0) (.replicate 12 0), [])) chunks).1 =
            (s.sealed.take s.sent.length).map (fun x => .message x.call.message) ∧
          ((drainInbound (markedAead fun _ _ _ => true) Ssl.works).feed
            (some (.new (.replicate 32 0) (.replicate 12 0), [])) chunks).2.isSome := by
  obtain ⟨s, hs⟩ : ∃ s, exec (RecordWriter.step (markedAead fun _ _ _ => true))
      (.new (.replicate 32 0) (.replicate 12 0)) two_producers = some s := ⟨_, rfl⟩
  exact ⟨((nonce_discipline (markedAead fun _ _ _ => true) (.replicate 32 0) (.replicate 12 0)).1
      [⟨.Control, 0, [1]⟩, ⟨.Meta, 1, []⟩] (by decide)).2.2.1,
    s, run_of_exec hs, (nonce_discipline _ _ _).2.2 two_producers s (run_of_exec hs)
    (by simp [seals_work, two_producers]) markedAead_opens⟩

/-! ## Integrity -/

/-- The nonces and plaintexts that `make_wire_record` seals when it is called
with `ms` in turn. -/
def sealed_by (iv : Iv) (ms : List WireMessage) : List (Iv × Bytes) :=
  (nonces iv (ms.filter (·.Fits)).length).zip ((ms.filter (·.Fits)).map (·.plaintext))

section Integrity
variable {A : Aead} {key : Key} {iv : Iv} {ms : List WireMessage}

/-- After `k` messages only the `k`-th sealed one is accepted. -/
theorem accepted_next (hlen : (ms.filter (·.Fits)).length < 2 ^ 64) (hI : A.Ideal key (sealed_by iv ms))
    {evp : Evp} {wire : Bytes} {m : WireMessage} {r' : SecureRecord} {k : Nat} (hk : k ≤ (ms.filter (·.Fits)).length)
    (h : open_wire_record A evp wire ((SecureRecord.new key iv).skip k) = (.ok m, r')) :
    (ms.filter (·.Fits))[k]? = some m ∧ r' = (SecureRecord.new key iv).skip (k + 1) := by
  obtain ⟨hd, rfl⟩ := open_wire_record_ok h
  rw [SecureRecord.skip_nonce, SecureRecord.skip_key] at hd
  obtain ⟨hmem, -⟩ := hI _ _ _ hd
  obtain ⟨j, hj⟩ := List.mem_iff_getElem?.1 hmem
  rw [sealed_by, List.getElem?_zip_eq_some] at hj
  obtain ⟨hn, hp⟩ := hj
  have hjlt : j < (ms.filter (·.Fits)).length := by
    have := (List.getElem?_eq_some_iff.1 hn).1
    simpa [nonces] using this
  -- the nonce says which of the sealed messages it was
  rw [nonces_getElem iv _ j hjlt, Option.some.injEq] at hn
  have hjk := nonce_at_ofNat_inj iv j k (by omega) (by omega) hn
  subst hjk
  rw [List.getElem?_map, Option.map_eq_some_iff] at hp
  obtain ⟨m', hm', he⟩ := hp
  rw [hm', plaintext_inj he]
  exact ⟨rfl, SecureRecord.skip_next _ _⟩

/-- The state of a receiver that accepted what is in `es`. -/
def InStep (key : Key) (iv : Iv) (ms : List WireMessage) (accepted : List WireMessage) (r : SecureRecord) : Prop :=
  ∃ k ≤ (ms.filter (·.Fits)).length, accepted = (ms.filter (·.Fits)).take k ∧ r = (SecureRecord.new key iv).skip k

theorem InStep.start : InStep key iv ms [] (.new key iv) :=
  ⟨0, Nat.zero_le _, rfl, (SecureRecord.skip_zero _).symm⟩

theorem InStep.accepted_prefix {accepted : List WireMessage} {r : SecureRecord} (h : InStep key iv ms accepted r) :
    accepted <+: ms.filter (·.Fits) := by
  obtain ⟨k, -, rfl, -⟩ := h
  exact List.take_prefix _ _

theorem InStep.accept (hlen : (ms.filter (·.Fits)).length < 2 ^ 64) (hI : A.Ideal key (sealed_by iv ms))
    {accepted : List WireMessage} {r r' : SecureRecord} (h : InStep key iv ms accepted r) {evp : Evp} {wire : Bytes}
    {m : WireMessage} (ho : open_wire_record A evp wire r = (.ok m, r')) : InStep key iv ms (accepted ++ [m]) r' := by
  obtain ⟨k, hk, rfl, rfl⟩ := h
  obtain ⟨hm, rfl⟩ := accepted_next hlen hI hk ho
  have hlt := (List.getElem?_eq_some_iff.1 hm).1
  exact ⟨k + 1, hlt, by rw [List.take_add_one, hm]; rfl, rfl⟩

/-- A loop whose turns are `receive_turn`s accepts a prefix of the sealed list. -/
theorem receiver_integrity (hlen : (ms.filter (·.Fits)).length < 2 ^ 64) (hI : A.Ideal key (sealed_by iv ms))
    (ssl : Ssl) (P : Parser UInt8 SecureRecord Received) (look : WireBuffer → WireBuffer)
    (hP : ∀ r b, P.turn r b = receive_turn A ssl r (look b)) (chunks : List Bytes) :
    messages (P.feed (some (.new key iv, [])) chunks).1 <+: ms.filter (·.Fits) := by
  have hinv := P.feed_inv (fun es r => InStep key iv ms (messages es) r) (fun es => messages es <+: ms.filter (·.Fits))
    ?_ ?_ ?_ chunks [] (.new key iv) [] InStep.start
  · rw [List.nil_append] at hinv
    cases hp : (P.feed (some (.new key iv, [])) chunks).2 with
    | none => rw [hp] at hinv; exact hinv
    | some q => rw [hp] at hinv; exact hinv.accepted_prefix
  · intro es r b evs r' rest h ht
    rw [hP] at ht
    obtain ⟨wire, m, -, ho, rfl⟩ := receive_more ht
    rw [messages_append]
    exact h.accept hlen hI ho
  · intro es r b evs r' rest h ht
    rw [hP] at ht
    obtain ⟨rfl, rfl, -⟩ := receive_wait ht
    rw [List.append_nil]
    exact h
  · intro es r b evs h ht
    rw [hP] at ht
    rw [messages_append, receive_stop ht, List.append_nil]
    exact h.accepted_prefix

/-- The keys of session `n` are the ones `ms` was sealed under. -/
def SealedFor (n : Nat) (key : Key) (iv : Iv) (es : List Served) : Prop :=
  ∀ keys, .established n keys ∈ es → keys.host_key = key ∧ keys.host_iv = iv

/-- The device before, after and in session `n`. -/
def DeviceInStep (n : Nat) (key : Key) (iv : Iv) (ms : List WireMessage) (es : List Served) (s : Demux) : Prop :=
  SealedFor n key iv es →
    (s.session ≠ some n ∧ s.responds ≤ n ∧ delivered n es = []) ∨
    (s.session ≠ some n ∧ n < s.responds ∧ delivered n es <+: ms.filter (·.Fits)) ∨
    (s.session = some n ∧ n < s.responds ∧ ∃ r, s.decrypt = some r ∧ InStep key iv ms (delivered n es) r)

theorem SealedFor.left {n : Nat} {es es' : List Served} (h : SealedFor n key iv (es ++ es')) : SealedFor n key iv es :=
  fun keys hk => h keys (List.mem_append.2 (.inl hk))

theorem DeviceInStep.accepted_prefix {n : Nat} {es : List Served} {s : Demux} (h : DeviceInStep n key iv ms es s)
    (hk : SealedFor n key iv es) : delivered n es <+: ms.filter (·.Fits) := by
  rcases h hk with ⟨-, -, hd⟩ | ⟨-, -, hd⟩ | ⟨-, -, r, -, hd⟩
  · rw [hd]; exact List.nil_prefix
  · exact hd
  · exact hd.accepted_prefix

/-- Events that deliver nothing, and a session that is gone or as it was. -/
theorem DeviceInStep.quiet {n : Nat} {es evs : List Served} {s s' : Demux} (h : DeviceInStep n key iv ms es s)
    (hq : Quiet evs) (hs : s' = s ∨ s'.session = none ∧ s.responds ≤ s'.responds) :
    DeviceInStep n key iv ms (es ++ evs) s' := by
  intro hk
  have hpre := h.accepted_prefix hk.left
  rw [delivered_append, hq.delivered, List.append_nil]
  rcases hs with rfl | ⟨hnone, hle⟩
  · exact h hk.left
  · have hne : s'.session ≠ some n := by rw [hnone]; simp
    by_cases hn : n < s'.responds
    · exact .inr (.inl ⟨hne, hn, hpre⟩)
    · rcases h hk.left with ⟨-, -, hd⟩ | ⟨-, hlt, -⟩ | ⟨-, hlt, -⟩
      · exact .inl ⟨hne, by omega, hd⟩
      · omega
      · omega

theorem device_turn_in_step (hlen : (ms.filter (·.Fits)).length < 2 ^ 64) (hI : A.Ideal key (sealed_by iv ms))
    {D : Device} (hD : D.aead = A) {n : Nat} {es evs : List Served} {s s' : Demux} {b rest : WireBuffer}
    (h : DeviceInStep n key iv ms es s) (ht : (demux D).turn s b = .more evs s' rest) :
    DeviceInStep n key iv ms (es ++ evs) s' := by
  rcases demux_more ht with ⟨hq, hnone, hr⟩ | ⟨pre, keys, hq, rfl, rfl⟩ | ⟨r, wire, m, r', hr, ho, rfl, rfl⟩
  · exact h.quiet hq (.inr ⟨hnone, by omega⟩)
  · -- a new session: session `n` is over, starts here, or is still to come
    intro hk
    have hpre := h.accepted_prefix hk.left
    have hd : delivered n (es ++ (pre ++ [.established s.responds keys])) = delivered n es := by
      rw [delivered_append, delivered_append, hq.delivered]
      simp [delivered]
    rw [hd]
    rcases Nat.lt_trichotomy n s.responds with hn | hn | hn
    · exact .inr (.inl ⟨fun he => by cases he; omega, Nat.lt_succ_of_lt hn, hpre⟩)
    · subst hn
      obtain ⟨rfl, rfl⟩ := hk keys (by simp)
      refine .inr (.inr ⟨rfl, Nat.lt_succ_self _, _, rfl, ?_⟩)
      rcases h hk.left with ⟨-, -, hd⟩ | ⟨-, hlt, -⟩ | ⟨-, hlt, -⟩
      · rw [hd]; exact InStep.start
      · omega
      · omega
    · rcases h hk.left with ⟨-, -, hd⟩ | ⟨-, hlt, -⟩ | ⟨-, hlt, -⟩
      · exact .inl ⟨fun he => by cases he; omega, hn, hd⟩
      · omega
      · omega
  · intro hk
    rw [delivered_append]
    by_cases hs : s.session = some n
    · rcases h hk.left with ⟨hne, -⟩ | ⟨hne, -⟩ | ⟨-, hlt, r₀, hr₀, hin⟩
      · exact absurd hs hne
      · exact absurd hs hne
      · rw [hr] at hr₀
        cases hr₀
        rw [hD] at ho
        refine .inr (.inr ⟨hs, hlt, r', rfl, ?_⟩)
        rw [show delivered n [.delivered s.session m] = [m] by simp [delivered, hs]]
        exact hin.accept hlen hI ho
    · have hd : delivered n [.delivered s.session m] = [] := by
        cases hsess : s.session with
        | none => rfl
        | some n' =>
          have : n' ≠ n := fun he => hs (by rw [hsess, he])
          simp [delivered, this]
      rw [hd, List.append_nil]
      rcases h hk.left with ⟨-, hle, hd⟩ | ⟨-, hlt, hd⟩ | ⟨he, -⟩
      · exact .inl ⟨hs, hle, hd⟩
      · exact .inr (.inl ⟨hs, hlt, hd⟩)
      · exact absurd he hs

theorem device_integrity (hlen : (ms.filter (·.Fits)).length < 2 ^ 64) (hI : A.Ideal key (sealed_by iv ms))
    (D : Device) (hD : D.aead = A) (reads : List EndpointRead) (n : Nat)
    (hk : SealedFor n key iv (serve_session D .new [] reads)) :
    delivered n (serve_session D .new [] reads) <+: ms.filter (·.Fits) := by
  refine serve_session_inv (DeviceInStep n key iv ms)
    (fun es => SealedFor n key iv es → delivered n es <+: ms.filter (·.Fits))
    (fun h ht => device_turn_in_step hlen hI hD h ht) ?_ ?_ ?_ (fun h hk => h.accepted_prefix hk) reads [] .new [] ?_ hk
  · intro es s b evs s' rest h ht
    obtain ⟨hq, rfl | rfl⟩ := demux_wait ht
    · exact h.quiet hq (.inl rfl)
    · exact h.quiet hq (.inr ⟨end_session_session s, Nat.le_of_eq (end_session_responds s).symm⟩)
  · intro es s b evs h ht hk
    rw [delivered_append, (demux_stop ht).delivered, List.append_nil]
    exact h.accepted_prefix hk.left
  · intro es s h hk
    rw [delivered_append, (end_session_quiet s).delivered, List.append_nil]
    exact h.accepted_prefix hk.left
  · intro _
    exact .inl ⟨fun he => (by cases he), Nat.zero_le _, rfl⟩

end Integrity

/-- Whatever bytes an attacker makes of the wire records of `ms`, and however
they arrive, the messages the other end accepts are the first ones of those that
were sealed: for the receiving loop, the host's with its padding, and each
session of the device. -/
theorem session_integrity (A : Aead) (key : Key) (iv : Iv) (ms : List WireMessage)
    (hlen : (ms.filter (·.Fits)).length < 2 ^ 64) (hI : A.Ideal key (sealed_by iv ms)) :
    (∀ (ssl : Ssl) (chunks : List Bytes),
      messages ((receiver A ssl).feed (some (.new key iv, [])) chunks).1 <+: ms.filter (·.Fits)) ∧
    (∀ (ssl : Ssl) (chunks : List Bytes),
      messages ((drainInbound A ssl).feed (some (.new key iv, [])) chunks).1 <+: ms.filter (·.Fits)) ∧
    ∀ (D : Device), D.aead = A → ∀ (reads : List EndpointRead) (n : Nat),
      SealedFor n key iv (serve_session D .new [] reads) →
        delivered n (serve_session D .new [] reads) <+: ms.filter (·.Fits) := by
  refine ⟨fun ssl chunks => ?_, fun ssl chunks => ?_, fun D hD reads n hk => ?_⟩
  · exact receiver_integrity hlen hI ssl (receiver A ssl) id (fun _ _ => rfl) chunks
  · exact receiver_integrity hlen hI ssl (drainInbound A ssl) unpadded (fun _ _ => rfl) chunks
  · exact device_integrity hlen hI D hD reads n hk

/-- A message and its wire record replayed to the host. -/
theorem session_integrity_replay :
    messages ((drainInbound (markedAead fun _ n p =>
        decide ((n, p) ∈ sealed_by (.replicate 12 0) [⟨.Control, 0, [1]⟩])) Ssl.works).feed
      (some (.new (.replicate 32 0) (.replicate 12 0), []))
      [framed (markedAead fun _ n p => decide ((n, p) ∈ sealed_by (.replicate 12 0) [⟨.Control, 0, [1]⟩]))
          (.new (.replicate 32 0) (.replicate 12 0)) ⟨.Control, 0, [1]⟩,
        framed (markedAead fun _ n p => decide ((n, p) ∈ sealed_by (.replicate 12 0) [⟨.Control, 0, [1]⟩]))
          (.new (.replicate 32 0) (.replicate 12 0)) ⟨.Control, 0, [1]⟩]).1 <+:
      [WireMessage.mk .Control 0 [1]].filter (·.Fits) :=
  (session_integrity _ _ _ [⟨.Control, 0, [1]⟩] (by decide) (markedAead_ideal _ _)).2.1 _ _

/-! ## Past the counter -/

/-- `n` empty messages, and then another one. -/
def overrun (n : Nat) : List WireMessage := List.replicate n ⟨.Control, 0, []⟩ ++ [⟨.Control, 0, [1]⟩]

theorem overrun_fits (n : Nat) : ∀ m ∈ overrun n, m.Fits := by
  intro m hm
  rcases List.mem_append.1 hm with hm | hm
  · rw [List.eq_of_mem_replicate hm]
    decide
  · rw [List.mem_singleton.1 hm]
    decide

theorem overrun_getElem (n : Nat) : (overrun n)[n]? = some ⟨.Control, 0, [1]⟩ := by
  rw [overrun, List.getElem?_append_right (by simp)]
  simp

theorem overrun_length (n : Nat) : (overrun n).length = n + 1 := by simp [overrun]

/-- The cipher under which nothing but `ms` was sealed. -/
def sealedAead (iv : Iv) (ms : List WireMessage) : Aead := markedAead fun _ n p => decide ((n, p) ∈ sealed_by iv ms)

/-- Once the counter has wrapped, a record is sealed under the first nonce again,
and a peer that has received nothing yet opens it. -/
theorem overrun_accepted (key : Key) (iv : Iv) (n : Nat) (hn : UInt64.ofNat n = 0) (h0 : 0 < n) :
    ∃ wire, (make_wire_records (sealedAead iv (overrun n)) (.new key iv) (overrun n)).1[n]? = some (.ok wire) ∧
      ¬messages ((drainInbound (sealedAead iv (overrun n)) Ssl.works).feed (some (.new key iv, [])) [wire]).1 <+:
        (overrun n).filter (·.Fits) := by
  have hk : n < (overrun n).length := by rw [overrun_length]; exact Nat.lt_succ_self n
  have hfits : (overrun n).filter (·.Fits) = overrun n := by
    rw [List.filter_eq_self]
    exact fun m hm => decide_eq_true (overrun_fits n m hm)
  have hskip : (SecureRecord.new key iv).skip n = .new key iv := by simp [SecureRecord.skip, hn]
  have hsealed : (nonce_at iv 0, (WireMessage.mk .Control 0 [1]).plaintext) ∈ sealed_by iv (overrun n) := by
    refine List.mem_of_getElem? (i := n) ?_
    rw [sealed_by, hfits, List.getElem?_zip_eq_some, nonces_getElem _ _ _ hk, List.getElem?_map, overrun_getElem, hn]
    exact ⟨rfl, rfl⟩
  refine ⟨framed (sealedAead iv (overrun n)) (.new key iv) ⟨.Control, 0, [1]⟩, ?_, ?_⟩
  · rw [make_wire_records_fits _ _ _ (overrun_fits n), List.getElem?_map, framed_all_getElem _ _ _ n hk, hskip]
    have := List.getElem?_eq_getElem hk
    rw [overrun_getElem, Option.some.injEq] at this
    rw [← this]
    rfl
  · have hopens := marked_decrypt (fun _ k p => decide ((k, p) ∈ sealed_by iv (overrun n))) key (nonce_at iv 0)
      (WireMessage.mk .Control 0 [1]).plaintext (decide_eq_true hsealed)
    have hturn := drainInbound_segment (sealedAead iv (overrun n)) (.new key iv) ⟨0, ⟨.Control, 0, [1]⟩⟩ hopens
      (by decide) (.inl rfl) []
    have hfeed : ((drainInbound (sealedAead iv (overrun n)) Ssl.works).feed (some (.new key iv, []))
        [framed (sealedAead iv (overrun n)) (.new key iv) ⟨.Control, 0, [1]⟩]).1 = [.message ⟨.Control, 0, [1]⟩] := by
      rw [List.replicate_zero, List.nil_append, List.append_nil] at hturn
      -- the record is all there was to read
      have hwait : (drainInbound (sealedAead iv (overrun n)) Ssl.works).turn (SecureRecord.new key iv).next_nonce.2 [] =
          .wait [] (SecureRecord.new key iv).next_nonce.2 [] := rfl
      simp only [Parser.feed, List.nil_append, Parser.drain_more _ hturn, Parser.drain_wait _ hwait, List.append_nil]
    rw [hfits, hfeed, show messages [.message ⟨.Control, 0, [1]⟩] = [⟨.Control, 0, [1]⟩] from rfl]
    intro hpre
    have := hpre.getElem (i := 0) (by simp)
    simp [overrun, h0] at this

/-- A session of `2 ^ 64 + 1` records: the host takes the last one for the first. -/
theorem session_integrity_wraps :
    (sealedAead (.replicate 12 0) (overrun (2 ^ 64))).Ideal (.replicate 32 0)
        (sealed_by (.replicate 12 0) (overrun (2 ^ 64))) ∧
      ∃ wire, (make_wire_records (sealedAead (.replicate 12 0) (overrun (2 ^ 64)))
          (.new (.replicate 32 0) (.replicate 12 0)) (overrun (2 ^ 64))).1[2 ^ 64]? = some (.ok wire) ∧
        ¬messages ((drainInbound (sealedAead (.replicate 12 0) (overrun (2 ^ 64))) Ssl.works).feed
            (some (.new (.replicate 32 0) (.replicate 12 0), [])) [wire]).1 <+:
          (overrun (2 ^ 64)).filter (·.Fits) :=
  ⟨markedAead_ideal _ _, overrun_accepted _ _ _ rfl (by decide)⟩

end CameraStreamer.Secure
