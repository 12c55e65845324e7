import CameraStreamer.RecordStream
/-!
# The host's parse loop

`drainInbound` of the bridge is the receiving loop with `skip_zero_padding` in
front of every `next`, because the gadget pads some transfers. Padding bytes and
the first bytes of a record's length are both zero, and the four-byte window of
`skip_zero_padding` stops where it first sees something else: three zeros before
that byte stay in the buffer, whatever they are. Only a record whose length has
exactly three leading zeros is found again behind padding.
-/

namespace CameraStreamer.Secure

open Incremental BigEndian

/-- The buffer after `skip_zero_padding`. -/
def unpadded (b : WireBuffer) : WireBuffer := (WireBuffer.skip_zero_padding b).2

/-- One turn of `drainInbound`. -/
def drainInbound_turn (A : Aead) (ssl : Ssl) (decrypt : SecureRecord) (inbound : WireBuffer) :
    Turn UInt8 SecureRecord Received :=
  receive_turn A ssl decrypt (unpadded inbound)

/-! ## Zero padding -/

theorem unpadded_zeros (rest : Bytes) : unpadded (0 :: 0 :: 0 :: 0 :: rest) = unpadded (0 :: 0 :: 0 :: rest) := by
  simp only [unpadded, WireBuffer.skip_zero_padding, and_self, if_true]

/-- A buffer that does not start with four zeros is left alone. -/
theorem unpadded_eq (b : WireBuffer) (h : ∀ rest, b ≠ 0 :: 0 :: 0 :: 0 :: rest) : unpadded b = b := by
  match b, h with
  | [], _ => rfl
  | [_], _ => rfl
  | [_, _], _ => rfl
  | [_, _, _], _ => rfl
  | b0 :: b1 :: b2 :: b3 :: rest, h =>
    have : ¬ (b0 = 0 ∧ b1 = 0 ∧ b2 = 0 ∧ b3 = 0) := by
      rintro ⟨rfl, rfl, rfl, rfl⟩
      exact h rest rfl
    simp only [unpadded, WireBuffer.skip_zero_padding, this, if_false]

/-- Induction along `skip_zero_padding`: what holds of every buffer that does
not start with four zeros, and of a buffer with one more zero in front of three,
holds of all. -/
theorem padding_induction {C : WireBuffer → Prop}
    (done : ∀ b, (∀ rest, b ≠ 0 :: 0 :: 0 :: 0 :: rest) → C b)
    (skip : ∀ rest, C (0 :: 0 :: 0 :: rest) → C (0 :: 0 :: 0 :: 0 :: rest)) (b : WireBuffer) : C b := by
  induction hn : b.length using Nat.strongRecOn generalizing b with
  | ind n ih =>
    by_cases h : ∃ rest, b = 0 :: 0 :: 0 :: 0 :: rest
    · obtain ⟨rest, rfl⟩ := h
      exact skip rest (ih _ (by rw [← hn]; simp) _ rfl)
    · exact done b fun rest hr => h ⟨rest, hr⟩

theorem unpadded_length (b : WireBuffer) : (unpadded b).length ≤ b.length := by
  induction b using padding_induction with
  | done b h => exact Nat.le_of_eq (congrArg List.length (unpadded_eq b h))
  | skip rest ih => rw [unpadded_zeros]; exact Nat.le_trans ih (by simp)

/-- Bytes skipped early are skipped late. -/
theorem unpadded_append (b x : WireBuffer) : unpadded (unpadded b ++ x) = unpadded (b ++ x) := by
  induction b using padding_induction with
  | done b h => rw [unpadded_eq b h]
  | skip rest ih => rw [unpadded_zeros, ih]; exact (unpadded_zeros (rest ++ x)).symm

/-- With four bytes left nothing that follows is skipped any more. -/
theorem unpadded_append_of_four (b x : WireBuffer) (h : 4 ≤ (unpadded b).length) :
    unpadded (b ++ x) = unpadded b ++ x := by
  induction b using padding_induction with
  | done b hb =>
    rw [unpadded_eq b hb] at h ⊢
    refine unpadded_eq _ fun rest hr => ?_
    match b, h, hb, hr with
    | b0 :: b1 :: b2 :: b3 :: tl, _, hb, hr =>
      simp only [List.cons_append, List.cons.injEq] at hr
      obtain ⟨rfl, rfl, rfl, rfl, -⟩ := hr
      exact hb tl rfl
  | skip rest ih =>
    rw [unpadded_zeros] at h ⊢
    rw [← ih h]
    exact unpadded_zeros (rest ++ x)

/-- At most three of the zeros before another byte stay. -/
theorem unpadded_replicate (n : Nat) (c : UInt8) (rest : Bytes) (hc : c ≠ 0) :
    unpadded (List.replicate n 0 ++ c :: rest) = List.replicate (min n 3) 0 ++ c :: rest := by
  induction n with
  | zero => exact unpadded_eq _ fun tl h => hc (List.cons.inj h).1
  | succ n ih =>
    match n, ih with
    | 0, _ => exact unpadded_eq _ fun tl h => by simp [hc] at h
    | 1, _ => exact unpadded_eq _ fun tl h => by simp [List.replicate, hc] at h
    | 2, _ => exact unpadded_eq _ fun tl h => by simp [List.replicate, hc] at h
    | n + 3, ih =>
      rw [show min (n + 3) 3 = 3 by omega] at ih
      rw [show min (n + 3 + 1) 3 = 3 by omega, ← ih]
      exact unpadded_zeros (List.replicate n 0 ++ c :: rest)

/-- Of zeros alone three stay. -/
theorem unpadded_all_zero (n : Nat) : (unpadded (List.replicate n 0)).length < 4 := by
  induction n with
  | zero => simp [unpadded, WireBuffer.skip_zero_padding]
  | succ n ih =>
    match n, ih with
    | 0, _ => decide
    | 1, _ => decide
    | 2, _ => decide
    | n + 3, ih =>
      rw [show List.replicate (n + 3 + 1) (0 : UInt8) = 0 :: 0 :: 0 :: 0 :: List.replicate n 0 from rfl,
        unpadded_zeros]
      exact ih

/-! ## The loop -/

theorem receive_short (A : Aead) (ssl : Ssl) (r : SecureRecord) (b : WireBuffer) (h : b.length < 4) :
    receive_turn A ssl r b = .wait [] r b := by
  match b, h with
  | [], _ => rfl
  | [_], _ => rfl
  | [_, _], _ => rfl
  | [_, _, _], _ => rfl
  | _ :: _ :: _ :: _ :: _, h => simp at h; omega

/-- `drainInbound` -/
def drainInbound (A : Aead) (ssl : Ssl) : Parser UInt8 SecureRecord Received where
  turn := drainInbound_turn A ssl
  shrinks h := Nat.lt_of_lt_of_le (receive_shrinks h) (unpadded_length _)

theorem drainInbound_wait {A : Aead} {ssl : Ssl} {r r' : SecureRecord} {b rest : WireBuffer} {evs : List Received}
    (h : (drainInbound A ssl).turn r b = .wait evs r' rest) : evs = [] ∧ r' = r ∧ rest = unpadded b :=
  receive_wait h

theorem drainInbound_unpadded (A : Aead) (ssl : Ssl) (r : SecureRecord) (b x : WireBuffer) :
    (drainInbound A ssl).turn r (unpadded b ++ x) = (drainInbound A ssl).turn r (b ++ x) := by
  simp only [drainInbound, drainInbound_turn, unpadded_append]

theorem drainInbound_stable (A : Aead) (ssl : Ssl) : (drainInbound A ssl).Stable Received.message? := by
  intro r b x
  by_cases hb : (unpadded b).length < 4
  · have ht : (drainInbound A ssl).turn r b = .wait [] r (unpadded b) := receive_short A ssl r _ hb
    rw [ht]
    exact ⟨rfl, rfl, drainInbound_unpadded A ssl r b x⟩
  · have ht : (drainInbound A ssl).turn r b = receive_turn A ssl r (unpadded b) := rfl
    have hx : (drainInbound A ssl).turn r (b ++ x) = receive_turn A ssl r (unpadded b ++ x) := by
      rw [← unpadded_append_of_four b x (by omega)]; rfl
    have hs := receiver_stable A ssl r (unpadded b) x
    rw [ht, hx]
    cases hr : receive_turn A ssl r (unpadded b) with
    | more evs r' rest => simpa only [receiver, hr] using hs
    | wait evs r' rest =>
      obtain ⟨rfl, rfl, rfl⟩ := receive_wait hr
      exact ⟨rfl, rfl, by rw [drainInbound_unpadded, hx]⟩
    | stop evs => simpa only [receiver, hr] using hs

/-! ## Padded streams -/

/-- `padding` zero bytes and the wire record of `message` after them. -/
structure Segment where
  padding : Nat
  message : WireMessage

/-- The bytes of the segments, sealed in order, and a `tail` at the end. -/
def padded_stream (A : Aead) (tail : Bytes) : SecureRecord → List Segment → Bytes
  | _, [] => tail
  | r, s :: segs => (List.replicate s.padding 0 ++ framed A r s.message) ++ padded_stream A tail r.next_nonce.2 segs

/-- The wire length of the record, payload and 18, fits one byte where padding
is directly in front of it. -/
def Segment.Aligned (s : Segment) : Prop := s.padding = 0 ∨ s.message.payload.length ≤ 237

instance (s : Segment) : Decidable s.Aligned := inferInstanceAs (Decidable (_ ∨ _))

/-- What the host is to make of a padded stream: the sealed messages in order,
and the session goes on. -/
def Transparent (res : List Received × Option (SecureRecord × WireBuffer)) (segs : List Segment) : Prop :=
  res.1 = segs.map (fun s => .message s.message) ∧ res.2.isSome

/-- A length of at most `2 ^ 24` starts with a zero byte; the others by size. -/
theorem length_bytes (b0 b1 b2 b3 : UInt8) (H : Nat) (h : (get_be32 b0 b1 b2 b3).toNat = H) (hH : H < 2 ^ 24) :
    b0 = 0 ∧ H = b1.toNat * 2 ^ 16 + b2.toNat * 2 ^ 8 + b3.toNat := by
  rw [get_be32_toNat] at h
  have h0 : b0.toNat = 0 := by omega
  exact ⟨UInt8.toNat_inj.1 h0, by omega⟩

theorem unpadded_framed (A : Aead) (r : SecureRecord) (s : Segment) (hf : s.message.Fits) (ha : s.Aligned) (x : Bytes) :
    unpadded (List.replicate s.padding 0 ++ framed A r s.message ++ x) = framed A r s.message ++ x := by
  obtain ⟨b0, b1, b2, b3, hw, hl⟩ := framed_cons A r s.message hf
  have hfit := hf
  simp only [WireMessage.Fits, kMaxPayload] at hfit
  obtain ⟨rfl, hH⟩ := length_bytes b0 b1 b2 b3 _ hl (by omega)
  rw [hw]
  rcases ha with hp | hp
  · -- nothing in front of it: not all four bytes of the length are zero
    rw [hp]
    refine unpadded_eq _ fun rest hr => ?_
    simp only [List.replicate_zero, List.nil_append, List.cons_append, List.cons.injEq] at hr
    obtain ⟨-, rfl, rfl, rfl, -⟩ := hr
    simp at hH
  · -- three leading zeros: the window stops at them
    have h1 : b1 = 0 := UInt8.toNat_inj.1 (by simp; omega)
    have h2 : b2 = 0 := UInt8.toNat_inj.1 (by simp; omega)
    subst h1 h2
    have h3 : b3 ≠ 0 := by
      rintro rfl
      simp at hH
    have := unpadded_replicate (s.padding + 3) b3 (A.encrypt r.key_ r.next_nonce.1 s.message.plaintext ++ x) h3
    rw [show min (s.padding + 3) 3 = 3 by omega, ← List.replicate_append_replicate (n := s.padding) (m := 3)] at this
    simpa [List.replicate] using this

theorem drainInbound_segment (A : Aead) (r : SecureRecord) (s : Segment)
    (hA : A.decrypt r.key_ r.next_nonce.1 (A.encrypt r.key_ r.next_nonce.1 s.message.plaintext) =
      some s.message.plaintext)
    (hf : s.message.Fits) (ha : s.Aligned) (x : Bytes) :
    (drainInbound A Ssl.works).turn r (List.replicate s.padding 0 ++ framed A r s.message ++ x) =
      .more [.message s.message] r.next_nonce.2 x := by
  simp only [drainInbound, drainInbound_turn, unpadded_framed A r s hf ha x, receive_framed A r s.message hA hf x]

/-- The loop waits at each part of `tail`. -/
def Waits (A : Aead) (r : SecureRecord) (tail : Bytes) : Prop :=
  ∀ p, p <+: tail → (drainInbound A Ssl.works).turn r p = .wait [] r (unpadded p)

theorem waits_zeros (A : Aead) (r : SecureRecord) (n : Nat) : Waits A r (List.replicate n 0) := by
  intro p hp
  refine receive_short A _ r _ ?_
  rw [(List.prefix_replicate_iff.1 hp).2]
  exact unpadded_all_zero p.length

theorem drainInbound_frames (A : Aead) (hA : A.Opens) (tail : Bytes) (r : SecureRecord) (segs : List Segment)
    (hf : ∀ s ∈ segs, s.message.Fits) (ha : ∀ s ∈ segs, s.Aligned) (ht : Waits A (r.skip segs.length) tail) :
    (drainInbound A Ssl.works).Frames unpadded 0 r (padded_stream A tail r segs)
      (segs.map fun s => .message s.message) (r.skip segs.length) tail := by
  induction segs generalizing r with
  | nil =>
    rw [List.length_nil, SecureRecord.skip_zero] at ht ⊢
    exact .tail fun p hp _ => ht p hp
  | cons s segs ih =>
    have hfr := (drainInbound_stable A Ssl.works).frame unpadded (fun hw => (drainInbound_wait hw).2.2)
      (drainInbound_segment A r s (hA _ _ _) (hf s (by simp)) (ha s (by simp)))
    rw [List.length_cons, SecureRecord.skip_succ] at ht ⊢
    exact .cons hfr (ih r.next_nonce.2 (fun t ht => hf t (by simp [ht])) (fun t ht => ha t (by simp [ht])) ht)

/-- The loop waits inside a record. -/
theorem waits_part (A : Aead) (hA : A.Opens) (r : SecureRecord) (m : WireMessage) (hf : m.Fits) (part : Bytes)
    (hp : part <+: framed A r m) (hne : part ≠ framed A r m) : Waits A r part := by
  intro p hpp
  have hfr := (drainInbound_stable A Ssl.works).frame unpadded (fun hw => (drainInbound_wait hw).2.2)
    (drainInbound_segment A r ⟨0, m⟩ (hA _ _ _) hf (.inl rfl))
  refine hfr.part p (hpp.trans hp) ?_ (Nat.zero_le _)
  rintro rfl
  exact hne (hp.eq_of_length_le hpp.length_le)

theorem padded_stream_none (A : Aead) (tail : Bytes) (r : SecureRecord) (ms : List WireMessage) :
    padded_stream A tail r (ms.map (Segment.mk 0)) = (framed_all A r ms).flatten ++ tail := by
  induction ms generalizing r with
  | nil => rfl
  | cons m ms ih => simp [padded_stream, framed_all, ih]

/-- Without padding the host receives what was sealed, and waits at the end. -/
theorem drainInbound_records (A : Aead) (hA : A.Opens) (r : SecureRecord) (ms : List WireMessage)
    (hf : ∀ m ∈ ms, m.Fits) (tail : Bytes) (ht : Waits A (r.skip ms.length) tail) (chunks : List Bytes)
    (hc : chunks.flatten = (framed_all A r ms).flatten ++ tail) :
    (drainInbound A Ssl.works).feed (some (r, [])) chunks =
      (ms.map .message, some (r.skip ms.length, unpadded tail)) := by
  have hfr := drainInbound_frames A hA tail r (ms.map (Segment.mk 0)) (by simpa using hf)
    (by simp [Segment.Aligned]) (by simpa using ht)
  rw [padded_stream_none] at hfr
  have := hfr.feed (fun r b x => drainInbound_unpadded A Ssl.works r b x) [] chunks rfl hc (by simp)
  rw [List.map_map, List.length_map] at this
  exact this

/-! ## Misaligned records -/

/-- A message taken from the buffer is as long as the four bytes at its front say. -/
theorem receive_message_length {A : Aead} {ssl : Ssl} {r r' : SecureRecord} {b0 b1 b2 b3 : UInt8} {tl rest : Bytes}
    {m : WireMessage} (h : receive_turn A ssl r (b0 :: b1 :: b2 :: b3 :: tl) = .more [.message m] r' rest) :
    m.payload.length + 18 = (get_be32 b0 b1 b2 b3).toNat := by
  obtain ⟨wire, m', hn, ho, he⟩ := receive_more h
  cases he
  obtain ⟨hd, -⟩ := open_wire_record_ok ho
  have hlen := A.decrypt_length _ _ _ _ hd
  rw [plaintext_length, List.length_drop] at hlen
  simp only [WireBuffer.next] at hn
  split at hn
  · cases hn
  split at hn
  · cases hn
  · rename_i hshort
    simp only [Prod.mk.injEq, Except.ok.injEq, Option.some.injEq] at hn
    have hw := congrArg List.length hn.1
    rw [List.length_take] at hw
    simp only [kTagLength] at hlen
    omega

/-- Behind padding, the window shows a smaller length than that of a longer record. -/
theorem misaligned_window (A : Aead) (r : SecureRecord) (s : Segment) (hf : s.message.Fits) (ha : ¬ s.Aligned)
    (x : Bytes) : ∃ c0 c1 c2 c3 tl,
      unpadded (List.replicate s.padding 0 ++ framed A r s.message ++ x) = c0 :: c1 :: c2 :: c3 :: tl ∧
      (get_be32 c0 c1 c2 c3).toNat < s.message.payload.length + 18 ∧
      (get_be32 c0 c1 c2 c3).toNat ≤ tl.length := by
  obtain ⟨b0, b1, b2, b3, hw, hl⟩ := framed_cons A r s.message hf
  simp only [WireMessage.Fits, kMaxPayload] at hf
  simp only [Segment.Aligned, not_or] at ha
  obtain ⟨hp, hlong⟩ := ha
  obtain ⟨rfl, hH⟩ := length_bytes b0 b1 b2 b3 _ hl (by omega)
  have hE := encrypted_length A r s.message
  have hb1 := b1.toNat_lt
  have hb2 := b2.toNat_lt
  have hb3 := b3.toNat_lt
  obtain ⟨k, hk⟩ : ∃ k, s.padding = k + 1 := ⟨s.padding - 1, by omega⟩
  rw [hw, hk]
  by_cases h1 : b1 = 0
  · -- two leading zeros in the length: the window ends at its third byte
    subst h1
    have h2 : b2 ≠ 0 := by
      rintro rfl
      simp at hH hb3
      omega
    have := unpadded_replicate (k + 3) b2 (b3 :: (A.encrypt r.key_ r.next_nonce.1 s.message.plaintext ++ x)) h2
    rw [show min (k + 3) 3 = 3 by omega] at this
    refine ⟨0, 0, 0, b2, b3 :: (A.encrypt r.key_ r.next_nonce.1 s.message.plaintext ++ x), ?_, ?_, ?_⟩
    · rw [← List.replicate_append_replicate (n := k + 1) (m := 2)] at this
      simpa [List.replicate] using this
    · rw [get_be32_toNat]; simp at hH ⊢; omega
    · rw [get_be32_toNat]; simp [hE] at hH ⊢; omega
  · have hb1' : b1.toNat ≠ 0 := fun h => h1 (UInt8.toNat_inj.1 h)
    have := unpadded_replicate (k + 2) b1 (b2 :: b3 :: (A.encrypt r.key_ r.next_nonce.1 s.message.plaintext ++ x)) h1
    cases k with
    | zero =>
      -- one padding byte: the window ends at the third byte, one place late
      refine ⟨0, 0, b1, b2, b3 :: (A.encrypt r.key_ r.next_nonce.1 s.message.plaintext ++ x), this, ?_, ?_⟩
      · rw [get_be32_toNat]; simp; omega
      · rw [get_be32_toNat]; simp [hE]; omega
    | succ k =>
      rw [show min (k + 1 + 2) 3 = 3 by omega] at this
      refine ⟨0, 0, 0, b1, b2 :: b3 :: (A.encrypt r.key_ r.next_nonce.1 s.message.plaintext ++ x), ?_, ?_, ?_⟩
      · rw [← List.replicate_append_replicate (n := k + 1 + 1) (m := 1)] at this
        simpa [List.replicate] using this
      · rw [get_be32_toNat]; simp; omega
      · rw [get_be32_toNat]; simp [hE]; omega

/-- A record of at least the length the buffer's front announces is not waited for. -/
theorem receive_enough {A : Aead} {ssl : Ssl} {r r' : SecureRecord} {b0 b1 b2 b3 : UInt8} {tl rest : Bytes}
    {evs : List Received} (hl : (get_be32 b0 b1 b2 b3).toNat ≤ tl.length) :
    receive_turn A ssl r (b0 :: b1 :: b2 :: b3 :: tl) ≠ .wait evs r' rest := by
  intro h
  simp only [receive_turn, WireBuffer.next] at h
  split at h
  · cases h
  · rename_i hn
    split at hn
    · cases hn
    · rw [if_neg (by simp only [List.length_cons]; omega)] at hn
      cases hn
  · split at h <;> cases h

/-- A misaligned record ends the session, or something of another size comes out in its place. -/
theorem drainInbound_misaligned (A : Aead) (r : SecureRecord) (s : Segment) (hf : s.message.Fits) (ha : ¬ s.Aligned)
    (x : Bytes) :
    match (drainInbound A Ssl.works).turn r (List.replicate s.padding 0 ++ framed A r s.message ++ x) with
    | .more evs _ _ => ∃ m, evs = [.message m] ∧ m ≠ s.message
    | .wait _ _ _ => False
    | .stop _ => True := by
  obtain ⟨c0, c1, c2, c3, tl, hu, hlt, hle⟩ := misaligned_window A r s hf ha x
  simp only [drainInbound, drainInbound_turn, hu]
  cases ht : receive_turn A Ssl.works r (c0 :: c1 :: c2 :: c3 :: tl) with
  | more evs r' rest =>
    obtain ⟨wire, m, -, -, rfl⟩ := receive_more ht
    have hm := receive_message_length ht
    refine ⟨m, rfl, ?_⟩
    rintro rfl
    omega
  | wait evs r' rest => exact receive_enough hle ht
  | stop evs => trivial

/-- One misaligned record anywhere is enough to lose messages or the session. -/
theorem padding_breaks (A : Aead) (hA : A.Opens) (tail : Bytes) (r : SecureRecord) (segs : List Segment)
    (hf : ∀ s ∈ segs, s.message.Fits) (ha : ¬ ∀ s ∈ segs, s.Aligned) :
    messages ((drainInbound A Ssl.works).drain r (padded_stream A tail r segs)).1 ≠ segs.map (·.message) ∨
      ((drainInbound A Ssl.works).drain r (padded_stream A tail r segs)).2 = none := by
  induction segs generalizing r with
  | nil => simp at ha
  | cons s segs ih =>
    have hfs := hf s (by simp)
    rw [padded_stream]
    by_cases hs : s.Aligned
    · -- the first record comes out; the trouble is behind it
      rw [(drainInbound A Ssl.works).drain_more (drainInbound_segment A r s (hA _ _ _) hfs hs _)]
      have := ih r.next_nonce.2 (fun t ht => hf t (by simp [ht])) fun h => ha (by simpa [hs] using h)
      refine this.imp (fun hne h => hne ?_) id
      rw [messages_append] at h
      exact (List.cons.inj h).2
    · have hm := drainInbound_misaligned A r s hfs hs (padded_stream A tail r.next_nonce.2 segs)
      cases ht : (drainInbound A Ssl.works).turn r
          (List.replicate s.padding 0 ++ framed A r s.message ++ padded_stream A tail r.next_nonce.2 segs) with
      | more evs r' rest =>
        rw [ht] at hm
        obtain ⟨m, rfl, hne⟩ := hm
        rw [Parser.drain_more _ ht]
        refine .inl fun h => hne ?_
        rw [messages_append] at h
        exact (List.cons.inj h).1
      | wait evs r' rest => rw [ht] at hm; exact hm.elim
      | stop evs => rw [Parser.drain_stop _ ht]; exact .inr rfl

/-! ## When padding is transparent -/

/-- The messages of a padded stream come out, for any cutting into chunks,
exactly where every segment is aligned. -/
theorem transparent_iff (A : Aead) (hA : A.Opens) (r : SecureRecord) (segs : List Segment)
    (hf : ∀ s ∈ segs, s.message.Fits) (trailing : Nat) (chunks : List Bytes)
    (hc : chunks.flatten = padded_stream A (List.replicate trailing 0) r segs) :
    Transparent ((drainInbound A Ssl.works).feed (some (r, [])) chunks) segs ↔ ∀ s ∈ segs, s.Aligned := by
  constructor
  · rintro ⟨hev, hgo⟩
    refine Decidable.byContradiction fun ha => ?_
    cases chunks with
    | nil =>
      cases segs with
      | nil => simp at ha
      | cons s segs =>
        have := congrArg List.length hc
        simp only [padded_stream, List.flatten_nil, List.length_nil, List.length_append, framed_length] at this
        omega
    | cons c cs =>
      have hd := (drainInbound_stable A Ssl.works).feed_eq_drain r [] c cs
      rw [List.nil_append, hc] at hd
      simp only [Parser.view, Prod.mk.injEq] at hd
      rcases padding_breaks A hA (List.replicate trailing 0) r segs hf ha with hne | hnone
      · refine hne (hd.1.symm.trans ?_)
        rw [hev, ← messages_map (segs.map (·.message)), List.map_map]
        rfl
      · rw [hd.2, hnone] at hgo
        cases hgo
  · intro ha
    have := (drainInbound_frames A hA _ r segs hf ha (waits_zeros A _ trailing)).feed
      (fun r b x => drainInbound_unpadded A Ssl.works r b x) [] chunks rfl hc (by simp)
    rw [show ([] : WireBuffer) = unpadded [] from rfl, this]
    exact ⟨rfl, rfl⟩

/-- Zero padding is transparent to the host, for any cutting of the stream into
chunks, exactly where no record longer than a one-byte length directly follows
a padding byte. -/
theorem zero_padding_transparent_iff (A : Aead) (hA : A.Opens) (key : Key) (iv : Iv) (segs : List Segment)
    (hf : ∀ s ∈ segs, s.message.Fits) (trailing : Nat) (chunks : List Bytes)
    (hc : chunks.flatten = padded_stream A (List.replicate trailing 0) (.new key iv) segs) :
    Transparent ((drainInbound A Ssl.works).feed (some (.new key iv, [])) chunks) segs ↔ ∀ s ∈ segs, s.Aligned :=
  transparent_iff A hA (.new key iv) segs hf trailing chunks hc

/-- Five padding bytes in front of a short record, none before the next, and two behind it. -/
theorem zero_padding_transparent_short :
    (∀ s ∈ [Segment.mk 5 ⟨.Control, 0, [1, 2, 3]⟩, ⟨0, ⟨.Video, 1, []⟩⟩], s.Aligned) ∧
      Transparent ((drainInbound (markedAead fun _ _ _ => true) Ssl.works).feed
          (some (.new (.replicate 32 0) (.replicate 12 0), []))
          [padded_stream (markedAead fun _ _ _ => true) [0, 0] (.new (.replicate 32 0) (.replicate 12 0))
            [⟨5, ⟨.Control, 0, [1, 2, 3]⟩⟩, ⟨0, ⟨.Video, 1, []⟩⟩]])
        [⟨5, ⟨.Control, 0, [1, 2, 3]⟩⟩, ⟨0, ⟨.Video, 1, []⟩⟩] := by
  have haligned : ∀ s ∈ [Segment.mk 5 ⟨.Control, 0, [1, 2, 3]⟩, ⟨0, ⟨.Video, 1, []⟩⟩], s.Aligned := by decide
  exact ⟨haligned,
    (zero_padding_transparent_iff _ markedAead_opens _ _ _ (by decide) 2 _ (by simp)).2 haligned⟩

/-- One padding byte before a control record of 238 bytes. -/
def padded_long : Segment := ⟨1, ⟨.Control, 0, List.replicate 238 120⟩⟩

theorem padded_long_length : padded_long.message.payload.length = 238 := List.length_replicate

theorem padded_long_fits : ∀ s ∈ [padded_long], s.message.Fits := by
  intro s hs
  rw [List.mem_singleton.1 hs, WireMessage.Fits, padded_long_length]
  decide

/-- The host reads the length of `padded_long` one byte early and does not get its message. -/
theorem padding_before_long_record :
    ¬ ∀ (A : Aead), A.Opens → ∀ (key : Key) (iv : Iv) (segs : List Segment) (trailing : Nat) (chunks : List Bytes),
      (∀ s ∈ segs, s.message.Fits) →
      chunks.flatten = padded_stream A (List.replicate trailing 0) (.new key iv) segs →
      Transparent ((drainInbound A Ssl.works).feed (some (.new key iv, [])) chunks) segs := by
  intro h
  have hna : ¬ ∀ s ∈ [padded_long], s.Aligned := by
    intro ha
    have := ha padded_long (by simp)
    rw [Segment.Aligned, padded_long_length] at this
    simp [padded_long] at this
  have hb := padding_breaks (markedAead fun _ _ _ => true) markedAead_opens (List.replicate 0 0)
    (.new (.replicate 32 0) (.replicate 12 0))
    [padded_long] padded_long_fits hna
  obtain ⟨hev, hgo⟩ := h (markedAead fun _ _ _ => true) markedAead_opens (.replicate 32 0) (.replicate 12 0)
    [padded_long] 0 [_] padded_long_fits (List.append_nil _)
  simp only [Parser.feed, List.nil_append, List.append_nil] at hev hgo
  rcases hb with hne | hnone
  · exact hne (by rw [hev]; rfl)
  · rw [hnone] at hgo
    cases hgo

end CameraStreamer.Secure
