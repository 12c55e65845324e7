import CameraStreamer.SecureRecord
/-!
# Framing records on the bulk stream

`make_wire_record` seals a message and prefixes the four-byte length,
`WireBuffer` finds the records in the byte stream again, and `open_wire_record`
opens one. `framed` is the wire form of a message; the lemmas say that each of
the three functions takes it to the next.
-/

namespace CameraStreamer.Secure

open BigEndian

inductive Channel where
  | Video
  | Control
  | Update
  | Meta
  deriving DecidableEq, Repr

/-- `static_cast<uint8_t>(channel)` -/
def Channel.toByte : Channel → UInt8
  | .Video => 1
  | .Control => 2
  | .Update => 3
  | .Meta => 4

/-- The channel with this number, if it is one of the four. -/
def Channel.ofByte? (b : UInt8) : Option Channel :=
  if b = 1 then some .Video else if b = 2 then some .Control
  else if b = 3 then some .Update else if b = 4 then some .Meta else none

/-- One decoded record. `stream` is the camera index for `Video`, 0 elsewhere. -/
structure WireMessage where
  channel : Channel
  stream : UInt8
  payload : Bytes
  deriving DecidableEq, Repr

def kMaxPayload : Nat := 64 * 1024
/-- Channel byte and AEAD tag on top of the payload. -/
def kMaxWireRecord : Nat := kMaxPayload + 1 + 16

/-! ## `WireBuffer` -/

/-- The one field of the class, `buffer_`. -/
abbrev WireBuffer := List UInt8

namespace WireBuffer

def append (b : WireBuffer) (data : Bytes) : WireBuffer := b ++ data

def starts_with (b : WireBuffer) (magic : Bytes) : Bool :=
  if b.length < magic.length then false else b.take magic.length == magic

/-- Drops bytes while the first four are zero; returns how many went. -/
def skip_zero_padding : WireBuffer → Nat × WireBuffer
  | b0 :: b1 :: b2 :: b3 :: rest =>
    if b0 = 0 ∧ b1 = 0 ∧ b2 = 0 ∧ b3 = 0 then
      ((skip_zero_padding (b1 :: b2 :: b3 :: rest)).1 + 1, (skip_zero_padding (b1 :: b2 :: b3 :: rest)).2)
    else (0, b0 :: b1 :: b2 :: b3 :: rest)
  | b => (0, b)

def consume (b : WireBuffer) (count : Nat) : WireBuffer := b.drop (min count b.length)

/-- `" %02x"` -/
def hex_byte (b : UInt8) : String :=
  let digit (n : Nat) := ("0123456789abcdef".toList.drop n).take 1
  " " ++ String.ofList (digit (b.toNat / 16) ++ digit (b.toNat % 16))

/-- The diagnostic of a bad length, with the first eight bytes. It is at most 76
characters, so the 128-character buffer it is printed to never cuts it. -/
def length_error (length : UInt32) (b : WireBuffer) : String :=
  "invalid secure USB record length " ++ toString length.toNat ++ " (bytes:" ++
    String.join ((b.take 8).map hex_byte) ++ ")"

/-- The next complete record, taken off the buffer; `none` when more bytes are needed. -/
def next (b : WireBuffer) : Except String (Option Bytes) × WireBuffer :=
  match b with
  | b0 :: b1 :: b2 :: b3 :: _ =>
    let length := get_be32 b0 b1 b2 b3
    if kMaxWireRecord < length.toNat ∨ length.toNat < 16 + 1 then (.error (length_error length b), b)
    else if b.length < 4 + length.toNat then (.ok none, b)
    else (.ok (some (b.take (4 + length.toNat))), b.drop (4 + length.toNat))
  | _ => (.ok none, b)

end WireBuffer

/-! ## Sealing and opening messages -/

def make_wire_record (A : Aead) (evp : Evp) (channel : Channel) (stream : UInt8) (payload : Bytes)
    (record : SecureRecord) : Except String Bytes × SecureRecord :=
  if kMaxPayload < payload.length + 2 then (.error "secure USB payload too large", record)
  else
    match record.seal A evp (channel.toByte :: stream :: payload) with
    | (.error e, record') => (.error e, record')
    | (.ok encrypted, record') =>
      if kMaxWireRecord < encrypted.length then (.error "secure USB encrypted record too large", record')
      else (.ok (put_be32 (UInt32.ofNat encrypted.length) ++ encrypted), record')

def open_wire_record (A : Aead) (evp : Evp) (wire : Bytes) (record : SecureRecord) :
    Except String WireMessage × SecureRecord :=
  match wire with
  | b0 :: b1 :: b2 :: b3 :: rest =>
    if wire.length < 4 + 16 + 1 then (.error "truncated secure USB record", record)
    else
      let length := get_be32 b0 b1 b2 b3
      if kMaxWireRecord < length.toNat ∨ wire.length ≠ 4 + length.toNat then
        (.error "invalid secure USB record length", record)
      else
        match record.open A evp rest with
        | (.error e, record') => (.error e, record')
        | (.ok (c :: stream :: payload), record') =>
          match Channel.ofByte? c with
          | none => (.error "unknown secure USB channel", record')
          | some channel => (.ok ⟨channel, stream, payload⟩, record')
        | (.ok _, record') => (.error "secure USB record has no header", record')
  | _ => (.error "truncated secure USB record", record)

/-! ## The wire form of a message -/

@[simp] theorem Channel.ofByte_toByte (c : Channel) : Channel.ofByte? c.toByte = some c := by
  cases c <;> rfl

/-- The bytes that are sealed for `m`. -/
def WireMessage.plaintext (m : WireMessage) : Bytes := m.channel.toByte :: m.stream :: m.payload

/-- A message `make_wire_record` does not refuse. -/
def WireMessage.Fits (m : WireMessage) : Prop := m.payload.length + 2 ≤ kMaxPayload

instance (m : WireMessage) : Decidable m.Fits := inferInstanceAs (Decidable (_ ≤ _))

/-- The wire form of `m` under the next nonce of `r`. -/
def framed (A : Aead) (r : SecureRecord) (m : WireMessage) : Bytes :=
  put_be32 (UInt32.ofNat (m.payload.length + 18)) ++ A.encrypt r.key_ r.next_nonce.1 m.plaintext

theorem plaintext_length (m : WireMessage) : m.plaintext.length = m.payload.length + 2 := rfl

theorem plaintext_inj {m m' : WireMessage} (h : m.plaintext = m'.plaintext) : m = m' := by
  obtain ⟨c, s, p⟩ := m
  obtain ⟨c', s', p'⟩ := m'
  simp only [WireMessage.plaintext, List.cons.injEq] at h
  obtain ⟨hc, rfl, rfl⟩ := h
  have := congrArg Channel.ofByte? hc
  simp only [Channel.ofByte_toByte, Option.some.injEq] at this
  rw [this]

theorem encrypted_length (A : Aead) (r : SecureRecord) (m : WireMessage) :
    (A.encrypt r.key_ r.next_nonce.1 m.plaintext).length = m.payload.length + 18 := by
  rw [A.encrypt_length, plaintext_length]; rfl

theorem framed_length (A : Aead) (r : SecureRecord) (m : WireMessage) :
    (framed A r m).length = 4 + (m.payload.length + 18) := by
  simp only [framed, List.length_append, put_be32_length, encrypted_length]

/-- `make_wire_record` refuses exactly the messages that do not fit, before it
touches the record, and otherwise gives the wire form. -/
theorem make_wire_record_eq (A : Aead) (m : WireMessage) (r : SecureRecord) :
    make_wire_record A .ok m.channel m.stream m.payload r =
      if m.Fits then (.ok (framed A r m), r.next_nonce.2) else (.error "secure USB payload too large", r) := by
  unfold make_wire_record
  by_cases hf : m.Fits
  · have hf' := hf
    simp only [WireMessage.Fits] at hf'
    rw [if_pos hf, if_neg (by omega)]
    have hs := r.seal_ok A m.plaintext (by rw [plaintext_length]; exact hf')
    have hl : ¬ kMaxWireRecord < (A.encrypt r.key_ r.next_nonce.1 m.plaintext).length := by
      rw [encrypted_length]; simp only [kMaxWireRecord, kMaxPayload] at hf' ⊢; omega
    simp only [WireMessage.plaintext] at hs hl
    simp only [hs, hl, if_false]
    rw [framed, WireMessage.plaintext]
    have he := encrypted_length A r m
    simp only [WireMessage.plaintext] at he
    rw [he]
  · have hf' := hf
    simp only [WireMessage.Fits] at hf'
    rw [if_neg hf, if_pos (by omega)]

theorem make_wire_record_fits (A : Aead) (m : WireMessage) (r : SecureRecord) (h : m.Fits) :
    make_wire_record A .ok m.channel m.stream m.payload r = (.ok (framed A r m), r.next_nonce.2) := by
  rw [make_wire_record_eq, if_pos h]

/-- The length in front of a wire record, in one piece. -/
theorem framed_cons (A : Aead) (r : SecureRecord) (m : WireMessage) (h : m.Fits) :
    ∃ b0 b1 b2 b3, framed A r m = b0 :: b1 :: b2 :: b3 :: A.encrypt r.key_ r.next_nonce.1 m.plaintext ∧
      (get_be32 b0 b1 b2 b3).toNat = m.payload.length + 18 := by
  refine ⟨_, _, _, _, rfl, ?_⟩
  rw [get_be32_put]
  simp only [WireMessage.Fits, kMaxPayload] at h
  exact UInt32.toNat_ofNat_of_lt' (by simp only [UInt32.size]; omega)

/-- Without a whole length, more bytes are needed. -/
theorem next_short {b : WireBuffer} (h : b.length < 4) : WireBuffer.next b = (.ok none, b) := by
  rcases b with _ | ⟨b0, _ | ⟨b1, _ | ⟨b2, _ | ⟨b3, rest⟩⟩⟩⟩
  · rfl
  · rfl
  · rfl
  · rfl
  · simp only [List.length_cons] at h
    omega

/-- A wire record at the front of the buffer comes off it whole. -/
theorem next_framed (A : Aead) (r : SecureRecord) (m : WireMessage) (h : m.Fits) (x : Bytes) :
    WireBuffer.next (framed A r m ++ x) = (.ok (some (framed A r m)), x) := by
  obtain ⟨b0, b1, b2, b3, hf, hl⟩ := framed_cons A r m h
  have hlen := framed_length A r m
  have hle : m.payload.length + 18 ≤ kMaxWireRecord := by
    simp only [WireMessage.Fits, kMaxWireRecord, kMaxPayload] at h ⊢; omega
  rw [hf] at hlen ⊢
  simp only [List.cons_append, WireBuffer.next, hl]
  rw [if_neg (by omega), if_neg (by simp only [List.length_cons, List.length_append] at hlen ⊢; omega)]
  rw [← List.cons_append, ← List.cons_append, ← List.cons_append, ← List.cons_append, ← hlen,
    List.take_left, List.drop_left]

/-- Opening a wire record with the nonce it was sealed under gives the message. -/
theorem open_framed (A : Aead) (r : SecureRecord) (m : WireMessage)
    (hA : A.decrypt r.key_ r.next_nonce.1 (A.encrypt r.key_ r.next_nonce.1 m.plaintext) = some m.plaintext)
    (h : m.Fits) :
    open_wire_record A .ok (framed A r m) r = (.ok m, r.next_nonce.2) := by
  obtain ⟨b0, b1, b2, b3, hf, hl⟩ := framed_cons A r m h
  have hlen := framed_length A r m
  have hle : m.payload.length + 18 ≤ kMaxWireRecord := by
    simp only [WireMessage.Fits, kMaxWireRecord, kMaxPayload] at h ⊢; omega
  have ho := SecureRecord.open_encrypt A r m.plaintext hA h
  rw [hf] at hlen ⊢
  simp only [open_wire_record]
  rw [if_neg (by omega), if_neg (by omega), ho]
  simp only [WireMessage.plaintext, Channel.ofByte_toByte]

/-- A wire record reaches the cipher, and so uses up a nonce of any record that opens it. -/
theorem open_framed_state (A : Aead) (r r' : SecureRecord) (m : WireMessage) (h : m.Fits) :
    (open_wire_record A .ok (framed A r m) r').2 = r'.next_nonce.2 := by
  obtain ⟨b0, b1, b2, b3, hf, hl⟩ := framed_cons A r m h
  have hlen := framed_length A r m
  have he := encrypted_length A r m
  have hle : m.payload.length + 18 ≤ kMaxWireRecord := by
    simp only [WireMessage.Fits, kMaxWireRecord, kMaxPayload] at h ⊢; omega
  have ho := SecureRecord.open_state A r' (A.encrypt r.key_ r.next_nonce.1 m.plaintext)
    (by rw [he]; simp only [kTagLength]; omega) (by rw [he]; simp only [kTagLength]; exact h)
  rw [hf] at hlen ⊢
  simp only [open_wire_record]
  rw [if_neg (by omega), if_neg (by omega)]
  cases hopen : r'.open A .ok (A.encrypt r.key_ r.next_nonce.1 m.plaintext) with
  | mk res r'' =>
    rw [hopen] at ho
    rcases res with e | _ | ⟨c, _ | ⟨s, p⟩⟩
    · exact ho
    · exact ho
    · exact ho
    · dsimp only
      cases Channel.ofByte? c with
      | none => exact ho
      | some ch => exact ho

/-- What a successful `open_wire_record` returns was decrypted under the next
nonce, from the record without its length. -/
theorem open_wire_record_ok {A : Aead} {evp : Evp} {wire : Bytes} {r r' : SecureRecord} {m : WireMessage}
    (h : open_wire_record A evp wire r = (.ok m, r')) :
    A.decrypt r.key_ r.next_nonce.1 (wire.drop 4) = some m.plaintext ∧ r' = r.next_nonce.2 := by
  unfold open_wire_record at h
  split at h
  case h_2 => cases h
  case h_1 b0 b1 b2 b3 rest =>
    dsimp only at h
    split at h
    · cases h
    split at h
    · cases h
    cases ho : r.open A evp rest with
    | mk res r'' =>
      rw [ho] at h
      match res, h with
      | .error _, h => cases h
      | .ok [], h => cases h
      | .ok [_], h => cases h
      | .ok (c :: s :: p), h =>
        obtain ⟨hd, rfl⟩ := SecureRecord.open_ok ho
        cases hc : Channel.ofByte? c with
        | none => simp [hc] at h
        | some ch =>
          simp only [hc, Prod.mk.injEq, Except.ok.injEq] at h
          obtain ⟨rfl, rfl⟩ := h
          refine ⟨?_, rfl⟩
          have : c = ch.toByte := by
            unfold Channel.ofByte? at hc
            split_ifs at hc <;> simp_all <;> subst hc <;> rfl
          simpa [WireMessage.plaintext, this] using hd

/-! ## More bytes in the buffer -/

/-- A record or an error found in the buffer is found with more bytes after it. -/
theorem next_append (b x : WireBuffer) :
    match WireBuffer.next b with
    | (.ok none, b') => b' = b
    | (.ok (some wire), rest) => WireBuffer.next (b ++ x) = (.ok (some wire), rest ++ x)
    | (.error _, _) => ∃ e, WireBuffer.next (b ++ x) = (.error e, b ++ x) := by
  match b with
  | [] => simp [WireBuffer.next]
  | [_] => simp [WireBuffer.next]
  | [_, _] => simp [WireBuffer.next]
  | [_, _, _] => simp [WireBuffer.next]
  | b0 :: b1 :: b2 :: b3 :: rest =>
    simp only [WireBuffer.next, List.cons_append]
    by_cases hl : kMaxWireRecord < (get_be32 b0 b1 b2 b3).toNat ∨ (get_be32 b0 b1 b2 b3).toNat < 16 + 1
    · simp only [hl, if_true]; exact ⟨_, rfl⟩
    · simp only [hl, if_false]
      by_cases hs : (b0 :: b1 :: b2 :: b3 :: rest).length < 4 + (get_be32 b0 b1 b2 b3).toNat
      · simp only [hs, if_true]
      · have hs' : ¬ (b0 :: b1 :: b2 :: b3 :: (rest ++ x)).length < 4 + (get_be32 b0 b1 b2 b3).toNat := by
          simp only [List.length_cons, List.length_append] at hs ⊢; omega
        simp only [hs, hs', if_false]
        have e : b0 :: b1 :: b2 :: b3 :: (rest ++ x) = (b0 :: b1 :: b2 :: b3 :: rest) ++ x := by simp
        rw [e, List.take_append_of_le_length (by omega), List.drop_append_of_le_length (by omega)]

/-- A record taken off the buffer was at its front, at least 21 bytes long. -/
theorem next_some {b rest : WireBuffer} {wire : Bytes} (h : WireBuffer.next b = (.ok (some wire), rest)) :
    b = wire ++ rest ∧ 4 + 17 ≤ wire.length ∧ wire.length ≤ 4 + kMaxWireRecord := by
  unfold WireBuffer.next at h
  split at h
  case h_2 => cases h
  case h_1 b0 b1 b2 b3 tl =>
    dsimp only at h
    split at h
    · cases h
    split at h
    · cases h
    · rename_i hl hs
      simp only [Prod.mk.injEq, Except.ok.injEq, Option.some.injEq] at h
      obtain ⟨rfl, rfl⟩ := h
      refine ⟨(List.take_append_drop _ _).symm, ?_, ?_⟩ <;> rw [List.length_take] <;> omega

end CameraStreamer.Secure
