import CameraStreamer.KeyAgreement
/-!
# The handshake codecs

Both hellos are parsed from bytes nobody has authenticated. We prove that each
decoder accepts exactly what its encoder writes, and read off the accepted set:
the magic, lengths within their limits, and no byte before, between or after the
fields.
-/

namespace CameraStreamer.Secure

/-! ## Fields of fixed width -/

theorem put_get_be16 (b0 b1 : UInt8) : put_be16 (get_be16 b0 b1) = [b0, b1] := by
  have h0 := b0.toNat_lt
  have h1 := b1.toNat_lt
  rw [put_be16, get_be16, BigEndian.shiftLeft_or _ _ 8 h1, Nat.shiftRight_eq_div_pow]
  congr 1
  · apply UInt8.toNat_inj.1
    rw [UInt8.toNat_ofNat']
    omega
  · congr 1
    apply UInt8.toNat_inj.1
    rw [UInt8.toNat_ofNat']
    omega

/-! ## The ClientHello -/

theorem decode_client_hello_ok {wire : Bytes} {hello : ClientHello} (h : decode_client_hello wire = .ok hello) :
    wire.length = kClientHelloSize ∧ wire.take 4 = kClientHelloMagic ∧
      hello.nonce.toList = (wire.drop 4).take 32 ∧ hello.public_key.toList = wire.drop 36 := by
  unfold decode_client_hello at h
  split at h
  · rename_i hw
    have hl : wire.length = 101 := hw.1
    rw [← Except.ok.inj h]
    refine ⟨hw.1, hw.2, ?_, ?_⟩
    · rw [field_toList (by omega)]
    · rw [field_toList (by omega), List.take_of_length_le (by simp; omega)]
  · cases h

theorem encode_decode_client_hello {wire : Bytes} {hello : ClientHello}
    (h : decode_client_hello wire = .ok hello) : encode_client_hello hello = wire := by
  obtain ⟨-, hmagic, hnonce, hkey⟩ := decode_client_hello_ok h
  rw [encode_client_hello, hnonce, hkey, ← hmagic, List.append_assoc, show 36 = 4 + 32 from rfl,
    ← List.drop_drop, List.take_append_drop, List.take_append_drop]

theorem decode_client_hello_accepts (wire : Bytes) :
    (∃ hello, decode_client_hello wire = .ok hello) ↔
      wire.length = kClientHelloSize ∧ wire.take 4 = kClientHelloMagic := by
  constructor
  · rintro ⟨hello, h⟩
    obtain ⟨hl, hmagic, -, -⟩ := decode_client_hello_ok h
    exact ⟨hl, hmagic⟩
  · intro hw
    unfold decode_client_hello
    rw [dif_pos hw]
    exact ⟨_, rfl⟩

/-! ## The ServerHello -/

/-- The fields `encode_server_hello` writes: neither the certificate nor the
signature is empty or over its limit. -/
structure ServerHello.InRange (hello : ServerHello) : Prop where
  certificate : 1 ≤ hello.certificate_der.length ∧ hello.certificate_der.length ≤ kMaxCertificateSize
  signature : 1 ≤ hello.signature_der.length ∧ hello.signature_der.length ≤ kMaxSignatureSize

/-- What a ServerHello looks like on the wire. -/
structure ServerHelloWire (wire : Bytes) : Prop where
  long : 105 ≤ wire.length
  magic : wire.take 4 = kServerMagic
  certificate : 1 ≤ get_be16 wire[101] wire[102] ∧ get_be16 wire[101] wire[102] ≤ kMaxCertificateSize
  signature : 1 ≤ get_be16 wire[103] wire[104] ∧ get_be16 wire[103] wire[104] ≤ kMaxSignatureSize
  exact_length : wire.length = 105 + get_be16 wire[101] wire[102] + get_be16 wire[103] wire[104]

/-- `response` of `SecureUsbBridge::start`, what one read of the ServerHello has room for. -/
def response_size : Nat := 20 * 1024

theorem encode_server_hello_in_range {hello : ServerHello} (h : hello.InRange) :
    ∃ wire, encode_server_hello hello = .ok wire := by
  have hcert : hello.certificate_der ≠ [] := List.length_pos_iff.1 h.certificate.1
  have hsig : hello.signature_der ≠ [] := List.length_pos_iff.1 h.signature.1
  unfold encode_server_hello
  rw [if_neg]
  · exact ⟨_, rfl⟩
  · have hc := h.certificate.2
    have hs := h.signature.2
    simp only [hcert, hsig, false_or, not_or, Nat.not_lt]
    exact ⟨hc, hs⟩

theorem encode_server_hello_encodes (hello : ServerHello) :
    (∃ wire, encode_server_hello hello = .ok wire) ↔ hello.InRange := by
  constructor
  · rintro ⟨wire, h⟩
    obtain ⟨hc, hs, -⟩ := encode_server_hello_ok h
    exact ⟨hc, hs⟩
  · exact encode_server_hello_in_range

theorem encode_server_hello_fails (hello : ServerHello) :
    (∃ e, encode_server_hello hello = .error e) ↔ ¬ hello.InRange := by
  rw [← encode_server_hello_encodes]
  cases encode_server_hello hello <;> simp

/-- The two limits leave room: no ServerHello is cut off by the host's buffer. -/
theorem encode_server_hello_fits {hello : ServerHello} {wire : Bytes} (h : encode_server_hello hello = .ok wire) :
    wire.length ≤ response_size := by
  obtain ⟨⟨-, hc⟩, ⟨-, hs⟩, rfl⟩ := encode_server_hello_ok h
  simp only [kMaxCertificateSize, kMaxSignatureSize] at hc hs
  simp only [response_size, kServerMagic, put_be16, List.length_append, List.length_cons, List.length_nil,
    Vector.length_toList]
  omega

/-- What an accepted ServerHello is made of. -/
theorem decode_server_hello_ok {wire : Bytes} {hello : ServerHello} (h : decode_server_hello wire = .ok hello) :
    ∃ hw : ServerHelloWire wire, have := hw.long
      hello.nonce.toList = (wire.drop 4).take 32 ∧ hello.public_key.toList = (wire.drop 36).take 65 ∧
      hello.certificate_der = (wire.drop 105).take (get_be16 wire[101] wire[102]) ∧
      hello.signature_der = wire.drop (105 + get_be16 wire[101] wire[102]) := by
  unfold decode_server_hello at h
  split at h
  · rename_i hw
    have hl : 105 ≤ wire.length := hw.1
    dsimp only at h
    split at h
    · cases h
    · rename_i hlen
      push Not at hlen
      obtain ⟨hc0, hc, hs0, hs, hexact⟩ := hlen
      rw [← Except.ok.inj h]
      refine ⟨⟨hl, hw.2, ⟨by omega, hc⟩, ⟨by omega, hs⟩, hexact⟩, ?_, ?_, rfl, rfl⟩
      · rw [field_toList (by omega)]
      · rw [field_toList (by omega)]
  · cases h

theorem decode_server_hello_accepts (wire : Bytes) :
    (∃ hello, decode_server_hello wire = .ok hello) ↔ ServerHelloWire wire := by
  constructor
  · rintro ⟨hello, h⟩
    obtain ⟨hw, -⟩ := decode_server_hello_ok h
    exact hw
  · rintro ⟨hl, hmagic, hc, hs, hexact⟩
    unfold decode_server_hello
    rw [dif_pos ⟨hl, hmagic⟩]
    dsimp only
    rw [if_neg (by omega)]
    exact ⟨_, rfl⟩

theorem encode_decode_server_hello {wire : Bytes} {hello : ServerHello}
    (h : decode_server_hello wire = .ok hello) : encode_server_hello hello = .ok wire := by
  obtain ⟨hw, hnonce, hkey, hcert, hsig⟩ := decode_server_hello_ok h
  have hl := hw.long
  have hexact := hw.exact_length
  have hcert_length : hello.certificate_der.length = get_be16 wire[101] wire[102] := by
    rw [hcert, List.length_take, List.length_drop]
    omega
  have hsig_length : hello.signature_der.length = get_be16 wire[103] wire[104] := by
    rw [hsig, List.length_drop]
    omega
  have hin : hello.InRange := ⟨by rw [hcert_length]; exact hw.certificate, by rw [hsig_length]; exact hw.signature⟩
  obtain ⟨again, hagain⟩ := encode_server_hello_in_range hin
  obtain ⟨-, -, hparts⟩ := encode_server_hello_ok hagain
  -- The two sizes are the four bytes at 101.
  have hsizes : put_be16 hello.certificate_der.length ++ put_be16 hello.signature_der.length =
      (wire.drop 101).take 4 := by
    rw [hcert_length, hsig_length, put_get_be16, put_get_be16]
    apply List.ext_getElem
    · simp; omega
    · intro i h1 h2
      have hi : i < 4 := by simpa using h1
      rcases (show i = 0 ∨ i = 1 ∨ i = 2 ∨ i = 3 by omega) with rfl | rfl | rfl | rfl <;> simp
  rw [hagain, hparts]
  congr 1
  calc kServerMagic ++ hello.nonce.toList ++ hello.public_key.toList ++ put_be16 hello.certificate_der.length ++
        put_be16 hello.signature_der.length ++ hello.certificate_der ++ hello.signature_der
      = kServerMagic ++ (hello.nonce.toList ++ (hello.public_key.toList ++
          ((put_be16 hello.certificate_der.length ++ put_be16 hello.signature_der.length) ++
            (hello.certificate_der ++ hello.signature_der)))) := by simp only [List.append_assoc]
    _ = wire.take 4 ++ ((wire.drop 4).take 32 ++ ((wire.drop 36).take 65 ++
          ((wire.drop 101).take 4 ++ wire.drop 105))) := by
        rw [hsizes, hnonce, hkey, ← hw.magic, hcert, hsig, ← List.drop_drop, List.take_append_drop]
    _ = wire := by
        rw [show 105 = 101 + 4 from rfl, ← List.drop_drop, List.take_append_drop, show 101 = 36 + 65 from rfl,
          ← List.drop_drop, List.take_append_drop, show 36 = 4 + 32 from rfl, ← List.drop_drop,
          List.take_append_drop, List.take_append_drop]

/-! ## Exact inverses -/

/-- Each hello and its bytes determine each other, and nothing else is accepted. -/
theorem handshake_codecs :
    (∀ wire hello, decode_client_hello wire = .ok hello ↔ encode_client_hello hello = wire) ∧
    (∀ wire hello, decode_server_hello wire = .ok hello ↔ encode_server_hello hello = .ok wire) ∧
    (∀ wire, (∃ hello, decode_client_hello wire = .ok hello) ↔
      wire.length = kClientHelloSize ∧ wire.take 4 = kClientHelloMagic) ∧
    (∀ wire, (∃ hello, decode_server_hello wire = .ok hello) ↔ ServerHelloWire wire) ∧
    (∀ hello, (∃ wire, encode_server_hello hello = .ok wire) ↔ hello.InRange) ∧
    (∀ hello, (∃ e, encode_server_hello hello = .error e) ↔ ¬ hello.InRange) ∧
    ∀ hello wire, encode_server_hello hello = .ok wire → wire.length ≤ response_size := by
  refine ⟨?_, ?_, decode_client_hello_accepts, decode_server_hello_accepts, encode_server_hello_encodes,
    encode_server_hello_fails, fun _ _ => encode_server_hello_fits⟩
  · intro wire hello
    constructor
    · exact encode_decode_client_hello
    · rintro rfl
      exact decode_encode_client_hello hello
  · intro wire hello
    constructor
    · exact encode_decode_server_hello
    · exact decode_encode_server_hello

end CameraStreamer.Secure
