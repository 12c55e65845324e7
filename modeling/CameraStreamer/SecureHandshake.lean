import CameraStreamer.SecureRecord
/-!
# The ClientHello

Its fixed-width codec and what the device makes of one. The certificate, the
signature and the key agreement behind an answer are OpenSSL's; the demultiplexer
sees only the bytes to send and the session's keys.
-/

namespace CameraStreamer.Secure

structure ClientHello where
  nonce : Vector UInt8 32
  /-- An uncompressed P-256 point. -/
  public_key : Vector UInt8 65
  deriving DecidableEq

structure SessionKeys where
  host_key : Key
  device_key : Key
  host_iv : Iv
  device_iv : Iv
  deriving DecidableEq

/-- `CSU1` -/
def kClientHelloMagic : Bytes := [67, 83, 85, 49]

def kClientHelloSize : Nat := kClientHelloMagic.length + 32 + 65

def encode_client_hello (hello : ClientHello) : Bytes :=
  kClientHelloMagic ++ hello.nonce.toList ++ hello.public_key.toList

def decode_client_hello (wire : Bytes) : Except String ClientHello :=
  if h : wire.length = kClientHelloSize ∧ wire.take 4 = kClientHelloMagic then
    have hl : wire.length = 101 := h.1
    .ok ⟨.ofFn fun i => wire[4 + i.val], .ofFn fun i => wire[36 + i.val]⟩
  else .error "invalid secure USB ClientHello"

/-- What `DeviceHandshake::respond` makes of a decoded hello, by the number of
the call: every call draws its own nonce and key. -/
abbrev Answer := Nat → ClientHello → Except String (Bytes × SessionKeys)

/-- `DeviceHandshake::respond` -/
def respond (answer : Answer) (call : Nat) (client_wire : Bytes) : Except String (Bytes × SessionKeys) :=
  match decode_client_hello client_wire with
  | .error e => .error e
  | .ok client => answer call client

theorem encode_client_hello_length (hello : ClientHello) : (encode_client_hello hello).length = kClientHelloSize := by
  simp [encode_client_hello, kClientHelloSize]

theorem decode_encode_client_hello (hello : ClientHello) :
    decode_client_hello (encode_client_hello hello) = .ok hello := by
  have h : (encode_client_hello hello).length = kClientHelloSize ∧
      (encode_client_hello hello).take 4 = kClientHelloMagic :=
    ⟨encode_client_hello_length hello, rfl⟩
  obtain ⟨nonce, public_key⟩ := hello
  simp only [decode_client_hello, h, and_self, dite_true, Except.ok.injEq, ClientHello.mk.injEq]
  constructor
  · ext i hi
    simp only [Vector.getElem_ofFn, encode_client_hello]
    rw [List.getElem_append_left (by simp [kClientHelloMagic]; omega),
      List.getElem_append_right (by simp [kClientHelloMagic])]
    simp [kClientHelloMagic]
  · ext i hi
    simp only [Vector.getElem_ofFn, encode_client_hello]
    rw [List.getElem_append_right (by simp [kClientHelloMagic])]
    simp [kClientHelloMagic]

theorem respond_encode (answer : Answer) (call : Nat) (hello : ClientHello) :
    respond answer call (encode_client_hello hello) = answer call hello := by
  rw [respond, decode_encode_client_hello]

end CameraStreamer.Secure
