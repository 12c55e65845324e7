import CameraStreamer.RecordStream
import CameraStreamer.SecureHandshake
/-!
# Key agreement

`ClientHandshake::complete` and `DeviceHandshake::respond` over the calls they
make to OpenSSL, the ServerHello they exchange, and the key schedule. OpenSSL
itself is a parameter: an `Openssl` is what one call of a handshake finds there,
so that every failure of it is a case of the code.
-/

namespace CameraStreamer.Secure

abbrev Nonce := Vector UInt8 32
/-- An uncompressed P-256 point. -/
abbrev Point := Vector UInt8 65
abbrev Secret := Vector UInt8 32

structure ServerHello where
  nonce : Nonce
  public_key : Point
  certificate_der : Bytes
  signature_der : Bytes
  deriving DecidableEq

/-- `CSU2` -/
def kServerMagic : Bytes := [67, 83, 85, 50]

def kMaxCertificateSize : Nat := 16 * 1024
def kMaxSignatureSize : Nat := 1024

/-- A size in the two bytes of its field, most significant first. -/
def put_be16 (n : Nat) : Bytes := [UInt8.ofNat (n >>> 8), UInt8.ofNat n]

def get_be16 (b0 b1 : UInt8) : Nat := b0.toNat <<< 8 ||| b1.toNat

def encode_server_hello (hello : ServerHello) : Except String Bytes :=
  if hello.certificate_der = [] ∨ kMaxCertificateSize < hello.certificate_der.length ∨
      hello.signature_der = [] ∨ kMaxSignatureSize < hello.signature_der.length then
    .error "invalid secure USB ServerHello fields"
  else
    .ok (kServerMagic ++ hello.nonce.toList ++ hello.public_key.toList ++
      put_be16 hello.certificate_der.length ++ put_be16 hello.signature_der.length ++
      hello.certificate_der ++ hello.signature_der)

def decode_server_hello (wire : Bytes) : Except String ServerHello :=
  if h : 105 ≤ wire.length ∧ wire.take 4 = kServerMagic then
    have hl : 105 ≤ wire.length := h.1
    let cert_length := get_be16 wire[101] wire[102]
    let signature_length := get_be16 wire[103] wire[104]
    if cert_length = 0 ∨ kMaxCertificateSize < cert_length ∨ signature_length = 0 ∨
        kMaxSignatureSize < signature_length ∨ wire.length ≠ 105 + cert_length + signature_length then
      .error "invalid secure USB ServerHello length"
    else
      .ok ⟨.ofFn fun i => wire[4 + i.val], .ofFn fun i => wire[36 + i.val],
        (wire.drop 105).take cert_length, wire.drop (105 + cert_length)⟩
  else .error "invalid secure USB ServerHello"

/-- What both ends sign and verify: the ClientHello, then the server's nonce and key. -/
def signature_input (client : ClientHello) (server : ServerHello) : Bytes :=
  encode_client_hello client ++ server.nonce.toList ++ server.public_key.toList

/-! ## OpenSSL -/

/-- What the code asks OpenSSL to allocate before it computes anything. -/
inductive Allocation where
  | key_context
  | peer_ec_key
  | peer_pkey
  | ecdh_context
  | hkdf_context
  | sign_context
  | verify_context
  | certificate_store
  | store_context
  deriving DecidableEq, Repr

/-- What the calls of one handshake step meet: `none` or `false` where a call
fails. Key generation and random bytes are what this step draws. -/
structure Openssl (Pkey X509 : Type) where
  allocates : Allocation → Bool
  EVP_PKEY_keygen : Option Pkey
  RAND_bytes : Option Nonce
  EVP_PKEY_get_octet_string_param : Pkey → Option Bytes
  /-- The key, and how many bytes of the point were read. -/
  o2i_ECPublicKey : Point → Option (Pkey × Nat)
  EVP_PKEY_derive : Pkey → Pkey → Option Bytes
  /-- The size a signature may have, before it is made. -/
  signature_size : Pkey → Option Nat
  EVP_DigestSignFinal : Pkey → Bytes → Option Bytes
  EVP_DigestVerifyFinal : Pkey → Bytes → Bytes → Bool
  fopen : String → Bool
  PEM_read_X509 : String → Option X509
  PEM_read_PrivateKey : String → Option Pkey
  /-- The certificate, and how many bytes of its DER form were read. -/
  d2i_X509 : Bytes → Option (X509 × Nat)
  i2d_X509 : X509 → Option Bytes
  X509_get_pubkey : X509 → Option Pkey
  X509_STORE_load_locations : String → Bool
  /-- Why a certificate does not verify against the anchors of a file, if it does not. -/
  X509_verify_cert : String → X509 → Option String
  /-- HKDF-SHA256 of a secret, a salt and an info string, 88 bytes of it. -/
  EVP_PKEY_HKDF : Bytes → Bytes → Bytes → Option Bytes

/-- A buffer of `n` bytes, where the call wrote that many. -/
def to_array (n : Nat) (b : Bytes) : Option (Vector UInt8 n) :=
  if h : b.length = n then some ⟨b.toArray, by simpa using h⟩ else none

namespace Openssl

variable {Pkey X509 : Type} (C : Openssl Pkey X509)

def make_p256_key : Except String Pkey :=
  if !C.allocates .key_context then .error "P-256 context creation failed"
  else
    match C.EVP_PKEY_keygen with
    | none => .error "P-256 key generation failed"
    | some key => .ok key

def public_point (key : Pkey) : Except String Point :=
  match (C.EVP_PKEY_get_octet_string_param key).bind (to_array 65) with
  | none => .error "invalid P-256 public key"
  | some result => if result[0] ≠ 4 then .error "invalid P-256 public key" else .ok result

def peer_key (point : Point) : Except String Pkey :=
  if point[0] ≠ 4 then .error "invalid P-256 point"
  else if !C.allocates .peer_ec_key then .error "P-256 peer context failed"
  else
    match C.o2i_ECPublicKey point with
    | none => .error "P-256 peer key creation failed"
    | some (key, read) =>
      if read ≠ 65 ∨ !C.allocates .peer_pkey then .error "P-256 peer key creation failed" else .ok key

def shared_secret (private_key peer : Pkey) : Except String Secret :=
  if !C.allocates .ecdh_context then .error "ECDH context creation failed"
  else
    match (C.EVP_PKEY_derive private_key peer).bind (to_array 32) with
    | none => .error "P-256 ECDH failed"
    | some secret => .ok secret

def sign (key : Pkey) (data : Bytes) : Except String Bytes :=
  if !C.allocates .sign_context then .error "handshake signature initialization failed"
  else
    match C.signature_size key with
    | none => .error "handshake signature sizing failed"
    | some length =>
      if kMaxSignatureSize < length then .error "handshake signature sizing failed"
      else
        match C.EVP_DigestSignFinal key data with
        | none => .error "handshake signature failed"
        | some result => .ok result

def verify (key : Pkey) (data signature : Bytes) : Except String Bool :=
  if !C.allocates .verify_context then .error "handshake verification initialization failed"
  else .ok (C.EVP_DigestVerifyFinal key data signature)

def read_pem_certificate (path : String) : Except String X509 :=
  if !C.fopen path then .error ("cannot read pinned certificate: " ++ path)
  else
    match C.PEM_read_X509 path with
    | none => .error ("invalid PEM certificate: " ++ path)
    | some cert => .ok cert

def read_pem_private_key (path : String) : Except String Pkey :=
  if !C.fopen path then .error ("cannot read private key: " ++ path)
  else
    match C.PEM_read_PrivateKey path with
    | none => .error ("invalid private key: " ++ path)
    | some key => .ok key

def verify_against_trust_anchor (presented : X509) (path : String) : Except String Unit :=
  if !C.allocates .certificate_store then .error "cannot allocate certificate store"
  else if !C.X509_STORE_load_locations path then .error ("cannot read trust anchor: " ++ path)
  else if !C.allocates .store_context then .error "cannot initialise certificate verification"
  else
    match C.X509_verify_cert path presented with
    | some reason => .error ("secure USB device certificate is not trusted: " ++ reason)
    | none => .ok ()

end Openssl

/-! ## The key schedule -/

def kInfo : Bytes := "camera-secure-usb-v1".toUTF8.toList

/-- The four secrets, cut from the HKDF output. -/
def session_keys (material : Vector UInt8 88) : SessionKeys where
  host_key := .ofFn fun i => material[i.val]
  device_key := .ofFn fun i => material[32 + i.val]
  host_iv := .ofFn fun i => material[32 + 32 + i.val]
  device_iv := .ofFn fun i => material[88 - 12 + i.val]

def derive_session_keys {Pkey X509 : Type} (C : Openssl Pkey X509) (secret : Secret)
    (host_nonce device_nonce : Nonce) : Except String SessionKeys :=
  let salt := host_nonce.toList ++ device_nonce.toList
  if !C.allocates .hkdf_context then .error "HKDF context creation failed"
  else
    match (C.EVP_PKEY_HKDF secret.toList salt kInfo).bind (to_array 88) with
    | none => .error "HKDF-SHA256 derivation failed"
    | some material => .ok (session_keys material)

/-! ## The two ends -/

/-- `ClientHandshake` -/
structure ClientHandshake (Pkey : Type) where
  key_ : Pkey
  hello_ : ClientHello

namespace ClientHandshake

variable {Pkey X509 : Type} (C : Openssl Pkey X509)

def create : Except String (ClientHandshake Pkey) := do
  let key ← C.make_p256_key
  match C.RAND_bytes with
  | none => .error "secure USB random generation failed"
  | some nonce =>
    let point ← C.public_point key
    return ⟨key, ⟨nonce, point⟩⟩

def client_hello (self : ClientHandshake Pkey) : Bytes := encode_client_hello self.hello_

/-- The certificate in a ServerHello, where its DER form is exactly the field. -/
def presented (hello : ServerHello) : Except String X509 :=
  match C.d2i_X509 hello.certificate_der with
  | none => .error "invalid device certificate in handshake"
  | some (cert, read) =>
    if read ≠ hello.certificate_der.length then .error "invalid device certificate in handshake" else .ok cert

def complete (self : ClientHandshake Pkey) (wire : Bytes) (pinned_certificate : String) :
    Except String SessionKeys := do
  let hello ← decode_server_hello wire
  let cert ← presented C hello
  C.verify_against_trust_anchor cert pinned_certificate
  match C.X509_get_pubkey cert with
  | none => .error "device certificate has no public key"
  | some signing_key =>
    let valid ← C.verify signing_key (signature_input self.hello_ hello) hello.signature_der
    if !valid then .error "secure USB handshake signature rejected"
    else
      let peer ← C.peer_key hello.public_key
      let secret ← C.shared_secret self.key_ peer
      derive_session_keys C secret self.hello_.nonce hello.nonce

end ClientHandshake

namespace DeviceHandshake

variable {Pkey X509 : Type} (C : Openssl Pkey X509)

/-- `i2d_X509`, called for the length and again for the bytes. -/
def certificate_der (certificate : X509) : Except String Bytes :=
  match C.i2d_X509 certificate with
  | none => .error "device certificate DER encoding failed"
  | some der =>
    if der.length = 0 ∨ kMaxCertificateSize < der.length then .error "device certificate DER encoding failed"
    else .ok der

/-- `respond`, once the ClientHello is decoded. -/
def answer (certificate_path private_key_path : String) (client : ClientHello) :
    Except String (Bytes × SessionKeys) := do
  let certificate ← C.read_pem_certificate certificate_path
  let signing_key ← C.read_pem_private_key private_key_path
  let ephemeral ← C.make_p256_key
  match C.RAND_bytes with
  | none => .error "secure USB random generation failed"
  | some nonce =>
    let point ← C.public_point ephemeral
    let der ← certificate_der C certificate
    let signature ← C.sign signing_key (signature_input client ⟨nonce, point, der, []⟩)
    let wire ← encode_server_hello ⟨nonce, point, der, signature⟩
    let peer ← C.peer_key client.public_key
    let secret ← C.shared_secret ephemeral peer
    let keys ← derive_session_keys C secret client.nonce nonce
    return (wire, keys)

def respond (client_wire : Bytes) (certificate_path private_key_path : String) :
    Except String (Bytes × SessionKeys) := do
  let client ← decode_client_hello client_wire
  answer C certificate_path private_key_path client

end DeviceHandshake

/-! ## The ServerHello on the wire -/

theorem get_put_be16 (n : Nat) (h : n < 2 ^ 16) : get_be16 (UInt8.ofNat (n >>> 8)) (UInt8.ofNat n) = n := by
  have hb : n % 256 < 2 ^ 8 := by omega
  rw [get_be16, UInt8.toNat_ofNat', UInt8.toNat_ofNat', BigEndian.shiftLeft_or _ _ 8 (by omega),
    Nat.shiftRight_eq_div_pow]
  omega

/-- Byte `i` of the field that starts after `pre`. -/
theorem getElem_field {wire pre v post : Bytes} (hw : wire = pre ++ (v ++ post)) {k i : Nat} (hk : pre.length = k)
    (hi : i < v.length) (h : k + i < wire.length) : wire[k + i] = v[i] := by
  subst hw hk
  rw [List.getElem_append_right (by omega)]
  simp [hi]

theorem encode_server_hello_ok {hello : ServerHello} {wire : Bytes} (h : encode_server_hello hello = .ok wire) :
    (0 < hello.certificate_der.length ∧ hello.certificate_der.length ≤ kMaxCertificateSize) ∧
    (0 < hello.signature_der.length ∧ hello.signature_der.length ≤ kMaxSignatureSize) ∧
    wire = kServerMagic ++ hello.nonce.toList ++ hello.public_key.toList ++
      put_be16 hello.certificate_der.length ++ put_be16 hello.signature_der.length ++
      hello.certificate_der ++ hello.signature_der := by
  unfold encode_server_hello at h
  split at h
  · cases h
  · rename_i hn
    push Not at hn
    obtain ⟨hc, hcm, hs, hsm⟩ := hn
    cases h
    exact ⟨⟨List.length_pos_iff.2 hc, hcm⟩, ⟨List.length_pos_iff.2 hs, hsm⟩, rfl⟩

/-- What one end encodes, the other decodes. -/
theorem decode_encode_server_hello {hello : ServerHello} {wire : Bytes} (h : encode_server_hello hello = .ok wire) :
    decode_server_hello wire = .ok hello := by
  obtain ⟨⟨hc, hcm⟩, ⟨hs, hsm⟩, hw⟩ := encode_server_hello_ok h
  obtain ⟨nonce, public_key, cert, sig⟩ := hello
  simp only [kMaxCertificateSize, kMaxSignatureSize] at hc hcm hs hsm hw
  have hl : wire.length = 105 + cert.length + sig.length := by
    simp [hw, kServerMagic, put_be16]; omega
  have hm : wire.take 4 = kServerMagic := by simp [hw, kServerMagic]
  have hsizes : wire = (kServerMagic ++ nonce.toList ++ public_key.toList) ++
      ((put_be16 cert.length ++ put_be16 sig.length) ++ (cert ++ sig)) := by simp [hw]
  have hfixed : (kServerMagic ++ nonce.toList ++ public_key.toList).length = 101 := by simp [kServerMagic]
  have h101 : wire[101] = UInt8.ofNat (cert.length >>> 8) :=
    getElem_field (i := 0) hsizes hfixed (by simp [put_be16]) (by omega)
  have h102 : wire[102] = UInt8.ofNat cert.length :=
    getElem_field (i := 1) hsizes hfixed (by simp [put_be16]) (by omega)
  have h103 : wire[103] = UInt8.ofNat (sig.length >>> 8) :=
    getElem_field (i := 2) hsizes hfixed (by simp [put_be16]) (by omega)
  have h104 : wire[104] = UInt8.ofNat sig.length :=
    getElem_field (i := 3) hsizes hfixed (by simp [put_be16]) (by omega)
  have hcl : get_be16 wire[101] wire[102] = cert.length := by rw [h101, h102, get_put_be16 _ (by omega)]
  have hsl : get_be16 wire[103] wire[104] = sig.length := by rw [h103, h104, get_put_be16 _ (by omega)]
  have hvar : wire = (kServerMagic ++ nonce.toList ++ public_key.toList ++ put_be16 cert.length ++
      put_be16 sig.length) ++ (cert ++ sig) := by simp [hw]
  have hvl : (kServerMagic ++ nonce.toList ++ public_key.toList ++ put_be16 cert.length ++
      put_be16 sig.length).length = 105 := by simp [kServerMagic, put_be16]
  have hnonce : ∀ i (hi : i < 32), wire[4 + i] = nonce[i] := fun i hi => by
    have hn : wire = kServerMagic ++ (nonce.toList ++ (public_key.toList ++ (put_be16 cert.length ++
        (put_be16 sig.length ++ (cert ++ sig))))) := by simp [hw]
    rw [getElem_field (k := 4) hn rfl (by simpa using hi) (by omega), Vector.getElem_toList]
  have hkey : ∀ i (hi : i < 65), wire[36 + i] = public_key[i] := fun i hi => by
    have hp : wire = (kServerMagic ++ nonce.toList) ++ (public_key.toList ++ (put_be16 cert.length ++
        (put_be16 sig.length ++ (cert ++ sig)))) := by simp [hw]
    rw [getElem_field hp (by simp [kServerMagic]) (by simpa using hi) (by omega), Vector.getElem_toList]
  unfold decode_server_hello
  rw [dif_pos ⟨by omega, hm⟩]
  simp only [hcl, hsl]
  rw [if_neg (by simp only [kMaxCertificateSize, kMaxSignatureSize]; omega)]
  simp only [Except.ok.injEq, ServerHello.mk.injEq]
  refine ⟨?_, ?_, ?_, ?_⟩
  · ext i hi : 1
    rw [Vector.getElem_ofFn, hnonce i hi]
  · ext i hi : 1
    rw [Vector.getElem_ofFn, hkey i hi]
  · rw [hvar, List.drop_left' hvl, List.take_left]
  · rw [hvar, ← List.drop_drop, List.drop_left' hvl, List.drop_left]

/-! ## What is signed -/

/-- A signature is about one ClientHello, one server nonce and one server key: the
three fields have fixed widths, so no two transcripts sign the same bytes. -/
theorem signature_input_inj {client client' : ClientHello} {server server' : ServerHello}
    (h : signature_input client server = signature_input client' server') :
    client = client' ∧ server.nonce = server'.nonce ∧ server.public_key = server'.public_key := by
  unfold signature_input at h
  obtain ⟨h, hkey⟩ := List.append_inj' h (by simp)
  obtain ⟨hclient, hnonce⟩ := List.append_inj' h (by simp)
  have hd := decode_encode_client_hello client
  rw [hclient, decode_encode_client_hello] at hd
  exact ⟨(Except.ok.inj hd).symm, Vector.toList_inj.1 hnonce, Vector.toList_inj.1 hkey⟩

/-! ## What the two ends go through -/

theorem bind_ok {α β : Type} {x : Except String α} {f : α → Except String β} {b : β} :
    (x >>= f) = .ok b ↔ ∃ a, x = .ok a ∧ f a = .ok b := by
  constructor
  · intro h
    cases x with
    | error e => cases h
    | ok a => exact ⟨a, rfl, h⟩
  · rintro ⟨a, rfl, h⟩
    exact h

section Ends
variable {Pkey X509 : Type} (C : Openssl Pkey X509)

/-- The secret of a private key and a point, as either end computes it. -/
def agree (private_key : Pkey) (point : Point) : Except String Secret := do
  let peer ← C.peer_key point
  C.shared_secret private_key peer

/-- What a call of `respond` had in its hands when it returned. -/
structure Transcript (Pkey : Type) where
  client : ClientHello
  signing_key : Pkey
  ephemeral : Pkey
  server : ServerHello
  secret : Secret

/-- `t` is how a call of `respond` came to `wire` and `keys`. -/
structure Transcript.Of (t : Transcript Pkey) (client_wire : Bytes) (certificate_path private_key_path : String)
    (wire : Bytes) (keys : SessionKeys) : Prop where
  decoded : decode_client_hello client_wire = .ok t.client
  certificate : ∃ certificate, C.read_pem_certificate certificate_path = .ok certificate ∧
    DeviceHandshake.certificate_der C certificate = .ok t.server.certificate_der
  signing_key : C.read_pem_private_key private_key_path = .ok t.signing_key
  ephemeral : C.make_p256_key = .ok t.ephemeral
  nonce : C.RAND_bytes = some t.server.nonce
  public_key : C.public_point t.ephemeral = .ok t.server.public_key
  signature : C.sign t.signing_key (signature_input t.client t.server) = .ok t.server.signature_der
  encoded : encode_server_hello t.server = .ok wire
  secret : agree C t.ephemeral t.client.public_key = .ok t.secret
  keys : derive_session_keys C t.secret t.client.nonce t.server.nonce = .ok keys

theorem respond_ok {client_wire wire : Bytes} {certificate_path private_key_path : String} {keys : SessionKeys}
    (h : DeviceHandshake.respond C client_wire certificate_path private_key_path = .ok (wire, keys)) :
    ∃ t : Transcript Pkey, t.Of C client_wire certificate_path private_key_path wire keys := by
  obtain ⟨client, hclient, h⟩ := bind_ok.1 h
  obtain ⟨certificate, hcertificate, h⟩ := bind_ok.1 h
  obtain ⟨signing_key, hsigning, h⟩ := bind_ok.1 h
  obtain ⟨ephemeral, hephemeral, h⟩ := bind_ok.1 h
  split at h
  · cases h
  · rename_i nonce hnonce
    obtain ⟨point, hpoint, h⟩ := bind_ok.1 h
    obtain ⟨der, hder, h⟩ := bind_ok.1 h
    obtain ⟨signature, hsignature, h⟩ := bind_ok.1 h
    obtain ⟨wire', hwire, h⟩ := bind_ok.1 h
    obtain ⟨peer, hpeer, h⟩ := bind_ok.1 h
    obtain ⟨secret, hsecret, h⟩ := bind_ok.1 h
    obtain ⟨keys', hkeys, h⟩ := bind_ok.1 h
    cases h
    exact ⟨⟨client, signing_key, ephemeral, ⟨nonce, point, der, signature⟩, secret⟩, hclient,
      ⟨certificate, hcertificate, hder⟩, hsigning, hephemeral, hnonce, hpoint, hsignature, hwire,
      bind_ok.2 ⟨peer, hpeer, hsecret⟩, hkeys⟩

/-- The checks `complete` makes before it returns keys, in their order. -/
structure Accepts (handshake : ClientHandshake Pkey) (wire : Bytes) (pinned_certificate : String)
    (hello : ServerHello) (signing_key : Pkey) (keys : SessionKeys) : Prop where
  decoded : decode_server_hello wire = .ok hello
  trusted : ∃ cert, ClientHandshake.presented C hello = .ok cert ∧
    C.verify_against_trust_anchor cert pinned_certificate = .ok () ∧ C.X509_get_pubkey cert = some signing_key
  verified : C.verify signing_key (signature_input handshake.hello_ hello) hello.signature_der = .ok true
  keys : ∃ secret, agree C handshake.key_ hello.public_key = .ok secret ∧
    derive_session_keys C secret handshake.hello_.nonce hello.nonce = .ok keys

/-- `complete` returns keys exactly for a ServerHello that passes its checks. -/
theorem complete_ok {self : ClientHandshake Pkey} {wire : Bytes} {pinned_certificate : String} {keys : SessionKeys} :
    self.complete C wire pinned_certificate = .ok keys ↔
      ∃ hello signing_key, Accepts C self wire pinned_certificate hello signing_key keys := by
  constructor
  · intro h
    obtain ⟨hello, hhello, h⟩ := bind_ok.1 h
    obtain ⟨cert, hcert, h⟩ := bind_ok.1 h
    obtain ⟨⟨⟩, htrusted, h⟩ := bind_ok.1 h
    split at h
    · cases h
    · rename_i signing_key hsigning
      obtain ⟨valid, hvalid, h⟩ := bind_ok.1 h
      cases valid with
      | false => cases h
      | true =>
        obtain ⟨peer, hpeer, h⟩ := bind_ok.1 h
        obtain ⟨secret, hsecret, hkeys⟩ := bind_ok.1 h
        exact ⟨hello, signing_key, hhello, ⟨cert, hcert, htrusted, hsigning⟩, hvalid,
          ⟨secret, bind_ok.2 ⟨peer, hpeer, hsecret⟩, hkeys⟩⟩
  · rintro ⟨hello, signing_key, hhello, ⟨cert, hcert, htrusted, hsigning⟩, hvalid, secret, hsecret, hkeys⟩
    obtain ⟨peer, hpeer, hsecret⟩ := bind_ok.1 hsecret
    refine bind_ok.2 ⟨hello, hhello, bind_ok.2 ⟨cert, hcert, bind_ok.2 ⟨(), htrusted, ?_⟩⟩⟩
    rw [hsigning]
    exact bind_ok.2 ⟨true, hvalid, bind_ok.2 ⟨peer, hpeer, bind_ok.2 ⟨secret, hsecret, hkeys⟩⟩⟩

/-- The whole of `respond` is the demultiplexer's `respond`, with the certificate's answers. -/
theorem respond_answer (E : Nat → Openssl Pkey X509) (certificate_path private_key_path : String) (call : Nat)
    (client_wire : Bytes) :
    DeviceHandshake.respond (E call) client_wire certificate_path private_key_path =
      Secure.respond (fun call => DeviceHandshake.answer (E call) certificate_path private_key_path) call
        client_wire := by
  unfold DeviceHandshake.respond Secure.respond
  cases decode_client_hello client_wire <;> rfl

theorem create_ok {host : ClientHandshake Pkey} (h : ClientHandshake.create C = .ok host) :
    C.make_p256_key = .ok host.key_ ∧ C.public_point host.key_ = .ok host.hello_.public_key := by
  obtain ⟨key, hkey, h⟩ := bind_ok.1 h
  split at h
  · cases h
  · obtain ⟨point, hpoint, h⟩ := bind_ok.1 h
    cases h
    exact ⟨hkey, hpoint⟩

/-! ## The four secrets -/

theorem to_array_some {n : Nat} {b : Bytes} {v : Vector UInt8 n} (h : to_array n b = some v) : v.toList = b := by
  unfold to_array at h
  split at h
  · cases h; rfl
  · cases h

/-- A field copied out of the bytes at offset `k`. -/
theorem field_toList {wire : Bytes} {k n : Nat} (h : k + n ≤ wire.length) :
    (Vector.ofFn fun i : Fin n => wire[k + i.val]).toList = (wire.drop k).take n := by
  apply List.ext_getElem
  · simp; omega
  · intro i h1 h2
    simp

theorem slice_toList {m n : Nat} (material : Vector UInt8 m) (k : Nat) (h : k + n ≤ m) :
    (Vector.ofFn fun i : Fin n => material[k + i.val]).toList = (material.toList.drop k).take n := by
  rw [← field_toList (by simpa using h)]
  simp

/-- Laid end to end, the four secrets are the HKDF output: none shares a byte with another. -/
theorem session_keys_tile (material : Vector UInt8 88) :
    (session_keys material).host_key.toList ++ (session_keys material).device_key.toList ++
      (session_keys material).host_iv.toList ++ (session_keys material).device_iv.toList = material.toList := by
  have hhost : (session_keys material).host_key.toList = material.toList.take 32 := by
    have h := slice_toList (n := 32) material 0 (by omega)
    simp only [Nat.zero_add, List.drop_zero] at h
    exact h
  have hdevice : (session_keys material).device_key.toList = (material.toList.drop 32).take 32 :=
    slice_toList material 32 (by omega)
  have hhost_iv : (session_keys material).host_iv.toList = (material.toList.drop 64).take 12 :=
    slice_toList material 64 (by omega)
  have hdevice_iv : (session_keys material).device_iv.toList = material.toList.drop 76 := by
    have h := slice_toList (n := 12) material 76 (by omega)
    rw [List.take_of_length_le (by simp)] at h
    exact h
  rw [hhost, hdevice, hhost_iv, hdevice_iv, List.append_assoc, List.append_assoc,
    show 76 = 64 + 12 from rfl, ← List.drop_drop, List.take_append_drop, show 64 = 32 + 32 from rfl,
    ← List.drop_drop, List.take_append_drop, List.take_append_drop]

theorem derive_session_keys_ok {secret : Secret} {host_nonce device_nonce : Nonce} {keys : SessionKeys}
    (h : derive_session_keys C secret host_nonce device_nonce = .ok keys) :
    ∃ material : Vector UInt8 88,
      C.EVP_PKEY_HKDF secret.toList (host_nonce.toList ++ device_nonce.toList) kInfo = some material.toList ∧
      keys = session_keys material := by
  unfold derive_session_keys at h
  dsimp only at h
  split at h
  · cases h
  · split at h
    · cases h
    · rename_i material hm
      obtain ⟨b, hb, hv⟩ := Option.bind_eq_some_iff.1 hm
      exact ⟨material, by rw [hb, to_array_some hv], (Except.ok.inj h).symm⟩

end Ends

/-! ## Both directions -/

/-- The records an end makes from the session's keys. -/
structure SecureRecords where
  encrypt : SecureRecord
  decrypt : SecureRecord

/-- `SecureUsbBridge::start` -/
def bridge_records (keys : SessionKeys) : SecureRecords where
  encrypt := .new keys.host_key keys.host_iv
  decrypt := .new keys.device_key keys.device_iv

/-- `SecureUsbServer::serve_session`: its own record and the one of the `Session` it makes. -/
def serve_session_records (keys : SessionKeys) : SecureRecords where
  encrypt := .new keys.device_key keys.device_iv
  decrypt := .new keys.host_key keys.host_iv

/-- Whatever messages are handed to `sealing`, the records it seals open one by
one under `opening`, each to its message, and the two counters stay equal. -/
def Opened (A : Aead) (sealing opening : SecureRecord) : Prop :=
  ∀ ms : List WireMessage,
    open_wire_records A opening ((make_wire_records A sealing ms).1.filterMap Except.toOption) =
      ((ms.filter (·.Fits)).map .ok, (make_wire_records A sealing ms).2)

theorem open_framed_all (A : Aead) (hA : A.Opens) (r : SecureRecord) (ms : List WireMessage) (h : ∀ m ∈ ms, m.Fits) :
    open_wire_records A r (framed_all A r ms) = (ms.map .ok, r.skip ms.length) := by
  induction ms generalizing r with
  | nil => simp [framed_all, open_wire_records]
  | cons m ms ih =>
    rw [framed_all, open_wire_records, open_framed A r m (hA _ _ _) (h m (by simp))]
    simp only [ih r.next_nonce.2 (fun m hm => h m (by simp [hm])), List.map_cons, List.length_cons,
      SecureRecord.skip_succ]

theorem opened_self (A : Aead) (hA : A.Opens) (r : SecureRecord) : Opened A r r := by
  intro ms
  obtain ⟨hwires, hr⟩ := make_wire_records_eq A r ms
  rw [hwires, hr]
  exact open_framed_all A hA r _ fun m hm => by simpa using (List.mem_filter.1 hm).2

/-! ## An honest handshake -/

section Honest
variable {Pkey X509 : Type} (C : Openssl Pkey X509)

/-- Two key pairs agree on one secret, whichever end computes it. -/
def Commutes : Prop :=
  ∀ a b P Q secret, C.public_point a = .ok P → C.public_point b = .ok Q →
    agree C a Q = .ok secret → agree C b P = .ok secret

/-- The certificate of the file verifies against the anchor, and its key accepts
what the private key of the other file signs. -/
structure Certified (certificate_path private_key_path pinned_certificate : String) : Prop where
  trusted : ∀ certificate der, C.read_pem_certificate certificate_path = .ok certificate →
    DeviceHandshake.certificate_der C certificate = .ok der →
    ∃ cert, C.d2i_X509 der = some (cert, der.length) ∧
      C.verify_against_trust_anchor cert pinned_certificate = .ok () ∧
      ∃ verification_key, C.X509_get_pubkey cert = some verification_key ∧
        ∀ signing_key data signature, C.read_pem_private_key private_key_path = .ok signing_key →
          C.sign signing_key data = .ok signature → C.verify verification_key data signature = .ok true

/-- What the device answers to a host's hello, the host accepts, with the device's keys. -/
theorem honest_complete (hC : Commutes C) (certificate_path private_key_path pinned_certificate : String)
    (hcert : Certified C certificate_path private_key_path pinned_certificate)
    (host : ClientHandshake Pkey) (hpair : C.public_point host.key_ = .ok host.hello_.public_key)
    (wire : Bytes) (keys : SessionKeys)
    (hresp : DeviceHandshake.respond C host.client_hello certificate_path private_key_path = .ok (wire, keys)) :
    host.complete C wire pinned_certificate = .ok keys ∧
    ∃ (secret salt : Bytes) (material : Vector UInt8 88), C.EVP_PKEY_HKDF secret salt kInfo = some material.toList ∧
      keys = session_keys material := by
  obtain ⟨t, ht⟩ := respond_ok C hresp
  have hclient : t.client = host.hello_ := by
    have hd := ht.decoded
    rw [ClientHandshake.client_hello, decode_encode_client_hello] at hd
    exact (Except.ok.inj hd).symm
  obtain ⟨certificate, hread, hder⟩ := ht.certificate
  obtain ⟨cert, hd2i, htrusted, verification_key, hpub, hverifies⟩ := hcert.trusted _ _ hread hder
  have hverified := hverifies _ _ _ ht.signing_key ht.signature
  have hagree := ht.secret
  have hkeys := ht.keys
  rw [hclient] at hverified hagree hkeys
  have hpresented : ClientHandshake.presented C t.server = .ok cert := by
    rw [ClientHandshake.presented, hd2i]; simp
  have hcomplete : host.complete C wire pinned_certificate = .ok keys :=
    (complete_ok C).2 ⟨t.server, verification_key, decode_encode_server_hello ht.encoded,
      ⟨cert, hpresented, htrusted, hpub⟩, hverified,
      ⟨t.secret, hC _ _ _ _ _ ht.public_key hpair hagree, hkeys⟩⟩
  obtain ⟨material, hm, hk⟩ := derive_session_keys_ok C hkeys
  exact ⟨hcomplete, _, _, material, hm, hk⟩

/-- What the device answers to a host's hello, the host accepts, with the
device's keys; and with those keys each end opens every record the other seals. -/
theorem honest_key_agreement (A : Aead) (hA : A.Opens) (hC : Commutes C)
    (certificate_path private_key_path pinned_certificate : String)
    (hcert : Certified C certificate_path private_key_path pinned_certificate)
    (host : ClientHandshake Pkey) (hpair : C.public_point host.key_ = .ok host.hello_.public_key)
    (wire : Bytes) (keys : SessionKeys)
    (hresp : DeviceHandshake.respond C host.client_hello certificate_path private_key_path = .ok (wire, keys)) :
    host.complete C wire pinned_certificate = .ok keys ∧
    Opened A (bridge_records keys).encrypt (serve_session_records keys).decrypt ∧
    Opened A (serve_session_records keys).encrypt (bridge_records keys).decrypt ∧
    ∃ (secret salt : Bytes) (material : Vector UInt8 88), C.EVP_PKEY_HKDF secret salt kInfo = some material.toList ∧
      keys.host_key.toList ++ keys.device_key.toList ++ keys.host_iv.toList ++ keys.device_iv.toList =
        material.toList := by
  obtain ⟨hcomplete, secret, salt, material, hm, rfl⟩ := honest_complete C hC certificate_path private_key_path
    pinned_certificate hcert host hpair wire keys hresp
  refine ⟨hcomplete, opened_self A hA _, opened_self A hA _, ?_⟩
  exact ⟨secret, salt, material, hm, session_keys_tile material⟩

end Honest

/-! ## An OpenSSL to try the model on -/

/-- Two keys, the smaller one first. -/
def ordered (a b : UInt8) : Bytes := if a ≤ b then [a, b] else [b, a]

theorem ordered_comm (a b : UInt8) : ordered a b = ordered b a := by
  unfold ordered
  split <;> split
  · rename_i h h'
    rw [UInt8.le_antisymm h h']
  · rfl
  · rfl
  · rename_i h h'
    exact absurd (UInt8.le_total a b) (by simp [h, h'])

@[simp] theorem ordered_length (a b : UInt8) : (ordered a b).length = 2 := by
  unfold ordered
  split <;> rfl

/-- The point of a key is the key itself, a secret is its two keys in order, a
signature is the key before what it signs. What is drawn is `n`; the one
certificate that verifies, and the one private key on file, are 7. -/
def plainOpenssl (n : UInt8) : Openssl UInt8 UInt8 where
  allocates _ := true
  EVP_PKEY_keygen := some n
  RAND_bytes := some (.replicate 32 n)
  EVP_PKEY_get_octet_string_param k := some (4 :: k :: .replicate 63 0)
  o2i_ECPublicKey point := some (point[1], 65)
  EVP_PKEY_derive k peer := some (ordered k peer ++ .replicate 30 0)
  signature_size _ := some 199
  EVP_DigestSignFinal k data := some (k :: data)
  EVP_DigestVerifyFinal k data signature := signature == k :: data
  fopen _ := true
  PEM_read_X509 _ := some 7
  PEM_read_PrivateKey _ := some 7
  d2i_X509 der := der.head?.map (·, 1)
  i2d_X509 cert := some [cert]
  X509_get_pubkey cert := some cert
  X509_STORE_load_locations _ := true
  X509_verify_cert _ cert := if cert = 7 then none else some "unable to get local issuer certificate"
  EVP_PKEY_HKDF secret salt _ := some (secret ++ salt.take 56)

/-- The point of a key. -/
def plainPoint (k : UInt8) : Point := ⟨(4 :: k :: .replicate 63 0 : Bytes).toArray, rfl⟩

theorem to_array_length {n : Nat} {b : Bytes} (h : b.length = n) : ∃ v, to_array n b = some v ∧ v.toList = b :=
  ⟨⟨b.toArray, by simpa using h⟩, by rw [to_array, dif_pos h], rfl⟩

theorem plain_public_point (n k : UInt8) : (plainOpenssl n).public_point k = .ok (plainPoint k) := rfl

theorem plain_agree (n k : UInt8) (point : Point) (h : point[0] = 4) :
    ∃ secret, agree (plainOpenssl n) k point = .ok secret ∧
      secret.toList = ordered k point[1] ++ .replicate 30 0 := by
  obtain ⟨secret, hs, hl⟩ := to_array_length (n := 32) (b := ordered k point[1] ++ .replicate 30 0) (by simp)
  refine ⟨secret, bind_ok.2 ⟨point[1], ?_, ?_⟩, hl⟩
  · simp [Openssl.peer_key, plainOpenssl, h]
  · simp only [Openssl.shared_secret, plainOpenssl, Option.bind_some, hs]
    rfl

theorem plain_commutes (n : UInt8) : Commutes (plainOpenssl n) := by
  intro a b P Q secret ha hb h
  obtain rfl := Except.ok.inj ((plain_public_point n a).symm.trans ha)
  obtain rfl := Except.ok.inj ((plain_public_point n b).symm.trans hb)
  obtain ⟨s, hs, hsl⟩ := plain_agree n b (plainPoint a) rfl
  obtain ⟨s', hs', hsl'⟩ := plain_agree n a (plainPoint b) rfl
  rw [hs', Except.ok.injEq] at h
  subst h
  rw [hs, Except.ok.injEq, ← Vector.toList_inj, hsl, hsl']
  exact congrArg (· ++ _) (ordered_comm b a)

theorem plain_certified (n : UInt8) : Certified (plainOpenssl n) "device.crt" "device.key" "device.crt" where
  trusted certificate der hc hd := by
    obtain rfl : 7 = certificate := Except.ok.inj hc
    obtain rfl : [7] = der := Except.ok.inj hd
    refine ⟨7, rfl, rfl, 7, rfl, fun k data signature hk hs => ?_⟩
    obtain rfl : 7 = k := Except.ok.inj hk
    obtain rfl : 7 :: data = signature := Except.ok.inj hs
    simp [Openssl.verify, plainOpenssl]

theorem plain_derive (n : UInt8) (secret : Secret) (host_nonce device_nonce : Nonce) :
    ∃ material : Vector UInt8 88, derive_session_keys (plainOpenssl n) secret host_nonce device_nonce =
      .ok (session_keys material) ∧
      material.toList = secret.toList ++ (host_nonce.toList ++ device_nonce.toList).take 56 := by
  obtain ⟨material, hm, hl⟩ := to_array_length (n := 88)
    (b := secret.toList ++ (host_nonce.toList ++ device_nonce.toList).take 56) (by simp)
  exact ⟨material, by simp [derive_session_keys, plainOpenssl, hm], hl⟩

/-- A device that draws `n` answers any host whose point is one. -/
theorem plain_respond (n : UInt8) (host : ClientHandshake UInt8) (h : host.hello_.public_key[0] = 4) :
    ∃ wire keys, DeviceHandshake.respond (plainOpenssl n) host.client_hello "device.crt" "device.key" =
      .ok (wire, keys) := by
  have hl : (signature_input host.hello_ ⟨.replicate 32 n, plainPoint n, [7], []⟩).length = 198 := by
    simp [signature_input, encode_client_hello_length, kClientHelloSize, kClientHelloMagic]
  obtain ⟨wire, hwire⟩ : ∃ wire, encode_server_hello ⟨.replicate 32 n, plainPoint n, [7],
      7 :: signature_input host.hello_ ⟨.replicate 32 n, plainPoint n, [7], []⟩⟩ = .ok wire := by
    simp [encode_server_hello, kMaxCertificateSize, kMaxSignatureSize, hl]
  obtain ⟨secret, hsecret, -⟩ := plain_agree n n host.hello_.public_key h
  obtain ⟨peer, hpeer, hsecret⟩ := bind_ok.1 hsecret
  obtain ⟨material, hkeys, -⟩ := plain_derive n secret host.hello_.nonce (.replicate 32 n)
  refine ⟨wire, session_keys material, bind_ok.2 ⟨host.hello_, decode_encode_client_hello _, bind_ok.2 ⟨7, rfl,
    bind_ok.2 ⟨7, rfl, bind_ok.2 ⟨n, rfl, ?_⟩⟩⟩⟩⟩
  exact bind_ok.2 ⟨plainPoint n, rfl, bind_ok.2 ⟨[7], rfl, bind_ok.2 ⟨_, rfl, bind_ok.2 ⟨wire, hwire,
    bind_ok.2 ⟨peer, hpeer, bind_ok.2 ⟨secret, hsecret, bind_ok.2 ⟨_, hkeys, rfl⟩⟩⟩⟩⟩⟩⟩

/-- The key pair 3 and a nonce of threes. -/
def plainHost : ClientHandshake UInt8 := ⟨3, ⟨.replicate 32 3, plainPoint 3⟩⟩

/-- A host with the key 3 and a device that draws 5. -/
theorem honest_key_agreement_plain :
    ∃ wire keys, plainHost.complete (plainOpenssl 5) wire "device.crt" = .ok keys ∧
      Opened (markedAead fun _ _ _ => true) (bridge_records keys).encrypt (serve_session_records keys).decrypt := by
  obtain ⟨wire, keys, h⟩ := plain_respond 5 plainHost rfl
  have hk := honest_key_agreement (plainOpenssl 5) _ markedAead_opens (plain_commutes 5) "device.crt" "device.key"
    "device.crt" (plain_certified 5) plainHost rfl wire keys h
  exact ⟨wire, keys, hk.1, hk.2.1⟩

end CameraStreamer.Secure
