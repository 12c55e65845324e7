import CameraStreamer.HostInbound
import CameraStreamer.HandshakeCodecs
/-!
# The start of a session

`SecureUsbBridge::start` reads one bulk IN transfer and takes it for the
ServerHello; the reader thread appends every later transfer to the buffer of
`drainInbound`, which starts empty. The ServerHello's decoder wants its exact
length, so it alone of everything the device sends depends on where the
transfers end.
-/

namespace CameraStreamer.Secure.SecureUsbBridge

open Incremental

variable {Pkey X509 : Type}

def kPorts : List Nat := [8555, 8557]

def LIBUSB_ERROR_TIMEOUT : Int := -7

/-- What `start` finds once the interface is claimed, up to the ServerHello. -/
structure Surroundings where
  /-- `CAMERA_SECURE_USB_CERT` -/
  pinned : String
  makeListener : Nat → Except String Unit
  /-- The code and the count of each attempt to send the ClientHello. -/
  libusb_bulk_transfer : Nat → Int × Nat
  libusb_strerror : Int → String

/-- What of `size` bytes was sent by the last of two attempts, the second made only where the first fell short. -/
def send_attempts (at_start : Surroundings) (size : Nat) : Int × Nat :=
  if at_start.libusb_bulk_transfer 0 = (0, size) then (0, size) else at_start.libusb_bulk_transfer 1

/-- `start`, up to the ClientHello. -/
def send_client_hello (C : Openssl Pkey X509) (at_start : Surroundings) : Except String (ClientHandshake Pkey) := do
  if at_start.pinned = "" then .error "CAMERA_SECURE_USB_CERT is required for secure USB pairing"
  else
    kPorts.forM at_start.makeListener
    let handshake ← ClientHandshake.create C
    let size := handshake.client_hello.length
    let (rc, transferred) := send_attempts at_start size
    if rc ≠ 0 ∨ transferred ≠ size then
      .error ("secure USB ClientHello transfer failed: " ++ at_start.libusb_strerror rc ++ " (" ++
        toString transferred ++ "/" ++ toString size ++ " bytes)")
    else return handshake

/-- `start`, on the code and the bytes of the one transfer it reads. The 20 KiB
it reads into are more than any ServerHello. -/
def start (C : Openssl Pkey X509) (at_start : Surroundings) (response : Int × Bytes) :
    Except String SecureRecords := do
  let handshake ← send_client_hello C at_start
  if response.1 ≠ 0 then
    .error ("secure USB ServerHello transfer failed: " ++ at_start.libusb_strerror response.1)
  else
    let keys ← handshake.complete C response.2 at_start.pinned
    return bridge_records keys

/-- What the host makes of the bulk IN transfers of a session: the first is
`start`'s, the rest go through the reader thread to the loop of `run`. -/
def session (A : Aead) (C : Openssl Pkey X509) (at_start : Surroundings) (transfers : List Bytes) :
    Except String (SecureRecords × List Received × Option (SecureRecord × WireBuffer)) :=
  match transfers with
  | [] => (start C at_start (LIBUSB_ERROR_TIMEOUT, [])).map fun records => (records, [], some (records.decrypt, []))
  | first :: later =>
    (start C at_start (0, first)).map fun records =>
      (records, (drainInbound A Ssl.works).feed (some (records.decrypt, [])) later)

/-- The handshake completed with `keys`, the messages of `segs` came out and the session goes on. -/
def Established (keys : SessionKeys) (segs : List Segment)
    (res : Except String (SecureRecords × List Received × Option (SecureRecord × WireBuffer))) : Prop :=
  ∃ got, res = .ok (bridge_records keys, got) ∧ Transparent got segs

/-! ## The exact length of a ServerHello -/

/-- The length a ServerHello must have, from its size fields. -/
def announced (b1 b2 b3 b4 : UInt8) : Nat := 105 + get_be16 b1 b2 + get_be16 b3 b4

theorem decode_server_hello_length {wire : Bytes} {hello : ServerHello} (h : decode_server_hello wire = .ok hello) :
    ∃ b1 b2 b3 b4, wire[101]? = some b1 ∧ wire[102]? = some b2 ∧ wire[103]? = some b3 ∧ wire[104]? = some b4 ∧
      wire.length = announced b1 b2 b3 b4 := by
  obtain ⟨hw, -⟩ := decode_server_hello_ok h
  have hl := hw.long
  exact ⟨_, _, _, _, List.getElem?_eq_getElem (by omega), List.getElem?_eq_getElem (by omega),
    List.getElem?_eq_getElem (by omega), List.getElem?_eq_getElem (by omega), hw.exact_length⟩

/-- No ServerHello is an initial part of what starts with another. -/
theorem decode_server_hello_prefix {a b s : Bytes} {hello hello' : ServerHello} (ha : decode_server_hello a = .ok hello)
    (hb : decode_server_hello b = .ok hello') (has : a <+: s) (hbs : b <+: s) : a = b := by
  obtain ⟨a1, a2, a3, a4, ha1, ha2, ha3, ha4, hna⟩ := decode_server_hello_length ha
  obtain ⟨b1, b2, b3, b4, hb1, hb2, hb3, hb4, hnb⟩ := decode_server_hello_length hb
  -- both carry the size fields of `s`
  have hs : ∀ {x : Bytes} {i : Nat} {v : UInt8}, x <+: s → x[i]? = some v → s[i]? = some v := by
    rintro x i v ⟨t, rfl⟩ h
    rw [List.getElem?_append_left (List.getElem?_eq_some_iff.1 h).1]
    exact h
  have hsame : ∀ {i : Nat} {v w : UInt8}, a[i]? = some v → b[i]? = some w → v = w := fun hv hw =>
    Option.some.inj ((hs has hv).symm.trans (hs hbs hw))
  have hlen : a.length = b.length := by
    rw [hna, hnb, hsame ha1 hb1, hsame ha2 hb2, hsame ha3 hb3, hsame ha4 hb4]
  exact (List.prefix_of_prefix_length_le has hbs (Nat.le_of_eq hlen)).eq_of_length hlen

/-! ## `start` -/

theorem start_ok {C : Openssl Pkey X509} {at_start : Surroundings} {response : Int × Bytes} {records : SecureRecords} :
    start C at_start response = .ok records ↔ response.1 = 0 ∧ ∃ handshake keys,
      send_client_hello C at_start = .ok handshake ∧ handshake.complete C response.2 at_start.pinned = .ok keys ∧
      records = bridge_records keys := by
  constructor
  · intro h
    obtain ⟨handshake, hsent, h⟩ := bind_ok.1 h
    split at h
    · cases h
    · rename_i hrc
      obtain ⟨keys, hkeys, h⟩ := bind_ok.1 h
      exact ⟨Decidable.not_not.1 hrc, handshake, keys, hsent, hkeys, (Except.ok.inj h).symm⟩
  · rintro ⟨hrc, handshake, keys, hsent, hkeys, rfl⟩
    refine bind_ok.2 ⟨handshake, hsent, ?_⟩
    rw [if_neg (by simp [hrc])]
    exact bind_ok.2 ⟨keys, hkeys, rfl⟩

/-- Of two transfers that one stream starts with, `start` completes on at most one. -/
theorem start_prefix {C : Openssl Pkey X509} {at_start : Surroundings} {a b s : Bytes}
    {records records' : SecureRecords}
    (ha : start C at_start (0, a) = .ok records) (hb : start C at_start (0, b) = .ok records')
    (has : a <+: s) (hbs : b <+: s) : a = b := by
  obtain ⟨-, handshake, keys, -, hkeys, -⟩ := start_ok.1 ha
  obtain ⟨-, handshake', keys', -, hkeys', -⟩ := start_ok.1 hb
  obtain ⟨hello, signing_key, haccepts⟩ := (complete_ok C).1 hkeys
  obtain ⟨hello', signing_key', haccepts'⟩ := (complete_ok C).1 hkeys'
  exact decode_server_hello_prefix haccepts.decoded haccepts'.decoded has hbs

/-- A session with keys took its first transfer for the ServerHello and drained the others. -/
theorem session_ok {A : Aead} {C : Openssl Pkey X509} {at_start : Surroundings} {transfers : List Bytes}
    {records : SecureRecords} {got : List Received × Option (SecureRecord × WireBuffer)} :
    session A C at_start transfers = .ok (records, got) ↔ ∃ first later, transfers = first :: later ∧
      start C at_start (0, first) = .ok records ∧
      got = (drainInbound A Ssl.works).feed (some (records.decrypt, [])) later := by
  constructor
  · intro h
    cases transfers with
    | nil =>
      simp only [session] at h
      cases hs : start C at_start (LIBUSB_ERROR_TIMEOUT, []) with
      | error e => rw [hs] at h; cases h
      | ok records' => exact absurd (start_ok.1 hs).1 (by decide)
    | cons first later =>
      simp only [session] at h
      cases hs : start C at_start (0, first) with
      | error e => rw [hs] at h; cases h
      | ok records' =>
        rw [hs] at h
        obtain ⟨rfl, rfl⟩ := Prod.mk.inj (Except.ok.inj h)
        exact ⟨first, later, rfl, hs, rfl⟩
  · rintro ⟨first, later, rfl, hs, rfl⟩
    simp only [session, hs]
    rfl

/-! ## Segmentation -/

/-- An established session's first transfer is the ServerHello. -/
theorem Established.head {A : Aead} {C : Openssl Pkey X509} {at_start : Surroundings} {wire stream : Bytes}
    {keys : SessionKeys} {segs : List Segment} {transfers : List Bytes}
    (h : Established keys segs (session A C at_start transfers))
    (hkeys : start C at_start (0, wire) = .ok (bridge_records keys)) (hc : transfers.flatten = wire ++ stream) :
    ∃ later, transfers = wire :: later ∧
      Transparent ((drainInbound A Ssl.works).feed (some ((bridge_records keys).decrypt, [])) later) segs := by
  obtain ⟨got, hres, hgot⟩ := h
  obtain ⟨first, later, rfl, hs, rfl⟩ := session_ok.1 hres
  rw [List.flatten_cons] at hc
  obtain rfl : first = wire := start_prefix hs hkeys ⟨later.flatten, hc⟩ ⟨stream, rfl⟩
  exact ⟨later, rfl, hgot⟩

/-- A session is established, whatever its transfers are, exactly where the
first of them holds the bytes of the ServerHello and no others, and no long
record directly follows a padding byte. -/
theorem established_iff (A : Aead) (hA : A.Opens) (C : Openssl Pkey X509) (at_start : Surroundings) (wire : Bytes)
    (keys : SessionKeys) (hkeys : start C at_start (0, wire) = .ok (bridge_records keys)) (segs : List Segment)
    (hf : ∀ s ∈ segs, s.message.Fits) (trailing : Nat) (transfers : List Bytes)
    (hc : transfers.flatten =
      wire ++ padded_stream A (List.replicate trailing 0) (serve_session_records keys).encrypt segs) :
    Established keys segs (session A C at_start transfers) ↔
      transfers.head? = some wire ∧ ∀ s ∈ segs, s.Aligned := by
  constructor
  · intro h
    obtain ⟨later, rfl, hgot⟩ := h.head hkeys hc
    refine ⟨rfl, (transparent_iff A hA _ segs hf trailing later ?_).1 hgot⟩
    exact List.append_cancel_left hc
  · rintro ⟨hhead, ha⟩
    obtain ⟨later, rfl⟩ := List.head?_eq_some_iff.1 hhead
    have hlater := List.append_cancel_left hc
    exact ⟨_, session_ok.2 ⟨wire, later, rfl, hkeys, rfl⟩, (transparent_iff A hA _ segs hf trailing later hlater).2 ha⟩

/-- Nothing is in the way of the ClientHello. -/
def plainSurroundings : Surroundings where
  pinned := "device.crt"
  makeListener _ := .ok ()
  libusb_bulk_transfer _ := (0, kClientHelloSize)
  libusb_strerror _ := "Success"

/-- A device's answer that `start` completes on. -/
theorem plain_start : ∃ wire keys,
    start (plainOpenssl 3) plainSurroundings (0, wire) = .ok (bridge_records keys) := by
  obtain ⟨wire, keys, h⟩ := plain_respond 3 plainHost rfl
  obtain ⟨hcomplete, -⟩ := honest_complete (plainOpenssl 3) (plain_commutes 3) "device.crt" "device.key"
    "device.crt" (plain_certified 3) plainHost rfl wire keys h
  exact ⟨wire, keys, start_ok.2 ⟨rfl, plainHost, keys, rfl, hcomplete, rfl⟩⟩

/-- One message, with two padding bytes in front and three behind, in transfers of their own. -/
theorem established_iff_plain :
    ∃ wire keys, start (plainOpenssl 3) plainSurroundings (0, wire) = .ok (bridge_records keys) ∧
      Established keys [⟨2, ⟨.Meta, 0, [1]⟩⟩] (session (markedAead fun _ _ _ => true) (plainOpenssl 3)
        plainSurroundings [wire, padded_stream (markedAead fun _ _ _ => true) (List.replicate 3 0)
          (serve_session_records keys).encrypt [⟨2, ⟨.Meta, 0, [1]⟩⟩]]) := by
  obtain ⟨wire, keys, h⟩ := plain_start
  exact ⟨wire, keys, h,
    (established_iff _ markedAead_opens _ _ wire keys h _ (by decide) 3 _ (by simp)).2 ⟨rfl, by decide⟩⟩

/-- The ServerHello and the first record in one transfer: the handshake fails. -/
theorem coalesced_hello_rejected :
    ¬ ∀ (A : Aead), A.Opens → ∀ (C : Openssl UInt8 UInt8) (at_start : Surroundings) (wire : Bytes) (keys : SessionKeys),
      start C at_start (0, wire) = .ok (bridge_records keys) → ∀ (segs : List Segment) (trailing : Nat)
        (transfers : List Bytes), (∀ s ∈ segs, s.message.Fits) → (∀ s ∈ segs, s.Aligned) →
        transfers.flatten =
          wire ++ padded_stream A (List.replicate trailing 0) (serve_session_records keys).encrypt segs →
        Established keys segs (session A C at_start transfers) := by
  intro h
  obtain ⟨wire, keys, hkeys⟩ := plain_start
  have hc : [wire ++ padded_stream (markedAead fun _ _ _ => true) (List.replicate 0 0)
      (serve_session_records keys).encrypt [⟨0, ⟨.Meta, 0, [1]⟩⟩]].flatten =
        wire ++ padded_stream (markedAead fun _ _ _ => true) (List.replicate 0 0)
          (serve_session_records keys).encrypt [⟨0, ⟨.Meta, 0, [1]⟩⟩] := by simp
  have he := h _ markedAead_opens _ _ wire keys hkeys _ 0 _ (by decide) (by decide) hc
  obtain ⟨later, hfirst, -⟩ := he.head hkeys hc
  have hlen := congrArg List.length (List.append_right_eq_self.1 (List.cons.inj hfirst).1)
  simp only [padded_stream, List.length_append, framed_length, List.length_nil] at hlen
  omega

end CameraStreamer.Secure.SecureUsbBridge
