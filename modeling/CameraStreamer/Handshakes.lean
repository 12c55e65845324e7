import CameraStreamer.KeyAgreement
import CameraStreamer.Lib.Knowledge
import CameraStreamer.Lib.Runs
/-!
# Handshakes over an attacker's wire

Any number of hosts and devices run handshakes in any order, and every byte one
of them reads is the attacker's choice. The messages carry nonces, points,
certificates and signatures only; they are public, and what the attacker cannot
do is what `Symbolic` and `Fair` say: it has no trusted certificate of its own,
no signature that no device gave, and no private key of another party.
-/

namespace CameraStreamer.Secure.Handshakes

open Runs Knowledge

/-- A call of `respond` that returned, and the key it drew. -/
structure Call (E Pkey : Type) where
  environment : E
  client_wire : Bytes
  certificate_path : String
  private_key_path : String
  ephemeral : Pkey
  wire : Bytes
  keys : SessionKeys

/-- Who drew a key for a handshake. -/
inductive Party (E Pkey : Type) where
  | host (handshake : ClientHandshake Pkey)
  | device (call : Call E Pkey)

def Party.key {E Pkey : Type} : Party E Pkey → Pkey
  | .host handshake => handshake.key_
  | .device call => call.ephemeral

/-- A call of `complete` that returned keys. -/
structure Completed (E : Type) where
  environment : E
  /-- The number of the party. -/
  host : Nat
  wire : Bytes
  pinned_certificate : String
  keys : SessionKeys

structure Network (E Pkey : Type) where
  parties : List (Party E Pkey)
  completed : List (Completed E)

def Network.start {E Pkey : Type} : Network E Pkey := ⟨[], []⟩

inductive Action (E : Type) where
  | create (e : E)
  | respond (e : E) (client_wire : Bytes) (certificate_path private_key_path : String)
  | complete (e : E) (host : Nat) (wire : Bytes) (pinned_certificate : String)

section Machine
variable {E Pkey X509 : Type} (C : E → Openssl Pkey X509)

/-- One call of the handshake, with what OpenSSL does then. A call that fails sends nothing. -/
def step (s : Network E Pkey) : Action E → Option (Network E Pkey)
  | .create e =>
    match ClientHandshake.create (C e) with
    | .error _ => some s
    | .ok handshake => some { s with parties := s.parties ++ [.host handshake] }
  | .respond e client_wire certificate_path private_key_path =>
    match (C e).make_p256_key, DeviceHandshake.respond (C e) client_wire certificate_path private_key_path with
    | .ok ephemeral, .ok (wire, keys) =>
      some { s with parties := s.parties ++
        [.device ⟨e, client_wire, certificate_path, private_key_path, ephemeral, wire, keys⟩] }
    | _, _ => some s
  | .complete e host wire pinned_certificate =>
    match s.parties[host]? with
    | some (.host handshake) =>
      match handshake.complete (C e) wire pinned_certificate with
      | .error _ => some s
      | .ok keys => some { s with completed := s.completed ++ [⟨e, host, wire, pinned_certificate, keys⟩] }
    | _ => none

/-- How `call` came to its answer. -/
abbrev Call.By (call : Call E Pkey) (t : Transcript Pkey) : Prop :=
  t.Of (C call.environment) call.client_wire call.certificate_path call.private_key_path call.wire call.keys

/-! ## The symbolic model -/

/-- Certificates, key agreement and key derivation as the attacker finds them.
`honest` are the signing keys of honest devices, `pair` says which public key
belongs to which private key. -/
structure Symbolic (honest : Set Pkey) (pair : Pkey → Pkey → Prop) : Prop where
  trusted : ∀ e hello cert path verification_key, ClientHandshake.presented (C e) hello = .ok cert →
    (C e).verify_against_trust_anchor cert path = .ok () → (C e).X509_get_pubkey cert = some verification_key →
    ∃ signing_key ∈ honest, pair signing_key verification_key
  commutes : ∀ e e' f f' a b P Q secret secret', (C f).public_point a = .ok P → (C f').public_point b = .ok Q →
    agree (C e) a Q = .ok secret → agree (C e') b P = .ok secret' → secret = secret'
  /-- The secret of two key pairs takes one of the private keys. -/
  agreement : ∀ e e' f a b c Q R secret, (C f).public_point b = .ok Q → agree (C e) a Q = .ok secret →
    agree (C e') c R = .ok secret → c = a ∨ c = b
  derivation : ∀ e e' secret n m keys keys', derive_session_keys (C e) secret n m = .ok keys →
    derive_session_keys (C e') secret n m = .ok keys' → keys = keys'
  collision_free : ∀ e e' secret secret' n n' m m' keys, derive_session_keys (C e) secret n m = .ok keys →
    derive_session_keys (C e') secret' n' m' = .ok keys → secret = secret'

/-- No signature that verifies under an honest device's key was made without it:
one of its calls that returned signed the same bytes. -/
def Unforged (honest : Set Pkey) (pair : Pkey → Pkey → Prop) (s : Network E Pkey) (e : E) (signature : Bytes) : Prop :=
  ∀ signing_key verification_key data, signing_key ∈ honest → pair signing_key verification_key →
    (C e).verify verification_key data signature = .ok true →
    ∃ call, .device call ∈ s.parties ∧ ∃ t, call.By C t ∧ t.signing_key = signing_key ∧
      signature_input t.client t.server = data

/-- A key no one has yet; `held` are those that are not drawn in handshakes. -/
def Fresh (held : Set Pkey) (s : Network E Pkey) (key : Pkey) : Prop := key ∉ held ∧ key ∉ s.parties.map Party.key

def Fair (honest : Set Pkey) (pair : Pkey → Pkey → Prop) (held : Set Pkey) (s : Network E Pkey) : Action E → Prop
  | .create e => ∀ key, (C e).make_p256_key = .ok key → Fresh held s key
  | .respond e _ _ _ => ∀ key, (C e).make_p256_key = .ok key → Fresh held s key
  | .complete e _ wire _ =>
    ∀ hello, decode_server_hello wire = .ok hello → Unforged C honest pair s e hello.signature_der

/-! ## What others can compute -/

inductive Value (Pkey : Type) where
  | message (b : Bytes)
  | private_key (key : Pkey)
  | secret (secret : Secret)
  | keys (keys : SessionKeys)

/-- What anyone can do: write any message, agree on a secret with any point, and
derive keys from a secret and any nonces. -/
inductive Public : List (Value Pkey) → Value Pkey → Prop
  | message (b : Bytes) : Public [] (.message b)
  | agree {e key point secret} : Secure.agree (C e) key point = .ok secret →
      Public [.private_key key, .message point.toList] (.secret secret)
  | derive {e secret host_nonce device_nonce keys} :
      derive_session_keys (C e) secret host_nonce device_nonce = .ok keys →
      Public [.secret secret, .message host_nonce.toList, .message device_nonce.toList] (.keys keys)

/-- The private keys of everyone but the parties `i` and `j`. -/
def others (held : Set Pkey) (s : Network E Pkey) (i j : Nat) : Set (Value Pkey) :=
  { v | ∃ key, v = .private_key key ∧
    (key ∈ held ∨ ∃ l party, s.parties[l]? = some party ∧ l ≠ i ∧ l ≠ j ∧ party.key = key) }

/-- Whoever lacks both private keys cannot compute what is derived from their secret. -/
theorem not_computed {honest : Set Pkey} {pair : Pkey → Pkey → Prop} (hC : Symbolic C honest pair)
    {a b : Pkey} {e f g : E} {Q : Point} {secret : Secret} {n m : Nonce} {keys : SessionKeys}
    (hb : (C f).public_point b = .ok Q) (ha : agree (C e) a Q = .ok secret)
    (hk : derive_session_keys (C g) secret n m = .ok keys) {known : Set (Value Pkey)}
    (hknown : ∀ v ∈ known, ∃ key, v = .private_key key ∧ key ≠ a ∧ key ≠ b) :
    ¬ Computes (Public C) known (.keys keys) := by
  -- The values the operations do not leave: no key of the two, not their secret, not these keys.
  let S : Set (Value Pkey) := { v | v ≠ .private_key a ∧ v ≠ .private_key b ∧ v ≠ .secret secret ∧ v ≠ .keys keys }
  have hS : Closed (Public C) S := by
    intro args v ho hargs
    cases ho with
    | message w => simp [S]
    | @agree e' key point sec h =>
      refine ⟨by simp, by simp, fun hv => ?_, by simp⟩
      obtain rfl : sec = secret := Value.secret.inj hv
      obtain ⟨hka, hkb, -⟩ := hargs (.private_key key) (by simp)
      rcases hC.agreement _ _ _ _ _ _ _ _ _ hb ha h with rfl | rfl
      · exact hka rfl
      · exact hkb rfl
    | @derive e' sec n' m' k h =>
      refine ⟨by simp, by simp, by simp, fun hv => ?_⟩
      obtain rfl : k = keys := Value.keys.inj hv
      obtain ⟨-, -, hsec, -⟩ := hargs (.secret sec) (by simp)
      exact hsec (congrArg Value.secret (hC.collision_free _ _ _ _ _ _ _ _ _ h hk))
  intro h
  refine (h.mem_of_closed hS fun v hv => ?_).2.2.2 rfl
  obtain ⟨key, rfl, hka, hkb⟩ := hknown v hv
  exact ⟨fun h => hka (Value.private_key.inj h), fun h => hkb (Value.private_key.inj h), by simp, by simp⟩

/-! ## Every run -/

/-- `call` is the other end of what `handshake` accepted: it held the key of the
certificate, it was given this hello, it drew the nonce and the key that came
back, and it derived the same keys. -/
structure Agrees (pair : Pkey → Pkey → Prop) (c : Completed E) (handshake : ClientHandshake Pkey)
    (hello : ServerHello) (verification_key : Pkey) (call : Call E Pkey) (t : Transcript Pkey) : Prop where
  accepts : Accepts (C c.environment) handshake c.wire c.pinned_certificate hello verification_key c.keys
  answered : call.By C t
  holds : pair t.signing_key verification_key
  ephemeral : t.ephemeral = call.ephemeral
  client : t.client = handshake.hello_
  nonce : t.server.nonce = hello.nonce
  public_key : t.server.public_key = hello.public_key
  keys : call.keys = c.keys

/-- Some device answered `c`. -/
def Answered (pair : Pkey → Pkey → Prop) (s : Network E Pkey) (c : Completed E) (j : Nat) : Prop :=
  ∃ handshake hello verification_key call t, s.parties[c.host]? = some (.host handshake) ∧
    s.parties[j]? = some (.device call) ∧ Agrees C pair c handshake hello verification_key call t

structure Sound (pair : Pkey → Pkey → Prop) (held : Set Pkey) (s : Network E Pkey) : Prop where
  hosts : ∀ handshake, .host handshake ∈ s.parties →
    ∃ e, (C e).public_point handshake.key_ = .ok handshake.hello_.public_key
  devices : ∀ call, .device call ∈ s.parties → (C call.environment).make_p256_key = .ok call.ephemeral
  drawn_once : (s.parties.map Party.key).Nodup
  unheld : ∀ party ∈ s.parties, party.key ∉ held
  completed : ∀ c ∈ s.completed, ∃ j, Answered C pair s c j

theorem Answered.join {pair : Pkey → Pkey → Prop} {s : Network E Pkey} {c : Completed E} {j : Nat}
    (h : Answered C pair s c j) (party : Party E Pkey) (done : List (Completed E)) :
    Answered C pair ⟨s.parties ++ [party], done⟩ c j := by
  obtain ⟨handshake, hello, verification_key, call, t, hi, hj, ha⟩ := h
  refine ⟨handshake, hello, verification_key, call, t, ?_, ?_, ha⟩
  · exact (List.getElem?_append_left (List.getElem?_eq_some_iff.1 hi).1).trans hi
  · exact (List.getElem?_append_left (List.getElem?_eq_some_iff.1 hj).1).trans hj

theorem Sound.join {pair : Pkey → Pkey → Prop} {held : Set Pkey} {s : Network E Pkey} (h : Sound C pair held s)
    {party : Party E Pkey} (hfresh : Fresh held s party.key)
    (hhost : ∀ handshake, party = .host handshake →
      ∃ e, (C e).public_point handshake.key_ = .ok handshake.hello_.public_key)
    (hdevice : ∀ call, party = .device call → (C call.environment).make_p256_key = .ok call.ephemeral) :
    Sound C pair held { s with parties := s.parties ++ [party] } where
  hosts handshake hm := by
    rcases List.mem_append.1 hm with hm | hm
    · exact h.hosts handshake hm
    · exact hhost handshake (List.mem_singleton.1 hm).symm
  devices call hm := by
    rcases List.mem_append.1 hm with hm | hm
    · exact h.devices call hm
    · exact hdevice call (List.mem_singleton.1 hm).symm
  drawn_once := by
    rw [List.map_append, List.nodup_append]
    refine ⟨h.drawn_once, by simp, fun a ha b hb hab => ?_⟩
    obtain rfl : b = party.key := by simpa using hb
    exact hfresh.2 (hab ▸ ha)
  unheld p hp := by
    rcases List.mem_append.1 hp with hp | hp
    · exact h.unheld p hp
    · exact (List.mem_singleton.1 hp) ▸ hfresh.1
  completed c hc := by
    obtain ⟨j, hj⟩ := h.completed c hc
    exact ⟨j, hj.join C party _⟩

section Attacked
variable {honest : Set Pkey} {pair : Pkey → Pkey → Prop} (hC : Symbolic C honest pair)
include hC

/-- The step that carries the result: the signature that a host accepts is on its
own hello and on the nonce and key it received, so the call that gave it agrees. -/
theorem answered {held : Set Pkey} {s : Network E Pkey} (h : Sound C pair held s) {e : E} {i : Nat} {wire : Bytes}
    {pinned_certificate : String} {handshake : ClientHandshake Pkey} {keys : SessionKeys}
    (hi : s.parties[i]? = some (.host handshake))
    (hkeys : handshake.complete (C e) wire pinned_certificate = .ok keys)
    (hfair : Fair C honest pair held s (.complete e i wire pinned_certificate)) :
    ∃ j, Answered C pair s ⟨e, i, wire, pinned_certificate, keys⟩ j := by
  obtain ⟨hello, verification_key, hacc⟩ := (complete_ok (C e)).1 hkeys
  obtain ⟨cert, hpresented, htrusted, hpub⟩ := hacc.trusted
  obtain ⟨signing_key, hhonest, hpair⟩ := hC.trusted _ _ _ _ _ hpresented htrusted hpub
  obtain ⟨call, hcall, t, ht, hsigning, hdata⟩ :=
    hfair hello hacc.decoded signing_key verification_key _ hhonest hpair hacc.verified
  obtain ⟨hclient, hnonce, hpublic⟩ := signature_input_inj hdata
  obtain ⟨j, hj⟩ := List.mem_iff_getElem?.1 hcall
  have heph : t.ephemeral = call.ephemeral := Except.ok.inj (ht.ephemeral.symm.trans (h.devices call hcall))
  obtain ⟨f, hpoint⟩ := h.hosts handshake (List.mem_of_getElem? hi)
  obtain ⟨secret, hagree, hderive⟩ := hacc.keys
  have hagree' := ht.secret
  have hderive' := ht.keys
  have hpoint' := ht.public_key
  rw [hclient] at hagree' hderive'
  rw [hpublic] at hpoint'
  rw [hnonce] at hderive'
  obtain rfl : secret = t.secret := hC.commutes _ _ _ _ _ _ _ _ _ _ hpoint hpoint' hagree hagree'
  exact ⟨j, handshake, hello, verification_key, call, t, hi, hj, hacc, ht, hsigning ▸ hpair, heph, hclient, hnonce,
    hpublic, hC.derivation _ _ _ _ _ _ _ hderive' hderive⟩

theorem Sound.step {held : Set Pkey} {s s' : Network E Pkey} {a : Action E} (h : Sound C pair held s)
    (hfair : Fair C honest pair held s a) (hs : step C s a = some s') : Sound C pair held s' := by
  cases a with
  | create e =>
    simp only [Handshakes.step] at hs
    split at hs
    · cases hs; exact h
    · rename_i handshake hcreate
      cases hs
      obtain ⟨hkey, hpoint⟩ := create_ok (C e) hcreate
      exact h.join C (hfair _ hkey) (fun _ he => ⟨e, by cases he; exact hpoint⟩) (fun _ he => by cases he)
  | respond e client_wire certificate_path private_key_path =>
    simp only [Handshakes.step] at hs
    split at hs
    · rename_i ephemeral wire keys hkey hresp
      cases hs
      exact h.join C (hfair _ hkey) (fun _ he => by cases he) (fun _ he => by cases he; exact hkey)
    · cases hs; exact h
  | complete e i wire pinned_certificate =>
    simp only [Handshakes.step] at hs
    split at hs
    · rename_i handshake hi
      split at hs
      · cases hs; exact h
      · rename_i keys hkeys
        cases hs
        refine ⟨h.hosts, h.devices, h.drawn_once, h.unheld, fun c hc => ?_⟩
        rcases List.mem_append.1 hc with hc | hc
        · exact h.completed c hc
        · rw [List.mem_singleton.1 hc]
          exact answered C hC h hi hkeys hfair
    · cases hs

/-- The keys of a handshake are out of reach of everyone but its two ends. -/
theorem Sound.secret {held : Set Pkey} {s : Network E Pkey} (h : Sound C pair held s) {c : Completed E} {j : Nat}
    (ha : Answered C pair s c j) : ¬ Computes (Public C) (others held s c.host j) (.keys c.keys) := by
  obtain ⟨handshake, hello, verification_key, call, t, hi, hj, ha⟩ := ha
  obtain ⟨secret, hagree, hderive⟩ := ha.accepts.keys
  have hpoint := ha.answered.public_key
  rw [ha.public_key, ha.ephemeral] at hpoint
  refine not_computed C hC hpoint hagree hderive fun v hv => ?_
  -- Two parties with one key would be one party.
  have hone : ∀ (l k : Nat) (p q : Party E Pkey), s.parties[l]? = some p → s.parties[k]? = some q → p.key = q.key →
      l = k := by
    intro l k p q hl hk hkey
    have hlt : l < (s.parties.map Party.key).length := by simpa using (List.getElem?_eq_some_iff.1 hl).1
    refine (List.getElem?_inj hlt h.drawn_once).1 ?_
    rw [List.getElem?_map, List.getElem?_map, hl, hk, Option.map_some, Option.map_some, hkey]
  obtain ⟨key, rfl, hheld | ⟨l, party, hl, hli, hlj, rfl⟩⟩ := hv
  · refine ⟨key, rfl, ?_, ?_⟩
    · rintro rfl; exact h.unheld _ (List.mem_of_getElem? hi) hheld
    · rintro rfl; exact h.unheld _ (List.mem_of_getElem? hj) hheld
  · exact ⟨_, rfl, fun hk => hli (hone _ _ _ _ hl hi hk), fun hk => hlj (hone _ _ _ _ hl hj hk)⟩

/-- In every run, whatever the attacker sent, the keys a host accepts are those of
one call of a device that held the certificate's private key, was given this
host's hello and drew the nonce and key the host received; and no one else can
compute them. What is signed determines all of this. -/
theorem authenticated {held : Set Pkey} {as : List (Action E)} {s : Network E Pkey}
    (hr : Run (step C) .start as s) (hm : Meets (step C) (Fair C honest pair held) .start as) :
    (∀ c ∈ s.completed, ∃ j, Answered C pair s c j ∧
      ¬ Computes (Public C) (others held s c.host j) (.keys c.keys)) ∧
    ∀ client client' server server', signature_input client server = signature_input client' server' →
      client.nonce = client'.nonce ∧ client.public_key = client'.public_key ∧
      server.nonce = server'.nonce ∧ server.public_key = server'.public_key := by
  have hsound : Sound C pair held s :=
    hr.inv_meets (Sound C pair held) ⟨by simp [Network.start], by simp [Network.start], by simp [Network.start],
      by simp [Network.start], by simp [Network.start]⟩ (fun _ _ _ hi hg hs => hi.step C hC hg hs) hm
  refine ⟨fun c hc => ?_, fun client client' server server' h => ?_⟩
  · obtain ⟨j, hj⟩ := hsound.completed c hc
    exact ⟨j, hj, hsound.secret C hC hj⟩
  · obtain ⟨rfl, hnonce, hkey⟩ := signature_input_inj h
    exact ⟨rfl, rfl, hnonce, hkey⟩

end Attacked

end Machine

/-! ## A run to try the model on -/

theorem ordered_mem {a b c d : UInt8} (h : ordered a b = ordered c d) : c = a ∨ c = b := by
  unfold ordered at h
  split at h <;> split at h <;> simp_all

/-- What an agreement of `plainOpenssl` gives is the two keys, in order. -/
theorem plain_agree_keys {n k : UInt8} {point : Point} {secret : Secret}
    (h : agree (plainOpenssl n) k point = .ok secret) :
    secret.toList = ordered k point[1]! ++ .replicate 30 0 := by
  by_cases hp : point[0] = 4
  · obtain ⟨s, hs, hl⟩ := plain_agree n k point hp
    rw [hs, Except.ok.injEq] at h
    rw [← h, hl, getElem!_pos point 1 (by decide)]
  · obtain ⟨peer, hpeer, -⟩ := bind_ok.1 h
    simp [Openssl.peer_key, hp] at hpeer

theorem plain_derive_material {n : UInt8} {secret : Secret} {host_nonce device_nonce : Nonce} {keys : SessionKeys}
    (h : derive_session_keys (plainOpenssl n) secret host_nonce device_nonce = .ok keys) :
    keys.host_key.toList ++ keys.device_key.toList ++ keys.host_iv.toList ++ keys.device_iv.toList =
      secret.toList ++ (host_nonce.toList ++ device_nonce.toList).take 56 := by
  obtain ⟨material, hm, hl⟩ := plain_derive n secret host_nonce device_nonce
  rw [hm] at h
  rw [← Except.ok.inj h, session_keys_tile, hl]

theorem plain_symbolic : Symbolic plainOpenssl {7} Eq where
  trusted e hello cert path verification_key _ ht hp := by
    obtain rfl : cert = verification_key := Option.some.inj hp
    by_cases hc : cert = 7
    · exact ⟨7, rfl, hc.symm⟩
    · simp [Openssl.verify_against_trust_anchor, plainOpenssl, hc] at ht
  commutes e e' f f' a b P Q secret secret' ha hb h h' := by
    obtain rfl := Except.ok.inj ((plain_public_point f a).symm.trans ha)
    obtain rfl := Except.ok.inj ((plain_public_point f' b).symm.trans hb)
    rw [← Vector.toList_inj, plain_agree_keys h, plain_agree_keys h']
    exact congrArg (· ++ _) (ordered_comm a b)
  agreement e e' f a b c Q R secret hb h h' := by
    obtain rfl := Except.ok.inj ((plain_public_point f b).symm.trans hb)
    have hl := (plain_agree_keys h).symm.trans (plain_agree_keys h')
    exact ordered_mem (List.append_cancel_right hl)
  derivation e e' secret n m keys keys' h h' := Except.ok.inj (h.symm.trans h')
  collision_free e e' secret secret' n n' m m' keys h h' := by
    have hl := (plain_derive_material h).symm.trans (plain_derive_material h')
    exact Vector.toList_inj.1 (List.append_inj' hl (by simp)).1

/-- A host with the key 3, a device that draws 5, and an attacker who passes their messages on. -/
theorem authenticated_plain : ∃ as s c j, Run (step plainOpenssl) .start as s ∧ c ∈ s.completed ∧
    Answered plainOpenssl Eq s c j ∧ ¬ Computes (Public plainOpenssl) (others {7} s c.host j) (.keys c.keys) := by
  obtain ⟨wire, keys, hresp⟩ := plain_respond 5 plainHost rfl
  obtain ⟨hcomplete, -⟩ := honest_key_agreement (plainOpenssl 5) _ markedAead_opens (plain_commutes 5) "device.crt"
    "device.key" "device.crt" (plain_certified 5) plainHost rfl wire keys hresp
  let call : Call UInt8 UInt8 := ⟨5, plainHost.client_hello, "device.crt", "device.key", 5, wire, keys⟩
  have h1 : step plainOpenssl .start (.create 3) = some ⟨[.host plainHost], []⟩ := rfl
  have h2 : step plainOpenssl ⟨[.host plainHost], []⟩
      (.respond 5 plainHost.client_hello "device.crt" "device.key") = some ⟨[.host plainHost, .device call], []⟩ := by
    simp only [step, hresp]; rfl
  have h3 : step plainOpenssl ⟨[.host plainHost, .device call], []⟩ (.complete 5 0 wire "device.crt") =
      some ⟨[.host plainHost, .device call], [⟨5, 0, wire, "device.crt", keys⟩]⟩ := by
    simp only [step, List.getElem?_cons_zero, hcomplete]; rfl
  have hr1 := Run.nil.snoc h1
  have hr2 := hr1.snoc h2
  have hr3 := hr2.snoc h3
  obtain ⟨t, ht⟩ := respond_ok (plainOpenssl 5) hresp
  -- The one signature there is was given by the one call there was.
  have hm : Meets (step plainOpenssl) (Fair plainOpenssl {7} Eq {7}) .start
      ([] ++ [.create 3] ++ [.respond 5 plainHost.client_hello "device.crt" "device.key"] ++
        [.complete 5 0 wire "device.crt"]) := by
    refine ((Meets.nil.snoc .nil ?_).snoc hr1 ?_).snoc hr2 ?_
    · intro key hkey
      obtain rfl : 3 = key := Except.ok.inj hkey
      exact ⟨by simp, by simp [Network.start]⟩
    · intro key hkey
      obtain rfl : 5 = key := Except.ok.inj hkey
      exact ⟨by simp, by simp [Party.key, plainHost]⟩
    · intro hello hdecode signing_key verification_key data hhonest hpair hverify
      obtain rfl : t.server = hello := Except.ok.inj ((decode_encode_server_hello ht.encoded).symm.trans hdecode)
      obtain rfl : signing_key = 7 := hhonest
      obtain rfl : 7 = verification_key := hpair
      have hsigning : 7 = t.signing_key := Except.ok.inj ht.signing_key
      have hsigned : t.signing_key :: signature_input t.client t.server = t.server.signature_der :=
        Except.ok.inj ht.signature
      have hverified : t.server.signature_der = 7 :: data := by
        simpa [Openssl.verify, plainOpenssl] using hverify
      refine ⟨call, by simp, t, ht, hsigning.symm, ?_⟩
      exact (List.cons.inj (hsigned.trans hverified)).2
  obtain ⟨hall, -⟩ := authenticated plainOpenssl plain_symbolic hr3 hm
  obtain ⟨j, hj⟩ := hall _ (List.mem_singleton.2 rfl)
  exact ⟨_, _, _, j, hr3, List.mem_singleton.2 rfl, hj⟩

end CameraStreamer.Secure.Handshakes
