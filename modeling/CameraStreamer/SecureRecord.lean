import CameraStreamer.Lib.Bytes
/-!
# The record layer

`SecureRecord` seals and opens single records under one key, with a nonce that
is an implicit counter on both sides. ChaCha20-Poly1305 itself is OpenSSL's: an
`Aead` is what the code calls there, and an `Evp` says whether those calls
succeed.
-/

namespace CameraStreamer.Secure

open BigEndian

/-- `std::array<uint8_t, 32>` -/
abbrev Key := Vector UInt8 32

/-- `std::array<uint8_t, 12>`: the iv, and every nonce made from it. -/
abbrev Iv := Vector UInt8 12

def kTagLength : Nat := 16
def kMaxPlaintext : Nat := 64 * 1024
/-- `std::numeric_limits<int>::max()` -/
def kIntMax : Nat := 2 ^ 31 - 1

/-- The cipher behind the `EVP_` calls. The lengths are those of the buffers the
code hands to it. `decrypt` is `none` where the tag does not verify. -/
structure Aead where
  encrypt : Key → Iv → Bytes → Bytes
  decrypt : Key → Iv → Bytes → Option Bytes
  encrypt_length : ∀ k n p, (encrypt k n p).length = p.length + kTagLength
  decrypt_length : ∀ k n c p, decrypt k n c = some p → p.length = c.length - kTagLength

/-- What was sealed opens again under the same key and nonce. -/
def Aead.Opens (A : Aead) : Prop := ∀ k n p, A.decrypt k n (A.encrypt k n p) = some p

/-- Nothing opens under `key` but what was sealed under it: `sealed` lists the
nonces and plaintexts. -/
def Aead.Ideal (A : Aead) (key : Key) (sealed : List (Iv × Bytes)) : Prop :=
  ∀ n c p, A.decrypt key n c = some p → (n, p) ∈ sealed ∧ c = A.encrypt key n p

/-- How far the OpenSSL calls of one `seal` or `open` get. -/
inductive Evp where
  | ok
  | context_fails
  | update_fails
  | final_fails
  deriving DecidableEq, Repr

def openssl_error (operation : String) : String := operation ++ " failed"

/-- `SecureRecord`: `sequence_` counts the nonces used. -/
structure SecureRecord where
  key_ : Key
  iv_ : Iv
  sequence_ : UInt64

/-- `SecureRecord(Key key, Iv iv)` -/
def SecureRecord.new (key : Key) (iv : Iv) : SecureRecord := ⟨key, iv, 0⟩

/-- The iv with the counter xored into bytes 4 to 11, most significant byte first. -/
def nonce_at (iv : Iv) (sequence : UInt64) : Iv :=
  Vector.ofFn fun j => if 4 ≤ j.val then iv[j] ^^^ be64_byte sequence (j.val - 4) else iv[j]

def SecureRecord.next_nonce (r : SecureRecord) : Iv × SecureRecord :=
  (nonce_at r.iv_ r.sequence_, { r with sequence_ := r.sequence_ + 1 })

def SecureRecord.seal (A : Aead) (evp : Evp) (r : SecureRecord) (plaintext : Bytes) :
    Except String Bytes × SecureRecord :=
  if kMaxPlaintext < plaintext.length ∨ kIntMax < plaintext.length then (.error "secure record too large", r)
  else
    match evp with
    | .context_fails => (.error (openssl_error "EVP_CIPHER_CTX_new"), r)
    | .update_fails => (.error (openssl_error "ChaCha20-Poly1305 encrypt"), r.next_nonce.2)
    | .final_fails => (.error (openssl_error "ChaCha20-Poly1305 finalize"), r.next_nonce.2)
    | .ok => (.ok (A.encrypt r.key_ r.next_nonce.1 plaintext), r.next_nonce.2)

def SecureRecord.open (A : Aead) (evp : Evp) (r : SecureRecord) (ciphertext_and_tag : Bytes) :
    Except String Bytes × SecureRecord :=
  let length := ciphertext_and_tag.length
  if length < kTagLength ∨ kMaxPlaintext < length - kTagLength ∨ kIntMax < length then
    (.error "invalid secure record length", r)
  else
    match evp with
    | .context_fails => (.error (openssl_error "EVP_CIPHER_CTX_new"), r)
    | .update_fails => (.error (openssl_error "ChaCha20-Poly1305 decrypt"), r.next_nonce.2)
    | .final_fails => (.error "secure record authentication failed", r.next_nonce.2)
    | .ok =>
      match A.decrypt r.key_ r.next_nonce.1 ciphertext_and_tag with
      | none => (.error "secure record authentication failed", r.next_nonce.2)
      | some plaintext => (.ok plaintext, r.next_nonce.2)

/-! ## Nonces -/

/-- The record after `n` nonces. -/
def SecureRecord.skip (r : SecureRecord) (n : Nat) : SecureRecord :=
  { r with sequence_ := r.sequence_ + UInt64.ofNat n }

@[simp] theorem SecureRecord.skip_zero (r : SecureRecord) : r.skip 0 = r := by simp [skip]

theorem SecureRecord.skip_succ (r : SecureRecord) (n : Nat) : r.skip (n + 1) = (r.next_nonce.2).skip n := by
  simp only [skip, next_nonce, SecureRecord.mk.injEq, true_and, UInt64.ofNat_add]
  rw [UInt64.add_assoc, UInt64.add_comm (UInt64.ofNat n)]
  rfl

theorem SecureRecord.skip_next (r : SecureRecord) (n : Nat) : (r.skip n).next_nonce.2 = r.skip (n + 1) := by
  simp only [skip, next_nonce, SecureRecord.mk.injEq, true_and, UInt64.ofNat_add, UInt64.add_assoc]
  rfl

@[simp] theorem SecureRecord.skip_key (r : SecureRecord) (n : Nat) : (r.skip n).key_ = r.key_ := rfl

/-- The nonce a fresh record uses after `n` others. -/
theorem SecureRecord.skip_nonce (key : Key) (iv : Iv) (n : Nat) :
    ((SecureRecord.new key iv).skip n).next_nonce.1 = nonce_at iv (UInt64.ofNat n) := by
  simp [skip, next_nonce, SecureRecord.new]

/-- Two counters give two nonces, whatever the iv. -/
theorem nonce_at_inj (iv : Iv) (m n : UInt64) (h : nonce_at iv m = nonce_at iv n) : m = n := by
  apply be64_byte_inj
  intro i hi
  have hi' : i + 4 < 12 := by omega
  have hb := congrArg (fun v : Iv => v[i + 4]) h
  simpa [nonce_at] using hb

/-- The first `2 ^ 64` nonces under one iv are pairwise distinct. -/
theorem nonce_at_ofNat_inj (iv : Iv) (m n : Nat) (hm : m < 2 ^ 64) (hn : n < 2 ^ 64)
    (h : nonce_at iv (UInt64.ofNat m) = nonce_at iv (UInt64.ofNat n)) : m = n := by
  have hmn := congrArg UInt64.toNat (nonce_at_inj iv _ _ h)
  rw [UInt64.toNat_ofNat_of_lt' (by simpa using hm), UInt64.toNat_ofNat_of_lt' (by simpa using hn)] at hmn
  exact hmn

/-! ## One record -/

theorem SecureRecord.seal_ok (A : Aead) (r : SecureRecord) (p : Bytes) (h : p.length ≤ kMaxPlaintext) :
    r.seal A .ok p = (.ok (A.encrypt r.key_ r.next_nonce.1 p), r.next_nonce.2) := by
  have : ¬(kMaxPlaintext < p.length ∨ kIntMax < p.length) := by
    simp only [kMaxPlaintext, kIntMax] at h ⊢; omega
  rw [SecureRecord.seal, if_neg this]

theorem SecureRecord.open_encrypt (A : Aead) (r : SecureRecord) (p : Bytes)
    (hA : A.decrypt r.key_ r.next_nonce.1 (A.encrypt r.key_ r.next_nonce.1 p) = some p)
    (h : p.length ≤ kMaxPlaintext) :
    r.open A .ok (A.encrypt r.key_ r.next_nonce.1 p) = (.ok p, r.next_nonce.2) := by
  have hl := A.encrypt_length r.key_ r.next_nonce.1 p
  unfold SecureRecord.open
  simp only [hl, hA]
  rw [if_neg]
  simp only [kMaxPlaintext, kTagLength, kIntMax] at h ⊢; omega

/-- A record of an acceptable length uses up a nonce, opened or not. -/
theorem SecureRecord.open_state (A : Aead) (r : SecureRecord) (c : Bytes) (h1 : kTagLength ≤ c.length)
    (h2 : c.length - kTagLength ≤ kMaxPlaintext) : (r.open A .ok c).2 = r.next_nonce.2 := by
  have : ¬(c.length < kTagLength ∨ kMaxPlaintext < c.length - kTagLength ∨ kIntMax < c.length) := by
    simp only [kTagLength, kMaxPlaintext, kIntMax] at h1 h2 ⊢; omega
  unfold SecureRecord.open
  simp only [this, if_false]
  cases A.decrypt r.key_ r.next_nonce.1 c with
  | none => rfl
  | some p => rfl

/-- What a successful `open` returns was decrypted under the next nonce. -/
theorem SecureRecord.open_ok {A : Aead} {evp : Evp} {r r' : SecureRecord} {c p : Bytes}
    (h : r.open A evp c = (.ok p, r')) :
    A.decrypt r.key_ r.next_nonce.1 c = some p ∧ r' = r.next_nonce.2 := by
  unfold SecureRecord.open at h
  dsimp only at h
  split at h
  · cases h
  · cases evp <;> simp only [Prod.mk.injEq, reduceCtorEq, false_and] at h
    cases hd : A.decrypt r.key_ r.next_nonce.1 c with
    | none => rw [hd] at h; cases h
    | some q => rw [hd] at h; cases h; exact ⟨rfl, rfl⟩

/-! ## A cipher to try the model on -/

/-- The key and nonce in place of a tag. -/
def mark (k : Key) (n : Iv) : Bytes := k.toList.take 4 ++ n.toList

theorem mark_length (k : Key) (n : Iv) : (mark k n).length = kTagLength := by
  simp [mark, kTagLength]

/-- The plaintext and its `mark`. It opens only what `accepts` lets through, so
that it can also stand for a cipher under which nothing else was sealed. -/
def markedAead (accepts : Key → Iv → Bytes → Bool) : Aead where
  encrypt k n p := p ++ mark k n
  decrypt k n c :=
    let p := c.take (c.length - kTagLength)
    if c = p ++ mark k n ∧ accepts k n p then some p else none
  encrypt_length k n p := by rw [List.length_append, mark_length]
  decrypt_length k n c p h := by
    dsimp only at h
    split at h
    · cases h
      exact List.length_take_of_le (by omega)
    · cases h

theorem marked_decrypt (accepts : Key → Iv → Bytes → Bool) (k : Key) (n : Iv) (p : Bytes) (h : accepts k n p) :
    (markedAead accepts).decrypt k n (p ++ mark k n) = some p := by
  have ht : (p ++ mark k n).take ((p ++ mark k n).length - kTagLength) = p := by
    rw [List.length_append, mark_length, Nat.add_sub_cancel, List.take_left]
  simp only [markedAead, ht, h, and_self, if_true]

/-- A cipher that opens only what was sealed. -/
theorem markedAead_ideal (key : Key) (sealed : List (Iv × Bytes)) :
    (markedAead fun _ n p => decide ((n, p) ∈ sealed)).Ideal key sealed := by
  intro n c p h
  simp only [markedAead, decide_eq_true_eq] at h
  split at h
  · rename_i hc
    cases h
    exact ⟨hc.2, hc.1⟩
  · cases h

theorem markedAead_opens : (markedAead fun _ _ _ => true).Opens := fun k n p => marked_decrypt _ k n p rfl

end CameraStreamer.Secure
