import Stratos.Lib.Cfb
import Stratos.Jetstream.Datastore

/-!
# Encryption of tokens

A ciphertext is the random initialization vector followed by the token encrypted with AES
in cipher feedback mode. AES itself is a parameter (`Aes`): only its key sizes matter here.
`decryptToken_encryptToken` says that a token encrypted under a key is read back under the
same key.
-/

namespace Stratos

/-- `aes.BlockSize`. -/
def aesBlockSize : ℕ := 16

/-- The encryption of a block under a key. -/
abbrev Aes := Bytes → Bytes → Bytes

/-- An initialization vector : one block. -/
abbrev IV := { iv : Bytes // iv.length = aesBlockSize }

/-- AES has a cipher for keys of this length. -/
def ValidKey (key : Bytes) : Prop := key.length = 16 ∨ key.length = 24 ∨ key.length = 32

instance (key : Bytes) : Decidable (ValidKey key) := inferInstanceAs (Decidable (_ ∨ _ ∨ _))

variable (aes : Aes) (key : Bytes)

/-- `aes.NewCipher`. -/
def newCipher : Except GoError (Bytes → Bytes) :=
  if ValidKey key then .ok (aes key)
  else .error (.new s!"crypto/aes: invalid key size {key.length}")

/-- `crypto.Encrypt`, with what the random reader gives. -/
def encrypt (rand : Except GoError IV) (text : Bytes) : Except GoError Bytes := do
  let block ← newCipher aes key
  let iv ← rand
  return iv.val ++ Lib.Cfb.encrypt block iv text

/-- `crypto.Decrypt`. -/
def decrypt (ciphertext : Bytes) : Except GoError Bytes := do
  let block ← newCipher aes key
  if ciphertext.length < aesBlockSize then
    throw (.new "ciphertext too short")
  else
    return Lib.Cfb.decrypt block (ciphertext.take aesBlockSize) (ciphertext.drop aesBlockSize)

/-- `crypto.EncryptToken`. -/
def encryptToken (rand : Except GoError IV) (t : Bytes) : Except GoError Bytes :=
  (encrypt aes key rand t).mapError (.wrap "Unable to encrypt token: ")

/-- `crypto.DecryptToken`. -/
def decryptToken (t : Bytes) : Except GoError Bytes :=
  (decrypt aes key t).mapError (.wrap "Unable to decrypt token: ")

variable {aes key}

theorem encryptToken_eq (h : ValidKey key) (iv : IV) (t : Bytes) :
    encryptToken aes key (.ok iv) t = .ok (iv.val ++ Lib.Cfb.encrypt (aes key) iv t) := by
  simp [encryptToken, encrypt, newCipher, h]

/-- An encryption that succeeds had a key of valid length and an initialization vector. -/
theorem encryptToken_ok {rand : Except GoError IV} {t c : Bytes}
    (h : encryptToken aes key rand t = .ok c) : ValidKey key ∧ ∃ iv : IV,
      c = iv.val ++ Lib.Cfb.encrypt (aes key) iv t := by
  by_cases hk : ValidKey key
  · cases rand with
    | error e => simp [encryptToken, encrypt, newCipher, hk] at h
    | ok iv =>
      rw [encryptToken_eq hk] at h
      exact ⟨hk, iv, by simpa using h.symm⟩
  · simp [encryptToken, encrypt, newCipher, hk] at h

/-- A token encrypted under a key is read back under the same key. -/
theorem decryptToken_encryptToken {rand : Except GoError IV} {t c : Bytes}
    (h : encryptToken aes key rand t = .ok c) : decryptToken aes key c = .ok t := by
  obtain ⟨hk, iv, rfl⟩ := encryptToken_ok h
  have htake : (iv.val ++ Lib.Cfb.encrypt (aes key) iv t).take aesBlockSize = iv.val :=
    List.take_left' iv.property
  have hdrop : (iv.val ++ Lib.Cfb.encrypt (aes key) iv t).drop aesBlockSize =
      Lib.Cfb.encrypt (aes key) iv t :=
    List.drop_left' iv.property
  have hlen : ¬(iv.val ++ Lib.Cfb.encrypt (aes key) iv t).length < aesBlockSize := by
    simp [iv.property]
  simp only [decryptToken, decrypt, newCipher, hk, if_true, Lib.ok_bind, hlen, if_false, htake,
    hdrop, Lib.Cfb.decrypt_encrypt, Lib.pure_eq_ok, Lib.mapError_ok]

/-- A decryption that succeeds had a key of valid length and a ciphertext that is one block
longer than the token. -/
theorem decryptToken_ok {c t : Bytes} (h : decryptToken aes key c = .ok t) :
    ValidKey key ∧ c.length = aesBlockSize + t.length := by
  by_cases hk : ValidKey key
  · by_cases hlen : c.length < aesBlockSize
    · simp [decryptToken, decrypt, newCipher, hk, hlen] at h
    · simp only [decryptToken, decrypt, newCipher, hk, if_true, Lib.ok_bind, hlen, if_false,
        Lib.pure_eq_ok, Lib.mapError_ok, Except.ok.injEq] at h
      refine ⟨hk, ?_⟩
      rw [← h, Lib.Cfb.length_decrypt, List.length_drop]
      omega
  · simp [decryptToken, decrypt, newCipher, hk] at h

end Stratos
