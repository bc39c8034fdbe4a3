import Mathlib.Data.UInt

/-!
# Cipher feedback mode

Cipher feedback (CFB) turns the encryption of blocks into a stream cipher: a block of key
stream is the encryption of the ciphertext block before it, the first one that of the
initialization vector. `Cfb.stream` is one pass over the bytes, in both directions;
`Cfb.decrypt_encrypt` says that decryption undoes encryption for every block function,
since both directions feed the same ciphertext back.
-/

namespace Lib

namespace Cfb

variable (E : List UInt8 → List UInt8)

/-- The bytes after exclusive or with the key stream. `next` is the part of the current
ciphertext block seen so far, `out` the key stream left of the block ; a new block of key
stream is made when none is left. -/
def stream (decrypting : Bool) (next out : List UInt8) : List UInt8 → List UInt8
  | [] => []
  | b :: bs =>
    let next' := if out = [] then [] else next
    let out' := if out = [] then E next else out
    let o := b ^^^ out'.headD 0
    o :: stream decrypting (next' ++ [if decrypting then b else o]) out'.tail bs

/-- Encryption from the initialization vector `iv`. -/
def encrypt (iv text : List UInt8) : List UInt8 := stream E false iv [] text

/-- Decryption from the initialization vector `iv`. -/
def decrypt (iv text : List UInt8) : List UInt8 := stream E true iv [] text

theorem stream_stream (next out text : List UInt8) :
    stream E true next out (stream E false next out text) = text := by
  induction text generalizing next out with
  | nil => rfl
  | cons b bs ih =>
    simp only [stream, if_true, Bool.false_eq_true, if_false, ih]
    rw [UInt8.xor_assoc, UInt8.xor_self, UInt8.xor_zero]

/-- What was encrypted is decrypted with the same key. -/
theorem decrypt_encrypt (iv text : List UInt8) : decrypt E iv (encrypt E iv text) = text :=
  stream_stream E iv [] text

@[simp] theorem length_stream (decrypting : Bool) (next out text : List UInt8) :
    (stream E decrypting next out text).length = text.length := by
  induction text generalizing next out with
  | nil => rfl
  | cons b bs ih => simp [stream, ih]

@[simp] theorem length_encrypt (iv text : List UInt8) :
    (encrypt E iv text).length = text.length :=
  length_stream E false iv [] text

@[simp] theorem length_decrypt (iv text : List UInt8) :
    (decrypt E iv text).length = text.length :=
  length_stream E true iv [] text

end Cfb

end Lib
