import Mathlib.Data.List.Basic

/-!
# Base64 without padding

An `Encoding` has a character for each group of six bits. `encode` writes three bytes as four
characters, and two or one at the end as three or two ; `decode` reads them back with any
alphabet that has the characters in the same places (`decode_encode_of_agree`), and fails if one
is no character of the alphabet (`decode_eq_none`).

The two usual alphabets, `std` and `url`, differ in the last two characters. A text that is
encoded with the second is decoded with the first exactly when it has none of these
(`std_decode_url_encode`).
-/

namespace Lib

namespace Base64

/-- A character for each group of six bits. -/
structure Encoding where
  char : Fin 64 → UInt8
  index : UInt8 → Option (Fin 64)
  index_char : ∀ i, index (char i) = some i
  /-- The line breaks, which are left out when a text is decoded, are no characters. -/
  char_ne_break : ∀ i, char i ≠ 0x0a ∧ char i ≠ 0x0d

/-- The characters of the first 62 groups, and those of the last two. -/
def alphabet (c₆₂ c₆₃ : UInt8) (i : Fin 64) : UInt8 :=
  if i < 26 then 0x41 + UInt8.ofNat i
  else if i < 52 then 0x61 + UInt8.ofNat (i - 26)
  else if i < 62 then 0x30 + UInt8.ofNat (i - 52)
  else if i = 62 then c₆₂ else c₆₃

/-- The number that a character stands for. -/
def position (c₆₂ c₆₃ c : UInt8) : Option (Fin 64) :=
  if 0x41 ≤ c ∧ c ≤ 0x5a then some (Fin.ofNat 64 (c.toNat - 0x41))
  else if 0x61 ≤ c ∧ c ≤ 0x7a then some (Fin.ofNat 64 (c.toNat - 0x61 + 26))
  else if 0x30 ≤ c ∧ c ≤ 0x39 then some (Fin.ofNat 64 (c.toNat - 0x30 + 52))
  else if c = c₆₂ then some 62
  else if c = c₆₃ then some 63 else none

/-- The alphabet with `+` and `/`. -/
def std : Encoding where
  char := alphabet 0x2b 0x2f
  index := position 0x2b 0x2f
  index_char := by decide
  char_ne_break := by decide

/-- The alphabet with `-` and `_`. -/
def url : Encoding where
  char := alphabet 0x2d 0x5f
  index := position 0x2d 0x5f
  index_char := by decide
  char_ne_break := by decide

/-- The lowest six bits. -/
def sextet (n : ℕ) : Fin 64 := Fin.ofNat 64 n

/-- The groups of six bits. The last is filled up with zeros. -/
def sextets : List UInt8 → List (Fin 64)
  | [] => []
  | [a] => [sextet (a.toNat / 4), sextet (a.toNat * 16)]
  | [a, b] =>
    [sextet (a.toNat / 4), sextet (a.toNat * 16 + b.toNat / 16), sextet (b.toNat * 4)]
  | a :: b :: c :: bs =>
    sextet (a.toNat / 4) :: sextet (a.toNat * 16 + b.toNat / 16) ::
      sextet (b.toNat * 4 + c.toNat / 64) :: sextet c.toNat :: sextets bs

/-- The bytes of groups of six bits. A single group at the end is too short for a byte. -/
def bytes : List (Fin 64) → Option (List UInt8)
  | [] => some []
  | [_] => none
  | [i, j] => some [UInt8.ofNat (i.val * 4 + j.val / 16)]
  | [i, j, k] =>
    some [UInt8.ofNat (i.val * 4 + j.val / 16), UInt8.ofNat (j.val * 16 + k.val / 4)]
  | i :: j :: k :: l :: s =>
    (bytes s).map fun bs => UInt8.ofNat (i.val * 4 + j.val / 16) ::
      UInt8.ofNat (j.val * 16 + k.val / 4) :: UInt8.ofNat (k.val * 64 + l.val) :: bs

namespace Encoding

variable (e : Encoding)

/-- The text of some bytes, without padding. -/
def encode (bs : List UInt8) : List UInt8 := (sextets bs).map e.char

/-- The bytes of a text, whose line ends are skipped. -/
def decode (text : List UInt8) : Option (List UInt8) :=
  ((text.filter fun c => c ≠ 0x0a ∧ c ≠ 0x0d).mapM e.index).bind bytes

end Encoding

/-! ## Decoding what is encoded -/

theorem ofNat_eq {n : ℕ} {a : UInt8} (h : n % 256 = a.toNat) : UInt8.ofNat n = a := by
  rw [← UInt8.toNat_inj, UInt8.toNat_ofNat', h]

@[simp] theorem val_sextet (n : ℕ) : (sextet n).val = n % 64 :=
  rfl

theorem first_byte (a : UInt8) (n : ℕ) (hn : n < 16) :
    UInt8.ofNat ((sextet (a.toNat / 4)).val * 4 + (sextet (a.toNat * 16 + n)).val / 16) = a := by
  refine ofNat_eq ?_
  have ha := a.toNat_lt
  simp only [val_sextet]
  omega

theorem second_byte (a b : UInt8) (n : ℕ) (hn : n < 4) :
    UInt8.ofNat ((sextet (a.toNat * 16 + b.toNat / 16)).val * 16 +
      (sextet (b.toNat * 4 + n)).val / 4) = b := by
  refine ofNat_eq ?_
  have hb := b.toNat_lt
  simp only [val_sextet]
  omega

theorem third_byte (b c : UInt8) :
    UInt8.ofNat ((sextet (b.toNat * 4 + c.toNat / 64)).val * 64 + (sextet c.toNat).val) = c := by
  refine ofNat_eq ?_
  have hc := c.toNat_lt
  simp only [val_sextet]
  omega

theorem bytes_sextets (bs : List UInt8) : bytes (sextets bs) = some bs := by
  induction bs using sextets.induct with
  | case1 => rfl
  | case2 a =>
    rw [sextets, bytes]
    exact congrArg (fun a => some [a]) (first_byte a 0 (by decide))
  | case3 a b =>
    have hb := b.toNat_lt
    rw [sextets, bytes, first_byte a _ (by omega)]
    exact congrArg (fun b => some [a, b]) (second_byte a b 0 (by decide))
  | case4 a b c bs ih =>
    have hb := b.toNat_lt
    have hc := c.toNat_lt
    rw [sextets, bytes, ih, first_byte a _ (by omega), second_byte a b _ (by omega),
      third_byte b c]
    rfl

section Decode

variable {e e' : Encoding} {bs text : List UInt8}

theorem filter_encode (e : Encoding) (bs : List UInt8) :
    (e.encode bs).filter (fun c => c ≠ 0x0a ∧ c ≠ 0x0d) = e.encode bs := by
  refine List.filter_eq_self.2 fun c hc => ?_
  obtain ⟨i, -, rfl⟩ := List.mem_map.1 hc
  simpa using e.char_ne_break i

/-- A text is decoded with any alphabet that has its characters in the same places. -/
theorem decode_encode_of_agree (h : ∀ i ∈ sextets bs, e'.index (e.char i) = some i) :
    e'.decode (e.encode bs) = some bs := by
  rw [Encoding.decode, filter_encode, Encoding.encode, List.mapM_map]
  have hindex : (sextets bs).mapM (e'.index ∘ e.char) = some (sextets bs) := by
    generalize sextets bs = s at h
    induction s with
    | nil => rfl
    | cons i s ih =>
      obtain ⟨hi, h⟩ := List.forall_mem_cons.1 h
      simp [List.mapM_cons, hi, ih h]
  rw [hindex]
  exact bytes_sextets bs

/-- A character that is not of the alphabet fails the whole text. -/
theorem decode_eq_none {c : UInt8} (hc : c ∈ text) (hindex : e.index c = none)
    (hbreak : c ≠ 0x0a ∧ c ≠ 0x0d) : e.decode text = none := by
  have hmapM : ∀ s : List UInt8, c ∈ s → s.mapM e.index = none := by
    intro s hs
    induction s with
    | nil => simp at hs
    | cons d s ih =>
      rcases List.mem_cons.1 hs with rfl | hs
      · simp [List.mapM_cons, hindex]
      · simp [List.mapM_cons, ih hs]
  rw [Encoding.decode, hmapM _ (List.mem_filter.2 ⟨hc, by simpa using hbreak⟩)]
  rfl

end Decode

/-! ## The two alphabets -/

theorem std_index_url_char : ∀ i : Fin 64, i < 62 → std.index (url.char i) = some i := by
  decide

theorem lt_of_url_char : ∀ i : Fin 64, url.char i ≠ 0x2d → url.char i ≠ 0x5f → i < 62 := by
  decide

/-- The standard alphabet reads a text of the other one if it has neither `-` nor `_`. -/
theorem std_decode_url_encode (bs : List UInt8) :
    (std.decode (url.encode bs) = some bs ∧ 0x2d ∉ url.encode bs ∧ 0x5f ∉ url.encode bs) ∨
      (std.decode (url.encode bs) = none ∧ ¬(0x2d ∉ url.encode bs ∧ 0x5f ∉ url.encode bs)) := by
  by_cases h : 0x2d ∉ url.encode bs ∧ 0x5f ∉ url.encode bs
  · refine Or.inl ⟨decode_encode_of_agree fun i hi => ?_, h⟩
    have hmem : url.char i ∈ url.encode bs := List.mem_map_of_mem hi
    refine std_index_url_char i (lt_of_url_char i ?_ ?_)
    · intro heq
      exact h.1 (heq ▸ hmem)
    · intro heq
      exact h.2 (heq ▸ hmem)
  · refine Or.inr ⟨?_, h⟩
    rcases not_and_or.1 h with h | h
    · exact decode_eq_none (not_not.1 h) (by decide) (by decide)
    · exact decode_eq_none (not_not.1 h) (by decide) (by decide)

end Base64

end Lib
