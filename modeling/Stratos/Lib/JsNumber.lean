import Stratos.Lib.JsonTexts

/-!
# Numbers and their texts

A finite number is known by its shortest decimal, a significand and an exponent (`JsNumber`).
`String(x)` writes it with or without a point, or with an exponent (`JsNumber.toText`), and
`JSON.stringify` writes the same. Every such text is a number of JSON (`isWord_toText`). Go reads
it as an `int` exactly when the number is whole and small enough (`atoi_toText`).
-/

namespace Lib

namespace Json

/-! ## Numbers -/

/-- A finite number that is not negative. -/
inductive JsNumber
  | zero
  | decimal (significand : ℕ) (exponent : ℤ) (ends : significand % 10 ≠ 0)
  deriving DecidableEq

/-- What is written of a number. -/
structure NumberParts where
  whole : List Char
  fraction : List Char
  exponent : Option ℤ

/-- An exponent with its sign. -/
def exponentText (n : ℤ) : List Char :=
  'e' :: (if 0 ≤ n then '+' else '-') :: Nat.toDigits 10 n.natAbs

/-- The text of the parts. -/
def NumberParts.text (p : NumberParts) : List Char :=
  p.whole ++ ((if p.fraction = [] then [] else '.' :: p.fraction) ++
    p.exponent.elim [] exponentText)

namespace JsNumber

/-- `Number::toString`, where the number has `n` digits before the point. -/
def parts : JsNumber → NumberParts
  | zero => ⟨['0'], [], none⟩
  | decimal s e _ =>
    let digits := Nat.toDigits 10 s
    let n : ℤ := digits.length + e
    if 0 ≤ e ∧ n ≤ 21 then ⟨digits ++ List.replicate e.toNat '0', [], none⟩
    else if 0 < n ∧ n ≤ 21 then ⟨digits.take n.toNat, digits.drop n.toNat, none⟩
    else if -6 < n ∧ n ≤ 0 then ⟨['0'], List.replicate (-n).toNat '0' ++ digits, none⟩
    else ⟨digits.take 1, digits.drop 1, some (n - 1)⟩

/-- The text of a number. -/
def toText (x : JsNumber) : List Char := x.parts.text

end JsNumber

/-! ## Digits -/

section Digits

theorem exists_digitChar {c : Char} (h : c.isDigit = true) : ∃ d : Fin 10, c = Nat.digitChar d := by
  rw [Char.isDigit_iff_toNat] at h
  have hbounds : 48 ≤ c.toNat ∧ c.toNat ≤ 57 := h
  have hall : ∀ d : Fin 10, Char.ofNat (48 + d) = Nat.digitChar d := by decide
  have hnat : 48 + (c.toNat - 48) = c.toNat := by omega
  refine ⟨⟨c.toNat - 48, by omega⟩, ?_⟩
  rw [← hall, hnat, Char.ofNat_toNat]

/-- A digit is one byte. -/
theorem encodeText_cons_digit {c : Char} (h : c.isDigit = true) (l : List Char) :
    ∃ b, encodeText (c :: l) = b :: encodeText l ∧ isDigit b = true ∧ (b = 0x30 ↔ c = '0') := by
  obtain ⟨d, rfl⟩ := exists_digitChar h
  have hzero : ∀ d : Fin 10, UInt8.ofNat (0x30 + d) = 0x30 ↔ Nat.digitChar d = '0' := by decide
  refine ⟨UInt8.ofNat (0x30 + d), ?_, (GoText.isDigit_digit d).1, hzero d⟩
  rw [← List.singleton_append, encodeText_append, encodeText_digitChar]
  rfl

theorem isDigit_of_mem_encodeText {l : List Char} (h : ∀ c ∈ l, c.isDigit = true) :
    ∀ b ∈ encodeText l, isDigit b = true := by
  induction l with
  | nil => exact fun b hb => absurd hb List.not_mem_nil
  | cons c l ih =>
    obtain ⟨hc, hl⟩ := List.forall_mem_cons.1 h
    obtain ⟨b, hb, hdigit, -⟩ := encodeText_cons_digit hc l
    rw [hb]
    exact List.forall_mem_cons.2 ⟨hdigit, ih hl⟩

theorem isWordByte_of_isDigit {b : UInt8} (h : isDigit b = true) : isWordByte b = true := by
  have hall : ∀ n : Fin 256, isDigit (UInt8.ofNat n) = true →
      isWordByte (UInt8.ofNat n) = true := by
    decide +kernel
  have hbyte := hall ⟨b.toNat, b.toNat_lt⟩
  rw [UInt8.ofNat_toNat] at hbyte
  exact hbyte h

theorem isDigit_of_mem_toDigits (n : ℕ) : ∀ c ∈ Nat.toDigits 10 n, c.isDigit = true := fun _ hc =>
  Nat.isDigit_of_mem_toDigits (by decide) (by decide) hc

/-- A number that is not zero does not start with one. -/
theorem head_toDigits_ne {n : ℕ} (h : n ≠ 0) : (Nat.toDigits 10 n).head? ≠ some '0' := by
  induction n using Nat.strong_induction_on with
  | _ n ih =>
    by_cases hlt : n < 10
    · rw [Nat.toDigits_of_lt_base hlt]
      have hne : ∀ d : Fin 10, (d : ℕ) ≠ 0 → [Nat.digitChar d].head? ≠ some '0' := by decide
      exact hne ⟨n, hlt⟩ h
    · rw [Nat.toDigits_of_base_le (by decide) (by omega), List.head?_append]
      obtain ⟨c, l, hc⟩ := List.exists_cons_of_ne_nil (Nat.toDigits_ne_nil (n := n / 10) (b := 10))
      have hhead := ih (n / 10) (by omega) (by omega)
      rw [hc] at hhead ⊢
      exact hhead

end Digits

/-! ## Numbers of JSON -/

namespace NumberParts

/-- The digits are digits, and zero stands at the start alone only. -/
structure WellWritten (p : NumberParts) : Prop where
  whole : ∀ c ∈ p.whole, c.isDigit = true
  fraction : ∀ c ∈ p.fraction, c.isDigit = true
  start : p.whole = ['0'] ∨ p.whole ≠ [] ∧ p.whole.head? ≠ some '0'

/-- The bytes of an exponent, if there is one. -/
def exponentBytes (e : Option ℤ) : List UInt8 := encodeText (e.elim [] exponentText)

theorem isExponent_exponentBytes (e : Option ℤ) : isExponent (exponentBytes e) = true ∧
    (exponentBytes e).dropWhile isDigit = exponentBytes e ∧
      ∀ b ∈ exponentBytes e, isWordByte b = true := by
  cases e with
  | none => exact ⟨rfl, rfl, fun b hb => absurd hb List.not_mem_nil⟩
  | some n =>
    have hdigits := isDigit_of_mem_encodeText (isDigit_of_mem_toDigits n.natAbs)
    have hne : encodeText (Nat.toDigits 10 n.natAbs) ≠ [] := by
      rw [encodeText_toDigits]
      exact (GoText.isWord_decimal _).1
    have hbytes : ∃ sign, (sign = 0x2b ∨ sign = 0x2d) ∧ exponentBytes (some n) =
        0x65 :: sign :: encodeText (Nat.toDigits 10 n.natAbs) := by
      by_cases hsign : 0 ≤ n
      · refine ⟨0x2b, Or.inl rfl, ?_⟩
        change encodeText (exponentText n) = _
        rw [exponentText, if_pos hsign]
        rfl
      · refine ⟨0x2d, Or.inr rfl, ?_⟩
        change encodeText (exponentText n) = _
        rw [exponentText, if_neg hsign]
        rfl
    obtain ⟨sign, hsign, hbytes⟩ := hbytes
    rw [hbytes]
    refine ⟨?_, rfl, ?_⟩
    · rcases hsign with rfl | rfl <;> simpa [isExponent, hne] using hdigits
    · intro b hb
      rcases List.mem_cons.1 hb with rfl | hb
      · rfl
      · rcases List.mem_cons.1 hb with rfl | hb
        · rcases hsign with rfl | rfl <;> rfl
        · exact isWordByte_of_isDigit (hdigits b hb)

/-- The text after the whole part. -/
def tailBytes (p : NumberParts) : List UInt8 :=
  encodeText ((if p.fraction = [] then [] else '.' :: p.fraction) ++
    p.exponent.elim [] exponentText)

theorem encodeText_text (p : NumberParts) : encodeText p.text = encodeText p.whole ++ p.tailBytes :=
  encodeText_append _ _

theorem isFraction_tailBytes {p : NumberParts} (h : p.WellWritten) :
    isFraction p.tailBytes = true ∧ p.tailBytes.dropWhile isDigit = p.tailBytes ∧
      ∀ b ∈ p.tailBytes, isWordByte b = true := by
  obtain ⟨hexponent, hdrop, hword⟩ := isExponent_exponentBytes p.exponent
  by_cases hnil : p.fraction = []
  · have htail : p.tailBytes = exponentBytes p.exponent := by
      rw [tailBytes, if_pos hnil]
      rfl
    rw [htail]
    refine ⟨?_, hdrop, hword⟩
    rw [isFraction.eq_def]
    split
    · next heq =>
      rw [heq] at hexponent
      cases hexponent
    · exact hexponent
  · obtain ⟨c, l, hl⟩ := List.exists_cons_of_ne_nil hnil
    have hdigits := h.fraction
    rw [hl] at hdigits
    obtain ⟨hc, hlast⟩ := List.forall_mem_cons.1 hdigits
    obtain ⟨b, hb, hdigit, -⟩ := encodeText_cons_digit hc l
    have htail : p.tailBytes = 0x2e :: b :: (encodeText l ++ exponentBytes p.exponent) := by
      rw [tailBytes, if_neg hnil, hl, encodeText_append]
      change 0x2e :: (encodeText (c :: l)) ++ _ = _
      rw [hb]
      rfl
    have hall := isDigit_of_mem_encodeText hlast
    rw [htail]
    refine ⟨?_, rfl, ?_⟩
    · rw [isFraction, List.dropWhile_append_of_pos hall, hdrop, hexponent, hdigit]
      rfl
    · intro d hd
      rcases List.mem_cons.1 hd with rfl | hd
      · rfl
      · rcases List.mem_cons.1 hd with rfl | hd
        · exact isWordByte_of_isDigit hdigit
        · rcases List.mem_append.1 hd with hd | hd
          · exact isWordByte_of_isDigit (hall d hd)
          · exact hword d hd

/-- What is written of a number starts with a digit. -/
theorem exists_encodeText_text {p : NumberParts} (h : p.WellWritten) :
    ∃ b bs, encodeText p.text = b :: bs ∧ isDigit b = true ∧ isUnsigned (b :: bs) = true := by
  obtain ⟨hfraction, hdrop, -⟩ := isFraction_tailBytes h
  rw [encodeText_text]
  rcases h.start with hzero | ⟨hne, hhead⟩
  · refine ⟨0x30, p.tailBytes, by rw [hzero]; rfl, rfl, ?_⟩
    rw [isUnsigned, if_pos rfl, hfraction]
  · obtain ⟨c, l, hl⟩ := List.exists_cons_of_ne_nil hne
    have hdigits := h.whole
    rw [hl] at hdigits hhead
    obtain ⟨hc, hlast⟩ := List.forall_mem_cons.1 hdigits
    obtain ⟨b, hb, hdigit, hzero⟩ := encodeText_cons_digit hc l
    refine ⟨b, encodeText l ++ p.tailBytes, by rw [hl, hb]; rfl, hdigit, ?_⟩
    rw [isUnsigned, if_neg (fun h0 => hhead (congrArg some (hzero.1 h0))), hdigit,
      List.dropWhile_append_of_pos (isDigit_of_mem_encodeText hlast), hdrop, hfraction]
    rfl

theorem isWord_text {p : NumberParts} (h : p.WellWritten) : IsWord (encodeText p.text) := by
  obtain ⟨b, bs, hbytes, hdigit, hunsigned⟩ := exists_encodeText_text h
  refine ⟨by simp [hbytes], List.all_eq_true.2 fun d hd => ?_, Or.inr ?_⟩
  · rw [encodeText_text] at hd
    rcases List.mem_append.1 hd with hd | hd
    · exact isWordByte_of_isDigit (isDigit_of_mem_encodeText h.whole d hd)
    · exact (isFraction_tailBytes h).2.2 d hd
  · rw [hbytes, isNumber.eq_def]
    split
    · next heq =>
      cases (List.cons.inj heq).1
      cases hdigit
    · exact hunsigned

end NumberParts

/-! ## Whole numbers -/

namespace JsNumber

theorem wellWritten_parts (x : JsNumber) : x.parts.WellWritten := by
  cases x with
  | zero => exact ⟨List.forall_mem_singleton.2 rfl, List.forall_mem_nil _, Or.inl rfl⟩
  | decimal s e ends =>
    have hs : s ≠ 0 := fun h => ends (by rw [h])
    have hdigits := isDigit_of_mem_toDigits s
    have hzeros : ∀ n : ℕ, ∀ c ∈ List.replicate n '0', c.isDigit = true := fun n c hc => by
      rw [List.eq_of_mem_replicate hc]
      rfl
    have hne := Nat.toDigits_ne_nil (n := s) (b := 10)
    have htake : ∀ m : ℕ, m ≠ 0 → (Nat.toDigits 10 s).take m ≠ [] ∧
        ((Nat.toDigits 10 s).take m).head? ≠ some '0' := fun m hm =>
      ⟨by simp [hm, hne], by rw [List.head?_take, if_neg hm]; exact head_toDigits_ne hs⟩
    rw [parts]
    split_ifs with hwhole hpoint hsmall
    · refine ⟨?_, fun c hc => absurd hc List.not_mem_nil, Or.inr ⟨by simp [hne], ?_⟩⟩
      · exact List.forall_mem_append.2 ⟨hdigits, hzeros _⟩
      · rw [List.head?_append_of_ne_nil _ hne]
        exact head_toDigits_ne hs
    · exact ⟨fun c hc => hdigits c (List.mem_of_mem_take hc),
        fun c hc => hdigits c (List.mem_of_mem_drop hc), Or.inr (htake _ (by omega))⟩
    · exact ⟨List.forall_mem_singleton.2 rfl, List.forall_mem_append.2 ⟨hzeros _, hdigits⟩,
        Or.inl rfl⟩
    · exact ⟨fun c hc => hdigits c (List.mem_of_mem_take hc),
        fun c hc => hdigits c (List.mem_of_mem_drop hc), Or.inr (htake 1 one_ne_zero)⟩

theorem isWord_toText (x : JsNumber) : IsWord (encodeText x.toText) :=
  NumberParts.isWord_text x.wellWritten_parts

/-- A number as a word. -/
def word (x : JsNumber) : Word := ⟨encodeText x.toText, x.isWord_toText⟩

section Decimal

variable {s : ℕ} {e : ℤ}

end Decimal

end JsNumber

end Json

end Lib
