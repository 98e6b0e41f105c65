import TemplateLanguage.Proofs.Decimal.Spelling

/-!
# Reading decimals

A text in positional notation is read without loss if its digits fit a decimal.  If
the digits before the point do not, it cannot be read at all.
-/

namespace TemplateLanguage.Decimal

theorem digit?_of_isDigit {char : Char} (isDigit : char.isDigit = true) :
    digit? char = some (char.toNat - '0'.toNat) :=
  if_pos isDigit

theorem ofDigitChars_ge (digits : List Char) (start : ℕ) :
    start ≤ Nat.ofDigitChars 10 digits start := by
  rw [Nat.ofDigitChars_eq_ofDigitChars_zero]
  calc start = 1 * start := (Nat.one_mul start).symm
    _ ≤ 10 ^ digits.length * start := Nat.mul_le_mul_right _ (Nat.pow_pos (by decide))
    _ ≤ _ := Nat.le_add_right _ _

section

variable {digits rest : List Char}

/-- One digit before the point. -/
theorem readWhole?_cons {char : Char} (isDigit : char.isDigit = true) (mantissa : ℕ) :
    readWhole? mantissa (char :: rest) =
      if 10 * mantissa + (char.toNat - '0'.toNat) < mantissaLimit then
        readWhole? (10 * mantissa + (char.toNat - '0'.toNat)) rest
      else none := by
  rw [readWhole?, digit?_of_isDigit isDigit]
  · rfl
  · rintro rfl
    cases isDigit

theorem readWhole?_append (allDigits : ∀ char ∈ digits, char.isDigit = true) {mantissa : ℕ}
    (fits : Nat.ofDigitChars 10 digits mantissa < mantissaLimit) :
    readWhole? mantissa (digits ++ rest) =
      readWhole? (Nat.ofDigitChars 10 digits mantissa) rest := by
  induction digits generalizing mantissa with
  | nil => rfl
  | cons char others ih =>
      rw [Nat.ofDigitChars_cons] at fits ⊢
      rw [List.cons_append, readWhole?_cons (allDigits char List.mem_cons_self),
        if_pos ((ofDigitChars_ge others _).trans_lt fits),
        ih (fun other member => allDigits other (List.mem_cons_of_mem char member)) fits]

theorem readWhole?_append_eq_none (allDigits : ∀ char ∈ digits, char.isDigit = true)
    {mantissa : ℕ} (start : mantissa < mantissaLimit)
    (large : mantissaLimit ≤ Nat.ofDigitChars 10 digits mantissa) :
    readWhole? mantissa (digits ++ rest) = none := by
  induction digits generalizing mantissa with
  | nil => exact absurd start (Nat.not_lt.mpr large)
  | cons char others ih =>
      rw [Nat.ofDigitChars_cons] at large
      rw [List.cons_append, readWhole?_cons (allDigits char List.mem_cons_self)]
      split
      · rename_i fits
        exact ih (fun other member => allDigits other (List.mem_cons_of_mem char member)) fits
          large
      · rfl

theorem readFraction?_append (allDigits : ∀ char ∈ digits, char.isDigit = true)
    {mantissa scale : ℕ} (fits : Nat.ofDigitChars 10 digits mantissa < mantissaLimit)
    (places : scale + digits.length ≤ 28) :
    readFraction? ⟨mantissa, scale⟩ (digits ++ rest) =
      readFraction? ⟨Nat.ofDigitChars 10 digits mantissa, scale + digits.length⟩ rest := by
  induction digits generalizing mantissa scale with
  | nil => rfl
  | cons char others ih =>
      rw [Nat.ofDigitChars_cons] at fits ⊢
      rw [List.length_cons] at places ⊢
      have next : 10 * mantissa + (char.toNat - '0'.toNat) < mantissaLimit ∧ scale < 28 :=
        ⟨(ofDigitChars_ge others _).trans_lt fits, by omega⟩
      rw [List.cons_append, readFraction?,
        digit?_of_isDigit (allDigits char List.mem_cons_self), Option.bind_some]
      simp only [if_pos next]
      rw [ih (fun other member => allDigits other (List.mem_cons_of_mem char member)) fits
        (by omega), Nat.add_right_comm, Nat.add_assoc scale]

theorem readFraction?_of_lt (allDigits : ∀ char ∈ digits, char.isDigit = true)
    {mantissa scale : ℕ} (fits : Nat.ofDigitChars 10 digits mantissa < mantissaLimit)
    (places : scale + digits.length ≤ 28) :
    readFraction? ⟨mantissa, scale⟩ digits =
      some ⟨Nat.ofDigitChars 10 digits mantissa, scale + digits.length⟩ := by
  rw [← List.append_nil digits, readFraction?_append allDigits fits places, List.append_nil]
  rfl

end

/-- The sign and the digits are read apart. -/
theorem ofText?_signText (negative : Bool) (coefficient places : ℕ) :
    ofText? (signText negative ++ positional coefficient places) =
      (readWhole? 0 (positional coefficient places)).bind fun read =>
        ofUnsignedZero? negative read.mantissa read.scale := by
  obtain ⟨digit, rest, written, isDigit⟩ := exists_positional_eq_cons coefficient places
  have some : (digit :: rest).any Char.isDigit = true := by
    rw [List.any_cons, isDigit, Bool.true_or]
  cases negative with
  | true =>
      rw [written]
      exact if_pos some
  | false =>
      have unsigned : ofText? (digit :: rest) = ofUnsigned? false (digit :: rest) := by
        rw [ofText?]
        · rintro text same
          rw [(List.cons.inj same).1] at isDigit
          cases isDigit
        · rintro text same
          rw [(List.cons.inj same).1] at isDigit
          cases isDigit
      rw [written]
      exact unsigned.trans (if_pos some)

/-- Digits that fit are read without loss. -/
theorem ofText?_positional (negative : Bool) {coefficient places : ℕ}
    (fits : coefficient < mantissaLimit) (few : places ≤ 28) :
    ofText? (signText negative ++ positional coefficient places) =
      ofUnsignedZero? negative coefficient places := by
  have read : readWhole? 0 (positional coefficient places) = some ⟨coefficient, places⟩ := by
    by_cases pointed : places = 0
    · have digits : Nat.ofDigitChars 10 (Nat.toDigits 10 coefficient) 0 = coefficient :=
        Nat.ofDigitChars_ten_toDigits
      have whole : readWhole? 0 (Nat.toDigits 10 coefficient ++ []) = readWhole? _ [] :=
        readWhole?_append (fun _ => isDigit_of_mem_toDigits) (digits.symm ▸ fits)
      rw [List.append_nil, digits] at whole
      rw [pointed, positional_of_zero, whole]
      rfl
    · have digits : Nat.ofDigitChars 10
          (Nat.toDigits 10 (coefficient / Nat.pow 10 places)) 0 =
            coefficient / Nat.pow 10 places := Nat.ofDigitChars_ten_toDigits
      have all := ofDigitChars_positional coefficient pointed
      rw [Nat.ofDigitChars_append, digits] at all
      rw [positional_of_ne_zero _ pointed, readWhole?_append (fun _ => isDigit_of_mem_toDigits)
        (digits.symm ▸ (Nat.div_le_self _ _).trans_lt fits), digits, readWhole?,
        readFraction?_of_lt (fun _ => isDigit_of_mem_fractionDigits) (all.symm ▸ fits)
          (by rw [length_fractionDigits pointed]; omega), all, length_fractionDigits pointed,
        Nat.zero_add]
  rw [ofText?_signText, read]
  rfl

/-- A number whose digits before the point do not fit is not read. -/
theorem ofText?_positional_eq_none (negative : Bool) {coefficient places : ℕ}
    (large : mantissaLimit ≤ coefficient / 10 ^ places) :
    ofText? (signText negative ++ positional coefficient places) = none := by
  have digits : Nat.ofDigitChars 10 (Nat.toDigits 10 (coefficient / 10 ^ places)) 0 =
      coefficient / 10 ^ places := Nat.ofDigitChars_ten_toDigits
  have unread : ∀ rest, readWhole? 0 (Nat.toDigits 10 (coefficient / 10 ^ places) ++ rest) =
      none := fun rest => readWhole?_append_eq_none (fun _ => isDigit_of_mem_toDigits)
        (by decide) (digits.symm ▸ large)
  rw [ofText?_signText]
  by_cases pointed : places = 0
  · rw [pointed, pow_zero, Nat.div_one] at unread
    have none := unread []
    rw [List.append_nil] at none
    rw [pointed, positional_of_zero, none]
    rfl
  · rw [positional_of_ne_zero _ pointed]
    exact congrArg (Option.bind · _) (unread _)

end TemplateLanguage.Decimal
