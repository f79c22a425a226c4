import VmLifecycle.Proofs.Json.Grammar
import VmLifecycle.Proofs.Json.Takes

/-!
# Numerals are taken whole

The scanner takes a numeral to its end, part by part. A whole number that fits in 64 bits is
written in decimal and read again without loss: its value is far from where a numeral becomes
too large.
-/

namespace VmLifecycle.Json

/-- The text does not go on with a digit. -/
def NoDigit (rest : List Char) : Prop :=
  ∀ c, rest.head? = some c → c.isDigit = false

/-- The text does not go on with anything that could belong to a numeral before it. -/
def EndsNumeral (rest : List Char) : Prop :=
  ∀ c, rest.head? = some c → c.isDigit = false ∧ c ∉ ['.', 'e', 'E']

variable {n bound : Nat} {rest : List Char} {cut : ReadError}

theorem EndsNumeral.noDigit (h : EndsNumeral rest) : NoDigit rest :=
  fun c hc => (h c hc).1

theorem endsNumeral_cons {c : Char} (hc : c.isDigit = false ∧ c ∉ ['.', 'e', 'E'])
    (rest : List Char) : EndsNumeral (c :: rest) := by
  rintro _ ⟨⟩
  exact hc

theorem NoDigit.span (h : NoDigit rest) :
    rest.takeWhile Char.isDigit = [] ∧ rest.dropWhile Char.isDigit = rest := by
  cases rest with
  | nil => exact ⟨rfl, rfl⟩
  | cons c rest => simp [h c rfl]

theorem digitRow_append {digits : List Char} (cut : ReadError) (hdigits : Digits digits)
    (h : NoDigit rest) : digitRow cut (digits ++ rest) = .ok (digits, rest) := by
  have htake : (digits ++ rest).takeWhile Char.isDigit = digits := by
    rw [List.takeWhile_append_of_pos hdigits.2, h.span.1, List.append_nil]
  have hdrop : (digits ++ rest).dropWhile Char.isDigit = rest := by
    rw [List.dropWhile_append_of_pos hdigits.2, h.span.2]
  obtain ⟨c, digits, rfl⟩ := List.exists_cons_of_ne_nil hdigits.1
  rw [List.cons_append] at htake hdrop ⊢
  rw [digitRow, htake, hdrop, if_pos (hdigits.2 c List.mem_cons_self)]

/-! ## The parts of a numeral -/

theorem wholePart_append {whole : List Char} (cut : ReadError) (hwhole : Digits whole)
    (hzero : whole.head? = some '0' → whole = ['0']) (h : NoDigit rest) :
    wholePart cut (whole ++ rest) = .ok (whole, rest) := by
  by_cases hhead : whole.head? = some '0'
  · -- a zero must not be followed by a digit
    have hnext : (rest.head?.map Char.isDigit).getD false = false := by
      cases rest with
      | nil => rfl
      | cons c rest => exact h c rfl
    rw [hzero hhead]
    show (if (rest.head?.map Char.isDigit).getD false then _ else _) = _
    rw [hnext]
    rfl
  · obtain ⟨c, digits, hcons⟩ := List.exists_cons_of_ne_nil hwhole.1
    unfold wholePart
    split
    · rename_i s heq
      rw [hcons] at heq hhead
      exact absurd (congrArg some (List.cons.inj heq).1) hhead
    · exact digitRow_append cut hwhole h

theorem fractionPart_of_head?_ne (cut : ReadError) (h : rest.head? ≠ some '.') :
    fractionPart cut rest = .ok ([], rest) := by
  unfold fractionPart
  split
  · exact absurd rfl h
  · rfl

theorem fractionPart_append {digits : List Char} (cut : ReadError) (hdigits : Digits digits)
    (h : NoDigit rest) : fractionPart cut ('.' :: (digits ++ rest)) = .ok (digits, rest) :=
  digitRow_append cut hdigits h

theorem exponentPart_of_endsNumeral (cut : ReadError) (h : EndsNumeral rest) :
    exponentPart cut rest = .ok ((false, []), rest) := by
  unfold exponentPart
  split
  · simpa using (h 'e' rfl).2
  · simpa using (h 'E' rfl).2
  · rfl

theorem exponentPart_append {letter : Char} {mark digits : List Char} (cut : ReadError)
    (hletter : letter = 'e' ∨ letter = 'E') (hmark : mark = [] ∨ mark = ['+'] ∨ mark = ['-'])
    (hdigits : Digits digits) (h : NoDigit rest) :
    exponentPart cut (letter :: (mark ++ (digits ++ rest))) =
      .ok ((mark = ['-'], digits), rest) := by
  have hrow := digitRow_append cut hdigits h
  rcases hmark with rfl | rfl | rfl
  · -- without a sign the first character is a digit
    obtain ⟨c, digits, rfl⟩ := List.exists_cons_of_ne_nil hdigits.1
    have hdigit : c.isDigit = true := hdigits.2 c List.mem_cons_self
    have hplus : c ≠ '+' := by rintro rfl; cases hdigit
    have hminus : c ≠ '-' := by rintro rfl; cases hdigit
    rw [List.nil_append, List.cons_append] at *
    rcases hletter with rfl | rfl <;> simp_all [exponentPart, Except.map]
  · rcases hletter with rfl | rfl <;> simp [exponentPart, hrow, Except.map]
  · rcases hletter with rfl | rfl <;> simp [exponentPart, hrow, Except.map]

/-- A numeral is taken part by part. -/
theorem scanNumeral_parts {sign s t u whole fraction exponent : List Char} {negative : Bool}
    (hsign : sign = [] ∧ s.head? ≠ some '-' ∨ sign = ['-'])
    (hwhole : wholePart cut s = .ok (whole, t))
    (hfraction : fractionPart cut t = .ok (fraction, u))
    (hexponent : exponentPart cut u = .ok ((negative, exponent), rest)) :
    scanNumeral cut (sign ++ s) =
      .ok (⟨sign = ['-'], whole, fraction, negative, exponent⟩, rest) := by
  unfold scanNumeral
  split
  rename_i minus s' heq
  obtain ⟨rfl, rfl⟩ : minus = decide (sign = ['-']) ∧ s' = s := by
    rcases hsign with ⟨rfl, hs⟩ | rfl
    · split at heq
      · rename_i hminus
        rw [List.nil_append] at hminus
        rw [hminus] at hs
        exact absurd rfl hs
      · cases heq
        exact ⟨rfl, rfl⟩
    · cases heq
      exact ⟨rfl, rfl⟩
  show (wholePart cut s' >>= _) = _
  rw [hwhole]
  show (fractionPart cut t >>= _) = _
  rw [hfraction]
  show (exponentPart cut u >>= _) = _
  rw [hexponent]
  rfl

theorem Digits.head?_ne {digits s : List Char} {c : Char} (h : Digits digits)
    (hc : c.isDigit = false) : (digits ++ s).head? ≠ some c := by
  obtain ⟨d, digits, rfl⟩ := List.exists_cons_of_ne_nil h.1
  intro heq
  obtain rfl : d = c := by simpa using heq
  rw [h.2 d List.mem_cons_self] at hc
  cases hc

/-- Whatever is a numeral is taken to its end. -/
theorem exists_scanNumeral {s : List Char} (hs : IsNumeral s) (hrest : EndsNumeral rest)
    (cut : ReadError) : ∃ n, scanNumeral cut (s ++ rest) = .ok (n, rest) := by
  obtain @⟨sign, whole, fraction, exponent, hsign, hwhole, hzero, hfraction, hexponent⟩ := hs
  -- what stands behind the fraction begins with neither a digit nor a point
  have hexponent : ∃ r, exponentPart cut (exponent ++ rest) = .ok (r, rest) ∧
      NoDigit (exponent ++ rest) ∧ (exponent ++ rest).head? ≠ some '.' := by
    rcases hexponent with rfl | ⟨letter, mark, digits, hletter, hmark, hdigits, rfl⟩
    · exact ⟨_, exponentPart_of_endsNumeral cut hrest, hrest.noDigit,
        fun h => (hrest _ h).2 (by simp)⟩
    · refine ⟨_, by simpa using exponentPart_append cut hletter hmark hdigits hrest.noDigit, ?_, ?_⟩
      · rintro c ⟨⟩
        rcases hletter with rfl | rfl <;> rfl
      · rcases hletter with rfl | rfl <;> simp
  obtain ⟨r, hexponent, hnoDigit, hpoint⟩ := hexponent
  have hfraction : ∃ r, fractionPart cut (fraction ++ (exponent ++ rest)) =
      .ok (r, exponent ++ rest) ∧ NoDigit (fraction ++ (exponent ++ rest)) := by
    rcases hfraction with rfl | ⟨digits, hdigits, rfl⟩
    · exact ⟨_, fractionPart_of_head?_ne cut hpoint, hnoDigit⟩
    · refine ⟨_, fractionPart_append cut hdigits hnoDigit, ?_⟩
      rintro c ⟨⟩
      rfl
  obtain ⟨r', hfraction, hnoDigit⟩ := hfraction
  have hminus : (whole ++ (fraction ++ (exponent ++ rest))).head? ≠ some '-' :=
    hwhole.head?_ne rfl
  have hscan := scanNumeral_parts (hsign.imp (⟨·, hminus⟩) id)
    (wholePart_append cut hwhole hzero hnoDigit) hfraction hexponent
  simp only [List.append_assoc]
  exact ⟨_, hscan⟩

theorem not_isSpace_of_digit {c : Char} (hc : c = '-' ∨ c.isDigit = true) : isSpace c = false := by
  rw [Bool.eq_false_iff]
  intro h
  rcases isSpace_iff.1 h with rfl | rfl | rfl | rfl <;> exact absurd hc (by decide)

/-- What a numeral begins with. -/
theorem IsNumeral.exists_cons {s : List Char} (h : IsNumeral s) :
    ∃ c t, s = c :: t ∧ (c = '-' ∨ c.isDigit = true) := by
  obtain @⟨sign, whole, fraction, exponent, hsign, hwhole, -, -, -⟩ := h
  rcases hsign with rfl | rfl
  · obtain ⟨c, digits, rfl⟩ := List.exists_cons_of_ne_nil hwhole.1
    exact ⟨c, _, rfl, .inr (hwhole.2 c List.mem_cons_self)⟩
  · exact ⟨'-', _, rfl, .inl rfl⟩

/-! ## Numbers in decimal -/

theorem exists_decimal_eq_cons (n : Nat) :
    ∃ c digits, Text.decimal n = c :: digits ∧ c.isDigit = true := by
  obtain ⟨c, digits, h⟩ := List.exists_cons_of_ne_nil (Text.decimal_ne_nil n)
  exact ⟨c, digits, h, Text.isDigit_of_mem_decimal (h ▸ List.mem_cons_self)⟩

theorem digits_decimal (n : Nat) : Digits (Text.decimal n) :=
  ⟨Text.decimal_ne_nil n, fun _ hc => Text.isDigit_of_mem_decimal hc⟩

theorem scanNumeral_decimal (cut : ReadError) (n : Nat) (h : EndsNumeral rest) :
    scanNumeral cut (Text.decimal n ++ rest) =
      .ok (⟨false, Text.decimal n, [], false, []⟩, rest) := by
  have hdigits := digits_decimal n
  have hzero : (Text.decimal n).head? = some '0' → Text.decimal n = ['0'] := by
    rcases Nat.eq_zero_or_pos n with rfl | hn
    · exact fun _ => rfl
    · exact fun hhead => absurd hhead (Text.head?_decimal_ne hn)
  have hsign : ([] : List Char) = [] ∧ (Text.decimal n ++ rest).head? ≠ some '-' ∨
      ([] : List Char) = ['-'] := .inl ⟨rfl, hdigits.head?_ne rfl⟩
  exact scanNumeral_parts hsign (wholePart_append cut hdigits hzero h.noDigit)
    (fractionPart_of_head?_ne cut fun hpoint => (h _ hpoint).2 (by simp))
    (exponentPart_of_endsNumeral cut h)

/-! ## Whole numbers of 64 bits -/

theorem le_ofDigitChars (digits : List Char) (n : Nat) : n ≤ Nat.ofDigitChars 10 digits n := by
  induction digits generalizing n with
  | nil => simp
  | cons c digits ih =>
      rw [Nat.ofDigitChars_cons]
      exact Nat.le_trans (by omega) (ih _)

/-- A number that fits in 64 bits is taken with all its digits. -/
theorem takeDigits_of_lt {digits : List Char} {significand taken : Nat}
    (h : Nat.ofDigitChars 10 digits significand < UInt64.size) :
    takeDigits significand taken digits =
      (Nat.ofDigitChars 10 digits significand, taken + digits.length) := by
  induction digits generalizing significand taken with
  | nil => simp [takeDigits]
  | cons c digits ih =>
      rw [Nat.ofDigitChars_cons] at h ⊢
      have hfits := Nat.lt_of_le_of_lt (le_ofDigitChars digits _) h
      unfold takeDigits
      rw [Nat.mul_comm significand, if_pos hfits, ih h, List.length_cons, Nat.add_assoc,
        Nat.add_comm 1]

/-- Rounding to 53 binary digits at most doubles a number. -/
theorem nearest53_le (n : Nat) : nearest53 n ≤ 2 * n := by
  unfold nearest53
  by_cases hsmall : n < 1 <<< 53
  · rw [if_pos hsmall]
    omega
  · have hn : n ≠ 0 := by
      rintro rfl
      exact hsmall (by decide)
    have hunit : 1 <<< (n.log2 - 52) ≤ n := by
      rw [Nat.shiftLeft_eq, Nat.one_mul]
      exact Nat.le_trans (Nat.pow_le_pow_right (by decide) (Nat.sub_le _ _))
        (Nat.log2_self_le hn)
    rw [if_neg hsmall]
    generalize 1 <<< (n.log2 - 52) = unit at hunit
    have hquotient : n / unit * unit ≤ n := Nat.div_mul_le_self n unit
    -- the quotient may be rounded up by one unit
    have hup (b : Bool) : (if b then n / unit + 1 else n / unit) * unit ≤ 2 * n := by
      cases b with
      | false =>
          simp only [Bool.false_eq_true, if_false]
          omega
      | true =>
          simp only [if_true, Nat.succ_mul]
          omega
    exact hup _

theorem isFinite_decimal (h : n < UInt64.size) :
    Numeral.isFinite ⟨false, Text.decimal n, [], false, []⟩ = true := by
  have htake : takeDigits 0 0 (Text.decimal n) = (n, (Text.decimal n).length) := by
    have hvalue : Nat.ofDigitChars 10 (Text.decimal n) 0 = n := Text.decimalValue_decimal n
    rw [takeDigits_of_lt (by rwa [hvalue]), hvalue, Nat.zero_add]
  have hbound : nearest53 n * nearest53 1 < overflowBound := by
    have hone : nearest53 1 = 1 := by decide
    have hlarge : 2 * UInt64.size ≤ overflowBound := by decide +kernel
    have hn := nearest53_le n
    rw [hone]
    omega
  unfold Numeral.isFinite
  simp only [htake, takeDigits, exponentValue, List.foldl_nil, Nat.sub_self]
  -- no digit is left over, and there is no exponent
  have hshift : (Int.ofNat 0 - Int.ofNat 0 + if false = true then -Int.ofNat 0 else Int.ofNat 0) =
      0 := rfl
  rw [hshift]
  split
  · rfl
  · rw [if_neg (by decide)]
    exact decide_eq_true hbound

theorem natural?_decimal (h : n < UInt64.size) :
    Numeral.natural? ⟨false, Text.decimal n, [], false, []⟩ = some n := by
  simp [Numeral.natural?, h]

theorem takes_readNumeral (h : n < UInt64.size) (hrest : EndsNumeral rest) :
    Takes readNumeral (Text.decimal n ++ rest) ⟨false, Text.decimal n, [], false, []⟩ rest := by
  refine (takes_get _).bind ((takes_lift (scanNumeral_decimal .truncated n hrest) _).bind ?_)
  refine (takes_set _ rest).bind ?_
  rw [if_pos (isFinite_decimal h)]
  exact takes_pure _ _

/-- A number that is written is read again, and then only its size may be wrong. -/
theorem run_readNatural (h : n < UInt64.size) (hrest : EndsNumeral rest) :
    (readNatural bound).run (Text.decimal n ++ rest) =
      (if n < bound then pure n else throw .mismatched : Reader Nat).run rest := by
  have hread := takes_readNumeral h hrest
  obtain ⟨c, digits, hdecimal, hdigit⟩ := exists_decimal_eq_cons n
  rw [hdecimal] at hread ⊢
  refine (takes_peek (not_isSpace_of_digit (.inr hdigit)) _).run_bind.trans ?_
  show (if c = '-' || c.isDigit then _ else _ : Reader Nat).run _ = _
  rw [if_pos (by simp [hdigit])]
  refine hread.run_bind.trans ?_
  rw [← hdecimal, natural?_decimal h]

theorem takes_readNatural (h : n < bound) (hbound : bound ≤ UInt64.size)
    (hrest : EndsNumeral rest) : Takes (readNatural bound) (Text.decimal n ++ rest) n rest := by
  unfold Takes
  rw [run_readNatural (Nat.lt_of_lt_of_le h hbound) hrest, if_pos h]
  rfl

theorem fails_readNatural (h : bound ≤ n) (hn : n < UInt64.size) (hrest : EndsNumeral rest) :
    Fails (readNatural bound) (Text.decimal n ++ rest) .mismatched := by
  unfold Fails
  rw [run_readNatural hn hrest, if_neg (Nat.not_lt.2 h)]
  rfl

end VmLifecycle.Json
