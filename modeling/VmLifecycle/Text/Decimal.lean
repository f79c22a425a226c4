/-!
# Decimal numerals

Writing a natural number in decimal and reading one back. Only the ASCII
digits count as digits.
-/

namespace VmLifecycle.Text

/-- The decimal digits of `n`, without leading zeros. -/
def decimal (n : Nat) : List Char :=
  Nat.toDigits 10 n

/-- The number that a row of digits stands for; leading zeros change nothing. -/
def decimalValue (digits : List Char) : Nat :=
  Nat.ofDigitChars 10 digits 0

@[simp] theorem decimalValue_decimal (n : Nat) : decimalValue (decimal n) = n :=
  Nat.ofDigitChars_ten_toDigits

theorem isDigit_of_mem_decimal {n : Nat} {c : Char} (h : c ∈ decimal n) : c.isDigit = true :=
  Nat.isDigit_of_mem_toDigits (by decide) (by decide) h

theorem decimal_ne_nil (n : Nat) : decimal n ≠ [] :=
  Nat.toDigits_ne_nil

theorem length_decimal_le_three_iff {n : Nat} : (decimal n).length ≤ 3 ↔ n < 1000 :=
  Nat.length_toDigits_le_iff (by decide) (by decide)

/-- Only zero is written with a zero in front. -/
theorem head?_decimal_ne {n : Nat} (h : 0 < n) : (decimal n).head? ≠ some '0' := by
  induction n using Nat.strongRecOn with
  | ind n ih =>
    rw [decimal, Nat.toDigits_eq_if (by decide)]
    split
    · match n, h with
      | 1, _ | 2, _ | 3, _ | 4, _ | 5, _ | 6, _ | 7, _ | 8, _ | 9, _ => decide
    · rw [List.head?_append, Option.or_of_isSome (by
        rw [List.isSome_head?]; exact Nat.toDigits_ne_nil)]
      exact ih (n / 10) (by omega) (by omega)

/-- A digit is the character of its value. -/
theorem digitChar_of_isDigit {c : Char} (h : c.isDigit = true) :
    c.toNat - '0'.toNat < 10 ∧ Nat.digitChar (c.toNat - '0'.toNat) = c := by
  obtain ⟨hlow, hhigh⟩ : 48 ≤ c.toNat ∧ c.toNat ≤ 57 := Char.isDigit_iff_toNat.1 h
  have hlt : c.toNat - '0'.toNat < 10 := by
    show c.toNat - 48 < 10
    omega
  refine ⟨hlt, Char.toNat_inj.1 ?_⟩
  rw [Nat.toNat_digitChar_of_lt_ten hlt]
  show 48 + (c.toNat - 48) = c.toNat
  omega

/-- Digits behind a number that is not zero are digits of the number that they make of it. -/
theorem decimal_append {digits : List Char} {n : Nat} (hn : 0 < n)
    (hdigits : ∀ c ∈ digits, c.isDigit = true) :
    decimal n ++ digits = decimal (Nat.ofDigitChars 10 digits n) := by
  induction digits generalizing n with
  | nil => simp
  | cons c digits ih =>
      obtain ⟨hlt, hchar⟩ := digitChar_of_isDigit (hdigits c List.mem_cons_self)
      have hnext : decimal n ++ [c] = decimal (10 * n + (c.toNat - '0'.toNat)) := by
        have h := Nat.toDigits_append_toDigits (by decide : 1 < 10) hn hlt
        rwa [Nat.toDigits_of_lt_base hlt, hchar] at h
      calc decimal n ++ c :: digits = (decimal n ++ [c]) ++ digits := by simp
        _ = decimal (10 * n + (c.toNat - '0'.toNat)) ++ digits := by rw [hnext]
        _ = decimal (Nat.ofDigitChars 10 (c :: digits) n) := by
            rw [ih (by omega) fun d hd => hdigits d (List.mem_cons_of_mem _ hd),
              Nat.ofDigitChars_cons]

/-- A row of digits without a zero in front is its number as it is written. -/
theorem decimal_decimalValue {digits : List Char} (hne : digits ≠ [])
    (hdigits : ∀ c ∈ digits, c.isDigit = true)
    (hzero : digits.head? = some '0' → digits = ['0']) :
    decimal (decimalValue digits) = digits := by
  obtain ⟨c, digits, rfl⟩ := List.exists_cons_of_ne_nil hne
  obtain ⟨hlt, hchar⟩ := digitChar_of_isDigit (hdigits c List.mem_cons_self)
  by_cases hc : c = '0'
  · rw [hzero (by rw [hc]; rfl)]
    decide
  · have hpos : 0 < c.toNat - '0'.toNat := by
      refine Nat.pos_of_ne_zero fun h => hc ?_
      rw [← hchar, h]
      rfl
    have happend := decimal_append hpos fun d hd => hdigits d (List.mem_cons_of_mem _ hd)
    rw [decimal, Nat.toDigits_of_lt_base hlt, hchar] at happend
    rw [decimalValue, Nat.ofDigitChars_cons, Nat.mul_zero, Nat.zero_add]
    exact happend.symm

/-- Reads an unsigned number below `bound`: one optional plus sign, then at
least one digit and nothing else. -/
def unsigned? (bound : Nat) (s : List Char) : Option Nat :=
  let digits := match s with
    | '+' :: rest => rest
    | _ => s
  if digits.isEmpty || !digits.all Char.isDigit then none
  else if decimalValue digits < bound then some (decimalValue digits)
  else none

end VmLifecycle.Text
