import VmLifecycle.Proofs.Json.Shapes

/-!
# Values of another kind are a mismatch

Which kind of value stands in a text shows at its first character. Where a value of another kind
was wanted, its first token is taken and refused. A value of the kind that was wanted is taken to
its end, or it is refused there.
-/

namespace VmLifecycle.Json

namespace Shape

variable {α : Type} {value rest : List Char} {bound : Nat}

/-- The kind of value that begins with a character. -/
def Kind.of? (c : Char) : Option Kind :=
  if c.isDigit then some .number
  else if c = '"' then some .string
  else if c = 't' ∨ c = 'f' then some .flag
  else if c = '[' then some .list
  else none

/-- The first token of a value. Of a list no more than its bracket is looked at before it is
refused. -/
inductive Kind.Token : Kind → List Char → Prop
  | string {content : String} {s : List Char} (h : StringFor content s) : Token .string s
  | number {n : Nat} (h : n < UInt64.size) : Token .number (Text.decimal n)
  | flag (b : Bool) : Token .flag (Shape.write .flag b)
  | list (s : List Char) : Token .list ('[' :: s)

theorem Written.token {shape : Shape} {v : shape.Carrier} (h : shape.Written v value) :
    shape.kind.Token value := by
  cases shape with
  | text => exact .string h
  | address => exact .string h
  | word16 =>
      obtain rfl : value = Text.decimal v.toNat := h
      exact .number (Nat.lt_trans v.toNat_lt (by decide))
  | word32 =>
      obtain rfl : value = Text.decimal v.toNat := h
      exact .number (Nat.lt_trans v.toNat_lt (by decide))
  | word64 =>
      obtain rfl : value = Text.decimal v.toNat := h
      exact .number v.toNat_lt
  | flag =>
      obtain rfl : value = Shape.write .flag v := h
      exact .flag v
  | texts =>
      obtain ⟨blanks, items, -, -, rfl⟩ := h
      exact .list _

namespace Kind

variable {kind : Kind} {c : Char} {s : List Char}

theorem of?_of_isDigit (h : c.isDigit = true) : of? c = some .number :=
  if_pos h

theorem Token.exists_cons (h : kind.Token value) : ∃ c t, value = c :: t ∧ of? c = some kind := by
  cases h with
  | string h =>
      obtain ⟨t, rfl⟩ := h.exists_cons
      exact ⟨_, t, rfl, rfl⟩
  | number =>
      obtain ⟨c, t, hvalue, hdigit⟩ := exists_decimal_eq_cons _
      exact ⟨c, t, hvalue, of?_of_isDigit hdigit⟩
  | flag b => cases b <;> exact ⟨_, _, rfl, rfl⟩
  | list s => exact ⟨_, s, rfl, rfl⟩

theorem not_isSpace_of_of? (h : of? c = some kind) : isSpace c = false := by
  cases hspace : isSpace c with
  | false => rfl
  | true => rcases isSpace_iff.1 hspace with rfl | rfl | rfl | rfl <;> cases h

/-- A value is refused when its token has been read, or at its bracket. -/
theorem Token.fails_refuse (h : kind.Token value) (hrest : EndsNumeral rest) :
    Fails (refuse : Reader α) (value ++ rest) .mismatched := by
  cases h with
  | string h =>
      have hread := takes_stringAt h rest
      obtain ⟨t, rfl⟩ := h.exists_cons
      exact (takes_peek (c := '"') rfl _).bind_fails (hread.bind_fails (fails_throw _ rest))
  | @number n hn =>
      have hread := takes_readNumeral hn hrest
      obtain ⟨c, t, hvalue, hdigit⟩ := exists_decimal_eq_cons n
      rw [hvalue] at hread ⊢
      refine (takes_peek (not_isSpace_of_digit (.inr hdigit)) _).bind_fails ?_
      split
      case h_8 d hd =>
        cases hd
        rw [if_pos (by simp [hdigit])]
        exact hread.bind_fails (fails_throw _ rest)
      all_goals
        rename_i heq
        cases heq
        try exact absurd hdigit (by decide)
  | flag b =>
      cases b with
      | true =>
          exact (takes_peek (c := 't') rfl _).bind_fails
            ((takes_literal ['t', 'r', 'u', 'e'] rest).bind_fails (fails_throw _ rest))
      | false =>
          exact (takes_peek (c := 'f') rfl _).bind_fails
            ((takes_literal ['f', 'a', 'l', 's', 'e'] rest).bind_fails (fails_throw _ rest))
  | list s => exact (takes_peek (c := '[') rfl _).bind_fails (fails_throw _ _)

/-! ### Where another kind was wanted -/

/-- A reader that refuses whatever does not begin its own kind of value. -/
theorem Token.fails_peek (h : kind.Token value) {f : Option Char → Reader α}
    (hf : ∀ c, of? c = some kind → f (some c) = refuse) (hrest : EndsNumeral rest) :
    Fails (Reader.peek >>= f) (value ++ rest) .mismatched := by
  have hrefuse := h.fails_refuse (α := α) hrest
  obtain ⟨c, t, rfl, hc⟩ := h.exists_cons
  refine (takes_peek (not_isSpace_of_of? hc) _).bind_fails ?_
  rw [hf c hc]
  exact hrefuse

theorem fails_readText (h : kind.Token value) (hkind : kind ≠ .string)
    (hrest : EndsNumeral rest) : Fails readText (value ++ rest) .mismatched := by
  refine h.fails_peek (fun c hc => ?_) hrest
  split
  · rename_i heq
    cases heq
    exact absurd (Option.some.inj hc).symm hkind
  · rfl

theorem fails_readNatural (h : kind.Token value) (hkind : kind ≠ .number)
    (hrest : EndsNumeral rest) : Fails (readNatural bound) (value ++ rest) .mismatched := by
  refine h.fails_peek (fun c hc => ?_) hrest
  have hsign : c ≠ '-' := by
    rintro rfl
    cases hc
  have hdigit : c.isDigit = false := by
    rw [Bool.eq_false_iff]
    exact fun hdigit => hkind (Option.some.inj (hc.symm.trans (of?_of_isDigit hdigit)))
  exact if_neg (by simp [hsign, hdigit])

theorem fails_readFlag (h : kind.Token value) (hkind : kind ≠ .flag)
    (hrest : EndsNumeral rest) : Fails readFlag (value ++ rest) .mismatched := by
  refine h.fails_peek (fun c hc => ?_) hrest
  split
  · rename_i heq
    cases heq
    exact absurd (Option.some.inj hc).symm hkind
  · rename_i heq
    cases heq
    exact absurd (Option.some.inj hc).symm hkind
  · rfl

theorem fails_readTexts (h : kind.Token value) (hkind : kind ≠ .list)
    (hrest : EndsNumeral rest) : Fails readTexts (value ++ rest) .mismatched := by
  refine h.fails_peek (fun c hc => ?_) hrest
  split
  · rename_i heq
    cases heq
    exact absurd (Option.some.inj hc).symm hkind
  · rfl

end Kind

/-- A value of another kind than the one wanted is a mismatch. -/
theorem fails_read {shape : Shape} {kind : Kind} (h : kind.Token value)
    (hkind : kind ≠ shape.kind) (hrest : EndsNumeral rest) :
    Fails shape.read (value ++ rest) .mismatched := by
  cases shape with
  | text => exact Kind.fails_readText h hkind hrest
  | address => exact (Kind.fails_readText h hkind hrest).bind _
  | word16 => exact (Kind.fails_readNatural h hkind hrest).bind _
  | word32 => exact (Kind.fails_readNatural h hkind hrest).bind _
  | word64 => exact (Kind.fails_readNatural h hkind hrest).bind _
  | flag => exact Kind.fails_readFlag h hkind hrest
  | texts => exact Kind.fails_readTexts h hkind hrest

/-- What a reader says of a value that is not of its shape, as of any other: it takes the value
to its end, or it is a mismatch. -/
def Settles (reader : Reader α) (s rest : List Char) : Prop :=
  (∃ a, Takes reader s a rest) ∨ Fails reader s .mismatched

theorem settles_readText {content : String} (h : StringFor content value) (rest : List Char) :
    Settles readText (value ++ rest) rest :=
  .inl ⟨content, takes_readText h rest⟩

theorem settles_readAddress {content : String} (h : StringFor content value)
    (rest : List Char) : Settles readAddress (value ++ rest) rest := by
  have hread := takes_readText h rest
  cases hip : Ipv4.ofText? content with
  | some ip =>
      refine .inl ⟨ip, hread.bind ?_⟩
      rw [hip]
      exact takes_pure ip rest
  | none =>
      refine .inr (hread.bind_fails ?_)
      rw [hip]
      exact fails_throw _ rest

theorem settles_word {n : Nat} (hn : n < UInt64.size) (hbound : bound ≤ UInt64.size)
    (ofNat : Nat → α) (hrest : EndsNumeral rest) :
    Settles (do return ofNat (← readNatural bound)) (Text.decimal n ++ rest) rest := by
  by_cases hfits : n < bound
  · exact .inl ⟨ofNat n, takes_word rfl hfits hbound hrest⟩
  · exact .inr ((fails_readNatural (Nat.le_of_not_lt hfits) hn hrest).bind _)

theorem settles_read (shape : Shape) {other : Shape} {v : other.Carrier}
    (h : other.Written v value) (hrest : EndsNumeral rest) :
    Settles shape.read (value ++ rest) rest := by
  by_cases hkind : other.kind = shape.kind
  · have htoken := h.token
    rw [hkind] at htoken
    cases shape with
    | text =>
        cases htoken with
        | string hstring => exact settles_readText hstring rest
    | address =>
        cases htoken with
        | string hstring => exact settles_readAddress hstring rest
    | word16 =>
        cases htoken with
        | number hn => exact settles_word hn (by decide) _ hrest
    | word32 =>
        cases htoken with
        | number hn => exact settles_word hn (by decide) _ hrest
    | word64 =>
        cases htoken with
        | number hn => exact settles_word hn (by decide) _ hrest
    | flag =>
        cases htoken with
        | flag b => exact .inl ⟨b, takes_flag b rest⟩
    | texts =>
        -- only lists of texts are lists
        obtain rfl : other = .texts := by cases other <;> first | rfl | cases hkind
        exact .inl ⟨v, takes_readTexts h rest⟩
  · exact .inr (fails_read h.token hkind hrest)

end Shape

end VmLifecycle.Json
