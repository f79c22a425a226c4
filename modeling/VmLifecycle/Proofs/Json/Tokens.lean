import VmLifecycle.Proofs.Json.Numerals

/-!
# Tokens are taken whole

The readers of strings and numerals on what the grammar allows: whatever the spelling, they
take the token to its end and leave what follows. A text is read from any of its spellings.
Blanks in front of a token change nothing, since every reader drops them first.
-/

namespace VmLifecycle.Json

variable {α β : Type} {s w rest : List Char}

/-! ## Blanks -/

theorem Blanks.isSpace (h : Blanks s) : ∀ c ∈ s, isSpace c = true :=
  fun c hc => isSpace_iff.2 (by simpa using h c hc)

theorem blanks_nil : Blanks [] :=
  nofun

/-- A reader that drops the blanks before what it takes. -/
def SkipsBlanks (reader : Reader α) : Prop :=
  ∀ blanks s, Blanks blanks → reader.run (blanks ++ s) = reader.run s

theorem skipsBlanks_peek : SkipsBlanks Reader.peek := by
  intro blanks s hblanks
  have hdrop : (blanks ++ s).dropWhile isSpace = s.dropWhile isSpace :=
    List.dropWhile_append_of_pos hblanks.isSpace
  show Except.ok (((blanks ++ s).dropWhile isSpace).head?, (blanks ++ s).dropWhile isSpace) = _
  rw [hdrop]
  rfl

theorem SkipsBlanks.bind {x : Reader α} (h : SkipsBlanks x) (f : α → Reader β) :
    SkipsBlanks (x >>= f) := by
  intro blanks s hblanks
  rw [StateT.run_bind, h blanks s hblanks, StateT.run_bind]

theorem SkipsBlanks.takes {reader : Reader α} (h : SkipsBlanks reader) {blanks : List Char} {a : α}
    (hblanks : Blanks blanks) (htakes : Takes reader s a rest) :
    Takes reader (blanks ++ s) a rest :=
  (h blanks s hblanks).trans htakes

theorem SkipsBlanks.fails {reader : Reader α} (h : SkipsBlanks reader) {blanks : List Char}
    {e : ReadError} (hblanks : Blanks blanks) (hfails : Fails reader s e) :
    Fails reader (blanks ++ s) e :=
  (h blanks s hblanks).trans hfails

/-- A text in front of which no blank and no end of a list stands. -/
def Leads (s : List Char) : Prop :=
  ∃ c t, s = c :: t ∧ isSpace c = false ∧ c ≠ ']'

/-- A text that a reader takes up to blanks is a value and nothing else. -/
theorem whole_of_takes {reader : Reader α} {text : String} {a : α}
    (h : Takes reader text.toList a rest) (hrest : Blanks rest) :
    Reader.whole reader text = .ok a := by
  have hdrop : rest.dropWhile isSpace = [] := by
    rw [← List.append_nil rest, List.dropWhile_append_of_pos hrest.isSpace]
    rfl
  unfold Takes at h
  rw [Reader.whole, h]
  show (if (rest.dropWhile isSpace).isEmpty then Except.ok a else .error ReadError.malformed) = _
  rw [hdrop]
  rfl

/-- A text in which something other than blanks is behind the value is malformed. -/
theorem whole_of_takes_more {reader : Reader α} {text : String} {a : α}
    (h : Takes reader text.toList a rest) (hrest : ∃ c ∈ rest, isSpace c = false) :
    Reader.whole reader text = .error .malformed := by
  have hdrop : (rest.dropWhile isSpace).isEmpty = false := by
    obtain ⟨c, hc, hspace⟩ := hrest
    rw [Bool.eq_false_iff, Ne, List.isEmpty_iff]
    intro hnil
    have hall : rest.takeWhile isSpace = rest := by
      have hsplit := List.takeWhile_append_dropWhile (p := isSpace) (l := rest)
      rwa [hnil, List.append_nil] at hsplit
    have hblank := List.all_eq_true.1 (List.all_takeWhile (p := isSpace) (l := rest)) c
      (by rwa [hall])
    rw [hspace] at hblank
    cases hblank
  unfold Takes at h
  rw [Reader.whole, h]
  show (if (rest.dropWhile isSpace).isEmpty then Except.ok a else .error ReadError.malformed) = _
  rw [hdrop]
  rfl

/-! ## Strings -/

theorem hexValue?_of_hexDigit {c : Char} {n : Nat} (h : HexDigit c n) : hexValue? c = some n := by
  have key : ∀ k : Fin 16, hexValue? (Nat.digitChar k) = some k.val ∧
      hexValue? (Nat.digitChar k).toUpper = some k.val := by decide
  obtain ⟨hn, rfl | rfl⟩ := h
  · exact (key ⟨n, hn⟩).1
  · exact (key ⟨n, hn⟩).2

theorem codeUnit_append {digits : List Char} {unit : Nat} (h : UnitDigits digits unit)
    (rest : List Char) : codeUnit (digits ++ rest) = .ok (unit, rest) := by
  cases h with
  | mk ha hb hc hd =>
      simp only [List.cons_append, List.nil_append, codeUnit, hexValue?_of_hexDigit ha,
        hexValue?_of_hexDigit hb, hexValue?_of_hexDigit hc, hexValue?_of_hexDigit hd]
      congr 2
      omega

theorem shortEscape?_of_mem {letter c : Char} (h : (letter, c) ∈ letterEscapes) :
    shortEscape? letter = some c ∧ letter ≠ 'u' := by
  have key : ∀ e ∈ letterEscapes, shortEscape? e.1 = some e.2 ∧ e.1 ≠ 'u' := by decide
  exact key _ h

theorem not_lt_of_isPlain {c : Char} (h : IsPlain c) : ¬ c < ' ' := by
  intro hc
  have hnat : c.toNat < 0x20 := hc
  have hplain := h.1
  omega

theorem passString_quote (rest : List Char) : passString ('"' :: rest) = .ok rest := by
  rw [passString]

theorem passString_escape {after : List Char} (h : passEscape rest = .ok after) :
    passString ('\\' :: rest) = passString after := by
  rw [passString]
  split <;> simp_all

theorem passString_plain {c : Char} (hc : IsPlain c) (rest : List Char) :
    passString (c :: rest) = passString rest := by
  have ⟨_, hquote, hback⟩ := hc
  rw [passString.eq_def]
  split
  · simp_all
  · simp_all
  · simp_all
  · rename_i heq
    obtain ⟨rfl, rfl⟩ := List.cons.inj heq
    rw [if_neg (not_lt_of_isPlain hc)]

/-- A string that is passed over is passed over to its closing quote. -/
theorem passString_inside (h : StringInside w) (rest : List Char) :
    passString (w ++ '"' :: rest) = .ok rest := by
  induction h with
  | empty => exact passString_quote rest
  | plain hc _ ih => rw [List.cons_append, passString_plain hc, ih]
  | @letter letter c w hc _ ih =>
      obtain ⟨hshort, hu⟩ := shortEscape?_of_mem hc
      have hescape : passEscape (letter :: (w ++ '"' :: rest)) = .ok (w ++ '"' :: rest) := by
        unfold passEscape
        split
        · simp_all
        · simp_all
        · rename_i heq
          obtain ⟨rfl, rfl⟩ := List.cons.inj heq
          rw [hshort]
          rfl
      rw [List.cons_append, List.cons_append, passString_escape hescape, ih]
  | @unit digits w unit hdigits _ ih =>
      have hescape : passEscape ('u' :: (digits ++ (w ++ '"' :: rest))) =
          .ok (w ++ '"' :: rest) := by
        show (codeUnit (digits ++ (w ++ '"' :: rest))).map (·.2) = _
        rw [codeUnit_append hdigits]
        rfl
      rw [List.cons_append, List.cons_append, List.append_assoc, passString_escape hescape, ih]

theorem escape_letter {letter c : Char} (h : (letter, c) ∈ letterEscapes) (rest : List Char) :
    escape (letter :: rest) = .ok (c, rest) := by
  obtain ⟨hshort, hu⟩ := shortEscape?_of_mem h
  unfold escape
  split
  · simp_all
  · simp_all
  · rename_i heq
    obtain ⟨rfl, rfl⟩ := List.cons.inj heq
    rw [hshort]

theorem escape_unit {digits : List Char} {unit : Nat} (h : UnitDigits digits unit)
    (hunit : unit < 0xD800 ∨ 0xE000 ≤ unit) (rest : List Char) :
    escape ('u' :: (digits ++ rest)) = .ok (Char.ofNat unit, rest) := by
  have htrailing : isTrailing unit = false := by
    simp [isTrailing]
    omega
  have hleading : isLeading unit = false := by
    simp [isLeading]
    omega
  show numericEscape (digits ++ rest) = _
  simp [numericEscape, codeUnit_append h, htrailing, hleading]

theorem escape_pair {first second : List Char} {leading trailing : Nat}
    (hfirst : UnitDigits first leading) (hsecond : UnitDigits second trailing)
    (hleading : 0xD800 ≤ leading ∧ leading < 0xDC00)
    (htrailing : 0xDC00 ≤ trailing ∧ trailing < 0xE000) (rest : List Char) :
    escape ('u' :: (first ++ '\\' :: 'u' :: (second ++ rest))) =
      .ok (Char.ofNat (0x10000 + (leading - 0xD800) * 0x400 + (trailing - 0xDC00)), rest) := by
  have hfirstTrailing : isTrailing leading = false := by
    simp [isTrailing]
    omega
  have hfirstLeading : isLeading leading = true := by
    simp [isLeading]
    omega
  have hsecondTrailing : isTrailing trailing = true := by
    simp [isTrailing]
    omega
  show numericEscape (first ++ '\\' :: 'u' :: (second ++ rest)) = _
  simp [numericEscape, codeUnit_append hfirst, codeUnit_append hsecond, hfirstTrailing,
    hfirstLeading, hsecondTrailing, paired]

/-- A text is read from each of its spellings, to the closing quote. -/
theorem stringBody_spelled (h : Spells s w) (taken rest : List Char) :
    stringBody taken (w ++ '"' :: rest) = .ok (String.ofList (taken.reverse ++ s), rest) := by
  have hnext {c : Char} {s w : List Char}
      (ih : ∀ taken, stringBody taken (w ++ '"' :: rest) =
        .ok (String.ofList (taken.reverse ++ s), rest)) (taken : List Char) :
      stringBody (c :: taken) (w ++ '"' :: rest) =
        .ok (String.ofList (taken.reverse ++ c :: s), rest) := by
    rw [ih, List.reverse_cons, List.append_assoc, List.singleton_append]
  induction h generalizing taken with
  | empty => rw [List.append_nil, List.nil_append, stringBody_quote]
  | plain hc _ ih =>
      rw [List.cons_append, stringBody_plain hc.2.1 hc.2.2 (not_lt_of_isPlain hc), hnext ih]
  | letter hc _ ih =>
      rw [List.cons_append, List.cons_append, stringBody_escape (escape_letter hc _), hnext ih]
  | unit hdigits hunit _ ih =>
      rw [List.cons_append, List.cons_append, List.append_assoc,
        stringBody_escape (escape_unit hdigits hunit _), hnext ih]
  | pair hfirst hsecond hleading htrailing _ ih =>
      simp only [List.cons_append, List.append_assoc]
      rw [stringBody_escape (escape_pair hfirst hsecond hleading htrailing _), hnext ih]

theorem takes_stringAt {text : String} {token : List Char} (h : StringFor text token)
    (rest : List Char) : Takes stringAt (token ++ rest) text rest := by
  obtain ⟨w, hw, rfl⟩ := h
  have hbody : stringBody [] (w ++ '"' :: rest) = .ok (text, rest) := by
    rw [stringBody_spelled hw, List.reverse_nil, List.nil_append, String.ofList_toList]
  have htoken : '"' :: (w ++ ['"']) ++ rest = '"' :: (w ++ '"' :: rest) := by simp
  rw [htoken]
  refine (takes_skip '"' _).bind ((takes_get _).bind ((takes_lift hbody _).bind ?_))
  exact (takes_set _ rest).bind (takes_pure text rest)

/-! ### The written form is one spelling -/

theorem unitDigits_control {c : Char} (hc : c < ' ') :
    UnitDigits ['0', '0', Nat.digitChar (c.toNat / 16), Nat.digitChar (c.toNat % 16)] c.toNat := by
  have hn : c.toNat < 32 := hc
  have hzero : HexDigit '0' 0 := ⟨by decide, .inl rfl⟩
  have hunit := UnitDigits.mk hzero hzero ⟨by omega, .inl rfl⟩ ⟨by omega, .inl rfl⟩
    (c := Nat.digitChar (c.toNat / 16)) (y := c.toNat / 16)
    (d := Nat.digitChar (c.toNat % 16)) (z := c.toNat % 16)
  have hvalue : 0 * 0x1000 + 0 * 0x100 + c.toNat / 16 * 0x10 + c.toNat % 16 = c.toNat := by
    omega
  rwa [hvalue] at hunit

theorem Spells.escapedChar (h : Spells s w) (c : Char) :
    Spells (c :: s) (escapedChar c ++ w) := by
  unfold Json.escapedChar
  split
  all_goals first
    | exact .letter (by decide) h
    | skip
  split
  · rename_i hc
    have hunit := Spells.unit (unitDigits_control hc) (.inl (Nat.lt_trans hc (by decide))) h
    rwa [Char.ofNat_toNat] at hunit
  · rename_i hquote hback _ _ _ _ _ hc
    exact .plain ⟨Nat.le_of_not_lt hc, hquote, hback⟩ h

theorem stringFor_stringToken (text : String) : StringFor text (stringToken text) := by
  refine ⟨text.toList.flatMap escapedChar, ?_, rfl⟩
  induction text.toList with
  | nil => exact .empty
  | cons c s ih => exact ih.escapedChar c

end VmLifecycle.Json
