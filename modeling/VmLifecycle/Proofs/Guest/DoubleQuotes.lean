import VmLifecycle.Proofs.Guest.Shell

/-!
# Texts between double quotes

A text is literal if it stands for itself between double quotes: no character in
it is special there. Between double quotes a literal text is read as it is, and
no other text can be made up for by what comes after it: each special character
costs the reading a character, and what follows has too few of them to spare.

So the reading of a row of quoted texts is told by counting. A reading never
holds more characters than it was given, but for one that is still owed between
quotes and after a backslash.
-/

namespace VmLifecycle.Shell

/-- The characters that are special between double quotes. -/
def isSpecial (c : Char) : Bool :=
  ['"', '\\', '$', '\x60'].contains c

/-- Whether a backslash between double quotes leaves this character alone, and
itself with it. -/
def isOrdinary (c : Char) : Bool :=
  !isSpecial c && c ≠ '\n'

/-- Whether a text stands for itself between double quotes. A backslash does
before an ordinary character. -/
def isLiteral : List Char → Bool
  | [] => true
  | c :: cs => (if c = '\\' then cs.head?.any isOrdinary else !isSpecial c) && isLiteral cs

variable {taken more : List Token} {word : List Char} {s t : Scan} {c : Char}
  {cs ds : List Char}

theorem isLiteral_of_isSpecial (h : ∀ c ∈ cs, isSpecial c = false) : isLiteral cs = true := by
  induction cs with
  | nil => rfl
  | cons c cs ih =>
      have hc : isSpecial c = false := h c (by simp)
      have hbackslash : c ≠ '\\' := by
        rintro rfl
        cases hc
      rw [isLiteral, if_neg hbackslash, hc, ih fun d hd => h d (by simp [hd])]
      rfl

/-! ## Literal texts -/

theorem next?_double_of_isSpecial (h : isSpecial c = false) :
    Scan.next? ⟨taken, .double word⟩ c = some ⟨taken, .double (c :: word)⟩ := by
  simp only [isSpecial, List.contains_cons, List.contains_nil, Bool.or_false, Bool.or_eq_false_iff,
    beq_eq_false_iff_ne] at h
  simp [Scan.next?, h]

/-- After a backslash an ordinary character is read as if the backslash were one
too. -/
theorem next?_doubleEscaped_of_isOrdinary (h : isOrdinary c = true) :
    Scan.next? ⟨taken, .doubleEscaped word⟩ c = Scan.next? ⟨taken, .double ('\\' :: word)⟩ c := by
  simp only [isOrdinary, Bool.and_eq_true, Bool.not_eq_true', decide_eq_true_eq] at h
  obtain ⟨hspecial, hnewline⟩ := h
  rw [next?_double_of_isSpecial hspecial]
  simp only [isSpecial, List.contains_cons, List.contains_nil, Bool.or_false, Bool.or_eq_false_iff,
    beq_eq_false_iff_ne] at hspecial
  simp [Scan.next?, hspecial, hnewline]

theorem scan?_cons (s : Scan) (c : Char) (cs : List Char) :
    scan? s (c :: cs) = (s.next? c).bind fun t => scan? t cs := rfl

/-- A literal text between double quotes is taken as it is. -/
theorem scan?_double_of_isLiteral (h : isLiteral cs = true) :
    scan? ⟨taken, .double word⟩ cs = some ⟨taken, .double (cs.reverse ++ word)⟩ := by
  induction cs generalizing word with
  | nil => rfl
  | cons c cs ih =>
      simp only [isLiteral, Bool.and_eq_true] at h
      obtain ⟨hc, hcs⟩ := h
      by_cases hbackslash : c = '\\'
      · -- the next character is ordinary, so the backslash stays
        subst hbackslash
        rw [if_pos rfl, Option.any_eq_true] at hc
        obtain ⟨d, hd, hordinary⟩ := hc
        obtain ⟨ds, rfl⟩ : ∃ ds, cs = d :: ds := List.head?_eq_some_iff.1 hd
        have hread : scan? ⟨taken, .double ('\\' :: word)⟩ (d :: ds) =
            some ⟨taken, .double ((d :: ds).reverse ++ '\\' :: word)⟩ := ih hcs
        rw [scan?_cons, ← next?_doubleEscaped_of_isOrdinary hordinary] at hread
        rw [scan?_cons]
        show scan? ⟨taken, .doubleEscaped word⟩ (d :: ds) = _
        rw [scan?_cons, hread]
        simp
      · rw [if_neg hbackslash, Bool.not_eq_true'] at hc
        rw [scan?_cons, next?_double_of_isSpecial hc, Option.bind_some, ih hcs]
        simp

/-- A quoted text that is literal is one word. -/
theorem scan?_quotedLiteral (h : isLiteral cs = true) (rest : List Char) :
    scan? ⟨taken, .double []⟩ (cs ++ '"' :: rest) = scan? ⟨taken, .bare cs.reverse⟩ rest := by
  rw [scan?_append (scan?_double_of_isLiteral h), List.append_nil]
  rfl

/-! ## Counting what a reading holds -/

def Token.size : Token → Nat
  | .word text => text.toList.length
  | .operator _ => 0

def takenSize : List Token → Nat
  | [] => 0
  | token :: tokens => token.size + takenSize tokens

theorem takenSize_append (tokens more : List Token) :
    takenSize (tokens ++ more) = takenSize tokens + takenSize more := by
  induction tokens with
  | nil => simp [takenSize]
  | cons token tokens ih => simp [takenSize, ih]; omega

theorem takenSize_reverse (tokens : List Token) :
    takenSize tokens.reverse = takenSize tokens := by
  induction tokens with
  | nil => rfl
  | cons token tokens ih =>
      rw [List.reverse_cons, takenSize_append, ih, takenSize, takenSize, takenSize]
      omega

/-- The characters that a reading holds in words. One more is counted where the
next character, or the one after a text, is bound to be lost. -/
def Scan.weight : Scan → Nat
  | ⟨taken, .between⟩ => takenSize taken
  | ⟨taken, .bare word⟩ => takenSize taken + word.length
  | ⟨taken, .escaped word⟩ => takenSize taken + word.length + 1
  | ⟨taken, .single word⟩ => takenSize taken + word.length + 1
  | ⟨taken, .double word⟩ => takenSize taken + word.length + 1
  | ⟨taken, .doubleEscaped word⟩ => takenSize taken + word.length + 2

@[simp] theorem weight_bare :
    Scan.weight ⟨taken, .bare word⟩ = takenSize taken + word.length := rfl

@[simp] theorem weight_double :
    Scan.weight ⟨taken, .double word⟩ = takenSize taken + word.length + 1 := rfl

theorem takenSize_endWord :
    takenSize (Scan.endWord taken word) = word.length + takenSize taken := by
  simp [Scan.endWord, takenSize, Token.size]

theorem weight_of_extend? {m : Mode} (h : extend? word c = some m) :
    Scan.weight ⟨taken, m⟩ ≤ takenSize taken + word.length + 1 := by
  unfold extend? at h
  (repeat' split at h) <;> cases h <;> simp [Scan.weight]
  omega

theorem weight_of_next? (h : s.next? c = some t) : t.weight ≤ s.weight + 1 := by
  obtain ⟨taken, mode⟩ := s
  have hextend {word : List Char} (h : (extend? word c).map (Scan.mk taken) = some t) :
      t.weight ≤ takenSize taken + word.length + 1 := by
    obtain ⟨m, hm, rfl⟩ := Option.map_eq_some_iff.1 h
    exact weight_of_extend? hm
  cases mode with
  | between =>
      simp only [Scan.next?] at h
      split at h
      · cases h
        simp [Scan.weight]
      · split at h
        · cases h
          simp [Scan.weight, takenSize, Token.size]
        · simpa [Scan.weight] using hextend h
  | bare word =>
      simp only [Scan.next?] at h
      split at h
      · cases h
        simp only [Scan.weight, takenSize_endWord]
        omega
      · split at h
        · cases h
          simp only [Scan.weight, takenSize, takenSize_endWord, Token.size]
          omega
        · exact hextend h
  | _ =>
      simp only [Scan.next?] at h
      (repeat' split at h) <;> cases h <;> simp [Scan.weight] <;> omega

theorem weight_of_scan? (h : scan? s cs = some t) : t.weight ≤ s.weight + cs.length := by
  induction cs generalizing s with
  | nil =>
      obtain rfl : s = t := Option.some.inj h
      simp
  | cons c cs ih =>
      obtain ⟨u, hu, ht⟩ := Option.bind_eq_some_iff.1 h
      have hstep := weight_of_next? hu
      have hrest := ih ht
      rw [List.length_cons]
      omega

/-- A backslash in front of any but an ordinary character is lost. -/
theorem weight_of_next?_doubleEscaped (hc : isOrdinary c = false)
    (h : Scan.next? ⟨taken, .doubleEscaped word⟩ c = some t) :
    t.weight ≤ takenSize taken + word.length + 2 := by
  simp only [Scan.next?] at h
  split at h
  · cases h
    rw [weight_double, List.length_cons]
    omega
  · rename_i hmark
    split at h
    · cases h
      rw [weight_double]
      omega
    · rename_i hnewline
      -- every other character is ordinary
      simp only [isOrdinary, isSpecial, List.contains_cons, List.contains_nil, Bool.or_false,
        Bool.or_eq_true, beq_iff_eq, not_or] at hc hmark
      simp [hmark, hnewline] at hc

/-- A reading that loses nothing between double quotes never left them, and what
it read is literal, unless it stands after a backslash. -/
theorem isLiteral_of_weight (h : scan? ⟨taken, .double word⟩ cs = some t)
    (hweight : t.weight = takenSize taken + word.length + 1 + cs.length) :
    (t = ⟨taken, .double (cs.reverse ++ word)⟩ ∧ isLiteral cs = true) ∨
      ∃ word, t = ⟨taken, .doubleEscaped word⟩ := by
  induction cs generalizing word with
  | nil =>
      obtain rfl : _ = t := Option.some.inj h
      exact .inl ⟨rfl, rfl⟩
  | cons c cs ih =>
      rw [scan?_cons] at h
      obtain ⟨u, hu, ht⟩ := Option.bind_eq_some_iff.1 h
      -- each step has to add one to what is held
      have hstep := weight_of_next? hu
      have hrest := weight_of_scan? ht
      rw [List.length_cons] at hweight
      by_cases hbackslash : c = '\\'
      · subst hbackslash
        obtain rfl : Scan.mk taken (.doubleEscaped word) = u := Option.some.inj hu
        cases cs with
        | nil => exact .inr ⟨word, (Option.some.inj ht).symm⟩
        | cons d ds =>
            rw [scan?_cons] at ht
            by_cases hordinary : isOrdinary d = true
            · rw [next?_doubleEscaped_of_isOrdinary hordinary, ← scan?_cons] at ht
              rcases ih ht (by simp only [hweight, List.length_cons]; omega) with
                ⟨rfl, hliteral⟩ | hescaped
              · refine .inl ⟨by simp, ?_⟩
                rw [isLiteral, hliteral]
                simp [hordinary]
              · exact .inr hescaped
            · obtain ⟨v, hv, hend⟩ := Option.bind_eq_some_iff.1 ht
              have hlost := weight_of_next?_doubleEscaped (Bool.not_eq_true _ ▸ hordinary) hv
              have hrest := weight_of_scan? hend
              rw [List.length_cons] at hweight
              omega
      · by_cases hspecial : isSpecial c = true
        · simp only [isSpecial, List.contains_cons, List.contains_nil, Bool.or_false,
            Bool.or_eq_true, beq_iff_eq, hbackslash, false_or] at hspecial
          rcases hspecial with rfl | rfl | rfl
          · obtain rfl : Scan.mk taken (.bare word) = u := Option.some.inj hu
            rw [weight_bare] at hrest
            omega
          · cases hu
          · cases hu
        · rw [Bool.not_eq_true] at hspecial
          rw [next?_double_of_isSpecial hspecial] at hu
          cases hu
          have hopen : t.weight = takenSize taken + (c :: word).length + 1 + cs.length := by
            rw [hweight, List.length_cons]
            omega
          rcases ih ht hopen with ⟨rfl, hliteral⟩ | hescaped
          · exact .inl ⟨by simp, by simp [isLiteral, hbackslash, hspecial, hliteral]⟩
          · exact .inr hescaped

/-! ## The end of a quoted text -/

theorem scan?_concat (h : scan? s (cs ++ [c]) = some t) :
    ∃ u, scan? s cs = some u ∧ u.next? c = some t := by
  unfold scan? at h
  rw [List.foldlM_append] at h
  obtain ⟨u, hu, ht⟩ := Option.bind_eq_some_iff.1 h
  obtain ⟨v, hv, hend⟩ := Option.bind_eq_some_iff.1 ht
  obtain rfl : v = t := Option.some.inj hend
  exact ⟨u, hu, hv⟩

/-- Only a backslash puts a reading after one. -/
theorem eq_of_next?_escaped (h : s.next? c = some ⟨taken, .escaped word⟩) : c = '\\' := by
  obtain ⟨before, mode⟩ := s
  have hextend {word' : List Char}
      (h : (extend? word' c).map (Scan.mk before) = some ⟨taken, .escaped word⟩) : c = '\\' := by
    obtain ⟨m, hm, heq⟩ := Option.map_eq_some_iff.1 h
    cases heq
    unfold extend? at hm
    (repeat' split at hm) <;> first | assumption | cases hm
  cases mode with
  | between =>
      simp only [Scan.next?] at h
      (repeat' split at h) <;> first | exact hextend h | cases h
  | bare =>
      simp only [Scan.next?] at h
      (repeat' split at h) <;> first | exact hextend h | cases h
  | _ =>
      simp only [Scan.next?] at h
      (repeat' split at h) <;> cases h

/-- The two ways in which a quote leaves a word bare. -/
theorem bare_of_next?_quote (h : s.next? '"' = some t) (hmode : t.mode = .bare word) :
    s = ⟨t.taken, .double word⟩ ∨ ∃ word', word = '"' :: word' ∧ s = ⟨t.taken, .escaped word'⟩ := by
  obtain ⟨taken, mode⟩ := s
  cases mode with
  | double word' =>
      cases h
      cases hmode
      exact .inl rfl
  | escaped word' =>
      cases h
      cases hmode
      exact .inr ⟨word', rfl, rfl⟩
  | _ =>
      cases h
      cases hmode

/-- A text that is read between double quotes as it is, closing quote and all, is
literal. -/
theorem isLiteral_of_scan? (h : scan? ⟨taken, .double []⟩ (cs ++ ['"']) =
    some ⟨taken, .bare cs.reverse⟩) : isLiteral cs = true := by
  obtain ⟨u, hu, hquote⟩ := scan?_concat h
  rcases bare_of_next?_quote hquote rfl with rfl | ⟨word, hword, rfl⟩
  · have hweight : Scan.weight ⟨taken, .double cs.reverse⟩ =
        takenSize taken + ([] : List Char).length + 1 + cs.length := by
      simp only [weight_double, List.length_reverse, List.length_nil]
      omega
    rcases isLiteral_of_weight hu hweight with ⟨-, hliteral⟩ | ⟨_, hescaped⟩
    · exact hliteral
    · cases hescaped
  · -- the text would end in the quote, and in the backslash before it
    obtain rfl : cs = word.reverse ++ ['"'] := by
      rw [← List.reverse_reverse cs, hword, List.reverse_cons]
    obtain ⟨v, -, hescaped⟩ := scan?_concat hu
    cases eq_of_next?_escaped hescaped

/-- A closing quote is lost, unless a backslash was lost before it. -/
theorem weight_of_closing (h : scan? ⟨taken, .between⟩ (cs ++ ['"']) = some t)
    (hmode : t.mode = .bare word) : t.weight ≤ takenSize taken + cs.length := by
  obtain ⟨u, hu, hquote⟩ := scan?_concat h
  obtain ⟨later, mode⟩ := t
  obtain rfl : mode = .bare word := hmode
  rcases bare_of_next?_quote hquote rfl with rfl | ⟨word, rfl, rfl⟩
  · have hweight := weight_of_scan? hu
    simp only [Scan.weight] at hweight ⊢
    omega
  · have hweight := weight_of_scan? hu
    simp only [Scan.weight, List.length_cons] at hweight ⊢
    omega

/-! ## The next word -/

theorem prefix_of_finish? {tokens : List Token} (h : s.finish? = some tokens) :
    s.taken.reverse <+: tokens := by
  obtain ⟨taken, mode⟩ := s
  cases mode with
  | between =>
      obtain rfl := Option.some.inj h
      exact List.prefix_refl _
  | bare word =>
      obtain rfl := Option.some.inj h
      simp [Scan.endWord]
  | _ => cases h

/-- What a character does to a word that was begun: the word goes on, or a blank
or an operator ends it. -/
theorem next?_word {mode : Mode} (hmode : mode ≠ .between)
    (h : Scan.next? ⟨taken, mode⟩ c = some t) :
    (t.taken = taken ∧ t.mode ≠ .between) ∨
      ∃ word, mode = .bare word ∧
        (isBlank c = true ∧ t = ⟨Scan.endWord taken word, .between⟩ ∨
          t = ⟨.operator c :: Scan.endWord taken word, .between⟩) := by
  cases mode with
  | between => exact absurd rfl hmode
  | bare word =>
      simp only [Scan.next?] at h
      split at h
      · rename_i hblank
        cases h
        exact .inr ⟨word, rfl, .inl ⟨hblank, rfl⟩⟩
      · split at h
        · cases h
          exact .inr ⟨word, rfl, .inr rfl⟩
        · obtain ⟨m, hm, rfl⟩ := Option.map_eq_some_iff.1 h
          refine .inl ⟨rfl, ?_⟩
          rintro rfl
          unfold extend? at hm
          (repeat' split at hm) <;> cases hm
  | _ =>
      simp only [Scan.next?] at h
      (repeat' split at h) <;> cases h <;> exact .inl ⟨rfl, Mode.noConfusion⟩

/-- A word that another word follows ends at a blank. -/
theorem split_of_finish? {mode : Mode} {text text' : String} (hmode : mode ≠ .between)
    (h : scan? ⟨taken, mode⟩ cs = some t)
    (hfinish : t.finish? = some (taken.reverse ++ .word text :: .word text' :: more)) :
    ∃ front blank rest, cs = front ++ blank :: rest ∧ isBlank blank = true ∧
      scan? ⟨taken, mode⟩ front = some ⟨taken, .bare text.toList.reverse⟩ ∧
      scan? ⟨.word text :: taken, .between⟩ rest = some t := by
  induction cs generalizing mode with
  | nil =>
      obtain rfl : _ = t := Option.some.inj h
      cases mode with
      | between => exact absurd rfl hmode
      | bare word => simp [Scan.finish?, Scan.endWord] at hfinish
      | _ => cases hfinish
  | cons c cs ih =>
      rw [scan?_cons] at h
      obtain ⟨u, hu, ht⟩ := Option.bind_eq_some_iff.1 h
      have htaken : u.taken.reverse <+: taken.reverse ++ .word text :: .word text' :: more :=
        (List.reverse_prefix.2 (suffix_of_scan? ht)).trans (prefix_of_finish? hfinish)
      rcases next?_word hmode hu with ⟨hsame, hgoes⟩ | ⟨word, rfl, ⟨hblank, rfl⟩ | rfl⟩
      · obtain ⟨before, mode'⟩ := u
        obtain rfl : before = taken := hsame
        obtain ⟨front, blank, rest, rfl, hblank, hfront, hrest⟩ := ih hgoes ht
        refine ⟨c :: front, blank, rest, rfl, hblank, ?_, hrest⟩
        rw [scan?_cons, hu, Option.bind_some, hfront]
      · simp only [Scan.endWord, List.reverse_cons, List.prefix_append_right_inj,
          List.cons_prefix_cons, Token.word.injEq, List.nil_prefix, and_true] at htaken
        subst htaken
        refine ⟨[], c, cs, rfl, hblank, ?_, ht⟩
        simp [scan?]
      · simp [Scan.endWord] at htaken

/-- A reading that ends with a quote holds what its tokens do. -/
theorem weight_of_finish? {tokens : List Token} (hquote : s.next? '"' = some t)
    (hfinish : t.finish? = some tokens) :
    (∃ word, t.mode = .bare word) ∧ t.weight = takenSize tokens := by
  obtain ⟨later, mode⟩ := t
  cases mode with
  | bare word =>
      obtain rfl := Option.some.inj hfinish
      refine ⟨⟨word, rfl⟩, ?_⟩
      rw [takenSize_reverse, takenSize_endWord, weight_bare, Nat.add_comm]
  | between =>
      obtain ⟨taken, mode⟩ := s
      cases mode <;> cases hquote
  | _ => cases hfinish

theorem exists_eq_concat {α : Type} {xs front rest : List α} {x y : α}
    (h : xs ++ [x] = front ++ y :: rest) (hne : y ≠ x) : ∃ before, rest = before ++ [x] := by
  rcases List.eq_nil_or_concat rest with rfl | ⟨before, last, rfl⟩
  · exact absurd (List.append_inj' h rfl).2 (by simpa using hne.symm)
  · rw [List.concat_eq_append, ← List.cons_append, ← List.append_assoc] at h
    obtain rfl : x = last := by simpa using (List.append_inj' h rfl).2
    exact ⟨before, List.concat_eq_append⟩

/-- A word that was read out of double quotes is no longer than what it was read
from: the closing quote is not in it. -/
theorem length_le_of_scan?_double {front word : List Char}
    (h : scan? ⟨taken, .double []⟩ front = some ⟨taken, .bare word⟩) :
    word.length ≤ front.length := by
  have hweight := weight_of_scan? h
  simp only [weight_bare, weight_double, List.length_nil] at hweight
  apply Nat.le_of_not_lt
  intro hshort
  have htight : Scan.weight ⟨taken, .bare word⟩ =
      takenSize taken + ([] : List Char).length + 1 + front.length := by
    simp only [weight_bare, List.length_nil]
    omega
  rcases isLiteral_of_weight h htight with ⟨hdouble, -⟩ | ⟨_, hescaped⟩
  · cases hdouble
  · cases hescaped

/-- What is read after a word, up to the last quote, is enough for the words that
follow. -/
theorem takenSize_le_of_finish? {rest : List Char} {text : String}
    (h : scan? ⟨.word text :: taken, .between⟩ (rest ++ ['"']) = some t)
    (hfinish : t.finish? = some (taken.reverse ++ .word text :: more)) :
    takenSize more ≤ rest.length := by
  obtain ⟨u, -, hquote⟩ := scan?_concat h
  obtain ⟨⟨word, hbare⟩, hheld⟩ := weight_of_finish? hquote hfinish
  have hclosing := weight_of_closing h hbare
  rw [hheld, takenSize_append, takenSize_reverse] at hclosing
  simp only [takenSize, Token.size] at hclosing
  omega

/-- Suppose a text between double quotes is read as it is and other words follow.
Then the text is literal, if there is no blank after it so near that the reading
could have passed the closing quote and still have had enough for these words. -/
theorem isLiteral_of_finish? {text text' : String} {tail : List Char}
    (h : scan? ⟨taken, .double []⟩ (text.toList ++ '"' :: ' ' :: (tail ++ ['"'])) = some t)
    (hfinish : t.finish? = some (taken.reverse ++ .word text :: .word text' :: more))
    (hgap : ∀ c ∈ tail.take (tail.length - takenSize (.word text' :: more)), isBlank c = false) :
    isLiteral text.toList = true := by
  have hmode : Mode.double [] ≠ .between := nofun
  obtain ⟨front, blank, rest, hsplit, hblank, hfront, hrest⟩ := split_of_finish? hmode h hfinish
  have hget : (text.toList ++ '"' :: ' ' :: (tail ++ ['"']))[front.length]? = some blank := by
    simp [hsplit]
  have hends : (text.toList ++ '"' :: ' ' :: tail) ++ ['"'] = front ++ blank :: rest := by
    rw [← hsplit, List.append_assoc, List.cons_append, List.cons_append]
  have hother : blank ≠ '"' := by
    rintro rfl
    cases hblank
  obtain ⟨rest, rfl⟩ := exists_eq_concat hends hother
  have hlength := congrArg List.length hsplit
  simp only [List.length_append, List.length_cons, List.length_nil] at hlength
  have henough : takenSize (.word text' :: more) ≤ rest.length :=
    takenSize_le_of_finish? hrest hfinish
  have hlower : text.toList.length ≤ front.length := by
    simpa using length_le_of_scan?_double hfront
  rcases Nat.lt_trichotomy front.length (text.toList.length + 1) with hlt | heq | hgt
  · -- the closing quote is no blank
    have hquote : '"' = blank := by
      simpa [show front.length = text.toList.length by omega] using hget
    exact absurd hquote.symm hother
  · -- the blank is the one after the closing quote
    have hwhole : text.toList ++ ['"'] = front := by
      have happend : (text.toList ++ ['"']) ++ ' ' :: (tail ++ ['"']) =
          front ++ blank :: (rest ++ ['"']) := by
        rw [← hsplit, List.append_assoc, List.singleton_append]
      exact (List.append_inj happend (by simp [heq])).1
    rw [← hwhole] at hfront
    exact isLiteral_of_scan? hfront
  · -- a later blank would have to be in the gap
    obtain ⟨k, hk⟩ : ∃ k, front.length = text.toList.length + (k + 2) :=
      ⟨front.length - text.toList.length - 2, by omega⟩
    have hspare : k < tail.length - takenSize (.word text' :: more) := by omega
    rw [hk, List.getElem?_append_right (by omega), Nat.add_sub_cancel_left,
      List.getElem?_cons_succ, List.getElem?_cons_succ,
      List.getElem?_append_left (by omega)] at hget
    have hmem : blank ∈ tail.take (tail.length - takenSize (.word text' :: more)) := by
      refine List.mem_of_getElem? (i := k) ?_
      rw [List.getElem?_take_of_lt hspare, hget]
    have hnot := hgap blank hmem
    rw [hblank] at hnot
    cases hnot

/-- A quoted text that is read as the last word is literal. -/
theorem isLiteral_of_finish?_last {text : String}
    (h : scan? ⟨taken, .double []⟩ (text.toList ++ ['"']) = some t)
    (hfinish : t.finish? = some (taken.reverse ++ [.word text])) :
    isLiteral text.toList = true := by
  obtain ⟨u, -, hquote⟩ := scan?_concat h
  obtain ⟨⟨word, hbare⟩, -⟩ := weight_of_finish? hquote hfinish
  obtain ⟨later, mode⟩ := t
  obtain rfl : mode = .bare word := hbare
  have htokens : later.reverse ++ [.word (String.ofList word.reverse)] =
      taken.reverse ++ [.word text] := by
    simpa [Scan.finish?, Scan.endWord] using hfinish
  obtain ⟨hlater, hword⟩ := List.append_inj' htokens rfl
  obtain rfl : later = taken := List.reverse_inj.1 hlater
  obtain rfl : text.toList.reverse = word := by
    have hlast : String.ofList word.reverse = text := by simpa using hword
    rw [← hlast, String.toList_ofList, List.reverse_reverse]
  exact isLiteral_of_scan? h

end VmLifecycle.Shell
