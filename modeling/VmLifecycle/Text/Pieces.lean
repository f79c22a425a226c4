/-!
# Pieces of a text

Cutting a list of characters at every separator. A text with `n` separators
has exactly `n + 1` pieces, some of which may be empty.
-/

namespace VmLifecycle.Text

/-- The stretches between separators, in order. Two separators in a row
enclose an empty piece, and so does a separator at either end. -/
def pieces (sep : Char → Bool) (cs : List Char) : List (List Char) :=
  cs.foldr (fun c rest =>
    if sep c then [] :: rest
    else match rest with
      | [] => [[c]]
      | piece :: others => (c :: piece) :: others) [[]]

@[simp] theorem pieces_nil (sep : Char → Bool) : pieces sep [] = [[]] := rfl

theorem pieces_cons_sep {sep : Char → Bool} {c : Char} (h : sep c = true) (cs : List Char) :
    pieces sep (c :: cs) = [] :: pieces sep cs := by
  simp [pieces, h]

theorem pieces_ne_nil (sep : Char → Bool) (cs : List Char) : pieces sep cs ≠ [] := by
  induction cs with
  | nil => simp
  | cons c cs ih =>
    cases h : sep c
    · simp only [pieces, List.foldr_cons, h, Bool.false_eq_true, if_false]
      split <;> simp
    · simp [pieces_cons_sep h]

theorem pieces_cons_of_not {sep : Char → Bool} {c : Char} (h : sep c = false)
    {cs piece : List Char} {others : List (List Char)} (hp : pieces sep cs = piece :: others) :
    pieces sep (c :: cs) = (c :: piece) :: others := by
  simp only [pieces, List.foldr_cons, h] at hp ⊢
  rw [hp]
  rfl

/-- A text without a separator is one piece. -/
theorem pieces_of_none {sep : Char → Bool} {cs : List Char} (h : ∀ x ∈ cs, sep x = false) :
    pieces sep cs = [cs] := by
  induction cs with
  | nil => rfl
  | cons x cs ih => exact pieces_cons_of_not (h x (by simp)) (ih fun y hy => h y (by simp [hy]))

/-- What stands before the first separator is the first piece. -/
theorem pieces_append {sep : Char → Bool} {c : Char} {piece : List Char}
    (hp : ∀ x ∈ piece, sep x = false) (hc : sep c = true) (rest : List Char) :
    pieces sep (piece ++ c :: rest) = piece :: pieces sep rest := by
  induction piece with
  | nil => exact pieces_cons_sep hc rest
  | cons x piece ih =>
    exact pieces_cons_of_not (hp x (by simp)) (ih fun y hy => hp y (by simp [hy]))

/-- The pieces of a text, with the separator between them again, are the text. -/
theorem intercalate_pieces (c : Char) (cs : List Char) :
    List.intercalate [c] (pieces (· = c) cs) = cs := by
  induction cs with
  | nil => rfl
  | cons x cs ih =>
      have hne := pieces_ne_nil (· = c) cs
      by_cases hx : x = c
      · rw [pieces_cons_sep (by simpa using hx), List.intercalate_cons_of_ne_nil hne, ih, hx]
        rfl
      · obtain ⟨piece, others, hp⟩ := List.exists_cons_of_ne_nil hne
        rw [hp] at ih
        rw [pieces_cons_of_not (by simpa using hx) hp, ← ih]
        cases others <;> simp

/-- The lines of a text: its pieces between line feeds. -/
def lines (s : String) : List (List Char) :=
  pieces (· = '\n') s.toList

/-- The items of a comma-separated list, untrimmed. -/
def commaItems (s : String) : List String :=
  (pieces (· = ',') s.toList).map String.ofList

end VmLifecycle.Text
