import VmLifecycle.Text.Blank

/-!
# What cutting and trimming give

The pieces of a text are the only ones that hold no separator and are the text again with a
separator between each two. What trimming leaves is the only stretch of a text with nothing but
blanks around it and no blank at its own ends.
-/

namespace VmLifecycle.Text

variable {sep : Char → Bool} {c : Char} {cs piece : List Char} {others : List (List Char)}
  {s t : String} {items : List String}

/-! ## Pieces -/

theorem not_sep_of_mem_pieces (h : piece ∈ pieces sep cs) (hc : c ∈ piece) : sep c = false := by
  induction cs generalizing piece with
  | nil =>
      obtain rfl := List.mem_singleton.1 h
      cases hc
  | cons d cs ih =>
      cases hd : sep d with
      | true =>
          rw [pieces_cons_sep hd] at h
          rcases List.mem_cons.1 h with rfl | h
          · cases hc
          · exact ih h hc
      | false =>
          obtain ⟨first, others, hpieces⟩ := List.exists_cons_of_ne_nil (pieces_ne_nil sep cs)
          rw [pieces_cons_of_not hd hpieces] at h
          rcases List.mem_cons.1 h with rfl | h
          · rcases List.mem_cons.1 hc with rfl | hc
            · exact hd
            · exact ih (by simp [hpieces]) hc
          · exact ih (by simp [hpieces, h]) hc

/-- Pieces that were put together come apart again. -/
theorem pieces_intercalate {parts : List (List Char)} (hne : parts ≠ [])
    (hparts : ∀ part ∈ parts, c ∉ part) :
    pieces (· = c) (List.intercalate [c] parts) = parts := by
  induction parts with
  | nil => exact absurd rfl hne
  | cons part rest ih =>
      obtain ⟨hpart, hrest⟩ := List.forall_mem_cons.1 hparts
      have hplain : ∀ x ∈ part, decide (x = c) = false := by
        intro x hx
        refine decide_eq_false ?_
        rintro rfl
        exact hpart hx
      by_cases hlast : rest = []
      · subst hlast
        rw [List.intercalate_singleton, pieces_of_none hplain]
      · rw [List.intercalate_cons_of_ne_nil hlast, List.append_assoc, List.singleton_append,
          pieces_append hplain (decide_eq_true rfl), ih hlast hrest]

theorem exists_part_of_mem_intercalate {parts : List (List Char)} {mark : Char}
    (h : c ∈ List.intercalate [mark] parts) (hc : c ≠ mark) : ∃ part ∈ parts, c ∈ part := by
  induction parts with
  | nil => cases h
  | cons part rest ih =>
      by_cases hlast : rest = []
      · subst hlast
        rw [List.intercalate_singleton] at h
        exact ⟨part, List.mem_cons_self, h⟩
      · rw [List.intercalate_cons_of_ne_nil hlast, List.mem_append, List.mem_append] at h
        rcases h with (h | h) | h
        · exact ⟨part, List.mem_cons_self, h⟩
        · exact absurd (List.mem_singleton.1 h) hc
        · obtain ⟨later, hlater, hmem⟩ := ih h
          exact ⟨later, List.mem_cons_of_mem _ hlater, hmem⟩

/-! ## Comma-separated lists -/

/-- The items of a text: there is a comma between each two of them, and none inside. -/
structure IsCommaList (s : String) (items : List String) : Prop where
  nonempty : items ≠ []
  noComma : ∀ item ∈ items, ',' ∉ item.toList
  joined : String.intercalate "," items = s

theorem isCommaList_commaItems (s : String) : IsCommaList s (commaItems s) where
  nonempty := by
    rw [commaItems, ne_eq, List.map_eq_nil_iff]
    exact pieces_ne_nil _ _
  noComma := by
    intro item hitem hcomma
    obtain ⟨piece, hpiece, rfl⟩ := List.mem_map.1 hitem
    rw [String.toList_ofList] at hcomma
    have hsep := not_sep_of_mem_pieces hpiece hcomma
    simp at hsep
  joined := by
    have hitems : (commaItems s).map String.toList = pieces (· = ',') s.toList := by
      simp [commaItems, Function.comp_def]
    rw [← String.toList_inj, String.toList_intercalate, hitems]
    exact intercalate_pieces ',' s.toList

/-- A text has the items of one list only. -/
theorem isCommaList_iff : IsCommaList s items ↔ items = commaItems s := by
  constructor
  · rintro ⟨hne, hcomma, rfl⟩
    have hparts : ∀ part ∈ items.map String.toList, ',' ∉ part := by simpa using hcomma
    have hcut := pieces_intercalate (by simpa using hne) hparts
    rw [commaItems, String.toList_intercalate]
    exact .symm (by simpa [Function.comp_def] using congrArg (List.map String.ofList) hcut)
  · rintro rfl
    exact isCommaList_commaItems s

theorem IsCommaList.exists_item (h : IsCommaList s items) (hc : c ∈ s.toList) (hcomma : c ≠ ',') :
    ∃ item ∈ items, c ∈ item.toList := by
  rw [← h.joined, String.toList_intercalate] at hc
  obtain ⟨part, hpart, hmem⟩ := exists_part_of_mem_intercalate hc hcomma
  obtain ⟨item, hitem, rfl⟩ := List.mem_map.1 hpart
  exact ⟨item, hitem, hmem⟩

/-! ## Trimming -/

/-- Nothing but blanks. -/
def IsBlank (s : String) : Prop :=
  ∀ c ∈ s.toList, isBlank c = true

/-- `t` is `s` without the blanks at its two ends. -/
structure IsTrimmed (s t : String) : Prop where
  within : ∃ before after, IsBlank before ∧ IsBlank after ∧ s = before ++ t ++ after
  first : ∀ c, t.toList.head? = some c → isBlank c = false
  last : ∀ c, t.toList.getLast? = some c → isBlank c = false

theorem not_isBlank_of_head?_dropWhile (h : (cs.dropWhile isBlank).head? = some c) :
    isBlank c = false := by
  have hfirst := List.head?_dropWhile_not isBlank cs
  rw [h] at hfirst
  exact hfirst

theorem not_isBlank_of_head?_trimmed (h : (trimmed cs).head? = some c) : isBlank c = false := by
  have hrest : trimmed cs <+: cs.dropWhile isBlank := by
    rw [trimmed, ← List.reverse_suffix, List.reverse_reverse]
    exact List.dropWhile_suffix isBlank
  obtain ⟨after, hrest⟩ := hrest
  have hfirst : (cs.dropWhile isBlank).head? = some c := by
    rw [← hrest, List.head?_append, h, Option.some_or]
  exact not_isBlank_of_head?_dropWhile hfirst

theorem not_isBlank_of_getLast?_trimmed (h : (trimmed cs).getLast? = some c) :
    isBlank c = false := by
  rw [trimmed, List.getLast?_reverse] at h
  exact not_isBlank_of_head?_dropWhile h

theorem isTrimmed_trim (s : String) : IsTrimmed s (trim s) where
  within := by
    obtain ⟨before, after, hbefore, hafter, hs⟩ := exists_eq_trimmed s.toList
    refine ⟨String.ofList before, String.ofList after, by simpa [IsBlank] using hbefore,
      by simpa [IsBlank] using hafter, ?_⟩
    rw [trim, ← String.ofList_append, ← String.ofList_append, List.append_assoc, ← hs,
      String.ofList_toList]
  first := by
    intro c hc
    rw [trim, String.toList_ofList] at hc
    exact not_isBlank_of_head?_trimmed hc
  last := by
    intro c hc
    rw [trim, String.toList_ofList] at hc
    exact not_isBlank_of_getLast?_trimmed hc

/-- Trimming takes nothing off a text but blanks. -/
theorem IsTrimmed.mem (h : IsTrimmed s t) (hc : c ∈ s.toList) (hblank : isBlank c = false) :
    c ∈ t.toList := by
  obtain ⟨before, after, hbefore, hafter, rfl⟩ := h.within
  rw [String.toList_append, String.toList_append, List.mem_append, List.mem_append] at hc
  rcases hc with (hc | hc) | hc
  · rw [hbefore c hc] at hblank
    cases hblank
  · exact hc
  · rw [hafter c hc] at hblank
    cases hblank

theorem trim_eq_empty_iff : trim s = "" ↔ IsBlank s := by
  constructor
  · intro h c hc
    rw [← Bool.not_eq_false]
    intro hblank
    have hmem := (isTrimmed_trim s).mem hc hblank
    rw [h] at hmem
    cases hmem
  · intro h
    have hnone : (s.toList ++ []).dropWhile isBlank = [] := dropWhile_isBlank_append h nofun
    rw [List.append_nil] at hnone
    rw [trim, trimmed, hnone]
    rfl

/-- A text can be trimmed in one way only. -/
theorem isTrimmed_iff : IsTrimmed s t ↔ trim s = t := by
  constructor
  · rintro ⟨⟨before, after, hbefore, hafter, rfl⟩, hfirst, hlast⟩
    by_cases ht : t = ""
    · subst ht
      rw [trim_eq_empty_iff, String.append_empty, IsBlank, String.toList_append,
        List.forall_mem_append]
      exact ⟨hbefore, hafter⟩
    · have hcs : t.toList ≠ [] := fun h => ht (String.toList_eq_nil_iff.1 h)
      rw [trim, String.toList_append, String.toList_append, List.append_assoc,
        trimmed_append hbefore hafter hfirst hlast hcs, String.ofList_toList]
  · rintro rfl
    exact isTrimmed_trim s

end VmLifecycle.Text
