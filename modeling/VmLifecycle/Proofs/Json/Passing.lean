import VmLifecycle.Proofs.Json.Tokens

/-!
# Values are passed over to their end

The walk through a value whose content does not matter ends right behind the value, whatever
the value, by induction on the grammar. Inside brackets the walk stands, after each item, in
the same place with one item less to pass.
-/

namespace VmLifecycle.Json

variable {s label value rest : List Char} {bracket : Bracket} {pending : List Bracket}

/-! ## What may stand behind a value -/

theorem Blanks.endsNumeral_append {blanks : List Char} (hblanks : Blanks blanks)
    (hrest : EndsNumeral rest) : EndsNumeral (blanks ++ rest) := by
  cases blanks with
  | nil => exact hrest
  | cons c blanks =>
      refine endsNumeral_cons ?_ _
      have hc : Json.isSpace c = true := hblanks.isSpace c List.mem_cons_self
      rcases isSpace_iff.1 hc with rfl | rfl | rfl | rfl <;> decide

theorem endsNumeral_items (items : List Item) (bracket : Bracket) (rest : List Char) :
    EndsNumeral (itemsText false items ++ bracket.closing :: rest) := by
  cases items with
  | nil => exact endsNumeral_cons (by cases bracket <;> decide) rest
  | cons item items => exact endsNumeral_cons (by decide) _

/-! ## Keys -/

theorem takes_passText {w : List Char} (h : StringInside w) (rest : List Char) :
    Takes passText ('"' :: (w ++ '"' :: rest)) () rest :=
  (takes_skip '"' _).bind ((takes_get _).bind
    ((takes_lift (passString_inside h rest) _).bind (takes_set _ rest)))

theorem takes_mark_blanks {c : Char} (hc : isSpace c = false) {blanks : List Char}
    (hblanks : Blanks blanks) (rest : List Char) :
    Takes (Reader.mark c) (blanks ++ c :: rest) () rest :=
  (skipsBlanks_peek.bind _).takes hblanks (takes_mark hc rest)

theorem takes_nextItem (h : bracket.Labels label) (rest : List Char) :
    Takes bracket.nextItem (label ++ rest) () rest := by
  cases bracket with
  | list =>
      obtain rfl : label = [] := h
      exact takes_pure () rest
  | object =>
      obtain ⟨before, key, after, hbefore, ⟨w, hw, rfl⟩, hafter, rfl⟩ := h
      have htext : before ++ ('"' :: (w ++ ['"']) ++ (after ++ [':'])) ++ rest =
          before ++ '"' :: (w ++ '"' :: (after ++ ':' :: rest)) := by simp
      rw [htext]
      refine (skipsBlanks_peek.bind _).takes hbefore ((takes_peek (c := '"') rfl _).bind ?_)
      exact (takes_passText hw _).bind (takes_mark_blanks rfl hafter rest)

/-! ## One value -/

/-- A value is passed over to its end: its first token begins a walk that ends behind it. -/
def Passes (value : List Char) : Prop :=
  ∀ (pending : List Bracket) {rest : List Char}, EndsNumeral rest →
    ∃ walk t, Takes (passStart pending) (value ++ rest) walk t ∧
      t.length < (value ++ rest).length ∧ Goes passStep walk t (.after pending) rest

theorem skipsBlanks_passStart (pending : List Bracket) : SkipsBlanks (passStart pending) :=
  skipsBlanks_peek.bind _

/-- A value of one token is passed over at once. -/
theorem passes_of_takes (hvalue : value ≠ []) (h : ∀ (pending : List Bracket)
    {rest : List Char}, EndsNumeral rest →
      Takes (passStart pending) (value ++ rest) (.after pending) rest) : Passes value := by
  intro pending rest hrest
  have hlength := List.length_pos_iff.2 hvalue
  refine ⟨_, rest, h pending hrest, ?_, .refl _ _⟩
  rw [List.length_append]
  omega

theorem passes_literal (hword : value ∈ literals) : Passes value := by
  simp only [literals, List.mem_cons, List.not_mem_nil, or_false] at hword
  rcases hword with rfl | rfl | rfl
  all_goals
    refine passes_of_takes (by simp) fun pending rest _ => ?_
    exact (takes_peek rfl _).bind ((takes_literal _ rest).bind (takes_pure _ rest))

theorem passes_string {w : List Char} (hw : StringInside w) : Passes ('"' :: (w ++ ['"'])) := by
  refine passes_of_takes (by simp) fun pending rest _ => ?_
  have htext : '"' :: (w ++ ['"']) ++ rest = '"' :: (w ++ '"' :: rest) := by simp
  rw [htext]
  exact (takes_peek (c := '"') rfl _).bind ((takes_passText hw rest).bind (takes_pure _ rest))

theorem takes_passStart_numeral {c : Char} {n : Numeral} (hc : c = '-' ∨ c.isDigit = true)
    (hscan : scanNumeral .malformed (c :: s) = .ok (n, rest)) (pending : List Bracket) :
    Takes (passStart pending) (c :: s) (.after pending) rest := by
  refine (takes_peek (not_isSpace_of_digit hc) s).bind ?_
  split
  case h_8 d hd =>
    cases hd
    rw [if_pos (by simpa using hc)]
    exact (takes_get _).bind
      ((takes_lift hscan _).bind ((takes_set _ rest).bind (takes_pure _ rest)))
  all_goals
    rename_i heq
    cases heq
    try exact absurd hc (by decide)

theorem passes_numeral (h : IsNumeral value) : Passes value := by
  obtain ⟨c, t, hcons, hc⟩ := h.exists_cons
  refine passes_of_takes (by rw [hcons]; simp) fun pending rest hrest => ?_
  obtain ⟨n, hscan⟩ := exists_scanNumeral h hrest .malformed
  rw [hcons, List.cons_append] at hscan ⊢
  exact takes_passStart_numeral hc hscan pending

/-- What a value begins with cannot be taken for anything else that may stand there. -/
theorem Value.leads (h : Value value) : Leads value := by
  cases h with
  | literal hword =>
      simp only [literals, List.mem_cons, List.not_mem_nil, or_false] at hword
      rcases hword with rfl | rfl | rfl <;> exact ⟨_, _, rfl, rfl, by decide⟩
  | numeral hs =>
      obtain ⟨c, t, rfl, hc⟩ := hs.exists_cons
      refine ⟨c, t, rfl, not_isSpace_of_digit hc, ?_⟩
      rintro rfl
      exact absurd hc (by decide)
  | string hw => exact ⟨'"', _, rfl, rfl, by decide⟩
  | @brackets bracket blanks items _ _ _ _ _ =>
      cases bracket <;> exact ⟨_, _, rfl, rfl, by decide⟩

/-! ## Items between brackets -/

/-- An item that may stand between these brackets and whose value is passed over. -/
structure PassesItem (bracket : Bracket) (item : Item) : Prop where
  label : bracket.Labels item.label
  before : Blanks item.before
  value : Value item.value
  passes : Passes item.value
  after : Blanks item.after

/-- Where the walk stands between brackets, before their first item or behind one. -/
def Walk.inside (first : Bool) (bracket : Bracket) (pending : List Bracket) : Walk :=
  if first then .opened bracket pending else .after (bracket :: pending)

theorem skipsBlanks_passStep_inside (first : Bool) (bracket : Bracket) (pending : List Bracket) :
    SkipsBlanks (passStep (.inside first bracket pending)) := by
  cases first <;> exact skipsBlanks_peek.bind _

theorem takes_passStep_closing (first : Bool) (bracket : Bracket) (pending : List Bracket)
    (rest : List Char) :
    Takes (passStep (.inside first bracket pending)) (bracket.closing :: rest)
      (.inl (.after pending)) rest := by
  have hspace : isSpace bracket.closing = false := by cases bracket <;> rfl
  have hskip {x : Reader (Walk ⊕ Unit)} : Takes (if bracket.closing = bracket.closing then do
      Reader.skip
      return .inl (.after pending) else x) (bracket.closing :: rest) (.inl (.after pending))
      rest := by
    rw [if_pos rfl]
    exact (takes_skip _ rest).bind (takes_pure _ rest)
  cases first with
  | true => exact (takes_peek hspace rest).bind hskip
  | false => exact (takes_peek hspace rest).bind hskip

/-- Behind an item a comma and the key of the next are taken, if it must have one. -/
theorem takes_passStep_comma (hlabel : bracket.Labels label) (pending : List Bracket)
    (rest : List Char) :
    Takes (passStep (.inside false bracket pending)) (',' :: (label ++ rest))
      (.inl (.before (bracket :: pending))) rest := by
  refine (takes_peek (c := ',') rfl _).bind ?_
  show Takes (if ',' = bracket.closing then _ else if ',' = ',' then _ else _) _ _ _
  rw [if_neg (by cases bracket <;> decide), if_pos rfl]
  exact (takes_skip ',' _).bind ((takes_nextItem hlabel _).bind (takes_pure _ _))

variable {item : Item}

/-- Takes the key of an item, if it must have one, and begins its value. -/
def enterItem (bracket : Bracket) (pending : List Bracket) : Reader (Walk ⊕ Unit) := do
  bracket.nextItem
  return .inl (← passStart (bracket :: pending))

theorem skipsBlanks_enterItem (bracket : Bracket) (pending : List Bracket) :
    SkipsBlanks (enterItem bracket pending) := by
  cases bracket with
  | list =>
      -- nothing is taken before the value
      have hstart : SkipsBlanks (do return .inl (← passStart (.list :: pending)) :
          Reader (Walk ⊕ Unit)) := (skipsBlanks_passStart _).bind _
      exact hstart
  | object => exact (skipsBlanks_peek.bind _).bind _

/-- The first character of an item is not the one that closes the brackets. -/
theorem PassesItem.exists_cons (h : PassesItem bracket item) :
    ∃ blanks c t, item.text = blanks ++ c :: t ∧ Blanks blanks ∧ isSpace c = false ∧
      c ≠ bracket.closing := by
  have hlabel := h.label
  cases bracket with
  | list =>
      obtain ⟨c, t, hvalue, hspace, hclosing⟩ := h.value.leads
      have hlabel : item.label = [] := hlabel
      refine ⟨item.before, c, t ++ item.after, ?_, h.before, hspace, hclosing⟩
      rw [Item.text, hlabel, hvalue]
      rfl
  | object =>
      obtain ⟨before, key, after, hbefore, ⟨w, -, rfl⟩, -, hlabel⟩ := hlabel
      refine ⟨before, '"',
        w ++ '"' :: (after ++ ':' :: (item.before ++ (item.value ++ item.after))),
        ?_, hbefore, rfl, by decide⟩
      simp [Item.text, hlabel]

/-- The walk from the blanks before the value of an item to its end. -/
theorem PassesItem.exists_takes_passStart (h : PassesItem bracket item) (pending : List Bracket)
    (hrest : EndsNumeral rest) :
    ∃ walk t, Takes (passStart (bracket :: pending))
        (item.before ++ (item.value ++ (item.after ++ rest))) walk t ∧
      t.length < (item.before ++ (item.value ++ (item.after ++ rest))).length ∧
      Goes passStep walk t (.after (bracket :: pending)) (item.after ++ rest) := by
  obtain ⟨walk, t, hstart, hless, hgoes⟩ :=
    h.passes (bracket :: pending) (h.after.endsNumeral_append hrest)
  refine ⟨walk, t, (skipsBlanks_passStart _).takes h.before hstart, ?_, hgoes⟩
  rw [List.length_append]
  omega

/-- From before an item the walk gets to behind it. -/
theorem goes_item (h : PassesItem bracket item) (pending : List Bracket)
    (hrest : EndsNumeral rest) :
    (first : Bool) → {blanks : List Char} → Blanks blanks →
      Goes passStep (.inside first bracket pending)
        (blanks ++ ((if first then [] else [',']) ++ (item.text ++ rest)))
        (.after (bracket :: pending)) (item.after ++ rest)
  | true, blanks, hblanks => by
      obtain ⟨walk, t, hstart, hless, hgoes⟩ := h.exists_takes_passStart pending hrest
      obtain ⟨front, c, tail, htext, hfront, hspace, hclosing⟩ := h.exists_cons
      have henter : Takes (enterItem bracket pending) (item.text ++ rest) (.inl walk) t := by
        rw [item.text_append]
        exact (takes_nextItem h.label _).bind (hstart.bind (takes_pure _ t))
      -- the blanks in front of the item are dropped before it is looked at
      have hdropped : Takes (enterItem bracket pending) (c :: (tail ++ rest)) (.inl walk) t := by
        rw [htext, List.append_assoc] at henter
        exact (skipsBlanks_enterItem bracket pending _ _ hfront).symm.trans henter
      refine .round (t := t) ((skipsBlanks_passStep_inside _ _ _).takes hblanks ?_) ?_ hgoes
      · rw [if_pos rfl, List.nil_append, htext, List.append_assoc]
        refine (skipsBlanks_passStep_inside true bracket pending).takes hfront ?_
        refine (takes_peek hspace (tail ++ rest)).bind ?_
        show Takes (if c = bracket.closing then _ else _) _ _ _
        rw [if_neg hclosing]
        exact hdropped
      · rw [item.text_append]
        simp only [List.length_append] at hless ⊢
        omega
  | false, blanks, hblanks => by
      obtain ⟨walk, t, hstart, hless, hgoes⟩ := h.exists_takes_passStart pending hrest
      rw [item.text_append]
      refine .round ((skipsBlanks_passStep_inside _ _ _).takes hblanks
        (takes_passStep_comma h.label pending _)) ?_ ?_
      · simp only [List.length_append, Bool.false_eq_true, if_false, List.length_singleton]
        omega
      · exact .round (hstart.bind (takes_pure _ t)) hless hgoes

/-- From before the items that are left the walk gets to behind their brackets. -/
theorem goes_items {items : List Item} (hitems : ∀ item ∈ items, PassesItem bracket item)
    (pending : List Bracket) (rest : List Char) (first : Bool) {blanks : List Char}
    (hblanks : Blanks blanks) :
    Goes passStep (.inside first bracket pending)
      (blanks ++ (itemsText first items ++ bracket.closing :: rest)) (.after pending) rest := by
  induction items generalizing first blanks with
  | nil =>
      rw [itemsText_nil]
      refine .round ((skipsBlanks_passStep_inside _ _ _).takes hblanks
        (takes_passStep_closing first bracket pending rest)) ?_ (.refl _ _)
      simp only [List.length_append, List.length_cons]
      omega
  | cons item items ih =>
      obtain ⟨hitem, hitems⟩ := List.forall_mem_cons.1 hitems
      have hcons : itemsText first (item :: items) ++ bracket.closing :: rest =
          (if first then [] else [',']) ++
            (item.text ++ (itemsText false items ++ bracket.closing :: rest)) := by
        simp [itemsText_cons]
      rw [hcons]
      exact (goes_item hitem pending (endsNumeral_items items bracket rest) first hblanks).trans
        (ih hitems false hitem.after)

/-! ## Any value -/

theorem takes_passStart_opening (bracket : Bracket) (pending : List Bracket) (s : List Char) :
    Takes (passStart pending) (bracket.opening :: s) (.opened bracket pending) s := by
  cases bracket <;>
    exact (takes_peek rfl _).bind ((takes_skip _ s).bind (takes_pure _ s))

/-- Every value is passed over to its end, however deep its brackets. -/
theorem Value.passes (h : Value value) : Passes value := by
  induction h with
  | literal hword => exact passes_literal hword
  | numeral hs => exact passes_numeral hs
  | string hw => exact passes_string hw
  | @brackets bracket blanks items hblanks hlabels hbefore hvalues hafter ih =>
      intro pending rest _
      have hitems (item) (hitem : item ∈ items) : PassesItem bracket item :=
        ⟨hlabels item hitem, hbefore item hitem, hvalues item hitem, ih item hitem,
          hafter item hitem⟩
      rw [bracket.enclose_append]
      exact ⟨_, _, takes_passStart_opening bracket pending _, Nat.lt_succ_self _,
        goes_items hitems pending rest true hblanks⟩

theorem takes_passValue (h : Value value) (hrest : EndsNumeral rest) {blanks : List Char}
    (hblanks : Blanks blanks) : Takes passValue (blanks ++ (value ++ rest)) () rest := by
  obtain ⟨walk, t, hstart, hless, hgoes⟩ := h.passes [] hrest
  have hstart := (skipsBlanks_passStart _).takes hblanks hstart
  have hfirst : Takes (passStep (.before [])) (blanks ++ (value ++ rest)) (.inl walk) t :=
    hstart.bind (takes_pure _ t)
  refine Goes.takes_untilDone (.round hfirst ?_ hgoes) (takes_pure _ rest)
  simp only [List.length_append] at hless ⊢
  omega

end VmLifecycle.Json
