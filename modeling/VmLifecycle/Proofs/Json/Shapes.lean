import VmLifecycle.Proofs.Json.Tokens
import Mathlib.Data.List.Forall2

/-!
# Values of each shape are read from every way to write them

A value may be written in more than one way: a string by any spelling, a list of texts with
any blanks. From each of them, before anything that ends a numeral, the value is read back and
nothing behind it is taken.
-/

namespace VmLifecycle.Json

variable {α : Type} {label value blanks rest : List Char} {bound : Nat}

/-- An item between brackets whose label and value are as told, with blanks where they may be. -/
structure Item.Is (label value : List Char → Prop) (item : Item) : Prop where
  label : label item.label
  before : Blanks item.before
  value : value item.value
  after : Blanks item.after

theorem Item.Is.mono {plabel pvalue pvalue' : List Char → Prop} {item : Item}
    (h : item.Is plabel pvalue) (hvalue : ∀ s, pvalue s → pvalue' s) : item.Is plabel pvalue' :=
  ⟨h.label, h.before, hvalue _ h.value, h.after⟩

namespace Shape

/-- The ways to write a value. -/
def Written : (shape : Shape) → shape.Carrier → List Char → Prop
  | .text, content, s => StringFor content s
  | .address, ip, s => StringFor ip.toText s
  | .word16, n, s => s = Text.decimal n.toNat
  | .word32, n, s => s = Text.decimal n.toNat
  | .word64, n, s => s = Text.decimal n.toNat
  | .flag, b, s => s = Shape.write .flag b
  | .texts, contents, s => ∃ blanks items, Blanks blanks ∧
    List.Forall₂ (fun content item => Item.Is (· = []) (StringFor content) item) contents items ∧
    s = Bracket.list.enclose blanks items

/-- The kinds of token that a value can begin with. -/
inductive Kind where
  | string
  | number
  | flag
  | list
deriving DecidableEq

def kind : Shape → Kind
  | .text => .string
  | .address => .string
  | .word16 => .number
  | .word32 => .number
  | .word64 => .number
  | .flag => .flag
  | .texts => .list

end Shape

/-! ## The items of a list -/

theorem skipsBlanks_anotherItem (first : Bool) : SkipsBlanks (anotherItem first) :=
  skipsBlanks_peek.bind _

/-- What the comma before an item is looked for in: it is taken, and the item is next. -/
theorem takes_anotherItem {c : Char} (hc : isSpace c = false) (hend : c ≠ ']')
    {before : List Char} (hbefore : Blanks before) (s : List Char) :
    (first : Bool) → Takes (anotherItem first)
      ((if first then [] else [',']) ++ (before ++ c :: s)) true (c :: s)
  | true => by
      rw [if_pos rfl, List.nil_append]
      refine (skipsBlanks_anotherItem true).takes hbefore ((takes_peek hc s).bind ?_)
      split
      · rename_i h
        cases h
      · rename_i h
        exact absurd (Option.some.inj h) hend
      · exact takes_pure true _
  | false => by
      have hnext : Takes Reader.peek (before ++ c :: s) (some c) (c :: s) :=
        skipsBlanks_peek.takes hbefore (takes_peek hc s)
      refine (takes_peek (c := ',') rfl _).bind ((takes_skip ',' _).bind (hnext.bind ?_))
      split
      · rename_i h
        cases h
      · rename_i h
        exact absurd (Option.some.inj h) hend
      · exact takes_pure true _

theorem takes_anotherItem_end (first : Bool) (hblanks : Blanks blanks) (s : List Char) :
    Takes (anotherItem first) (blanks ++ ']' :: s) false (']' :: s) :=
  (skipsBlanks_anotherItem first).takes hblanks
    ((takes_peek (c := ']') rfl s).bind (takes_pure false _))

/-- Up to the value of the next item. -/
theorem takes_anotherItem_item {item : Item} (h : item.Is (· = []) Leads)
    (hblanks : Blanks blanks) (first : Bool) (s : List Char) :
    Takes (anotherItem first)
      (blanks ++ ((if first then [] else [',']) ++ (item.text ++ s))) true
      (item.value ++ (item.after ++ s)) := by
  obtain ⟨hlabel, hbefore, ⟨c, t, hvalue, hc, hend⟩, hafter⟩ := h
  have htext : item.text ++ s = item.before ++ c :: (t ++ (item.after ++ s)) := by
    simp [Item.text, hlabel, hvalue]
  rw [htext, hvalue]
  exact (skipsBlanks_anotherItem first).takes hblanks (takes_anotherItem hc hend hbefore _ first)

/-! ## Strings and lists of strings -/

theorem StringFor.exists_cons {text : String} (h : StringFor text value) :
    ∃ t, value = '"' :: t := by
  obtain ⟨w, -, rfl⟩ := h
  exact ⟨_, rfl⟩

theorem StringFor.leads {text : String} (h : StringFor text value) : Leads value := by
  obtain ⟨t, hvalue⟩ := h.exists_cons
  exact ⟨'"', t, hvalue, rfl, by decide⟩

theorem skipsBlanks_readText : SkipsBlanks readText :=
  skipsBlanks_peek.bind _

theorem takes_readText {text : String} (h : StringFor text value) (rest : List Char) :
    Takes readText (value ++ rest) text rest := by
  have hread := takes_stringAt h rest
  obtain ⟨t, rfl⟩ := h.exists_cons
  exact (takes_peek (c := '"') rfl _).bind hread

/-- The rounds over the texts that are left. -/
theorem exists_goes_texts {texts : List String} {items : List Item}
    (h : List.Forall₂ (fun text item => Item.Is (· = []) (StringFor text) item) texts items)
    (taken : List String) (first : Bool) (hblanks : Blanks blanks) (rest : List Char) :
    ∃ st t, Goes textsStep (first, taken) (blanks ++ (itemsText first items ++ ']' :: rest)) st t ∧
      Takes (textsStep st) t (.inr (taken.reverse ++ texts)) rest := by
  induction h generalizing taken first blanks with
  | nil =>
      refine ⟨_, _, .refl _ _, ?_⟩
      rw [itemsText_nil, List.append_nil]
      exact (takes_anotherItem_end first hblanks rest).bind
        ((takes_skip ']' rest).bind (takes_pure _ rest))
  | @cons text item texts items hitem _ ih =>
      obtain ⟨st, t, hgoes, hend⟩ := ih (text :: taken) false hitem.after
      have hround : Takes (textsStep (first, taken))
          (blanks ++ (itemsText first (item :: items) ++ ']' :: rest))
          (.inl (false, text :: taken))
          (item.after ++ (itemsText false items ++ ']' :: rest)) := by
        rw [itemsText_cons, List.append_assoc, List.append_assoc]
        exact (takes_anotherItem_item (hitem.mono fun _ hs => hs.leads) hblanks first _).bind
          ((takes_readText hitem.value _).bind (takes_pure _ _))
      refine ⟨st, t, .round hround ?_ hgoes, by simpa using hend⟩
      obtain ⟨c, hvalue⟩ := hitem.value.exists_cons
      simp only [itemsText_cons, Item.text, hvalue, List.length_append, List.length_cons]
      omega

theorem takes_readTexts {texts : List String} (h : Shape.Written .texts texts value)
    (rest : List Char) : Takes readTexts (value ++ rest) texts rest := by
  obtain ⟨blanks, items, hblanks, hitems, rfl⟩ := h
  obtain ⟨st, t, hgoes, hend⟩ := exists_goes_texts hitems [] true hblanks rest
  rw [Bracket.enclose_append]
  exact (takes_peek (c := '[') rfl _).bind ((takes_skip '[' _).bind (hgoes.takes_untilDone hend))

/-! ## Reading back -/

namespace Shape

theorem skipsBlanks_read : (shape : Shape) → SkipsBlanks shape.read
  | .text => skipsBlanks_readText
  | .address => skipsBlanks_readText.bind _
  | .word16 => (skipsBlanks_peek.bind _).bind _
  | .word32 => (skipsBlanks_peek.bind _).bind _
  | .word64 => (skipsBlanks_peek.bind _).bind _
  | .flag => skipsBlanks_peek.bind _
  | .texts => skipsBlanks_peek.bind _

/-- A word is read as the number that it was written as. -/
theorem takes_word {ofNat : Nat → α} {word : α} {n : Nat} (hword : ofNat n = word)
    (hn : n < bound) (hbound : bound ≤ UInt64.size) (hrest : EndsNumeral rest) :
    Takes (do return ofNat (← readNatural bound)) (Text.decimal n ++ rest) word rest := by
  rw [← hword]
  exact (takes_readNatural hn hbound hrest).bind (takes_pure _ rest)

theorem takes_flag (flag : Bool) (rest : List Char) :
    Takes readFlag (Shape.write .flag flag ++ rest) flag rest := by
  cases flag with
  | true =>
      exact (takes_peek (c := 't') rfl _).bind
        ((takes_literal ['t', 'r', 'u', 'e'] rest).bind (takes_pure true rest))
  | false =>
      exact (takes_peek (c := 'f') rfl _).bind
        ((takes_literal ['f', 'a', 'l', 's', 'e'] rest).bind (takes_pure false rest))

/-- From each way to write it a value is read back. -/
theorem takes_read (shape : Shape) {v : shape.Carrier} (h : shape.Written v value)
    (hrest : EndsNumeral rest) : Takes shape.read (value ++ rest) v rest := by
  cases shape with
  | text => exact takes_readText h rest
  | address =>
      refine (takes_readText h rest).bind ?_
      rw [Ipv4.ofText?_toText]
      exact takes_pure v rest
  | word16 =>
      obtain rfl : value = Text.decimal v.toNat := h
      exact takes_word UInt16.ofNat_toNat v.toNat_lt (by decide) hrest
  | word32 =>
      obtain rfl : value = Text.decimal v.toNat := h
      exact takes_word UInt32.ofNat_toNat v.toNat_lt (by decide) hrest
  | word64 =>
      obtain rfl : value = Text.decimal v.toNat := h
      exact takes_word UInt64.ofNat_toNat v.toNat_lt (by decide) hrest
  | flag =>
      obtain rfl : value = Shape.write .flag v := h
      exact takes_flag v rest
  | texts => exact takes_readTexts h rest

end Shape

/-! ## The written form is one way -/

theorem itemsText_eq_intercalate (items : List Item) :
    itemsText true items = List.intercalate [','] (items.map Item.text) := by
  induction items with
  | nil => rfl
  | cons item items ih =>
      cases items with
      | nil => simp [itemsText, List.intercalate]
      | cons next items =>
          have hstep : itemsText true (item :: next :: items) =
              item.text ++ ',' :: itemsText true (next :: items) := rfl
          rw [hstep, ih]
          simp [List.intercalate]

theorem enclose_eq (bracket : Bracket) (items : List Item) :
    bracket.enclose [] items =
      bracket.opening :: List.intercalate [','] (items.map Item.text) ++ [bracket.closing] := by
  simp [Bracket.enclose, itemsText_eq_intercalate]

/-- The item of a value that is written without a blank. -/
def Item.compact (label value : List Char) : Item :=
  ⟨label, [], value, []⟩

theorem Item.compact_text (label value : List Char) :
    (Item.compact label value).text = label ++ value := by
  simp [Item.compact, Item.text]

theorem Item.is_compact {plabel pvalue : List Char → Prop} (hlabel : plabel label)
    (hvalue : pvalue value) : (Item.compact label value).Is plabel pvalue :=
  ⟨hlabel, blanks_nil, hvalue, blanks_nil⟩

theorem Shape.write_texts_eq (contents : List String) :
    Shape.write .texts contents =
      Bracket.list.enclose [] (contents.map fun content => .compact [] (stringToken content)) := by
  have htexts : (contents.map fun content => Item.compact [] (stringToken content)).map
      Item.text = contents.map stringToken := by simp [Item.compact_text]
  rw [enclose_eq, htexts]
  rfl

theorem written_texts (contents : List String) :
    Shape.Written .texts contents (Shape.write .texts contents) := by
  refine ⟨[], contents.map fun content => .compact [] (stringToken content), blanks_nil, ?_,
    Shape.write_texts_eq contents⟩
  rw [List.forall₂_map_right_iff, List.forall₂_same]
  exact fun content _ => Item.is_compact rfl (stringFor_stringToken content)

theorem Shape.written_write (shape : Shape) (v : shape.Carrier) :
    shape.Written v (shape.write v) := by
  cases shape with
  | text => exact stringFor_stringToken v
  | address => exact stringFor_stringToken v.toText
  | word16 => exact rfl
  | word32 => exact rfl
  | word64 => exact rfl
  | flag => exact rfl
  | texts => exact written_texts v

end VmLifecycle.Json
