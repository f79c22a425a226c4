import VmLifecycle.Proofs.Json.Mismatch
import VmLifecycle.Proofs.Json.Objects

/-!
# Records are read from lists

The values of a list are those of the members, in order. A list may end early where all members
that are left may be left out. Values of which some do not fit their members, or are too few,
are a mismatch at the first place where that shows.
-/

namespace VmLifecycle.Json

variable {ms : List Member} {fields : List Field} {items : List Item} {rest blanks : List Char}

/-- The items of a list of the values of these fields. -/
def ListItems (fields : List Field) (items : List Item) : Prop :=
  List.Forall₂ (fun f item => Item.Is (· = []) f.Written item) fields items

/-- The list of the values of these fields, with blanks around it. -/
def ListText (fields : List Field) (s : List Char) : Prop :=
  ∃ before blanks items after, Blanks before ∧ Blanks blanks ∧ ListItems fields items ∧
    Blanks after ∧ s = before ++ (Bracket.list.enclose blanks items ++ after)

theorem Item.Is.leads {f : Field} {item : Item} (h : item.Is (· = []) f.Written) :
    item.Is (· = []) Leads :=
  h.mono fun _ hs => by
    obtain ⟨c, t, hvalue, hc⟩ := (Shape.Written.token hs).exists_cons
    refine ⟨c, t, hvalue, Shape.Kind.not_isSpace_of_of? hc, ?_⟩
    rintro rfl
    cases hc

/-- A row that holds only what is taken for members that are left out. -/
theorem Row.absent?_eq_some {row : Row ms}
    (h : ∀ f ∈ row.fields ms, f.1.shape.absent? = some f.2) : Row.absent? ms = some row := by
  induction ms with
  | nil => rfl
  | cons m ms ih =>
      obtain ⟨v, values⟩ := row
      obtain ⟨hv, hvalues⟩ := List.forall_mem_cons.1 h
      simp only [Row.absent?, hv, ih hvalues]

/-! ## One value, or the end -/

/-- Where a value is next, it is read, and then those of the members that are left. -/
theorem run_readValues_item {f : Field} {item : Item} (hitem : item.Is (· = []) f.Written)
    (hblanks : Blanks blanks) (m : Member) (first : Bool) (s : List Char) :
    (readValues (m :: ms) first).run
        (blanks ++ ((if first then [] else [',']) ++ (item.text ++ s))) =
      (do return (← m.shape.read, ← readValues ms false) : Reader (Row (m :: ms))).run
        (item.value ++ (item.after ++ s)) :=
  (takes_anotherItem_item hitem.leads hblanks first s).run_bind

theorem takes_readValues_end {m : Member} {row : Row (m :: ms)}
    (habsent : Row.absent? (m :: ms) = some row) (first : Bool) (hblanks : Blanks blanks)
    (rest : List Char) : Takes (readValues (m :: ms) first) (blanks ++ ']' :: rest) row rest := by
  refine (takes_anotherItem_end first hblanks rest).bind ?_
  generalize Row.absent? (m :: ms) = absent at habsent
  subst habsent
  exact (takes_skip ']' rest).bind (takes_pure row rest)

theorem fails_readValues_end {m : Member} (habsent : Row.absent? (m :: ms) = none)
    (first : Bool) (hblanks : Blanks blanks) (rest : List Char) :
    Fails (readValues (m :: ms) first) (blanks ++ ']' :: rest) .mismatched := by
  refine (takes_anotherItem_end first hblanks rest).bind_fails ?_
  generalize Row.absent? (m :: ms) = absent at habsent
  subst habsent
  exact fails_throw _ _

/-! ## All values -/

/-- The values of a row are read, if those that are not there may be left out. -/
theorem takes_readValues {row : Row ms} {left : List Field}
    (hrow : row.fields ms = fields ++ left) (hleft : ∀ f ∈ left, f.1.shape.absent? = some f.2)
    (hitems : ListItems fields items) (first : Bool) (hblanks : Blanks blanks)
    (rest : List Char) :
    Takes (readValues ms first) (blanks ++ (itemsText first items ++ ']' :: rest)) row rest := by
  induction ms generalizing fields items first blanks with
  | nil =>
      obtain ⟨rfl, rfl⟩ := List.append_eq_nil_iff.1 hrow.symm
      cases hitems
      rw [itemsText_nil]
      exact (takes_mark_blanks rfl hblanks rest).bind (takes_pure _ rest)
  | cons m ms ih =>
      obtain ⟨v, values⟩ := row
      cases hitems with
      | nil =>
          rw [List.nil_append] at hrow
          have habsent : Row.absent? (m :: ms) = some (v, values) :=
            Row.absent?_eq_some (by rw [hrow]; exact hleft)
          rw [itemsText_nil]
          exact takes_readValues_end habsent first hblanks rest
      | @cons f item fields items hitem hitems =>
          obtain ⟨rfl, hvalues⟩ := List.cons.inj hrow
          rw [itemsText_cons, List.append_assoc, List.append_assoc]
          have hread := m.shape.takes_read hitem.value
            (hitem.after.endsNumeral_append (endsNumeral_items items .list rest))
          refine (run_readValues_item hitem hblanks m first _).trans ?_
          exact hread.bind ((ih hvalues hitems false hitem.after).bind (takes_pure _ rest))

/-- Whether values of these members, in order, cannot be those of the members wanted: one is of
another kind, or there are too few. -/
def misfits : List Member → List Member → Bool
  | m :: ms, given :: others => m.shape.kind != given.shape.kind || misfits ms others
  | m :: ms, [] => (Row.absent? (m :: ms)).isNone
  | [], _ => false

/-- Values that do not fit are a mismatch. -/
theorem fails_readValues (hmisfits : misfits ms (fields.map Sigma.fst) = true)
    (hitems : ListItems fields items) (first : Bool) (hblanks : Blanks blanks)
    (rest : List Char) :
    Fails (readValues ms first) (blanks ++ (itemsText first items ++ ']' :: rest))
      .mismatched := by
  induction ms generalizing fields items first blanks with
  | nil => cases hmisfits
  | cons m ms ih =>
      cases hitems with
      | nil =>
          have habsent : Row.absent? (m :: ms) = none := Option.isNone_iff_eq_none.1 hmisfits
          rw [itemsText_nil]
          exact fails_readValues_end habsent first hblanks rest
      | @cons f item fields items hitem hitems =>
          rw [itemsText_cons, List.append_assoc, List.append_assoc]
          have hend : EndsNumeral (item.after ++ (itemsText false items ++ ']' :: rest)) :=
            hitem.after.endsNumeral_append (endsNumeral_items items .list rest)
          refine (run_readValues_item hitem hblanks m first _).trans ?_
          by_cases hkind : m.shape.kind = f.1.shape.kind
          · -- the value may be read even so, and the misfit comes later
            rcases m.shape.settles_read hitem.value hend with ⟨v, htakes⟩ | hfails
            · have hlater : misfits ms (fields.map Sigma.fst) = true := by
                simpa [misfits, hkind] using hmisfits
              exact htakes.bind_fails ((ih hlater hitems false hitem.after).bind _)
            · exact hfails.bind _
          · exact (Shape.fails_read hitem.value.token (Ne.symm hkind) hend).bind _

/-! ## The whole list -/

theorem run_readRow_list (ms : List Member) (s : List Char) :
    (readRow ms).run ('[' :: s) = (readValues ms true).run s :=
  (takes_peek (c := '[') rfl s).run_bind.trans (takes_skip '[' s).run_bind

theorem takes_readRow_list {row : Row ms} {left : List Field}
    (hrow : row.fields ms = fields ++ left) (hleft : ∀ f ∈ left, f.1.shape.absent? = some f.2)
    (hitems : ListItems fields items) (hblanks : Blanks blanks) (rest : List Char) :
    Takes (readRow ms) (Bracket.list.enclose blanks items ++ rest) row rest := by
  rw [Bracket.enclose_append]
  exact (run_readRow_list ms _).trans (takes_readValues hrow hleft hitems true hblanks rest)

theorem fails_readRow_list (hmisfits : misfits ms (fields.map Sigma.fst) = true)
    (hitems : ListItems fields items) (hblanks : Blanks blanks) (rest : List Char) :
    Fails (readRow ms) (Bracket.list.enclose blanks items ++ rest) .mismatched := by
  rw [Bracket.enclose_append]
  exact (run_readRow_list ms _).trans (fails_readValues hmisfits hitems true hblanks rest)

/-! ## Decoding -/

section Decoding

variable {α : Type} [Record α] {v : α} {text : String} {left : List Field}

/-- The list of the values of a record decodes to the record, also if values at its end are
left out that are as they are taken to be. -/
theorem decode_list (hfields : Record.fields v = fields ++ left)
    (hleft : ∀ f ∈ left, f.1.shape.absent? = some f.2) (htext : ListText fields text.toList) :
    decode text = .ok v := by
  obtain ⟨before, blanks, items, after, hbefore, hblanks, hitems, hafter, htext⟩ := htext
  refine decode_of_takes ?_ hafter
  rw [htext]
  exact (skipsBlanks_readRow _).takes hbefore
    (takes_readRow_list hfields hleft hitems hblanks after)

theorem decode_misfits (hmisfits : misfits (Record.members α) (fields.map Sigma.fst) = true)
    (htext : ListText fields text.toList) :
    (decode text : Except ReadError α) = .error .mismatched := by
  obtain ⟨before, blanks, items, after, hbefore, hblanks, hitems, hafter, htext⟩ := htext
  refine decode_of_fails ?_
  rw [htext]
  exact (skipsBlanks_readRow _).fails hbefore (fails_readRow_list hmisfits hitems hblanks after)

end Decoding

end VmLifecycle.Json
