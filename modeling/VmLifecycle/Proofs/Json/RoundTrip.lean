import VmLifecycle.Proofs.Json.Objects

/-!
# Records are read as they were written

The text that a record is written as is one of the texts of an object with its fields, with
each field once, in order, and nothing else. So a record that is written and read again is the
same record, if its members have different names. What follows the text may be blanks only.
-/

namespace VmLifecycle.Json

variable {ms : List Member}

/-- The item of a field in the written form. -/
def Field.item (f : Field) : Item :=
  .compact (stringToken f.name ++ [':']) (f.1.shape.write f.2)

theorem isLabel_stringToken (name : String) :
    IsLabel (StringFor name) (stringToken name ++ [':']) :=
  ⟨[], _, [], blanks_nil, stringFor_stringToken name, blanks_nil, rfl⟩

theorem Row.written_eq (ms : List Member) (row : Row ms) :
    Row.written ms row = ((row.fields ms).map Field.item).map Item.text := by
  induction ms with
  | nil => rfl
  | cons m ms ih =>
      obtain ⟨v, rest⟩ := row
      have htext : (Field.item ⟨m, v⟩).text = stringToken m.name ++ ':' :: m.shape.write v := by
        simp [Field.item, Item.compact_text, Field.name]
      rw [Row.written, ih rest, Row.fields, List.map_cons, List.map_cons, htext]

theorem Row.write_eq (ms : List Member) (row : Row ms) :
    Row.write ms row = Bracket.object.enclose [] ((row.fields ms).map Field.item) := by
  rw [enclose_eq, ← Row.written_eq]
  rfl

theorem entries_items {fields : List Field} (h : ∀ f ∈ fields, f.1 ∈ ms) :
    Entries ms fields (fields.map Field.item) := by
  induction fields with
  | nil => exact .nil
  | cons f fields ih =>
      obtain ⟨hf, hfields⟩ := List.forall_mem_cons.1 h
      exact .field hf
        (Item.is_compact (isLabel_stringToken f.name) (f.1.shape.written_write f.2)) (ih hfields)

theorem takes_readRow_encode {α : Type} [Record α]
    (hnames : ((Record.members α).map Member.name).Nodup) (a : α) (rest : List Char) :
    Takes (readRow (Record.members α)) ((encode a).toList ++ rest) (Record.toRow a) rest := by
  rw [encode, String.toList_ofList, Row.write_eq]
  refine takes_readRow_object hnames (entries_items fun f hf => Row.mem_of_mem_fields hf)
    blanks_nil ?_ (fun f hf => hf) (fun f hf hnot => absurd hf hnot) rest
  rw [Row.names_fields]
  exact hnames

/-- A record that is written is read again, if its members have different names. -/
theorem decode_encode {α : Type} [Record α] (hnames : ((Record.members α).map Member.name).Nodup)
    (a : α) : decode (encode a) = .ok a := by
  have htakes := takes_readRow_encode hnames a []
  rw [List.append_nil] at htakes
  exact decode_of_takes htakes blanks_nil

/-- Anything but blanks behind the text of a record is malformed. -/
theorem decode_encode_append {α : Type} [Record α]
    (hnames : ((Record.members α).map Member.name).Nodup) (a : α) {text : String}
    (htext : ∃ c ∈ text.toList, isSpace c = false) :
    (decode (encode a ++ text) : Except ReadError α) = .error .malformed := by
  have htakes := takes_readRow_encode hnames a text.toList
  rw [← String.toList_append] at htakes
  rw [decode, whole_of_takes_more htakes htext]
  rfl

end VmLifecycle.Json
