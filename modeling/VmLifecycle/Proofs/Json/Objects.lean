import VmLifecycle.Proofs.Json.Passing
import VmLifecycle.Proofs.Json.Shapes

/-!
# Records are read from objects

The members of an object come in any order, among others that are passed over. The invariant of
the rounds is that the draft holds the members that were read, in whatever order they came. A
member that comes again is refused as soon as its key has been read; one that is missing, when
the object is closed.
-/

namespace VmLifecycle.Json

/-- A member with a value for it. -/
abbrev Field := (m : Member) × m.shape.Carrier

namespace Field

def name (f : Field) : String :=
  f.1.name

/-- The ways to write the value of a field. -/
def Written (f : Field) (s : List Char) : Prop :=
  f.1.shape.Written f.2 s

end Field

variable {ms : List Member} {known : List Field} {items : List Item} {f : Field} {key : String}
  {s rest value blanks : List Char}

/-! ## The texts of an object -/

/-- The items of an object with these fields, in this order, among others. -/
inductive Entries (ms : List Member) : List Field → List Item → Prop
  | nil : Entries ms [] []
  | field {f : Field} {known : List Field} {item : Item} {items : List Item} (hmem : f.1 ∈ ms)
      (hitem : item.Is (IsLabel (StringFor f.name)) f.Written) (hrest : Entries ms known items) :
      Entries ms (f :: known) (item :: items)
  | extra {key : String} {known : List Field} {item : Item} {items : List Item}
      (hkey : key ∉ ms.map Member.name) (hitem : item.Is (IsLabel (StringFor key)) Value)
      (hrest : Entries ms known items) : Entries ms known (item :: items)

/-- An object with these fields, in this order, among others, with blanks around it. -/
def ObjectText (ms : List Member) (known : List Field) (s : List Char) : Prop :=
  ∃ before blanks items after, Blanks before ∧ Blanks blanks ∧ Entries ms known items ∧
    Blanks after ∧ s = before ++ (Bracket.object.enclose blanks items ++ after)

/-- The beginning of an object, up to the key of a field that it has had before, and any text
behind that. -/
def RepeatedKey (ms : List Member) (s : List Char) : Prop :=
  ∃ before blanks known items gap f token rest, Blanks before ∧ Blanks blanks ∧
    Entries ms known items ∧ Blanks gap ∧ f ∈ known ∧ StringFor f.name token ∧
    s = before ++ '{' :: (blanks ++ (itemsText true items ++ ',' :: (gap ++ (token ++ rest))))

/-! ## The fields of a row and of a draft -/

def Row.fields : (ms : List Member) → Row ms → List Field
  | [], _ => []
  | m :: ms, (v, rest) => ⟨m, v⟩ :: fields ms rest

def Draft.fields : (ms : List Member) → Draft ms → List Field
  | [], _ => []
  | m :: ms, (slot, rest) => slot.toList.map (Sigma.mk m) ++ fields ms rest

theorem Row.mem_of_mem_fields {row : Row ms} (h : f ∈ row.fields ms) : f.1 ∈ ms := by
  induction ms with
  | nil => cases h
  | cons m ms ih =>
      obtain ⟨v, rest⟩ := row
      rcases List.mem_cons.1 h with rfl | h
      · exact List.mem_cons_self
      · exact List.mem_cons_of_mem _ (ih h)

theorem Draft.mem_of_mem_fields {draft : Draft ms} (h : f ∈ draft.fields ms) : f.1 ∈ ms := by
  induction ms with
  | nil => cases h
  | cons m ms ih =>
      obtain ⟨slot, rest⟩ := draft
      rcases List.mem_append.1 h with h | h
      · obtain ⟨v, -, rfl⟩ := List.mem_map.1 h
        exact List.mem_cons_self
      · exact List.mem_cons_of_mem _ (ih h)

theorem Row.names_fields (ms : List Member) (row : Row ms) :
    (row.fields ms).map Field.name = ms.map Member.name := by
  induction ms with
  | nil => rfl
  | cons m ms ih =>
      obtain ⟨v, rest⟩ := row
      rw [Row.fields, List.map_cons, ih rest]
      rfl

@[simp] theorem Draft.fields_empty (ms : List Member) : (Draft.empty ms).fields ms = [] := by
  induction ms with
  | nil => rfl
  | cons m ms ih => exact ih

/-- Members of different names: the name of a field tells its member. -/
theorem eq_of_name_eq {m : Member} (hnames : ((m :: ms).map Member.name).Nodup)
    (hmem : f.1 ∈ m :: ms) (hname : f.name = m.name) : f.1 = m := by
  rcases List.mem_cons.1 hmem with h | h
  · exact h
  · exact absurd (List.mem_map.2 ⟨f.1, h, hname⟩) (List.nodup_cons.1 hnames).1

theorem not_mem_of_nodup_names {m : Member} (hnames : ((m :: ms).map Member.name).Nodup) :
    m ∉ ms :=
  fun h => (List.nodup_cons.1 hnames).1 (List.mem_map_of_mem h)

/-! ## One member -/

/-- The member that is called `key` is read into its empty place. -/
theorem Draft.accept_next (m : Member) (ms : List Member) (rest : Draft ms) :
    Draft.accept m.name (m :: ms) (none, rest) = (do
      Reader.mark ':'
      let v ← m.shape.read
      return (some v, rest)) :=
  if_pos rfl

theorem Draft.accept_again (m : Member) (ms : List Member) (v : m.shape.Carrier)
    (rest : Draft ms) : Draft.accept m.name (m :: ms) (some v, rest) = throw .mismatched :=
  if_pos rfl

theorem Draft.accept_later {m : Member} (h : key ≠ m.name) (ms : List Member)
    (slot : Option m.shape.Carrier) (rest : Draft ms) :
    Draft.accept key (m :: ms) (slot, rest) = (do
      let rest ← Draft.accept key ms rest
      return (slot, rest)) :=
  if_neg h

/-- A member that was not read before: its colon and its value are read, and it joins the
draft. -/
theorem Draft.exists_accept_new {m : Member} (hnames : (ms.map Member.name).Nodup) (hmem : m ∈ ms)
    {draft : Draft ms} (hnew : m.name ∉ (draft.fields ms).map Field.name) :
    ∃ next : m.shape.Carrier → Draft ms,
      draft.accept m.name ms = (do
        Reader.mark ':'
        let v ← m.shape.read
        return next v) ∧
      ∀ v, ((next v).fields ms).Perm (⟨m, v⟩ :: draft.fields ms) := by
  induction ms with
  | nil => cases hmem
  | cons head ms ih =>
      obtain ⟨slot, later⟩ := draft
      by_cases hhead : m = head
      · subst hhead
        cases slot with
        | some w => exact absurd (List.mem_cons_self : m.name ∈ m.name :: _) hnew
        | none => exact ⟨fun v => (some v, later), Draft.accept_next m ms later, fun v => .refl _⟩
      · have hmem : m ∈ ms := (List.mem_cons.1 hmem).resolve_left hhead
        have hname : m.name ≠ head.name := fun h =>
          (List.nodup_cons.1 hnames).1 (h ▸ List.mem_map_of_mem hmem)
        have hnew : m.name ∉ (later.fields ms).map Field.name := by
          intro h
          exact hnew (by simp only [Draft.fields, List.map_append, List.mem_append]; exact .inr h)
        obtain ⟨next, haccept, hperm⟩ := ih (List.nodup_cons.1 hnames).2 hmem hnew
        refine ⟨fun v => (slot, next v), ?_, fun v => ?_⟩
        · rw [Draft.accept_later hname, haccept]
          simp only [bind_assoc, pure_bind]
          rfl
        · exact ((hperm v).append_left _).trans List.perm_middle

/-- A field that was read before is a mismatch, whatever follows its key. -/
theorem fails_accept (hnames : (ms.map Member.name).Nodup) {draft : Draft ms}
    (hknown : key ∈ (draft.fields ms).map Field.name) (s : List Char) :
    Fails (draft.accept key ms) s .mismatched := by
  induction ms with
  | nil => cases hknown
  | cons m ms ih =>
      obtain ⟨slot, later⟩ := draft
      obtain ⟨f, hf, rfl⟩ := List.mem_map.1 hknown
      by_cases hname : f.name = m.name
      · have hmember := eq_of_name_eq hnames (Draft.mem_of_mem_fields hf) hname
        rw [hname]
        cases slot with
        | some v =>
            rw [Draft.accept_again]
            exact fails_throw _ s
        | none =>
            -- the place of the member is empty, and no other member has its name
            have hlater : f ∈ later.fields ms := hf
            have hmem := Draft.mem_of_mem_fields hlater
            rw [hmember] at hmem
            exact absurd hmem (not_mem_of_nodup_names hnames)
      · have hlater : f ∈ later.fields ms := by
          refine (List.mem_append.1 hf).resolve_left fun h => hname ?_
          obtain ⟨v, -, rfl⟩ := List.mem_map.1 h
          rfl
        rw [Draft.accept_later hname]
        exact (ih (List.nodup_cons.1 hnames).2 (List.mem_map_of_mem hlater)).bind _

/-- A member of another name is passed over. -/
theorem takes_accept_extra (hkey : key ∉ ms.map Member.name) (hvalue : Value value)
    (hrest : EndsNumeral rest) {after before : List Char} (hafter : Blanks after)
    (hbefore : Blanks before) (draft : Draft ms) :
    Takes (draft.accept key ms) (after ++ ':' :: (before ++ (value ++ rest))) draft rest := by
  induction ms with
  | nil =>
      exact (takes_mark_blanks rfl hafter _).bind
        ((takes_passValue hvalue hrest hbefore).bind (takes_pure _ rest))
  | cons m ms ih =>
      obtain ⟨slot, later⟩ := draft
      rw [List.map_cons, List.mem_cons, not_or] at hkey
      rw [Draft.accept_later hkey.1]
      exact (ih hkey.2 later).bind (takes_pure _ rest)

/-! ## The end of an object -/

/-- A draft is the row whose fields it holds, if those that it lacks may be left out. -/
theorem Draft.finish?_eq_some (hnames : (ms.map Member.name).Nodup) {draft : Draft ms}
    {row : Row ms} (hsub : ∀ f ∈ draft.fields ms, f ∈ row.fields ms)
    (hleft : ∀ f ∈ row.fields ms, f ∉ draft.fields ms → f.1.shape.absent? = some f.2) :
    draft.finish? ms = some row := by
  induction ms with
  | nil => rfl
  | cons m ms ih =>
      obtain ⟨slot, later⟩ := draft
      obtain ⟨v, values⟩ := row
      have hm := not_mem_of_nodup_names hnames
      have hslot : (slot <|> m.shape.absent?) = some v := by
        cases slot with
        | some w =>
            have hfield := hsub ⟨m, w⟩ List.mem_cons_self
            rcases List.mem_cons.1 hfield with heq | h
            · cases heq
              rfl
            · exact absurd (Row.mem_of_mem_fields h) hm
        | none =>
            refine hleft ⟨m, v⟩ List.mem_cons_self fun h => ?_
            have hlater : ⟨m, v⟩ ∈ later.fields ms := h
            exact hm (Draft.mem_of_mem_fields hlater)
      have hlater : later.finish? ms = some values := by
        refine ih (List.nodup_cons.1 hnames).2 (fun f hf => ?_) fun f hf hnot => ?_
        · refine (List.mem_cons.1 (hsub f (List.mem_append_right _ hf))).resolve_left ?_
          rintro rfl
          exact hm (Draft.mem_of_mem_fields hf)
        · refine hleft f (List.mem_cons_of_mem _ hf) fun h => ?_
          rcases List.mem_append.1 h with h | h
          · obtain ⟨w, -, rfl⟩ := List.mem_map.1 h
            exact hm (Row.mem_of_mem_fields hf)
          · exact hnot h
      simp only [Draft.finish?, hslot, hlater]

/-- A draft that lacks a member that may not be left out is no row. -/
theorem Draft.finish?_eq_none {draft : Draft ms} {m : Member} (hmem : m ∈ ms)
    (hrequired : m.shape.absent? = none) (hlacks : m ∉ (draft.fields ms).map Sigma.fst) :
    draft.finish? ms = none := by
  induction ms with
  | nil => cases hmem
  | cons head ms ih =>
      obtain ⟨slot, later⟩ := draft
      by_cases hhead : m = head
      · subst hhead
        cases slot with
        | some v => exact absurd List.mem_cons_self hlacks
        | none => simp [Draft.finish?, hrequired]
      · have hlater : later.finish? ms = none := by
          refine ih ((List.mem_cons.1 hmem).resolve_left hhead) fun h => hlacks ?_
          simp only [Draft.fields, List.map_append, List.mem_append]
          exact .inr h
        simp [Draft.finish?, hlater]

/-! ## Rounds over the members -/

theorem skipsBlanks_anotherMember (first : Bool) : SkipsBlanks (anotherMember first) :=
  skipsBlanks_peek.bind _

theorem takes_anotherMember {gap : List Char} (hgap : Blanks gap) (s : List Char) :
    (first : Bool) → Takes (anotherMember first)
      ((if first then [] else [',']) ++ (gap ++ '"' :: s)) true ('"' :: s)
  | true => by
      rw [if_pos rfl, List.nil_append]
      exact (skipsBlanks_anotherMember true).takes hgap
        ((takes_peek (c := '"') rfl s).bind (takes_pure true _))
  | false =>
      (takes_peek (c := ',') rfl _).bind ((takes_skip ',' _).bind
        ((skipsBlanks_peek.takes hgap (takes_peek (c := '"') rfl s)).bind (takes_pure true _)))

theorem takes_anotherMember_end (first : Bool) (hblanks : Blanks blanks) (s : List Char) :
    Takes (anotherMember first) (blanks ++ '}' :: s) false ('}' :: s) :=
  (skipsBlanks_anotherMember first).takes hblanks
    ((takes_peek (c := '}') rfl s).bind (takes_pure false _))

/-- Once a key has been read, its member comes next. -/
theorem run_membersStep_key {token gap : List Char} (h : StringFor key token)
    (hblanks : Blanks blanks) (hgap : Blanks gap) (first : Bool) (draft : Draft ms)
    (s : List Char) :
    (membersStep ms (first, draft)).run
        (blanks ++ ((if first then [] else [',']) ++ (gap ++ (token ++ s)))) =
      (do return .inl (false, ← draft.accept key ms) :
        Reader ((Bool × Draft ms) ⊕ Row ms)).run s := by
  have hread := takes_stringAt h s
  obtain ⟨t, rfl⟩ := h.exists_cons
  have hnext := (skipsBlanks_anotherMember first).takes hblanks
    (takes_anotherMember hgap (t ++ s) first)
  exact hnext.run_bind.trans hread.run_bind

theorem run_membersStep_item {item : Item} (hlabel : IsLabel (StringFor key) item.label)
    (hblanks : Blanks blanks) (first : Bool) (draft : Draft ms) (s : List Char) :
    ∃ after, Blanks after ∧ (membersStep ms (first, draft)).run
        (blanks ++ ((if first then [] else [',']) ++ (item.text ++ s))) =
      (do return .inl (false, ← draft.accept key ms) :
        Reader ((Bool × Draft ms) ⊕ Row ms)).run
        (after ++ ':' :: (item.before ++ (item.value ++ (item.after ++ s)))) := by
  obtain ⟨gap, token, after, hgap, htoken, hafter, hlabel⟩ := hlabel
  have htext : item.text ++ s =
      gap ++ (token ++ (after ++ ':' :: (item.before ++ (item.value ++ (item.after ++ s))))) := by
    simp [Item.text, hlabel]
  rw [htext]
  exact ⟨after, hafter, run_membersStep_key htoken hblanks hgap first draft _⟩

theorem Item.length_lt_of_isLabel {item : Item} (hlabel : IsLabel (StringFor key) item.label)
    (first : Bool) (blanks s : List Char) :
    (item.after ++ s).length <
      (blanks ++ ((if first then [] else [',']) ++ (item.text ++ s))).length := by
  obtain ⟨gap, token, after, -, -, -, hlabel⟩ := hlabel
  simp only [Item.text, hlabel, List.length_append, List.length_cons]
  omega

/-- What follows an item ends a numeral in it. -/
theorem endsNumeral_entries (h : Entries ms known items) (hs : EndsNumeral s) :
    EndsNumeral (itemsText false items ++ s) := by
  cases h with
  | nil => exact hs
  | field => exact endsNumeral_cons (by decide) _
  | extra => exact endsNumeral_cons (by decide) _

/-- Where the rounds over the items of an object lead: behind them, with their fields in the
draft, or to one that was there before. -/
inductive Reached (ms : List Member) (first : Bool) (draft : Draft ms) (known : List Field)
    (items : List Item) (s text : List Char) : Prop
  | behind {draft' : Draft ms} {blanks : List Char} (hblanks : Blanks blanks)
      (hperm : (draft'.fields ms).Perm (known ++ draft.fields ms))
      (hgoes : Goes (membersStep ms) (first, draft) text (first && items.isEmpty, draft')
        (blanks ++ s))
  | again {st : Bool × Draft ms} {t : List Char}
      (hrepeats : ¬ ((known ++ draft.fields ms).map Field.name).Nodup)
      (hgoes : Goes (membersStep ms) (first, draft) text st t)
      (hfails : Fails (membersStep ms st) t .mismatched)

theorem reached (hnames : (ms.map Member.name).Nodup) (h : Entries ms known items)
    (hs : EndsNumeral s) (first : Bool) (draft : Draft ms) (hblanks : Blanks blanks) :
    Reached ms first draft known items s (blanks ++ (itemsText first items ++ s)) := by
  induction h generalizing first draft blanks with
  | nil =>
      rw [itemsText_nil]
      refine .behind hblanks (.refl _) ?_
      rw [List.isEmpty_nil, Bool.and_true]
      exact .refl _ _
  | @field f known item items hmem hitem hrest ih =>
      rw [itemsText_cons, List.append_assoc, List.append_assoc]
      obtain ⟨after, hafter, hrun⟩ := run_membersStep_item hitem.label hblanks first
        draft (itemsText false items ++ s)
      by_cases hknown : f.name ∈ (draft.fields ms).map Field.name
      · refine .again ?_ (.refl _ _) (hrun.trans ((fails_accept hnames hknown _).bind _))
        rw [List.cons_append, List.map_cons, List.nodup_cons]
        refine fun h => h.1 ?_
        rw [List.map_append]
        exact List.mem_append_right _ hknown
      · obtain ⟨next, haccept, hperm⟩ := Draft.exists_accept_new hnames hmem hknown
        have hread := f.1.shape.takes_read hitem.value
          (hitem.after.endsNumeral_append (endsNumeral_entries hrest hs))
        have htakes : Takes (draft.accept f.1.name ms)
            (after ++ ':' :: (item.before ++ (item.value ++ (item.after ++
              (itemsText false items ++ s))))) (next f.2)
            (item.after ++ (itemsText false items ++ s)) := by
          rw [haccept]
          exact (takes_mark_blanks rfl hafter _).bind
            ((f.1.shape.skipsBlanks_read.takes hitem.before hread).bind (takes_pure _ _))
        have hround : Goes (membersStep ms) (first, draft) _ (false, next f.2) _ :=
          .round (hrun.trans (htakes.bind (takes_pure _ _)))
            (Item.length_lt_of_isLabel hitem.label first blanks _) (.refl _ _)
        -- the field that was read moves to the draft
        have hmove : (known ++ (next f.2).fields ms).Perm (f :: known ++ draft.fields ms) :=
          ((hperm f.2).append_left known).trans List.perm_middle
        cases ih false (next f.2) hitem.after with
        | behind hblanks' hperm' hgoes =>
            exact .behind hblanks' (hperm'.trans hmove) (by simpa using hround.trans hgoes)
        | again hrepeats hgoes hfails =>
            refine .again (fun h => hrepeats ?_) (hround.trans hgoes) hfails
            exact ((hmove.map Field.name).nodup_iff).2 h
  | @extra key known item items hkey hitem hrest ih =>
      rw [itemsText_cons, List.append_assoc, List.append_assoc]
      obtain ⟨after, hafter, hrun⟩ := run_membersStep_item hitem.label hblanks first
        draft (itemsText false items ++ s)
      have htakes := takes_accept_extra hkey hitem.value
        (hitem.after.endsNumeral_append (endsNumeral_entries hrest hs)) hafter hitem.before draft
      have hround : Goes (membersStep ms) (first, draft) _ (false, draft) _ :=
        .round (hrun.trans (htakes.bind (takes_pure _ _)))
          (Item.length_lt_of_isLabel hitem.label first blanks _) (.refl _ _)
      cases ih false draft hitem.after with
      | behind hblanks' hperm' hgoes =>
          exact .behind hblanks' hperm' (by simpa using hround.trans hgoes)
      | again hrepeats hgoes hfails => exact .again hrepeats (hround.trans hgoes) hfails

/-! ## The whole object -/

/-- The rounds over the items of an object are what remains to be done at its bracket. -/
theorem run_readRow_object (ms : List Member) (s : List Char) :
    (readRow ms).run ('{' :: s) =
      (Reader.untilDone (membersStep ms) (true, Draft.empty ms)).run s :=
  (takes_peek (c := '{') rfl s).run_bind.trans (takes_skip '{' s).run_bind

/-- An object with fields of a row is that row, if the others may be left out. -/
theorem takes_readRow_object (hnames : (ms.map Member.name).Nodup) (h : Entries ms known items)
    (hblanks : Blanks blanks) {row : Row ms} (honce : (known.map Field.name).Nodup)
    (hsub : ∀ f ∈ known, f ∈ row.fields ms)
    (hleft : ∀ f ∈ row.fields ms, f ∉ known → f.1.shape.absent? = some f.2) (rest : List Char) :
    Takes (readRow ms) (Bracket.object.enclose blanks items ++ rest) row rest := by
  rw [Bracket.enclose_append]
  refine (run_readRow_object ms _).trans ?_
  have hbracket : EndsNumeral ('}' :: rest) := endsNumeral_cons (by decide) rest
  cases reached hnames h hbracket true (Draft.empty ms) hblanks with
  | @behind draft blanks' hblanks' hperm hgoes =>
      rw [Draft.fields_empty, List.append_nil] at hperm
      have hfinish : draft.finish? ms = some row :=
        Draft.finish?_eq_some hnames (fun f hf => hsub f (hperm.mem_iff.1 hf))
          fun f hf hnot => hleft f hf fun hknown => hnot (hperm.mem_iff.2 hknown)
      refine hgoes.takes_untilDone ((takes_anotherMember_end _ hblanks' rest).bind ?_)
      rw [if_neg Bool.false_ne_true, hfinish]
      exact (takes_skip '}' rest).bind (takes_pure _ rest)
  | again hrepeats _ _ =>
      rw [Draft.fields_empty, List.append_nil] at hrepeats
      exact absurd honce hrepeats

/-- An object that lacks a member that may not be left out is a mismatch. -/
theorem fails_readRow_lacking (hnames : (ms.map Member.name).Nodup) (h : Entries ms known items)
    (hblanks : Blanks blanks) {m : Member} (hmem : m ∈ ms) (hrequired : m.shape.absent? = none)
    (hlacks : m ∉ known.map Sigma.fst) (rest : List Char) :
    Fails (readRow ms) (Bracket.object.enclose blanks items ++ rest) .mismatched := by
  rw [Bracket.enclose_append]
  refine (run_readRow_object ms _).trans ?_
  have hbracket : EndsNumeral ('}' :: rest) := endsNumeral_cons (by decide) rest
  cases reached hnames h hbracket true (Draft.empty ms) hblanks with
  | @behind draft blanks' hblanks' hperm hgoes =>
      rw [Draft.fields_empty, List.append_nil] at hperm
      have hfinish : draft.finish? ms = none :=
        Draft.finish?_eq_none hmem hrequired fun h => hlacks ((hperm.map _).mem_iff.1 h)
      refine hgoes.fails_untilDone ((takes_anotherMember_end _ hblanks' rest).bind_fails ?_)
      rw [if_neg Bool.false_ne_true, hfinish]
      exact fails_throw _ _
  | again _ hgoes hfails => exact hgoes.fails_untilDone hfails

/-- An object that names a field again is a mismatch there, whatever follows. -/
theorem fails_readRow_repeated (hnames : (ms.map Member.name).Nodup)
    (h : Entries ms known items) (hblanks : Blanks blanks) {gap token : List Char}
    (hgap : Blanks gap) (hf : f ∈ known) (htoken : StringFor f.name token) (rest : List Char) :
    Fails (readRow ms)
      ('{' :: (blanks ++ (itemsText true items ++ ',' :: (gap ++ (token ++ rest)))))
      .mismatched := by
  refine (run_readRow_object ms _).trans ?_
  have hcomma : EndsNumeral (',' :: (gap ++ (token ++ rest))) := endsNumeral_cons (by decide) _
  cases reached hnames h hcomma true (Draft.empty ms) hblanks with
  | @behind draft blanks' hblanks' hperm hgoes =>
      rw [Draft.fields_empty, List.append_nil] at hperm
      have hitems : (true && items.isEmpty) = false := by
        cases h with
        | nil => cases hf
        | field => rfl
        | extra => rfl
      have hknown : f.name ∈ (draft.fields ms).map Field.name :=
        (hperm.map Field.name).mem_iff.2 (List.mem_map_of_mem hf)
      rw [hitems] at hgoes
      have hkey := run_membersStep_key htoken hblanks' hgap false draft rest
      exact hgoes.fails_untilDone (hkey.trans ((fails_accept hnames hknown rest).bind _))
  | again _ hgoes hfails => exact hgoes.fails_untilDone hfails

/-! ## Decoding -/

section Decoding

variable {α : Type} [Record α] {v : α} {text : String} {left : List Field}

/-- The fields of a record, in order. -/
def Record.fields (v : α) : List Field :=
  (Record.toRow v).fields (Record.members α)

theorem skipsBlanks_readRow (ms : List Member) : SkipsBlanks (readRow ms) :=
  skipsBlanks_peek.bind _

theorem decode_of_takes
    (h : Takes (readRow (Record.members α)) text.toList (Record.toRow v) rest)
    (hrest : Blanks rest) : decode text = .ok v := by
  rw [decode, whole_of_takes h hrest]
  exact congrArg Except.ok (Record.ofRow_toRow v)

theorem decode_of_fails {e : ReadError}
    (h : Fails (readRow (Record.members α)) text.toList e) :
    (decode text : Except ReadError α) = .error e := by
  rw [decode, whole_of_fails h]
  rfl

variable (hnames : ((Record.members α).map Member.name).Nodup)

include hnames

/-- An object with fields of a record, in any order, decodes to the record, if the fields that
are left out are as they are taken to be. -/
theorem decode_object (hfields : (known ++ left).Perm (Record.fields v))
    (hleft : ∀ f ∈ left, f.1.shape.absent? = some f.2)
    (htext : ObjectText (Record.members α) known text.toList) : decode text = .ok v := by
  obtain ⟨before, blanks, items, after, hbefore, hblanks, hentries, hafter, htext⟩ := htext
  have honce : ((known ++ left).map Field.name).Nodup := by
    rw [(hfields.map Field.name).nodup_iff, Record.fields, Row.names_fields]
    exact hnames
  rw [List.map_append] at honce
  have hsub : ∀ f ∈ known, f ∈ (Record.toRow v).fields (Record.members α) :=
    fun f hf => hfields.mem_iff.1 (List.mem_append_left _ hf)
  have hmissing : ∀ f ∈ (Record.toRow v).fields (Record.members α), f ∉ known →
      f.1.shape.absent? = some f.2 :=
    fun f hf hnot => hleft f ((List.mem_append.1 (hfields.mem_iff.2 hf)).resolve_left hnot)
  have htakes := takes_readRow_object hnames hentries hblanks (List.nodup_append.1 honce).1 hsub
    hmissing after
  refine decode_of_takes ?_ hafter
  rw [htext]
  exact (skipsBlanks_readRow _).takes hbefore htakes

theorem decode_lacking (htext : ObjectText (Record.members α) known text.toList) {m : Member}
    (hmem : m ∈ Record.members α) (hrequired : m.shape.absent? = none)
    (hlacks : m ∉ known.map Sigma.fst) :
    (decode text : Except ReadError α) = .error .mismatched := by
  obtain ⟨before, blanks, items, after, hbefore, hblanks, hentries, hafter, htext⟩ := htext
  refine decode_of_fails ?_
  rw [htext]
  exact (skipsBlanks_readRow _).fails hbefore
    (fails_readRow_lacking hnames hentries hblanks hmem hrequired hlacks after)

theorem decode_repeated (htext : RepeatedKey (Record.members α) text.toList) :
    (decode text : Except ReadError α) = .error .mismatched := by
  obtain ⟨before, blanks, known, items, gap, f, token, rest, hbefore, hblanks, hentries, hgap, hf,
    htoken, htext⟩ := htext
  refine decode_of_fails ?_
  rw [htext]
  exact (skipsBlanks_readRow _).fails hbefore
    (fails_readRow_repeated hnames hentries hblanks hgap hf htoken rest)

end Decoding

end VmLifecycle.Json
