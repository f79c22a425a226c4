import VmLifecycle.Proofs.Json.RoundTrip

/-!
# Texts that are cut off

A written record without numbers ends with the bracket that closes it, and each token in it
shows where it ends. So wherever the text is cut off, inside a token or between two, reading it
runs into the end. A number alone does not show that it was cut off.
-/

namespace VmLifecycle.Json

variable {α β σ : Type} {p s t : List Char} {c : Char}

/-! ## Cutting off the end of a text -/

/-- What is left of a text when its end is cut off. -/
def Cut (p s : List Char) : Prop :=
  ∃ q, q ≠ [] ∧ s = p ++ q

theorem not_cut_nil (p : List Char) : ¬ Cut p [] := by
  rintro ⟨q, hq, h⟩
  exact hq (List.append_eq_nil_iff.1 h.symm).2

theorem cut_cons_iff : Cut p (c :: s) ↔ p = [] ∨ ∃ p', p = c :: p' ∧ Cut p' s := by
  constructor
  · rintro ⟨q, hq, h⟩
    cases p with
    | nil => exact .inl rfl
    | cons d p =>
        obtain ⟨rfl, hs⟩ := List.cons.inj h
        exact .inr ⟨p, rfl, q, hq, hs⟩
  · rintro (rfl | ⟨p', rfl, q, hq, rfl⟩)
    · exact ⟨c :: s, List.cons_ne_nil c s, rfl⟩
    · exact ⟨q, hq, rfl⟩

/-- The cut is in the first text or in the second. -/
theorem cut_append_iff : Cut p (s ++ t) ↔ Cut p s ∨ ∃ p', p = s ++ p' ∧ Cut p' t := by
  induction s generalizing p with
  | nil => simp [not_cut_nil]
  | cons c s ih =>
      rw [List.cons_append, cut_cons_iff, cut_cons_iff]
      constructor
      · rintro (rfl | ⟨p', rfl, h⟩)
        · exact .inl (.inl rfl)
        · rcases ih.1 h with hs | ⟨p'', rfl, ht⟩
          · exact .inl (.inr ⟨p', rfl, hs⟩)
          · exact .inr ⟨p'', rfl, ht⟩
      · rintro ((rfl | ⟨p', rfl, h⟩) | ⟨p'', rfl, h⟩)
        · exact .inl rfl
        · exact .inr ⟨p', rfl, ih.2 (.inl h)⟩
        · exact .inr ⟨s ++ p'', rfl, ih.2 (.inr ⟨p'', rfl, h⟩)⟩

theorem cut_singleton_iff : Cut p [c] ↔ p = [] := by
  simp [cut_cons_iff, not_cut_nil]

theorem EndsNumeral.of_cut (h : EndsNumeral s) (hp : Cut p s) : EndsNumeral p := by
  obtain ⟨q, -, rfl⟩ := hp
  cases p with
  | nil => exact nofun
  | cons c p => exact h

/-! ## Readers that run into the end -/

/-- Wherever the text is cut off, the reader runs into its end. -/
def Starves (reader : Reader α) (s : List Char) : Prop :=
  ∀ p, Cut p s → Fails reader p .truncated

namespace Starves

variable {x : Reader α} {f : α → Reader β} {a : α}

/-- The first of two readers has read the text. -/
theorem first (hx : Starves x s) (f : α → Reader β) : Starves (x >>= f) s :=
  fun p hp => (hx p hp).bind f

theorem bind (hx : Starves x s) (htakes : ∀ p, Cut p t → Takes x (s ++ p) a p)
    (hf : Starves (f a) t) : Starves (x >>= f) (s ++ t) := by
  intro p hp
  rcases cut_append_iff.1 hp with hfirst | ⟨p', rfl, hrest⟩
  · exact (hx p hfirst).bind f
  · exact (htakes p' hrest).bind_fails (hf p' hrest)

/-- The first reader looks at one character more than it takes. -/
theorem lead (hx : Starves x (s ++ [c])) (htakes : ∀ p, Takes x (s ++ c :: p) a (c :: p))
    (hf : Starves (f a) (c :: t)) : Starves (x >>= f) (s ++ c :: t) := by
  intro p hp
  have hsplit : s ++ c :: t = (s ++ [c]) ++ t := by simp
  rw [hsplit] at hp
  rcases cut_append_iff.1 hp with hfirst | ⟨p', rfl, hrest⟩
  · exact (hx p hfirst).bind f
  · rw [List.append_assoc]
    exact (htakes p').bind_fails (hf (c :: p') (cut_cons_iff.2 (.inr ⟨p', rfl, hrest⟩)))

theorem peek {f : Option Char → Reader β} (hc : isSpace c = false)
    (hnone : Fails (f none) [] .truncated)
    (hsome : ∀ p, Cut p t → Fails (f (some c)) (c :: p) .truncated) :
    Starves (Reader.peek >>= f) (c :: t) := by
  intro p hp
  rcases cut_cons_iff.1 hp with rfl | ⟨p', rfl, hrest⟩
  · exact hnone
  · exact (takes_peek hc p').bind_fails (hsome p' hrest)

end Starves

theorem starves_mark (hc : isSpace c = false) : Starves (Reader.mark c) [c] :=
  .peek hc rfl fun p hp => absurd hp (not_cut_nil p)

theorem starves_literal (word : List Char) : Starves (Reader.literal word) word := by
  induction word with
  | nil => exact fun p hp => absurd hp (not_cut_nil p)
  | cons w word ih =>
      intro p hp
      rcases cut_cons_iff.1 hp with rfl | ⟨p', rfl, hrest⟩
      · rfl
      · refine (takes_get _).bind_fails ?_
        show Fails (if w = w then _ else _) _ _
        rw [if_pos rfl]
        exact (takes_set _ _).bind_fails (ih p' hrest)

/-! ## Loops -/

/-- Rounds over a text such that, wherever it is cut off, the round of that place runs into its
end. -/
inductive StarvesAlong (step : σ → Reader (σ ⊕ β)) : σ → List Char → Prop
  | last {st : σ} {s : List Char} (h : Starves (step st) s) : StarvesAlong step st s
  | round {st next : σ} {s t : List Char} (hs : s ≠ []) (h : Starves (step st) s)
      (htakes : ∀ p, Cut p t → Takes (step st) (s ++ p) (.inl next) p)
      (hrest : StarvesAlong step next t) : StarvesAlong step st (s ++ t)

theorem StarvesAlong.untilDone {step : σ → Reader (σ ⊕ β)} {st : σ}
    (h : StarvesAlong step st s) : Starves (Reader.untilDone step st) s := by
  intro p hp
  have hround : ∃ last t, Goes step st p last t ∧ Fails (step last) t .truncated := by
    induction h generalizing p with
    | last h => exact ⟨_, p, .refl _ p, h p hp⟩
    | @round st next s t hs h htakes _ ih =>
        rcases cut_append_iff.1 hp with hround | ⟨p', rfl, hlater⟩
        · exact ⟨_, p, .refl _ p, h p hround⟩
        · obtain ⟨last, t', hgoes, hfails⟩ := ih p' hlater
          have hlength := List.length_pos_iff.2 hs
          refine ⟨last, t', .round (htakes p' hlater) ?_ hgoes, hfails⟩
          rw [List.length_append]
          omega
  obtain ⟨last, t, hgoes, hfails⟩ := hround
  exact hgoes.fails_untilDone hfails

/-! ## Strings -/

theorem byteLength_digits {n : Nat} (hn : n < 16) : byteLength ['0', '0', Nat.digitChar n] = 3 := by
  have key : ∀ k : Fin 16, byteLength ['0', '0', Nat.digitChar k] = 3 := by decide
  exact key ⟨n, hn⟩

theorem codeUnit_cut {a : Char} (ha : byteLength ['0', '0', a] = 3) {b : Char}
    (hp : Cut p ['0', '0', a, b]) : codeUnit p = .error .truncated := by
  rcases cut_cons_iff.1 hp with rfl | ⟨p₁, rfl, h₁⟩
  · rfl
  rcases cut_cons_iff.1 h₁ with rfl | ⟨p₂, rfl, h₂⟩
  · rfl
  rcases cut_cons_iff.1 h₂ with rfl | ⟨p₃, rfl, h₃⟩
  · rfl
  obtain rfl := cut_singleton_iff.1 h₃
  show (if byteLength ['0', '0', a] < 4 then _ else _) = _
  rw [ha]
  rfl

theorem escape_cut_control {c : Char} (hc : c < ' ')
    (hp : Cut p ['u', '0', '0', Nat.digitChar (c.toNat / 16), Nat.digitChar (c.toNat % 16)]) :
    escape p = .error .truncated := by
  have hn : c.toNat < 32 := hc
  rcases cut_cons_iff.1 hp with rfl | ⟨p', rfl, hdigits⟩
  · rfl
  · show numericEscape p' = _
    rw [numericEscape, codeUnit_cut (byteLength_digits (by omega)) hdigits]

/-- A character that is cut off inside its escape. -/
theorem stringBody_cut_escapedChar (taken : List Char) (hp : Cut p (escapedChar c)) :
    stringBody taken p = .error .truncated := by
  have hletter {letter : Char} (hp : Cut p ['\\', letter]) :
      stringBody taken p = .error .truncated := by
    rcases cut_cons_iff.1 hp with rfl | ⟨p', rfl, hrest⟩
    · exact stringBody_nil taken
    · obtain rfl := cut_singleton_iff.1 hrest
      exact stringBody_escape_error rfl
  unfold escapedChar at hp
  split at hp
  all_goals first
    | exact hletter hp
    | skip
  split at hp
  · rename_i hc
    rcases cut_cons_iff.1 hp with rfl | ⟨p', rfl, hrest⟩
    · exact stringBody_nil taken
    · exact stringBody_escape_error (escape_cut_control hc hrest)
  · obtain rfl := cut_singleton_iff.1 hp
    exact stringBody_nil taken

theorem stringBody_cut (s taken : List Char) (hp : Cut p (s.flatMap escapedChar ++ ['"'])) :
    stringBody taken p = .error .truncated := by
  induction s generalizing taken p with
  | nil =>
      rw [List.flatMap_nil, List.nil_append, cut_singleton_iff] at hp
      rw [hp]
      exact stringBody_nil taken
  | cons c s ih =>
      rw [List.flatMap_cons, List.append_assoc] at hp
      rcases cut_append_iff.1 hp with hchar | ⟨p', rfl, hrest⟩
      · exact stringBody_cut_escapedChar taken hchar
      · rw [stringBody_escapedChar]
        exact ih (c :: taken) hrest

theorem starves_stringAt (text : String) : Starves stringAt (stringToken text) := by
  intro p hp
  rcases cut_cons_iff.1 hp with rfl | ⟨p', rfl, hrest⟩
  · have hskip : Takes Reader.skip [] () [] := rfl
    refine hskip.bind_fails ((takes_get []).bind_fails ?_)
    rw [stringBody_nil]
    rfl
  · refine (takes_skip '"' p').bind_fails ((takes_get p').bind_fails ?_)
    rw [stringBody_cut text.toList [] hrest]
    rfl

theorem starves_readText (text : String) : Starves readText (stringToken text) :=
  .peek rfl rfl fun p hp => starves_stringAt text _ (cut_cons_iff.2 (.inr ⟨p, rfl, hp⟩))

/-! ## Lists of strings -/

theorem starves_anotherItem (hc : isSpace c = false) :
    (first : Bool) → Starves (anotherItem first) ((if first then [] else [',']) ++ [c])
  | true => .peek hc rfl fun p hp => absurd hp (not_cut_nil p)
  | false => .peek rfl rfl fun p hp => by
      obtain rfl : p = [] := cut_singleton_iff.1 hp
      rfl

theorem starves_anotherItem_end (first : Bool) : Starves (anotherItem first) [']'] :=
  .peek rfl (by cases first <;> rfl) fun p hp => absurd hp (not_cut_nil p)

theorem starvesAlong_texts (texts taken : List String) (first : Bool) :
    StarvesAlong textsStep (first, taken)
      (itemsText first (texts.map fun text => .compact [] (stringToken text)) ++ [']']) := by
  induction texts generalizing taken first with
  | nil =>
      rw [List.map_nil, itemsText_nil, List.nil_append]
      exact .last ((starves_anotherItem_end first).first _)
  | cons text texts ih =>
      rw [List.map_cons, itemsText_cons, Item.compact_text, List.nil_append, List.append_assoc,
        List.append_assoc, ← List.append_assoc]
      refine .round (by cases first <;> simp [stringToken]) ?_ (fun p _ => ?_)
        (ih (text :: taken) false)
      · have hread : Starves (do return .inl (false, (← readText) :: taken) :
            Reader ((Bool × List String) ⊕ List String)) (stringToken text) :=
          (starves_readText text).first _
        exact .lead (starves_anotherItem rfl first)
          (fun p => takes_anotherItem rfl (by decide) blanks_nil p first) hread
      · rw [List.append_assoc]
        exact (takes_anotherItem rfl (by decide) blanks_nil _ first).bind
          ((takes_readText (stringFor_stringToken text) p).bind (takes_pure _ p))

theorem starves_readTexts (texts : List String) :
    Starves readTexts (Shape.write .texts texts) := by
  rw [Shape.write_texts_eq]
  exact .peek rfl rfl fun p hp =>
    (takes_skip '[' p).bind_fails ((starvesAlong_texts texts [] true).untilDone p hp)

/-! ## Records -/

theorem starves_flag (b : Bool) : Starves readFlag (Shape.write .flag b) := by
  cases b with
  | true =>
      exact .peek rfl rfl fun p hp =>
        (starves_literal _ ('t' :: p) (cut_cons_iff.2 (.inr ⟨p, rfl, hp⟩))).bind _
  | false =>
      exact .peek rfl rfl fun p hp =>
        (starves_literal _ ('f' :: p) (cut_cons_iff.2 (.inr ⟨p, rfl, hp⟩))).bind _

theorem starves_read (shape : Shape) (hshape : shape.kind ≠ .number) (v : shape.Carrier) :
    Starves shape.read (shape.write v) := by
  cases shape with
  | text => exact starves_readText v
  | address => exact (starves_readText v.toText).first _
  | word16 => exact absurd rfl hshape
  | word32 => exact absurd rfl hshape
  | word64 => exact absurd rfl hshape
  | flag => exact starves_flag v
  | texts => exact starves_readTexts v

theorem starves_anotherMember :
    (first : Bool) → Starves (anotherMember first) ((if first then [] else [',']) ++ ['"'])
  | true => .peek rfl rfl fun p hp => absurd hp (not_cut_nil p)
  | false => .peek rfl rfl fun p hp => by
      obtain rfl : p = [] := cut_singleton_iff.1 hp
      rfl

theorem starves_anotherMember_end (first : Bool) : Starves (anotherMember first) ['}'] :=
  .peek rfl (by cases first <;> rfl) fun p hp => absurd hp (not_cut_nil p)

section Members

variable {ms : List Member} {f : Field} {draft : Draft ms} {next : f.1.shape.Carrier → Draft ms}
  (haccept : draft.accept f.1.name ms = (do
    Reader.mark ':'
    let v ← f.1.shape.read
    return next v))

include haccept

theorem starves_membersStep (hshape : f.1.shape.kind ≠ .number) (first : Bool) :
    Starves (membersStep ms (first, draft))
      ((if first then [] else [',']) ++
        (stringToken f.name ++ ([':'] ++ f.1.shape.write f.2))) := by
  have hvalue : Starves (draft.accept f.1.name ms) ([':'] ++ f.1.shape.write f.2) := by
    rw [haccept]
    exact (starves_mark rfl).bind (fun p _ => takes_mark rfl p)
      ((starves_read f.1.shape hshape f.2).first _)
  exact .lead (starves_anotherMember first) (fun p => takes_anotherMember blanks_nil p first)
    ((starves_stringAt f.name).bind (fun p _ => takes_stringAt (stringFor_stringToken f.name) p)
      (hvalue.first _))

theorem takes_membersStep (first : Bool) (hp : EndsNumeral p) :
    Takes (membersStep ms (first, draft))
      ((if first then [] else [',']) ++
        (stringToken f.name ++ ([':'] ++ f.1.shape.write f.2)) ++ p)
      (.inl (false, next f.2)) p := by
  have htakes : Takes (draft.accept f.1.name ms) (':' :: (f.1.shape.write f.2 ++ p))
      (next f.2) p := by
    rw [haccept]
    exact (takes_mark rfl _).bind
      ((f.1.shape.takes_read (f.1.shape.written_write f.2) hp).bind (takes_pure _ p))
  have hkey := run_membersStep_key (stringFor_stringToken f.name) blanks_nil blanks_nil first draft
    (':' :: (f.1.shape.write f.2 ++ p))
  simp only [List.nil_append] at hkey
  simp only [List.append_assoc, List.singleton_append]
  exact hkey.trans (htakes.bind (takes_pure _ p))

end Members

theorem starvesAlong_members {ms : List Member} (hnames : (ms.map Member.name).Nodup)
    {fields : List Field} (hmem : ∀ f ∈ fields, f.1 ∈ ms)
    (hshapes : ∀ f ∈ fields, f.1.shape.kind ≠ .number) {draft : Draft ms}
    (honce : ((fields ++ draft.fields ms).map Field.name).Nodup) (first : Bool) :
    StarvesAlong (membersStep ms) (first, draft)
      (itemsText first (fields.map Field.item) ++ ['}']) := by
  induction fields generalizing draft first with
  | nil =>
      rw [List.map_nil, itemsText_nil, List.nil_append]
      exact .last ((starves_anotherMember_end first).first _)
  | cons f fields ih =>
      obtain ⟨hf, hmem⟩ := List.forall_mem_cons.1 hmem
      obtain ⟨hshape, hshapes⟩ := List.forall_mem_cons.1 hshapes
      have hnew : f.1.name ∉ (draft.fields ms).map Field.name := by
        rw [List.cons_append, List.map_cons, List.nodup_cons] at honce
        intro h
        rw [List.map_append] at honce
        exact honce.1 (List.mem_append_right _ h)
      obtain ⟨next, haccept, hperm⟩ := Draft.exists_accept_new hnames hf hnew
      have hitem : itemsText first ((f :: fields).map Field.item) ++ ['}'] =
          ((if first then [] else [',']) ++
            (stringToken f.name ++ ([':'] ++ f.1.shape.write f.2))) ++
          (itemsText false (fields.map Field.item) ++ ['}']) := by
        simp [itemsText_cons, Field.item, Item.compact_text]
      have hrest : ((fields ++ (next f.2).fields ms).map Field.name).Nodup := by
        have hmove := ((hperm f.2).append_left fields).trans List.perm_middle
        rw [(hmove.map Field.name).nodup_iff]
        exact honce
      rw [hitem]
      refine .round (by simp [stringToken]) (starves_membersStep haccept hshape first)
        (fun p hp => takes_membersStep haccept first ?_) (ih hmem hshapes hrest false)
      exact (endsNumeral_items _ .object []).of_cut hp

/-- Wherever the text of a record without numbers is cut off, it is found to end too early. -/
theorem decode_cut {α : Type} [Record α] (hnames : ((Record.members α).map Member.name).Nodup)
    (hshapes : ∀ m ∈ Record.members α, m.shape.kind ≠ .number) (a : α) {text : String}
    (hcut : Cut text.toList (encode a).toList) :
    (decode text : Except ReadError α) = .error .truncated := by
  have hstarves : Starves (readRow (Record.members α))
      ('{' :: (itemsText true ((Record.fields a).map Field.item) ++ ['}'])) :=
    .peek rfl rfl fun p hp => by
      have honce : ((Record.fields a ++ (Draft.empty (Record.members α)).fields _).map
          Field.name).Nodup := by
        rw [Draft.fields_empty, List.append_nil, Record.fields, Row.names_fields]
        exact hnames
      exact (takes_skip '{' p).bind_fails ((starvesAlong_members hnames
        (fun f hf => Row.mem_of_mem_fields hf)
        (fun f hf => hshapes _ (Row.mem_of_mem_fields hf)) honce true).untilDone p hp)
  rw [encode, String.toList_ofList, Row.write_eq] at hcut
  exact decode_of_fails (hstarves _ hcut)

end VmLifecycle.Json
