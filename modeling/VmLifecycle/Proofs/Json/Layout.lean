import VmLifecycle.Network.Interface
import VmLifecycle.Proofs.Json.Lists
import VmLifecycle.Provision.Options
import VmLifecycle.Vm.Resources
import Mathlib.Data.List.Sublists

/-!
# Decoding ignores layout

What a text decodes to depends on the fields in it alone, not on their order, on other members
between them, on blanks, or on whether it is an object or a list. A field that comes again and
one that is missing are mismatches in any layout.
-/

namespace VmLifecycle

open Json

/-- Decoding a record of this type depends on the fields alone; the members named in `optional`
may be left out. -/
structure LayoutFree (α : Type) [Record α] (optional : List String) : Prop where
  /-- The fields may come in any order, among other members. -/
  object (v : α) (known : List Field) (text : String) (hfields : known.Perm (Record.fields v))
    (htext : ObjectText (Record.members α) known text.toList) : decode text = .ok v
  list (v : α) (text : String) (htext : ListText (Record.fields v) text.toList) :
    decode text = .ok v
  repeated (text : String) (htext : RepeatedKey (Record.members α) text.toList) :
    (decode text : Except ReadError α) = .error .mismatched
  /-- An object that lacks a member, whatever fields it has. -/
  lacking (m : Member) (known : List Field) (text : String) (hmem : m ∈ Record.members α)
    (hrequired : m.name ∉ optional) (hlacks : m ∉ known.map Sigma.fst)
    (htext : ObjectText (Record.members α) known text.toList) :
    (decode text : Except ReadError α) = .error .mismatched
  /-- A list in which the value of a member is left out. -/
  shortened (m : Member) (given : List Field) (text : String)
    (hgiven : (given.map Sigma.fst).Sublist (Record.members α)) (hmem : m ∈ Record.members α)
    (hrequired : m.name ∉ optional) (hlacks : m ∉ given.map Sigma.fst)
    (htext : ListText given text.toList) : (decode text : Except ReadError α) = .error .mismatched

/-- What is to be seen from the members of a type for decoding it not to depend on layout. -/
theorem LayoutFree.of_members {α : Type} [Record α] {optional : List String}
    (hnames : ((Record.members α).map Member.name).Nodup)
    (hrequired : ∀ m ∈ Record.members α, m.name ∉ optional → m.shape.absent? = none)
    (hshort : ∀ given ∈ (Record.members α).sublists, ∀ m ∈ Record.members α, m.name ∉ optional →
      m ∉ given → misfits (Record.members α) given = true) : LayoutFree α optional where
  object v known text hfields htext := by
    have hnone : (known ++ []).Perm (Record.fields v) := by rwa [List.append_nil]
    exact decode_object hnames hnone nofun htext
  list v text htext := decode_list (List.append_nil _).symm nofun htext
  repeated text htext := decode_repeated hnames htext
  lacking m known text hmem hname hlacks htext :=
    decode_lacking hnames htext hmem (hrequired m hmem hname) hlacks
  shortened m given text hgiven hmem hname hlacks htext :=
    decode_misfits (hshort _ (List.mem_sublists.2 hgiven) m hmem hname hlacks) htext

/-! ## Options without registries -/

namespace ProvisionOptions

variable (o : ProvisionOptions)

/-- The fields of the options that may not be left out. -/
def requiredFields : List Field :=
  (Record.fields o).filter fun f => f.name ≠ "registries"

def noRegistries : Field :=
  ⟨⟨"registries", .texts⟩, []⟩

theorem fields_without_registries :
    Record.fields { o with registries := [] } = o.requiredFields ++ [noRegistries] :=
  rfl

theorem absent?_noRegistries : ∀ f ∈ [noRegistries], f.1.shape.absent? = some f.2 :=
  List.forall_mem_singleton.2 rfl

end ProvisionOptions

/-! ## The types that are read as records -/

/-- Of each type that is read as a record, a text decodes to the value whose fields it has, as
an object with the fields in any order among other members or as a list, with blanks between
the tokens. Provisioning options may be without registries, and then have none. A field that is
named again, or any other that is left out, is a mismatch. -/
theorem decoding_ignores_layout :
    LayoutFree Interface [] ∧ LayoutFree Resources [] ∧ LayoutFree VmConfig [] ∧
    LayoutFree ProvisionOptions ["registries"] ∧
    (∀ (o : ProvisionOptions) (known : List Field) (text : String),
      known.Perm o.requiredFields →
      ObjectText (Record.members ProvisionOptions) known text.toList →
      decode text = .ok { o with registries := [] }) ∧
    ∀ (o : ProvisionOptions) (text : String), ListText o.requiredFields text.toList →
      decode text = .ok { o with registries := [] } := by
  refine ⟨.of_members (by decide) (by decide) (by decide +kernel),
    .of_members (by decide) (by decide) (by decide +kernel),
    .of_members (by decide) (by decide) (by decide +kernel),
    .of_members (by decide) (by decide) (by decide +kernel), ?_, ?_⟩
  · intro o known text hknown htext
    have hfields : (known ++ [ProvisionOptions.noRegistries]).Perm
        (Record.fields { o with registries := [] }) := by
      rw [o.fields_without_registries]
      exact hknown.append_right _
    exact decode_object (by decide) hfields ProvisionOptions.absent?_noRegistries htext
  · intro o text htext
    exact decode_list o.fields_without_registries ProvisionOptions.absent?_noRegistries htext

/-- Resources, out of order, behind a member with a nested value that only passing over lets
through, with blanks of each kind. -/
def scatteredResources : String :=
  "\x7b \"x\" : [ 1e999 , \x7b\"\\ud800\":null\x7d ] ,\"cpus\":2,\n\t\"memory_mb\" : 4096 \x7d\r"

theorem value_nested : Value "[ 1e999 , \x7b\"\\ud800\":null\x7d ]".toList := by
  have hnumeral : Value ['1', 'e', '9', '9', '9'] :=
    .numeral (@IsNumeral.mk [] ['1'] [] ['e', '9', '9', '9'] (.inl rfl)
      ⟨nofun, List.all_eq_true.1 rfl⟩ nofun (.inl rfl)
      (.inr ⟨'e', [], ['9', '9', '9'], .inl rfl, .inl rfl, ⟨nofun, List.all_eq_true.1 rfl⟩, rfl⟩))
  have hkey : StringInside "\\ud800".toList :=
    .unit (@UnitDigits.mk 'd' '8' '0' '0' 13 8 0 0 ⟨by decide, .inl rfl⟩ ⟨by decide, .inl rfl⟩
      ⟨by decide, .inl rfl⟩ ⟨by decide, .inl rfl⟩) .empty
  have hobject : Value "\x7b\"\\ud800\":null\x7d".toList :=
    @Value.brackets .object [] [⟨"\"\\ud800\":".toList, [], "null".toList, []⟩] nofun
      (List.forall_mem_singleton.2 ⟨[], _, [], nofun, ⟨_, hkey, rfl⟩, nofun, rfl⟩)
      (List.forall_mem_singleton.2 nofun)
      (List.forall_mem_singleton.2 (.literal (by decide))) (List.forall_mem_singleton.2 nofun)
  exact @Value.brackets .list [' '] [⟨[], [], ['1', 'e', '9', '9', '9'], [' ']⟩,
      ⟨[], [' '], "\x7b\"\\ud800\":null\x7d".toList, [' ']⟩] (by decide)
    (List.forall_mem_cons.2 ⟨rfl, List.forall_mem_singleton.2 rfl⟩)
    (by decide) (List.forall_mem_cons.2 ⟨hnumeral, List.forall_mem_singleton.2 hobject⟩)
    (by decide)

theorem objectText_scattered :
    ObjectText (Record.members Resources) [⟨⟨"cpus", .word32⟩, 2⟩, ⟨⟨"memory_mb", .word64⟩, 4096⟩]
      scatteredResources.toList := by
  have hname (name : String) (h : (name.toList.all fun c => decide (IsPlain c)) = true) :
      StringFor name ('"' :: (name.toList ++ ['"'])) :=
    ⟨_, spells_plain fun c hc => of_decide_eq_true (List.all_eq_true.1 h c hc), rfl⟩
  have hlabel : IsLabel (StringFor "x") " \"x\" :".toList :=
    ⟨[' '], _, [' '], by decide, hname "x" (by decide), by decide, rfl⟩
  have hcpus : IsLabel (StringFor "cpus") "\"cpus\":".toList :=
    ⟨[], _, [], by decide, hname "cpus" (by decide), by decide, rfl⟩
  have hmemory : IsLabel (StringFor "memory_mb") "\n\t\"memory_mb\" :".toList :=
    ⟨['\n', '\t'], _, [' '], by decide, hname "memory_mb" (by decide), by decide, rfl⟩
  refine ⟨[], [], [⟨" \"x\" :".toList, [' '], "[ 1e999 , \x7b\"\\ud800\":null\x7d ]".toList, [' ']⟩,
    ⟨"\"cpus\":".toList, [], ['2'], []⟩,
    ⟨"\n\t\"memory_mb\" :".toList, [' '], ['4', '0', '9', '6'], [' ']⟩], ['\r'], by decide,
    by decide, ?_, by decide, by decide +kernel⟩
  refine .extra (by decide) ⟨hlabel, by decide, value_nested, by decide⟩ ?_
  refine .field (by decide) ⟨hcpus, by decide, rfl, by decide⟩ ?_
  exact .field (by decide) ⟨hmemory, by decide, rfl, by decide⟩ .nil

theorem listText_abc :
    ListText (ProvisionOptions.requiredFields ⟨"a", "b", "c", ["d"]⟩)
      "[\"a\", \"b\" ,\"c\"]".toList := by
  have hitem (c : Char) (hc : IsPlain c) : StringFor (String.ofList [c]) ['"', c, '"'] :=
    ⟨[c], by rw [String.toList_ofList]; exact .plain hc .empty, rfl⟩
  refine ⟨[], [], [⟨[], [], ['"', 'a', '"'], []⟩, ⟨[], [' '], ['"', 'b', '"'], [' ']⟩,
    ⟨[], [], ['"', 'c', '"'], []⟩], [], by decide, by decide, ?_, by decide, by decide +kernel⟩
  exact .cons ⟨rfl, by decide, hitem 'a' (by decide), by decide⟩
    (.cons ⟨rfl, by decide, hitem 'b' (by decide), by decide⟩
      (.cons ⟨rfl, by decide, hitem 'c' (by decide), by decide⟩ .nil))

theorem decoding_ignores_layout_scattered :
    (ObjectText (Record.members Resources)
        [⟨⟨"cpus", .word32⟩, 2⟩, ⟨⟨"memory_mb", .word64⟩, 4096⟩] scatteredResources.toList ∧
      decode scatteredResources = .ok (⟨4096, 2⟩ : Resources)) ∧
    ListText (ProvisionOptions.requiredFields ⟨"a", "b", "c", ["d"]⟩)
        "[\"a\", \"b\" ,\"c\"]".toList ∧
      decode "[\"a\", \"b\" ,\"c\"]" = .ok (⟨"a", "b", "c", []⟩ : ProvisionOptions) := by
  obtain ⟨-, hresources, -, -, -, hlist⟩ := decoding_ignores_layout
  exact ⟨⟨objectText_scattered,
    hresources.object ⟨4096, 2⟩ _ _ (.swap _ _ _) objectText_scattered⟩,
    listText_abc, hlist ⟨"a", "b", "c", ["d"]⟩ _ listText_abc⟩

end VmLifecycle
