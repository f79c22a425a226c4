import VmLifecycle.Proofs.Address.Lookup
import VmLifecycle.Proofs.Text.Cutting

/-!
# Addresses as they are accepted

A text is accepted as an address exactly if it is the canonical text of one, with blanks
around it or without. Of an octet there is one text that is accepted: the row of digits
without a leading zero is its number as it is written.
-/

namespace VmLifecycle

namespace Ipv4

/-- An octet as it may be written: digits with no zero in front, and 255 at the most. -/
structure IsOctet (digits : List Char) : Prop where
  nonempty : digits ≠ []
  isDigit : ∀ c ∈ digits, c.isDigit = true
  noLeadingZero : digits.head? = some '0' → digits = ['0']
  atMost : Text.decimalValue digits ≤ 255

/-- Four octets with a dot between each two. -/
def IsDotted (cs : List Char) : Prop :=
  ∃ a b c d, IsOctet a ∧ IsOctet b ∧ IsOctet c ∧ IsOctet d ∧
    cs = a ++ '.' :: (b ++ '.' :: (c ++ '.' :: d))

variable {digits cs : List Char} {n : UInt8} {x : Ipv4}

theorem isOctet_decimal (n : UInt8) : IsOctet (Text.decimal n.toNat) where
  nonempty := Text.decimal_ne_nil _
  isDigit := fun _ hc => Text.isDigit_of_mem_decimal hc
  noLeadingZero := by
    intro hzero
    rcases Nat.eq_zero_or_pos n.toNat with h | h
    · rw [h]
      rfl
    · exact absurd hzero (Text.head?_decimal_ne h)
  atMost := by
    have hlt : n.toNat < 256 := n.toNat_lt
    rw [Text.decimalValue_decimal]
    omega

theorem IsOctet.exists_eq_decimal (h : IsOctet digits) :
    ∃ n : UInt8, digits = Text.decimal n.toNat := by
  have hlt : Text.decimalValue digits < UInt8.size := Nat.lt_succ_of_le h.atMost
  refine ⟨UInt8.ofNat (Text.decimalValue digits), ?_⟩
  rw [UInt8.toNat_ofNat_of_lt' hlt,
    Text.decimal_decimalValue h.nonempty h.isDigit h.noLeadingZero]

/-- The grammar of an address is that of its text. -/
theorem isDotted_iff : IsDotted cs ↔ ∃ x : Ipv4, cs = x.chars := by
  constructor
  · rintro ⟨a, b, c, d, ha, hb, hc, hd, rfl⟩
    obtain ⟨a, rfl⟩ := ha.exists_eq_decimal
    obtain ⟨b, rfl⟩ := hb.exists_eq_decimal
    obtain ⟨c, rfl⟩ := hc.exists_eq_decimal
    obtain ⟨d, rfl⟩ := hd.exists_eq_decimal
    exact ⟨⟨a, b, c, d⟩, rfl⟩
  · rintro ⟨x, rfl⟩
    exact ⟨_, _, _, _, isOctet_decimal x.a, isOctet_decimal x.b, isOctet_decimal x.c,
      isOctet_decimal x.d, rfl⟩

/-! ## What the reader takes -/

theorem isOctet_of_octet? (h : octet? digits = some n) :
    IsOctet digits ∧ n = UInt8.ofNat (Text.decimalValue digits) := by
  unfold octet? at h
  split at h
  · cases h
  rename_i hshape
  split at h
  · cases h
  rename_i hzero
  split at h
  · rename_i hlt
    simp only [Bool.or_eq_true, not_or, Bool.not_eq_true, List.isEmpty_eq_false_iff,
      Bool.not_eq_false', List.all_eq_true] at hshape
    obtain ⟨⟨hne, -⟩, hdigits⟩ := hshape
    refine ⟨⟨hne, hdigits, fun hhead => ?_, Nat.le_of_lt_succ hlt⟩, (Option.some.inj h).symm⟩
    have hlength : digits.length = 1 := by simpa [hhead] using hzero
    obtain ⟨c, rfl⟩ := List.length_eq_one_iff.1 hlength
    simpa using hhead
  · cases h

theorem octet?_eq_some : octet? digits = some n ↔ digits = Text.decimal n.toNat := by
  constructor
  · intro h
    obtain ⟨hoctet, rfl⟩ := isOctet_of_octet? h
    obtain ⟨n, rfl⟩ := hoctet.exists_eq_decimal
    rw [Text.decimalValue_decimal, UInt8.ofNat_toNat]
  · rintro rfl
    exact octet?_decimal n

theorem ofChars?_eq_some : ofChars? cs = some x ↔ cs = x.chars := by
  constructor
  · intro h
    have hjoin := Text.intercalate_pieces '.' cs
    unfold ofChars? at h
    split at h
    · rename_i a b c d hpieces
      simp only [Option.bind_eq_bind, Option.bind_eq_some_iff, Option.pure_def,
        Option.some.injEq, octet?_eq_some] at h
      obtain ⟨a, rfl, b, rfl, c, rfl, d, rfl, rfl⟩ := h
      rw [← hjoin, hpieces]
      simp [chars]
    · cases h
  · rintro rfl
    simpa [ofText?, toText] using ofText?_toText x

theorem ofText?_eq_some {s : String} : ofText? s = some x ↔ s = x.toText := by
  rw [ofText?, ofChars?_eq_some, toText, ← String.toList_inj, String.toList_ofList]

theorem not_isBlank_of_mem_chars {c : Char} (h : c ∈ x.chars) : Text.isBlank c = false := by
  rcases mem_chars h with hdigit | rfl
  · exact Text.isBlank_of_isDigit hdigit
  · decide

/-- Trimming takes the blanks off an address and nothing else. -/
theorem trim_eq_toText_iff {s : String} :
    Text.trim s = x.toText ↔ ∃ before after : String,
      (∀ c ∈ before.toList, Text.isBlank c = true) ∧ (∀ c ∈ after.toList, Text.isBlank c = true) ∧
        s = before ++ x.toText ++ after := by
  rw [← Text.isTrimmed_iff]
  refine ⟨fun h => h.within, fun h => ⟨h, fun c hc => ?_, fun c hc => ?_⟩⟩
  all_goals rw [toText, String.toList_ofList] at hc
  · exact not_isBlank_of_mem_chars (List.mem_of_head? hc)
  · exact not_isBlank_of_mem_chars (List.mem_of_getLast? hc)

end Ipv4

theorem subnetOfText_between {x : Ipv4} {before after : String}
    (hbefore : ∀ c ∈ before.toList, Text.isBlank c = true)
    (hafter : ∀ c ∈ after.toList, Text.isBlank c = true) :
    subnetOfText (before ++ x.toText ++ after) = .ok x.subnet :=
  subnetOfText_eq_ok.2 ⟨x, Ipv4.ofText?_eq_some.2
    (Ipv4.trim_eq_toText_iff.2 ⟨before, after, hbefore, hafter, rfl⟩), rfl⟩

/-- What an address is written as leads to its subnet. -/
theorem subnetOfText_toText (x : Ipv4) : subnetOfText x.toText = .ok x.subnet := by
  have h := @subnetOfText_between x "" "" (by simp) (by simp)
  rwa [String.empty_append, String.append_empty] at h

theorem subnetOfText_eq_error {s : String} {fault : Fault} :
    subnetOfText s = .error fault ↔
      fault = .notAnAddress s ∧ ∀ x : Ipv4, Text.trim s ≠ x.toText := by
  unfold subnetOfText
  cases hread : Ipv4.ofText? (Text.trim s) with
  | some x =>
      have htrim := Ipv4.ofText?_eq_some.1 hread
      exact ⟨nofun, fun h => absurd htrim (h.2 x)⟩
  | none =>
      have hnone (x : Ipv4) : Text.trim s ≠ x.toText := by
        intro htrim
        rw [Ipv4.ofText?_eq_some.2 htrim] at hread
        cases hread
      simp only [Except.error.injEq]
      exact ⟨fun h => ⟨h.symm, hnone⟩, fun h => h.1.symm⟩

/-- A text leads to a subnet exactly if, without the blanks at its ends, it is the canonical
text of an address of the subnet: four octets in decimal, without leading zeros, with single
dots between them. Any other text is refused, and the refusal repeats it with its blanks. So
blanks around an address change nothing, and a subnet that was accepted leads to itself. -/
theorem subnetOfText_accepts_canonical :
    (∀ s subnet, subnetOfText s = .ok subnet ↔
      ∃ a b c d, Text.trim s = (⟨a, b, c, d⟩ : Ipv4).toText ∧ subnet = ⟨a, b, c, 1⟩) ∧
    (∀ s fault, subnetOfText s = .error fault ↔
      fault = .notAnAddress s ∧ ¬ Ipv4.IsDotted (Text.trim s).toList) ∧
    (∀ cs, Ipv4.IsDotted cs ↔ ∃ x : Ipv4, cs = x.toText.toList) ∧
    (∀ s (x : Ipv4), Text.trim s = x.toText ↔ ∃ before after : String,
      (∀ c ∈ before.toList, Text.isBlank c = true) ∧ (∀ c ∈ after.toList, Text.isBlank c = true) ∧
        s = before ++ x.toText ++ after) ∧
    (∀ (x : Ipv4) (before after : String), (∀ c ∈ before.toList, Text.isBlank c = true) →
      (∀ c ∈ after.toList, Text.isBlank c = true) →
      subnetOfText (before ++ x.toText ++ after) = .ok ⟨x.a, x.b, x.c, 1⟩) ∧
    (∀ s subnet, subnetOfText s = .ok subnet → subnetOfText subnet.toText = .ok subnet) := by
  have htext (cs : List Char) : Ipv4.IsDotted cs ↔ ∃ x : Ipv4, cs = x.toText.toList := by
    simp only [Ipv4.isDotted_iff, Ipv4.toText, String.toList_ofList]
  refine ⟨fun s subnet => ?_, fun s fault => ?_, htext, fun s x => Ipv4.trim_eq_toText_iff,
    fun x before after hbefore hafter => subnetOfText_between hbefore hafter, fun s subnet h => ?_⟩
  · rw [subnetOfText_eq_ok]
    constructor
    · rintro ⟨x, hread, rfl⟩
      exact ⟨x.a, x.b, x.c, x.d, Ipv4.ofText?_eq_some.1 hread, rfl⟩
    · rintro ⟨a, b, c, d, htrim, rfl⟩
      exact ⟨_, Ipv4.ofText?_eq_some.2 htrim, rfl⟩
  · rw [subnetOfText_eq_error, htext, not_exists]
    simp only [ne_eq, String.toList_inj]
  · obtain ⟨x, -, rfl⟩ := subnetOfText_eq_ok.1 h
    exact subnetOfText_toText x.subnet

/-- An address between an ideographic space, a tab and a line feed, and its subnet. -/
theorem subnetOfText_between_blanks :
    (∀ c ∈ "\u3000\t".toList, Text.isBlank c = true) ∧
    (∀ c ∈ "\n".toList, Text.isBlank c = true) ∧
    subnetOfText ("\u3000\t" ++ (⟨192, 168, 0, 255⟩ : Ipv4).toText ++ "\n") =
      .ok ⟨192, 168, 0, 1⟩ ∧
    subnetOfText (⟨192, 168, 0, 1⟩ : Ipv4).toText = .ok ⟨192, 168, 0, 1⟩ := by
  have hbefore : ∀ c ∈ "\u3000\t".toList, Text.isBlank c = true :=
    List.all_eq_true.1 (by decide)
  have hafter : ∀ c ∈ "\n".toList, Text.isBlank c = true := List.all_eq_true.1 (by decide)
  obtain ⟨-, -, -, -, hblanks, hagain⟩ := subnetOfText_accepts_canonical
  have hread := hblanks ⟨192, 168, 0, 255⟩ _ _ hbefore hafter
  exact ⟨hbefore, hafter, hread, hagain _ _ hread⟩

end VmLifecycle
