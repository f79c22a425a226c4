import VmLifecycle.Proofs.Json.Truncation
import VmLifecycle.Proofs.Provision.Resumption
import VmLifecycle.Proofs.Text.Cutting

/-!
# Damaged options are not used

The options that a guest has stored may have been cut off while they were written, or something
may stand behind them. Trimming takes only blanks off the output, so a text that was cut off
stays cut off, and what stands behind the options stays there. Neither is taken for options, and
a run that is resumed runs the script with what the whole output says or not at all.
-/

namespace VmLifecycle.Provision

open Program Json

/-! ## Trimming a text that begins with a bracket -/

theorem isBlank_of_isSpace {c : Char} (h : isSpace c = true) : Text.isBlank c = true := by
  rcases isSpace_iff.1 h with rfl | rfl | rfl | rfl <;> decide

/-- Only blanks at the end are taken off a text that begins with a bracket. -/
theorem exists_eq_trim_append {text : String} {cs : List Char} (htext : text.toList = '{' :: cs) :
    ∃ after, (∀ c ∈ after, Text.isBlank c = true) ∧
      text.toList = (Text.trim text).toList ++ after ∧ Text.trim text ≠ "" := by
  obtain ⟨before, after, hbefore, hafter, heq⟩ := (Text.isTrimmed_trim text).within
  have hbracket : Text.isBlank '{' = false := by decide
  have hlist : text.toList = before.toList ++ (Text.trim text).toList ++ after.toList := by
    rw [← String.toList_append, ← String.toList_append, ← heq]
  refine ⟨after.toList, hafter, ?_, fun hempty => ?_⟩
  · cases hfront : before.toList with
    | nil => rwa [hfront, List.nil_append] at hlist
    | cons b rest =>
        rw [htext, hfront] at hlist
        obtain rfl := (List.cons.inj hlist).1
        rw [hbefore '{' (by simp [hfront])] at hbracket
        cases hbracket
  · rw [Text.trim_eq_empty_iff.1 hempty '{' (by simp [htext])] at hbracket
    cases hbracket

theorem encode_eq_cons (o : ProvisionOptions) : ∃ cs, (encode o).toList = '{' :: cs :=
  ⟨_, String.toList_ofList⟩

/-! ## Reading stored options -/

/-- Options that were cut off are found to end too early. -/
theorem ofStored_cut (o : ProvisionOptions) {p q : String} (hp : p ≠ "") (hq : q ≠ "")
    (h : encode o = p ++ q) : ProvisionOptions.ofStored p = .error .truncated := by
  obtain ⟨cs, hencode⟩ := encode_eq_cons o
  have hsplit : (encode o).toList = p.toList ++ q.toList := by rw [h, String.toList_append]
  obtain ⟨c, cs', hcons⟩ :=
    List.exists_cons_of_ne_nil fun hnil => hp (String.toList_eq_nil_iff.1 hnil)
  obtain rfl : '{' = c := by
    rw [hencode, hcons] at hsplit
    exact (List.cons.inj hsplit).1
  obtain ⟨after, -, heq, hne⟩ := exists_eq_trim_append hcons
  have hcut : Cut (Text.trim p).toList (encode o).toList := by
    refine ⟨after ++ q.toList, ?_, by rw [← List.append_assoc, ← heq, hsplit]⟩
    exact List.append_ne_nil_of_right_ne_nil _ fun hnil => hq (String.toList_eq_nil_iff.1 hnil)
  rw [ofStored_of_trim_ne hne, decode_cut (by decide) (by decide) o hcut]
  rfl

/-- Options with more than blanks behind them are malformed. -/
theorem ofStored_append (o : ProvisionOptions) {t : String}
    (ht : ∃ c ∈ t.toList, Text.isBlank c = false) :
    ProvisionOptions.ofStored (encode o ++ t) = .error .malformed := by
  obtain ⟨cs, hencode⟩ := encode_eq_cons o
  obtain ⟨c, hc, hblank⟩ := ht
  have hcons : (encode o ++ t).toList = '{' :: (cs ++ t.toList) := by
    rw [String.toList_append, hencode]
    rfl
  obtain ⟨after, hafter, heq, hne⟩ := exists_eq_trim_append hcons
  have hnot : c ∉ after := by
    intro h
    rw [hafter c h] at hblank
    cases hblank
  -- what is trimmed off is blank, so it does not reach the options
  obtain ⟨more, htrim, hmore⟩ : ∃ more : List Char,
      (Text.trim (encode o ++ t)).toList = (encode o).toList ++ more ∧ c ∈ more := by
    rw [String.toList_append] at heq
    rcases List.append_eq_append_iff.1 heq with ⟨more, htrim, ht⟩ | ⟨more, -, hmore⟩
    · rw [ht] at hc
      exact ⟨more, htrim, (List.mem_append.1 hc).resolve_right hnot⟩
    · rw [hmore] at hnot
      exact absurd (List.mem_append_right _ hc) hnot
  have htrim : Text.trim (encode o ++ t) = encode o ++ String.ofList more := by
    rw [← String.toList_inj, htrim, String.toList_append, String.toList_ofList]
  have hspace : isSpace c = false := by
    rw [Bool.eq_false_iff]
    intro h
    rw [isBlank_of_isSpace h] at hblank
    cases hblank
  have hmore : ∃ c ∈ (String.ofList more).toList, isSpace c = false := by
    rw [String.toList_ofList]
    exact ⟨c, hmore, hspace⟩
  rw [ofStored_of_trim_ne hne, htrim, decode_encode_append (by decide) o hmore]
  rfl

/-- Stored options that were cut off end too early, and with anything but blanks behind them
they are malformed; there are none only where there are blanks alone. A run that is resumed runs
the script with the options that the whole output is decoded to, and on any other output it ends
with the error and says nothing. -/
theorem damaged_options_are_not_used :
    (∀ (o : ProvisionOptions) (p q : String), p ≠ "" → q ≠ "" → encode o = p ++ q →
      ProvisionOptions.ofStored p = .error .truncated) ∧
    (∀ (o : ProvisionOptions) (t : String), (∃ c ∈ t.toList, Text.isBlank c = false) →
      ProvisionOptions.ofStored (encode o ++ t) = .error .malformed) ∧
    (∀ output, ProvisionOptions.ofStored output = .ok none ↔ Text.trim output = "") ∧
    ∀ (ctx : Context) (config : VmConfig) (trace : List Exchange)
      (r : Option (Except LifecycleError Unit)),
      Runs (Snapshot.provision ctx (.existing .unprovisioned config)).run trace r ↔
        ∃ result, r = some result ∧ Resumed ctx config trace result := by
  refine ⟨fun o _ _ hp hq h => ofStored_cut o hp hq h, fun o _ ht => ofStored_append o ht,
    fun _ => ofStored_eq_none_iff, fun ctx config trace r => ?_⟩
  rw [provision_unprovisioned]
  exact runs_resume

/-- Options that were cut off in front of an escaped quote, and two documents in a row. -/
theorem damaged_options_are_not_used_quote :
    ProvisionOptions.ofStored "\x7b\"domain\":\"a\\" = .error .truncated ∧
      ProvisionOptions.ofStored (encode (⟨"a", "b", "c", []⟩ : ProvisionOptions) ++ " \x7b\x7d") =
        .error .malformed := by
  obtain ⟨hcut, hmore, -, -⟩ := damaged_options_are_not_used
  exact ⟨hcut ⟨"a\"b", "c", "d", []⟩ _
      "\"b\",\"ip\":\"c\",\"services\":\"d\",\"registries\":[]\x7d" (by decide) (by decide)
      (by decide +kernel),
    hmore ⟨"a", "b", "c", []⟩ _ ⟨'\x7b', by decide +kernel, by decide⟩⟩

end VmLifecycle.Provision
