/-!
# What holds since an entry of a list

Lists that grow at their end, such as lines that are read, settings that are given and exchanges
that were made. What matters of them is often the last entry of some kind, so nothing behind it
is of a kind that would take its place.
-/

namespace VmLifecycle

variable {α : Type} {P Q : α → Prop} {xs : List α} {x : α}

/-- Some entry has `P`, and every entry behind it has `Q`. -/
def Since (P Q : α → Prop) (xs : List α) : Prop :=
  ∃ before x after, xs = before ++ x :: after ∧ P x ∧ ∀ y ∈ after, Q y

theorem not_since_nil : ¬ Since P Q [] := by
  rintro ⟨before, x, after, h, -⟩
  cases before <;> cases h

/-- A new entry is the one that counts, or lets an earlier one count. -/
theorem since_concat : Since P Q (xs ++ [x]) ↔ P x ∨ Q x ∧ Since P Q xs := by
  constructor
  · rintro ⟨before, y, after, h, hy, hafter⟩
    rcases List.eq_nil_or_concat after with rfl | ⟨after, z, rfl⟩
    · obtain ⟨-, hx⟩ := List.append_inj' h rfl
      cases hx
      exact .inl hy
    · have hsplit : xs ++ [x] = (before ++ y :: after) ++ [z] := by simpa using h
      obtain ⟨rfl, hx⟩ := List.append_inj' hsplit rfl
      cases hx
      exact .inr ⟨hafter x (by simp), before, y, after, rfl, hy,
        fun z hz => hafter z (by simp [hz])⟩
  · rintro (hx | ⟨hx, before, y, after, rfl, hy, hafter⟩)
    · exact ⟨xs, x, [], rfl, hx, by simp⟩
    · exact ⟨before, y, after ++ [x], by simp, hy,
        List.forall_mem_append.2 ⟨hafter, List.forall_mem_singleton.2 hx⟩⟩

end VmLifecycle
