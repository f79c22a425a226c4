import VmLifecycle.Text.Pieces

/-!
# Blank characters

A character is blank if it has the Unicode property of white space. Trimming
takes blanks off both ends of a text, and the words of a line are its longest
stretches without a blank.
-/

namespace VmLifecycle.Text

/-- The code points of white space: twenty-five of them, in ten ranges. -/
def blankRanges : List (Nat × Nat) :=
  [(0x09, 0x0D), (0x20, 0x20), (0x85, 0x85), (0xA0, 0xA0), (0x1680, 0x1680),
   (0x2000, 0x200A), (0x2028, 0x2029), (0x202F, 0x202F), (0x205F, 0x205F), (0x3000, 0x3000)]

/-- Whether a character is white space. The zero-width space and the byte
order mark are not. -/
def isBlank (c : Char) : Bool :=
  blankRanges.any fun r => r.1 ≤ c.toNat && c.toNat ≤ r.2

/-- `cs` without the blanks at its two ends. -/
def trimmed (cs : List Char) : List Char :=
  ((cs.dropWhile isBlank).reverse.dropWhile isBlank).reverse

theorem dropWhile_isBlank_append {blanks cs : List Char}
    (hblanks : ∀ c ∈ blanks, isBlank c = true)
    (hcs : ∀ c, cs.head? = some c → isBlank c = false) :
    (blanks ++ cs).dropWhile isBlank = cs := by
  rw [List.dropWhile_append_of_pos hblanks]
  cases cs with
  | nil => rfl
  | cons c cs => rw [List.dropWhile_cons, if_neg (by simp [hcs c rfl])]

/-- Trimming takes nothing off a text that begins and ends without a blank. -/
theorem trimmed_append {before cs after : List Char}
    (hbefore : ∀ c ∈ before, isBlank c = true) (hafter : ∀ c ∈ after, isBlank c = true)
    (hfirst : ∀ c, cs.head? = some c → isBlank c = false)
    (hlast : ∀ c, cs.getLast? = some c → isBlank c = false) (hcs : cs ≠ []) :
    trimmed (before ++ (cs ++ after)) = cs := by
  have hhead : (cs ++ after).head? = cs.head? := by
    obtain ⟨c, cs, rfl⟩ := List.exists_cons_of_ne_nil hcs
    rfl
  unfold trimmed
  rw [dropWhile_isBlank_append hbefore (by rwa [hhead]), List.reverse_append,
    dropWhile_isBlank_append (by simpa using hafter) (by rwa [List.head?_reverse]),
    List.reverse_reverse]

/-- What trimming takes off the two ends is blank. -/
theorem exists_eq_trimmed (cs : List Char) :
    ∃ before after, (∀ c ∈ before, isBlank c = true) ∧ (∀ c ∈ after, isBlank c = true) ∧
      cs = before ++ (trimmed cs ++ after) := by
  let rest := cs.dropWhile isBlank
  refine ⟨cs.takeWhile isBlank, (rest.reverse.takeWhile isBlank).reverse,
    List.all_eq_true.1 List.all_takeWhile, fun c hc => ?_, ?_⟩
  · exact List.all_eq_true.1 List.all_takeWhile c (List.mem_reverse.1 hc)
  · have hrest : trimmed cs ++ (rest.reverse.takeWhile isBlank).reverse = rest := by
      rw [trimmed, ← List.reverse_append, List.takeWhile_append_dropWhile, List.reverse_reverse]
    rw [hrest, List.takeWhile_append_dropWhile]

def trim (s : String) : String :=
  String.ofList (trimmed s.toList)

theorem isBlank_of_isDigit {c : Char} (h : c.isDigit = true) : isBlank c = false := by
  obtain ⟨hlow, hhigh⟩ : 48 ≤ c.toNat ∧ c.toNat ≤ 57 := Char.isDigit_iff_toNat.1 h
  simp [isBlank, blankRanges]
  omega

def words (line : List Char) : List (List Char) :=
  (pieces isBlank line).filter fun word => !word.isEmpty

end VmLifecycle.Text
