import VmLifecycle.Provision.Commands

/-!
# How a shell reads a command

A reader of command lines by the rules of a POSIX shell: blanks part words,
operators stand for themselves, nothing is special between single quotes, and
four characters are between double quotes. What would have to be expanded
rather than read, such as a parameter or a pattern, is refused.
-/

namespace VmLifecycle.Shell

/-- A part of a command line. -/
inductive Token where
  | word (text : String)
  | operator (mark : Char)
deriving DecidableEq, Repr

/-- Where the reading of a command line stands. A word that was begun is held,
its latest character first. -/
inductive Mode where
  | between
  | bare (word : List Char)
  /-- After a backslash outside of quotes. -/
  | escaped (word : List Char)
  | single (word : List Char)
  | double (word : List Char)
  /-- After a backslash between double quotes. -/
  | doubleEscaped (word : List Char)
deriving DecidableEq, Repr

def isBlank (c : Char) : Bool :=
  c = ' ' || c = '\t'

def isOperator (c : Char) : Bool :=
  ['|', '&', ';', '<', '>', '(', ')', '\n'].contains c

/-- Whether the character starts an expansion, or may start one, where it stands
without quotes. -/
def isExpansion (c : Char) : Bool :=
  ['$', '\x60', '*', '?', '[', '#', '~', '=', '%'].contains c

/-- How a word goes on with a character without quotes. -/
def extend? (word : List Char) (c : Char) : Option Mode :=
  if c = '\'' then some (.single word)
  else if c = '"' then some (.double word)
  else if c = '\\' then some (.escaped word)
  else if isExpansion c then none
  else some (.bare (c :: word))

/-- A reading under way: the tokens that are complete, latest first, and what
comes after them. -/
structure Scan where
  taken : List Token
  mode : Mode
deriving DecidableEq, Repr

namespace Scan

def endWord (taken : List Token) (word : List Char) : List Token :=
  .word (String.ofList word.reverse) :: taken

def next? : Scan → Char → Option Scan
  | ⟨taken, .between⟩, c =>
    if isBlank c then some ⟨taken, .between⟩
    else if isOperator c then some ⟨.operator c :: taken, .between⟩
    else (extend? [] c).map (⟨taken, ·⟩)
  | ⟨taken, .bare word⟩, c =>
    if isBlank c then some ⟨endWord taken word, .between⟩
    else if isOperator c then some ⟨.operator c :: endWord taken word, .between⟩
    else (extend? word c).map (⟨taken, ·⟩)
  | ⟨taken, .escaped word⟩, c =>
    if c = '\n' then none else some ⟨taken, .bare (c :: word)⟩
  | ⟨taken, .single word⟩, c =>
    if c = '\'' then some ⟨taken, .bare word⟩ else some ⟨taken, .single (c :: word)⟩
  | ⟨taken, .double word⟩, c =>
    if c = '"' then some ⟨taken, .bare word⟩
    else if c = '\\' then some ⟨taken, .doubleEscaped word⟩
    else if c = '$' || c = '\x60' then none
    else some ⟨taken, .double (c :: word)⟩
  | ⟨taken, .doubleEscaped word⟩, c =>
    if ['$', '\x60', '"', '\\'].contains c then some ⟨taken, .double (c :: word)⟩
    else if c = '\n' then some ⟨taken, .double word⟩
    else some ⟨taken, .double (c :: '\\' :: word)⟩

/-- The tokens of a reading that may end here. -/
def finish? : Scan → Option (List Token)
  | ⟨taken, .between⟩ => some taken.reverse
  | ⟨taken, .bare word⟩ => some (endWord taken word).reverse
  | _ => none

end Scan

def scan? (s : Scan) (cs : List Char) : Option Scan :=
  cs.foldlM Scan.next? s

def tokens? (command : String) : Option (List Token) :=
  (scan? ⟨[], .between⟩ command.toList).bind Scan.finish?

variable {taken : List Token} {word : List Char}

theorem scan?_append {s t : Scan} {cs : List Char} (h : scan? s cs = some t) (ds : List Char) :
    scan? s (cs ++ ds) = scan? t ds := by
  unfold scan? at *
  rw [List.foldlM_append, h]
  rfl

/-! ## Tokens that were taken -/

/-- What was taken is kept. -/
theorem suffix_of_next? {s t : Scan} {c : Char} (h : s.next? c = some t) :
    s.taken <:+ t.taken := by
  obtain ⟨taken, mode⟩ := s
  have hkept {m : Option Mode} (h : m.map (⟨taken, ·⟩) = some t) : taken <:+ t.taken := by
    obtain ⟨mode, -, rfl⟩ := Option.map_eq_some_iff.1 h
    exact List.suffix_refl _
  cases mode with
  | between =>
      simp only [Scan.next?] at h
      split at h
      · cases h
        exact List.suffix_refl _
      · split at h
        · cases h
          exact List.suffix_cons _ _
        · exact hkept h
  | bare word =>
      simp only [Scan.next?, Scan.endWord] at h
      split at h
      · cases h
        exact List.suffix_cons _ _
      · split at h
        · cases h
          exact (List.suffix_cons _ _).trans (List.suffix_cons _ _)
        · exact hkept h
  | _ =>
      simp only [Scan.next?] at h
      (repeat' split at h) <;> cases h <;> exact List.suffix_refl _

theorem suffix_of_scan? {s t : Scan} {cs : List Char} (h : scan? s cs = some t) :
    s.taken <:+ t.taken := by
  induction cs generalizing s with
  | nil =>
      obtain rfl : s = t := Option.some.inj h
      exact List.suffix_refl _
  | cons c cs ih =>
      obtain ⟨u, hu, ht⟩ := Option.bind_eq_some_iff.1 h
      exact (suffix_of_next? hu).trans (ih ht)

theorem head?_tokens {front rest : String} {token : Token} {later : List Token}
    (hfront : scan? ⟨[], .between⟩ front.toList = some ⟨later ++ [token], .between⟩)
    {tokens : List Token} (h : tokens? (front ++ rest) = some tokens) :
    tokens.head? = some token := by
  unfold tokens? at h
  rw [String.toList_append, scan?_append hfront] at h
  obtain ⟨t, ht, hfinish⟩ := Option.bind_eq_some_iff.1 h
  obtain ⟨last, hlast⟩ := suffix_of_scan? ht
  obtain ⟨taken, mode⟩ := t
  subst hlast
  cases mode with
  | between =>
      obtain rfl := Option.some.inj hfinish
      simp
  | bare word =>
      obtain rfl := Option.some.inj hfinish
      simp [Scan.endWord]
  | _ => cases hfinish

/-! ## Single quotes -/

/-- What stands between single quotes is taken as it is. A quote in it is
written outside of them, so the word goes on. -/
theorem scan?_quoted (cs : List Char) :
    scan? ⟨taken, .single word⟩
        (cs.flatMap (fun c => if c = '\'' then ['\'', '\\', '\'', '\''] else [c]) ++ ['\'']) =
      some ⟨taken, .bare (cs.reverse ++ word)⟩ := by
  induction cs generalizing word with
  | nil => rfl
  | cons c cs ih =>
      have hfirst : scan? ⟨taken, .single word⟩
          (if c = '\'' then ['\'', '\\', '\'', '\''] else [c]) =
          some ⟨taken, .single (c :: word)⟩ := by
        -- a quote closes the quotes, stands escaped, and opens them again
        by_cases hc : c = '\''
        · subst hc
          rfl
        · rw [if_neg hc]
          show ((if c = '\'' then some _ else some _) : Option Scan).bind _ = _
          rw [if_neg hc]
          rfl
      rw [List.flatMap_cons, List.append_assoc, scan?_append hfirst, ih]
      simp

/-- A text between single quotes is one word, or the rest of one. -/
theorem scan?_singleQuoted (s : String) :
    scan? ⟨taken, .between⟩ (Guest.singleQuoted s).toList =
      some ⟨taken, .bare s.toList.reverse⟩ := by
  have hopen : scan? ⟨taken, .between⟩ ['\''] = some ⟨taken, .single []⟩ := rfl
  rw [Guest.singleQuoted, String.toList_ofList, List.cons_append, ← List.singleton_append,
    scan?_append hopen, scan?_quoted, List.append_nil]

end VmLifecycle.Shell
