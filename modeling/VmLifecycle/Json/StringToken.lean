import VmLifecycle.Json.Reader

/-!
# JSON strings

The inside of a string token, from after the opening quote to the closing one,
in two readings. A string whose text is wanted must pair its surrogate escapes;
a string that is only passed over need not. The written form escapes quotes,
backslashes and control characters and nothing else.
-/

namespace VmLifecycle.Json

def hexValue? (c : Char) : Option Nat :=
  if c.isDigit then some (c.toNat - '0'.toNat)
  else if 'a' ≤ c && c ≤ 'f' then some (c.toNat - 'a'.toNat + 10)
  else if 'A' ≤ c && c ≤ 'F' then some (c.toNat - 'A'.toNat + 10)
  else none

def byteLength (cs : List Char) : Nat :=
  cs.foldl (fun n c => n + c.utf8Size) 0

/-- Reads four hexadecimal digits as one 16-bit unit. With fewer than four
bytes left the text counts as cut off, whatever they are. -/
def codeUnit (s : List Char) : Except ReadError (Nat × List Char) :=
  match s with
  | a :: b :: c :: d :: rest =>
    match hexValue? a, hexValue? b, hexValue? c, hexValue? d with
    | some a, some b, some c, some d => .ok (((a * 16 + b) * 16 + c) * 16 + d, rest)
    | _, _, _, _ => .error .malformed
  | few => if byteLength few < 4 then .error .truncated else .error .malformed

/-- The character that a backslash and one letter stand for. -/
def shortEscape? : Char → Option Char
  | '"' => some '"'
  | '\\' => some '\\'
  | '/' => some '/'
  | 'b' => some '\x08'
  | 'f' => some '\x0c'
  | 'n' => some '\n'
  | 'r' => some '\r'
  | 't' => some '\t'
  | _ => none

/-- First half of a surrogate pair. -/
def isLeading (unit : Nat) : Bool := 0xD800 ≤ unit && unit < 0xDC00

def isTrailing (unit : Nat) : Bool := 0xDC00 ≤ unit && unit < 0xE000

def paired (leading trailing : Nat) : Char :=
  Char.ofNat (0x10000 + (leading - 0xD800) * 0x400 + (trailing - 0xDC00))

/-- Reads a numeric escape from after its `u`. A leading surrogate must be
followed at once by the escape of a trailing one. -/
def numericEscape (s : List Char) : Except ReadError (Char × List Char) :=
  match codeUnit s with
  | .error e => .error e
  | .ok (unit, rest) =>
    if isTrailing unit then .error .malformed
    else if isLeading unit then
      match rest with
      | [] => .error .truncated
      | ['\\'] => .error .truncated
      | '\\' :: 'u' :: rest =>
        match codeUnit rest with
        | .error e => .error e
        | .ok (second, rest) =>
          if isTrailing second then .ok (paired unit second, rest) else .error .malformed
      | _ => .error .malformed
    else .ok (Char.ofNat unit, rest)

def escape (s : List Char) : Except ReadError (Char × List Char) :=
  match s with
  | [] => .error .truncated
  | 'u' :: rest => numericEscape rest
  | c :: rest =>
    match shortEscape? c with
    | some c => .ok (c, rest)
    | none => .error .malformed

def passEscape (s : List Char) : Except ReadError (List Char) :=
  match s with
  | [] => .error .truncated
  | 'u' :: rest => (codeUnit rest).map (·.2)
  | c :: rest => if (shortEscape? c).isSome then .ok rest else .error .malformed

theorem length_lt_of_codeUnit {s : List Char} {u : Nat} {rest : List Char}
    (h : codeUnit s = .ok (u, rest)) : rest.length < s.length := by
  unfold codeUnit at h
  split at h
  · split at h
    · simp only [Except.ok.injEq, Prod.mk.injEq] at h
      simp only [← h.2, List.length_cons]; omega
    · simp at h
  · split at h <;> simp at h

theorem length_lt_of_numericEscape {s : List Char} {c : Char} {rest : List Char}
    (h : numericEscape s = .ok (c, rest)) : rest.length < s.length := by
  unfold numericEscape at h
  split at h
  · simp at h
  · rename_i unit tail hu
    have hlt := length_lt_of_codeUnit hu
    split at h
    · simp at h
    · split at h
      · split at h
        · simp at h
        · simp at h
        · rename_i tail' _
          split at h
          · simp at h
          · rename_i hs
            have hlt' := length_lt_of_codeUnit hs
            split at h
            · simp only [Except.ok.injEq, Prod.mk.injEq] at h
              simp only [← h.2, List.length_cons] at *; omega
            · simp at h
        · simp at h
      · simp only [Except.ok.injEq, Prod.mk.injEq] at h
        rw [← h.2]; exact hlt

theorem length_lt_of_escape {s : List Char} {c : Char} {rest : List Char}
    (h : escape s = .ok (c, rest)) : rest.length < s.length := by
  unfold escape at h
  split at h
  · simp at h
  · have := length_lt_of_numericEscape h
    simp only [List.length_cons]; omega
  · split at h
    · simp only [Except.ok.injEq, Prod.mk.injEq] at h
      simp [← h.2]
    · simp at h

theorem length_lt_of_passEscape {s rest : List Char} (h : passEscape s = .ok rest) :
    rest.length < s.length := by
  unfold passEscape at h
  split at h
  · simp at h
  · rename_i tail
    cases hu : codeUnit tail with
    | error e => simp [hu, Except.map] at h
    | ok p =>
      have := @length_lt_of_codeUnit _ p.1 p.2 hu
      simp only [hu, Except.map, Except.ok.injEq] at h
      simp only [← h, List.length_cons]; omega
  · split at h
    · simp only [Except.ok.injEq] at h
      simp [← h]
    · simp at h

/-- Reads a string from after its opening quote; `taken` holds the characters
read so far, latest first. -/
def stringBody (taken : List Char) (s : List Char) : Except ReadError (String × List Char) :=
  match s with
  | [] => .error .truncated
  | '"' :: rest => .ok (String.ofList taken.reverse, rest)
  | '\\' :: rest =>
    match h : escape rest with
    | .error e => .error e
    | .ok (c, after) =>
      have := length_lt_of_escape h
      stringBody (c :: taken) after
  | c :: rest => if c < ' ' then .error .malformed else stringBody (c :: taken) rest
termination_by s.length
decreasing_by all_goals simp only [List.length_cons]; omega

def passString (s : List Char) : Except ReadError (List Char) :=
  match s with
  | [] => .error .truncated
  | '"' :: rest => .ok rest
  | '\\' :: rest =>
    match h : passEscape rest with
    | .error e => .error e
    | .ok after =>
      have := length_lt_of_passEscape h
      passString after
  | c :: rest => if c < ' ' then .error .malformed else passString rest
termination_by s.length
decreasing_by all_goals simp only [List.length_cons]; omega

def escapedChar (c : Char) : List Char :=
  match c with
  | '"' => ['\\', '"']
  | '\\' => ['\\', '\\']
  | '\x08' => ['\\', 'b']
  | '\t' => ['\\', 't']
  | '\n' => ['\\', 'n']
  | '\x0c' => ['\\', 'f']
  | '\r' => ['\\', 'r']
  | c =>
    if c < ' ' then
      ['\\', 'u', '0', '0', Nat.digitChar (c.toNat / 16), Nat.digitChar (c.toNat % 16)]
    else [c]

def stringToken (s : String) : List Char :=
  '"' :: s.toList.flatMap escapedChar ++ ['"']

/-! ### Reading what was written -/

@[simp] theorem stringBody_nil (taken : List Char) :
    stringBody taken [] = .error .truncated := by
  rw [stringBody]

@[simp] theorem stringBody_quote (taken rest : List Char) :
    stringBody taken ('"' :: rest) = .ok (String.ofList taken.reverse, rest) := by
  rw [stringBody]

theorem stringBody_escape {taken rest after : List Char} {c : Char}
    (h : escape rest = .ok (c, after)) :
    stringBody taken ('\\' :: rest) = stringBody (c :: taken) after := by
  rw [stringBody]
  split <;> simp_all

theorem stringBody_escape_error {taken rest : List Char} {e : ReadError}
    (h : escape rest = .error e) : stringBody taken ('\\' :: rest) = .error e := by
  rw [stringBody]
  split <;> simp_all

theorem stringBody_plain {taken rest : List Char} {c : Char} (hq : c ≠ '"') (hb : c ≠ '\\')
    (hc : ¬ c < ' ') : stringBody taken (c :: rest) = stringBody (c :: taken) rest := by
  rw [stringBody.eq_def]
  split
  · simp_all
  · simp_all
  · simp_all
  · rename_i heq
    obtain ⟨rfl, rfl⟩ := List.cons.inj heq
    rw [if_neg hc]

theorem hexValue?_digitChar {n : Nat} (h : n < 16) : hexValue? (Nat.digitChar n) = some n := by
  have key : ∀ k : Fin 16, hexValue? (Nat.digitChar k) = some k.val := by decide
  exact key ⟨n, h⟩

theorem escape_control {c : Char} (hc : c < ' ') (rest : List Char) :
    escape ('u' :: '0' :: '0' :: Nat.digitChar (c.toNat / 16) ::
      Nat.digitChar (c.toNat % 16) :: rest) = .ok (c, rest) := by
  have hn : c.toNat < 32 := hc
  have h0 : hexValue? '0' = some 0 := by decide
  have h1 : hexValue? (Nat.digitChar (c.toNat / 16)) = some (c.toNat / 16) :=
    hexValue?_digitChar (by omega)
  have h2 : hexValue? (Nat.digitChar (c.toNat % 16)) = some (c.toNat % 16) :=
    hexValue?_digitChar (by omega)
  have hv : c.toNat / 16 * 16 + c.toNat % 16 = c.toNat := by omega
  have ht : isTrailing c.toNat = false := by simp [isTrailing]; omega
  have hl : isLeading c.toNat = false := by simp [isLeading]; omega
  simp [escape, numericEscape, codeUnit, h0, h1, h2, hv, ht, hl]

theorem stringBody_escapedChar (c : Char) (taken rest : List Char) :
    stringBody taken (escapedChar c ++ rest) = stringBody (c :: taken) rest := by
  unfold escapedChar
  split
  all_goals first
    | exact stringBody_escape (by simp [escape, shortEscape?])
    | skip
  split
  · rename_i hc
    exact stringBody_escape (escape_control hc rest)
  · exact stringBody_plain (by assumption) (by assumption) (by assumption)

end VmLifecycle.Json
