import VmLifecycle.Json.Pass

/-!
# The grammar of JSON texts

Which texts are blanks, string tokens, numerals and values, said without a reader: what may
be written, not how it is taken. Values nest to any depth. A string token between values may
hold any code units, and one whose text is wanted spells that text.
-/

namespace VmLifecycle.Json

/-- What may stand between tokens. -/
def Blanks (s : List Char) : Prop :=
  ∀ c ∈ s, c ∈ [' ', '\t', '\n', '\r']

instance : DecidablePred Blanks :=
  fun s => List.decidableBAll (· ∈ [' ', '\t', '\n', '\r']) s

/-! ## Strings -/

/-- A hexadecimal digit, of either case, and its value. -/
def HexDigit (c : Char) (n : Nat) : Prop :=
  n < 16 ∧ (c = Nat.digitChar n ∨ c = (Nat.digitChar n).toUpper)

/-- Four hexadecimal digits and the 16-bit unit that they stand for. -/
inductive UnitDigits : List Char → Nat → Prop
  | mk {a b c d : Char} {w x y z : Nat} (ha : HexDigit a w) (hb : HexDigit b x)
      (hc : HexDigit c y) (hd : HexDigit d z) :
      UnitDigits [a, b, c, d] (w * 0x1000 + x * 0x100 + y * 0x10 + z)

/-- The escapes of one letter, each with the character that it stands for. -/
def letterEscapes : List (Char × Char) :=
  [('"', '"'), ('\\', '\\'), ('/', '/'), ('b', '\x08'), ('f', '\x0c'), ('n', '\n'), ('r', '\r'),
   ('t', '\t')]

/-- A character that stands for itself in a string token. -/
def IsPlain (c : Char) : Prop :=
  0x20 ≤ c.toNat ∧ c ≠ '"' ∧ c ≠ '\\'

instance : DecidablePred IsPlain :=
  fun c => inferInstanceAs (Decidable (0x20 ≤ c.toNat ∧ c ≠ '"' ∧ c ≠ '\\'))

/-- What stands between the quotes of a string token. -/
inductive StringInside : List Char → Prop
  | empty : StringInside []
  | plain {c : Char} {w : List Char} (hc : IsPlain c) (hw : StringInside w) :
      StringInside (c :: w)
  | letter {letter c : Char} {w : List Char} (hc : (letter, c) ∈ letterEscapes)
      (hw : StringInside w) : StringInside ('\\' :: letter :: w)
  | unit {digits w : List Char} {unit : Nat} (hdigits : UnitDigits digits unit)
      (hw : StringInside w) : StringInside ('\\' :: 'u' :: (digits ++ w))

/-- A text and one way to write it between the quotes of a string token. A character beyond
16 bits may be written as a pair of units. -/
inductive Spells : List Char → List Char → Prop
  | empty : Spells [] []
  | plain {c : Char} {s w : List Char} (hc : IsPlain c) (hw : Spells s w) :
      Spells (c :: s) (c :: w)
  | letter {letter c : Char} {s w : List Char} (hc : (letter, c) ∈ letterEscapes)
      (hw : Spells s w) : Spells (c :: s) ('\\' :: letter :: w)
  | unit {digits s w : List Char} {unit : Nat} (hdigits : UnitDigits digits unit)
      (hunit : unit < 0xD800 ∨ 0xE000 ≤ unit) (hw : Spells s w) :
      Spells (Char.ofNat unit :: s) ('\\' :: 'u' :: (digits ++ w))
  | pair {first second s w : List Char} {leading trailing : Nat}
      (hfirst : UnitDigits first leading) (hsecond : UnitDigits second trailing)
      (hleading : 0xD800 ≤ leading ∧ leading < 0xDC00)
      (htrailing : 0xDC00 ≤ trailing ∧ trailing < 0xE000) (hw : Spells s w) :
      Spells (Char.ofNat (0x10000 + (leading - 0xD800) * 0x400 + (trailing - 0xDC00)) :: s)
        ('\\' :: 'u' :: (first ++ '\\' :: 'u' :: (second ++ w)))

/-- A string token for the text `s`. -/
def StringFor (s : String) (token : List Char) : Prop :=
  ∃ w, Spells s.toList w ∧ token = '"' :: (w ++ ['"'])

/-- A text of such characters spells itself. -/
theorem spells_plain {s : List Char} (h : ∀ c ∈ s, IsPlain c) : Spells s s := by
  induction s with
  | nil => exact .empty
  | cons c s ih =>
      obtain ⟨hc, hs⟩ := List.forall_mem_cons.1 h
      exact .plain hc (ih hs)

/-! ## Numerals -/

/-- At least one digit. -/
def Digits (s : List Char) : Prop :=
  s ≠ [] ∧ ∀ c ∈ s, c.isDigit = true

/-- A numeral: its sign, its digits before the point, of which only a single one may be a
zero in front, a fraction and an exponent, of which either may be left out. -/
inductive IsNumeral : List Char → Prop
  | mk {sign whole fraction exponent : List Char} (hsign : sign = [] ∨ sign = ['-'])
      (hwhole : Digits whole) (hzero : whole.head? = some '0' → whole = ['0'])
      (hfraction : fraction = [] ∨ ∃ digits, Digits digits ∧ fraction = '.' :: digits)
      (hexponent : exponent = [] ∨ ∃ letter mark digits, (letter = 'e' ∨ letter = 'E') ∧
        (mark = [] ∨ mark = ['+'] ∨ mark = ['-']) ∧ Digits digits ∧
        exponent = letter :: (mark ++ digits)) :
      IsNumeral (sign ++ (whole ++ (fraction ++ exponent)))

/-! ## Values -/

/-- An item between brackets as it stands there: in an object its key and colon, and in
either kind a value with blanks around it. -/
structure Item where
  label : List Char
  before : List Char
  value : List Char
  after : List Char

def Item.text (item : Item) : List Char :=
  item.label ++ (item.before ++ (item.value ++ item.after))

theorem Item.text_append (item : Item) (rest : List Char) :
    item.text ++ rest = item.label ++ (item.before ++ (item.value ++ (item.after ++ rest))) := by
  simp [Item.text]

/-- Items in a row, with a comma before each but the first of all. -/
def itemsText : (first : Bool) → List Item → List Char
  | _, [] => []
  | true, item :: items => item.text ++ itemsText false items
  | false, item :: items => ',' :: (item.text ++ itemsText false items)

@[simp] theorem itemsText_nil (first : Bool) : itemsText first [] = [] := by
  cases first <;> rfl

theorem itemsText_cons (first : Bool) (item : Item) (items : List Item) :
    itemsText first (item :: items) =
      (if first then [] else [',']) ++ (item.text ++ itemsText false items) := by
  cases first <;> rfl

def Bracket.opening : Bracket → Char
  | .list => '['
  | .object => '{'

/-- Items between brackets, with blanks behind the opening one. -/
def Bracket.enclose (bracket : Bracket) (blanks : List Char) (items : List Item) : List Char :=
  bracket.opening :: (blanks ++ (itemsText true items ++ [bracket.closing]))

theorem Bracket.enclose_append (bracket : Bracket) (blanks : List Char) (items : List Item)
    (rest : List Char) : bracket.enclose blanks items ++ rest =
      bracket.opening :: (blanks ++ (itemsText true items ++ bracket.closing :: rest)) := by
  simp [Bracket.enclose]

/-- A key, given by what holds of its token, and its colon, with blanks around the key. -/
def IsLabel (token : List Char → Prop) (label : List Char) : Prop :=
  ∃ before key after, Blanks before ∧ token key ∧ Blanks after ∧
    label = before ++ (key ++ (after ++ [':']))

/-- What stands before the value of an item: nothing in a list, a key in an object. -/
def Bracket.Labels : Bracket → List Char → Prop
  | .list, label => label = []
  | .object, label => IsLabel (fun key => ∃ w, StringInside w ∧ key = '"' :: (w ++ ['"'])) label

def literals : List (List Char) :=
  [['n', 'u', 'l', 'l'], ['t', 'r', 'u', 'e'], ['f', 'a', 'l', 's', 'e']]

/-- A well-formed value, without blanks at its two ends. -/
inductive Value : List Char → Prop
  | literal {word : List Char} (hword : word ∈ literals) : Value word
  | numeral {s : List Char} (hs : IsNumeral s) : Value s
  | string {w : List Char} (hw : StringInside w) : Value ('"' :: (w ++ ['"']))
  | brackets {bracket : Bracket} {blanks : List Char} {items : List Item}
      (hblanks : Blanks blanks) (hlabels : ∀ item ∈ items, bracket.Labels item.label)
      (hbefore : ∀ item ∈ items, Blanks item.before)
      (hvalues : ∀ item ∈ items, Value item.value)
      (hafter : ∀ item ∈ items, Blanks item.after) :
      Value (bracket.enclose blanks items)

end VmLifecycle.Json
