import VmLifecycle.Text.Printable

/-!
# Quoted text

A text between double quotes, in which every character that could not be seen
is written as an escape. Used where a value is described for a person.
-/

namespace VmLifecycle.Text

/-- How one character is written inside the quotes. Characters without a short
escape and without a visible form are written by their code point. -/
def quotedChar (c : Char) : List Char :=
  match c with
  | '\x00' => ['\\', '0']
  | '\t' => ['\\', 't']
  | '\r' => ['\\', 'r']
  | '\n' => ['\\', 'n']
  | '\\' => ['\\', '\\']
  | '"' => ['\\', '"']
  | c => if isShown c then [c] else ['\\', 'u', '{'] ++ Nat.toDigits 16 c.toNat ++ ['}']

def quoted (s : String) : String :=
  String.ofList ('"' :: s.toList.flatMap quotedChar ++ ['"'])

end VmLifecycle.Text
