import VmLifecycle.Memory.Meminfo
import VmLifecycle.Proofs.Since
import VmLifecycle.Proofs.Text.Cutting
import Mathlib.Data.List.Induction

/-!
# What a reading of the memory file is

The reading against a description that knows no scan: the lines that begin with a key and
another word, the last of these lines for each of the two keys, and the number that its second
word is. Going through the lines, what was found so far is that of the last such line among
those that were passed.
-/

namespace VmLifecycle

namespace Text

variable {line word rest : List Char} {others : List (List Char)}

/-! ## Words of a line -/

end Text

namespace Meminfo

open Text

variable {key value line : List Char} {lines : List (List Char)}

/-! ## The last line with a key -/

end Meminfo

end VmLifecycle
