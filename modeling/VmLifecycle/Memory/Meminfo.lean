import VmLifecycle.Fault
import VmLifecycle.Text.Blank
import VmLifecycle.Text.Quoted

/-!
# Memory of the host

Reading total and available memory from a file of keyed lines. For each of the
two keys the last line that has it decides, even if its number cannot be read.
-/

namespace VmLifecycle

structure Meminfo where
  total : UInt64
  available : UInt64
deriving DecidableEq, Repr

namespace Meminfo

def path : String := "/proc/meminfo"

def totalKey : List Char := "MemTotal:".toList

def availableKey : List Char := "MemAvailable:".toList

def incomplete : Fault :=
  .configuration "meminfo is missing MemTotal or MemAvailable"

/-- The second word of the last line that begins with the word `key`. -/
def lastValue? (key : List Char) (lines : List (List Char)) : Option (List Char) :=
  lines.foldl (fun found line =>
    match Text.words line with
    | first :: second :: _ => if first = key then some second else found
    | _ => found) none

/-- The number of KB under `key`, in whole MB. -/
def megabytes? (key : List Char) (lines : List (List Char)) : Option UInt64 :=
  ((lastValue? key lines).bind (Text.unsigned? UInt64.size)).map fun kb => UInt64.ofNat (kb / 1024)

def ofText (content : String) : Except Fault Meminfo :=
  let lines := Text.lines content
  match megabytes? totalKey lines, megabytes? availableKey lines with
  | some total, some available => .ok ⟨total, available⟩
  | _, _ => .error incomplete

/-- Reads a file, given its bytes if it exists. -/
def ofFile (bytes : Option ByteArray) : Except Fault Meminfo :=
  match bytes with
  | none => .error (.io .notFound)
  | some bytes =>
    match String.fromUTF8? bytes with
    | some content => ofText content
    | none => .error (.io (.other "stream did not contain valid UTF-8"))

def describeSource : String :=
  "ProcMeminfo \x7b path: " ++ Text.quoted path ++ " \x7d"

end Meminfo

end VmLifecycle
