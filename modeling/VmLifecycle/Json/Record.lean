import VmLifecycle.Json.Scalar

/-!
# Records

A record type is given by its members: their names, in order, and the shape of
each value. It is written as an object with the members in that order. It is
read from an object with the members in any order among others that are passed
over, or from a list of the values in order.
-/

namespace VmLifecycle.Json

/-- The kinds of value that a member can have. -/
inductive Shape where
  | text
  | address
  | word16
  | word32
  | word64
  | flag
  | texts
deriving DecidableEq, Repr

namespace Shape

abbrev Carrier : Shape → Type
  | .text => String
  | .address => Ipv4
  | .word16 => UInt16
  | .word32 => UInt32
  | .word64 => UInt64
  | .flag => Bool
  | .texts => List String

def read : (shape : Shape) → Reader shape.Carrier
  | .text => readText
  | .address => readAddress
  | .word16 => return UInt16.ofNat (← readNatural UInt16.size)
  | .word32 => return UInt32.ofNat (← readNatural UInt32.size)
  | .word64 => return UInt64.ofNat (← readNatural UInt64.size)
  | .flag => readFlag
  | .texts => readTexts

def write : (shape : Shape) → shape.Carrier → List Char
  | .text, s => stringToken s
  | .address, ip => stringToken ip.toText
  | .word16, n => Text.decimal n.toNat
  | .word32, n => Text.decimal n.toNat
  | .word64, n => Text.decimal n.toNat
  | .flag, true => ['t', 'r', 'u', 'e']
  | .flag, false => ['f', 'a', 'l', 's', 'e']
  | .texts, items => '[' :: List.intercalate [','] (items.map stringToken) ++ [']']

/-- The value of a member that is left out. Only a list of texts can be: it is
then empty. -/
def absent? : (shape : Shape) → Option shape.Carrier
  | .texts => some []
  | _ => none

end Shape

structure Member where
  name : String
  shape : Shape
deriving DecidableEq, Repr

/-- One value for each member. -/
def Row : List Member → Type
  | [] => Unit
  | m :: ms => m.shape.Carrier × Row ms

/-- The values read so far, each at most once. -/
def Draft : List Member → Type
  | [] => Unit
  | m :: ms => Option m.shape.Carrier × Draft ms

namespace Row

/-- The row of a record that leaves out all its members, if it may. -/
def absent? : (ms : List Member) → Option (Row ms)
  | [] => some ()
  | m :: ms =>
    match m.shape.absent?, absent? ms with
    | some v, some rest => some (v, rest)
    | _, _ => none

def written : (ms : List Member) → Row ms → List (List Char)
  | [], _ => []
  | m :: ms, (v, rest) => (stringToken m.name ++ ':' :: m.shape.write v) :: written ms rest

/-- The object of a row, without a blank. -/
def write (ms : List Member) (row : Row ms) : List Char :=
  '{' :: List.intercalate [','] (written ms row) ++ ['}']

end Row

namespace Draft

def empty : (ms : List Member) → Draft ms
  | [] => ()
  | _ :: ms => (none, empty ms)

/-- Reads the member called `key` from its colon on. A member of that name that
was read before is a mismatch; one of another name is passed over. -/
def accept (key : String) : (ms : List Member) → Draft ms → Reader (Draft ms)
  | [], draft => do
    Reader.mark ':'
    passValue
    return draft
  | m :: ms, (slot, rest) => do
    if key = m.name then
      match slot with
      | some _ => throw .mismatched
      | none =>
        Reader.mark ':'
        return (some (← m.shape.read), rest)
    else return (slot, ← accept key ms rest)

def finish? : (ms : List Member) → Draft ms → Option (Row ms)
  | [], _ => some ()
  | m :: ms, (slot, rest) =>
    match slot <|> m.shape.absent?, finish? ms rest with
    | some v, some row => some (v, row)
    | _, _ => none

end Draft

/-- Reads the values of a list one after the other, and its end. -/
def readValues : (ms : List Member) → Bool → Reader (Row ms)
  | [], _ => do
    Reader.mark ']'
    return ()
  | m :: ms, first => do
    if ← anotherItem first then
      let v ← m.shape.read
      return (v, ← readValues ms false)
    else
      match Row.absent? (m :: ms) with
      | some row => Reader.skip; return row
      | none => throw .mismatched

/-- Whether an object goes on. If it does, the comma is taken and a quote is
next; if not, the closing bracket is left in place. -/
def anotherMember (first : Bool) : Reader Bool := do
  match ← Reader.peek with
  | none => throw .truncated
  | some '}' => return false
  | some c =>
    if first then
      if c = '"' then return true else throw .malformed
    else if c = ',' then
      Reader.skip
      match ← Reader.peek with
      | none => throw .truncated
      | some '"' => return true
      | some _ => throw .malformed
    else throw .malformed

/-- One more member of an object, or its end. -/
def membersStep (ms : List Member) : Bool × Draft ms → Reader ((Bool × Draft ms) ⊕ Row ms)
  | (first, draft) => do
    if ← anotherMember first then
      let key ← stringAt
      return .inl (false, ← draft.accept key ms)
    else
      match draft.finish? ms with
      | some row => Reader.skip; return .inr row
      | none => throw .mismatched

def readRow (ms : List Member) : Reader (Row ms) := do
  match ← Reader.peek with
  | some '[' => Reader.skip; readValues ms true
  | some '{' =>
    Reader.skip
    Reader.untilDone (membersStep ms) (true, Draft.empty ms)
  | _ => refuse

/-- A type whose values are records of the given members. -/
class Record (α : Type) where
  members : List Member
  toRow : α → Row members
  ofRow : Row members → α
  ofRow_toRow : ∀ a, ofRow (toRow a) = a := by intro; rfl

/-- The object of a value, as a text. -/
def encode {α : Type} [Record α] (a : α) : String :=
  String.ofList (Row.write (Record.members α) (Record.toRow a))

/-- Reads a text that is one record and nothing else but blanks. -/
def decode {α : Type} [Record α] (text : String) : Except ReadError α :=
  (Reader.whole (readRow (Record.members α)) text).map Record.ofRow

end VmLifecycle.Json
