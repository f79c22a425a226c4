import VmLifecycle.Text.Decimal
import VmLifecycle.Text.Pieces

/-!
# IPv4 addresses

Addresses as four octets, their dotted text, and the layout of a subnet: the
host is `.1` of its `/24` and the VM is `.11`.
-/

namespace VmLifecycle

/-- An IPv4 address, most significant octet first. -/
structure Ipv4 where
  a : UInt8
  b : UInt8
  c : UInt8
  d : UInt8
deriving DecidableEq, Repr

namespace Ipv4

def hostOctet : UInt8 := 1

def vmOctet : UInt8 := 11

/-- The host's address in the subnet of `x`, which also names the subnet. -/
def subnet (x : Ipv4) : Ipv4 :=
  { x with d := hostOctet }

/-- The VM's address in the subnet of `x`. -/
def vmAddress (x : Ipv4) : Ipv4 :=
  { x with d := vmOctet }

/-- Two subnets that put their VMs at one address are the same. -/
theorem eq_of_vmAddress_eq {x y : Ipv4} (h : x.vmAddress = y.vmAddress) (hd : x.d = y.d) :
    x = y := by
  cases x
  cases y
  simp_all [vmAddress]

/-- The VM's address in the subnet of an address is this address only if it has
the usual last octet. -/
theorem vmAddress_eq_self {a : Ipv4} : a.vmAddress = a ↔ a.d = vmOctet := by
  constructor
  · intro h
    rw [← h]
    rfl
  · intro h
    rw [vmAddress, ← h]

/-- Whether two addresses agree in all but the last octet. -/
def sameSubnet (x y : Ipv4) : Bool :=
  x.a == y.a && x.b == y.b && x.c == y.c

def chars (x : Ipv4) : List Char :=
  Text.decimal x.a.toNat ++ '.' :: (Text.decimal x.b.toNat ++ '.' ::
    (Text.decimal x.c.toNat ++ '.' :: Text.decimal x.d.toNat))

theorem mem_chars {x : Ipv4} {c : Char} (h : c ∈ x.chars) : c.isDigit = true ∨ c = '.' := by
  simp only [chars, List.mem_append, List.mem_cons] at h
  rcases h with h | h | h | h | h | h | h
  all_goals first
    | exact .inr h
    | exact .inl (Text.isDigit_of_mem_decimal h)

def toText (x : Ipv4) : String :=
  String.ofList x.chars

/-- Reads one octet: at most three digits, no leading zero, at most 255. -/
def octet? (digits : List Char) : Option UInt8 :=
  if digits.isEmpty || 3 < digits.length || !digits.all Char.isDigit then none
  else if digits.head? = some '0' && digits.length ≠ 1 then none
  else if Text.decimalValue digits < 256 then some (UInt8.ofNat (Text.decimalValue digits))
  else none

/-- Reads dotted text: exactly four octets with single dots between them. -/
def ofChars? (cs : List Char) : Option Ipv4 :=
  match Text.pieces (· = '.') cs with
  | [a, b, c, d] => do
    let a ← octet? a
    let b ← octet? b
    let c ← octet? c
    let d ← octet? d
    return ⟨a, b, c, d⟩
  | _ => none

def ofText? (s : String) : Option Ipv4 :=
  ofChars? s.toList

@[simp] theorem octet?_decimal (n : UInt8) : octet? (Text.decimal n.toNat) = some n := by
  have hlt : n.toNat < 256 := n.toNat_lt
  have hlen : (Text.decimal n.toNat).length ≤ 3 :=
    Text.length_decimal_le_three_iff.2 (by omega)
  have hall : (Text.decimal n.toNat).all Char.isDigit = true :=
    List.all_eq_true.2 fun _ hc => Text.isDigit_of_mem_decimal hc
  have hzero : (Text.decimal n.toNat).head? = some '0' → (Text.decimal n.toNat).length = 1 := by
    intro h
    rcases Nat.eq_zero_or_pos n.toNat with h0 | h0
    · rw [h0]; rfl
    · exact absurd h (Text.head?_decimal_ne h0)
  unfold octet?
  rw [if_neg (by simp [Text.decimal_ne_nil, hall, hlen]), if_neg (by simpa using hzero)]
  simp [hlt]

/-- Reading what was written gives the address back. -/
@[simp] theorem ofText?_toText (x : Ipv4) : ofText? x.toText = some x := by
  have dot {n : Nat} : ∀ c ∈ Text.decimal n, decide (c = '.') = false := by
    intro c hc
    have := Text.isDigit_of_mem_decimal hc
    simp only [decide_eq_false_iff_not]
    rintro rfl
    exact absurd this (by decide)
  simp only [ofText?, toText, String.toList_ofList, ofChars?, chars]
  rw [Text.pieces_append dot (by decide), Text.pieces_append dot (by decide),
    Text.pieces_append dot (by decide), Text.pieces_of_none dot]
  simp

end Ipv4

end VmLifecycle
