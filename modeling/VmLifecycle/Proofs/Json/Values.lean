import VmLifecycle.Network.Interface
import VmLifecycle.Proofs.Json.RoundTrip
import VmLifecycle.Provision.Options
import VmLifecycle.Vm.Resources
import VmLifecycle.Vm.RunState

/-!
# Every value comes back from its JSON text

The records have members of different names, so each of them is read as it was written. A
run state is written as its name, or as an object when it has a text of its own; no text
makes the second look like the first.
-/

namespace VmLifecycle

open Json

namespace RunState

/-- A state without a text of its own is read from its name. -/
theorem takes_read_name {name : String} {state : RunState} (h : named? name = some state)
    (rest : List Char) : Takes read (stringToken name ++ rest) state rest := by
  have hname := takes_stringAt (stringFor_stringToken name) rest
  refine (takes_peek (c := '"') rfl _).bind (hname.bind ?_)
  rw [h]
  exact takes_pure state rest

theorem takes_readName (name : String) (rest : List Char) :
    Takes readName (stringToken name ++ rest) name rest :=
  (takes_peek (c := '"') rfl _).bind (takes_stringAt (stringFor_stringToken name) rest)

theorem takes_readPayload_unknown (text : String) (rest : List Char) :
    Takes (readPayload unknownName) (':' :: (stringToken text ++ rest)) (RunState.unknown text)
      rest := by
  unfold readPayload
  rw [if_pos rfl]
  exact (takes_mark (c := ':') rfl _).bind
    ((takes_readText (stringFor_stringToken text) rest).bind (takes_pure _ rest))

theorem takes_read (state : RunState) (rest : List Char) :
    Takes read (state.write ++ rest) state rest := by
  cases state with
  | running => exact takes_read_name rfl rest
  | suspended => exact takes_read_name rfl rest
  | saved => exact takes_read_name rfl rest
  | paused => exact takes_read_name rfl rest
  | poweredOff => exact takes_read_name rfl rest
  | aborted => exact takes_read_name rfl rest
  | unknown text =>
      have hwrite : (RunState.unknown text).write ++ rest =
          '{' :: (stringToken unknownName ++ (':' :: (stringToken text ++ ('}' :: rest)))) := by
        simp [write]
      rw [hwrite]
      refine (takes_peek (c := '{') rfl _).bind ((takes_skip '{' _).bind ?_)
      refine (takes_readName unknownName _).bind ?_
      refine (takes_readPayload_unknown text ('}' :: rest)).bind ?_
      exact (takes_mark (c := '}') rfl rest).bind (takes_pure _ rest)

theorem decode_encode_state (state : RunState) : decode state.encode = .ok state := by
  have htakes := takes_read state []
  rw [List.append_nil, ← String.toList_ofList (l := state.write)] at htakes
  exact whole_of_takes htakes blanks_nil

end RunState

/-- What can be read back was written for one value only. -/
theorem injective_of_decode {α : Type} {write : α → String} {read : String → Except ReadError α}
    (h : ∀ a, read (write a) = .ok a) : Function.Injective write := by
  intro a b heq
  apply Except.ok.inj (ε := ReadError)
  calc Except.ok a = read (write a) := (h a).symm
    _ = read (write b) := by rw [heq]
    _ = Except.ok b := h b

/-- Whatever the texts in it and however large its numbers, a value that is written as JSON
and read again is the same value, of each type that has a JSON form. So no two values have
one text. -/
theorem values_come_back :
    ((∀ v : Interface, decode (encode v) = .ok v) ∧ (∀ v : Resources, decode (encode v) = .ok v) ∧
      (∀ v : VmConfig, decode (encode v) = .ok v) ∧
      (∀ v : ProvisionOptions, decode (encode v) = .ok v) ∧
      ∀ v : RunState, RunState.decode v.encode = .ok v) ∧
    Function.Injective (encode : Interface → String) ∧
    Function.Injective (encode : Resources → String) ∧
    Function.Injective (encode : VmConfig → String) ∧
    Function.Injective (encode : ProvisionOptions → String) ∧
    Function.Injective RunState.encode := by
  have hinterface (v : Interface) : decode (encode v) = .ok v := decode_encode (by decide) v
  have hresources (v : Resources) : decode (encode v) = .ok v := decode_encode (by decide) v
  have hconfig (v : VmConfig) : decode (encode v) = .ok v := decode_encode (by decide) v
  have hoptions (v : ProvisionOptions) : decode (encode v) = .ok v := decode_encode (by decide) v
  exact ⟨⟨hinterface, hresources, hconfig, hoptions, RunState.decode_encode_state⟩,
    injective_of_decode hinterface, injective_of_decode hresources, injective_of_decode hconfig,
    injective_of_decode hoptions, injective_of_decode RunState.decode_encode_state⟩

/-- A state whose text is the name of another state is not taken for that state. -/
example : (RunState.unknown "Running").encode ≠ RunState.running.encode := by
  decide +kernel

end VmLifecycle
