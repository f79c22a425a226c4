import VmLifecycle.Proofs.Effect.Changes

/-!
# Run states under the calls of the hypervisor

A hypervisor that does what it says it has done, and nothing else: a VM is
powered off once it is registered, it runs once it is powered on or resumed, and
a call that fails changes nothing. Its answers may fail, but where it says
whether a VM is registered, and what the VM is doing, this is so.
-/

namespace VmLifecycle

namespace Machines

variable {σ : Type} {machines : Machines σ} {name other : String}

/-- The VMs with one of them as it is given, or gone. -/
def set (machines : Machines σ) (name : String) (vm : Option σ) : Machines σ :=
  fun other => if other = name then vm else machines other

@[simp] theorem set_self (vm : Option σ) : machines.set name vm name = vm :=
  if_pos rfl

theorem set_of_ne (vm : Option σ) (h : other ≠ name) :
    machines.set name vm other = machines other :=
  if_neg h

end Machines

/-- The run states after an exchange. -/
def runStatesAfter (machines : Machines RunState) : Exchange → Machines RunState
  | ⟨.register name _, .ok ()⟩ => machines.set name (some .poweredOff)
  | ⟨.powerOn name, .ok ()⟩ => machines.set name (some .running)
  | ⟨.resume name, .ok ()⟩ => machines.set name (some .running)
  | ⟨.powerOff name, .ok ()⟩ => machines.set name (some .poweredOff)
  | ⟨.suspend name, .ok ()⟩ => machines.set name (some .suspended)
  | ⟨.unregister name, .ok ()⟩ => machines.set name none
  | _ => machines

/-- The calls that change the run state of a VM, or register or remove one. -/
def Call.moves : Call → Bool
  | .register _ _ => true
  | .powerOn _ => true
  | .resume _ => true
  | .powerOff _ => true
  | .suspend _ => true
  | .unregister _ => true
  | _ => false

theorem runStatesAfter_of_moves {x : Exchange} (h : x.call.moves = false)
    (machines : Machines RunState) : runStatesAfter machines x = machines := by
  obtain ⟨call, reply⟩ := x
  cases call <;> first | rfl | cases h

/-- A hypervisor by the run states of its VMs. -/
def runStates : HypervisorModel RunState where
  after := runStatesAfter
  after_of_ne machines x name h := by
    obtain ⟨call, reply⟩ := x
    by_cases hmoves : call.moves = true
    · cases call <;> cases hmoves
      all_goals
        have hne := fun heq => h (congrArg some heq)
        rcases reply with fault | ⟨⟩
        · rfl
        · exact Machines.set_of_ne _ (Ne.symm hne)
    · rw [runStatesAfter_of_moves (Bool.not_eq_true _ ▸ hmoves)]

/-- Where no call moves a VM, all of them stay as they are. -/
theorem runStates_afterAll_of_moves {machines : Machines RunState} {trace : List Exchange}
    (h : ∀ x ∈ trace, x.call.moves = false) : runStates.afterAll machines trace = machines := by
  induction trace with
  | nil => rfl
  | cons x trace ih =>
      have hx : runStates.after machines x = machines := runStatesAfter_of_moves (h x (by simp)) _
      show runStates.afterAll (runStates.after machines x) trace = machines
      rw [hx]
      exact ih fun y hy => h y (by simp [hy])

/-- A VM that is there stays there, unless it is removed. -/
theorem runStatesAfter_ne_none {machines : Machines RunState} {name : String} {x : Exchange}
    (h : machines name ≠ none) (hx : x ≠ ⟨.unregister name, .ok ()⟩) :
    runStatesAfter machines x name ≠ none := by
  have hset {other : String} {vm : Option RunState} (hvm : name = other → vm ≠ none) :
      machines.set other vm name ≠ none := by
    by_cases hname : name = other
    · subst hname
      rw [Machines.set_self]
      exact hvm rfl
    · rwa [Machines.set_of_ne _ hname]
  by_cases hmoves : x.call.moves = true
  · obtain ⟨call, reply⟩ := x
    cases call <;> cases hmoves
    all_goals
      rcases reply with fault | ⟨⟩
      · exact h
      · refine hset fun hname => ?_
        first
        | exact Option.some_ne_none _
        | exact absurd (hname ▸ rfl) hx
  · rwa [runStatesAfter_of_moves (Bool.not_eq_true _ ▸ hmoves)]

theorem runStates_afterAll_ne_none {machines : Machines RunState} {name : String}
    {trace : List Exchange} (h : machines name ≠ none)
    (htrace : ∀ x ∈ trace, x ≠ ⟨.unregister name, .ok ()⟩) :
    runStates.afterAll machines trace name ≠ none := by
  induction trace generalizing machines with
  | nil => exact h
  | cons x trace ih =>
      obtain ⟨hx, hnext⟩ := List.forall_mem_cons.1 htrace
      have hafter : runStates.after machines x name ≠ none := runStatesAfter_ne_none h hx
      exact ih hafter hnext

/-! ## True answers -/

/-- What an exchange says of the VMs is so. -/
def Exchange.TrueOf (machines : Machines RunState) : Exchange → Prop
  | ⟨.isRegistered name, .ok registered⟩ => registered = (machines name).isSome
  | ⟨.runState name, .ok state⟩ => machines name = some state
  | _ => True

/-- A trace on which every answer is true at the time. -/
def Truthful : Machines RunState → List Exchange → Prop
  | _, [] => True
  | machines, x :: trace => x.TrueOf machines ∧ Truthful (runStates.after machines x) trace

theorem truthful_append {machines : Machines RunState} {first second : List Exchange} :
    Truthful machines (first ++ second) ↔
      Truthful machines first ∧ Truthful (runStates.afterAll machines first) second := by
  induction first generalizing machines with
  | nil => exact (and_iff_right trivial).symm
  | cons x first ih =>
      rw [List.cons_append, Truthful, ih, Truthful, and_assoc]
      rfl

end VmLifecycle
