import VmLifecycle.Proofs.Provision.Resumption

/-!
# The options that a guest may hold

What can be read from the options file of a guest is what was stored there last;
after a command that failed in storing options it may be these or what was there
before. Where every call stores options of known services only, what the guest
holds is of these services too.
-/

namespace VmLifecycle

open Simulation (runsScript)

/-! ## What a guest may hold -/

/-- The text that a call writes to the options file. -/
def Call.stores? : Call → Option String
  | .execute command _ => Guest.writesOptions? command
  | .commandOutput command _ => Guest.writesOptions? command
  | _ => none

/-- The command by which a call runs the provisioning script. -/
def Call.script? : Call → Option String
  | .execute command _ => if runsScript command then some command else none
  | .commandOutput command _ => if runsScript command then some command else none
  | _ => none

namespace Guest

variable {held : ProvisionOptions → Prop} {first second : List Exchange}

/-- The options that may be read in a guest after one more exchange, if `held`
may be read before. A command that failed may have stored its options or not. -/
def heldAfter (held : ProvisionOptions → Prop) (x : Exchange) (options : ProvisionOptions) :
    Prop :=
  match x.call.stores? with
  | some text =>
    ProvisionOptions.ofStored text = .ok (some options) ∨ (x.fault? ≠ none ∧ held options)
  | none => held options

/-- Where the options file is printed, the options in it are held. -/
def PrintsHeld (held : ProvisionOptions → Prop) : Exchange → Prop
  | ⟨.commandOutput command _, .ok output⟩ => command = printOptionsCommand →
    ∀ options, ProvisionOptions.ofStored output = .ok (some options) → held options
  | _ => True

/-- A guest in which nothing is read from the options file but what was stored
there. -/
def Retains : (ProvisionOptions → Prop) → List Exchange → Prop
  | _, [] => True
  | held, x :: trace => PrintsHeld held x ∧ Retains (heldAfter held x) trace

theorem retains_append : Retains held (first ++ second) ↔
    Retains held first ∧ Retains (first.foldl heldAfter held) second := by
  induction first generalizing held with
  | nil => exact (and_iff_right trivial).symm
  | cons x first ih => rw [List.cons_append, Retains, ih, Retains, and_assoc, List.foldl_cons]

theorem heldAfter_of_stores? {call : Call} (h : call.stores? = none) (reply : call.Reply) :
    heldAfter held ⟨call, reply⟩ = held := by
  funext options
  simp only [heldAfter, h]

/-- Where nothing is stored, what is held stays the same. -/
theorem foldl_heldAfter {trace : List Exchange}
    (h : ∀ x ∈ trace, x.call.stores? = none) : trace.foldl heldAfter held = held := by
  induction trace with
  | nil => rfl
  | cons x trace ih =>
      obtain ⟨hx, hnext⟩ := List.forall_mem_cons.1 h
      rw [List.foldl_cons, heldAfter_of_stores? hx, ih hnext]

/-- Once options were stored without a fault, they are all that is held. -/
theorem heldAfter_storing (channel : Channel) (options : ProvisionOptions) :
    heldAfter held (Provision.storing channel options) = (· = options) := by
  funext other
  simp only [heldAfter, Provision.storing, Call.stores?, writesOptions?_storeOptionsCommand,
    Provision.ofStored_stored, Except.ok.injEq, Option.some.injEq]
  exact propext ⟨fun h => (h.resolve_right fun hfault => hfault.1 rfl).symm,
    fun h => .inl h.symm⟩

/-- Where the options file is not printed, any guest will do. -/
theorem retains_of_printsOptions {trace : List Exchange}
    (h : ∀ x ∈ trace, printsOptions x.call = false) : Retains held trace := by
  induction trace generalizing held with
  | nil => trivial
  | cons x trace ih =>
      obtain ⟨hx, hnext⟩ := List.forall_mem_cons.1 h
      refine ⟨?_, ih hnext⟩
      unfold PrintsHeld
      split
      · rintro rfl
        simp [printsOptions] at hx
      · trivial

end Guest

/-! ## Calls that serve what is held -/

/-- A call stores nothing but options with services in `V`. -/
def Call.StoresOnly (V : String → Prop) (call : Call) : Prop :=
  ∀ text, call.stores? = some text →
    ∃ options : ProvisionOptions, text = Json.encode options ++ "\n" ∧ V options.services

/-- A call stores nothing but options with services in `V`, and runs the script
with nothing but options that are held. -/
structure Call.Serves (V : String → Prop) (held : ProvisionOptions → Prop) (call : Call) :
    Prop where
  stores : call.StoresOnly V
  script : ∀ command, call.script? = some command →
    ∃ options, held options ∧ command = Guest.provisionCommand options

namespace Guest

variable {V : String → Prop} {held : ProvisionOptions → Prop}

/-- After one exchange, what is held was held before or has just been stored. Of
what was held before nothing is left where options were stored without a fault. -/
theorem services_of_heldAfter {x : Exchange} (hstores : x.call.StoresOnly V)
    {options : ProvisionOptions} (hafter : heldAfter held x options) :
    V options.services ∨ held options ∧ (x.call.stores? = none ∨ x.fault? ≠ none) := by
  unfold heldAfter at hafter
  split at hafter
  · next text htext =>
      rcases hafter with hread | ⟨hfault, hbefore⟩
      · obtain ⟨stored, rfl, hstored⟩ := hstores text htext
        rw [Provision.ofStored_stored] at hread
        cases hread
        exact .inl hstored
      · exact .inr ⟨hbefore, .inr hfault⟩
  · next hnone => exact .inr ⟨hafter, .inl hnone⟩

/-- What is held has services in `V` if all that was held and stored has. -/
theorem services_of_held {trace : List Exchange}
    (hheld : ∀ options, held options → V options.services)
    (hstores : ∀ x ∈ trace, x.call.StoresOnly V) :
    ∀ options, trace.foldl heldAfter held options → V options.services := by
  induction trace generalizing held with
  | nil => exact hheld
  | cons x trace ih =>
      obtain ⟨hx, hnext⟩ := List.forall_mem_cons.1 hstores
      refine ih (fun options hafter => ?_) hnext
      rcases services_of_heldAfter hx hafter with hservices | ⟨hbefore, -⟩
      · exact hservices
      · exact hheld options hbefore

/-- What is held has the services that were held before or those that were stored. -/
theorem services_of_restored {before stored : String} {trace : List Exchange}
    (hheld : ∀ options, held options → options.services = before)
    (hstores : ∀ x ∈ trace, x.call.StoresOnly (· = stored)) :
    ∀ options, trace.foldl heldAfter held options →
      options.services = before ∨ options.services = stored := by
  refine services_of_held (V := fun services => services = before ∨ services = stored)
    (fun options h => .inl (hheld options h)) fun x hx text htext => ?_
  obtain ⟨options, hoptions, hservices⟩ := hstores x hx text htext
  exact ⟨options, hoptions, .inr hservices⟩

/-- Once options were stored without a fault, nothing is left of what was held before. -/
theorem services_of_stored {trace : List Exchange} {x : Exchange}
    (hstores : ∀ x ∈ trace, x.call.StoresOnly V) (hx : x ∈ trace) (hstored : x.call.stores? ≠ none)
    (hfault : x.fault? = none) : ∀ options, trace.foldl heldAfter held options →
      V options.services := by
  obtain ⟨before, after, rfl⟩ := List.append_of_mem hx
  rw [List.foldl_append, List.foldl_cons]
  refine services_of_held (fun options hafter => ?_) fun y hy => hstores y (by simp [hy])
  rcases services_of_heldAfter (hstores x hx) hafter with hservices | ⟨-, hnone | hne⟩
  · exact hservices
  · exact absurd hnone hstored
  · exact absurd hfault hne

end Guest

/-- Each call of a trace serves what is held at the time, up to the first exchange
with `stop`. -/
def ServedUntil (stop : Exchange → Prop) (V : String → Prop) :
    (ProvisionOptions → Prop) → List Exchange → Prop
  | _, [] => True
  | held, x :: trace => x.call.Serves V held ∧
    (¬ stop x → ServedUntil stop V (Guest.heldAfter held x) trace)

namespace ServedUntil

variable {stop : Exchange → Prop} {V : String → Prop} {held : ProvisionOptions → Prop}
  {first second : List Exchange}

theorem append (hfirst : ServedUntil stop V held first)
    (hsecond : (∀ x ∈ first, ¬ stop x) →
      ServedUntil stop V (first.foldl Guest.heldAfter held) second) :
    ServedUntil stop V held (first ++ second) := by
  induction first generalizing held with
  | nil => exact hsecond (List.forall_mem_nil _)
  | cons x first ih =>
      refine ⟨hfirst.1, fun hx => ih (hfirst.2 hx) fun hnext => ?_⟩
      exact hsecond (List.forall_mem_cons.2 ⟨hx, hnext⟩)

theorem serves {x : Exchange} (h : ServedUntil stop V held (first ++ x :: second))
    (hfirst : ∀ y ∈ first, ¬ stop y) : x.call.Serves V (first.foldl Guest.heldAfter held) := by
  induction first generalizing held with
  | nil => exact h.1
  | cons y first ih =>
      obtain ⟨hy, hnext⟩ := List.forall_mem_cons.1 hfirst
      exact ih (h.2 hy) hnext

theorem storesOnly (h : ServedUntil stop V held (first ++ second))
    (hfirst : ∀ x ∈ first, ¬ stop x) : ∀ x ∈ first, x.call.StoresOnly V := by
  intro x hx
  obtain ⟨before, after, rfl⟩ := List.append_of_mem hx
  rw [List.append_assoc] at h
  exact (h.serves fun y hy => hfirst y (List.mem_append_left _ hy)).stores

end ServedUntil

end VmLifecycle
