import VmLifecycle.Proofs.Effect.Responder
import VmLifecycle.Simulation.Run

/-!
# Hypervisors that keep what they import

A hypervisor keeps a VM that it has imported as long as nobody asks it to remove the
VM: asked in between, it says that the VM is there, or fails. The simulated one does,
whatever faults it was prepared for, since no other call takes a VM out of its list.
-/

namespace VmLifecycle

/-- Between an import that went well and the first request to remove the VM, the
hypervisor does not say that the VM is not there. -/
def KeepsImports (trace : List Exchange) : Prop :=
  ∀ name before image between after,
    trace = before ++ ⟨.register name image, .ok ()⟩ ::
      (between ++ ⟨.isRegistered name, .ok false⟩ :: after) →
        ∃ reply, ⟨.unregister name, reply⟩ ∈ between

namespace Simulation.World

variable {w : World} {name other : String} {call : Call} {trace : List Exchange}

/-- A VM of this name is registered. -/
def Has (w : World) (name : String) : Prop :=
  ∃ m ∈ w.machines, m.name = name

theorem isSome_machine?_iff : (w.machine? name).isSome = true ↔ w.Has name := by
  simp [machine?, Has]

theorem machines_runInGuest (w : World) (text : String) :
    (w.runInGuest text).2.machines = w.machines := by
  unfold runInGuest
  split
  · rfl
  split
  · rfl
  split
  · rfl
  · split <;> rfl

theorem machines_command (w : World) (text : String) :
    (w.command text).2.machines = w.machines := by
  unfold command
  split
  · rfl
  split
  · rfl
  split
  · rfl
  · exact machines_runInGuest w text

/-! ## What a call does to the list of VMs -/

theorem has_alter {f : Machine → Machine} (hf : ∀ m, (f m).name = m.name) (h : w.Has name) :
    (w.alter other f).2.Has name := by
  obtain ⟨m, hm, rfl⟩ := h
  unfold alter
  split
  · refine ⟨_, List.mem_map_of_mem hm, ?_⟩
    split
    · exact hf m
    · rfl
  · exact ⟨m, hm, rfl⟩

theorem has_without (hne : name ≠ other) (h : w.Has name) : (w.without other).Has name := by
  obtain ⟨m, hm, rfl⟩ := h
  exact ⟨m, List.mem_filter.2 ⟨hm, by simpa using hne⟩, rfl⟩

theorem has_register (w : World) (name image : String) :
    (w.effect (.register name image)).2.Has name :=
  ⟨w.imported name, by simp [effect], rfl⟩

/-- No call takes a VM out of the list but a request to remove it. -/
theorem has_effect (hcall : call ≠ .unregister name) (h : w.Has name) :
    (w.effect call).2.Has name := by
  have hguest (text : String) : (w.command text).2.Has name := by
    rw [Has, machines_command]
    exact h
  cases call with
  | powerOn vm => exact has_alter (fun _ => rfl) h
  | powerOff vm => exact has_alter (fun _ => rfl) h
  | suspend vm => exact has_alter (fun _ => rfl) h
  | resume vm => exact has_alter (fun _ => rfl) h
  | attachAdapter adapter vm => exact has_alter (fun _ => rfl) h
  | setResources vm resources => exact has_alter (fun _ => rfl) h
  | addForwarding vm rule hostPort guestPort => exact has_alter (fun _ => rfl) h
  | unregister vm =>
      have hne : name ≠ vm := by
        rintro rfl
        exact hcall rfl
      simp only [effect]
      split
      · exact has_without hne h
      · exact h
  | register vm image =>
      by_cases hvm : name = vm
      · rw [hvm]
        exact has_register w vm image
      · obtain ⟨m, hm, hname⟩ := has_without hvm h
        exact ⟨m, List.mem_append_left _ hm, hname⟩
  | execute text channel => exact hguest text
  | commandOutput text channel => exact hguest text
  | createDirectory path =>
      simp only [effect]
      split <;> exact h
  | consent question =>
      simp only [effect]
      split <;> exact h
  | _ => exact h

theorem has_respond (hcall : call ≠ .unregister name) (h : w.Has name) :
    (w.respond call).2.Has name := by
  unfold respond
  split
  · exact h
  · exact has_effect hcall h

/-! ## What is answered -/

theorem failure?_eq_some {reply : call.Reply} (h : w.failure? call = some reply) :
    (∃ fault, faulty fault call = some reply) ∨ ∃ error, toolFailure error call = some reply := by
  unfold failure? at h
  cases hfault : (w.fault? call).bind fun fault => faulty fault call with
  | some found =>
      rw [hfault] at h
      cases h
      obtain ⟨fault, -, hreply⟩ := Option.bind_eq_some_iff.1 hfault
      exact .inl ⟨fault, hreply⟩
  | none =>
      rw [hfault] at h
      obtain ⟨error, -, hreply⟩ := Option.bind_eq_some_iff.1 h
      exact .inr ⟨error, hreply⟩

theorem has_of_register_ok {image : String}
    (h : (w.respond (.register name image)).1 = .ok ()) :
    (w.respond (.register name image)).2.Has name := by
  unfold respond at h ⊢
  split
  · rename_i reply hreply
    rw [hreply] at h
    obtain rfl : reply = .ok () := h
    rcases failure?_eq_some hreply with ⟨fault, hfaulty⟩ | ⟨error, htool⟩
    · cases hfaulty
    · cases htool
  · exact has_register w name image

/-- A VM that is registered is not said to be missing. -/
theorem not_has_of_isRegistered (h : (w.respond (.isRegistered name)).1 = .ok false) :
    ¬ w.Has name := by
  unfold respond at h
  split at h
  · rename_i reply hreply
    obtain rfl : reply = .ok false := h
    rcases failure?_eq_some hreply with ⟨fault, hfaulty⟩ | ⟨error, htool⟩
    · cases hfaulty
    · cases htool
  · have hmissing : (w.machine? name).isSome = false := Except.ok.inj h
    rw [← isSome_machine?_iff, hmissing]
    exact Bool.false_ne_true

/-! ## What follows for a trace -/

/-- The world as an outside. -/
def outside (w : World) : Responder :=
  .ofState respond w

theorem keepsImports (w : World) (h : w.outside.Gives [] trace) : KeepsImports trace := by
  rintro name before image between after rfl
  obtain ⟨-, himport, hrest⟩ := along_append.1 (Responder.gives_ofState.1 h)
  obtain ⟨hbetween, hasked, -⟩ := along_append.1 hrest
  refine Classical.byContradiction fun hkept => not_has_of_isRegistered hasked.symm ?_
  -- the VM is in the list once it is imported, and stays there until it is asked for
  refine @Along.preserves World _ _ _ between (fun w => w.Has name) hbetween ?_ ?_
  · intro w x hx _ hhas
    refine has_respond ?_ hhas
    intro hcall
    obtain ⟨call, reply⟩ := x
    subst hcall
    exact hkept ⟨reply, hx⟩
  · exact has_of_register_ok himport.symm

end Simulation.World

/-- What a program comes to in a simulated world is what it comes to on the trace that
the world gives. -/
theorem Simulation.Session.exists_runs {α : Type} (session : Simulation.Session)
    (p : Program α) :
    ∃ trace, session.world.outside.Gives [] trace ∧ p.Runs trace (session.run p).1 := by
  simp only [World.outside, Responder.gives_ofState]
  induction p generalizing session with
  | done a => exact ⟨[], trivial, .done a⟩
  | ask call next ih =>
      let x : Exchange := ⟨call, (session.world.respond call).1⟩
      obtain ⟨trace, hgives, run⟩ := ih x.reply
        ⟨(session.world.respond call).2, (record? call).toList ++ session.calls, session.log⟩
      exact ⟨x :: trace, ⟨rfl, hgives⟩, .ask x.reply run⟩
  | note event rest ih =>
      obtain ⟨trace, hgives, run⟩ := ih ⟨session.world, session.calls, event :: session.log⟩
      exact ⟨trace, hgives, .note run⟩
  | unsettled => exact ⟨[], trivial, .unsettled⟩

end VmLifecycle
