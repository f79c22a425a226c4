import VmLifecycle.Proofs.Lifecycle.Conflict
import VmLifecycle.Proofs.Provision.Resumption

/-!
# The courses of operations

The traces of the operations that do something to a VM, each with its result:
where it can stop, and what it ends in there. An operation is short, so its
courses are few, and what is shown of all its runs is shown of each of them.
-/

namespace VmLifecycle

open Program

variable {ctx : Context} {config : VmConfig} {trace : List Exchange}
  {r : Option (Except LifecycleError Unit)}

/-! ## One step, told before and after -/

/-- A step of one call, of which the user is told before it and after its success. -/
inductive Announced (before after : String) (step : Step)
    (exchange : Except Fault Unit → Exchange) : List Exchange → Except LifecycleError Unit → Prop
  | failed (fault : Fault) :
      Announced before after step exchange
        [⟨.tell before, ()⟩, exchange (.error fault)] (.error (.failed step fault))
  | done :
      Announced before after step exchange
        [⟨.tell before, ()⟩, exchange (.ok ()), ⟨.tell after, ()⟩] (.ok ())

theorem announced_of_runs {before after : String} {step : Step} {a : Attempt Unit}
    {exchange : Except Fault Unit → Exchange}
    (ha : ∀ {trace r}, Runs a.run trace r → ∃ reply, trace = [exchange reply] ∧ r = some reply)
    (run : Runs (do tell before; a.during step; tell after : Action Unit).run trace r) :
    ∃ result, r = some result ∧ Announced before after step exchange trace result := by
  obtain ⟨⟨⟩, rest, rfl, hstep⟩ := runs_ask.1 run
  rcases runs_run_adapt_bind.1 hstep with ⟨⟨⟩, called, rest, rfl, hcalled, hrest⟩ |
    ⟨fault, hcalled, rfl⟩ | ⟨hcalled, -⟩
  · obtain ⟨reply, rfl, hreply⟩ := ha hcalled
    cases hreply
    obtain ⟨⟨⟩, rest, rfl, hdone⟩ := runs_ask.1 hrest
    obtain ⟨rfl, rfl⟩ := runs_done.1 hdone
    exact ⟨_, rfl, .done⟩
  · obtain ⟨reply, rfl, hreply⟩ := ha hcalled
    cases hreply
    exact ⟨_, rfl, .failed fault⟩
  · obtain ⟨_, -, hnone⟩ := ha hcalled
    cases hnone

theorem announced_of_runs_powerOff (run : Runs (Snapshot.powerOff config).run trace r) :
    ∃ result, r = some result ∧ Announced "Stopping VM..." "PCF Dev is now stopped." .stop
      (fun reply => ⟨.powerOff config.name, reply⟩) trace result := by
  refine announced_of_runs ?_ run
  intro trace r hcall
  exact runs_call.1 (runs_note.1 hcall)

theorem announced_of_runs_restore (run : Runs (Snapshot.restore config).run trace r) :
    ∃ result, r = some result ∧ Announced "Resuming VM..." "PCF Dev is now running." .resume
      (fun reply => ⟨.resume config.name, reply⟩) trace result := by
  refine announced_of_runs ?_ run
  intro trace r hcall
  exact runs_call.1 (runs_note.1 hcall)

theorem announced_of_runs_remove (run : Runs (Snapshot.remove config).run trace r) :
    ∃ result, r = some result ∧ Announced "Destroying VM..." "PCF Dev VM has been destroyed."
      .destroy (fun reply => ⟨.unregister config.name, reply⟩) trace result := by
  refine announced_of_runs ?_ run
  intro trace r hcall
  exact runs_call.1 (runs_note.1 hcall)

theorem announced_of_runs_suspend
    (run : Runs (Snapshot.suspend (.existing .running config)).run trace r) :
    ∃ result, r = some result ∧ Announced "Suspending VM..." "PCF Dev is now suspended." .suspend
      (fun reply => ⟨.suspend config.name, reply⟩) trace result := by
  refine announced_of_runs ?_ run
  intro trace r hcall
  exact runs_call.1 (runs_note.1 hcall)

/-- The removal of a VM that runs. -/
inductive PulledDown (name : String) : List Exchange → Except LifecycleError Unit → Prop
  | running (fault : Fault) :
      PulledDown name [⟨.tell "Destroying VM...", ()⟩, ⟨.powerOff name, .error fault⟩]
        (.error (.failed .destroy fault))
  | poweredOff (fault : Fault) :
      PulledDown name
        [⟨.tell "Destroying VM...", ()⟩, ⟨.powerOff name, .ok ()⟩, ⟨.unregister name, .error fault⟩]
        (.error (.failed .destroy fault))
  | removed :
      PulledDown name
        [⟨.tell "Destroying VM...", ()⟩, ⟨.powerOff name, .ok ()⟩, ⟨.unregister name, .ok ()⟩,
         ⟨.tell "PCF Dev VM has been destroyed.", ()⟩]
        (.ok ())

theorem pulledDown_of_runs (run : Runs (Snapshot.destroy (.existing .running config)).run trace r) :
    ∃ result, r = some result ∧ PulledDown config.name trace result := by
  obtain ⟨⟨⟩, rest, rfl, hoff⟩ := runs_ask.1 run
  obtain ⟨reply, rest, rfl, hunregister⟩ := runs_ask.1 (runs_note.1 hoff)
  rcases reply with fault | ⟨⟩
  · obtain ⟨rfl, rfl⟩ := runs_done.1 hunregister
    exact ⟨_, rfl, .running fault⟩
  · obtain ⟨reply, rest, rfl, htell⟩ := runs_ask.1 (runs_note.1 hunregister)
    rcases reply with fault | ⟨⟩
    · obtain ⟨rfl, rfl⟩ := runs_done.1 htell
      exact ⟨_, rfl, .poweredOff fault⟩
    · obtain ⟨⟨⟩, rest, rfl, hdone⟩ := runs_ask.1 htell
      obtain ⟨rfl, rfl⟩ := runs_done.1 hdone
      exact ⟨_, rfl, .removed⟩

/-! ## Weighing memory -/

namespace Memory

/-- The free memory was read, and it is enough, or the user was asked and agreed. -/
inductive Granted (required : UInt64) : List Exchange → Prop
  | enough {free : UInt64} (h : required ≤ free) : Granted required [⟨.freeMemory, .ok free⟩]
  | agreed {free : UInt64} (h : free < required) :
      Granted required [⟨.freeMemory, .ok free⟩, ⟨.consent (question required), true⟩]

/-- The courses of a weighing, each with its result. -/
inductive Weighed (required : UInt64) : List Exchange → Except LifecycleError Unit → Prop
  | granted {trace : List Exchange} (h : Granted required trace) : Weighed required trace (.ok ())
  | unread (fault : Fault) : Weighed required [⟨.freeMemory, .error fault⟩] (.error (.vm fault))
  | declined {free : UInt64} (h : free < required) :
      Weighed required [⟨.freeMemory, .ok free⟩, ⟨.consent (question required), false⟩]
        (.error .declined)

/-- What follows once the free memory is known. -/
theorem runs_ensure_cons {required free : UInt64} :
    Runs (ensure required).run (⟨.freeMemory, .ok free⟩ :: trace) r ↔
      Runs (if required ≤ free then pure () else do
        Program.log (.warn "Insufficient free memory"
          [("required_mb", .number required.toNat), ("free_mb", .number free.toNat)])
        if ← Program.call (.consent (question required)) then return ()
        else throw .declined : Action Unit).run trace r :=
  runs_ask_cons

theorem weighed_of_runs_ensure {required : UInt64} (run : Runs (ensure required).run trace r) :
    ∃ result, r = some result ∧ Weighed required trace result := by
  obtain ⟨reply, rest, rfl, hrest⟩ := runs_ask.1 run
  rcases reply with fault | free
  · obtain ⟨rfl, rfl⟩ := runs_done.1 hrest
    exact ⟨_, rfl, .unread fault⟩
  have hrest := runs_ensure_cons.1 run
  by_cases henough : required ≤ free
  · rw [if_pos henough] at hrest
    obtain ⟨rfl, rfl⟩ := runs_done.1 hrest
    exact ⟨_, rfl, .granted (.enough henough)⟩
  · have hshort : free < required := UInt64.not_le.1 henough
    rw [if_neg henough] at hrest
    obtain ⟨agreed, rest, rfl, hend⟩ := runs_ask.1 (runs_note.1 hrest)
    cases agreed with
    | true =>
        obtain ⟨rfl, rfl⟩ := runs_done.1 hend
        exact ⟨_, rfl, .granted (.agreed hshort)⟩
    | false =>
        obtain ⟨rfl, rfl⟩ := runs_done.1 hend
        exact ⟨_, rfl, .declined hshort⟩

/-- A weighing can go either way in which the memory is granted. -/
theorem Granted.runs {required : UInt64} (h : Granted required trace) :
    Runs (ensure required).run trace (some (.ok ())) := by
  cases h with
  | enough henough =>
      rw [runs_ensure_cons, if_pos henough]
      exact .done _
  | agreed hshort =>
      rw [runs_ensure_cons, if_neg (UInt64.not_le.2 hshort)]
      exact .note (.ask _ (.done _))

end Memory

/-! ## Importing a VM -/

/-- What a start can be refused for before it imports anything. -/
inductive LifecycleError.Early : LifecycleError → Prop
  | conflict : Early .conflict
  | vm (fault : Fault) : Early (.vm fault)
  | invalidOption (problem : OptionProblem) : Early (.invalidOption problem)

theorem failStop_conflictPresent (name : String) :
    FailStop (fun _ => False) (Hypervisor.conflictPresent name).run := by
  refine failStop_run_bind (failStop_call (by rintro (_ | _) <;> rfl)) fun names => ?_
  induction names with
  | nil => trivial
  | cons other others ih =>
      unfold Hypervisor.conflictAmong
      split
      · exact ih
      · refine failStop_run_bind (failStop_call (by rintro (_ | _) <;> rfl)) fun running => ?_
        split
        · trivial
        · exact ih

/-- The search for another VM ends: in a refusal, or in nothing. -/
theorem early_of_runs_refuseConflict {name : String}
    (run : Runs (Snapshot.refuseConflict name).run trace r) :
    r = some (.ok ()) ∨ ∃ e, r = some (.error e) ∧ e.Early := by
  obtain ⟨fault | _ | _, -, rfl⟩ := runs_refuseConflict.1 run
  · exact .inr ⟨_, rfl, .vm fault⟩
  · exact .inl rfl
  · exact .inr ⟨_, rfl, .conflict⟩

theorem early_of_askedSubnet {start : StartOptions} {e : LifecycleError}
    (h : ctx.askedSubnet start = .error e) : e.Early := by
  have hpart {β : Type} {x : Except Fault Ipv4} {f : Option Ipv4 → Except LifecycleError β}
      (h : ((x.map some).mapError .vm >>= f) = .error e) :
      e.Early ∨ ∃ a, f (some a) = .error e := by
    rcases x with fault | a
    · cases h
      exact .inl (.vm fault)
    · exact .inr ⟨a, h⟩
  unfold Context.askedSubnet at h
  cases hip : start.ip with
  | none =>
      cases hdomain : start.domain with
      | none =>
          simp only [hip, hdomain] at h
          cases h
      | some domain =>
          simp only [hip, hdomain] at h
          rcases hpart h with hearly | ⟨b, h⟩
          · exact hearly
          · cases h
  | some ip =>
      simp only [hip] at h
      rcases hpart h with hearly | ⟨a, h⟩
      · exact hearly
      · cases hdomain : start.domain with
        | none =>
            simp only [hdomain] at h
            cases h
        | some domain =>
            simp only [hdomain] at h
            rcases hpart h with hearly | ⟨b, h⟩
            · exact hearly
            · -- both were given, and they disagree
              simp only at h
              split at h
              · cases h
              · cases h
                exact .invalidOption _

/-- The import of a VM that does not exist, up to the query for it. -/
inductive Created (ctx : Context) (name : String) (start : StartOptions) :
    List Exchange → Except LifecycleError Unit → Prop
  | refused {looking : List Exchange} {e : LifecycleError}
      (hlooking : ∀ x ∈ looking, x.call.isIdle = true) (he : e.Early) :
      Created ctx name start looking (.error e)
  | failed {looking registering : List Exchange} {subnet : Option Ipv4} {fault : Fault}
      (hlooking : ∀ x ∈ looking, x.call.isIdle = true)
      (hcourse : Hypervisor.Course ctx.table name (ctx.newImage start)
        ⟨ctx.newResources start, subnet⟩ registering (.error fault)) :
      Created ctx name start (looking ++ registering) (.error (.failed .register fault))
  | created {looking registering : List Exchange} {subnet : Option Ipv4}
      (hlooking : ∀ x ∈ looking, x.call.isIdle = true)
      (hcourse : Hypervisor.Course ctx.table name (ctx.newImage start)
        ⟨ctx.newResources start, subnet⟩ registering (.ok ())) :
      Created ctx name start
        (looking ++ registering ++ [⟨.tell "PCF Dev is now imported to Virtualbox.", ()⟩]) (.ok ())

theorem isIdle_of_runs_refuseConflict (ctx : Context) {name : String}
    (run : Runs (Snapshot.refuseConflict name).run trace r) :
    ∀ x ∈ trace, x.call.isIdle = true := by
  intro x hx
  have honly : Only (Call.Looks ctx (.notCreated name)) (Snapshot.refuseConflict name).run :=
    Looks.only_refuseConflict name
  have hlooks := honly.of_runs run hx
  generalize x.call = call at hlooks
  cases hlooks with
  | idle h => exact h
  | print hs => cases hs
  | session hs => cases hs

theorem created_of_runs {name : String} {start : StartOptions}
    (run : Runs (Snapshot.create ctx name start).run trace r) :
    ∃ result, r = some result ∧ Created ctx name start trace result := by
  rw [Snapshot.create, runs_run_bind] at run
  rcases run with ⟨_, looking, rest, rfl, hlooking, hrest⟩ | ⟨e, hlooking, rfl⟩ | ⟨hlooking, -⟩
  · have hidle := isIdle_of_runs_refuseConflict ctx hlooking
    cases hsubnet : ctx.askedSubnet start with
    | error e =>
        rw [hsubnet] at hrest
        obtain ⟨rfl, rfl⟩ := runs_done.1 hrest
        exact ⟨_, rfl, .refused (by simpa using hidle) (early_of_askedSubnet hsubnet)⟩
    | ok subnet =>
        rw [hsubnet] at hrest
        obtain ⟨⟨⟩, rest, rfl, hregister⟩ := runs_ask.1 hrest
        have htold : ∀ x ∈ looking ++ [⟨.tell "Importing VM...", ()⟩], x.call.isIdle = true := by
          intro x hx
          rcases List.mem_append.1 hx with hx | hx
          · exact hidle x hx
          · obtain rfl := List.mem_singleton.1 hx
            rfl
        rw [List.append_cons]
        rcases runs_run_adapt_bind.1 hregister with ⟨⟨⟩, registering, rest, rfl, hrun, hrest⟩ |
          ⟨fault, hrun, rfl⟩ | ⟨hnone, -⟩
        · obtain ⟨result, hresult, hcourse⟩ := Hypervisor.course_of_runs hrun
          cases hresult
          obtain ⟨⟨⟩, rest, rfl, hdone⟩ := runs_ask.1 hrest
          obtain ⟨rfl, rfl⟩ := runs_done.1 hdone
          rw [← List.append_assoc]
          exact ⟨_, rfl, .created htold hcourse⟩
        · obtain ⟨result, hresult, hcourse⟩ := Hypervisor.course_of_runs hrun
          cases hresult
          exact ⟨_, rfl, .failed htold hcourse⟩
        · obtain ⟨result, hresult, -⟩ := Hypervisor.course_of_runs hnone
          cases hresult
  · rcases early_of_runs_refuseConflict hlooking with hok | ⟨e', he, hearly⟩
    · cases hok
    · cases he
      exact ⟨_, rfl, .refused (isIdle_of_runs_refuseConflict ctx hlooking) hearly⟩
  · rcases early_of_runs_refuseConflict hlooking with hok | ⟨e', he, -⟩
    · cases hok
    · cases he

/-! ## Bringing a VM up -/

namespace Provision

variable {start : StartOptions} {options : ProvisionOptions}

/-- A VM is powered on, and the options for its guest are stored. -/
inductive BroughtUp (ctx : Context) (config : VmConfig) (options : ProvisionOptions)
    (skip : Bool) : List Exchange → Except LifecycleError Unit → Prop
  | unstarted (fault : Fault) :
      BroughtUp ctx config options skip
        [⟨.tell "Starting VM...", ()⟩, ⟨.powerOn config.name, .error fault⟩]
        (.error (.failed .start fault))
  | unstored (fault : Fault) :
      BroughtUp ctx config options skip
        (beforeStoring config ++
          [⟨.execute (Guest.storeOptionsCommand options) (ctx.channel config), .error fault⟩])
        (.error (.failed .provision fault))
  | stored {rest : List Exchange} {result : Except LifecycleError Unit}
      (hrest : Aftermath ctx config (Guest.provisionCommand options)
        (Guest.welcomeText config.domain) skip rest result) :
      BroughtUp ctx config options skip
        (beforeStoring config ++ storing (ctx.channel config) options :: rest) result

theorem broughtUp_of_runs (run : Runs (bringUp ctx config start).run trace r) :
    ∃ result, r = some result ∧
      BroughtUp ctx config (.ofStart config start ctx.settings.defaultServices)
        start.noProvision trace result := by
  obtain ⟨⟨⟩, rest, rfl, hpower⟩ := runs_ask.1 run
  obtain ⟨reply, rest, rfl, hstore⟩ := runs_ask.1 (runs_note.1 hpower)
  rcases reply with fault | ⟨⟩
  · obtain ⟨rfl, rfl⟩ := runs_done.1 hstore
    exact ⟨_, rfl, .unstarted fault⟩
  · obtain ⟨reply, rest, rfl, hafter⟩ := runs_ask.1 hstore
    rcases reply with fault | ⟨⟩
    · obtain ⟨rfl, rfl⟩ := runs_done.1 hafter
      exact ⟨_, rfl, .unstored fault⟩
    · have hafter : Runs (afterStoring ctx config
          (.ofStart config start ctx.settings.defaultServices) start.noProvision).run rest r :=
        hafter
      obtain ⟨result, rfl, haftermath⟩ := runs_afterStoring.1 hafter
      exact ⟨result, rfl, .stored haftermath⟩

/-- A provisioning run is completed from the options that the guest prints. -/
inductive Completed (ctx : Context) (config : VmConfig) :
    List Exchange → Except LifecycleError Unit → Prop
  | unread (fault : Fault) :
      Completed ctx config
        [⟨.commandOutput Guest.printOptionsCommand (ctx.channel config), .error fault⟩]
        (.error (.failed .provision fault))
  | refused {output : String} {e : LifecycleError}
      (houtput : ∀ options, ProvisionOptions.ofStored output ≠ .ok (some options)) :
      Completed ctx config
        [⟨.commandOutput Guest.printOptionsCommand (ctx.channel config), .ok output⟩] (.error e)
  | provisioned {output : String} {options : ProvisionOptions} {rest : List Exchange}
      {result : Except LifecycleError Unit}
      (houtput : ProvisionOptions.ofStored output = .ok (some options))
      (hrest : Provisioned (ctx.provisionChannel config) (Guest.provisionCommand options)
        (Guest.welcomeText options.domain) rest result) :
      Completed ctx config
        (⟨.commandOutput Guest.printOptionsCommand (ctx.channel config), .ok output⟩ :: rest) result

theorem completed_of_runs (run : Runs (resume ctx config).run trace r) :
    ∃ result, r = some result ∧ Completed ctx config trace result := by
  obtain ⟨result, rfl, hresumed⟩ := runs_resume.1 run
  refine ⟨result, rfl, ?_⟩
  cases hresumed with
  | unread fault => exact .unread fault
  | none hnone => exact .refused (by simp [ofStored_eq_none_iff.2 hnone])
  | damaged hsome hdamaged =>
      exact .refused (by simp [ofStored_of_trim_ne hsome, hdamaged, Except.map])
  | used hoptions hrest =>
      have hstored := ofStored_of_trim_ne (trim_ne_of_decode hoptions)
      exact .provisioned (by rw [hstored, hoptions]; rfl) hrest

end Provision

end VmLifecycle
