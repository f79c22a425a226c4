import VmLifecycle.Proofs.Hypervisor.RunStates
import VmLifecycle.Proofs.Lifecycle.Attribution
import VmLifecycle.Proofs.Lifecycle.Findings
import VmLifecycle.Proofs.Lifecycle.Isolation

/-!
# Requests as steps of a machine

On a hypervisor that does what it says, a request moves a VM from one run state
to another, and the result tells which. Success leads to the state that the
request is for. A failure leaves the VM as it was, but for three requests that
take more than one step and may stop half way: the start of a VM that does not
exist, the start of one that is powered off, and the removal of one that runs.
-/

namespace VmLifecycle

open Program

/-- A snapshot shows the VM called `name` as it is. -/
def Snapshot.Shows (machines : Machines RunState) (name : String) : Snapshot → Prop
  | .notCreated missing => missing = name ∧ machines name = none
  | .existing phase config => config.name = name ∧ machines name = some phase.runState
  | .invalid _ => machines name ≠ none

namespace Request

/-- Where success leads a VM that was found in a state. It is `some none` if the
VM is gone, and `none` if the VM stays as it was. -/
def target? : Request → StateName → Option (Option RunState)
  | .start _, .notCreated => some (some .running)
  | .start _, .existing .stopped => some (some .running)
  | .start _, .existing .aborted => some (some .running)
  | .start _, .existing .suspended => some (some .running)
  | .start _, .existing .saved => some (some .running)
  | .start _, .existing .paused => some (some .running)
  | .resume, .existing .suspended => some (some .running)
  | .resume, .existing .saved => some (some .running)
  | .resume, .existing .paused => some (some .running)
  | .stop, .existing .running => some (some .poweredOff)
  | .stop, .existing .unprovisioned => some (some .poweredOff)
  | .stop, .existing .recoverable => some (some .poweredOff)
  | .suspend, .existing .running => some (some .suspended)
  | .destroy, _ => some none
  | _, _ => none

/-- Where a failure leaves a VM that is no longer as it was found. What the trace
has to tell is whether a new VM was registered before the failure and whether
its removal failed too, and whether a VM that was to be removed was powered off. -/
def halfway? (trace : List Exchange) : Request → StateName → LifecycleError → Option RunState
  | .start _, .notCreated, .failed .provision _ => some .running
  | .start _, .notCreated, .failed .start _ => some .poweredOff
  | .start _, .notCreated, .unusable _ => some .poweredOff
  | .start _, .notCreated, .vm _ => if trace.any registers then some .poweredOff else none
  | .start _, .notCreated, .failed .register _ =>
    if trace.any failsToUnregister then some .poweredOff else none
  | .start _, .existing .stopped, .failed .provision _ => some .running
  | .start _, .existing .aborted, .failed .provision _ => some .running
  | .destroy, .existing .running, .failed .destroy _ =>
    if trace.any powersOff then some .poweredOff else none
  | _, _, _ => none
where
  registers : Exchange → Bool
    | ⟨.register _ _, .ok ()⟩ => true
    | _ => false
  failsToUnregister : Exchange → Bool
    | ⟨.unregister _, .error _⟩ => true
    | _ => false
  powersOff : Exchange → Bool
    | ⟨.powerOff _, .ok ()⟩ => true
    | _ => false

/-- The state of a VM after a request, from the state before, how the VM was
found, and what became of the request. -/
def leaves (request : Request) (found : StateName) (before : Option RunState)
    (trace : List Exchange) : Except LifecycleError Unit → Option RunState
  | .ok () => (request.target? found).getD before
  | .error e => (request.halfway? trace found e).or before

end Request

/-! ## The query -/

variable {ctx : Context} {name : String} {machines : Machines RunState} {trace : List Exchange}
  {r : Option (Except LifecycleError Unit)} {config : VmConfig} {s : Snapshot}

/-- Where the answers are true, the outcome of a query shows the VM as it is, or is an
error. -/
theorem Found.shows {outcome : Except LifecycleError Snapshot} (h : Found ctx name trace outcome)
    (truthful : Truthful machines trace) :
    (∃ fault, outcome = .error (.vm fault)) ∨
      ∃ s, outcome = .ok s ∧ s.Shows machines name := by
  have hthere (h : true = (machines name).isSome) : machines name ≠ none :=
    Option.isSome_iff_ne_none.1 h.symm
  cases h with
  | lost fault => exact .inl ⟨fault, rfl⟩
  | missing =>
      have hmissing : false = (machines name).isSome := truthful.1
      exact .inr ⟨_, rfl, rfl, by simpa using hmissing⟩
  | resting =>
      obtain ⟨-, -, -, -, hstate, -⟩ := truthful
      exact .inr ⟨_, rfl, rfl, hstate⟩
  | running ip port resources reply =>
      obtain ⟨-, -, -, -, hstate, -⟩ := truthful
      refine .inr ⟨_, rfl, rfl, ?_⟩
      rw [Guest.runState_phaseOf]
      exact hstate
  | _ => exact .inr ⟨_, rfl, hthere truthful.1⟩

/-- A query moves no VM. -/
theorem Found.afterAll {outcome : Except LifecycleError Snapshot}
    (h : Found ctx name trace outcome) : runStates.afterAll machines trace = machines := by
  cases h <;> rfl

/-- A query shows a VM as it is, or fails. -/
theorem revealed_of_runs_query {q : Option (Except LifecycleError Snapshot)}
    (truthful : Truthful machines trace) (run : Runs (ctx.query name).run trace q) :
    ∃ outcome, q = some outcome ∧ ((∃ fault, outcome = .error (.vm fault)) ∨
      ∃ s, outcome = .ok s ∧ s.Shows machines name) ∧
      runStates.afterAll machines trace = machines := by
  obtain ⟨outcome, rfl, hfound⟩ := found_of_runs_query run
  exact ⟨outcome, rfl, hfound.shows truthful, hfound.afterAll⟩

/-- What follows a query goes on with a VM as it is. Without an answer nothing
follows, and either way the VMs stay as they are. -/
theorem split_of_runs_query {f : Snapshot → Action Unit} (truthful : Truthful machines trace)
    (run : Runs (ctx.query name >>= f).run trace r) :
    (∃ s asked rest, trace = asked ++ rest ∧ Runs (ctx.query name).run asked (some (.ok s)) ∧
      s.Shows machines name ∧ runStates.afterAll machines asked = machines ∧
      Truthful machines rest ∧ Runs (f s).run rest r) ∨
    ∃ fault, Runs (ctx.query name).run trace (some (.error (.vm fault))) ∧
      runStates.afterAll machines trace = machines ∧ r = some (.error (.vm fault)) := by
  rcases runs_run_bind.1 run with ⟨s, asked, rest, rfl, hasked, hrest⟩ | ⟨e, hasked, rfl⟩ |
    ⟨hasked, -⟩
  · obtain ⟨hfirst, hlater⟩ := truthful_append.1 truthful
    obtain ⟨outcome, houtcome, hshows, hstill⟩ := revealed_of_runs_query hfirst hasked
    cases houtcome
    rcases hshows with ⟨fault, hfault⟩ | ⟨s, hs, hshows⟩
    · cases hfault
    cases hs
    rw [hstill] at hlater
    exact .inl ⟨s, asked, rest, rfl, hasked, hshows, hstill, hlater, hrest⟩
  · obtain ⟨outcome, houtcome, hshows, hstill⟩ := revealed_of_runs_query truthful hasked
    cases houtcome
    rcases hshows with ⟨fault, hfault⟩ | ⟨s, hs, -⟩
    · cases hfault
      exact .inr ⟨fault, hasked, hstill, rfl⟩
    · cases hs
  · obtain ⟨outcome, houtcome, -⟩ := revealed_of_runs_query truthful hasked
    cases houtcome

/-! ## Requests that move nothing -/

theorem moves_of_looks {call : Call} (h : call.Looks ctx s) : call.moves = false := by
  cases h with
  | idle h => cases call <;> first | rfl | cases h
  | print => rfl
  | session => rfl

/-- A run that ends, and leaves the VM in the state that its result tells. -/
def Lands (machines : Machines RunState) (name : String) (request : Request) (found : StateName)
    (trace : List Exchange) (r : Option (Except LifecycleError Unit)) : Prop :=
  ∃ result, r = some result ∧ runStates.afterAll machines trace name =
    request.leaves found (machines name) trace result

theorem lands_of_only (ctx : Context) (s : Snapshot) {request : Request} {found : StateName}
    {p : Program (Except LifecycleError Unit)} (hlooks : Only (Call.Looks ctx s) p)
    (horderly : Orderly request.error? none False p)
    (hleaves : ∀ trace result, request.leaves found (machines name) trace result = machines name)
    (run : Runs p trace r) : Lands machines name request found trace r := by
  have hresult : ∃ result, r = some result := by
    rcases horderly.outcome run with ⟨-, hloose⟩ | ⟨_, _, _, _, -, -, -, hr, -⟩
    · cases r with
      | none => exact absurd rfl hloose
      | some result => exact ⟨result, rfl⟩
    · exact ⟨_, hr⟩
  obtain ⟨result, rfl⟩ := hresult
  refine ⟨result, rfl, ?_⟩
  rw [hleaves, runStates_afterAll_of_moves fun x hx => moves_of_looks (hlooks.of_runs run hx)]

theorem lands_of_tell {request : Request} {found : StateName} {text : String}
    (hleaves : (request.target? found).getD (machines name) = machines name)
    (run : Runs (tell text).run trace r) : Lands machines name request found trace r := by
  obtain ⟨⟨⟩, rest, rfl, hdone⟩ := runs_ask.1 run
  obtain ⟨rfl, rfl⟩ := runs_done.1 hdone
  exact ⟨_, rfl, hleaves.symm⟩

theorem lands_of_throw {request : Request} {found : StateName} {e : LifecycleError}
    (hleaves : request.halfway? [] found e = none)
    (run : Runs (throw e : Action Unit).run trace r) :
    Lands machines name request found trace r := by
  obtain ⟨rfl, rfl⟩ := runs_done.1 run
  refine ⟨_, rfl, ?_⟩
  rw [Request.leaves, hleaves]
  rfl

/-- A request of one step lands where the step leads, or where it was. -/
theorem lands_of_announced {request : Request} {found : StateName} {before after : String}
    {step : Step} {exchange : Except Fault Unit → Exchange} {state : Option RunState}
    {result : Except LifecycleError Unit}
    (hfault : ∀ fault, runStatesAfter machines (exchange (.error fault)) = machines)
    (hdone : runStatesAfter machines (exchange (.ok ())) = machines.set name state)
    (htarget : request.target? found = some state)
    (hhalfway : ∀ trace fault, request.halfway? trace found (.failed step fault) = none)
    (h : Announced before after step exchange trace result) :
    Lands machines name request found trace (some result) := by
  refine ⟨result, rfl, ?_⟩
  cases h with
  | failed fault =>
      have hafter : runStates.afterAll machines
          [⟨.tell before, ()⟩, exchange (.error fault)] = machines :=
        hfault fault
      rw [hafter, Request.leaves, hhalfway]
      rfl
  | done =>
      have hafter : runStates.afterAll machines
          [⟨.tell before, ()⟩, exchange (.ok ()), ⟨.tell after, ()⟩] = machines.set name state :=
        hdone
      rw [hafter, Request.leaves, htarget, Machines.set_self]
      rfl

/-! ## Requests for a VM that exists -/

theorem lands_stop (ctx : Context) (hs : s.Shows machines name) (run : Runs s.stop.run trace r) :
    Lands machines name .stop s.stateName trace r := by
  cases s with
  | notCreated missing =>
      have hlooks : Only (Call.Looks ctx (.notCreated missing))
          (Snapshot.stop (.notCreated missing)).run :=
        only_run_bind (Looks.only_refuseConflict missing) fun _ => Looks.only_tell _
      refine lands_of_only ctx _ hlooks Request.orderly_stop (fun trace result => ?_) run
      cases result <;> rfl
  | invalid => exact lands_of_throw rfl run
  | existing phase config =>
      obtain ⟨rfl, hstate⟩ := hs
      have hoff {found : StateName} (htarget : Request.stop.target? found = some (some .poweredOff))
          (run : Runs (Snapshot.powerOff config).run trace r) :
          Lands machines config.name .stop found trace r := by
        obtain ⟨result, rfl, hannounced⟩ := announced_of_runs_powerOff run
        exact lands_of_announced (fun _ => rfl) rfl htarget (fun _ _ => rfl) hannounced
      cases phase with
      | running => exact hoff rfl run
      | unprovisioned => exact hoff rfl run
      | recoverable => exact hoff rfl run
      | stopped => exact lands_of_tell rfl run
      | aborted => exact lands_of_tell rfl run
      | suspended => exact lands_of_throw rfl run
      | paused => exact lands_of_throw rfl run
      | saved => exact lands_of_throw rfl run

theorem lands_suspend (hs : s.Shows machines name) (run : Runs s.suspend.run trace r) :
    Lands machines name .suspend s.stateName trace r := by
  cases s with
  | notCreated => exact lands_of_throw rfl run
  | invalid => exact lands_of_throw rfl run
  | existing phase config =>
      obtain ⟨rfl, hstate⟩ := hs
      cases phase with
      | running =>
          obtain ⟨result, rfl, hannounced⟩ := announced_of_runs_suspend run
          exact lands_of_announced (fun _ => rfl) rfl rfl (fun _ _ => rfl) hannounced
      | suspended => exact lands_of_tell rfl run
      | paused => exact lands_of_tell rfl run
      | saved => exact lands_of_tell rfl run
      | _ => exact lands_of_throw rfl run

theorem lands_of_restore {request : Request} {found : StateName}
    (htarget : request.target? found = some (some .running))
    (hhalfway : ∀ trace fault, request.halfway? trace found (.failed .resume fault) = none)
    (run : Runs (Snapshot.restore config).run trace r) :
    Lands machines config.name request found trace r := by
  obtain ⟨result, rfl, hannounced⟩ := announced_of_runs_restore run
  exact lands_of_announced (fun _ => rfl) rfl htarget hhalfway hannounced

theorem lands_resume (hs : s.Shows machines name) (run : Runs s.resume.run trace r) :
    Lands machines name .resume s.stateName trace r := by
  cases s with
  | notCreated => exact lands_of_throw rfl run
  | invalid => exact lands_of_throw rfl run
  | existing phase config =>
      obtain ⟨rfl, hstate⟩ := hs
      cases phase with
      | running => exact lands_of_tell rfl run
      | suspended => exact lands_of_restore rfl (fun _ _ => rfl) run
      | paused => exact lands_of_restore rfl (fun _ _ => rfl) run
      | saved => exact lands_of_restore rfl (fun _ _ => rfl) run
      | _ => exact lands_of_throw rfl run

theorem lands_destroy (hs : s.Shows machines name) (run : Runs s.destroy.run trace r) :
    Lands machines name .destroy s.stateName trace r := by
  cases s with
  | notCreated =>
      obtain ⟨rfl, hnone⟩ := hs
      exact lands_of_tell hnone.symm run
  | invalid => exact lands_of_throw rfl run
  | existing phase config =>
      obtain ⟨rfl, hstate⟩ := hs
      have hremove {found : StateName} (hhalfway : ∀ trace fault,
            Request.destroy.halfway? trace found (.failed .destroy fault) = none)
          (run : Runs (Snapshot.remove config).run trace r) :
          Lands machines config.name .destroy found trace r := by
        obtain ⟨result, rfl, hannounced⟩ := announced_of_runs_remove run
        exact lands_of_announced (fun _ => rfl) rfl rfl hhalfway hannounced
      cases phase with
      | running =>
          obtain ⟨result, rfl, hpulled⟩ := pulledDown_of_runs run
          refine ⟨result, rfl, ?_⟩
          cases hpulled with
          | running fault => rfl
          | poweredOff fault => exact Machines.set_self _
          | removed => exact Machines.set_self _
      | unprovisioned => exact lands_of_throw rfl run
      | recoverable => exact lands_of_throw rfl run
      | _ => exact hremove (fun _ _ => rfl) run

theorem moves_of_provisioned {channel : Channel} {command help : String}
    {result : Except LifecycleError Unit}
    (h : Provision.Provisioned channel command help trace result) :
    ∀ x ∈ trace, x.call.moves = false := by
  cases h <;> simp [Call.moves]

theorem lands_provision (hs : s.Shows machines name) (run : Runs (s.provision ctx).run trace r) :
    Lands machines name .provision s.stateName trace r := by
  cases s with
  | notCreated => exact lands_of_throw rfl run
  | invalid => exact lands_of_throw rfl run
  | existing phase config =>
      cases phase with
      | unprovisioned =>
          obtain ⟨result, rfl, hcompleted⟩ := Provision.completed_of_runs run
          have hstill : ∀ x ∈ trace, x.call.moves = false := by
            cases hcompleted with
            | unread => simp [Call.moves]
            | refused => simp [Call.moves]
            | provisioned _ hrest =>
                exact List.forall_mem_cons.2 ⟨rfl, moves_of_provisioned hrest⟩
          refine ⟨result, rfl, ?_⟩
          rw [runStates_afterAll_of_moves hstill]
          cases result <;> rfl
      | _ => exact lands_of_throw rfl run

/-! ## Starting a VM -/

theorem Provision.moves_of_aftermath {options : ProvisionOptions} {help : String} {skip : Bool}
    {result : Except LifecycleError Unit}
    (h : Aftermath ctx config (Guest.provisionCommand options) help skip trace result) :
    ∀ x ∈ trace, x.call.moves = false := by
  intro x hx
  rcases exchange_of_aftermath h hx with ⟨text, rfl⟩ | ⟨command, channel, reply, rfl, -⟩
  · rfl
  · rfl

/-- A VM that is brought up runs, unless it could not be powered on. -/
theorem Provision.BroughtUp.runs {options : ProvisionOptions} {skip : Bool}
    {result : Except LifecycleError Unit} (h : BroughtUp ctx config options skip trace result)
    (machines : Machines RunState) :
    (∃ fault, result = .error (.failed .start fault) ∧
      runStates.afterAll machines trace = machines) ∨
    (result = .ok () ∨ ∃ fault, result = .error (.failed .provision fault)) ∧
      runStates.afterAll machines trace config.name = some .running := by
  have hpowered : runStates.afterAll machines (beforeStoring config) =
      machines.set config.name (some .running) := rfl
  cases h with
  | unstarted fault => exact .inl ⟨fault, rfl, rfl⟩
  | unstored fault => exact .inr ⟨.inr ⟨fault, rfl⟩, Machines.set_self _⟩
  | @stored rest _ hrest =>
      refine .inr ⟨?_, ?_⟩
      · cases hrest with
        | refused fault => exact .inr ⟨fault, rfl⟩
        | skipped => exact .inl rfl
        | provisioned _ hprovisioned =>
            cases hprovisioned with
            | failed fault => exact .inr ⟨fault, rfl⟩
            | succeeded => exact .inl rfl
      · have hstill : ∀ x ∈ storing (ctx.channel config) options :: rest,
            x.call.moves = false :=
          List.forall_mem_cons.2 ⟨rfl, Provision.moves_of_aftermath hrest⟩
        rw [HypervisorModel.afterAll_append, hpowered, runStates_afterAll_of_moves hstill,
          Machines.set_self]

/-- The same after calls that move nothing. -/
theorem lands_of_broughtUp {options : ProvisionOptions} {skip : Bool} {start : StartOptions}
    {phase : Phase} (hphase : phase = .stopped ∨ phase = .aborted)
    {before : List Exchange} (hbefore : ∀ x ∈ before, x.call.moves = false)
    {result : Except LifecycleError Unit}
    (h : Provision.BroughtUp ctx config options skip trace result) :
    Lands machines config.name (.start start) (.existing phase) (before ++ trace)
      (some result) := by
  refine ⟨result, rfl, ?_⟩
  rw [HypervisorModel.afterAll_append, runStates_afterAll_of_moves hbefore]
  rcases h.runs machines with ⟨fault, rfl, hafter⟩ | ⟨hresult, hafter⟩
  · rw [hafter]
    rcases hphase with rfl | rfl <;> rfl
  · rw [hafter]
    rcases hphase with rfl | rfl <;> rcases hresult with rfl | ⟨fault, rfl⟩ <;> rfl

/-! ### The import -/

theorem moves_of_isIdle {call : Call} (h : call.isIdle = true) : call.moves = false := by
  cases call <;> first | rfl | cases h

theorem moves_of_changes? {call : Call} (h : call.changes? = none) : call.moves = false := by
  cases call <;> first | rfl | cases h

theorem moves_of_setsUp {call : Call} (h : call.SetsUp name) : call.moves = false := by
  cases h <;> rfl

/-- What only calls that move a VM are seen by is not there where none does. -/
theorem any_eq_false_of_moves {p : Exchange → Bool}
    (hp : ∀ {x : Exchange}, p x = true → x.call.moves = true)
    (h : ∀ x ∈ trace, x.call.moves = false) : trace.any p = false := by
  rw [List.any_eq_false]
  intro x hx hseen
  have hmoves := hp hseen
  rw [h x hx] at hmoves
  cases hmoves

theorem moves_of_registers {x : Exchange} (h : Request.halfway?.registers x = true) :
    x.call.moves = true := by
  unfold Request.halfway?.registers at h
  split at h
  · rfl
  · cases h

theorem moves_of_failsToUnregister {x : Exchange}
    (h : Request.halfway?.failsToUnregister x = true) : x.call.moves = true := by
  unfold Request.halfway?.failsToUnregister at h
  split at h
  · rfl
  · cases h

/-- Once the image is registered the VM is powered off, and its setup leaves it so. -/
theorem afterAll_registering {image : String} {early setup : List Exchange}
    (hearly : ∀ x ∈ early, x.call.moves = false) (hsetup : ∀ x ∈ setup, x.call.moves = false) :
    runStates.afterAll machines (early ++ ⟨.register name image, .ok ()⟩ :: setup) =
      machines.set name (some .poweredOff) := by
  rw [HypervisorModel.afterAll_append, runStates_afterAll_of_moves hearly]
  exact runStates_afterAll_of_moves hsetup

/-- A failed registration leaves nothing, unless the new VM could not be removed. -/
theorem Hypervisor.Course.leaves {table : AddressTable} {image : String} {spec : NewVm}
    {fault : Fault} (h : Course table name image spec trace (.error fault))
    (hnone : machines name = none) :
    runStates.afterAll machines trace name =
      if trace.any Request.halfway?.failsToUnregister then some .poweredOff else none := by
  have hreserved {early : List Exchange} {q : Option (Except Fault (Selection × String))}
      (hearly : Runs (reserve table name spec.subnet).run early q) :
      ∀ x ∈ early, x.call.moves = false :=
    fun x hx => moves_of_changes? (changes?_of_runs_reserve hearly hx)
  have hquiet {early : List Exchange} (hstill : ∀ x ∈ early, x.call.moves = false) :
      early.any Request.halfway?.failsToUnregister = false :=
    any_eq_false_of_moves moves_of_failsToUnregister hstill
  cases h with
  | unplaced hearly =>
      have hstill := hreserved hearly
      rw [runStates_afterAll_of_moves hstill, hquiet hstill, hnone]
      rfl
  | refused hearly =>
      have hstill := hreserved hearly
      rw [HypervisorModel.afterAll_append, runStates_afterAll_of_moves hstill, List.any_append,
        hquiet hstill]
      exact hnone
  | @removed early setup found fault reply hearly hsetup =>
      have hstill := hreserved hearly
      have hset : ∀ x ∈ setup, x.call.moves = false :=
        fun x hx => moves_of_setsUp (only_setUp.of_runs hsetup hx)
      have hfails : (early ++ ⟨.register name image, .ok ()⟩ :: setup).any
          Request.halfway?.failsToUnregister = false := by
        rw [List.any_append, List.any_cons, hquiet hstill, hquiet hset]
        rfl
      rw [HypervisorModel.afterAll_append, afterAll_registering hstill hset, List.any_append,
        hfails]
      rcases reply with other | ⟨⟩
      · exact Machines.set_self _
      · exact Machines.set_self _

/-- Up to the query a start has left nothing, or a VM that is powered off. -/
theorem Created.leaves {start : StartOptions} {result : Except LifecycleError Unit}
    (h : Created ctx name start trace result) (hnone : machines name = none) :
    (∃ e, result = .error e ∧ runStates.afterAll machines trace name =
      (Request.start start).leaves .notCreated none trace (.error e)) ∨
    result = .ok () ∧ trace.any Request.halfway?.registers = true ∧
      runStates.afterAll machines trace = machines.set name (some .poweredOff) := by
  have hidle {looking : List Exchange} (hlooking : ∀ x ∈ looking, x.call.isIdle = true) :
      ∀ x ∈ looking, x.call.moves = false :=
    fun x hx => moves_of_isIdle (hlooking x hx)
  cases h with
  | refused hlooking he =>
      have hstill := hidle hlooking
      refine .inl ⟨_, rfl, ?_⟩
      rw [runStates_afterAll_of_moves hstill, hnone]
      cases he with
      | conflict => rfl
      | invalidOption => rfl
      | vm fault =>
          simp only [Request.leaves, Request.halfway?,
            any_eq_false_of_moves moves_of_registers hstill]
          rfl
  | @failed looking registering subnet fault hlooking hcourse =>
      have hstill := hidle hlooking
      refine .inl ⟨_, rfl, ?_⟩
      rw [HypervisorModel.afterAll_append, runStates_afterAll_of_moves hstill,
        hcourse.leaves hnone]
      simp only [Request.leaves, Request.halfway?, List.any_append,
        any_eq_false_of_moves moves_of_failsToUnregister hstill, Bool.false_or, Option.or_none]
  | @created looking registering subnet hlooking hcourse =>
      have hstill := hidle hlooking
      cases hcourse with
      | @completed early setup found port hearly hsetup =>
          have hreserved : ∀ x ∈ early, x.call.moves = false := fun x hx =>
            moves_of_changes? (Hypervisor.changes?_of_runs_reserve hearly hx)
          have hset : ∀ x ∈ setup, x.call.moves = false := fun x hx =>
            moves_of_setsUp (Hypervisor.only_setUp.of_runs hsetup hx)
          refine .inr ⟨rfl, ?_, ?_⟩
          · simp only [List.any_append, List.any_cons]
            simp [Request.halfway?.registers]
          · rw [HypervisorModel.afterAll_append, HypervisorModel.afterAll_append,
              runStates_afterAll_of_moves hstill, afterAll_registering hreserved hset]
            rfl

/-! ### The whole start -/

/-- A start of a VM that exists lands, whatever the number of imports allowed. -/
theorem lands_startExisting {start : StartOptions} {phase : Phase}
    (hstate : machines config.name = some phase.runState)
    (run : Runs (Snapshot.startExisting ctx start config phase).run trace r) :
    Lands machines config.name (.start start) (.existing phase) trace r := by
  cases phase with
  | stopped =>
      obtain ⟨result, rfl, hbrought⟩ := Provision.broughtUp_of_runs run
      exact lands_of_broughtUp (.inl rfl) (List.forall_mem_nil _) hbrought
  | aborted =>
      have hlooks : Only (Call.Looks ctx (.invalid "")) (Memory.ensure config.memory).run :=
        Looks.only_ensure config.memory
      have hstill {asked : List Exchange} {q : Option (Except LifecycleError Unit)}
          (hasked : Runs (Memory.ensure config.memory).run asked q) :
          ∀ x ∈ asked, x.call.moves = false :=
        fun x hx => moves_of_looks (hlooks.of_runs hasked hx)
      rcases runs_run_bind.1 run with ⟨_, asked, rest, rfl, hasked, hrest⟩ |
        ⟨e, hasked, rfl⟩ | ⟨hasked, -⟩
      · obtain ⟨result, rfl, hbrought⟩ := Provision.broughtUp_of_runs hrest
        exact lands_of_broughtUp (.inr rfl) (hstill hasked) hbrought
      · refine ⟨_, rfl, ?_⟩
        rw [runStates_afterAll_of_moves (hstill hasked)]
        obtain ⟨result, hresult, hweighed⟩ := Memory.weighed_of_runs_ensure hasked
        cases hresult
        cases hweighed with
        | unread fault => rfl
        | declined => rfl
      · obtain ⟨result, hresult, -⟩ := Memory.weighed_of_runs_ensure hasked
        cases hresult
  | running => exact lands_of_tell rfl run
  | suspended => exact lands_of_restore rfl (fun _ _ => rfl) run
  | paused => exact lands_of_restore rfl (fun _ _ => rfl) run
  | saved => exact lands_of_restore rfl (fun _ _ => rfl) run
  | unprovisioned => exact lands_of_throw rfl run
  | recoverable => exact lands_of_throw rfl run

/-- After the import the VM is found powered off, and brought up, or it cannot be
read and stays as it is. -/
theorem lands_imported {start : StartOptions} {imports : Nat} {creating rest : List Exchange}
    (hregisters : creating.any Request.halfway?.registers = true)
    (hafter : runStates.afterAll machines creating = machines.set name (some .poweredOff))
    (truthful : Truthful (machines.set name (some .poweredOff)) rest)
    (run : Runs (ctx.query name >>= fun s => Snapshot.start ctx start imports s).run rest r) :
    Lands machines name (.start start) .notCreated (creating ++ rest) r := by
  have hoff : (machines.set name (some .poweredOff)) name = some .poweredOff :=
    Machines.set_self _
  rcases split_of_runs_query truthful run with
    ⟨s, asked, started, rfl, -, hshows, hstill, -, hstarted⟩ | ⟨fault, -, hstill, rfl⟩
  · have hstarting : runStates.afterAll machines (creating ++ (asked ++ started)) =
        runStates.afterAll (machines.set name (some .poweredOff)) started := by
      rw [HypervisorModel.afterAll_append, hafter, HypervisorModel.afterAll_append, hstill]
    cases s with
    | notCreated missing =>
        obtain ⟨-, hnone⟩ := hshows
        rw [hoff] at hnone
        cases hnone
    | invalid reason =>
        have hstarted : Runs (throw (.unusable reason) : Action Unit).run started r := by
          cases imports <;> exact hstarted
        obtain ⟨rfl, rfl⟩ := runs_done.1 hstarted
        refine ⟨_, rfl, ?_⟩
        rw [hstarting]
        exact hoff
    | existing phase config =>
        obtain ⟨rfl, hstate⟩ := hshows
        have hphase : phase = .stopped := by
          rw [hoff] at hstate
          cases phase <;> first | rfl | cases hstate
        subst hphase
        have hbringUp : Runs (Provision.bringUp ctx config start).run started r := by
          cases imports <;> exact hstarted
        obtain ⟨result, rfl, hbrought⟩ := Provision.broughtUp_of_runs hbringUp
        refine ⟨result, rfl, ?_⟩
        rw [hstarting]
        rcases hbrought.runs (machines.set config.name (some .poweredOff)) with
          ⟨fault, rfl, hunstarted⟩ | ⟨hresult, hrunning⟩
        · rw [hunstarted]
          exact hoff
        · rw [hrunning]
          rcases hresult with rfl | ⟨fault, rfl⟩ <;> rfl
  · refine ⟨_, rfl, ?_⟩
    rw [HypervisorModel.afterAll_append, hafter, hstill, hoff]
    simp [Request.leaves, Request.halfway?, hregisters]

theorem lands_start {start : StartOptions} {imports : Nat} (hs : s.Shows machines name)
    (truthful : Truthful machines trace)
    (run : Runs (Snapshot.start ctx start (imports + 1) s).run trace r) :
    Lands machines name (.start start) s.stateName trace r := by
  cases s with
  | existing phase config =>
      obtain ⟨rfl, hstate⟩ := hs
      exact lands_startExisting hstate run
  | invalid => exact lands_of_throw rfl run
  | notCreated missing =>
      obtain ⟨rfl, hnone⟩ := hs
      rcases runs_run_bind.1 run with ⟨_, creating, rest, rfl, hcreate, hrest⟩ |
        ⟨e, hcreate, rfl⟩ | ⟨hcreate, -⟩
      · obtain ⟨result, hresult, hcreated⟩ := created_of_runs hcreate
        cases hresult
        rcases hcreated.leaves hnone with ⟨e, he, -⟩ | ⟨-, hregisters, hafter⟩
        · cases he
        obtain ⟨-, truthful⟩ := truthful_append.1 truthful
        rw [hafter] at truthful
        exact lands_imported hregisters hafter truthful hrest
      · obtain ⟨result, hresult, hcreated⟩ := created_of_runs hcreate
        cases hresult
        rcases hcreated.leaves hnone with ⟨e', he, hleaves⟩ | ⟨hok, -⟩
        · cases he
          refine ⟨_, rfl, ?_⟩
          rw [hleaves, hnone]
          rfl
        · cases hok
      · obtain ⟨result, hresult, -⟩ := created_of_runs hcreate
        cases hresult

/-! ## Sessions -/

theorem lands_apply {request : Request} {imports : Nat} (hs : s.Shows machines name)
    (truthful : Truthful machines trace)
    (run : Runs (request.apply ctx (imports + 1) s).run trace r) :
    Lands machines name request s.stateName trace r := by
  have hstays {request : Request} (htarget : ∀ found, request.target? found = none)
      (hhalfway : ∀ trace found e, request.halfway? trace found e = none)
      (trace : List Exchange) (result : Except LifecycleError Unit) :
      request.leaves s.stateName (machines name) trace result = machines name := by
    cases result with
    | ok => rw [Request.leaves, htarget]; rfl
    | error e => rw [Request.leaves, hhalfway]; rfl
  cases request with
  | start options => exact lands_start hs truthful run
  | stop => exact lands_stop ctx hs run
  | suspend => exact lands_suspend hs run
  | resume => exact lands_resume hs run
  | destroy => exact lands_destroy hs run
  | provision => exact lands_provision hs run
  | trust =>
      exact lands_of_only ctx s Looks.only_trust Request.orderly_trust
        (hstays (fun _ => rfl) fun _ _ _ => rfl) run
  | target =>
      exact lands_of_only ctx s (Looks.only_target s) Request.orderly_target
        (hstays (fun _ => rfl) fun _ _ _ => rfl) run
  | ssh =>
      exact lands_of_only ctx s Looks.only_ssh Request.orderly_ssh
        (hstays (fun _ => rfl) fun _ _ _ => rfl) run
  | debugLogs dir =>
      exact lands_of_only ctx s (Looks.only_debugLogs dir) (Request.orderly_debugLogs dir)
        (hstays (fun _ => rfl) fun _ _ _ => rfl) run
  | checkStart options =>
      exact lands_of_only ctx s (Looks.only_checkStart options s)
        (Request.orderly_checkStart options s) (hstays (fun _ => rfl) fun _ _ _ => rfl) run

/-- What one request makes of the VMs: nothing if the VM could not be asked for,
and else what its result tells. -/
inductive Transition (ctx : Context) (imports : Nat) (name : String)
    (machines : Machines RunState) (request : Request) :
    List Exchange → Except LifecycleError Unit → Machines RunState → Prop
  | lost {asked : List Exchange} {fault : Fault}
      (hasked : Runs (ctx.query name).run asked (some (.error (.vm fault)))) :
      Transition ctx imports name machines request asked (.error (.vm fault)) machines
  | applied {asked called : List Exchange} {s : Snapshot} {result : Except LifecycleError Unit}
      (hasked : Runs (ctx.query name).run asked (some (.ok s))) (hs : s.Shows machines name)
      (hcalled : Runs (request.apply ctx imports s).run called (some result)) :
      Transition ctx imports name machines request (asked ++ called) result
        (machines.set name (request.leaves s.stateName (machines name) called result))

/-- What requests in a row make of the VMs, one after the other. -/
inductive Transitions (ctx : Context) (imports : Nat) (name : String) :
    Machines RunState → List Request → List Exchange → List (Except LifecycleError Unit) →
      Machines RunState → Prop
  | nil (machines : Machines RunState) : Transitions ctx imports name machines [] [] [] machines
  | cons {machines machines' machines'' : Machines RunState} {request : Request}
      {requests : List Request} {first later : List Exchange}
      {result : Except LifecycleError Unit} {results : List (Except LifecycleError Unit)}
      (head : Transition ctx imports name machines request first result machines')
      (tail : Transitions ctx imports name machines' requests later results machines'') :
      Transitions ctx imports name machines (request :: requests) (first ++ later)
        (result :: results) machines''

/-- A request moves no VM but its own, which lands where its result tells. -/
theorem afterAll_of_runs_apply {request : Request} {imports : Nat} (hs : s.Shows machines name)
    (truthful : Truthful machines trace)
    (run : Runs (request.apply ctx (imports + 1) s).run trace r) :
    ∃ result, r = some result ∧ runStates.afterAll machines trace =
      machines.set name (request.leaves s.stateName (machines name) trace result) := by
  obtain ⟨result, rfl, hlands⟩ := lands_apply hs truthful run
  refine ⟨result, rfl, ?_⟩
  have hof : ∃ port?, s.IsOf name port? := by
    cases s with
    | notCreated => exact ⟨none, hs.1⟩
    | existing phase config => exact ⟨some config.sshPort, hs.1, rfl⟩
    | invalid => exact ⟨none, trivial⟩
  obtain ⟨port?, hof⟩ := hof
  have hisolated := Keeps.isolated (keeps_apply request (imports + 1) hof) run
  funext other
  by_cases hother : other = name
  · rw [hother, hlands, Machines.set_self]
  · rw [Machines.set_of_ne _ hother]
    refine runStates.afterAll_of_ne fun x hx hchanges => ?_
    exact hother (hisolated.changes hx hchanges)

theorem transition_of_runs_perform {request : Request} {imports : Nat}
    (truthful : Truthful machines trace)
    (run : Runs (ctx.perform (imports + 1) name request).run trace r) :
    ∃ result, r = some result ∧ Transition ctx (imports + 1) name machines request trace result
      (runStates.afterAll machines trace) := by
  rcases split_of_runs_query truthful run with
    ⟨s, asked, called, rfl, hasked, hshows, hstill, htrue, hcalled⟩ | ⟨fault, hasked, hstill, rfl⟩
  · obtain ⟨result, rfl, hafter⟩ := afterAll_of_runs_apply hshows htrue hcalled
    refine ⟨result, rfl, ?_⟩
    rw [HypervisorModel.afterAll_append, hstill, hafter]
    exact .applied hasked hshows hcalled
  · refine ⟨_, rfl, ?_⟩
    rw [hstill]
    exact .lost hasked

/-- On a hypervisor that does what it says and says what is so, every session
comes to an end, and each request in it is a step of the machine: the VM is found
as it is, and what became of the request tells how it is left. No other VM is
moved. One import is enough for every start. -/
theorem session_transitions {imports : Nat} {requests : List Request}
    {q : Option (List (Except LifecycleError Unit))} (truthful : Truthful machines trace)
    (run : Runs (ctx.session (imports + 1) name requests) trace q) :
    ∃ results, q = some results ∧ Transitions ctx (imports + 1) name machines requests trace results
      (runStates.afterAll machines trace) := by
  induction requests generalizing machines trace q with
  | nil =>
      obtain ⟨rfl, rfl⟩ := runs_done.1 run
      exact ⟨[], rfl, .nil machines⟩
  | cons request requests ih =>
      rcases runs_bind.1 run with ⟨result, first, later, rfl, hfirst, hlater⟩ | ⟨hfirst, -⟩
      · obtain ⟨htrue, htrue'⟩ := truthful_append.1 truthful
        obtain ⟨result, hresult, head⟩ := transition_of_runs_perform htrue hfirst
        cases hresult
        rcases runs_bind.1 hlater with ⟨results, rest, last, rfl, hrest, hlast⟩ | ⟨hrest, -⟩
        · obtain ⟨results, hresults, tail⟩ := ih (truthful_append.1 htrue').1 hrest
          cases hresults
          obtain ⟨rfl, rfl⟩ := runs_done.1 hlast
          rw [List.append_nil, HypervisorModel.afterAll_append]
          exact ⟨_, rfl, .cons head tail⟩
        · obtain ⟨results, hresults, -⟩ := ih htrue' hrest
          cases hresults
      · obtain ⟨result, hresult, -⟩ := transition_of_runs_perform truthful hfirst
        cases hresult

/-- The removal of a VM that runs stops half way, and leaves it powered off. Asked
for once more, the VM is found so, and is removed. -/
theorem transitions_of_locked_removal :
    let ctx : Context := ⟨.defaults ⟨[]⟩, .builtIn⟩
    let channel : Channel := ⟨"127.0.0.1", 2222, .ofSeconds 30 0⟩
    let machines : Machines RunState := Machines.set (fun _ => none) "pcfdev-v1" (some .running)
    let reading : List Exchange :=
      [⟨.isRegistered "pcfdev-v1", .ok true⟩, ⟨.vmAddress "pcfdev-v1", .ok ⟨192, 168, 11, 11⟩⟩,
       ⟨.forwardedPort "pcfdev-v1" "ssh", .ok 2222⟩, ⟨.resources "pcfdev-v1", .ok ⟨4096, 2⟩⟩]
    let trace : List Exchange :=
      reading ++
      [⟨.runState "pcfdev-v1", .ok .running⟩,
       ⟨.commandOutput Guest.printMarkerCommand channel, .ok "provisioned"⟩,
       ⟨.tell "Destroying VM...", ()⟩, ⟨.powerOff "pcfdev-v1", .ok ()⟩,
       ⟨.unregister "pcfdev-v1", .error (.hypervisor "locked")⟩] ++
      reading ++
      [⟨.runState "pcfdev-v1", .ok .poweredOff⟩, ⟨.tell "Destroying VM...", ()⟩,
       ⟨.unregister "pcfdev-v1", .ok ()⟩, ⟨.tell "PCF Dev VM has been destroyed.", ()⟩]
    Truthful machines trace ∧
      Runs (ctx.session 1 "pcfdev-v1" [.destroy, .destroy]) trace
        (some [.error (.failed .destroy (.hypervisor "locked")), .ok ()]) ∧
      Transitions ctx 1 "pcfdev-v1" machines [.destroy, .destroy] trace
        [.error (.failed .destroy (.hypervisor "locked")), .ok ()]
        (runStates.afterAll machines trace) ∧
      runStates.afterAll machines trace "pcfdev-v1" = none := by
  intro ctx channel machines reading trace
  have truthful : Truthful machines trace := by
    refine ⟨rfl, trivial, trivial, trivial, rfl, trivial, trivial, trivial, trivial, rfl, trivial,
      trivial, trivial, rfl, trivial, trivial, trivial, trivial⟩
  have run : Runs (ctx.session 1 "pcfdev-v1" [.destroy, .destroy]) trace
      (some [.error (.failed .destroy (.hypervisor "locked")), .ok ()]) :=
    .ask _ (.ask _ (.ask _ (.ask _ (.ask _ (.ask _ (.note (.ask _ (.note (.ask _ (.note (.ask _
      (.ask _ (.ask _ (.ask _ (.ask _ (.ask _ (.note (.ask _ (.note (.ask _ (.ask _
        (.done _))))))))))))))))))))))
  obtain ⟨results, hresults, transitions⟩ := session_transitions truthful run
  cases hresults
  exact ⟨truthful, run, transitions, rfl⟩

end VmLifecycle
