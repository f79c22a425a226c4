import VmLifecycle.Proofs.Lifecycle.Transitions
import VmLifecycle.Proofs.Provision.HeldOptions

/-!
# The services of a VM

The services of a VM are asked for when it is created, and refused in every later
start. Still they do not stay: a start stores its options in the guest before it
runs the script, and one that asks for no services stores the default ones. So
the script runs with the services of the last start that stored any.

Each part of a program stores options of known services only, and runs the script
with options that the guest holds. Which those are is followed along the trace.
-/

namespace VmLifecycle

open Program

/-! ## Programs that serve -/

section

variable {ctx : Context} {config : VmConfig} {s : Snapshot} {name : String}
  {V : String → Prop} {held : ProvisionOptions → Prop} {ε α β : Type}

/-- Each call of the program serves what is held at the time, in every guest that
prints nothing else. -/
def Program.Serves (V : String → Prop) : (ProvisionOptions → Prop) → Program α → Prop
  | _, .done _ => True
  | held, .ask call next => call.Serves V held ∧
    ∀ reply, Guest.PrintsHeld held ⟨call, reply⟩ →
      Program.Serves V (Guest.heldAfter held ⟨call, reply⟩) (next reply)
  | held, .note _ rest => Program.Serves V held rest
  | _, .unsettled => True

/-- A call that neither stores options nor runs the script. -/
def Call.Spares (call : Call) : Prop :=
  call.stores? = none ∧ call.script? = none

theorem Call.Spares.serves {call : Call} (h : call.Spares) : call.Serves V held where
  stores := by simp [Call.StoresOnly, h.1]
  script := by simp [h.2]

namespace Program.Serves

theorem servedUntil {p : Program α} {trace : List Exchange} {r : Option α}
    (h : p.Serves V held) (retains : Guest.Retains held trace) (run : Runs p trace r)
    (stop : Exchange → Prop) : ServedUntil stop V held trace := by
  induction run generalizing held with
  | done => trivial
  | ask reply _ ih => exact ⟨h.1, fun _ => ih (h.2 reply retains.1) retains.2⟩
  | note _ ih => exact ih h retains
  | unsettled => trivial

theorem bind {p : Program α} {f : α → Program β} (hp : p.Serves V held)
    (hf : ∀ held a, (f a).Serves V held) : (p.bind f).Serves V held := by
  induction p generalizing held with
  | done a => exact hf held a
  | ask call next ih => exact ⟨hp.1, fun reply hprints => ih reply (hp.2 reply hprints)⟩
  | note event rest ih => exact ih hp
  | unsettled => trivial

theorem run_bind {x : ExceptT ε Program α} {f : α → ExceptT ε Program β}
    (hx : x.run.Serves V held) (hf : ∀ held a, (f a).run.Serves V held) :
    (x >>= f).run.Serves V held := by
  refine bind hx fun held result => ?_
  cases result with
  | error e => trivial
  | ok a => exact hf held a

theorem of_spares {p : Program α} (h : Only Call.Spares p) : p.Serves V held := by
  induction p generalizing held with
  | done => trivial
  | ask call next ih => exact ⟨h.1.serves, fun reply _ => ih reply (h.2 reply)⟩
  | note event rest ih => exact ih h
  | unsettled => trivial

end Program.Serves

/-! ## The commands that provision -/

namespace Call

variable {channel : Channel} {options : ProvisionOptions}

@[simp] theorem stores?_storeOptions :
    (execute (Guest.storeOptionsCommand options) channel).stores? =
      some (Json.encode options ++ "\n") :=
  Guest.writesOptions?_storeOptionsCommand options

@[simp] theorem script?_storeOptions :
    (execute (Guest.storeOptionsCommand options) channel).script? = none := by
  simp [script?, runsScript_storeOptionsCommand]

@[simp] theorem stores?_installPassword :
    (execute Guest.installPasswordCommand channel).stores? = none :=
  Guest.writesOptions?_installPasswordCommand

@[simp] theorem script?_installPassword :
    (execute Guest.installPasswordCommand channel).script? = none := by
  simp [script?, runsScript_installPasswordCommand]

@[simp] theorem stores?_provision :
    (execute (Guest.provisionCommand options) channel).stores? = none :=
  Guest.writesOptions?_provisionCommand options

@[simp] theorem script?_provision :
    (execute (Guest.provisionCommand options) channel).script? =
      some (Guest.provisionCommand options) := by
  simp [script?, runsScript_provisionCommand]

end Call

/-! ## Calls that spare the options -/

theorem Call.spares_installPassword {channel : Channel} :
    (Call.execute Guest.installPasswordCommand channel).Spares :=
  ⟨stores?_installPassword, script?_installPassword⟩

theorem Call.spares_of_channel? {call : Call} (h : call.channel? = none) : call.Spares := by
  cases call <;> first | exact ⟨rfl, rfl⟩ | cases h

theorem Guest.writesOptions?_printingCommands :
    ∀ command ∈ printingCommands, writesOptions? command = none := by
  have hothers : ∀ command ∈ printCertificateCommand :: DebugBundle.diagnostics.map (·.2),
      writesOptions? command = none := by
    decide +kernel
  exact List.forall_mem_cons.2 ⟨writesOptions?_printMarkerCommand,
    List.forall_mem_cons.2 ⟨writesOptions?_printOptionsCommand, hothers⟩⟩

theorem Call.spares_commandOutput {command : String} (h : command ∈ Guest.printingCommands)
    (channel : Channel) : (Call.commandOutput command channel).Spares := by
  refine ⟨Guest.writesOptions?_printingCommands command h, ?_⟩
  simp [Call.script?, Calm.runsScript_printingCommands command h]

theorem Call.Looks.spares {call : Call} (h : call.Looks ctx s) : call.Spares := by
  cases h with
  | idle h => exact Call.spares_of_channel? (Call.isIdle_iff.1 h).2.1
  | print _ hcommand => exact Call.spares_commandOutput hcommand _
  | session => exact ⟨rfl, rfl⟩

theorem spares_of_handles {p : Program α} (h : Only (Call.Handles name) p) :
    Only Call.Spares p :=
  h.mono fun _ hcall => Call.spares_of_channel? (Call.channel?_of_handles hcall)

theorem spares_query : Only Call.Spares (ctx.query name).run := by
  refine Provision.only_query ⟨rfl, rfl⟩ ⟨rfl, rfl⟩ ⟨rfl, rfl⟩ ⟨rfl, rfl⟩ ⟨rfl, rfl⟩
    fun channel => ?_
  exact Call.spares_commandOutput (by simp [Guest.printingCommands]) channel

theorem spares_tell (text : String) : Only Call.Spares (tell text).run :=
  only_run_tell _ ⟨rfl, rfl⟩

/-! ## Provisioning -/

namespace Provision

variable {options : ProvisionOptions} {start : StartOptions}

theorem serves_tell (text : String) : (tell text).run.Serves V held :=
  .of_spares (spares_tell text)

theorem serves_script {channel : Channel} (hheld : held options) :
    (Call.execute (Guest.provisionCommand options) channel).Serves V held where
  stores := by simp [Call.StoresOnly]
  script := by
    simp only [Call.script?_provision, Option.some.injEq]
    rintro command rfl
    exact ⟨options, hheld, rfl⟩

theorem serves_storeOptions {channel : Channel} (hservices : V options.services) :
    (Call.execute (Guest.storeOptionsCommand options) channel).Serves V held where
  stores := by
    simp only [Call.StoresOnly, Call.stores?_storeOptions, Option.some.injEq]
    rintro text rfl
    exact ⟨options, rfl, hservices⟩
  script := by simp

/-- The script is run with options that are held. -/
theorem serves_complete {domain : String} (hheld : held options) :
    (complete ctx config options domain).run.Serves V held := by
  refine ⟨Call.Spares.serves ⟨rfl, rfl⟩, fun _ _ => ⟨serves_script hheld, fun reply _ => ?_⟩⟩
  rcases reply with fault | ⟨⟩
  · trivial
  · exact serves_tell _

theorem serves_afterStoring {skip : Bool} (hheld : held options) :
    (afterStoring ctx config options skip).run.Serves V held := by
  have hspares : (Call.execute Guest.installPasswordCommand (ctx.channel config)).Spares :=
    Call.spares_installPassword
  refine ⟨hspares.serves, fun reply _ => ?_⟩
  rw [Guest.heldAfter_of_stores? hspares.1]
  rcases reply with fault | ⟨⟩
  · trivial
  · cases skip with
    | true => exact serves_tell _
    | false => exact serves_complete hheld

/-- What is stored has the services of the start, and the script runs with it. -/
theorem serves_bringUp (hservices : V (start.services.getD ctx.settings.defaultServices)) :
    (bringUp ctx config start).run.Serves V held := by
  refine ⟨Call.Spares.serves ⟨rfl, rfl⟩, fun _ _ => ⟨Call.Spares.serves ⟨rfl, rfl⟩, ?_⟩⟩
  intro reply _
  rcases reply with fault | ⟨⟩
  · trivial
  refine ⟨serves_storeOptions hservices, fun reply _ => ?_⟩
  rcases reply with fault | ⟨⟩
  · trivial
  · have hafter {held : ProvisionOptions → Prop} :
        (afterStoring ctx config (.ofStart config start ctx.settings.defaultServices)
          start.noProvision).run.Serves V (Guest.heldAfter held (storing (ctx.channel config)
            (.ofStart config start ctx.settings.defaultServices))) := by
      rw [Guest.heldAfter_storing]
      exact serves_afterStoring rfl
    exact hafter

theorem serves_resume : (resume ctx config).run.Serves V held := by
  have hspares : (Call.commandOutput Guest.printOptionsCommand (ctx.channel config)).Spares :=
    Call.spares_commandOutput (by simp [Guest.printingCommands]) _
  rw [resume_eq]
  -- how the output is read must stay closed while the program is taken apart
  generalize hread : ProvisionOptions.ofStored = read
  refine ⟨hspares.serves, fun reply hprints => ?_⟩
  rw [Guest.heldAfter_of_stores? hspares.1]
  rcases reply with fault | output
  · trivial
  · show (resumeWith ctx config (read output)).run.Serves V held
    cases hfound : read output with
    | error e => trivial
    | ok found =>
        cases found with
        | none => trivial
        | some options =>
            have hstored : ProvisionOptions.ofStored output = .ok (some options) := by
              rw [hread, hfound]
            exact serves_complete (hprints rfl options hstored)

end Provision

/-! ## Starting a VM -/

theorem serves_startExisting {start : StartOptions} {phase : Phase}
    (hservices : V (start.services.getD ctx.settings.defaultServices)) :
    (Snapshot.startExisting ctx start config phase).run.Serves V held := by
  have hrestore : (Snapshot.restore config).run.Serves V held :=
    .of_spares (spares_of_handles Handles.only_restore)
  cases phase with
  | stopped => exact Provision.serves_bringUp hservices
  | aborted =>
      have hensure : Only Call.Spares (Memory.ensure config.memory).run :=
        spares_of_handles (Handles.only_ensure ctx config.name config.memory)
      exact (Serves.of_spares hensure).run_bind fun _ _ => Provision.serves_bringUp hservices
  | running => exact .of_spares (spares_tell _)
  | suspended => exact hrestore
  | paused => exact hrestore
  | saved => exact hrestore
  | unprovisioned => trivial
  | recoverable => trivial

/-- By induction on the number of imports, as the start is made of them. -/
theorem serves_start {start : StartOptions} (imports : Nat)
    (hservices : V (start.services.getD ctx.settings.defaultServices)) :
    (Snapshot.start ctx start imports s).run.Serves V held := by
  induction imports generalizing s held with
  | zero =>
      cases s with
      | notCreated => trivial
      | existing phase config => exact serves_startExisting hservices
      | invalid => trivial
  | succ imports ih =>
      cases s with
      | notCreated missing =>
          have hcreate : Only Call.Spares (Snapshot.create ctx missing start).run :=
            spares_of_handles (Handles.only_create start)
          refine (Serves.of_spares hcreate).run_bind fun _ _ => ?_
          exact (Serves.of_spares spares_query).run_bind fun _ _ => ih
      | existing phase config => exact serves_startExisting hservices
      | invalid => trivial

/-- For a VM that exists, options pass the check only if they ask for no services. -/
theorem services_of_runs_checkStart {options : StartOptions} {trace : List Exchange}
    (hs : s.stateName ≠ .notCreated)
    (run : Runs (Snapshot.checkStart ctx options s).run trace (some (.ok ()))) :
    options.services = none := by
  have hexisting {config : VmConfig} {needsMemory : Bool}
      (run : Runs (Snapshot.checkExisting config options needsMemory).run trace (some (.ok ()))) :
      options.services = none := by
    obtain ⟨_, _, _, -, hrefuse, -⟩ := runs_run_bind_ok.1 run
    unfold StartOptions.refuseCreationOptions at hrefuse
    split at hrefuse
    · cases (runs_done.1 hrefuse).2
    split at hrefuse
    · cases (runs_done.1 hrefuse).2
    split at hrefuse
    · cases (runs_done.1 hrefuse).2
    · next hservices => simpa using hservices
  cases s with
  | notCreated => exact absurd rfl hs
  | invalid => cases (runs_done.1 run).2
  | existing phase config =>
      cases phase with
      | unprovisioned => cases (runs_done.1 run).2
      | recoverable => cases (runs_done.1 run).2
      | _ => exact hexisting run

/-! ## Sessions in which each start is checked -/

/-- Does what is asked for, but checks the options of a start before it. -/
def Request.applyChecked (ctx : Context) (imports : Nat) (s : Snapshot) : Request → Action Unit
  | .start options => do
    Snapshot.checkStart ctx options s
    Snapshot.start ctx options imports s
  | request => request.apply ctx imports s

namespace Context

def performChecked (ctx : Context) (imports : Nat) (name : String) (request : Request) :
    Action Unit := do
  let snapshot ← ctx.query name
  request.applyChecked ctx imports snapshot

/-- Performs requests in order, each start after a check of its options. -/
def checkedSession (ctx : Context) (imports : Nat) (name : String) :
    List Request → Program (List (Except LifecycleError Unit))
  | [] => return []
  | request :: requests => do
    let outcome ← (ctx.performChecked imports name request).run
    let outcomes ← checkedSession ctx imports name requests
    return outcome :: outcomes

end Context

theorem serves_provision : (s.provision ctx).run.Serves V held := by
  cases s with
  | notCreated => trivial
  | invalid => trivial
  | existing phase config =>
      cases phase with
      | unprovisioned =>
          rw [Provision.provision_unprovisioned]
          exact Provision.serves_resume
      | _ => trivial

/-- Of a request only a start stores options. -/
theorem serves_apply (request : Request) (imports : Nat)
    (hrequest : ∀ options, request ≠ .start options) :
    (request.apply ctx imports s).run.Serves V held := by
  have of_looks {x : Action Unit} (h : Only (Call.Looks ctx s) x.run) : x.run.Serves V held :=
    .of_spares (h.mono fun _ => Call.Looks.spares)
  obtain ⟨name, hs⟩ := s.exists_concerns
  have of_handles {x : Action Unit} (h : Only (Call.Handles name) x.run) :
      x.run.Serves V held :=
    .of_spares (spares_of_handles h)
  cases request with
  | start options => exact absurd rfl (hrequest options)
  | stop => exact of_handles (Handles.only_stop ctx hs)
  | suspend => exact of_handles (Handles.only_suspend hs)
  | resume => exact of_handles (Handles.only_resume hs)
  | destroy => exact of_handles (Handles.only_destroy hs)
  | provision => exact serves_provision
  | trust => exact of_looks Looks.only_trust
  | target => exact of_looks (Looks.only_target s)
  | ssh => exact of_looks Looks.only_ssh
  | debugLogs dir => exact of_looks (Looks.only_debugLogs dir)
  | checkStart options => exact of_looks (Looks.only_checkStart options s)

variable {machines : Machines RunState} {trace : List Exchange}

/-- For a VM that exists, a checked request stores no services but the default ones. -/
theorem serves_applyChecked {request : Request} {imports : Nat}
    {r : Option (Except LifecycleError Unit)} (hs : s.stateName ≠ .notCreated)
    (retains : Guest.Retains held trace)
    (run : Runs (request.applyChecked ctx imports s).run trace r) (stop : Exchange → Prop) :
    ServedUntil stop (· = ctx.settings.defaultServices) held trace := by
  by_cases hrequest : ∃ options, request = .start options
  · obtain ⟨options, rfl⟩ := hrequest
    have hcheck : (Snapshot.checkStart ctx options s).run.Serves
        (· = ctx.settings.defaultServices) held :=
      serves_apply (.checkStart options) imports nofun
    rcases runs_run_bind.1 run with ⟨_, checked, started, rfl, hchecked, hstarted⟩ |
      ⟨e, hchecked, -⟩ | ⟨hchecked, -⟩
    · have hservices : options.services.getD ctx.settings.defaultServices =
          ctx.settings.defaultServices := by
        rw [services_of_runs_checkStart hs hchecked, Option.getD_none]
      obtain ⟨hretains, hretains'⟩ := Guest.retains_append.1 retains
      refine (hcheck.servedUntil hretains hchecked stop).append fun _ => ?_
      exact (serves_start imports hservices).servedUntil hretains' hstarted stop
    · exact hcheck.servedUntil retains hchecked stop
    · exact hcheck.servedUntil retains hchecked stop
  · have happly : request.applyChecked ctx imports s = request.apply ctx imports s := by
      cases request with
      | start options => exact absurd ⟨options, rfl⟩ hrequest
      | _ => rfl
    rw [happly] at run
    have hother : ∀ options, request ≠ .start options := fun options h => hrequest ⟨options, h⟩
    exact (serves_apply request imports hother).servedUntil retains run stop

theorem serves_performChecked {request : Request} {imports : Nat}
    {r : Option (Except LifecycleError Unit)} (hsome : machines name ≠ none)
    (truthful : Truthful machines trace) (retains : Guest.Retains held trace)
    (run : Runs (ctx.performChecked imports name request).run trace r) (stop : Exchange → Prop) :
    ServedUntil stop (· = ctx.settings.defaultServices) held trace := by
  have hquery : (ctx.query name).run.Serves (· = ctx.settings.defaultServices) held :=
    .of_spares spares_query
  rcases runs_run_bind.1 run with ⟨s, asked, called, rfl, hasked, hcalled⟩ |
    ⟨e, hasked, -⟩ | ⟨hasked, -⟩
  · obtain ⟨htrue, -⟩ := truthful_append.1 truthful
    obtain ⟨hretains, hretains'⟩ := Guest.retains_append.1 retains
    obtain ⟨outcome, houtcome, hshows, -⟩ := revealed_of_runs_query htrue hasked
    cases houtcome
    refine (hquery.servedUntil hretains hasked stop).append fun _ => ?_
    refine serves_applyChecked ?_ hretains' hcalled stop
    rcases hshows with ⟨fault, hfault⟩ | ⟨s, hs, hshows⟩
    · cases hfault
    · cases hs
      cases s with
      | notCreated missing => exact absurd hshows.2 hsome
      | existing => exact nofun
      | invalid => exact nofun
  · exact hquery.servedUntil retains hasked stop
  · exact hquery.servedUntil retains hasked stop

/-- By induction on the requests: as long as the VM is not removed, it is found by
each of them, and its services are refused. -/
theorem serves_checkedSession {requests : List Request} {imports : Nat}
    {q : Option (List (Except LifecycleError Unit))} (hsome : machines name ≠ none)
    (truthful : Truthful machines trace) (retains : Guest.Retains held trace)
    (run : Runs (ctx.checkedSession imports name requests) trace q) :
    ServedUntil (· = ⟨.unregister name, .ok ()⟩) (· = ctx.settings.defaultServices) held
      trace := by
  induction requests generalizing machines held trace q with
  | nil =>
      obtain ⟨rfl, -⟩ := runs_done.1 run
      trivial
  | cons request requests ih =>
      rcases runs_bind.1 run with ⟨result, first, later, rfl, hfirst, hlater⟩ | ⟨hfirst, -⟩
      · obtain ⟨htrue, htrue'⟩ := truthful_append.1 truthful
        obtain ⟨hretains, hretains'⟩ := Guest.retains_append.1 retains
        refine (serves_performChecked hsome htrue hretains hfirst _).append fun hkept => ?_
        have hstill := runStates_afterAll_ne_none hsome hkept
        rcases runs_bind.1 hlater with ⟨results, rest, last, rfl, hrest, hlast⟩ | ⟨hrest, -⟩
        · obtain ⟨rfl, -⟩ := runs_done.1 hlast
          rw [List.append_nil] at htrue' hretains' ⊢
          exact ih hstill htrue' hretains' hrest
        · exact ih hstill htrue' hretains' hrest
      · exact serves_performChecked hsome truthful retains hfirst _

/-- A VM is created by a start, and every start after it is checked. Until the VM
is removed, its script runs with the services of the last start that stored its
options. The start that created the VM stored those that it was asked for, and
every later one the default ones; where one failed in storing its options, it
may be either. -/
theorem services_of_script {options : StartOptions} {imports imports' : Nat}
    {creating kept : List Exchange} {r : Option (Except LifecycleError Unit)}
    {requests : List Request} {q : Option (List (Except LifecycleError Unit))}
    (truthful : Truthful machines (creating ++ kept))
    (retains : Guest.Retains (fun _ => False) (creating ++ kept))
    (created : Runs (Snapshot.start ctx options imports (.notCreated name)).run creating r)
    (registered : runStates.afterAll machines creating name ≠ none)
    (run : Runs (ctx.checkedSession imports' name requests) kept q) :
    let asked := options.services.getD ctx.settings.defaultServices
    (∀ before x after command, creating = before ++ x :: after →
      x.call.script? = some command →
      ∃ stored, command = Guest.provisionCommand stored ∧ stored.services = asked) ∧
    ∀ before x after command, kept = before ++ x :: after →
      (∀ y ∈ before, y ≠ ⟨.unregister name, .ok ()⟩) → x.call.script? = some command →
      ∃ stored, command = Guest.provisionCommand stored ∧
        (stored.services = asked ∨ stored.services = ctx.settings.defaultServices) ∧
        ((∀ y ∈ before, y.call.stores? = none) → stored.services = asked) ∧
        ((∃ y ∈ before, y.call.stores? ≠ none ∧ y.fault? = none) →
          stored.services = ctx.settings.defaultServices) := by
  intro asked
  obtain ⟨-, htrue⟩ := truthful_append.1 truthful
  obtain ⟨hretains, hretains'⟩ := Guest.retains_append.1 retains
  have hstart : (Snapshot.start ctx options imports (.notCreated name)).run.Serves (· = asked)
      (fun _ => False) :=
    serves_start imports rfl
  have hcreating := hstart.servedUntil hretains created fun _ => False
  have hkept := serves_checkedSession registered htrue hretains' run
  have hstored (before : List Exchange) (hbefore : ∀ x ∈ before, x.call.StoresOnly (· = asked)) :
      ∀ stored, before.foldl Guest.heldAfter (fun _ => False) stored → stored.services = asked :=
    Guest.services_of_held nofun hbefore
  have hasked : ∀ stored, creating.foldl Guest.heldAfter (fun _ => False) stored →
      stored.services = asked := by
    rw [← List.append_nil creating] at hcreating
    exact hstored creating (hcreating.storesOnly fun _ _ => id)
  refine ⟨?_, ?_⟩
  · rintro before x after command rfl hscript
    have hstores := hcreating.storesOnly fun _ _ => id
    obtain ⟨stored, hheld, rfl⟩ := (hcreating.serves fun _ _ => id).script command hscript
    exact ⟨stored, rfl, hstored before hstores stored hheld⟩
  · rintro before x after command rfl hbefore hscript
    have hstores := hkept.storesOnly hbefore
    obtain ⟨stored, hheld, rfl⟩ := (hkept.serves hbefore).script command hscript
    refine ⟨stored, rfl, Guest.services_of_restored hasked hstores stored hheld, ?_, ?_⟩
    · intro hnone
      rw [Guest.foldl_heldAfter hnone] at hheld
      exact hasked stored hheld
    · rintro ⟨y, hy, hstores', hfault⟩
      exact Guest.services_of_stored hstores hy hstores' hfault stored hheld

end

/-! ### A VM that is created for one service -/

namespace MySqlVm

def ctx : Context := ⟨.defaults ⟨[]⟩, .builtIn⟩

def config : VmConfig := ⟨"pcfdev-v1", ⟨192, 168, 11, 11⟩, "local.pcfdev.io", 2222, 4096, 2⟩

/-- The VM is created for `mysql`, and the script is left for later. -/
def start : StartOptions :=
  { StartOptions.none with services := some "mysql", noProvision := true }

def stored : ProvisionOptions :=
  .ofStart config start ctx.settings.defaultServices

/-- What a query asks of the VM before its run state. -/
def reading : List Exchange :=
  [⟨.isRegistered "pcfdev-v1", .ok true⟩, ⟨.vmAddress "pcfdev-v1", .ok ⟨192, 168, 11, 11⟩⟩,
   ⟨.forwardedPort "pcfdev-v1" "ssh", .ok 2222⟩, ⟨.resources "pcfdev-v1", .ok ⟨4096, 2⟩⟩]

def importing : List Exchange :=
  [⟨.registered, .ok []⟩, ⟨.tell "Importing VM...", ()⟩, ⟨.hostOnlyAdapters, .ok []⟩,
   ⟨.hostInterfaces, .ok []⟩, ⟨.createAdapter ⟨192, 168, 11, 1⟩, .ok "vboxnet0"⟩,
   ⟨.register "pcfdev-v1" (ctx.newImage start), .ok ()⟩,
   ⟨.setResources "pcfdev-v1" (ctx.newResources start), .ok ()⟩,
   ⟨.attachAdapter "vboxnet0" "pcfdev-v1", .ok ()⟩, ⟨.unusedPort, .ok (2222 : UInt16)⟩,
   ⟨.addForwarding "pcfdev-v1" "ssh" 2222 22, .ok ()⟩,
   ⟨.tell "PCF Dev is now imported to Virtualbox.", ()⟩]

/-- The exchanges of the start up to the one that stores the options. -/
def beforeStored : List Exchange :=
  importing ++ reading ++ ⟨.runState "pcfdev-v1", .ok .poweredOff⟩ ::
    Provision.beforeStoring config

def afterStored : List Exchange :=
  [⟨.execute Guest.installPasswordCommand (ctx.channel config), .ok ()⟩,
   ⟨.tell "VM will not be provisioned because '-n' option was supplied.", ()⟩]

def creating : List Exchange :=
  beforeStored ++ Provision.storing (ctx.channel config) stored :: afterStored

theorem runs_creating :
    Runs (Snapshot.start ctx start 1 (.notCreated "pcfdev-v1")).run creating (some (.ok ())) :=
  .ask _ (.ask _ (.note (.ask _ (.ask _ (.note (.note (.ask _ (.note (.ask _ (.ask _ (.ask _
    (.ask _ (.ask _ (.note (.ask _ (.ask _ (.ask _ (.ask _ (.ask _ (.ask _ (.note (.ask _ (.note
    (.ask _ (.ask _ (.ask _ (.note (.ask _ (.done _)))))))))))))))))))))))))))))

theorem truthful_creating : Truthful (fun _ => none) creating :=
  ⟨trivial, trivial, trivial, trivial, trivial, trivial, trivial, trivial, trivial, trivial,
    trivial, rfl, trivial, trivial, trivial, rfl, trivial, trivial, trivial, trivial, trivial,
    trivial⟩

theorem afterAll_creating :
    runStates.afterAll (fun _ => none) creating "pcfdev-v1" = some .running :=
  rfl

/-- The VM is found to run without being provisioned. -/
def askedRunning : List Exchange :=
  reading ++
  [⟨.runState "pcfdev-v1", .ok .running⟩,
   ⟨.commandOutput Guest.printMarkerCommand (ctx.channel config), .ok ""⟩]

theorem runs_askedRunning : Runs (ctx.query "pcfdev-v1").run askedRunning
    (some (.ok (.existing .unprovisioned config))) :=
  .ask _ (.ask _ (.ask _ (.ask _ (.ask _ (.ask _ (.note (.done _)))))))

theorem stores?_askedRunning : ∀ x ∈ askedRunning, x.call.stores? = none :=
  fun _ hx => (spares_query.of_runs runs_askedRunning hx).1

theorem retains_asked : Guest.Retains (fun _ => False) (creating ++ askedRunning) :=
  Guest.retains_of_printsOptions (by decide)

/-- The options that the VM was created with are held when it is found. -/
theorem held_asked :
    (creating ++ askedRunning).foldl Guest.heldAfter (fun _ => False) = (· = stored) := by
  have hafter : ∀ x ∈ afterStored, x.call.stores? = none :=
    List.forall_mem_cons.2 ⟨Guest.writesOptions?_installPasswordCommand,
      List.forall_mem_singleton.2 rfl⟩
  unfold creating
  rw [List.foldl_append, Guest.foldl_heldAfter stores?_askedRunning, List.foldl_append,
    List.foldl_cons, Guest.foldl_heldAfter hafter, Guest.heldAfter_storing]

end MySqlVm

open MySqlVm in
/-- Where the VM is provisioned before any other start, the script is run for the
service that the VM was created for. -/
theorem services_of_provision :
    let provisioning : List Exchange :=
      [⟨.commandOutput Guest.printOptionsCommand (ctx.channel config),
        .ok (Json.encode stored ++ "\n")⟩,
       ⟨.tell "Provisioning VM...", ()⟩,
       ⟨.execute (Guest.provisionCommand stored) (ctx.provisionChannel config), .ok ()⟩,
       ⟨.tell (Guest.welcomeText "local.pcfdev.io"), ()⟩]
    let kept : List Exchange := askedRunning ++ provisioning
    Truthful (fun _ => none) (creating ++ kept) ∧
      Guest.Retains (fun _ => False) (creating ++ kept) ∧
      Runs (ctx.checkedSession 1 "pcfdev-v1" [.provision]) kept (some [.ok ()]) ∧
      ∃ options, Guest.provisionCommand stored = Guest.provisionCommand options ∧
        options.services = "mysql" := by
  intro provisioning kept
  have truthful : Truthful (fun _ => none) (creating ++ kept) := by
    refine truthful_append.2 ⟨truthful_creating, ?_⟩
    exact ⟨rfl, trivial, trivial, trivial, rfl, trivial, trivial, trivial, trivial, trivial,
      trivial⟩
  have retains : Guest.Retains (fun _ => False) (creating ++ kept) := by
    have hsplit : creating ++ kept = (creating ++ askedRunning) ++ provisioning :=
      (List.append_assoc _ _ _).symm
    rw [hsplit]
    refine Guest.retains_append.2 ⟨retains_asked, ?_, ?_⟩
    · intro _ options hread
      rw [Provision.ofStored_stored] at hread
      cases hread
      rw [held_asked]
    · exact Guest.retains_of_printsOptions (by decide)
  have run : Runs (ctx.checkedSession 1 "pcfdev-v1" [.provision]) kept (some [.ok ()]) := by
    have hresume : Runs (Provision.resume ctx config).run provisioning (some (.ok ())) := by
      rw [Provision.runs_resume_cons, Provision.ofStored_stored]
      exact Provision.runs_complete.2 ⟨.ok (), rfl, .succeeded⟩
    have hperform : Runs (ctx.performChecked 1 "pcfdev-v1" .provision).run kept
        (some (.ok ())) :=
      (runs_run_bind_append runs_askedRunning).2 hresume
    rw [← List.append_nil kept]
    exact (runs_bind_append hperform).2 (.done _)
  have registered : runStates.afterAll (fun _ => none) creating "pcfdev-v1" ≠ none := by
    rw [afterAll_creating]
    exact Option.some_ne_none _
  have hscript : (Call.execute (Guest.provisionCommand stored)
      (ctx.provisionChannel config)).script? = some (Guest.provisionCommand stored) := by
    simp [Call.script?, runsScript_provisionCommand]
  let before : List Exchange := askedRunning ++ provisioning.take 2
  have hstays : ∀ x ∈ before, x ≠ ⟨.unregister "pcfdev-v1", .ok ()⟩ := by
    have hmoves : ∀ x ∈ before, x.call.moves = false := by decide
    rintro x hx rfl
    cases hmoves _ hx
  have hnone : ∀ x ∈ before, x.call.stores? = none := by
    intro x hx
    have hprovisioning : ∀ y ∈ provisioning.take 2, y.call.stores? = none :=
      List.forall_mem_cons.2 ⟨Guest.writesOptions?_printOptionsCommand,
        List.forall_mem_singleton.2 rfl⟩
    rcases List.mem_append.1 hx with hx | hx
    · exact stores?_askedRunning x hx
    · exact hprovisioning x hx
  obtain ⟨-, hkept⟩ := services_of_script truthful retains runs_creating registered run
  obtain ⟨options, hcommand, -, hasked, -⟩ := hkept before _ _ _ rfl hstays hscript
  exact ⟨truthful, retains, run, options, hcommand, hasked hnone⟩

open MySqlVm in
/-- Where the VM is stopped and started again with no options at all, the script is
run for the default services. -/
theorem default_services_of_restart :
    let restored : ProvisionOptions :=
      .ofStart config .none ctx.settings.defaultServices
    let kept : List Exchange :=
      askedRunning ++
      [⟨.tell "Stopping VM...", ()⟩, ⟨.powerOff "pcfdev-v1", .ok ()⟩,
       ⟨.tell "PCF Dev is now stopped.", ()⟩] ++
      reading ++
      [⟨.runState "pcfdev-v1", .ok .poweredOff⟩, ⟨.freeMemory, .ok 8192⟩] ++
      Provision.beforeStoring config ++
      [Provision.storing (ctx.channel config) restored,
       ⟨.execute Guest.installPasswordCommand (ctx.channel config), .ok ()⟩,
       ⟨.tell "Provisioning VM...", ()⟩,
       ⟨.execute (Guest.provisionCommand restored) (ctx.provisionChannel config), .ok ()⟩,
       ⟨.tell (Guest.welcomeText "local.pcfdev.io"), ()⟩]
    start.services = some "mysql" ∧
      Runs (Snapshot.start ctx start 1 (.notCreated "pcfdev-v1")).run creating
        (some (.ok ())) ∧
      runStates.afterAll (fun _ => none) creating "pcfdev-v1" = some .running ∧
      Runs (ctx.checkedSession 1 "pcfdev-v1" [.stop, .start .none]) kept
        (some [.ok (), .ok ()]) ∧
      Truthful (fun _ => none) (creating ++ kept) ∧
      Guest.Retains (fun _ => False) (creating ++ kept) ∧
      (∀ x ∈ kept, x ≠ ⟨.unregister "pcfdev-v1", .ok ()⟩) ∧
      ∃ x ∈ kept, x.call.script? = some (Guest.provisionCommand restored) ∧
        ∀ options : ProvisionOptions, options.services = "mysql" →
          Guest.provisionCommand restored ≠ Guest.provisionCommand options := by
  intro restored kept
  have run : Runs (ctx.checkedSession 1 "pcfdev-v1" [.stop, .start .none]) kept
      (some [.ok (), .ok ()]) :=
    .ask _ (.ask _ (.ask _ (.ask _ (.ask _ (.ask _ (.note (.ask _ (.note (.ask _ (.ask _
      (.ask _ (.ask _ (.ask _ (.ask _ (.ask _ (.note (.ask _ (.ask _ (.note (.ask _ (.ask _
        (.ask _ (.note (.ask _ (.note (.ask _ (.note (.ask _ (.done _)))))))))))))))))))))))))))))
  have truthful : Truthful (fun _ => none) (creating ++ kept) := by
    refine truthful_append.2 ⟨truthful_creating, ?_⟩
    exact ⟨rfl, trivial, trivial, trivial, rfl, trivial, trivial, trivial, trivial, rfl, trivial,
      trivial, trivial, rfl, trivial, trivial, trivial, trivial, trivial, trivial, trivial,
      trivial, trivial⟩
  have hcommand (options : ProvisionOptions) (hservices : options.services = "mysql") :
      Guest.provisionCommand restored ≠ Guest.provisionCommand options := by
    have hwritten : 'q' ∈ (Guest.provisionCommand options).toList := by
      have hq : 'q' ∈ options.services.toList := by
        rw [hservices]
        decide
      unfold Guest.provisionCommand
      simp only [String.toList_append, List.mem_append, hq, or_true, true_or]
    intro heq
    rw [← heq] at hwritten
    revert hwritten
    decide
  refine ⟨rfl, runs_creating, afterAll_creating, run, truthful, ?_, ?_, ?_⟩
  · exact Guest.retains_of_printsOptions (by decide)
  · have hnot : ∀ x ∈ kept, x.call ≠ .unregister "pcfdev-v1" := by decide
    rintro x hx rfl
    exact hnot _ hx rfl
  · refine ⟨⟨.execute (Guest.provisionCommand restored) (ctx.provisionChannel config), .ok ()⟩,
      ?_, ?_, hcommand⟩
    · simp [kept]
    · simp [Call.script?, runsScript_provisionCommand]

end VmLifecycle
