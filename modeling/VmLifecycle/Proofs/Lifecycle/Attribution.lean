import VmLifecycle.Proofs.Effect.Orderly
import VmLifecycle.Proofs.Lifecycle.Courses

/-!
# Failures of an operation and what they are reported as

An operation stops at the first call that fails, and the error it ends in says
which step that was. Only a command that collects diagnostics may fail without
an end to the operation, and only the setup of a new VM is followed by one more
call, the removal of that VM.

What a failure is reported as is told by the request and the call alone. So each
operation is shown to be orderly by going through its calls.
-/

namespace VmLifecycle

open Program

/-- Whether a command is one of those that collect diagnostics. -/
def DebugBundle.isDiagnostic (command : String) : Bool :=
  diagnostics.any (·.2 = command)

/-- The error of an exchange that is reported as it is. -/
def Exchange.ownError? : Exchange → Option LifecycleError
  | ⟨.storeCertificate _, .error e⟩ => some e
  | ⟨.logIn _ _ _ _, .error e⟩ => some e
  | ⟨.createDirectory _, .error e⟩ => some (.io e)
  | ⟨.writeFile _ _, .error e⟩ => some (.io e)
  | _ => none

/-- Whether the call of an exchange failed. -/
def Exchange.fails (x : Exchange) : Bool :=
  x.fault?.isSome || x.ownError?.isSome

/-- The VM that has to be created before it can be started. -/
def Snapshot.missing? : Snapshot → Option String
  | .notCreated name => some name
  | _ => none

/-- Whether a call reads a VM or its guest. -/
def Call.reads : Call → Bool
  | .commandOutput _ _ => true
  | call => call.inquires

namespace Request

/-- What a request reports if a call meets a fault. The calls by which a VM is
found are made by a start only, after an import. -/
def report? (request : Request) (fault : Fault) : Call → Option LifecycleError
  | .powerOn _ => some (.failed .start fault)
  | .powerOff _ =>
    match request with
    | .destroy => some (.failed .destroy fault)
    | _ => some (.failed .stop fault)
  | .suspend _ => some (.failed .suspend fault)
  | .resume _ => some (.failed .resume fault)
  | .unregister _ => some (.failed .destroy fault)
  | .hostOnlyAdapters => some (.failed .register fault)
  | .hostInterfaces => some (.failed .register fault)
  | .probe _ => some (.failed .register fault)
  | .unusedPort => some (.failed .register fault)
  | .createAdapter _ => some (.failed .register fault)
  | .register _ _ => some (.failed .register fault)
  | .setResources _ _ => some (.failed .register fault)
  | .attachAdapter _ _ => some (.failed .register fault)
  | .addForwarding _ _ _ _ => some (.failed .register fault)
  | .execute _ _ => some (.failed .provision fault)
  | .commandOutput command _ =>
    match request with
    | .start _ => some .recoverable
    | .provision => some (.failed .provision fault)
    | .debugLogs _ => if DebugBundle.isDiagnostic command then none else some (.vm fault)
    | _ => some (.vm fault)
  | .vmAddress _ => ofReading fault
  | .forwardedPort _ _ => ofReading fault
  | .resources _ => ofReading fault
  | .runState _ => ofReading fault
  | _ => some (.vm fault)
where
  ofReading (fault : Fault) : Option LifecycleError :=
    match request with
    | .start _ => some (.unusable fault.message)
    | _ => some (.vm fault)

/-- The error that a request ends in if this is its first failure, and if that
counts. -/
def error? (request : Request) (x : Exchange) : Option LifecycleError :=
  x.ownError?.or (x.fault?.bind fun fault => request.report? fault x.call)

/-- A failure of this call does not count. -/
def Tolerates (request : Request) (call : Call) : Prop :=
  ∃ dir command channel, request = .debugLogs dir ∧ call = .commandOutput command channel ∧
    DebugBundle.isDiagnostic command = true

variable {request : Request} {x : Exchange}

theorem fails_of_error? {e : LifecycleError} (h : request.error? x = some e) :
    x.fails = true := by
  unfold error? at h
  unfold Exchange.fails
  rcases Option.or_eq_some_iff.1 h with hown | ⟨-, hreport⟩
  · simp [hown]
  · obtain ⟨fault, hfault, -⟩ := Option.bind_eq_some_iff.1 hreport
    simp [hfault]

theorem tolerates_of_report? {fault : Fault} {call : Call}
    (h : request.report? fault call = none) : request.Tolerates call := by
  cases call with
  | commandOutput command channel =>
      cases request with
      | debugLogs dir =>
          refine ⟨dir, command, channel, rfl, rfl, ?_⟩
          simpa [report?] using h
      | _ => cases h
  | _ => cases request <;> cases h

/-- A failure that is reported as no error does not count. -/
theorem tolerates_of_error? (h : request.error? x = none) (hx : x.fails = true) :
    request.Tolerates x.call := by
  obtain ⟨hown, hreport⟩ := Option.or_eq_none_iff.1 h
  cases hfault : x.fault? with
  | none => simp [Exchange.fails, hown, hfault] at hx
  | some fault =>
      rw [hfault] at hreport
      exact tolerates_of_report? hreport

theorem error?_eq_none_iff : request.error? x = none ↔
    (x.fails = true → request.Tolerates x.call) := by
  constructor
  · exact tolerates_of_error?
  · intro h
    by_cases hx : x.fails = true
    · obtain ⟨dir, command, channel, rfl, hcall, hdiagnostic⟩ := h hx
      obtain ⟨call, reply⟩ := x
      obtain rfl : call = .commandOutput command channel := hcall
      rcases reply with fault | output
      · exact if_pos hdiagnostic
      · rfl
    · cases he : request.error? x with
      | none => rfl
      | some e => exact absurd (fails_of_error? he) hx

/-! ## The parts of operations -/

variable {vm : Option String} {loose : Prop} {ctx : Context} {config : VmConfig} {s : Snapshot}

theorem orderly_tell (text : String) : Orderly request.error? vm loose (tell text).run :=
  orderly_run_lift fun _ => rfl

theorem orderly_ensure (required : UInt64) :
    Orderly request.error? vm loose (Memory.ensure required).run := by
  have hfree : Orderly request.error? vm loose
      (Attempt.asAction (Program.call .freeMemory).outcome).run :=
    orderly_call nofun (by rintro (_ | _) <;> rfl)
  refine orderly_run_bind hfree fun free => ?_
  split
  · exact orderly_run_pure ()
  · have hconsent : Orderly request.error? vm loose
        (liftM (Program.call (.consent (Memory.question required))) : Action Bool).run :=
      orderly_run_lift fun _ => rfl
    refine orderly_run_bind (orderly_run_log _) fun _ => ?_
    refine orderly_run_bind hconsent fun agreed => ?_
    split
    · exact orderly_run_pure ()
    · exact orderly_run_throw _

theorem orderly_checkExisting (start : StartOptions) (needsMemory : Bool) :
    Orderly request.error? vm loose (Snapshot.checkExisting config start needsMemory).run := by
  refine orderly_run_bind (orderly_run_except _) fun _ => ?_
  split
  · exact orderly_ensure _
  · exact orderly_run_pure ()

theorem orderly_checkStart (start : StartOptions) (s : Snapshot) :
    Orderly request.error? vm loose (Snapshot.checkStart ctx start s).run := by
  cases s with
  | notCreated =>
      refine orderly_run_bind (orderly_run_except _) fun _ => ?_
      dsimp only
      split
      · exact orderly_run_throw _
      · exact orderly_run_bind (orderly_run_except _) fun _ => orderly_ensure _
  | existing phase config => cases phase <;> first | exact orderly_checkExisting _ _ | trivial
  | invalid => exact orderly_run_throw _

theorem orderly_refuseConflict (name : String) :
    Orderly request.error? vm loose (Snapshot.refuseConflict name).run := by
  have hpresent : Orderly request.error? vm loose (Hypervisor.conflictPresent name).asAction.run := by
    refine (failStop_conflictPresent name).orderly ?_
    refine Looks.only_conflictPresent ?_ (fun other => ?_) name
    all_goals exact ⟨by rintro (_ | _) <;> rfl, nofun⟩
  refine orderly_run_bind hpresent fun conflict => ?_
  split
  · exact orderly_run_throw _
  · exact orderly_run_pure ()

/-- A step of one call, of which the user is told. -/
theorem orderly_announced {before after : String} {step : Step} {a : Attempt Unit}
    (ha : Orderly request.error? vm loose (a.during step).run) :
    Orderly request.error? vm loose (do tell before; a.during step; tell after : Action Unit).run := by
  refine orderly_run_bind (orderly_tell before) fun _ => ?_
  exact orderly_run_bind ha fun _ => orderly_tell after

/-! ## Starting and provisioning -/

theorem orderly_execute {command : String} {channel : Channel} :
    Orderly request.error? vm loose ((Provision.execute command channel).during .provision).run :=
  orderly_call nofun (by rintro (_ | _) <;> rfl)

theorem orderly_provisionGuest (options : ProvisionOptions) :
    Orderly request.error? vm loose
      ((Provision.provisionGuest ctx config options).during .provision).run := by
  unfold Provision.provisionGuest Attempt.during
  rw [adapt_bind, adapt_bind]
  refine orderly_run_bind (orderly_run_log _) fun _ => ?_
  exact orderly_run_bind orderly_execute fun _ => orderly_run_log _

theorem orderly_prepare (options : ProvisionOptions) :
    Orderly request.error? vm loose
      ((Provision.prepare ctx config options).during .provision).run := by
  unfold Provision.prepare Attempt.during
  rw [adapt_bind, adapt_bind]
  refine orderly_run_bind orderly_execute fun _ => ?_
  exact orderly_run_bind orderly_execute fun _ => orderly_run_log _

theorem orderly_bringUp (start : StartOptions) :
    Orderly request.error? vm loose (Provision.bringUp ctx config start).run := by
  have hpower : Orderly request.error? vm loose ((Hypervisor.powerOn config).during .start).run :=
    orderly_call nofun (by rintro (_ | _) <;> rfl)
  refine orderly_run_bind (orderly_tell _) fun _ => ?_
  refine orderly_run_bind hpower fun _ => ?_
  refine orderly_run_bind (orderly_prepare _) fun _ => ?_
  split
  · exact orderly_tell _
  · exact orderly_announced (orderly_provisionGuest _)

theorem orderly_restore : Orderly request.error? vm loose (Snapshot.restore config).run :=
  orderly_announced (orderly_call nofun (by rintro (_ | _) <;> rfl))

theorem orderly_startExisting (start : StartOptions) (phase : Phase) :
    Orderly request.error? vm loose (Snapshot.startExisting ctx start config phase).run := by
  cases phase with
  | stopped => exact orderly_bringUp start
  | running => exact orderly_tell _
  | suspended => exact orderly_restore
  | paused => exact orderly_restore
  | saved => exact orderly_restore
  | aborted => exact orderly_run_bind (orderly_ensure _) fun _ => orderly_bringUp start
  | unprovisioned => exact orderly_run_throw _
  | recoverable => exact orderly_run_throw _

/-! ## Importing -/

theorem orderly_reserve {table : AddressTable} {name : String} {requested : Option Ipv4} :
    Orderly request.error? vm loose
      ((Hypervisor.reserve table name requested).during .register).run := by
  refine Hypervisor.failStop_reserve.orderly ?_
  refine Hypervisor.only_reserve ?_ ?_ (fun _ => ?_) fun _ => ?_
  all_goals exact ⟨by rintro (_ | _) <;> rfl, nofun⟩

theorem cleansUp_abandon {name : String} {fault : Fault} :
    CleansUp name (LifecycleError.failed .register fault)
      ((Hypervisor.abandon name fault : Attempt Unit).during .register).run := by
  refine ⟨rfl, fun reply => ?_⟩
  rcases reply with other | ⟨⟩ <;> rfl

theorem orderly_install {name image : String} {spec : Hypervisor.NewVm}
    {found : Selection × String} :
    Orderly request.error? (some name) loose
      ((Hypervisor.install name image spec found).during .register).run := by
  have hregister : Orderly request.error? (some name) loose
      (Attempt.during .register (Program.call (.register name image)).outcome).run :=
    orderly_call nofun (by rintro (_ | _) <;> rfl)
  unfold Hypervisor.install Attempt.during
  rw [adapt_bind]
  refine orderly_run_bind hregister fun _ => ?_
  rw [run_adapt, run_bind, run_caught, bind_assoc, bind_assoc]
  refine Hypervisor.failStop_setUp.orderly_bind (g := .failed .register) ?_
    (fun port => trivial) nofun
  refine Hypervisor.only_setUp.mono fun call hcall => ⟨?_, fun fault => ?_⟩
  · cases hcall <;> rintro (_ | _) <;> rfl
  · have hcleanup : CleansUp name (LifecycleError.failed .register fault)
        ((Hypervisor.abandon name fault : Attempt Unit).during .register).run :=
      cleansUp_abandon
    exact concludes_of_cleansUp hcall hcleanup

theorem orderly_register {table : AddressTable} {name image : String}
    {spec : Hypervisor.NewVm} :
    Orderly request.error? (some name) loose
      ((Hypervisor.register table name image spec).during .register).run := by
  obtain ⟨event, heq⟩ := Hypervisor.exists_run_register_eq table name image spec
  have hparts : Orderly request.error? (some name) loose ((Hypervisor.reserve table name spec.subnet >>=
      Hypervisor.install name image spec).during .register).run := by
    unfold Attempt.during
    rw [adapt_bind]
    exact orderly_run_bind orderly_reserve fun _ => orderly_install
  rw [run_during] at hparts ⊢
  rw [heq]
  exact hparts

theorem orderly_create (name : String) (start : StartOptions) :
    Orderly request.error? (some name) loose (Snapshot.create ctx name start).run := by
  refine orderly_run_bind (orderly_refuseConflict name) fun _ => ?_
  refine orderly_run_bind (orderly_run_except _) fun subnet => ?_
  exact orderly_announced orderly_register

/-! ## The query after an import -/

theorem only_configuration {P : Call → Prop} {table : AddressTable} {name : String}
    (haddress : P (.vmAddress name)) (hport : P (.forwardedPort name Guest.sshRule))
    (hresources : P (.resources name)) : Only P (Hypervisor.configuration table name).run := by
  refine only_run_bind (only_call haddress) fun ip => ?_
  refine only_run_bind (only_call hport) fun port => ?_
  exact only_run_bind (only_call hresources) fun resources => only_run_pure _

theorem failStop_configuration (table : AddressTable) (name : String) :
    FailStop (fun _ => False) (Hypervisor.configuration table name).run := by
  refine failStop_run_bind (failStop_call (by rintro (_ | _) <;> rfl)) fun ip => ?_
  refine failStop_run_bind (failStop_call (by rintro (_ | _) <;> rfl)) fun port => ?_
  exact failStop_run_bind (failStop_call (by rintro (_ | _) <;> rfl)) fun resources => trivial

/-- What an inspection cannot read is what the action ends in that follows it. -/
theorem orderly_inspect_bind (ctx : Context) (name : String) {options : StartOptions}
    {f : Snapshot → Program (Except LifecycleError Unit)}
    (h : ∀ s, s.missing? = none → Orderly (Request.start options).error? vm loose (f s))
    (hinvalid : ∀ reason, Stops (.unusable reason) (f (.invalid reason)))
    (hrecoverable : ∀ config, Stops .recoverable (f (.existing .recoverable config))) :
    Orderly (Request.start options).error? vm loose ((ctx.inspect name).bind f) := by
  unfold Context.inspect
  rw [bind_eq, bind_assoc]
  refine (failStop_configuration ctx.table name).orderly_bind
    (g := fun fault => .unusable fault.message) ?_ (fun config => ?_) nofun
  · refine only_configuration ?_ ?_ ?_
    all_goals exact ⟨by rintro (_ | _) <;> rfl,
      fun fault => concludes_of_stops nofun (hinvalid fault.message)⟩
  refine orderly_ask.2 fun reply => ?_
  rcases reply with fault | state
  · refine ⟨nofun, fun e he => ?_⟩
    cases he
    exact concludes_of_stops nofun (hinvalid fault.message)
  refine ⟨fun _ => ?_, nofun⟩
  cases state with
  | running =>
      refine orderly_ask.2 fun reply => ?_
      rcases reply with fault | output
      · refine ⟨nofun, fun e he => ?_⟩
        cases he
        exact concludes_of_stops nofun (hrecoverable config)
      · exact ⟨fun _ => h _ rfl, nofun⟩
  | _ => exact h _ rfl

theorem orderly_query_bind {options : StartOptions} {name : String}
    {f : Snapshot → Action Unit}
    (h : ∀ s, (∀ missing, s.missing? = some missing → missing = name) →
      Orderly (Request.start options).error? vm loose (f s).run)
    (hinvalid : ∀ reason, Stops (.unusable reason) (f (.invalid reason)).run)
    (hrecoverable : ∀ config, Stops .recoverable (f (.existing .recoverable config)).run) :
    Orderly (Request.start options).error? vm loose (ctx.query name >>= f).run := by
  refine orderly_ask.2 fun reply => ?_
  rcases reply with fault | registered
  · refine ⟨nofun, fun e he => concludes_of_stops nofun ?_⟩
    cases he
    rfl
  refine ⟨fun _ => ?_, nofun⟩
  cases registered with
  | false => exact h (.notCreated name) fun missing hmissing => (Option.some.inj hmissing).symm
  | true =>
      have hquery : (ctx.inspect name).bind (fun s => (f s).run) =
          ((ctx.inspect name).bind fun s => .done (.ok s)).bind (ExceptT.bindCont f) := by
        rw [bind_assoc]
        rfl
      have hfound : ∀ s : Snapshot, s.missing? = none →
          Orderly (Request.start options).error? vm loose (f s).run := by
        intro s hs
        refine h s fun missing hmissing => ?_
        rw [hs] at hmissing
        cases hmissing
      have hinspect := orderly_inspect_bind ctx name hfound hinvalid hrecoverable
      rw [hquery] at hinspect
      exact hinspect

/-! ## Requests -/

/-- A start may import again and again, so it may give up. -/
theorem orderly_start (options : StartOptions) (imports : Nat) (s : Snapshot)
    (hs : ∀ name, s.missing? = some name → vm = some name) :
    Orderly (Request.start options).error? vm True
      (Snapshot.start ctx options imports s).run := by
  induction imports generalizing s with
  | zero =>
      cases s with
      | notCreated => trivial
      | existing phase config => exact orderly_startExisting options phase
      | invalid => exact orderly_run_throw _
  | succ imports ih =>
      cases s with
      | notCreated name =>
          obtain rfl : vm = some name := hs name rfl
          refine orderly_run_bind (orderly_create name options) fun _ => ?_
          apply orderly_query_bind fun s hmissing => ih s fun other hother =>
            congrArg some (hmissing other hother).symm
          · intro reason
            cases imports <;> rfl
          · intro config
            cases imports <;> rfl
      | existing phase config => exact orderly_startExisting options phase
      | invalid => exact orderly_run_throw _

theorem orderly_stop : Orderly Request.stop.error? vm loose s.stop.run := by
  cases s with
  | notCreated name =>
      exact orderly_run_bind (orderly_refuseConflict name) fun _ => orderly_tell _
  | existing phase config =>
      have hoff : Orderly Request.stop.error? vm loose (Snapshot.powerOff config).run :=
        orderly_announced (orderly_call nofun (by rintro (_ | _) <;> rfl))
      cases phase <;> first | exact hoff | exact orderly_tell _ | trivial
  | invalid => exact orderly_run_throw _

theorem orderly_suspend : Orderly Request.suspend.error? vm loose s.suspend.run := by
  cases s with
  | notCreated => exact orderly_run_throw _
  | existing phase config =>
      cases phase with
      | running => exact orderly_announced (orderly_call nofun (by rintro (_ | _) <;> rfl))
      | _ => first | exact orderly_tell _ | exact orderly_run_throw _
  | invalid => exact orderly_run_throw _

theorem orderly_resume : Orderly Request.resume.error? vm loose s.resume.run := by
  cases s with
  | notCreated => exact orderly_run_throw _
  | existing phase config =>
      cases phase <;> first | exact orderly_restore | exact orderly_tell _ | trivial
  | invalid => exact orderly_run_throw _

theorem orderly_destroy : Orderly Request.destroy.error? vm loose s.destroy.run := by
  have hunregister {config : VmConfig} : Orderly Request.destroy.error? vm loose
      ((Hypervisor.unregister config).during .destroy).run :=
    orderly_call nofun (by rintro (_ | _) <;> rfl)
  cases s with
  | notCreated => exact orderly_tell _
  | existing phase config =>
      cases phase with
      | running =>
          have hoff : Orderly Request.destroy.error? vm loose
              ((Hypervisor.powerOff config).during .destroy).run :=
            orderly_call nofun (by rintro (_ | _) <;> rfl)
          refine orderly_run_bind (orderly_tell _) fun _ => ?_
          refine orderly_run_bind hoff fun _ => ?_
          exact orderly_run_bind hunregister fun _ => orderly_tell _
      | _ => first | exact orderly_announced hunregister | exact orderly_run_throw _
  | invalid => exact orderly_run_throw _

theorem orderly_provision : Orderly Request.provision.error? vm loose (s.provision ctx).run := by
  cases s with
  | notCreated => exact orderly_run_throw _
  | existing phase config =>
      cases phase with
      | unprovisioned =>
          have hprint : Orderly Request.provision.error? vm loose (Attempt.during .provision
              (Program.call (.commandOutput Guest.printOptionsCommand
                (ctx.channel config))).outcome).run :=
            orderly_call nofun (by rintro (_ | _) <;> rfl)
          refine orderly_run_bind hprint fun output => ?_
          split
          · exact orderly_run_throw _
          · exact orderly_run_throw _
          · exact orderly_announced (orderly_provisionGuest _)
      | _ => exact orderly_run_throw _
  | invalid => exact orderly_run_throw _

theorem orderly_trust : Orderly Request.trust.error? vm loose (s.trust ctx).run := by
  cases s with
  | notCreated => exact orderly_tell _
  | existing phase config =>
      cases phase with
      | running =>
          have hprint : Orderly Request.trust.error? vm loose (Attempt.asAction (Program.call
              (.commandOutput Guest.printCertificateCommand (ctx.channel config))).outcome).run :=
            orderly_call nofun (by rintro (_ | _) <;> rfl)
          refine orderly_run_bind hprint fun pem => ?_
          have hstore : Orderly Request.trust.error? vm loose
              (Program.call (.storeCertificate pem)).outcome.run :=
            orderly_call nofun (by rintro (_ | _) <;> rfl)
          refine orderly_run_bind hstore fun _ => ?_
          exact orderly_run_bind (orderly_run_log _) fun _ => orderly_tell _
      | _ => exact orderly_tell _
  | invalid => exact orderly_run_throw _

theorem orderly_target : Orderly Request.target.error? vm loose s.target.run := by
  cases s with
  | notCreated => exact orderly_tell _
  | existing phase config =>
      cases phase with
      | running =>
          refine orderly_run_bind (orderly_call nofun ?_) fun _ => orderly_tell _
          rintro (_ | _) <;> rfl
      | _ => exact orderly_tell _
  | invalid => exact orderly_run_throw _

theorem orderly_ssh : Orderly Request.ssh.error? vm loose (s.ssh ctx).run := by
  cases s with
  | notCreated => exact orderly_tell _
  | existing phase config =>
      have hsession : Orderly Request.ssh.error? vm loose (Snapshot.openSession ctx config).run :=
        orderly_call nofun (by rintro (_ | _) <;> rfl)
      cases phase <;> first | exact hsession | exact orderly_tell _
  | invalid => exact orderly_run_throw _

theorem orderly_writeFile (path content : String) :
    Orderly request.error? vm loose (DebugBundle.writeFile path content).run :=
  orderly_call nofun (by rintro (_ | _) <;> rfl)

theorem orderly_writeOutputs (dir target : String) (files : List (String × String))
    (h : ∀ f ∈ files, DebugBundle.isDiagnostic f.2 = true) :
    Orderly (Request.debugLogs dir).error? vm loose
      (DebugBundle.writeOutputs ctx config target files).run := by
  induction files with
  | nil => exact orderly_run_pure ()
  | cons file files ih =>
      have hcommand : DebugBundle.isDiagnostic file.2 = true := h file (by simp)
      have hprint : Orderly (Request.debugLogs dir).error? vm loose
          (liftM (Program.call (.commandOutput file.2 (ctx.channel config))) :
            Action (Except Fault String)).run := by
        refine orderly_run_lift fun reply => ?_
        rcases reply with fault | output
        · exact if_pos hcommand
        · rfl
      refine orderly_run_bind ?_ fun _ => ih fun f hf => h f (by simp [hf])
      refine orderly_run_bind hprint fun reply => ?_
      split
      · exact orderly_writeFile _ _
      · exact orderly_run_bind (orderly_run_log _) fun _ => orderly_writeFile _ _

theorem orderly_gather (dir place : String) (includeGuest : Bool) :
    Orderly (Request.debugLogs dir).error? vm loose
      (DebugBundle.gather ctx config place includeGuest).run := by
  have hdiagnostics : ∀ f ∈ DebugBundle.diagnostics, DebugBundle.isDiagnostic f.2 = true := by
    intro f hf
    exact List.any_eq_true.2 ⟨f, hf, by simp⟩
  refine orderly_run_bind (orderly_run_lift fun _ => rfl) fun stamp => ?_
  refine orderly_run_bind (orderly_call nofun (by rintro (_ | _) <;> rfl)) fun _ => ?_
  refine orderly_run_bind (orderly_call nofun (by rintro (_ | _) <;> rfl)) fun info => ?_
  refine orderly_run_bind (orderly_writeFile _ _) fun _ => ?_
  split
  · refine orderly_run_bind (orderly_writeOutputs _ _ _ hdiagnostics) fun _ => ?_
    exact orderly_run_bind (orderly_run_log _) fun _ => orderly_tell _
  · exact orderly_run_bind (orderly_run_log _) fun _ => orderly_tell _

theorem orderly_debugLogs (dir : String) :
    Orderly (Request.debugLogs dir).error? vm loose (s.debugLogs ctx dir).run := by
  cases s with
  | notCreated => exact orderly_tell _
  | existing phase config =>
      cases phase <;> first | exact orderly_gather dir dir _ | exact orderly_tell _
  | invalid => exact orderly_run_throw _

theorem orderly_apply (request : Request) (imports : Nat) (s : Snapshot) :
    Orderly request.error? s.missing? True (request.apply ctx imports s).run := by
  cases request with
  | start options => exact orderly_start options imports s fun _ => id
  | stop => exact orderly_stop
  | suspend => exact orderly_suspend
  | resume => exact orderly_resume
  | destroy => exact orderly_destroy
  | provision => exact orderly_provision
  | trust => exact orderly_trust
  | target => exact orderly_target
  | ssh => exact orderly_ssh
  | debugLogs dir => exact orderly_debugLogs dir
  | checkStart options => exact orderly_checkStart options s

/-! ## What is read is read after an import -/

theorem reads_of_handles {call : Call} {name : String} (h : call.Handles name) :
    call.reads = false := by
  have hchannel := Call.channel?_of_handles h
  have hinquires := Call.inquires_of_handles h
  cases call <;> first | exact hinquires | cases hchannel

theorem reads_of_bringsUp {call : Call} (h : call.BringsUp ctx config) : call.reads = false := by
  cases h with
  | handle h => exact reads_of_handles h
  | command => rfl
  | script => rfl

/-- A start that reads has registered the VM before. -/
theorem registers_of_reads {options : StartOptions} {imports : Nat} {before after : List Exchange}
    {r : Option (Except LifecycleError Unit)}
    (run : Runs (Snapshot.start ctx options imports s).run (before ++ x :: after) r)
    (hx : x.call.reads = true) : ∃ name image, ⟨.register name image, .ok ()⟩ ∈ before := by
  have hnot {α : Type} {p : Program α} {trace : List Exchange} {q : Option α}
      (hp : Only (·.reads = false) p) (run : Runs p trace q) : x ∉ trace := by
    intro hmem
    have hreads : x.call.reads = false := hp.of_runs run hmem
    rw [hx] at hreads
    cases hreads
  have hmem : x ∈ before ++ x :: after := by simp
  cases s with
  | existing phase config =>
      have hexisting : Only (·.reads = false)
          (Snapshot.startExisting ctx options config phase).run :=
        (BringsUp.only_startExisting options phase).mono fun _ => reads_of_bringsUp
      cases imports <;> exact absurd hmem (hnot hexisting run)
  | invalid => cases imports <;> exact absurd hmem (hnot (only_run_throw _) run)
  | notCreated name =>
      cases imports with
      | zero =>
          rw [(runs_unsettled.1 run).1] at hmem
          cases hmem
      | succ imports =>
          have hcreate : Only (·.reads = false) (Snapshot.create ctx name options).run :=
            (Handles.only_create options).mono fun _ => reads_of_handles
          obtain ⟨_, first, middle, rfl, hfirst, -⟩ := split_of_runs_run_bind (hnot hcreate) run
          obtain ⟨result, hresult, hcreated⟩ := created_of_runs hfirst
          cases hresult
          cases hcreated with
          | created hlooking hcourse =>
              cases hcourse with
              | completed => exact ⟨name, ctx.newImage options, by simp⟩

end Request

/-! ## Any request -/

/-- A run of a request whose first failure that counts is that of `x`. -/
structure StopsAt (s : Snapshot) (request : Request) (before : List Exchange) (x : Exchange)
    (after : List Exchange) (r : Option (Except LifecycleError Unit)) : Prop where
  reported : ∃ e, request.error? x = some e ∧ r = some (.error e)
  /-- Nothing follows, unless the VM was being set up: then it is removed, and what
  becomes of that does not matter. -/
  last : Concluded s.missing? x.call after
  /-- A start reads a VM or its guest only after it has registered the VM. -/
  reading : ∀ options, request = .start options → x.call.reads = true →
    ∃ name image, ⟨.register name image, .ok ()⟩ ∈ before

/-- There is one way to split a list at the first element with a property. -/
theorem first_split_unique {α : Type} {P : α → Prop} {before before' after after' : List α}
    {x x' : α} (h : before ++ x :: after = before' ++ x' :: after')
    (hbefore : ∀ y ∈ before, ¬ P y) (hx : P x) (hbefore' : ∀ y ∈ before', ¬ P y) (hx' : P x') :
    before = before' ∧ x = x' ∧ after = after' := by
  induction before generalizing before' with
  | nil =>
      cases before' with
      | nil => simpa using h
      | cons y before' =>
          obtain ⟨rfl, -⟩ := List.cons.inj h
          exact absurd hx (hbefore' x (by simp))
  | cons y before ih =>
      cases before' with
      | nil =>
          obtain ⟨rfl, -⟩ := List.cons.inj h
          exact absurd hx' (hbefore y (by simp))
      | cons y' before' =>
          obtain ⟨rfl, hrest⟩ := List.cons.inj h
          obtain ⟨rfl, rfl, rfl⟩ := ih hrest (fun z hz => hbefore z (by simp [hz]))
            fun z hz => hbefore' z (by simp [hz])
          exact ⟨rfl, rfl, rfl⟩

/-- If a request succeeds, no call of it failed but commands that collect
diagnostics. If another call failed, the first one that did is the last call, but
for the removal of a VM that was being set up, and the error of the request is
what this failure is reported as. This holds of every VM as it was found and of
all answers. -/
theorem stops_at_first_failure {ctx : Context} {imports : Nat} {s : Snapshot} {request : Request}
    {trace : List Exchange} {r : Option (Except LifecycleError Unit)}
    (run : Runs (request.apply ctx imports s).run trace r) :
    (r = some (.ok ()) → ∀ x ∈ trace, x.fails = true → request.Tolerates x.call) ∧
    ∀ before x after, trace = before ++ x :: after →
      (∀ y ∈ before, y.fails = true → request.Tolerates y.call) →
      x.fails = true → ¬ request.Tolerates x.call → StopsAt s request before x after r := by
  rcases (Request.orderly_apply request imports s).outcome run with ⟨hnone, -⟩ |
    ⟨before, x, after, e, rfl, hbefore, hx, hr, hlast⟩
  · have htolerated : ∀ x ∈ trace, x.fails = true → request.Tolerates x.call :=
      fun x hx => Request.error?_eq_none_iff.1 (hnone x hx)
    refine ⟨fun _ => htolerated, ?_⟩
    rintro before x after rfl - hfails hcounts
    exact absurd (htolerated x (by simp) hfails) hcounts
  · refine ⟨?_, ?_⟩
    · intro hok
      rw [hr] at hok
      cases hok
    intro before' x' after' hsplit hbefore' hfails hcounts
    -- both are the first exchange with an error
    obtain ⟨rfl, rfl, rfl⟩ := first_split_unique (P := fun x => request.error? x ≠ none) hsplit
      (fun y hy => not_not_intro (hbefore y hy)) (by simp [hx])
      (fun y hy => not_not_intro (Request.error?_eq_none_iff.2 (hbefore' y hy)))
      (fun h => hcounts (Request.error?_eq_none_iff.1 h hfails))
    refine ⟨⟨e, hx, hr⟩, hlast, ?_⟩
    rintro options rfl hreads
    exact Request.registers_of_reads run hreads

/-- A new VM cannot be given its memory, nor be removed again: the start reports
the first of the two failures. -/
theorem stopsAt_refused_resources :
    let ctx : Context := ⟨.defaults ⟨[]⟩, .builtIn⟩
    let before : List Exchange :=
      [⟨.registered, .ok []⟩, ⟨.tell "Importing VM...", ()⟩, ⟨.hostOnlyAdapters, .ok []⟩,
       ⟨.hostInterfaces, .ok []⟩, ⟨.createAdapter ⟨192, 168, 11, 1⟩, .ok "vboxnet0"⟩,
       ⟨.register "pcfdev-v1" "pcfdev.ova", .ok ()⟩]
    let refused : Exchange :=
      ⟨.setResources "pcfdev-v1" ⟨4096, 2⟩, .error (.hypervisor "out of memory")⟩
    let kept : Exchange := ⟨.unregister "pcfdev-v1", .error (.hypervisor "locked")⟩
    let options : StartOptions := { StartOptions.none with
      memory := some 4096, cpus := some 2, imagePath := some "pcfdev.ova" }
    let r : Option (Except LifecycleError Unit) :=
      some (.error (.failed .register (.hypervisor "out of memory")))
    Runs ((Request.start options).apply ctx 1 (.notCreated "pcfdev-v1")).run
        (before ++ refused :: [kept]) r ∧
      StopsAt (.notCreated "pcfdev-v1") (.start options) before refused [kept] r := by
  intro ctx before refused kept options r
  have run : Runs ((Request.start options).apply ctx 1 (.notCreated "pcfdev-v1")).run
      (before ++ refused :: [kept]) r :=
    .ask _ (.ask _ (.note (.ask _ (.ask _ (.note (.note (.ask _ (.note (.ask _ (.ask _ (.note
      (.ask _ (.note (.done _))))))))))))))
  have hbefore : ∀ y ∈ before, y.fails = true → (Request.start options).Tolerates y.call := by
    intro y hy hfails
    simp only [before, List.mem_cons, List.not_mem_nil, or_false] at hy
    rcases hy with rfl | rfl | rfl | rfl | rfl | rfl <;> cases hfails
  have hcounts : ¬ (Request.start options).Tolerates refused.call := by
    rintro ⟨dir, command, channel, hstart, -⟩
    cases hstart
  exact ⟨run, (stops_at_first_failure run).2 before refused [kept] rfl hbefore rfl hcounts⟩

/-- Two errors that are those of no collaborator. The host has no port left for a
new VM, which is reported although the only call to the hypervisor that failed is
the removal after it. And the directory for diagnostics cannot be made, which is
reported as it is. -/
theorem reported_of_refused_port_and_directory :
    let ctx : Context := ⟨.defaults ⟨[]⟩, .builtIn⟩
    let options : StartOptions := { StartOptions.none with
      memory := some 4096, cpus := some 2, imagePath := some "pcfdev.ova" }
    let refusal : Fault := .io (.other "Too many open files (os error 24)")
    let importing : List Exchange :=
      [⟨.registered, .ok []⟩, ⟨.tell "Importing VM...", ()⟩, ⟨.hostOnlyAdapters, .ok []⟩,
       ⟨.hostInterfaces, .ok []⟩, ⟨.createAdapter ⟨192, 168, 11, 1⟩, .ok "vboxnet0"⟩,
       ⟨.register "pcfdev-v1" "pcfdev.ova", .ok ()⟩,
       ⟨.setResources "pcfdev-v1" ⟨4096, 2⟩, .ok ()⟩,
       ⟨.attachAdapter "vboxnet0" "pcfdev-v1", .ok ()⟩, ⟨.unusedPort, .error refusal⟩,
       ⟨.unregister "pcfdev-v1", .error (.hypervisor "locked")⟩]
    let config : VmConfig := ⟨"pcfdev-v1", ⟨192, 168, 11, 11⟩, "local.pcfdev.io", 2222, 4096, 2⟩
    let target : String := Text.joinPath "/dev/null" ("pcfdev-debug-" ++ "20240101-120000")
    let collecting : List Exchange :=
      [⟨.timestamp, "20240101-120000"⟩, ⟨.createDirectory target, .error .notADirectory⟩]
    Runs ((Request.start options).apply ctx 1 (.notCreated "pcfdev-v1")).run importing
        (some (.error (.failed .register refusal))) ∧
      (∀ x ∈ importing, x.call ≠ .unusedPort → x.fails = true →
        x.call = .unregister "pcfdev-v1" ∧ x.fault? = some (.hypervisor "locked")) ∧
      Runs ((Request.debugLogs "/dev/null").apply ctx 0 (.existing .running config)).run
        collecting (some (.error (.io .notADirectory))) := by
  intro ctx options refusal importing config target collecting
  have imported : Runs ((Request.start options).apply ctx 1 (.notCreated "pcfdev-v1")).run
      importing (some (.error (.failed .register refusal))) :=
    .ask _ (.ask _ (.note (.ask _ (.ask _ (.note (.note (.ask _ (.note (.ask _ (.ask _ (.ask _
      (.ask _ (.note (.ask _ (.note (.done _))))))))))))))))
  have collected : Runs ((Request.debugLogs "/dev/null").apply ctx 0
      (.existing .running config)).run collecting (some (.error (.io .notADirectory))) :=
    .ask _ (.ask _ (.done _))
  exact ⟨imported, by decide, collected⟩

end VmLifecycle
