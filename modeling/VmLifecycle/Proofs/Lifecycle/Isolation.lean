import VmLifecycle.Proofs.Lifecycle.Calm

/-!
# Isolation of VMs

A session on one VM changes no other VM, and it reaches a guest only through
the port that the latest query was told for this VM. This holds for all
requests, in every order, whatever the calls are answered with.

Two programs do more than keep to a VM that was found: the query, which learns
the port, and the start of a VM that does not exist, which asks again after the
import. What they leave known is carried through a program as a condition on
its end.
-/

namespace VmLifecycle

open Program

variable {ctx : Context} {name : String} {port? : Option UInt16} {ε α β : Type}

/-- Every call of the program keeps to the VM, if `port?` is known of it at the
start, and at the end `Q` holds of what is known then and of the result. -/
def Keeps (ctx : Context) (name : String) (Q : Option UInt16 → α → Prop) :
    Option UInt16 → Program α → Prop
  | port?, .done a => Q port? a
  | port?, .ask call next => Confined ctx name port? call ∧
    ∀ reply, Keeps ctx name Q (portAfter name port? ⟨call, reply⟩) (next reply)
  | port?, .note _ rest => Keeps ctx name Q port? rest
  | _, .unsettled => True

namespace Keeps

variable {Q Q' : Option UInt16 → α → Prop}

theorem isolated {p : Program α} {trace : List Exchange} {r : Option α}
    (h : Keeps ctx name Q port? p) (run : Runs p trace r) : Isolated ctx name port? trace := by
  induction run generalizing port? with
  | done => trivial
  | ask reply _ ih => exact ⟨h.1, ih (h.2 reply)⟩
  | note _ ih => exact ih h
  | unsettled => trivial

theorem bind {p : Program α} {f : α → Program β} {R : Option UInt16 → β → Prop}
    (hp : Keeps ctx name Q port? p)
    (hf : ∀ port? a, Q port? a → Keeps ctx name R port? (f a)) :
    Keeps ctx name R port? (p.bind f) := by
  induction p generalizing port? with
  | done a => exact hf port? a hp
  | ask call next ih => exact ⟨hp.1, fun reply => ih reply (hp.2 reply)⟩
  | note event rest ih => exact ih hp
  | unsettled => trivial

/-- In a program whose calls are all calm, the port that was known at the start
is known at the end. -/
theorem of_only {p : Program α} (h : Only (Calm ctx name port?) p) :
    Keeps ctx name (fun known _ => known = port?) port? p := by
  induction p with
  | done => rfl
  | ask call next ih =>
      refine ⟨h.1.toConfined, fun reply => ?_⟩
      rw [portAfter_of_isSettled h.1.settled]
      exact ih reply (h.2 reply)
  | note event rest ih => exact ih h
  | unsettled => trivial

theorem mono {p : Program α} (hQ : ∀ port? a, Q port? a → Q' port? a)
    (h : Keeps ctx name Q port? p) : Keeps ctx name Q' port? p := by
  induction p generalizing port? with
  | done a => exact hQ port? a h
  | ask call next ih => exact ⟨h.1, fun reply => ih reply (h.2 reply)⟩
  | note event rest ih => exact ih h
  | unsettled => trivial

/-- An attempt after another one, where only a result that is no error counts. -/
theorem run_bind {x : ExceptT ε Program α} {f : α → ExceptT ε Program β}
    {Q : Option UInt16 → Except ε α → Prop}
    (hx : Keeps ctx name Q port? x.run)
    (hf : ∀ port? a, Q port? (.ok a) → Keeps ctx name (fun _ _ => True) port? (f a).run) :
    Keeps ctx name (fun _ _ => True) port? (x >>= f).run := by
  refine hx.bind fun port? result h => ?_
  cases result with
  | error e => trivial
  | ok a => exact hf port? a h

end Keeps

/-! ## The query -/

theorem keeps_configuration (table : AddressTable) :
    Keeps ctx name
      (fun known outcome => ∀ config, outcome = .ok config →
        config.name = name ∧ known = some config.sshPort)
      none (Hypervisor.configuration table name).run := by
  refine ⟨confined_of_idle rfl rfl, fun reply => ?_⟩
  rcases reply with fault | ip
  · rintro config ⟨⟩
  refine ⟨confined_of_idle rfl rfl, fun reply => ?_⟩
  rcases reply with fault | port
  · rintro config ⟨⟩
  refine ⟨confined_of_idle rfl rfl, fun reply => ?_⟩
  rcases reply with fault | resources
  · rintro config ⟨⟩
  · rintro config ⟨⟩
    exact ⟨rfl, if_pos ⟨rfl, rfl⟩⟩

theorem keeps_inspect :
    Keeps ctx name (fun known s => s.IsOf name known) none (ctx.inspect name) := by
  refine (keeps_configuration ctx.table).bind fun port? outcome h => ?_
  rcases outcome with fault | config
  · trivial
  obtain ⟨hname, hport⟩ := h config rfl
  subst hport
  refine ⟨confined_of_idle rfl rfl, fun reply => ?_⟩
  rcases reply with fault | state
  · trivial
  cases state with
  | running =>
      have hmarker : Calm ctx name (some config.sshPort)
          (.commandOutput Guest.printMarkerCommand (ctx.channel config)) :=
        .of_commandOutput rfl
      refine ⟨hmarker.toConfined, fun reply => ?_⟩
      rcases reply with fault | output
      · exact ⟨hname, rfl⟩
      · exact ⟨hname, rfl⟩
  | unknown => trivial
  | _ => exact ⟨hname, rfl⟩

theorem keeps_query :
    Keeps ctx name (fun known outcome => ∀ s, outcome = .ok s → s.IsOf name known) port?
      (ctx.query name).run := by
  refine ⟨confined_of_idle rfl rfl, fun reply => ?_⟩
  rcases reply with fault | registered
  · rintro s ⟨⟩
  cases registered with
  | true =>
      refine keeps_inspect.bind fun known snapshot h => ?_
      rintro s ⟨⟩
      exact h
  | false =>
      rintro s ⟨⟩
      exact rfl

/-! ## Requests -/

/-- A start keeps to the VM. One that did not exist is known by what was found
after its import, so this is by induction on the number of imports. -/
theorem keeps_start (options : StartOptions) (imports : Nat) {s : Snapshot}
    (hs : s.IsOf name port?) :
    Keeps ctx name (fun _ _ => True) port? (Snapshot.start ctx options imports s).run := by
  induction imports generalizing s port? with
  | zero =>
      cases s with
      | notCreated => trivial
      | existing phase config =>
          obtain ⟨rfl, rfl⟩ := hs
          exact (Keeps.of_only (Calm.only_startExisting options phase)).mono fun _ _ _ => trivial
      | invalid => trivial
  | succ imports ih =>
      cases s with
      | notCreated missing =>
          obtain rfl : missing = name := hs
          -- whatever was known before the import, the query begins anew
          refine (Keeps.of_only (Calm.only_create options)).run_bind fun _ _ _ => ?_
          exact keeps_query.run_bind fun _ snapshot h => ih (h snapshot rfl)
      | existing phase config =>
          obtain ⟨rfl, rfl⟩ := hs
          exact (Keeps.of_only (Calm.only_startExisting options phase)).mono fun _ _ _ => trivial
      | invalid => trivial

theorem keeps_apply (request : Request) (imports : Nat) {s : Snapshot}
    (hs : s.IsOf name port?) :
    Keeps ctx name (fun _ _ => True) port? (request.apply ctx imports s).run := by
  have of_only {x : Action Unit} (h : Only (Calm ctx name port?) x.run) :
      Keeps ctx name (fun _ _ => True) port? x.run :=
    (Keeps.of_only h).mono fun _ _ _ => trivial
  cases request with
  | start options => exact keeps_start options imports hs
  | stop => exact of_only (Calm.only_stop hs)
  | suspend => exact of_only (Calm.only_suspend hs)
  | resume => exact of_only (Calm.only_resumeVm hs)
  | destroy => exact of_only (Calm.only_destroy hs)
  | provision => exact of_only (Calm.only_provision hs)
  | trust => exact of_only (Calm.only_trust hs)
  | target => exact of_only Calm.only_target
  | ssh => exact of_only (Calm.only_ssh hs)
  | debugLogs dir => exact of_only (Calm.only_debugLogs dir hs)
  | checkStart options => exact of_only (Calm.only_checkStart options s)

theorem keeps_session (imports : Nat) (requests : List Request) :
    Keeps ctx name (fun _ _ => True) port? (ctx.session imports name requests) := by
  induction requests generalizing port? with
  | nil => trivial
  | cons request requests ih =>
      have hperform : Keeps ctx name (fun _ _ => True) port?
          (ctx.perform imports name request).run :=
        keeps_query.run_bind fun _ snapshot h => keeps_apply request imports (h snapshot rfl)
      exact hperform.bind fun _ _ _ => ih.bind fun _ _ _ => trivial

/-- A session on one VM, whatever is asked of it and whatever the calls are
answered with, makes no call that changes another VM, and goes to no guest but
through the port that the latest query was told for this VM, with the time of
the script for the script and that of a command for all else. So no other VM is
changed, on any hypervisor that leaves alone what it is not asked to change. -/
theorem session_isolated {imports : Nat} {requests : List Request} {trace : List Exchange}
    {r : Option (List (Except LifecycleError Unit))}
    (run : Runs (ctx.session imports name requests) trace r) :
    Isolated ctx name none trace ∧
      ∀ (σ : Type) (model : HypervisorModel σ) (machines : Machines σ) (other : String),
        other ≠ name → model.afterAll machines trace other = machines other := by
  have hisolated : Isolated ctx name none trace := (keeps_session imports requests).isolated run
  refine ⟨hisolated, fun σ model machines other hother => ?_⟩
  refine model.afterAll_of_ne fun x hx hchanges => ?_
  exact hother (hisolated.changes hx hchanges)

/-- A VM is created and provisioned, and when it is to be stopped the hypervisor no
longer answers. -/
theorem isolated_of_lost_hypervisor :
    let ctx : Context := ⟨.defaults ⟨[]⟩, .builtIn⟩
    let config : VmConfig := ⟨"pcfdev-v1", ⟨192, 168, 11, 11⟩, "local.pcfdev.io", 2222, 4096, 2⟩
    let options : ProvisionOptions := .ofStart config .none ctx.settings.defaultServices
    let trace : List Exchange :=
      [⟨.isRegistered "pcfdev-v1", .ok false⟩, ⟨.registered, .ok []⟩,
       ⟨.tell "Importing VM...", ()⟩, ⟨.hostOnlyAdapters, .ok []⟩, ⟨.hostInterfaces, .ok []⟩,
       ⟨.createAdapter ⟨192, 168, 11, 1⟩, .ok "vboxnet0"⟩,
       ⟨.register "pcfdev-v1" (ctx.newImage .none), .ok ()⟩,
       ⟨.setResources "pcfdev-v1" (ctx.newResources .none), .ok ()⟩,
       ⟨.attachAdapter "vboxnet0" "pcfdev-v1", .ok ()⟩, ⟨.unusedPort, .ok (2222 : UInt16)⟩,
       ⟨.addForwarding "pcfdev-v1" "ssh" 2222 22, .ok ()⟩,
       ⟨.tell "PCF Dev is now imported to Virtualbox.", ()⟩,
       ⟨.isRegistered "pcfdev-v1", .ok true⟩, ⟨.vmAddress "pcfdev-v1", .ok ⟨192, 168, 11, 11⟩⟩,
       ⟨.forwardedPort "pcfdev-v1" "ssh", .ok 2222⟩, ⟨.resources "pcfdev-v1", .ok ⟨4096, 2⟩⟩,
       ⟨.runState "pcfdev-v1", .ok .poweredOff⟩, ⟨.tell "Starting VM...", ()⟩,
       ⟨.powerOn "pcfdev-v1", .ok ()⟩,
       ⟨.execute (Guest.storeOptionsCommand options) (ctx.channel config), .ok ()⟩,
       ⟨.execute Guest.installPasswordCommand (ctx.channel config), .ok ()⟩,
       ⟨.tell "Provisioning VM...", ()⟩,
       ⟨.execute (Guest.provisionCommand options) (ctx.provisionChannel config), .ok ()⟩,
       ⟨.tell (Guest.welcomeText "local.pcfdev.io"), ()⟩,
       ⟨.isRegistered "pcfdev-v1", .error (.hypervisor "locked")⟩]
    Runs (ctx.session 1 "pcfdev-v1" [.start .none, .stop]) trace
        (some [.ok (), .error (.vm (.hypervisor "locked"))]) ∧
      Isolated ctx "pcfdev-v1" none trace := by
  intro ctx config options trace
  have run : Runs (ctx.session 1 "pcfdev-v1" [.start .none, .stop]) trace
      (some [.ok (), .error (.vm (.hypervisor "locked"))]) :=
    .ask _ (.note (.ask _ (.ask _ (.note (.ask _ (.ask _ (.note (.note (.ask _ (.note (.ask _
      (.ask _ (.ask _ (.ask _ (.ask _ (.note (.ask _ (.ask _ (.ask _ (.ask _ (.ask _ (.ask _
      (.note (.ask _ (.note (.ask _ (.ask _ (.ask _ (.note (.ask _ (.note (.ask _ (.note (.ask _
      (.ask _ (.done _))))))))))))))))))))))))))))))))))))
  exact ⟨run, (session_isolated run).1⟩

end VmLifecycle
