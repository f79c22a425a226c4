import VmLifecycle.Proofs.Effect.Along
import VmLifecycle.Proofs.Provision.Services
import VmLifecycle.Proofs.Since

/-!
# The first password and the script

A start stores its options in the guest, installs the first password, and runs
the script last. Where one of the first two steps fails, the guest may be left
with options and without a password. A provisioning run that is completed later
takes the options from the guest and runs the script; the password it leaves to
the start that was interrupted.

What happened to a VM is told by the exchanges since its last import. The
invariant between two requests: if options may have been stored since then, the
password was installed, or a step of a start has failed.
-/

namespace VmLifecycle

open Program

section

variable {ctx : Context} {config : VmConfig} {s : Snapshot} {name : String}
  {history : List Exchange} {P : Exchange → Prop} {x : Exchange}

/-! ## Since the last import -/

/-- An exchange with `P` happened, and the VM called `name` was not imported anew
since then. -/
def SinceImport (name : String) (P : Exchange → Prop) (history : List Exchange) : Prop :=
  ∃ earlier y since, history = earlier ++ y :: since ∧ P y ∧
    ∀ z ∈ since, ∀ image, z ≠ ⟨.register name image, .ok ()⟩

theorem sinceImport_concat : SinceImport name P (history ++ [x]) ↔
    P x ∨ (∀ image, x ≠ ⟨.register name image, .ok ()⟩) ∧ SinceImport name P history :=
  since_concat

theorem SinceImport.now (h : P x) : SinceImport name P (history ++ [x]) :=
  sinceImport_concat.2 (.inl h)

/-- What happened since the import is not undone by an exchange that imports nothing. -/
theorem SinceImport.later (h : SinceImport name P history) (hx : x.call.changes? = none) :
    SinceImport name P (history ++ [x]) := by
  refine sinceImport_concat.2 (.inr ⟨?_, h⟩)
  rintro image rfl
  cases hx

def Guest.installsPassword : Call → Bool
  | .execute command _ => command == installPasswordCommand
  | _ => false

/-- The first password was installed. -/
def Exchange.InstallsPassword (x : Exchange) : Prop :=
  Guest.installsPassword x.call = true ∧ x.fault? = none

instance (x : Exchange) : Decidable x.InstallsPassword :=
  inferInstanceAs (Decidable (_ ∧ _))

/-- Options were stored, or may have been. -/
def Exchange.StoresOptions (x : Exchange) : Prop :=
  x.call.stores? ≠ none

/-- A step failed by which a start prepares the guest for the script. -/
def Exchange.MissesStep (x : Exchange) : Prop :=
  x.fault? ≠ none ∧ (x.StoresOptions ∨ Guest.installsPassword x.call = true)

/-- The provisioning was interrupted, and is being completed from stored options. -/
def Resumes (history : List Exchange) : Prop :=
  ∃ earlier channel output, history = earlier ++
    [⟨.commandOutput Guest.printOptionsCommand channel, .ok output⟩,
     ⟨.tell "Provisioning VM...", ()⟩]

/-- If a call runs the script, the password was installed before, or the call
completes a run in which a step was missed. -/
def Prepared (name : String) (history : List Exchange) (x : Exchange) : Prop :=
  x.call.script? ≠ none → SinceImport name Exchange.InstallsPassword history ∨
    SinceImport name Exchange.MissesStep history ∧ Resumes history

/-- A guest that has options to print only if some may have been stored since the
VM was imported. -/
def Guest.PrintsStored (name : String) (history : List Exchange) : Exchange → Prop
  | ⟨.commandOutput command _, .ok output⟩ => command = printOptionsCommand →
    ∀ options, ProvisionOptions.ofStored output = .ok (some options) →
      SinceImport name Exchange.StoresOptions history
  | _ => True

theorem Guest.printsStored_of_printsOptions (h : printsOptions x.call = false) :
    PrintsStored name history x := by
  unfold PrintsStored
  split
  · rintro rfl
    simp [printsOptions] at h
  · trivial

theorem Guest.printsStored_of_since (h : SinceImport name Exchange.StoresOptions history) :
    PrintsStored name history x := by
  unfold PrintsStored
  split
  · exact fun _ _ _ => h
  · trivial

/-! ## What an operation leaves -/

/-- Options are not left in a guest without the password, but by a failed step. -/
def Accounted (name : String) (history : List Exchange) : Prop :=
  SinceImport name Exchange.StoresOptions history →
    SinceImport name Exchange.InstallsPassword history ∨
      SinceImport name Exchange.MissesStep history

/-- In a guest that prints what was stored, a program runs the script only after
the password, or to complete a run, and leaves `Q`. -/
def Program.Prepares {α : Type} (name : String) (Q : α → List Exchange → Prop)
    (history : List Exchange) (p : Program α) : Prop :=
  p.Maintains (fun history x => history ++ [x]) (Guest.PrintsStored name) (Prepared name) Q
    history

theorem Accounted.concat (h : Accounted name history) (hx : x.call.stores? = none) :
    Accounted name (history ++ [x]) := by
  intro hstores
  rcases sinceImport_concat.1 hstores with hnow | ⟨hkept, hbefore⟩
  · exact absurd hx hnow
  · exact (h hbefore).imp (fun h => sinceImport_concat.2 (.inr ⟨hkept, h⟩))
      fun h => sinceImport_concat.2 (.inr ⟨hkept, h⟩)

/-- A program that neither stores options nor runs the script leaves it at that. -/
theorem prepares_of_spares {α : Type} {p : Program α} (h : Only Call.Spares p)
    (hhistory : Accounted name history) :
    p.Prepares name (fun _ => Accounted name) history := by
  refine Maintains.of_only h (fun call hcall reply history _ hhistory => ?_) hhistory
  exact ⟨fun hscript => absurd hcall.2 hscript, hhistory.concat hcall.1⟩

theorem prepares_tell (text : String) (hhistory : Accounted name history) :
    (tell text).run.Prepares name (fun _ => Accounted name) history :=
  prepares_of_spares (spares_tell text) hhistory

namespace Provision

variable {options : ProvisionOptions}

/-- The script is run where the password was installed, or to complete a run. -/
theorem prepares_complete {domain : String}
    (hprepared : SinceImport name Exchange.InstallsPassword history ∨
      SinceImport name Exchange.MissesStep history ∧
        Resumes (history ++ [⟨.tell "Provisioning VM...", ()⟩]))
    (hhistory : Accounted name history) :
    (complete ctx config options domain).run.Prepares name (fun _ => Accounted name) history := by
  refine fun _ _ => ⟨fun hscript => absurd rfl hscript, ?_⟩
  have hhistory : Accounted name (history ++ [⟨.tell "Provisioning VM...", ()⟩]) :=
    hhistory.concat rfl
  refine fun reply _ => ⟨fun _ => ?_, ?_⟩
  · rcases hprepared with hinstalled | ⟨hmissed, hresumes⟩
    · exact .inl (hinstalled.later rfl)
    · exact .inr ⟨hmissed.later rfl, hresumes⟩
  · rcases reply with fault | ⟨⟩
    · exact hhistory.concat Call.stores?_provision
    · exact prepares_tell _ (hhistory.concat Call.stores?_provision)

/-- Once the options are stored, either the password is installed or this step
has failed, whatever happened before. -/
theorem prepares_afterStoring {skip : Bool} :
    (afterStoring ctx config options skip).run.Prepares name (fun _ => Accounted name)
      history := by
  have hinstalls : Guest.installsPassword
      (.execute Guest.installPasswordCommand (ctx.channel config)) = true := by
    simp [Guest.installsPassword]
  refine fun reply _ => ⟨fun hscript => absurd Call.script?_installPassword hscript, ?_⟩
  rcases reply with fault | ⟨⟩
  · intro _
    exact .inr (.now ⟨Option.some_ne_none fault, .inr hinstalls⟩)
  · have hinstalled : SinceImport name Exchange.InstallsPassword
        (history ++ [⟨.execute Guest.installPasswordCommand (ctx.channel config), .ok ()⟩]) :=
      .now ⟨hinstalls, rfl⟩
    cases skip with
    | true => exact prepares_tell _ fun _ => .inl hinstalled
    | false => exact prepares_complete (.inl hinstalled) fun _ => .inl hinstalled

theorem prepares_bringUp {start : StartOptions} (hhistory : Accounted name history) :
    (bringUp ctx config start).run.Prepares name (fun _ => Accounted name) history := by
  refine fun _ _ => ⟨fun hscript => absurd rfl hscript, ?_⟩
  refine fun reply _ => ⟨fun hscript => absurd rfl hscript, ?_⟩
  rcases reply with fault | ⟨⟩
  · exact (hhistory.concat rfl).concat rfl
  have hstores {options : ProvisionOptions} {channel : Channel} :
      (Call.execute (Guest.storeOptionsCommand options) channel).stores? ≠ none := by
    simp
  refine fun reply _ => ⟨fun hscript => absurd Call.script?_storeOptions hscript, ?_⟩
  rcases reply with fault | ⟨⟩
  · intro _
    exact .inr (.now ⟨Option.some_ne_none fault, .inl hstores⟩)
  · have hafter {history : List Exchange} :
        (afterStoring ctx config (.ofStart config start ctx.settings.defaultServices)
          start.noProvision).run.Prepares name (fun _ => Accounted name) history :=
      prepares_afterStoring
    exact hafter

/-- Where options are printed they were stored, so the password was installed after
the import, or a step was missed. -/
theorem prepares_resume (hhistory : Accounted name history) :
    (resume ctx config).run.Prepares name (fun _ => Accounted name) history := by
  have hspares : (Call.commandOutput Guest.printOptionsCommand (ctx.channel config)).Spares :=
    Call.spares_commandOutput (by simp [Guest.printingCommands]) _
  rw [resume_eq]
  -- how the output is read must stay closed while the program is taken apart
  generalize hread : ProvisionOptions.ofStored = read
  refine fun reply hprints => ⟨fun hscript => absurd hspares.2 hscript, ?_⟩
  rcases reply with fault | output
  · exact hhistory.concat hspares.1
  · show (resumeWith ctx config (read output)).run.Prepares name (fun _ => Accounted name)
      (history ++ [⟨.commandOutput Guest.printOptionsCommand (ctx.channel config), .ok output⟩])
    cases hfound : read output with
    | error e => exact hhistory.concat hspares.1
    | ok found =>
        cases found with
        | none => exact hhistory.concat hspares.1
        | some options =>
            have hstored : ProvisionOptions.ofStored output = .ok (some options) := by
              rw [hread, hfound]
            refine prepares_complete ?_ (hhistory.concat hspares.1)
            rcases hhistory (hprints rfl options hstored) with hinstalled | hmissed
            · exact .inl (hinstalled.later rfl)
            · exact .inr ⟨hmissed.later rfl, history, ctx.channel config, output, by simp⟩

end Provision

/-! ## Operations and sessions -/

theorem prepares_startExisting {start : StartOptions} {phase : Phase}
    (hhistory : Accounted name history) :
    (Snapshot.startExisting ctx start config phase).run.Prepares name (fun _ => Accounted name)
      history := by
  have hrestore : (Snapshot.restore config).run.Prepares name (fun _ => Accounted name)
      history :=
    prepares_of_spares (spares_of_handles Handles.only_restore) hhistory
  cases phase with
  | stopped => exact Provision.prepares_bringUp hhistory
  | aborted =>
      have hensure : Only Call.Spares (Memory.ensure config.memory).run :=
        spares_of_handles (Handles.only_ensure ctx config.name config.memory)
      exact (prepares_of_spares hensure hhistory).run_bind fun _ _ hhistory =>
        Provision.prepares_bringUp hhistory
  | running => exact prepares_tell _ hhistory
  | suspended => exact hrestore
  | paused => exact hrestore
  | saved => exact hrestore
  | unprovisioned => exact hhistory
  | recoverable => exact hhistory

theorem prepares_query (asked : String) (hhistory : Accounted name history) :
    (ctx.query asked).run.Prepares name (fun _ => Accounted name) history :=
  prepares_of_spares spares_query hhistory

/-- By induction on the number of imports, as the start is made of them. -/
theorem prepares_start {start : StartOptions} (imports : Nat)
    (hhistory : Accounted name history) :
    (Snapshot.start ctx start imports s).run.Prepares name (fun _ => Accounted name) history := by
  induction imports generalizing s history with
  | zero =>
      cases s with
      | notCreated => trivial
      | existing phase config => exact prepares_startExisting hhistory
      | invalid => exact hhistory
  | succ imports ih =>
      cases s with
      | notCreated missing =>
          have hcreate : Only Call.Spares (Snapshot.create ctx missing start).run :=
            spares_of_handles (Handles.only_create start)
          refine (prepares_of_spares hcreate hhistory).run_bind fun _ _ hhistory => ?_
          exact (prepares_query missing hhistory).run_bind fun _ _ hhistory => ih hhistory
      | existing phase config => exact prepares_startExisting hhistory
      | invalid => exact hhistory

theorem prepares_provision (hhistory : Accounted name history) :
    (s.provision ctx).run.Prepares name (fun _ => Accounted name) history := by
  cases s with
  | notCreated => exact hhistory
  | invalid => exact hhistory
  | existing phase config =>
      cases phase with
      | unprovisioned =>
          rw [Provision.provision_unprovisioned]
          exact Provision.prepares_resume hhistory
      | _ => exact hhistory

theorem prepares_apply (request : Request) (imports : Nat) (hhistory : Accounted name history) :
    (request.apply ctx imports s).run.Prepares name (fun _ => Accounted name) history := by
  have of_looks {x : Action Unit} (h : Only (Call.Looks ctx s) x.run) :
      x.run.Prepares name (fun _ => Accounted name) history :=
    prepares_of_spares (h.mono fun _ => Call.Looks.spares) hhistory
  obtain ⟨other, hs⟩ := s.exists_concerns
  have of_handles {x : Action Unit} (h : Only (Call.Handles other) x.run) :
      x.run.Prepares name (fun _ => Accounted name) history :=
    prepares_of_spares (spares_of_handles h) hhistory
  cases request with
  | start options => exact prepares_start imports hhistory
  | stop => exact of_handles (Handles.only_stop ctx hs)
  | suspend => exact of_handles (Handles.only_suspend hs)
  | resume => exact of_handles (Handles.only_resume hs)
  | destroy => exact of_handles (Handles.only_destroy hs)
  | provision => exact prepares_provision hhistory
  | trust => exact of_looks Looks.only_trust
  | target => exact of_looks (Looks.only_target s)
  | ssh => exact of_looks Looks.only_ssh
  | debugLogs dir => exact of_looks (Looks.only_debugLogs dir)
  | checkStart options => exact of_looks (Looks.only_checkStart options s)

/-- By induction on the requests: each leaves the guest as the next one needs it. -/
theorem prepares_session (imports : Nat) (requests : List Request)
    (hhistory : Accounted name history) :
    (ctx.session imports name requests).Prepares name (fun _ => Accounted name) history := by
  induction requests generalizing history with
  | nil => exact hhistory
  | cons request requests ih =>
      have hperform : (ctx.perform imports name request).run.Prepares name
          (fun _ => Accounted name) history :=
        (prepares_query name hhistory).run_bind fun _ _ hhistory =>
          prepares_apply request imports hhistory
      refine hperform.bind fun _ _ hhistory => ?_
      exact (ih hhistory).bind fun _ _ hhistory => hhistory

/-- Whenever the script is run, the first password was installed since the VM was
imported, or else a step of a start has failed since then, in storing the options
or in installing the password, and the script is run to complete what this start
has left. So the password is never missing in a run of which no such step fails. -/
theorem password_before_script {imports : Nat} {requests : List Request}
    {trace : List Exchange} {q : Option (List (Except LifecycleError Unit))}
    (guest : ∀ before x after, trace = before ++ x :: after → Guest.PrintsStored name before x)
    (run : Runs (ctx.session imports name requests) trace q) :
    ∀ before x after, trace = before ++ x :: after → x.call.script? ≠ none →
      SinceImport name Exchange.InstallsPassword before ∨
        SinceImport name Exchange.MissesStep before ∧ Resumes before := by
  have hstart : Accounted name [] := by
    rintro ⟨earlier, y, since, heq, -⟩
    simp at heq
  have hgiven : Along (fun history x => history ++ [x]) (Guest.PrintsStored name) [] trace :=
    along_history.2 guest
  obtain ⟨hprepared, -⟩ := (prepares_session imports requests hstart).outcome hgiven run
  exact along_history.1 hprepared

end

/-! ### A VM that is started without the script, and provisioned later -/

namespace MySqlVm

/-- The provisioning is completed from the stored options. -/
def completing : List Exchange :=
  [⟨.commandOutput Guest.printOptionsCommand (ctx.channel config),
    .ok (Json.encode stored ++ "\n")⟩,
   ⟨.tell "Provisioning VM...", ()⟩,
   ⟨.execute (Guest.provisionCommand stored) (ctx.provisionChannel config), .ok ()⟩,
   ⟨.tell (Guest.welcomeText "local.pcfdev.io"), ()⟩]

/-- The exchanges of both requests, where `prepared` follows the storing of the options. -/
def startedAndProvisioned (prepared : List Exchange) : List Exchange :=
  ⟨.isRegistered "pcfdev-v1", .ok false⟩ ::
    (beforeStored ++ Provision.storing (ctx.channel config) stored :: prepared) ++
    (askedRunning ++ completing)

theorem runs_completing : Runs (Provision.resume ctx config).run completing (some (.ok ())) := by
  unfold completing
  rw [Provision.runs_resume_cons, Provision.ofStored_stored]
  exact Provision.runs_complete.2 ⟨.ok (), rfl, .succeeded⟩

theorem runs_startedAndProvisioned {prepared : List Exchange} {result : Except LifecycleError Unit}
    (run : Runs (Snapshot.start ctx start 1 (.notCreated "pcfdev-v1")).run
      (beforeStored ++ Provision.storing (ctx.channel config) stored :: prepared)
      (some result)) :
    Runs (ctx.session 1 "pcfdev-v1" [.start start, .provision]) (startedAndProvisioned prepared)
      (some [result, .ok ()]) := by
  have hasked : Runs (ctx.query "pcfdev-v1").run [⟨.isRegistered "pcfdev-v1", .ok false⟩]
      (some (.ok (.notCreated "pcfdev-v1"))) :=
    .ask _ (.note (.done _))
  have hstarted : Runs (ctx.perform 1 "pcfdev-v1" (.start start)).run
      ([⟨.isRegistered "pcfdev-v1", .ok false⟩] ++
        (beforeStored ++ Provision.storing (ctx.channel config) stored :: prepared))
      (some result) :=
    (runs_run_bind_append hasked).2 run
  have hprovisioned : Runs (ctx.perform 1 "pcfdev-v1" .provision).run
      (askedRunning ++ completing) (some (.ok ())) :=
    (runs_run_bind_append runs_askedRunning).2 runs_completing
  have hlater : Runs (ctx.session 1 "pcfdev-v1" [.provision]) (askedRunning ++ completing)
      (some [.ok ()]) := by
    rw [← List.append_nil (askedRunning ++ completing)]
    exact (runs_bind_append hprovisioned).2 (.done _)
  refine (runs_bind_append hstarted).2 ?_
  rw [← List.append_nil (askedRunning ++ completing)]
  exact (runs_bind_append hlater).2 (.done _)

/-- The options are printed after they were stored, and the VM is not imported again. -/
theorem printsStored {prepared : List Exchange}
    (hprepared : ∀ x ∈ prepared, x.call.changes? = none) :
    ∀ before x after, startedAndProvisioned prepared = before ++ x :: after →
      Guest.PrintsStored "pcfdev-v1" before x := by
  intro before x after heq
  by_cases hprints : Guest.printsOptions x.call = false
  · exact Guest.printsStored_of_printsOptions hprints
  let untilStored : List Exchange := ⟨.isRegistered "pcfdev-v1", .ok false⟩ :: beforeStored ++
    [Provision.storing (ctx.channel config) stored]
  have hfirst : x ∉ untilStored := by
    have hsilent : ∀ y ∈ untilStored, Guest.printsOptions y.call = false := by decide
    exact fun hx => hprints (hsilent x hx)
  have hsplit : startedAndProvisioned prepared =
      untilStored ++ (prepared ++ (askedRunning ++ completing)) := by
    simp [startedAndProvisioned, untilStored]
  obtain ⟨middle, rfl, hmiddle⟩ := split_of_append_eq (hsplit.symm.trans heq) hfirst
  have hstores : (Provision.storing (ctx.channel config) stored).StoresOptions := by
    simp [Exchange.StoresOptions, Provision.storing]
  refine Guest.printsStored_of_since ⟨⟨.isRegistered "pcfdev-v1", .ok false⟩ :: beforeStored, _,
    middle, by simp [untilStored], hstores, ?_⟩
  have hidle : ∀ y ∈ askedRunning ++ completing, y.call.changes? = none := by decide
  have hkeeps : ∀ y ∈ middle, y.call.changes? = none := by
    intro y hy
    have hmem : y ∈ prepared ++ (askedRunning ++ completing) := by
      rw [hmiddle]
      exact List.mem_append_left _ hy
    exact (List.mem_append.1 hmem).elim (hprepared y) (hidle y)
  rintro y hy image rfl
  cases hkeeps _ hy

end MySqlVm

open MySqlVm in
/-- Where no step of the start has failed, the script that is left for later is run
after the password was installed. -/
theorem password_of_provision :
    let trace : List Exchange := startedAndProvisioned afterStored
    let script : Exchange :=
      ⟨.execute (Guest.provisionCommand stored) (ctx.provisionChannel config), .ok ()⟩
    (∀ before x after, trace = before ++ x :: after → Guest.PrintsStored "pcfdev-v1" before x) ∧
      Runs (ctx.session 1 "pcfdev-v1" [.start start, .provision]) trace
        (some [.ok (), .ok ()]) ∧
      ∃ before after, trace = before ++ script :: after ∧ script.call.script? ≠ none ∧
        SinceImport "pcfdev-v1" Exchange.InstallsPassword before := by
  intro trace script
  have guest : ∀ before x after, trace = before ++ x :: after →
      Guest.PrintsStored "pcfdev-v1" before x :=
    printsStored (by decide)
  have run := runs_startedAndProvisioned runs_creating
  have hscript : script.call.script? ≠ none := by
    simp [script]
  let before : List Exchange := ⟨.isRegistered "pcfdev-v1", .ok false⟩ :: creating ++
    (askedRunning ++ completing.take 2)
  have hbefore : trace = before ++ script :: completing.drop 3 := by
    simp [trace, before, startedAndProvisioned, creating, completing, script]
  have hcalm : ∀ x ∈ before, x.fault? = none := by decide
  refine ⟨guest, run, before, _, hbefore, hscript, ?_⟩
  rcases password_before_script guest run before script _ hbefore hscript with
    hinstalled | ⟨⟨earlier, x, since, heq, hmissed, -⟩, -⟩
  · exact hinstalled
  · exact absurd (hcalm x (by simp [heq])) hmissed.1

open MySqlVm in
/-- The connection is lost when the password is to be installed, so the start fails.
The VM is found to run without being provisioned, and is provisioned with success:
the script was run, and the password was never installed. -/
theorem script_without_password :
    let lost : Exchange := ⟨.execute Guest.installPasswordCommand (ctx.channel config),
      .error (.ssh "connection lost")⟩
    let trace : List Exchange := startedAndProvisioned [lost]
    Truthful (fun _ => none) trace ∧
      (∀ before x after, trace = before ++ x :: after →
        Guest.PrintsStored "pcfdev-v1" before x) ∧
      Runs (ctx.session 1 "pcfdev-v1" [.start start, .provision]) trace
        (some [.error (.failed .provision (.ssh "connection lost")), .ok ()]) ∧
      (∃ x ∈ trace, x.call.script? ≠ none ∧ x.fault? = none) ∧
      ∀ x ∈ trace, ¬ x.InstallsPassword := by
  intro lost trace
  have run : Runs (Snapshot.start ctx start 1 (.notCreated "pcfdev-v1")).run
      (beforeStored ++ Provision.storing (ctx.channel config) stored :: [lost])
      (some (.error (.failed .provision (.ssh "connection lost")))) :=
    .ask _ (.ask _ (.note (.ask _ (.ask _ (.note (.note (.ask _ (.note (.ask _ (.ask _ (.ask _
      (.ask _ (.ask _ (.note (.ask _ (.ask _ (.ask _ (.ask _ (.ask _ (.ask _ (.note (.ask _ (.note
      (.ask _ (.ask _ (.ask _ (.done _)))))))))))))))))))))))))))
  have truthful : Truthful (fun _ => none) trace := by
    exact ⟨rfl, trivial, trivial, trivial, trivial, trivial, trivial, trivial, trivial, trivial,
      trivial, trivial, rfl, trivial, trivial, trivial, rfl, trivial, trivial, trivial, trivial,
      rfl, trivial, trivial, trivial, rfl, trivial, trivial, trivial, trivial, trivial, trivial⟩
  refine ⟨truthful, printsStored (by decide), runs_startedAndProvisioned run, ?_, ?_⟩
  · refine ⟨⟨.execute (Guest.provisionCommand stored) (ctx.provisionChannel config), .ok ()⟩,
      ?_, ?_, rfl⟩
    · simp [trace, startedAndProvisioned, completing]
    · simp
  · decide +kernel

end VmLifecycle
