import VmLifecycle.Proofs.Lifecycle.Calm
import VmLifecycle.Proofs.Provision.Storing

/-!
# Resuming a provisioning run

A start stores its options in the guest before it does anything with them. If it
gets no further than that, the run that is resumed later goes on from there as
the start would have done: with the same script command and the same help.

The two runs meet in the guest's options file. What the start writes goes
through the guest's shell into the file, and what the file holds is read back as
the same options. Whatever else it holds, the script is run with the options that
all of it is decoded to, or it is not run.
-/

namespace VmLifecycle.Provision

open Program

variable {ctx : Context} {config : VmConfig} {options : ProvisionOptions}
  {trace : List Exchange} {r : Option (Except LifecycleError Unit)}

/-- A provisioning run and what is said of it: the script fails, or the help is
shown. -/
inductive Provisioned (channel : Channel) (command help : String) :
    List Exchange → Except LifecycleError Unit → Prop
  | failed (fault : Fault) :
      Provisioned channel command help
        [⟨.tell "Provisioning VM...", ()⟩, ⟨.execute command channel, .error fault⟩]
        (.error (.failed .provision fault))
  | succeeded :
      Provisioned channel command help
        [⟨.tell "Provisioning VM...", ()⟩, ⟨.execute command channel, .ok ()⟩, ⟨.tell help, ()⟩]
        (.ok ())

/-- What follows in a start once the options are stored. With `skip`, the script
is not run. -/
inductive Aftermath (ctx : Context) (config : VmConfig) (command help : String) (skip : Bool) :
    List Exchange → Except LifecycleError Unit → Prop
  | refused (fault : Fault) :
      Aftermath ctx config command help skip
        [⟨.execute Guest.installPasswordCommand (ctx.channel config), .error fault⟩]
        (.error (.failed .provision fault))
  | skipped (hskip : skip = true) :
      Aftermath ctx config command help skip
        [⟨.execute Guest.installPasswordCommand (ctx.channel config), .ok ()⟩,
         ⟨.tell "VM will not be provisioned because '-n' option was supplied.", ()⟩]
        (.ok ())
  | provisioned {rest : List Exchange} {result : Except LifecycleError Unit}
      (hskip : skip = false)
      (hrest : Provisioned (ctx.provisionChannel config) command help rest result) :
      Aftermath ctx config command help skip
        (⟨.execute Guest.installPasswordCommand (ctx.channel config), .ok ()⟩ :: rest) result

/-! ## The runs of the parts -/

def complete (ctx : Context) (config : VmConfig) (options : ProvisionOptions)
    (domain : String) : Action Unit := do
  tell "Provisioning VM..."
  (provisionGuest ctx config options).during .provision
  tell (Guest.welcomeText domain)

theorem runs_complete {domain : String} :
    Runs (complete ctx config options domain).run trace r ↔
      ∃ result, r = some result ∧
        Provisioned (ctx.provisionChannel config) (Guest.provisionCommand options)
          (Guest.welcomeText domain) trace result := by
  constructor
  · intro run
    obtain ⟨⟨⟩, rest, rfl, hscript⟩ := runs_ask.1 run
    obtain ⟨reply, rest, rfl, hend⟩ := runs_ask.1 (runs_note.1 hscript)
    rcases reply with fault | ⟨⟩
    · obtain ⟨rfl, rfl⟩ := runs_done.1 hend
      exact ⟨_, rfl, .failed fault⟩
    · obtain ⟨⟨⟩, rest, rfl, hdone⟩ := runs_ask.1 (runs_note.1 hend)
      obtain ⟨rfl, rfl⟩ := runs_done.1 hdone
      exact ⟨_, rfl, .succeeded⟩
  · rintro ⟨result, rfl, hprovisioned⟩
    cases hprovisioned with
    | failed fault => exact .ask _ (.note (.ask _ (.done _)))
    | succeeded => exact .ask _ (.note (.ask _ (.note (.ask _ (.done _)))))

/-- What a start does once the options are stored. -/
def afterStoring (ctx : Context) (config : VmConfig) (options : ProvisionOptions)
    (skip : Bool) : Action Unit := do
  Attempt.during .provision (do
    execute Guest.installPasswordCommand (ctx.channel config)
    Program.log (.debug "Stored provisioning options" [("vm", .text config.name)]))
  if skip then tell "VM will not be provisioned because '-n' option was supplied."
  else complete ctx config options config.domain

theorem runs_afterStoring {skip : Bool} :
    Runs (afterStoring ctx config options skip).run trace r ↔
      ∃ result, r = some result ∧
        Aftermath ctx config (Guest.provisionCommand options) (Guest.welcomeText config.domain)
          skip trace result := by
  constructor
  · intro run
    obtain ⟨reply, rest, rfl, hend⟩ := runs_ask.1 run
    rcases reply with fault | ⟨⟩
    · obtain ⟨rfl, rfl⟩ := runs_done.1 hend
      exact ⟨_, rfl, .refused fault⟩
    · cases skip with
      | true =>
          obtain ⟨⟨⟩, rest, rfl, hdone⟩ := runs_ask.1 (runs_note.1 hend)
          obtain ⟨rfl, rfl⟩ := runs_done.1 hdone
          exact ⟨_, rfl, .skipped rfl⟩
      | false =>
          have hcomplete : Runs (complete ctx config options config.domain).run rest r :=
            runs_note.1 hend
          obtain ⟨result, rfl, hprovisioned⟩ := runs_complete.1 hcomplete
          exact ⟨result, rfl, .provisioned rfl hprovisioned⟩
  · rintro ⟨result, rfl, haftermath⟩
    cases haftermath with
    | refused fault => exact .ask _ (.done _)
    | skipped hskip =>
        subst hskip
        exact .ask _ (.note (.ask _ (.done _)))
    | provisioned hskip hrest =>
        subst hskip
        exact .ask _ (.note (runs_complete.2 ⟨result, rfl, hrest⟩))

/-- The options of a start were stored. -/
def storing (channel : Channel) (options : ProvisionOptions) : Exchange :=
  ⟨.execute (Guest.storeOptionsCommand options) channel, .ok ()⟩

def beforeStoring (config : VmConfig) : List Exchange :=
  [⟨.tell "Starting VM...", ()⟩, ⟨.powerOn config.name, .ok ()⟩]

theorem runs_bringUp_append {start : StartOptions} :
    Runs (bringUp ctx config start).run
        (beforeStoring config ++ storing (ctx.channel config)
          (.ofStart config start ctx.settings.defaultServices) :: trace) r ↔
      Runs (afterStoring ctx config (.ofStart config start ctx.settings.defaultServices)
        start.noProvision).run trace r := by
  constructor
  · intro run
    obtain ⟨⟨⟩, rest, htell, hpower⟩ := runs_ask.1 run
    cases htell
    obtain ⟨reply, rest, hreply, hstore⟩ := runs_ask.1 (runs_note.1 hpower)
    cases hreply
    obtain ⟨reply, rest, hreply, hafter⟩ := runs_ask.1 hstore
    cases hreply
    exact hafter
  · exact fun run => .ask _ (.note (.ask _ (.ask _ run)))

/-! ## Where the options are stored -/

/-- After the options were stored, a start says something or executes a command
that does not write them again. -/
theorem exchange_of_aftermath {skip : Bool} {help : String} {result : Except LifecycleError Unit}
    (h : Aftermath ctx config (Guest.provisionCommand options) help skip trace result)
    {x : Exchange} (hx : x ∈ trace) :
    (∃ text, x = ⟨.tell text, ()⟩) ∨ ∃ command channel reply,
      x = ⟨.execute command channel, reply⟩ ∧ Guest.writesOptions? command = none := by
  have hpassword := Guest.writesOptions?_installPasswordCommand
  have hscript := Guest.writesOptions?_provisionCommand options
  cases h with
  | refused fault =>
      obtain rfl := List.mem_singleton.1 hx
      exact .inr ⟨_, _, _, rfl, hpassword⟩
  | skipped hskip =>
      simp only [List.mem_cons, List.not_mem_nil, or_false] at hx
      rcases hx with rfl | rfl
      · exact .inr ⟨_, _, _, rfl, hpassword⟩
      · exact .inl ⟨_, rfl⟩
  | provisioned hskip hrest =>
      rcases List.mem_cons.1 hx with rfl | hx
      · exact .inr ⟨_, _, _, rfl, hpassword⟩
      · cases hrest with
        | failed fault =>
            simp only [List.mem_cons, List.not_mem_nil, or_false] at hx
            rcases hx with rfl | rfl
            · exact .inl ⟨_, rfl⟩
            · exact .inr ⟨_, _, _, rfl, hscript⟩
        | succeeded =>
            simp only [List.mem_cons, List.not_mem_nil, or_false] at hx
            rcases hx with rfl | rfl | rfl
            · exact .inl ⟨_, rfl⟩
            · exact .inr ⟨_, _, _, rfl, hscript⟩
            · exact .inl ⟨_, rfl⟩

theorem storing_not_mem_aftermath {skip : Bool} {help : String}
    {result : Except LifecycleError Unit} {channel : Channel} {stored : ProvisionOptions}
    (h : Aftermath ctx config (Guest.provisionCommand options) help skip trace result) :
    storing channel stored ∉ trace := by
  intro hx
  rcases exchange_of_aftermath h hx with ⟨text, hcall⟩ | ⟨command, _, reply, hcall, hnone⟩
  · cases hcall
  · cases hcall
    rw [Guest.writesOptions?_storeOptionsCommand] at hnone
    cases hnone

/-- Where a run that brings a VM up has stored options, these are the options of
the start. -/
theorem split_of_runs_bringUp {start : StartOptions} {before after : List Exchange}
    {channel : Channel} {stored : ProvisionOptions}
    (run : Runs (bringUp ctx config start).run (before ++ storing channel stored :: after) r) :
    before = beforeStoring config ∧
      storing channel stored = storing (ctx.channel config)
        (.ofStart config start ctx.settings.defaultServices) := by
  obtain ⟨⟨⟩, rest, htrace, hpower⟩ := runs_ask.1 run
  have hmem : storing channel stored ∈ before ++ storing channel stored :: after := by simp
  obtain ⟨reply, rest, rfl, hstore⟩ := runs_ask.1 (runs_note.1 hpower)
  rcases reply with fault | ⟨⟩
  · obtain ⟨rfl, -⟩ := runs_done.1 hstore
    rw [htrace] at hmem
    simp [storing] at hmem
  · obtain ⟨reply, rest, rfl, hafter⟩ := runs_ask.1 hstore
    rcases reply with fault | ⟨⟩
    · obtain ⟨rfl, -⟩ := runs_done.1 hafter
      rw [htrace] at hmem
      simp [storing] at hmem
    · have hafter : Runs (afterStoring ctx config
          (.ofStart config start ctx.settings.defaultServices) start.noProvision).run rest r :=
        hafter
      obtain ⟨result, rfl, haftermath⟩ := runs_afterStoring.1 hafter
      have hlead : storing channel stored ∉ beforeStoring config := by
        simp [storing, beforeStoring]
      have htrace : beforeStoring config ++ storing (ctx.channel config)
          (.ofStart config start ctx.settings.defaultServices) :: rest =
          before ++ storing channel stored :: after :=
        htrace.symm
      obtain ⟨middle, rfl, hrest⟩ := split_of_append_eq htrace hlead
      -- the options cannot be stored once more in what follows
      cases middle with
      | nil =>
          obtain ⟨hstored, -⟩ := List.cons.inj hrest
          exact ⟨List.append_nil _, hstored.symm⟩
      | cons x middle =>
          obtain ⟨-, hrest⟩ := List.cons.inj hrest
          have hafterwards : storing channel stored ∉ rest := storing_not_mem_aftermath haftermath
          rw [hrest] at hafterwards
          simp at hafterwards

/-- Whether a call runs a command without asking for its output. -/
def isExecute : Call → Bool
  | .execute _ _ => true
  | _ => false

/-- A program that handles a VM from outside its guest executes nothing. -/
theorem only_of_handles {name : String} {α : Type} {p : Program α}
    (h : Only (Call.Handles name) p) : Only (isExecute · = false) p := by
  refine h.mono fun call hcall => ?_
  have hchannel := Call.channel?_of_handles hcall
  cases call <;> first | rfl | cases hchannel

theorem only_query {P : Call → Prop} {name : String} (hregistered : P (.isRegistered name))
    (haddress : P (.vmAddress name)) (hport : P (.forwardedPort name Guest.sshRule))
    (hresources : P (.resources name)) (hstate : P (.runState name))
    (hmarker : ∀ channel, P (.commandOutput Guest.printMarkerCommand channel)) :
    Only P (ctx.query name).run := by
  have hconfiguration : Only P (Hypervisor.configuration ctx.table name).run := by
    refine only_run_bind (only_call haddress) fun ip => ?_
    refine only_run_bind (only_call hport) fun port => ?_
    exact only_run_bind (only_call hresources) fun resources => only_run_pure _
  have hinterpret (config : VmConfig) (state : RunState) :
      Only P (ctx.interpret config state) := by
    cases state with
    | running =>
        refine only_bind (only_call (hmarker _)) fun reply => ?_
        cases reply <;> trivial
    | _ => trivial
  refine only_run_bind (only_run_adapt (only_call hregistered)) fun registered => ?_
  cases registered with
  | false => exact only_run_bind (only_run_log _) fun _ => only_run_pure _
  | true =>
      refine only_run_lift (only_bind hconfiguration fun outcome => ?_)
      rcases outcome with fault | config
      · trivial
      · refine only_bind (only_call hstate) fun outcome => ?_
        rcases outcome with fault | state
        · trivial
        · exact only_bind (hinterpret config state) fun _ => trivial

/-- A program that executes nothing stores no options. -/
theorem storing_not_mem_of_only {α : Type} {p : Program α} {q : Option α}
    {channel : Channel} {stored : ProvisionOptions} (hp : Only (isExecute · = false) p)
    (run : Runs p trace q) : storing channel stored ∉ trace := by
  intro hmem
  cases hp.of_runs run hmem

theorem not_runs_of_only {α : Type} {p : Program α} {q : Option α} {before after : List Exchange}
    {channel : Channel} {stored : ProvisionOptions} (hp : Only (isExecute · = false) p) :
    ¬ Runs p (before ++ storing channel stored :: after) q := by
  intro run
  have hnot : storing channel stored ∉ before ++ storing channel stored :: after :=
    storing_not_mem_of_only hp run
  simp at hnot

theorem split_of_runs_startExisting {start : StartOptions} {phase : Phase}
    {before after : List Exchange} {channel : Channel} {stored : ProvisionOptions}
    (run : Runs (Snapshot.startExisting ctx start config phase).run
      (before ++ storing channel stored :: after) r) :
    storing channel stored = storing (ctx.channel config)
        (.ofStart config start ctx.settings.defaultServices) ∧
      ∀ (skip : Bool) (trace : List Exchange) (q : Option (Except LifecycleError Unit)),
        Runs (Snapshot.startExisting ctx { start with noProvision := skip } config phase).run
            (before ++ storing channel stored :: trace) q ↔
          Runs (afterStoring ctx config (.ofStart config start ctx.settings.defaultServices)
            skip).run trace q := by
  have hrestore : Only (isExecute · = false) (Snapshot.restore config).run :=
    only_of_handles Handles.only_restore
  cases phase with
  | stopped =>
      obtain ⟨rfl, hstored⟩ := split_of_runs_bringUp run
      refine ⟨hstored, fun skip trace q => ?_⟩
      rw [hstored]
      exact runs_bringUp_append
  | aborted =>
      have hensure : Only (isExecute · = false) (Memory.ensure config.memory).run :=
        only_of_handles (Handles.only_ensure ctx config.name config.memory)
      obtain ⟨_, first, middle, rfl, hfirst, hrest⟩ :=
        split_of_runs_run_bind (storing_not_mem_of_only hensure) run
      obtain ⟨rfl, hstored⟩ := split_of_runs_bringUp hrest
      refine ⟨hstored, fun skip trace q => ?_⟩
      rw [List.append_assoc, hstored]
      exact (runs_run_bind_append hfirst).trans runs_bringUp_append
  | running => exact absurd run (not_runs_of_only (only_run_tell _ rfl))
  | suspended => exact absurd run (not_runs_of_only hrestore)
  | paused => exact absurd run (not_runs_of_only hrestore)
  | saved => exact absurd run (not_runs_of_only hrestore)
  | unprovisioned => exact absurd run (not_runs_of_only (only_run_throw _))
  | recoverable => exact absurd run (not_runs_of_only (only_run_throw _))

/-- A start that stores options stores those of one VM, the one that it brings
up. From there on it goes as it would go from there with or without the script. -/
theorem split_of_runs_start {start : StartOptions} {imports : Nat} {s : Snapshot}
    {before after : List Exchange} {channel : Channel} {stored : ProvisionOptions}
    (run : Runs (Snapshot.start ctx start imports s).run
      (before ++ storing channel stored :: after) r) :
    ∃ config, storing channel stored = storing (ctx.channel config)
        (.ofStart config start ctx.settings.defaultServices) ∧
      ∀ (skip : Bool) (trace : List Exchange) (q : Option (Except LifecycleError Unit)),
        Runs (Snapshot.start ctx { start with noProvision := skip } imports s).run
            (before ++ storing channel stored :: trace) q ↔
          Runs (afterStoring ctx config (.ofStart config start ctx.settings.defaultServices)
            skip).run trace q := by
  induction imports generalizing s before with
  | zero =>
      cases s with
      | notCreated => exact absurd run (not_runs_of_only trivial)
      | existing phase config => exact ⟨config, split_of_runs_startExisting run⟩
      | invalid => exact absurd run (not_runs_of_only (only_run_throw _))
  | succ imports ih =>
      cases s with
      | notCreated name =>
          have hcreate : Only (isExecute · = false) (Snapshot.create ctx name start).run :=
            only_of_handles (Handles.only_create start)
          have hquery : Only (isExecute · = false) (ctx.query name).run :=
            only_query rfl rfl rfl rfl rfl fun _ => rfl
          -- neither the import nor the query executes anything, so the options
          -- are stored in the start of what was found after them
          obtain ⟨_, created, middle, rfl, hcreated, run⟩ :=
            split_of_runs_run_bind (storing_not_mem_of_only hcreate) run
          obtain ⟨found, asked, middle, rfl, hasked, run⟩ :=
            split_of_runs_run_bind (storing_not_mem_of_only hquery) run
          obtain ⟨config, hstored, hafter⟩ := ih run
          refine ⟨config, hstored, fun skip trace q => ?_⟩
          rw [List.append_assoc, List.append_assoc, ← hafter skip trace q]
          exact (runs_run_bind_append hcreated).trans (runs_run_bind_append hasked)
      | existing phase config => exact ⟨config, split_of_runs_startExisting run⟩
      | invalid => exact absurd run (not_runs_of_only (only_run_throw _))

/-! ## The resumed run -/

theorem sparesOptions_of_aftermath {skip : Bool} {help : String}
    {result : Except LifecycleError Unit}
    (h : Aftermath ctx config (Guest.provisionCommand options) help skip trace result) :
    ∀ x ∈ trace, Guest.SparesOptions x := by
  intro x hx
  rcases exchange_of_aftermath h hx with ⟨text, rfl⟩ | ⟨command, channel, reply, rfl, hnone⟩
  · exact fun _ => rfl
  · exact Guest.sparesOptions_execute hnone channel reply

theorem sparesOptions_of_runs_query {name : String}
    {q : Option (Except LifecycleError Snapshot)} (run : Runs (ctx.query name).run trace q) :
    ∀ x ∈ trace, Guest.SparesOptions x := by
  have hquery : Only (fun c => ∀ reply, Guest.SparesOptions ⟨c, reply⟩) (ctx.query name).run := by
    have hmarker := Guest.writesOptions?_printMarkerCommand
    refine only_query ?_ ?_ ?_ ?_ ?_ fun channel reply => ?_
    case refine_6 => exact Guest.sparesOptions_commandOutput hmarker channel reply
    all_goals exact fun _ _ => rfl
  exact fun x hx => hquery.of_runs run hx x.reply

def resumeWith (ctx : Context) (config : VmConfig) :
    Except Json.ReadError (Option ProvisionOptions) → Action Unit
  | .error error => throw (.json error)
  | .ok none => throw .noStoredOptions
  | .ok (some options) => complete ctx config options options.domain

theorem resume_eq :
    resume ctx config =
      Attempt.during .provision
          (Program.call (.commandOutput Guest.printOptionsCommand (ctx.channel config))).outcome >>=
        fun output => resumeWith ctx config (ProvisionOptions.ofStored output) := by
  unfold resume
  refine congrArg _ (funext fun output => ?_)
  generalize ProvisionOptions.ofStored output = stored
  rcases stored with error | _ | options
  · rfl
  · rfl
  · rfl

theorem provision_unprovisioned :
    Snapshot.provision ctx (.existing .unprovisioned config) = resume ctx config := rfl

theorem runs_resume_cons {output : String} :
    Runs (resume ctx config).run
        (⟨.commandOutput Guest.printOptionsCommand (ctx.channel config), .ok output⟩ :: trace) r ↔
      Runs (resumeWith ctx config (ProvisionOptions.ofStored output)).run trace r := by
  have hread : Runs (Attempt.during .provision (Program.call
      (.commandOutput Guest.printOptionsCommand (ctx.channel config))).outcome).run
      [⟨.commandOutput Guest.printOptionsCommand (ctx.channel config), .ok output⟩]
      (some (.ok output)) :=
    .ask _ (.done _)
  rw [resume_eq]
  exact runs_run_bind_append hread

/-! ### What a guest has stored -/

section Stored

variable {output : String}

theorem ofStored_eq_none_iff :
    ProvisionOptions.ofStored output = .ok none ↔ Text.trim output = "" := by
  unfold ProvisionOptions.ofStored
  rw [← String.isEmpty_iff]
  cases hempty : (Text.trim output).isEmpty with
  | true => simp [hempty]
  | false =>
      cases hdecode : (Json.decode (Text.trim output) : Except Json.ReadError ProvisionOptions) <;>
        simp [hempty, hdecode, Except.map]

theorem ofStored_of_trim_ne (h : Text.trim output ≠ "") :
    ProvisionOptions.ofStored output = (Json.decode (Text.trim output)).map some := by
  simp only [ProvisionOptions.ofStored, String.isEmpty_iff, h, if_false]

/-- The runs that resume from what a guest has stored: the script is run with the options that
the whole output is decoded to, or it is not run. -/
inductive Resumed (ctx : Context) (config : VmConfig) :
    List Exchange → Except LifecycleError Unit → Prop
  | unread (fault : Fault) :
      Resumed ctx config
        [⟨.commandOutput Guest.printOptionsCommand (ctx.channel config), .error fault⟩]
        (.error (.failed .provision fault))
  | none {output : String} (hnone : Text.trim output = "") :
      Resumed ctx config
        [⟨.commandOutput Guest.printOptionsCommand (ctx.channel config), .ok output⟩]
        (.error .noStoredOptions)
  | damaged {output : String} {error : Json.ReadError} (hsome : Text.trim output ≠ "")
      (hdamaged : (Json.decode (Text.trim output) : Except Json.ReadError ProvisionOptions) =
        .error error) :
      Resumed ctx config
        [⟨.commandOutput Guest.printOptionsCommand (ctx.channel config), .ok output⟩]
        (.error (.json error))
  | used {output : String} {options : ProvisionOptions} {rest : List Exchange}
      {result : Except LifecycleError Unit} (hoptions : Json.decode (Text.trim output) = .ok options)
      (hrest : Provisioned (ctx.provisionChannel config) (Guest.provisionCommand options)
        (Guest.welcomeText options.domain) rest result) :
      Resumed ctx config
        (⟨.commandOutput Guest.printOptionsCommand (ctx.channel config), .ok output⟩ :: rest) result

theorem trim_ne_of_decode {options : ProvisionOptions}
    (h : Json.decode (Text.trim output) = .ok options) : Text.trim output ≠ "" := by
  intro hempty
  have hdecode : (Json.decode "" : Except Json.ReadError ProvisionOptions) = .error .truncated :=
    rfl
  rw [hempty, hdecode] at h
  cases h

theorem runs_resume :
    Runs (resume ctx config).run trace r ↔
      ∃ result, r = some result ∧ Resumed ctx config trace result := by
  constructor
  · intro run
    have hask := run
    rw [resume_eq] at hask
    obtain ⟨reply, rest, rfl, hrest⟩ := runs_ask.1 hask
    rcases reply with fault | output
    · obtain ⟨rfl, rfl⟩ := runs_done.1 hrest
      exact ⟨_, rfl, .unread fault⟩
    · have hrest := runs_resume_cons.1 run
      by_cases hempty : Text.trim output = ""
      · rw [ofStored_eq_none_iff.2 hempty] at hrest
        obtain ⟨rfl, rfl⟩ := runs_done.1 hrest
        exact ⟨_, rfl, .none hempty⟩
      · rw [ofStored_of_trim_ne hempty] at hrest
        cases hdecode :
          (Json.decode (Text.trim output) : Except Json.ReadError ProvisionOptions) with
        | error error =>
            rw [hdecode] at hrest
            obtain ⟨rfl, rfl⟩ := runs_done.1 hrest
            exact ⟨_, rfl, .damaged hempty hdecode⟩
        | ok options =>
            rw [hdecode] at hrest
            obtain ⟨result, rfl, hprovisioned⟩ := runs_complete.1 hrest
            exact ⟨result, rfl, .used hdecode hprovisioned⟩
  · rintro ⟨result, rfl, h⟩
    cases h with
    | unread fault =>
        rw [resume_eq]
        exact .ask _ (.done _)
    | none hnone =>
        rw [runs_resume_cons, ofStored_eq_none_iff.2 hnone]
        exact .done _
    | damaged hsome hdamaged =>
        rw [runs_resume_cons, ofStored_of_trim_ne hsome, hdamaged]
        exact .done _
    | used hoptions hrest =>
        rw [runs_resume_cons, ofStored_of_trim_ne (trim_ne_of_decode hoptions), hoptions]
        exact runs_complete.2 ⟨result, rfl, hrest⟩

end Stored

theorem optionsAfter_storing (channel : Channel) (file? : Option String) :
    Guest.optionsAfter file? (storing channel options) = some (Json.encode options ++ "\n") := by
  simp only [storing, Guest.optionsAfter, Guest.optionsAfter.written,
    Guest.writesOptions?_storeOptionsCommand]
  rfl

/-- A guest keeps the options if it prints them as they were stored, and nothing
else is written or printed in between. -/
theorem remembers_storing_iff {file? : Option String} {before spared later : List Exchange}
    {channel printing : Channel} {output : String}
    (hspared : ∀ x ∈ spared, Guest.SparesOptions x) :
    Guest.Remembers file? (before ++ storing channel options :: (spared ++
        ⟨.commandOutput Guest.printOptionsCommand printing, .ok output⟩ :: later)) ↔
      Guest.Remembers file? before ∧
        Guest.Remembers (some (Json.encode options ++ "\n")) spared ∧
        output = Json.encode options ++ "\n" ∧
        Guest.Remembers (some (Json.encode options ++ "\n")) later := by
  have hwrite (file? : Option String) (trace : List Exchange) :
      Guest.Remembers file? (storing channel options :: trace) ↔
        Guest.Remembers (some (Json.encode options ++ "\n")) trace := by
    rw [Guest.Remembers, optionsAfter_storing]
    refine and_iff_right ?_
    intro _ _ _ h
    cases h
  have hread (text : String) (trace : List Exchange) :
      Guest.Remembers (some text)
          (⟨.commandOutput Guest.printOptionsCommand printing, .ok output⟩ :: trace) ↔
        output = text ∧ Guest.Remembers (some text) trace := by
    rw [Guest.Remembers,
      Guest.sparesOptions_commandOutput Guest.writesOptions?_printOptionsCommand]
    refine and_congr_left fun _ => ⟨fun h => h printing output text rfl rfl, ?_⟩
    rintro houtput _ _ _ ⟨⟩ ⟨⟩
    exact houtput
  rw [Guest.remembers_append, hwrite, Guest.remembers_append, Guest.foldl_optionsAfter hspared,
    hread]

/-- Suppose a start got as far as storing its options, and the VM is found not
to be provisioned when it is asked for next. Then completing the provisioning
begins with the read of the stored options. If they cannot be read, that is all. If
they can, it runs the script command that the start ran, or would have run with the
script, and shows the help that the start shows. This holds of every text in the
options and of every way in which the start ended. -/
theorem resumed_as_started {start : StartOptions} {imports : Nat} {s : Snapshot}
    {before after : List Exchange} {channel : Channel} {stored : ProvisionOptions}
    (run : Runs (Snapshot.start ctx start imports s).run
      (before ++ storing channel stored :: after) r) :
    ∃ config : VmConfig,
      let command := Guest.provisionCommand
        (.ofStart config start ctx.settings.defaultServices)
      let help := Guest.welcomeText config.domain
      (∃ result, r = some result ∧
        Aftermath ctx config command help start.noProvision after result) ∧
      (∀ (trace : List Exchange) (q : Option (Except LifecycleError Unit)),
        Runs (Snapshot.start ctx { start with noProvision := false } imports s).run
            (before ++ storing channel stored :: trace) q ↔
          ∃ result, q = some result ∧ Aftermath ctx config command help false trace result) ∧
      ∀ (name : String) (found : VmConfig) (between resuming : List Exchange)
        (q : Option (Except LifecycleError Unit)),
        Runs (ctx.query name).run between (some (.ok (.existing .unprovisioned found))) →
        Runs (Snapshot.provision ctx (.existing .unprovisioned found)).run resuming q →
        Guest.Remembers none (before ++ storing channel stored :: ((after ++ between) ++ resuming)) →
        (∃ fault, resuming =
            [⟨.commandOutput Guest.printOptionsCommand (ctx.channel found), .error fault⟩] ∧
          q = some (.error (.failed .provision fault))) ∨
        ∃ output later result, resuming =
            ⟨.commandOutput Guest.printOptionsCommand (ctx.channel found), .ok output⟩ :: later ∧
          q = some result ∧
          Provisioned (ctx.provisionChannel found) command help later result := by
  obtain ⟨config, hstored, hafter⟩ := split_of_runs_start run
  have haftermath := runs_afterStoring.1 ((hafter start.noProvision after r).1 run)
  refine ⟨config, haftermath, fun trace q => ?_, ?_⟩
  · rw [hafter false trace q, runs_afterStoring]
  · intro name found between resuming q hquery hprovision hguest
    obtain ⟨result, -, haftermath⟩ := haftermath
    have hspared : ∀ x ∈ after ++ between, Guest.SparesOptions x := by
      intro x hx
      rcases List.mem_append.1 hx with hx | hx
      · exact sparesOptions_of_aftermath haftermath x hx
      · exact sparesOptions_of_runs_query hquery x hx
    rw [provision_unprovisioned] at hprovision
    have hask := hprovision
    rw [resume_eq] at hask
    obtain ⟨reply, later, rfl, hend⟩ := runs_ask.1 hask
    rcases reply with fault | output
    · obtain ⟨rfl, rfl⟩ := runs_done.1 hend
      exact .inl ⟨fault, rfl, rfl⟩
    · -- the guest prints what was stored
      rw [hstored, remembers_storing_iff hspared] at hguest
      obtain ⟨-, -, rfl, -⟩ := hguest
      rw [runs_resume_cons, ofStored_stored] at hprovision
      obtain ⟨result, hq, hprovisioned⟩ := runs_complete.1 hprovision
      exact .inr ⟨_, later, result, rfl, hq, hprovisioned⟩

/-- A start without the script, and with a quote in its options. -/
theorem resumed_after_skipped_script :
    let ctx : Context := ⟨.defaults ⟨[]⟩, .builtIn⟩
    let config : VmConfig := ⟨"pcfdev-v1", ⟨192, 168, 11, 11⟩, "local.pcfdev.io", 2222, 4096, 2⟩
    let start : StartOptions :=
      { StartOptions.none with registries := ["o'neil:5000"], noProvision := true }
    let options := ProvisionOptions.ofStart config start ctx.settings.defaultServices
    let later : List Exchange :=
      [⟨.tell "Provisioning VM...", ()⟩,
       ⟨.execute (Guest.provisionCommand options) (ctx.provisionChannel config), .ok ()⟩,
       ⟨.tell (Guest.welcomeText "local.pcfdev.io"), ()⟩]
    ∃ config', Provisioned (ctx.provisionChannel config)
      (Guest.provisionCommand (.ofStart config' start ctx.settings.defaultServices))
      (Guest.welcomeText config'.domain) later (.ok ()) := by
  intro ctx config start options later
  let after : List Exchange :=
    [⟨.execute Guest.installPasswordCommand (ctx.channel config), .ok ()⟩,
     ⟨.tell "VM will not be provisioned because '-n' option was supplied.", ()⟩]
  let between : List Exchange :=
    [⟨.isRegistered "pcfdev-v1", .ok true⟩, ⟨.vmAddress "pcfdev-v1", .ok ⟨192, 168, 11, 11⟩⟩,
     ⟨.forwardedPort "pcfdev-v1" "ssh", .ok 2222⟩, ⟨.resources "pcfdev-v1", .ok ⟨4096, 2⟩⟩,
     ⟨.runState "pcfdev-v1", .ok .running⟩,
     ⟨.commandOutput Guest.printMarkerCommand (ctx.channel config), .ok ""⟩]
  have run : Runs (Snapshot.start ctx start 0 (.existing .stopped config)).run
      (beforeStoring config ++ storing (ctx.channel config) options :: after) (some (.ok ())) :=
    .ask _ (.note (.ask _ (.ask _ (.ask _ (.note (.ask _ (.done _)))))))
  have hquery : Runs (ctx.query "pcfdev-v1").run between
      (some (.ok (.existing .unprovisioned config))) :=
    .ask _ (.ask _ (.ask _ (.ask _ (.ask _ (.ask _ (.note (.done _)))))))
  have hprovision : Runs (Snapshot.provision ctx (.existing .unprovisioned config)).run
      (⟨.commandOutput Guest.printOptionsCommand (ctx.channel config),
        .ok (Json.encode options ++ "\n")⟩ :: later) (some (.ok ())) := by
    rw [provision_unprovisioned, runs_resume_cons, ofStored_stored]
    exact runs_complete.2 ⟨.ok (), rfl, .succeeded⟩
  have hspared : ∀ x ∈ after ++ between, Guest.SparesOptions x := by
    have hafter : Aftermath ctx config (Guest.provisionCommand options) "" true after (.ok ()) :=
      .skipped rfl
    intro x hx
    rcases List.mem_append.1 hx with hx | hx
    · exact sparesOptions_of_aftermath hafter x hx
    · exact sparesOptions_of_runs_query hquery x hx
  have hguest : Guest.Remembers none (beforeStoring config ++
      storing (ctx.channel config) options :: ((after ++ between) ++
        ⟨.commandOutput Guest.printOptionsCommand (ctx.channel config),
          .ok (Json.encode options ++ "\n")⟩ :: later)) := by
    rw [remembers_storing_iff hspared]
    refine ⟨Guest.remembers_of_printsOptions (by decide) _,
      Guest.remembers_of_printsOptions (by decide) _, rfl,
      Guest.remembers_of_printsOptions (by decide) _⟩
  obtain ⟨config', -, -, hresumed⟩ := resumed_as_started run
  rcases hresumed "pcfdev-v1" config between _ _ hquery hprovision hguest with
    ⟨fault, hfault, -⟩ | ⟨output, rest, result, hrest, hresult, hprovisioned⟩
  · cases hfault
  · cases hresult
    obtain ⟨-, rfl⟩ := List.cons.inj hrest
    exact ⟨config', hprovisioned⟩

end VmLifecycle.Provision
