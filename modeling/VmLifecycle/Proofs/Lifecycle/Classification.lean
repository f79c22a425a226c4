import VmLifecycle.Proofs.Lifecycle.Confinement
import VmLifecycle.Proofs.Lifecycle.Findings

/-!
# What a query finds

Which answers each outcome of a query stands for is read off its courses: the
outcome tells the answers, and the answers tell the outcome.
-/

namespace VmLifecycle

open Program

variable {ctx : Context} {name : String} {trace : List Exchange}
  {r : Option (Except LifecycleError Snapshot)}

/-! ## What the outcome tells of the answers -/

/-- The questions without whose answers a VM cannot be made out. -/
def essentials (name : String) : List Call :=
  [.vmAddress name, .forwardedPort name "ssh", .resources name, .runState name]

theorem Guest.phaseOf_eq_running {reply : Except Fault String} :
    phaseOf reply = .running ↔
      ∃ output, reply = .ok output ∧ Text.trim output = "provisioned" := by
  rcases reply with fault | output <;> simp [phaseOf]

theorem Guest.phaseOf_eq_unprovisioned {reply : Except Fault String} :
    phaseOf reply = .unprovisioned ↔
      ∃ output, reply = .ok output ∧ Text.trim output ≠ "provisioned" := by
  rcases reply with fault | output <;> simp [phaseOf]

theorem Guest.phaseOf_eq_recoverable {reply : Except Fault String} :
    phaseOf reply = .recoverable ↔ ∃ fault, reply = .error fault := by
  rcases reply with fault | output
  · simp [phaseOf]
  · simp [phaseOf, apply_ite (· = Phase.recoverable)]

theorem exists_marker_ok {Q : String → Prop} :
    (∃ port reply, ctx.marker port reply ∈ trace ∧ ∃ output, reply = .ok output ∧ Q output) ↔
      ∃ port output, ctx.marker port (.ok output) ∈ trace ∧ Q output := by
  constructor
  · rintro ⟨port, reply, hmarker, output, rfl, houtput⟩
    exact ⟨port, output, hmarker, houtput⟩
  · rintro ⟨port, output, hmarker, houtput⟩
    exact ⟨port, .ok output, hmarker, output, rfl, houtput⟩

namespace Found

variable {outcome : Except LifecycleError Snapshot}

theorem asked (h : Found ctx name trace outcome) :
    ∃ port reply, trace.map (·.call) <+:
      .isRegistered name :: essentials name ++ [(ctx.marker port reply).call] := by
  cases h with
  | running ip port resources reply => exact ⟨port, reply, by simp [configurationRead, essentials]⟩
  | _ => exact ⟨0, .ok "", by simp [configurationRead, essentials]⟩

theorem answered (h : Found ctx name trace outcome) : ∀ x ∈ trace.dropLast, x.fault? = none := by
  cases h <;> simp [configurationRead, Exchange.fault?]

theorem readOnly (h : Found ctx name trace outcome) : ∀ x ∈ trace, x.call.changes? = none := by
  cases h <;> simp [configurationRead, Call.changes?, Context.marker]

theorem error_iff (h : Found ctx name trace outcome) {e : LifecycleError} :
    outcome = .error e ↔
      ∃ fault, trace = [⟨.isRegistered name, .error fault⟩] ∧ .vm fault = e := by
  cases h <;> simp [configurationRead]

theorem notCreated_iff (h : Found ctx name trace outcome) {missing : String} :
    outcome = .ok (.notCreated missing) ↔
      trace = [⟨.isRegistered name, .ok false⟩] ∧ name = missing := by
  cases h <;> simp [configurationRead]

theorem invalid_iff (h : Found ctx name trace outcome) {reason : String} :
    outcome = .ok (.invalid reason) ↔
      (∃ x ∈ trace, x.call ∈ essentials name ∧ ∃ fault, x.fault? = some fault ∧
        fault.message = reason) ∨
      ∃ text, ⟨.runState name, .ok (.unknown text)⟩ ∈ trace ∧
        "unknown VM state '" ++ text ++ "'" = reason := by
  cases h with
  | @resting _ _ _ phase hphase =>
      have hknown (text : String) : .unknown text ≠ phase.runState :=
        (phase.runState_ne_unknown text).symm
      simp [configurationRead, essentials, Exchange.fault?, hknown]
  | _ => simp [configurationRead, essentials, Exchange.fault?, Context.marker]

theorem resting_iff (h : Found ctx name trace outcome) {phase : Phase}
    (hphase : phase.runState ≠ .running) :
    (∃ config, outcome = .ok (.existing phase config)) ↔
      ⟨.runState name, .ok phase.runState⟩ ∈ trace := by
  cases h with
  | resting => simp [configurationRead, Phase.runState_eq_iff hphase, eq_comm]
  | unknown => simp [configurationRead, Phase.runState_ne_unknown]
  | running ip port resources reply =>
      have hne : Guest.phaseOf reply ≠ phase := by
        rintro rfl
        exact hphase (Guest.runState_phaseOf reply)
      simp [configurationRead, Context.marker, hphase, hne]
  | _ => simp [configurationRead]

theorem running_iff (h : Found ctx name trace outcome) {phase : Phase}
    (hphase : phase.runState = .running) :
    (∃ config, outcome = .ok (.existing phase config)) ↔
      ⟨.runState name, .ok .running⟩ ∈ trace ∧
        ∃ port reply, ctx.marker port reply ∈ trace ∧ Guest.phaseOf reply = phase := by
  cases h with
  | @resting _ _ _ other hother =>
      have hne : other ≠ phase := by
        rintro rfl
        exact hother hphase
      simp [configurationRead, Context.marker, hother.symm, hne]
  | running ip port resources reply =>
      constructor
      · rintro ⟨config, hsame⟩
        cases hsame
        exact ⟨by simp, port, reply, by simp, rfl⟩
      · rintro ⟨-, port', reply', hmarker, rfl⟩
        simp [configurationRead, Context.marker] at hmarker
        obtain ⟨-, rfl⟩ := hmarker
        exact ⟨_, rfl⟩
  | _ => simp [configurationRead, Context.marker]

theorem countP_guest (h : Found ctx name trace outcome) :
    trace.countP (·.call.channel?.isSome) ≤ 1 ∧
      (trace.countP (·.call.channel?.isSome) = 1 ↔ ⟨.runState name, .ok .running⟩ ∈ trace) := by
  cases h with
  | resting ip port resources hphase => simp [configurationRead, Call.channel?, hphase.symm]
  | _ => simp [configurationRead, Context.marker, Call.channel?]

theorem carried (h : Found ctx name trace outcome) {phase : Phase} {config : VmConfig}
    (hfound : outcome = .ok (.existing phase config)) :
    ∃ ip port resources, configurationRead name ip port resources <+: trace ∧
      ctx.configOf name ip port resources = config ∧
        ∀ x ∈ trace, ∀ channel ∈ x.call.channel?, channel = ctx.channel config := by
  subst hfound
  cases h with
  | resting ip port resources hphase =>
      refine ⟨ip, port, resources, List.prefix_append .., rfl, ?_⟩
      simp [configurationRead, Call.channel?]
  | running ip port resources reply =>
      refine ⟨ip, port, resources, List.prefix_append .., rfl, ?_⟩
      simp [configurationRead, Call.channel?, Context.marker, Context.channel, Context.configOf]

end Found

/-! ## The classification -/

/-- An outcome of a query stands for the answers that it was given. -/
structure Classified (ctx : Context) (name : String) (trace : List Exchange)
    (outcome : Except LifecycleError Snapshot) : Prop where
  /-- The questions are asked in this order, up to one of them. -/
  asked : ∃ port reply, trace.map (·.call) <+:
    .isRegistered name :: essentials name ++ [(ctx.marker port reply).call]
  /-- Nothing is asked after a question that was not answered. -/
  answered : ∀ x ∈ trace.dropLast, x.fault? = none
  readOnly : ∀ x ∈ trace, x.call.changes? = none
  error : ∀ e, outcome = .error e ↔
    ∃ fault, trace = [⟨.isRegistered name, .error fault⟩] ∧ .vm fault = e
  notCreated : ∀ missing, outcome = .ok (.notCreated missing) ↔
    trace = [⟨.isRegistered name, .ok false⟩] ∧ name = missing
  invalid : ∀ reason, outcome = .ok (.invalid reason) ↔
    (∃ x ∈ trace, x.call ∈ essentials name ∧ ∃ fault, x.fault? = some fault ∧
      fault.message = reason) ∨
    ∃ text, ⟨.runState name, .ok (.unknown text)⟩ ∈ trace ∧
      "unknown VM state '" ++ text ++ "'" = reason
  resting : ∀ phase : Phase, phase.runState ≠ .running →
    ((∃ config, outcome = .ok (.existing phase config)) ↔
      ⟨.runState name, .ok phase.runState⟩ ∈ trace)
  running : (∃ config, outcome = .ok (.existing .running config)) ↔
    ⟨.runState name, .ok .running⟩ ∈ trace ∧ ∃ port output,
      ctx.marker port (.ok output) ∈ trace ∧ Text.trim output = "provisioned"
  unprovisioned : (∃ config, outcome = .ok (.existing .unprovisioned config)) ↔
    ⟨.runState name, .ok .running⟩ ∈ trace ∧ ∃ port output,
      ctx.marker port (.ok output) ∈ trace ∧ Text.trim output ≠ "provisioned"
  recoverable : (∃ config, outcome = .ok (.existing .recoverable config)) ↔
    ⟨.runState name, .ok .running⟩ ∈ trace ∧ ∃ port fault, ctx.marker port (.error fault) ∈ trace
  /-- A guest is asked once, and only that of a VM that runs. -/
  guest : trace.countP (·.call.channel?.isSome) ≤ 1 ∧
    (trace.countP (·.call.channel?.isSome) = 1 ↔ ⟨.runState name, .ok .running⟩ ∈ trace)
  /-- The configuration is made of what was read, and leads to the guest that was
  asked. -/
  carried : ∀ phase config, outcome = .ok (.existing phase config) →
    ∃ ip port resources, configurationRead name ip port resources <+: trace ∧
      ctx.configOf name ip port resources = config ∧
        ∀ x ∈ trace, ∀ channel ∈ x.call.channel?, channel = ctx.channel config

theorem Found.classified {outcome : Except LifecycleError Snapshot}
    (h : Found ctx name trace outcome) : Classified ctx name trace outcome where
  asked := h.asked
  answered := h.answered
  readOnly := h.readOnly
  error _ := h.error_iff
  notCreated _ := h.notCreated_iff
  invalid _ := h.invalid_iff
  resting _ hphase := h.resting_iff hphase
  running := by
    rw [h.running_iff rfl]
    simp only [Guest.phaseOf_eq_running, exists_marker_ok]
  unprovisioned := by
    rw [h.running_iff rfl]
    simp only [Guest.phaseOf_eq_unprovisioned, exists_marker_ok]
  recoverable := by
    rw [h.running_iff rfl]
    simp only [Guest.phaseOf_eq_recoverable]
    constructor
    · rintro ⟨hstate, port, reply, hmarker, fault, rfl⟩
      exact ⟨hstate, port, fault, hmarker⟩
    · rintro ⟨hstate, port, fault, hmarker⟩
      exact ⟨hstate, port, .error fault, hmarker, fault, rfl⟩
  guest := h.countP_guest
  carried _ _ hfound := h.carried hfound

/-- Whatever the answers are, a query ends, and its outcome stands for them: what
was not answered, the run state, and what the guest of a running VM says decide how
the VM is found, and what was read is its configuration. -/
theorem query_classifies (ctx : Context) (name : String) (trace : List Exchange)
    (r : Option (Except LifecycleError Snapshot)) (run : Runs (ctx.query name).run trace r) :
    ∃ outcome, r = some outcome ∧ Classified ctx name trace outcome := by
  obtain ⟨outcome, houtcome, hfound⟩ := found_of_runs_query run
  exact ⟨outcome, houtcome, hfound.classified⟩

/-- Blanks around the word that the guest of a running VM prints do not count. -/
theorem query_classifies_blanks :
    let ctx : Context := ⟨.defaults ⟨[]⟩, .builtIn⟩
    let trace : List Exchange :=
      configurationRead "pcfdev-v1" ⟨192, 168, 22, 11⟩ 2222 ⟨4096, 2⟩ ++
        [⟨.runState "pcfdev-v1", .ok .running⟩, ctx.marker 2222 (.ok " provisioned\n")]
    let snapshot : Snapshot :=
      .existing .running ⟨"pcfdev-v1", ⟨192, 168, 22, 11⟩, "local2.pcfdev.io", 2222, 4096, 2⟩
    Runs (ctx.query "pcfdev-v1").run trace (some (.ok snapshot)) ∧
      ∃ outcome, some (.ok snapshot) = some outcome ∧
        Classified ctx "pcfdev-v1" trace outcome := by
  intro ctx trace snapshot
  have run : Runs (ctx.query "pcfdev-v1").run trace (some (.ok snapshot)) :=
    .ask _ (.ask _ (.ask _ (.ask _ (.ask _ (.ask _ (.note (.done _)))))))
  exact ⟨run, query_classifies ctx "pcfdev-v1" trace _ run⟩

end VmLifecycle
