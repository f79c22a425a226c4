import VmLifecycle.Proofs.Hypervisor.Keeping
import VmLifecycle.Proofs.Lifecycle.Answers
import VmLifecycle.Proofs.Lifecycle.Attribution
import VmLifecycle.Proofs.Lifecycle.Creation

/-!
# Starts that settle

A start that has imported a VM asks for it and starts what it finds, which may again
be a VM that does not exist. Nothing in the start puts an end to this. What does is a
hypervisor that keeps what it imports: the VM is then not found missing right after
its import, whatever else is found, so one import is enough, and what is left is the
start of a VM that exists.
-/

namespace VmLifecycle

open Program

/-- A call that imports a VM. -/
def Call.imports : Call → Bool
  | .register _ _ => true
  | _ => false

/-- A call that makes a VM run. -/
def Call.boots : Call → Bool
  | .powerOn _ => true
  | .resume _ => true
  | _ => false

variable {ctx : Context} {start : StartOptions} {name : String} {s : Snapshot}
  {config : VmConfig} {phase : Phase} {trace importing asking starting : List Exchange}
  {r : Option (Except LifecycleError Unit)} {imports : Nat}

/-! ## How often a start imports and boots -/

namespace Hypervisor

variable {table : AddressTable} {image adapter : String} {spec : NewVm}

/-- To set up a VM neither imports one nor makes it run. -/
theorem only_setUp_of_kind : Only (fun call => call.imports = false ∧ call.boots = false)
    (setUp name adapter spec).run := by
  refine only_setUp.mono fun call hcall => ?_
  cases hcall <;> exact ⟨rfl, rfl⟩

theorem atMost_imports_register :
    AtMost Call.imports 1 (register table name image spec).run := by
  intro trace r run
  refine atMost_run_bind_right ?_ (fun found => ?_) trace r (runs_register.1 run)
  · exact only_reserve rfl rfl (fun _ => rfl) fun _ => rfl
  refine atMost_run_bind_left (atMost_call _) fun _ => ?_
  refine only_run_bind (only_run_caught (only_setUp_of_kind.mono fun _ h => h.1)) fun outcome => ?_
  cases outcome with
  | ok port => exact only_run_log _
  | error fault => exact only_abandon rfl

end Hypervisor

namespace Snapshot

theorem atMost_imports_create : AtMost Call.imports 1 (create ctx name start).run := by
  have hsearch : Only (fun call => call.imports = false) (refuseConflict name).run :=
    Looks.only_searching (P := fun call => call.imports = false) rfl (fun _ => rfl) name
  refine atMost_run_bind_right hsearch fun _ => ?_
  refine atMost_run_bind_right (only_run_except _) fun subnet => ?_
  refine atMost_run_bind_right (only_run_tell _ rfl) fun _ => ?_
  refine atMost_run_bind_left (atMost_run_adapt ?_) fun _ => only_run_tell _ rfl
  exact Hypervisor.atMost_imports_register

theorem only_boots_create :
    Only (fun call => call.boots = false) (create ctx name start).run := by
  refine only_create rfl (fun _ => rfl) (fun _ => rfl) fun subnet => ?_
  refine Hypervisor.only_register ?_ rfl (fun adapter => ?_) rfl
  · exact Hypervisor.only_reserve rfl rfl (fun _ => rfl) fun _ => rfl
  · exact Hypervisor.only_setUp_of_kind.mono fun _ h => h.2

theorem only_imports_startExisting :
    Only (fun call => call.imports = false) (startExisting ctx start config phase).run := by
  refine Provisions.only_startExisting.mono fun call hcall => ?_
  have hrecords : call.records? = none := hcall.2
  cases call <;> first | rfl | cases hrecords

theorem atMost_boots_bringUp : AtMost Call.boots 1 (Provision.bringUp ctx config start).run := by
  refine atMost_run_bind_right (only_run_tell _ rfl) fun _ => ?_
  refine atMost_run_bind_left (atMost_run_adapt ?_) fun _ => ?_
  · exact atMost_run_bind_right (only_run_log _) fun _ => atMost_call _
  refine only_run_bind (only_run_adapt ?_) fun _ => ?_
  · refine only_run_bind (only_call rfl) fun _ => ?_
    exact only_run_bind (only_call rfl) fun _ => only_run_log _
  split
  · exact only_run_tell _ rfl
  · refine only_run_announced (fun _ => rfl) ?_
    refine only_run_bind (only_run_log _) fun _ => ?_
    exact only_run_bind (only_call rfl) fun _ => only_run_log _

theorem atMost_boots_restore : AtMost Call.boots 1 (restore config).run := by
  refine atMost_run_bind_right (only_run_tell _ rfl) fun _ => ?_
  refine atMost_run_bind_left (atMost_run_adapt ?_) fun _ => only_run_tell _ rfl
  exact atMost_run_bind_right (only_run_log _) fun _ => atMost_call _

theorem atMost_boots_of_only {p : Program (Except LifecycleError Unit)}
    (h : Only (fun call => call.boots = false) p) : AtMost Call.boots 1 p :=
  (AtMost.of_only h).mono (Nat.zero_le 1)

theorem atMost_boots_startExisting :
    AtMost Call.boots 1 (startExisting ctx start config phase).run := by
  cases phase with
  | stopped => exact atMost_boots_bringUp
  | running => exact atMost_boots_of_only (only_run_tell _ rfl)
  | suspended => exact atMost_boots_restore
  | paused => exact atMost_boots_restore
  | saved => exact atMost_boots_restore
  | aborted =>
      refine atMost_run_bind_right ?_ fun _ => atMost_boots_bringUp
      have hlooks : Only (Call.Looks ctx (.invalid "")) (Memory.ensure config.memory).run :=
        Looks.only_ensure config.memory
      refine hlooks.mono fun call hcall => ?_
      cases hcall with
      | idle h =>
          obtain ⟨hchanges, -, -⟩ := Call.isIdle_iff.1 h
          cases call <;> first | rfl | cases hchanges
      | print hs => cases hs
      | session hs => cases hs
  | unprovisioned => exact atMost_boots_of_only (only_run_throw _)
  | recoverable => exact atMost_boots_of_only (only_run_throw _)

/-- The start of a VM that was found does not depend on the bound. -/
theorem start_of_found (hs : ∀ missing, s ≠ .notCreated missing) :
    Snapshot.start ctx start imports s = Snapshot.start ctx start 0 s := by
  cases s with
  | notCreated missing => exact absurd rfl (hs missing)
  | existing phase config => rw [start_existing, start_existing]
  | invalid reason => rw [start_invalid, start_invalid]

theorem only_imports_start_zero :
    Only (fun call => call.imports = false) (Snapshot.start ctx start 0 s).run := by
  cases s with
  | notCreated missing => trivial
  | existing phase config => exact only_imports_startExisting
  | invalid reason => exact only_run_throw _

theorem atMost_boots_start_zero : AtMost Call.boots 1 (Snapshot.start ctx start 0 s).run := by
  cases s with
  | notCreated missing => exact atMost_boots_of_only trivial
  | existing phase config => exact atMost_boots_startExisting
  | invalid reason => exact atMost_boots_of_only (only_run_throw _)

theorem ends_of_runs_startExisting
    (run : Runs (startExisting ctx start config phase).run trace r) : r ≠ none := by
  have horderly : Orderly (Request.start start).error? none False
      (startExisting ctx start config phase).run :=
    Request.orderly_startExisting start phase
  rintro rfl
  rcases horderly.outcome run with ⟨-, hnever⟩ | ⟨_, _, _, _, -, -, -, hr, -⟩
  · exact hnever rfl
  · cases hr

theorem ends_of_runs_start_found (hs : ∀ missing, s ≠ .notCreated missing)
    (run : Runs (Snapshot.start ctx start 0 s).run trace r) : r ≠ none := by
  cases s with
  | notCreated missing => exact absurd rfl (hs missing)
  | existing phase config => exact ends_of_runs_startExisting run
  | invalid reason =>
      obtain ⟨-, rfl⟩ := runs_done.1 run
      exact nofun

end Snapshot

/-! ## What is found after an import -/

/-- The trace of an import that went well has the import, and no removal after it. -/
theorem Imported.split {selection : Selection} {port : UInt16}
    (himported : Imported ctx name start selection port trace) :
    ∃ before after, trace = before ++ ⟨.register name (ctx.newImage start), .ok ()⟩ :: after ∧
      ∀ reply, ⟨.unregister name, reply⟩ ∉ after := by
  cases himported with
  | @intro looking picking creating candidates adapter subnet hlooking hsubnet hpicking
      hcreating =>
      refine ⟨looking ++ (⟨.hostOnlyAdapters, .ok candidates⟩ :: picking ++ creating),
        [⟨.setResources name (ctx.newResources start), .ok ()⟩,
         ⟨.attachAdapter adapter name, .ok ()⟩, ⟨.unusedPort, .ok port⟩,
         ⟨.addForwarding name "ssh" port 22, .ok ()⟩,
         ⟨.tell "PCF Dev is now imported to Virtualbox.", ()⟩], by simp, by simp⟩

/-- A VM that was just imported is not found missing. -/
theorem KeepsImports.not_missing {found : Snapshot}
    (kept : KeepsImports (importing ++ (asking ++ starting)))
    (hcreate : Runs (Snapshot.create ctx name start).run importing (some (.ok ())))
    (hasked : Runs (ctx.query name).run asking (some (.ok found))) :
    ∀ missing, found ≠ .notCreated missing := by
  rintro missing rfl
  obtain ⟨outcome, houtcome, hfound⟩ := found_of_runs_query hasked
  cases houtcome
  cases hfound
  obtain ⟨selection, port, himported⟩ := imported_of_runs_create hcreate
  obtain ⟨before, after, rfl, hafter⟩ := himported.split
  obtain ⟨reply, hreply⟩ := kept name before (ctx.newImage start) after starting (by simp)
  exact hafter reply hreply

/-! ## The courses of a start that settles -/

/-- A start that imports once at most: what it is to start is there, or is found after
the import, or the start ends before. -/
inductive Settled (ctx : Context) (start : StartOptions) :
    Snapshot → List Exchange → Option (Except LifecycleError Unit) → Prop
  | found {s : Snapshot} {trace : List Exchange} {r : Option (Except LifecycleError Unit)}
      (hs : ∀ missing, s ≠ .notCreated missing)
      (hstart : Runs (Snapshot.start ctx start 0 s).run trace r) : Settled ctx start s trace r
  | refused {name : String} {trace : List Exchange} {e : LifecycleError}
      (hcreate : Runs (Snapshot.create ctx name start).run trace (some (.error e))) :
      Settled ctx start (.notCreated name) trace (some (.error e))
  | lost {name : String} {importing asking : List Exchange} {e : LifecycleError}
      (hcreate : Runs (Snapshot.create ctx name start).run importing (some (.ok ())))
      (hasked : Runs (ctx.query name).run asking (some (.error e))) :
      Settled ctx start (.notCreated name) (importing ++ asking) (some (.error e))
  | imported {name : String} {importing asking starting : List Exchange} {found : Snapshot}
      {r : Option (Except LifecycleError Unit)}
      (hcreate : Runs (Snapshot.create ctx name start).run importing (some (.ok ())))
      (hasked : Runs (ctx.query name).run asking (some (.ok found)))
      (hfound : ∀ missing, found ≠ .notCreated missing)
      (hstart : Runs (Snapshot.start ctx start 0 found).run starting r) :
      Settled ctx start (.notCreated name) (importing ++ (asking ++ starting)) r

/-- Where imports are kept, a start settles, whatever bound above zero it has. -/
theorem settled_of_runs_start (kept : KeepsImports trace)
    (run : Runs (Snapshot.start ctx start (imports + 1) s).run trace r) :
    Settled ctx start s trace r := by
  by_cases hs : ∀ missing, s ≠ .notCreated missing
  · rw [Snapshot.start_of_found hs] at run
    exact .found hs run
  · simp only [ne_eq, not_forall, not_not] at hs
    obtain ⟨name, rfl⟩ := hs
    rcases runs_run_bind.1 run with ⟨⟨⟩, importing, rest, rfl, hcreate, hrest⟩ |
      ⟨e, hcreate, rfl⟩ | ⟨hcreate, -⟩
    · rcases runs_run_bind.1 hrest with ⟨found, asking, starting, rfl, hasked, hstart⟩ |
        ⟨e, hasked, rfl⟩ | ⟨hasked, -⟩
      · have hfound : ∀ missing, found ≠ .notCreated missing := kept.not_missing hcreate hasked
        rw [Snapshot.start_of_found hfound] at hstart
        exact .imported hcreate hasked hfound hstart
      · exact .lost hcreate hasked
      · obtain ⟨outcome, houtcome, -⟩ := found_of_runs_query hasked
        cases houtcome
    · exact .refused hcreate
    · obtain ⟨result, hresult, -⟩ := created_of_runs hcreate
      cases hresult

namespace Settled

theorem runs (h : Settled ctx start s trace r) (imports : Nat) :
    Runs (Snapshot.start ctx start (imports + 1) s).run trace r := by
  cases h with
  | found hs hstart =>
      rw [Snapshot.start_of_found hs]
      exact hstart
  | refused hcreate => exact runs_run_bind.2 (.inr (.inl ⟨_, hcreate, rfl⟩))
  | lost hcreate hasked =>
      exact (runs_run_bind_append hcreate).2 (runs_run_bind.2 (.inr (.inl ⟨_, hasked, rfl⟩)))
  | imported hcreate hasked hfound hstart =>
      refine (runs_run_bind_append hcreate).2 ((runs_run_bind_append hasked).2 ?_)
      rw [Snapshot.start_of_found hfound]
      exact hstart

theorem ends (h : Settled ctx start s trace r) : ∃ result, r = some result := by
  cases h with
  | found hs hstart =>
      exact Option.ne_none_iff_exists'.1 (Snapshot.ends_of_runs_start_found hs hstart)
  | refused => exact ⟨_, rfl⟩
  | lost => exact ⟨_, rfl⟩
  | imported _ _ hfound hstart =>
      exact Option.ne_none_iff_exists'.1 (Snapshot.ends_of_runs_start_found hfound hstart)

/-- The calls of a kind are those of one creation and of one start at most. -/
theorem countP_le {kind : Call → Bool} {m n : Nat} (h : Settled ctx start s trace r)
    (hcreate : ∀ name, AtMost kind m (Snapshot.create ctx name start).run)
    (hquery : ∀ name, Only (fun call => kind call = false) (ctx.query name).run)
    (hstart : ∀ s, AtMost kind n (Snapshot.start ctx start 0 s).run) :
    trace.countP (fun x => kind x.call) ≤ m + n := by
  have hasking {name : String} {asking : List Exchange}
      {q : Option (Except LifecycleError Snapshot)} (hasked : Runs (ctx.query name).run asking q) :
      asking.countP (fun x => kind x.call) ≤ 0 :=
    AtMost.of_only (hquery name) asking q hasked
  cases h with
  | found hs hstarting =>
      have hstarts := hstart _ _ _ hstarting
      omega
  | refused hcreating =>
      have hcreates := hcreate _ _ _ hcreating
      omega
  | lost hcreating hasked =>
      have hcreates := hcreate _ _ _ hcreating
      have hasks := hasking hasked
      rw [List.countP_append]
      omega
  | imported hcreating hasked hfound hstarting =>
      have hcreates := hcreate _ _ _ hcreating
      have hasks := hasking hasked
      have hstarts := hstart _ _ _ hstarting
      rw [List.countP_append, List.countP_append]
      omega

theorem imports_le (h : Settled ctx start s trace r) :
    trace.countP (fun x => x.call.imports) ≤ 1 := by
  refine h.countP_le (n := 0) (fun _ => Snapshot.atMost_imports_create) (fun _ => ?_) fun _ => ?_
  · exact Provision.only_query rfl rfl rfl rfl rfl fun _ => rfl
  · exact .of_only Snapshot.only_imports_start_zero

theorem boots_le (h : Settled ctx start s trace r) :
    trace.countP (fun x => x.call.boots) ≤ 1 := by
  refine h.countP_le (fun _ => .of_only Snapshot.only_boots_create) (fun _ => ?_) fun _ =>
    Snapshot.atMost_boots_start_zero
  exact Provision.only_query rfl rfl rfl rfl rfl fun _ => rfl

end Settled

/-! ## Every start -/

/-- Where the hypervisor keeps what it imports, a start ends in a result and never
meets its bound, which has only to allow one import, whatever else is answered. It
imports a VM once at most, and it makes a VM run once at most, either by powering it
on or by resuming it. Faced with one outside that keeps imports, there is one trace
and one result of the start, the same for every bound. -/
theorem start_settles (ctx : Context) (start : StartOptions) (s : Snapshot) :
    (∀ imports trace r, KeepsImports trace →
      Runs (Snapshot.start ctx start (imports + 1) s).run trace r →
        (∃ result, r = some result) ∧
        (∀ more, Runs (Snapshot.start ctx start (more + 1) s).run trace r) ∧
        trace.countP (fun x => x.call.imports) ≤ 1 ∧
        trace.countP (fun x => x.call.boots) ≤ 1) ∧
    ∀ answer : Responder, (∀ trace, answer.Gives [] trace → KeepsImports trace) →
      ∃ trace result, ∀ imports trace' r,
        Runs (Snapshot.start ctx start (imports + 1) s).run trace' r ∧
          answer.Gives [] trace' ↔ trace' = trace ∧ r = some result := by
  constructor
  · intro imports trace r kept run
    have hsettled := settled_of_runs_start kept run
    exact ⟨hsettled.ends, hsettled.runs, hsettled.imports_le, hsettled.boots_le⟩
  · intro answer keeps
    obtain ⟨trace, r, hgives, run⟩ :=
      answer.exists_runs (Snapshot.start ctx start 1 s).run []
    have hsettled := settled_of_runs_start (keeps trace hgives) run
    obtain ⟨result, rfl⟩ := hsettled.ends
    refine ⟨trace, result, fun imports trace' r => ⟨?_, ?_⟩⟩
    · rintro ⟨run', hgives'⟩
      exact Responder.runs_unique (hsettled.runs imports) hgives run' hgives'
    · rintro ⟨rfl, rfl⟩
      exact ⟨hsettled.runs imports, hgives⟩

/-- The creation of a VM settles, and so does its start in a simulated world in which
there is nothing yet. -/
theorem creation_settles :
    KeepsImports CustomVm.creating ∧
      Runs (Snapshot.start CustomVm.ctx CustomVm.start 1 (.notCreated "pcfdev-v1")).run
        CustomVm.creating (some (.ok ())) ∧
      (∀ more, Runs (Snapshot.start CustomVm.ctx CustomVm.start (more + 1)
        (.notCreated "pcfdev-v1")).run CustomVm.creating (some (.ok ()))) ∧
      (∀ trace, Simulation.World.empty.outside.Gives [] trace → KeepsImports trace) ∧
      ∃ trace result, ∀ imports, Runs (Snapshot.start CustomVm.ctx CustomVm.start (imports + 1)
        (.notCreated "pcfdev-v1")).run trace (some result) := by
  have kept : KeepsImports CustomVm.creating := by
    rintro name before image between after heq
    have hmem : ⟨.isRegistered name, .ok false⟩ ∈ CustomVm.creating := by
      rw [heq]
      simp
    simp [CustomVm.creating, CustomVm.importing, CustomVm.reading, CustomVm.starting,
      Provision.beforeStoring, Provision.storing] at hmem
  obtain ⟨htraces, houtsides⟩ :=
    start_settles CustomVm.ctx CustomVm.start (.notCreated "pcfdev-v1")
  obtain ⟨-, hmore, -, -⟩ := htraces 0 _ _ kept CustomVm.runs_creating
  have keeps : ∀ trace, Simulation.World.empty.outside.Gives [] trace → KeepsImports trace :=
    fun _ hgives => Simulation.World.empty.keepsImports hgives
  obtain ⟨trace, result, hruns⟩ := houtsides Simulation.World.empty.outside keeps
  exact ⟨kept, CustomVm.runs_creating, hmore, keeps, trace, result,
    fun imports => ((hruns imports trace (some result)).2 ⟨rfl, rfl⟩).1⟩

/-- In no simulated world does a start meet its bound. -/
theorem ends_in_world (session : Simulation.Session) :
    ∃ result, (session.run (Snapshot.start ctx start (imports + 1) s).run).1 = some result := by
  obtain ⟨trace, hgives, run⟩ :=
    session.exists_runs (Snapshot.start ctx start (imports + 1) s).run
  exact (settled_of_runs_start (session.world.keepsImports hgives) run).ends

/-- A hypervisor that forgets each import is asked for one again, up to any bound. -/
theorem unsettled_of_forgotten (imports : Nat) :
    ∃ trace, Runs (Snapshot.start CustomVm.ctx CustomVm.start imports
        (.notCreated "pcfdev-v1")).run trace none ∧
      trace.countP (fun x => x.call.imports) = imports := by
  induction imports with
  | zero => exact ⟨[], .unsettled, rfl⟩
  | succ imports ih =>
      obtain ⟨trace, run, hcount⟩ := ih
      have hasked : Runs (CustomVm.ctx.query "pcfdev-v1").run
          [⟨.isRegistered "pcfdev-v1", .ok false⟩]
          (some (.ok (.notCreated "pcfdev-v1"))) :=
        .ask _ (.note (.done _))
      refine ⟨CustomVm.importing ++ ([⟨.isRegistered "pcfdev-v1", .ok false⟩] ++ trace), ?_, ?_⟩
      · exact (runs_run_bind_append CustomVm.runs_importing).2
          ((runs_run_bind_append hasked).2 run)
      · have hone : CustomVm.importing.countP (fun x => x.call.imports) = 1 := by decide +kernel
        rw [List.countP_append, List.countP_append, hone, hcount]
        simp [Call.imports, Nat.add_comm]

end VmLifecycle
