import VmLifecycle.Proofs.Effect.Along
import VmLifecycle.Proofs.Hypervisor.Cleanup
import VmLifecycle.Proofs.Lifecycle.Classification
import VmLifecycle.Proofs.Lifecycle.Transitions

/-!
# No dead end

No state in which a VM is found keeps it from being removed. A stop, whatever
becomes of it, leaves the VM at rest, a VM at rest is found at rest again, and such
a VM is removed by name. Only a VM that cannot be made out refuses both; it is
removed with all others, for which it need not be made out.
-/

namespace VmLifecycle

open Program

variable {ctx : Context} {name : String} {machines : Machines RunState} {trace : List Exchange}
  {fails : Call → Prop}

/-! ## A hypervisor that serves a VM -/

/-- What an exchange says of the VMs is so, and it does what it is for with the VM
called `name`: the hypervisor says whether the VM exists, lists it with the others,
says whether it runs, and powers it off and removes it if it is there. -/
structure Exchange.Serves (name : String) (machines : Machines RunState) (x : Exchange) :
    Prop where
  truthful : x.TrueOf machines
  answers : match x with
    | ⟨.isRegistered other, reply⟩ => other = name → ∃ registered, reply = .ok registered
    | ⟨.registered, reply⟩ => ∃ names, reply = .ok names ∧ (machines name ≠ none → name ∈ names)
    | ⟨.isRunning other, reply⟩ =>
      other = name → machines name ≠ none → ∃ running, reply = .ok running
    | ⟨.powerOff other, reply⟩ => other = name → (reply = .ok () ↔ machines name ≠ none)
    | ⟨.unregister other, reply⟩ => other = name → (reply = .ok () ↔ machines name ≠ none)
    | _ => True

/-- Each exchange of the trace serves the VM, as the VMs are at the time. -/
def Served (name : String) (machines : Machines RunState) (trace : List Exchange) : Prop :=
  Along runStates.after (Exchange.Serves name) machines trace

/-- Which questions about VMs fail is settled: a question fails each time or never. -/
def Steady (fails : Call → Prop) (trace : List Exchange) : Prop :=
  ∀ x ∈ trace, x.call.inquires = true → (x.fault? ≠ none ↔ fails x.call)

/-- A truthful trace says in each state what is so in it. -/
theorem along_of_truthful (h : Truthful machines trace) :
    Along runStates.after (fun machines x => x.TrueOf machines) machines trace := by
  induction trace generalizing machines with
  | nil => trivial
  | cons x trace ih => exact ⟨h.1, ih h.2⟩

theorem truthful_of_along {P : Machines RunState → Exchange → Prop}
    (hP : ∀ machines x, P machines x → x.TrueOf machines)
    (h : Along runStates.after P machines trace) : Truthful machines trace := by
  induction trace generalizing machines with
  | nil => trivial
  | cons x trace ih => exact ⟨hP machines x h.1, ih h.2⟩

theorem served_append {first second : List Exchange} :
    Served name machines (first ++ second) ↔
      Served name machines first ∧ Served name (runStates.afterAll machines first) second :=
  along_append

theorem Served.truthful (served : Served name machines trace) : Truthful machines trace :=
  truthful_of_along (fun _ _ h => h.truthful) served

/-! ## What a query finds -/

theorem shown_of_runs_query {q : Option (Except LifecycleError Snapshot)}
    (served : Served name machines trace) (run : Runs (ctx.query name).run trace q) :
    ∃ s, q = some (.ok s) ∧ s.Shows machines name ∧
      runStates.afterAll machines trace = machines := by
  obtain ⟨outcome, rfl, hshows, hstill⟩ := revealed_of_runs_query served.truthful run
  rcases hshows with ⟨fault, rfl⟩ | ⟨s, rfl, hshows⟩
  · obtain ⟨outcome, houtcome, hfound⟩ := found_of_runs_query run
    cases houtcome
    obtain ⟨fault', rfl, -⟩ := hfound.error_iff.1 rfl
    obtain ⟨registered, hregistered⟩ := served.1.answers rfl
    cases hregistered
  · exact ⟨s, rfl, hshows, hstill⟩

/-- A request goes on with the VM as it is. -/
theorem split_of_runs_perform {imports : Nat} {request : Request}
    {r : Option (Except LifecycleError Unit)} (served : Served name machines trace)
    (run : Runs (ctx.perform imports name request).run trace r) :
    ∃ s asked rest, trace = asked ++ rest ∧ Runs (ctx.query name).run asked (some (.ok s)) ∧
      s.Shows machines name ∧ Served name machines asked ∧ Served name machines rest ∧
      runStates.afterAll machines trace = runStates.afterAll machines rest ∧
      Runs (request.apply ctx imports s).run rest r := by
  rcases runs_run_bind.1 run with ⟨s, asked, rest, rfl, hasked, hrest⟩ | ⟨e, hasked, -⟩ |
    ⟨hasked, -⟩
  · obtain ⟨hfirst, hlater⟩ := served_append.1 served
    obtain ⟨s', hs, hshows, hstill⟩ := shown_of_runs_query hfirst hasked
    cases hs
    rw [hstill] at hlater
    refine ⟨s, asked, rest, rfl, hasked, hshows, hfirst, hlater, ?_, hrest⟩
    rw [runStates.afterAll_append, hstill]
  · obtain ⟨s, hs, -⟩ := shown_of_runs_query served hasked
    cases hs
  · obtain ⟨s, hs, -⟩ := shown_of_runs_query served hasked
    cases hs

/-- The VM is at rest: it is there, does not run, and what it does is known. -/
def Rests (machines : Machines RunState) (name : String) : Prop :=
  ∃ phase : Phase, phase.runState ≠ .running ∧ machines name = some phase.runState

/-- A query that made a VM out had all its questions answered. -/
theorem Found.essentials_answered {phase : Phase} {config : VmConfig}
    (h : Found ctx name trace (.ok (.existing phase config))) {call : Call}
    (hcall : call ∈ essentials name) : ∃ x ∈ trace, x.call = call ∧ x.fault? = none := by
  have hread {ip : Ipv4} {port : UInt16} {resources : Resources} {state : RunState}
      {further : List Exchange} :
      ∃ x ∈ configurationRead name ip port resources ++ ⟨.runState name, .ok state⟩ :: further,
        x.call = call ∧ x.fault? = none := by
    simp only [essentials, List.mem_cons, List.not_mem_nil, or_false] at hcall
    rcases hcall with rfl | rfl | rfl | rfl
    · exact ⟨⟨.vmAddress name, .ok ip⟩, by simp [configurationRead], rfl, rfl⟩
    · exact ⟨⟨.forwardedPort name "ssh", .ok port⟩, by simp [configurationRead], rfl, rfl⟩
    · exact ⟨⟨.resources name, .ok resources⟩, by simp [configurationRead], rfl, rfl⟩
    · exact ⟨⟨.runState name, .ok state⟩, by simp, rfl, rfl⟩
  cases h with
  | resting => exact hread
  | running => exact hread

theorem inquires_of_mem_essentials {call : Call} (h : call ∈ essentials name) :
    call.inquires = true := by
  simp only [essentials, List.mem_cons, List.not_mem_nil, or_false] at h
  rcases h with rfl | rfl | rfl | rfl <;> rfl

/-- What a query is told is so while it asks: it moves no VM. -/
theorem true_of_mem_query {q : Option (Except LifecycleError Snapshot)} {x : Exchange}
    (truthful : Truthful machines trace) (run : Runs (ctx.query name).run trace q)
    (hx : x ∈ trace) : x.TrueOf machines := by
  obtain ⟨outcome, -, hfound⟩ := found_of_runs_query run
  refine (along_of_truthful truthful).of_still (fun y hy => ?_) hx
  exact runStatesAfter_of_moves (moves_of_changes? (hfound.readOnly y hy)) machines

/-- A VM at rest is found at rest, if it was made out before. -/
theorem found_at_rest {phase : Phase} {config : VmConfig} {first second : List Exchange}
    {s : Snapshot} (steady : Steady fails (first ++ second)) (rests : Rests machines name)
    (truthful : Truthful machines second)
    (hfirst : Runs (ctx.query name).run first (some (.ok (.existing phase config))))
    (hsecond : Runs (ctx.query name).run second (some (.ok s))) (hshows : s.Shows machines name) :
    ∃ phase config, s = .existing phase config ∧ phase.runState ≠ .running := by
  obtain ⟨rest, hrest, hstate⟩ := rests
  cases s with
  | notCreated missing =>
      rw [hshows.2] at hstate
      cases hstate
  | existing phase config =>
      rw [hshows.2] at hstate
      refine ⟨phase, config, rfl, ?_⟩
      rwa [Option.some.inj hstate]
  | invalid reason =>
      obtain ⟨outcome, houtcome, hmade⟩ := found_of_runs_query hfirst
      cases houtcome
      obtain ⟨outcome, houtcome, hlost⟩ := found_of_runs_query hsecond
      cases houtcome
      rcases hlost.invalid_iff.1 rfl with ⟨x, hx, hcall, fault, hfault, -⟩ | ⟨text, hx, -⟩
      · obtain ⟨y, hy, hsame, hanswered⟩ := hmade.essentials_answered hcall
        have hinquires : x.call.inquires = true := inquires_of_mem_essentials hcall
        have hfails : fails x.call := by
          refine (steady x (by simp [hx]) hinquires).1 ?_
          rw [hfault]
          exact nofun
        rw [← hsame] at hfails hinquires
        exact absurd hanswered ((steady y (by simp [hy]) hinquires).2 hfails)
      · have hunknown : machines name = some (.unknown text) :=
          true_of_mem_query truthful hsecond hx
        rw [hunknown] at hstate
        exact absurd (Option.some.inj hstate).symm (rest.runState_ne_unknown text)

/-! ## Stopping, and removing what is at rest -/

section

variable {config : VmConfig} {phase : Phase} {r : Option (Except LifecycleError Unit)}

/-- A step of one call ends well if the call is served. -/
theorem Announced.ok_of_served {before after : String} {step : Step}
    {exchange : Except Fault Unit → Exchange} {result : Except LifecycleError Unit}
    (h : Announced before after step exchange trace result) (served : Served name machines trace)
    (hserves : ∀ reply, (exchange reply).Serves name machines → reply = .ok ()) :
    result = .ok () := by
  cases h with
  | failed fault => cases hserves _ served.2.1
  | done => rfl

/-- A stop, whatever it ends in, leaves the VM at rest. -/
theorem rests_of_runs_stop (ctx : Context)
    (hshows : (Snapshot.existing phase config).Shows machines name)
    (served : Served name machines trace)
    (run : Runs (Snapshot.stop (.existing phase config)).run trace r) :
    Rests (runStates.afterAll machines trace) name := by
  obtain ⟨result, rfl, hafter⟩ := lands_stop ctx hshows run
  obtain ⟨rfl, hstate⟩ := hshows
  by_cases hphase : phase.runState = .running
  · have hoff (run : Runs (Snapshot.powerOff config).run trace (some result)) :
        result = .ok () := by
      obtain ⟨_, hresult, hannounced⟩ := announced_of_runs_powerOff run
      cases hresult
      refine hannounced.ok_of_served served fun reply hserves => ?_
      exact (hserves.answers rfl).2 (by rw [hstate]; exact nofun)
    refine ⟨.stopped, nofun, ?_⟩
    rw [hafter]
    cases phase with
    | running => rw [hoff run]; rfl
    | unprovisioned => rw [hoff run]; rfl
    | recoverable => rw [hoff run]; rfl
    | _ => cases hphase
  · refine ⟨phase, hphase, ?_⟩
    rw [hafter, ← hstate]
    cases phase <;> first | exact absurd rfl hphase | (cases result <;> rfl)

/-- A VM at rest is removed. -/
theorem gone_of_runs_destroy (hphase : phase.runState ≠ .running)
    (hshows : (Snapshot.existing phase config).Shows machines name)
    (served : Served name machines trace)
    (run : Runs (Snapshot.destroy (.existing phase config)).run trace r) :
    runStates.afterAll machines trace name = none := by
  obtain ⟨result, rfl, hafter⟩ := lands_destroy hshows run
  obtain ⟨rfl, hstate⟩ := hshows
  have hremove (run : Runs (Snapshot.remove config).run trace (some result)) :
      result = .ok () := by
    obtain ⟨_, hresult, hannounced⟩ := announced_of_runs_remove run
    cases hresult
    refine hannounced.ok_of_served served fun reply hserves => ?_
    exact (hserves.answers rfl).2 (by rw [hstate]; exact nofun)
  have hresult : result = .ok () := by
    cases phase <;> first | exact absurd rfl hphase | exact hremove run
  rw [hafter, hresult]
  rfl

end

/-! ## Removing all VMs -/

namespace Hypervisor

/-- A VM that is served is gone after its removal, also if it was gone before. -/
theorem Removal.gone {result : Except Fault Unit} (h : Removal name trace result)
    (served : Served name machines trace) : runStates.afterAll machines trace name = none := by
  by_cases hthere : machines name = none
  · cases h with
    | unasked fault => exact hthere
    | running fault => exact hthere
    | poweredOff =>
        -- a VM that is not there is not powered off
        exact absurd hthere ((served.2.1.answers rfl).1 rfl)
    | idle =>
        rcases result with fault | ⟨⟩
        · exact hthere
        · exact Machines.set_self _
  · cases h with
    | unasked fault =>
        obtain ⟨running, hrunning⟩ := served.1.answers rfl hthere
        cases hrunning
    | running fault => cases (served.2.1.answers rfl).2 hthere
    | poweredOff =>
        have hoff : runStates.after machines ⟨.powerOff name, .ok ()⟩ name ≠ none := by
          show machines.set name (some .poweredOff) name ≠ none
          simp
        cases (served.2.2.1.answers rfl).2 hoff
        exact Machines.set_self _
    | idle =>
        cases (served.2.1.answers rfl).2 hthere
        exact Machines.set_self _

/-- Of the VMs that are removed none is left that is served, whatever becomes of the
others. -/
theorem gone_of_removals {removals : List Removed}
    (served : Served name machines (removals.flatMap (·.trace)))
    (hasked : machines name ≠ none → ∃ removed ∈ removals, removed.name = name) :
    runStates.afterAll machines (removals.flatMap (·.trace)) name = none := by
  induction removals generalizing machines with
  | nil =>
      by_cases hthere : machines name = none
      · exact hthere
      · obtain ⟨_, hmem, -⟩ := hasked hthere
        cases hmem
  | cons removed removals ih =>
      obtain ⟨hserved, hlater⟩ := served_append.1 served
      rw [List.flatMap_cons, runStates.afterAll_append]
      refine ih hlater fun hthere => ?_
      by_cases hsame : removed.name = name
      · subst hsame
        exact absurd (removed.course.gone hserved) hthere
      · have hframe : runStates.afterAll machines removed.trace name = machines name :=
          runStates.afterAll_of_ne fun x hx h => hsame (removed.course.changes? hx h).symm
        rw [hframe] at hthere
        obtain ⟨other, hmem, hname⟩ := hasked hthere
        refine ⟨other, (List.mem_cons.1 hmem).resolve_left ?_, hname⟩
        rintro rfl
        exact hsame hname

theorem gone_of_runs_destroyAll (hname : VmName.inFamily name = true)
    {r : Option (Except Fault Unit)} (served : Served name machines trace)
    (run : Runs destroyAll.run trace r) : runStates.afterAll machines trace name = none := by
  rcases runs_destroyAll.1 run with ⟨fault, rfl, -⟩ | ⟨names, removals, hnames, rfl, -⟩
  · obtain ⟨names, hnames, -⟩ := served.1.answers
    cases hnames
  · obtain ⟨_, hreply, hlisted⟩ := served.1.answers
    cases hreply
    have hserved : Served name machines (removals.flatMap (·.trace)) := served.2
    exact gone_of_removals hserved fun hthere => exists_removed hnames (hlisted hthere) hname

end Hypervisor

/-! ## The way out -/

section

variable {imports : Nat} {stopping destroying cleaning asking : List Exchange}
  {r r' : Option (Except LifecycleError Unit)}

theorem gone_of_destroy_gone (hgone : machines name = none)
    (served : Served name machines destroying)
    (destroyed : Runs (ctx.perform imports name .destroy).run destroying r) :
    runStates.afterAll machines destroying name = none := by
  obtain ⟨s, asked, rest, -, -, hshows, -, -, hafter, hdestroy⟩ :=
    split_of_runs_perform served destroyed
  rw [hafter]
  cases s with
  | notCreated missing =>
      obtain ⟨result, -, hleaves⟩ := lands_destroy hshows hdestroy
      rw [hleaves, hgone]
      cases result <;> rfl
  | existing phase config =>
      rw [hshows.2] at hgone
      cases hgone
  | invalid reason => exact absurd hgone hshows

/-- Stopped and then destroyed, a VM is gone, unless the first query could not make it
out. -/
theorem gone_of_stop_destroy (steady : Steady fails (stopping ++ destroying))
    (served : Served name machines (stopping ++ destroying))
    (stopped : Runs (ctx.perform imports name .stop).run stopping r)
    (destroyed : Runs (ctx.perform imports name .destroy).run destroying r') :
    runStates.afterAll machines (stopping ++ destroying) name = none ∨
      ∃ asked rest reason, stopping = asked ++ rest ∧
        Runs (ctx.query name).run asked (some (.ok (.invalid reason))) := by
  obtain ⟨hstopping, hdestroying⟩ := served_append.1 served
  obtain ⟨s, asked, rest, rfl, hasked, hshows, -, hserved, hafter, hstop⟩ :=
    split_of_runs_perform hstopping stopped
  rw [hafter] at hdestroying
  rw [runStates.afterAll_append, hafter]
  cases s with
  | notCreated missing =>
      obtain ⟨result, -, hleaves⟩ := lands_stop ctx hshows hstop
      have hgone : runStates.afterAll machines rest name = none := by
        rw [hleaves, hshows.2]
        cases result <;> rfl
      exact .inl (gone_of_destroy_gone hgone hdestroying destroyed)
  | existing phase config =>
      have hrests : Rests (runStates.afterAll machines rest) name :=
        rests_of_runs_stop ctx hshows hserved hstop
      obtain ⟨s, asked', rest', rfl, hasked', hshows', hserved', hlast, hafter', hdestroy⟩ :=
        split_of_runs_perform hdestroying destroyed
      have hsteady : Steady fails (asked ++ asked') := by
        intro x hx
        rcases List.mem_append.1 hx with hx | hx
        · exact steady x (by simp [hx])
        · exact steady x (by simp [hx])
      obtain ⟨phase', config', rfl, hphase⟩ :=
        found_at_rest hsteady hrests hserved'.truthful hasked hasked' hshows'
      rw [hafter']
      exact .inl (gone_of_runs_destroy hphase hshows' hlast hdestroy)
  | invalid reason => exact .inr ⟨asked, rest, reason, rfl, hasked⟩

/-- On a hypervisor that serves a platform VM, and where each reading of it fails each
time or never, a stop and then a destroy remove the VM, whatever they end in and whatever its
guest says, unless it could not be made out at first. The removal of all platform VMs
then leaves it gone in any case, and the next query finds that it does not exist. -/
theorem no_dead_end {q : Option (Except LifecycleError Snapshot)} {c : Option (Except Fault Unit)}
    (hname : VmName.inFamily name = true) (steady : Steady fails (stopping ++ destroying))
    (served : Served name machines (stopping ++ destroying ++ cleaning ++ asking))
    (stopped : Runs (ctx.perform imports name .stop).run stopping r)
    (destroyed : Runs (ctx.perform imports name .destroy).run destroying r')
    (cleaned : Runs Hypervisor.destroyAll.run cleaning c)
    (asked : Runs (ctx.query name).run asking q) :
    (runStates.afterAll machines (stopping ++ destroying) name = none ∨
      ∃ asked rest reason, stopping = asked ++ rest ∧
        Runs (ctx.query name).run asked (some (.ok (.invalid reason)))) ∧
      runStates.afterAll machines (stopping ++ destroying ++ cleaning) name = none ∧
      q = some (.ok (.notCreated name)) := by
  obtain ⟨hserved, hasking⟩ := served_append.1 served
  obtain ⟨hrequests, hcleaning⟩ := served_append.1 hserved
  have hgone : runStates.afterAll machines (stopping ++ destroying ++ cleaning) name = none := by
    rw [runStates.afterAll_append]
    exact Hypervisor.gone_of_runs_destroyAll hname hcleaning cleaned
  refine ⟨gone_of_stop_destroy steady hrequests stopped destroyed, hgone, ?_⟩
  obtain ⟨s, rfl, hshows, -⟩ := shown_of_runs_query hasking asked
  cases s with
  | notCreated missing => rw [hshows.1]
  | existing phase config =>
      rw [hshows.2] at hgone
      cases hgone
  | invalid reason => exact absurd hgone hshows

end

/-- A VM whose provisioning was broken off is stopped and removed. -/
theorem no_dead_end_unprovisioned :
    let ctx : Context := ⟨.defaults ⟨[]⟩, .builtIn⟩
    let machines : Machines RunState :=
      fun name => if name = "pcfdev-v1" then some .running else none
    let stopping : List Exchange :=
      configurationRead "pcfdev-v1" ⟨192, 168, 11, 11⟩ 2222 ⟨4096, 2⟩ ++
        [⟨.runState "pcfdev-v1", .ok .running⟩, ctx.marker 2222 (.ok ""),
         ⟨.tell "Stopping VM...", ()⟩, ⟨.powerOff "pcfdev-v1", .ok ()⟩,
         ⟨.tell "PCF Dev is now stopped.", ()⟩]
    let destroying : List Exchange :=
      configurationRead "pcfdev-v1" ⟨192, 168, 11, 11⟩ 2222 ⟨4096, 2⟩ ++
        [⟨.runState "pcfdev-v1", .ok .poweredOff⟩, ⟨.tell "Destroying VM...", ()⟩,
         ⟨.unregister "pcfdev-v1", .ok ()⟩, ⟨.tell "PCF Dev VM has been destroyed.", ()⟩]
    let cleaning : List Exchange := [⟨.registered, .ok []⟩]
    let asking : List Exchange := [⟨.isRegistered "pcfdev-v1", .ok false⟩]
    VmName.inFamily "pcfdev-v1" = true ∧
      Steady (fun _ => False) (stopping ++ destroying) ∧
      Served "pcfdev-v1" machines (stopping ++ destroying ++ cleaning ++ asking) ∧
      Runs (ctx.perform 1 "pcfdev-v1" .stop).run stopping (some (.ok ())) ∧
      Runs (ctx.perform 1 "pcfdev-v1" .destroy).run destroying (some (.ok ())) ∧
      Runs Hypervisor.destroyAll.run cleaning (some (.ok ())) ∧
      Runs (ctx.query "pcfdev-v1").run asking (some (.ok (.notCreated "pcfdev-v1"))) ∧
      runStates.afterAll machines (stopping ++ destroying ++ cleaning) "pcfdev-v1" = none := by
  intro ctx machines stopping destroying cleaning asking
  have steady : Steady (fun _ => False) (stopping ++ destroying) := by
    have hanswered : ∀ x ∈ stopping ++ destroying, x.fault? = none := by
      decide
    intro x hx _
    simp [hanswered x hx]
  have served : Served "pcfdev-v1" machines (stopping ++ destroying ++ cleaning ++ asking) := by
    refine ⟨⟨rfl, fun _ => ⟨true, rfl⟩⟩, ⟨trivial, trivial⟩, ⟨trivial, trivial⟩, ⟨trivial, trivial⟩,
      ⟨rfl, trivial⟩, ⟨trivial, trivial⟩, ⟨trivial, trivial⟩, ⟨trivial, ?_⟩, ⟨trivial, trivial⟩,
      ⟨rfl, fun _ => ⟨true, rfl⟩⟩, ⟨trivial, trivial⟩, ⟨trivial, trivial⟩, ⟨trivial, trivial⟩,
      ⟨rfl, trivial⟩, ⟨trivial, trivial⟩, ⟨trivial, ?_⟩, ⟨trivial, trivial⟩,
      ⟨trivial, [], rfl, ?_⟩, ⟨rfl, fun _ => ⟨false, rfl⟩⟩, trivial⟩
    · exact fun _ => iff_of_true rfl nofun
    · exact fun _ => iff_of_true rfl nofun
    · exact fun hthere => absurd rfl hthere
  have stopped : Runs (ctx.perform 1 "pcfdev-v1" .stop).run stopping (some (.ok ())) :=
    .ask _ (.ask _ (.ask _ (.ask _ (.ask _ (.ask _ (.note (.ask _ (.note (.ask _ (.ask _
      (.done _)))))))))))
  have destroyed : Runs (ctx.perform 1 "pcfdev-v1" .destroy).run destroying (some (.ok ())) :=
    .ask _ (.ask _ (.ask _ (.ask _ (.ask _ (.note (.ask _ (.note (.ask _ (.ask _ (.done _))))))))))
  have cleaned : Runs Hypervisor.destroyAll.run cleaning (some (.ok ())) :=
    .ask _ (.done _)
  have asked : Runs (ctx.query "pcfdev-v1").run asking
      (some (.ok (.notCreated "pcfdev-v1"))) :=
    .ask _ (.note (.done _))
  obtain ⟨-, hgone, -⟩ := no_dead_end (by decide) steady served stopped destroyed cleaned asked
  exact ⟨by decide, steady, served, stopped, destroyed, cleaned, asked, hgone⟩

end VmLifecycle
