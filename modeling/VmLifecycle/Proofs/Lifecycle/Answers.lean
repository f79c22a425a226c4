import VmLifecycle.Proofs.Lifecycle.Courses

/-!
# Requests that are only answered

In most states most requests have no effect. Such a request is answered with one
message, or refused with an error, and nothing is asked of the outside. Which
answer is given depends on the state alone; the table of answers is laid out by
states, while the operations are laid out by what they do.
-/

namespace VmLifecycle

open Program

/-- How a request is answered that has no effect. -/
inductive Answer where
  | told (text : String)
  | refused (error : LifecycleError)
deriving DecidableEq, Repr

namespace Answer

/-- All that is seen of the answer: one message, or an error without one. -/
def IsAll : Answer → List Exchange → Option (Except LifecycleError Unit) → Prop
  | .told text, trace, r => trace = [⟨.tell text, ()⟩] ∧ r = some (.ok ())
  | .refused e, trace, r => trace = [] ∧ r = some (.error e)

/-- The action that gives the answer and does nothing else. -/
def action : Answer → Action Unit
  | .told text => tell text
  | .refused e => throw e

variable {answer : Answer} {trace : List Exchange} {r : Option (Except LifecycleError Unit)}

theorem runs_action : Runs answer.action.run trace r ↔ answer.IsAll trace r := by
  cases answer with
  | refused e => exact runs_done
  | told text =>
      constructor
      · intro run
        obtain ⟨⟨⟩, rest, rfl, hdone⟩ := runs_ask.1 run
        obtain ⟨rfl, rfl⟩ := runs_done.1 hdone
        exact ⟨rfl, rfl⟩
      · rintro ⟨rfl, rfl⟩
        exact runs_ask.2 ⟨(), [], rfl, .done _⟩

/-- An answer changes no VM, on any hypervisor. -/
theorem IsAll.afterAll (h : answer.IsAll trace r) {σ : Type} (model : HypervisorModel σ)
    (machines : Machines σ) : model.afterAll machines trace = machines := by
  funext name
  refine model.afterAll_of_ne fun x hx => ?_
  cases answer with
  | refused e =>
      obtain ⟨rfl, -⟩ := h
      cases hx
  | told text =>
      obtain ⟨rfl, -⟩ := h
      obtain rfl := List.mem_singleton.1 hx
      exact nofun

end Answer

/-- The answer to a request that has no effect on a VM as it was found. The
requests without one do something. -/
def Snapshot.answer? : Snapshot → Request → Option Answer
  | .notCreated _, request =>
    match request with
    | .destroy | .debugLogs _ => some (.told "PCF Dev VM has not been created.")
    | .trust | .target | .ssh => some (.told "PCF Dev is not running.")
    | .suspend => some (.refused (.unsupported .suspend .notCreated))
    | .resume => some (.refused (.unsupported .resume .notCreated))
    | .provision => some (.refused (.unsupported .provision .notCreated))
    | _ => none
  | .existing phase _, request =>
    match phase with
    | .stopped | .aborted =>
      match request with
      | .stop => some (.told "PCF Dev is stopped.")
      | .trust | .target | .ssh | .debugLogs _ => some (.told "PCF Dev is not running.")
      | .suspend => some (.refused (.notRunning .suspend))
      | .resume => some (.refused (.notRunning .resume))
      | .provision => some (.refused (.unsupported .provision (.existing phase)))
      | _ => none
    | .running =>
      match request with
      | .start _ | .resume => some (.told "PCF Dev is running.")
      | .provision => some (.refused (.unsupported .provision (.existing phase)))
      | _ => none
    | .suspended | .saved | .paused =>
      match request with
      | .suspend => some (.told "PCF Dev is already suspended.")
      | .trust | .target | .ssh | .debugLogs _ => some (.told "PCF Dev is not running.")
      | .stop => some (.refused (.mustResume .stop))
      | .provision => some (.refused (.unsupported .provision (.existing phase)))
      | _ => none
    | .unprovisioned =>
      match request with
      | .trust | .target => some (.told "PCF Dev is not running.")
      | .start _ | .suspend | .resume | .checkStart _ => some (.refused .unprovisioned)
      | .destroy => some (.refused (.unsupported .destroy (.existing phase)))
      | _ => none
    | .recoverable =>
      match request with
      | .trust | .target | .ssh => some (.told "PCF Dev is not running.")
      | .start _ | .suspend | .resume | .checkStart _ => some (.refused .recoverable)
      | .destroy => some (.refused (.unsupported .destroy (.existing phase)))
      | .provision => some (.refused (.unsupported .provision (.existing phase)))
      | _ => none
  | .invalid reason, _ => some (.refused (.unusable reason))

variable {ctx : Context} {imports : Nat} {s : Snapshot} {request : Request} {answer : Answer}
  {trace : List Exchange} {r : Option (Except LifecycleError Unit)}

theorem Snapshot.start_existing {options : StartOptions} {phase : Phase} {config : VmConfig} :
    Snapshot.start ctx options imports (.existing phase config) =
      Snapshot.startExisting ctx options config phase := by
  cases imports <;> rfl

theorem Snapshot.start_invalid {options : StartOptions} {reason : String} :
    Snapshot.start ctx options imports (.invalid reason) = throw (.unusable reason) := by
  cases imports <;> rfl

/-- A request that has an answer does nothing but give it. -/
theorem apply_of_answer? (h : s.answer? request = some answer) :
    request.apply ctx imports s = answer.action := by
  cases s with
  | notCreated missing => cases request <;> cases h <;> rfl
  | invalid reason =>
      cases h
      cases request with
      | start options => exact Snapshot.start_invalid
      | _ => rfl
  | existing phase config =>
      cases request with
      | start options =>
          rw [Request.apply, Snapshot.start_existing]
          cases phase <;> cases h <;> rfl
      | _ => cases phase <;> cases h <;> rfl

/-! ## The stop of a VM that does not exist -/

/-- The calls by which another VM that runs is looked for. -/
def Call.searches : Call → Bool
  | .registered => true
  | .isRunning _ => true
  | _ => false

/-- Another VM that runs is looked for, and unless that ends in an error there is
one message. -/
inductive StopsNothing : List Exchange → Except LifecycleError Unit → Prop
  | refused {search : List Exchange} (e : LifecycleError)
      (hsearch : ∀ x ∈ search, x.call.searches = true) : StopsNothing search (.error e)
  | told {search : List Exchange} (hsearch : ∀ x ∈ search, x.call.searches = true) :
      StopsNothing (search ++ [⟨.tell "PCF Dev VM has not been created.", ()⟩]) (.ok ())

theorem stopsNothing_of_runs {missing : String}
    (run : Runs (Snapshot.stop (.notCreated missing)).run trace r) :
    ∃ result, r = some result ∧ StopsNothing trace result := by
  have hsearch : Only (fun call => call.searches = true) (Snapshot.refuseConflict missing).run :=
    Looks.only_searching (P := fun call => call.searches = true) rfl (fun _ => rfl) missing
  rcases runs_run_bind.1 run with ⟨_, search, rest, rfl, hlooking, htell⟩ | ⟨e, hlooking, rfl⟩ |
    ⟨hlooking, -⟩
  · obtain ⟨⟨⟩, rest, rfl, hdone⟩ := runs_ask.1 htell
    obtain ⟨rfl, rfl⟩ := runs_done.1 hdone
    exact ⟨_, rfl, .told fun x hx => hsearch.of_runs hlooking hx⟩
  · exact ⟨_, rfl, .refused e fun x hx => hsearch.of_runs hlooking hx⟩
  · rcases early_of_runs_refuseConflict hlooking with hok | ⟨e, he, -⟩
    · cases hok
    · cases he

/-! ## No effect -/

/-- A request that has an answer gives it and does nothing else, whatever the
outside is like: the user is told one thing, or the request ends in an error at
once, and no hypervisor is changed. So a VM that a query could not make out is
refused every request, for the reason that the query gave. Where there is no VM, a
stop makes no calls besides its message but those of the search for another one. -/
theorem answered_without_effect (ctx : Context) (imports : Nat) :
    (∀ (s : Snapshot) (request : Request) (answer : Answer), s.answer? request = some answer →
      ∀ trace r, (Runs (request.apply ctx imports s).run trace r ↔ answer.IsAll trace r) ∧
        (Runs (request.apply ctx imports s).run trace r →
          ∀ (σ : Type) (model : HypervisorModel σ) (machines : Machines σ),
            model.afterAll machines trace = machines)) ∧
    (∀ (name : String) (request : Request) (asked : List Exchange) (reason : String),
      Runs (ctx.query name).run asked (some (.ok (.invalid reason))) →
        ∀ trace r, Runs (ctx.perform imports name request).run (asked ++ trace) r ↔
          trace = [] ∧ r = some (.error (.unusable reason))) ∧
    ∀ (missing : String) (trace : List Exchange) (r : Option (Except LifecycleError Unit)),
      Runs (Request.stop.apply ctx imports (.notCreated missing)).run trace r →
        ∃ result, r = some result ∧ StopsNothing trace result := by
  have hgiven {s : Snapshot} {request : Request} {answer : Answer}
      (h : s.answer? request = some answer) {trace : List Exchange}
      {r : Option (Except LifecycleError Unit)} :
      Runs (request.apply ctx imports s).run trace r ↔ answer.IsAll trace r := by
    rw [apply_of_answer? h, Answer.runs_action]
  refine ⟨fun s request answer h trace r => ⟨hgiven h, fun run σ model machines => ?_⟩, ?_, ?_⟩
  · exact ((hgiven h).1 run).afterAll model machines
  · intro name request asked reason hasked trace r
    have hrefused : (Snapshot.invalid reason).answer? request =
        some (.refused (.unusable reason)) := rfl
    rw [Context.perform, runs_run_bind_append hasked]
    exact hgiven hrefused
  · exact fun missing trace r run => stopsNothing_of_runs run

/-- A VM whose address cannot be read is refused its removal, one that is saved is
not stopped, and neither is one that is not there. -/
theorem refused_for_lost_address :
    let ctx : Context := ⟨.defaults ⟨[]⟩, .builtIn⟩
    let saved : Snapshot :=
      .existing .saved ⟨"pcfdev-v1", ⟨192, 168, 11, 11⟩, "local.pcfdev.io", 2222, 4096, 2⟩
    let asked : List Exchange :=
      [⟨.isRegistered "pcfdev-v1", .ok true⟩,
       ⟨.vmAddress "pcfdev-v1", .error (.hypervisor "no adapter")⟩]
    let stopping : List Exchange :=
      [⟨.registered, .ok []⟩, ⟨.tell "PCF Dev VM has not been created.", ()⟩]
    saved.answer? .stop = some (.refused (.mustResume .stop)) ∧
      (∀ trace r, Runs (Request.stop.apply ctx 1 saved).run trace r ↔
        trace = [] ∧ r = some (.error (.mustResume .stop))) ∧
      Runs (ctx.query "pcfdev-v1").run asked (some (.ok (.invalid "no adapter"))) ∧
      (∀ trace r, Runs (ctx.perform 1 "pcfdev-v1" .destroy).run (asked ++ trace) r ↔
        trace = [] ∧ r = some (.error (.unusable "no adapter"))) ∧
      Runs (Request.stop.apply ctx 1 (.notCreated "pcfdev-v1")).run stopping (some (.ok ())) ∧
      StopsNothing stopping (.ok ()) := by
  intro ctx saved asked stopping
  have hasked : Runs (ctx.query "pcfdev-v1").run asked (some (.ok (.invalid "no adapter"))) :=
    .ask _ (.ask _ (.note (.done _)))
  have hstop : Runs (Request.stop.apply ctx 1 (.notCreated "pcfdev-v1")).run stopping
      (some (.ok ())) :=
    .ask _ (.ask _ (.done _))
  obtain ⟨hanswers, hunusable, hsearch⟩ := answered_without_effect ctx 1
  obtain ⟨result, hresult, hnothing⟩ := hsearch "pcfdev-v1" stopping _ hstop
  cases hresult
  exact ⟨rfl, fun trace r => (hanswers saved .stop _ rfl trace r).1, hasked,
    hunusable "pcfdev-v1" .destroy asked "no adapter" hasked, hstop, hnothing⟩

end VmLifecycle
