import VmLifecycle.Proofs.Hypervisor.Inventory
import VmLifecycle.Proofs.Lifecycle.Answers
import VmLifecycle.Proofs.Lifecycle.NoDeadEnd

/-!
# Repeating a request

A stop, a suspension and a removal that went well leave nothing to do for another
one. The next query makes the VM out again, since what it asks was answered before,
and finds it in a state in which the request is answered with a message. Only the stop
of a VM that does not exist does more: it looks again for another VM that runs, and
finds none again.

So one repetition is like the request it repeats, and any number of them follows by
induction, each repetition being what the next one repeats.
-/

namespace VmLifecycle

open Program

variable {ctx : Context} {name : String} {machines : Machines RunState}
  {first second trace : List Exchange} {fails : Call → Prop} {request : Request} {s : Snapshot}
  {imports : Nat}

/-! ## Questions that are answered as before -/

/-- The calls by which the hypervisor is asked about VMs. -/
def Call.asks (call : Call) : Bool :=
  call.inquires || call.searches

/-- The call only asks the hypervisor about VMs, or tells the user something. -/
def Call.Inert (call : Call) : Prop :=
  call.asks = true ∨ ∃ text, call = .tell text

/-- What an exchange says of the VMs is so: whether one is there, what it does, which
ones there are, and whether one runs. -/
structure Exchange.FaithfulTo (machines : Machines RunState) (x : Exchange) : Prop where
  truthful : x.TrueOf machines
  found : match x with
    | ⟨.registered, .ok names⟩ => ∀ other, other ∈ names ↔ machines other ≠ none
    | ⟨.isRunning other, .ok running⟩ => running = true ↔ machines other = some .running
    | _ => True

/-- Each exchange of the trace says what is so at the time. -/
def Faithful (machines : Machines RunState) (trace : List Exchange) : Prop :=
  Along runStates.after (fun machines x => x.FaithfulTo machines) machines trace

/-- Which questions fail is settled: a question about VMs fails each time or never. -/
def Settles (fails : Call → Prop) (trace : List Exchange) : Prop :=
  ∀ x ∈ trace, x.call.asks = true → (x.fault? ≠ none ↔ fails x.call)

theorem Faithful.truthful (h : Faithful machines trace) : Truthful machines trace :=
  truthful_of_along (fun _ _ h => h.truthful) h

theorem faithful_append : Faithful machines (first ++ second) ↔
    Faithful machines first ∧ Faithful (runStates.afterAll machines first) second :=
  along_append

theorem Settles.steady (h : Settles fails trace) : Steady fails trace :=
  fun x hx hinquires => h x hx (by simp [Call.asks, hinquires])

theorem settles_append :
    Settles fails (first ++ second) ↔ Settles fails first ∧ Settles fails second :=
  List.forall_mem_append

/-- A question that was answered once does not fail. -/
theorem Settles.fault?_eq_none (h : Settles fails trace) {x y : Exchange} (hx : x ∈ trace)
    (hanswered : x.fault? = none) (hy : y ∈ trace) (hsame : y.call = x.call)
    (hasks : x.call.asks = true) : y.fault? = none := by
  have hfine : ¬ fails x.call := fun hfails => (h x hx hasks).2 hfails hanswered
  rw [← hsame] at hfine hasks
  exact Classical.not_not.1 fun hfault => hfine ((h y hy hasks).1 hfault)

namespace Call.Inert

theorem changes? {call : Call} (h : call.Inert) : call.changes? = none := by
  rcases h with h | ⟨text, rfl⟩
  · cases call <;> first | rfl | cases h
  · rfl

theorem channel? {call : Call} (h : call.Inert) : call.channel? = none := by
  rcases h with h | ⟨text, rfl⟩
  · cases call <;> first | rfl | cases h
  · rfl

theorem of_inquires {call : Call} (h : call.inquires = true) : call.Inert :=
  .inl (by simp [Call.asks, h])

theorem of_searches {call : Call} (h : call.searches = true) : call.Inert :=
  .inl (by simp [Call.asks, h])

theorem after {x : Exchange} (h : x.call.Inert) {σ : Type} (model : HypervisorModel σ)
    (machines : Machines σ) : model.after machines x = machines := by
  funext name
  refine model.after_of_ne machines x name ?_
  rw [h.changes?]
  exact nofun

theorem after_inventory {x : Exchange} (h : x.call.Inert) (inv : Inventory) :
    inv.after x = inv := by
  obtain ⟨call, reply⟩ := x
  rcases h with h | ⟨text, rfl⟩
  · cases call <;> first | rfl | cases h
  · rfl

end Call.Inert

/-! ## Looking again for another VM that runs -/

namespace Hypervisor

/-- A search that finds nothing has asked of each other VM of the platform whether it
runs, and was told that it does not. -/
theorem asked_of_runs_conflictAmong {names : List String}
    (run : Runs (conflictAmong name names).run trace (some (.ok false))) {other : String}
    (hmem : other ∈ names) (hother : other ≠ name) (hfamily : VmName.inFamily other = true) :
    ⟨.isRunning other, .ok false⟩ ∈ trace := by
  induction names generalizing trace with
  | nil => cases hmem
  | cons vm names ih =>
      by_cases hrival : vm ≠ name ∧ VmName.inFamily vm = true
      · obtain ⟨reply, rest, rfl, hrest⟩ := (runs_conflictAmong_cons_of_rival hrival).1 run
        rcases hrest with ⟨rfl, hrest⟩ | ⟨hdecided, -, hreply⟩
        · rcases List.mem_cons.1 hmem with rfl | hmem
          · exact List.mem_cons_self
          · exact List.mem_cons_of_mem _ (ih hrest hmem)
        · exact absurd (Option.some.inj hreply).symm hdecided
      · rw [conflictAmong_cons_of_not_rival hrival] at run
        refine ih run ((List.mem_cons.1 hmem).resolve_left ?_)
        rintro rfl
        exact hrival ⟨hother, hfamily⟩

/-- A search that is told of no other VM of the platform that it runs finds nothing. -/
theorem idle_of_runs_conflictAmong {names : List String} {q : Option (Except Fault Bool)}
    (run : Runs (conflictAmong name names).run trace q)
    (hidle : ∀ other ∈ names, other ≠ name → VmName.inFamily other = true →
      ∀ reply, ⟨.isRunning other, reply⟩ ∈ trace → reply = .ok false) :
    q = some (.ok false) := by
  induction names generalizing trace with
  | nil => exact (runs_done.1 run).2
  | cons vm names ih =>
      by_cases hrival : vm ≠ name ∧ VmName.inFamily vm = true
      · obtain ⟨reply, rest, rfl, hrest⟩ := (runs_conflictAmong_cons_of_rival hrival).1 run
        obtain rfl : reply = .ok false :=
          hidle vm List.mem_cons_self hrival.1 hrival.2 reply List.mem_cons_self
        obtain ⟨-, hrest⟩ := hrest.resolve_right fun h => h.1 rfl
        refine ih hrest fun other hmem hne hfamily reply hreply => ?_
        exact hidle other (List.mem_cons_of_mem _ hmem) hne hfamily reply
          (List.mem_cons_of_mem _ hreply)
      · rw [conflictAmong_cons_of_not_rival hrival] at run
        exact ih run fun other hmem => hidle other (List.mem_cons_of_mem _ hmem)

end Hypervisor

/-- Where one search found nothing, another one finds nothing either. -/
theorem search_finds_nothing_again {q : Option (Except Fault Bool)}
    (faithful : ∀ x ∈ first ++ second, x.FaithfulTo machines)
    (settles : Settles fails (first ++ second))
    (hfirst : Runs (Hypervisor.conflictPresent name).run first (some (.ok false)))
    (hsecond : Runs (Hypervisor.conflictPresent name).run second q) : q = some (.ok false) := by
  obtain ⟨_, names, asked, rfl, rfl, hasked⟩ := runs_run_call_bind_ok.1 hfirst
  obtain ⟨reply, rest, rfl, hrest⟩ := runs_ask.1 hsecond
  have hlisted : (⟨.registered, .ok names⟩ : Exchange) ∈
      ⟨.registered, .ok names⟩ :: asked ++ ⟨.registered, reply⟩ :: rest := by simp
  have hlisting : (⟨.registered, reply⟩ : Exchange) ∈
      ⟨.registered, .ok names⟩ :: asked ++ ⟨.registered, reply⟩ :: rest := by simp
  have hanswered := settles.fault?_eq_none hlisted rfl hlisting rfl rfl
  rcases reply with fault | names'
  · cases hanswered
  refine Hypervisor.idle_of_runs_conflictAmong hrest ?_
  intro other hmem hother hfamily reply hreply
  have hthere : other ∈ names :=
    ((faithful _ hlisted).found other).2 (((faithful _ hlisting).found other).1 hmem)
  have hidle : (⟨.isRunning other, .ok false⟩ : Exchange) ∈
      ⟨.registered, .ok names⟩ :: asked ++ ⟨.registered, .ok names'⟩ :: rest := by
    have hmem := Hypervisor.asked_of_runs_conflictAmong hasked hthere hother hfamily
    simp [hmem]
  have hagain : (⟨.isRunning other, reply⟩ : Exchange) ∈
      ⟨.registered, .ok names⟩ :: asked ++ ⟨.registered, .ok names'⟩ :: rest := by
    simp [hreply]
  have hanswered := settles.fault?_eq_none hidle rfl hagain rfl rfl
  rcases reply with fault | running
  · cases hanswered
  have hstate : running = true ↔ false = true :=
    (faithful _ hagain).found.trans (faithful _ hidle).found.symm
  rw [Bool.eq_false_iff.2 fun hrunning => Bool.false_ne_true (hstate.1 hrunning)]

/-! ## What a request leaves -/

/-- The states of a VM in which a request has nothing left to do. -/
def Request.Done : Request → Option RunState → Prop
  | .stop, vm => vm = none ∨ vm = some .poweredOff ∨ vm = some .aborted
  | .suspend, vm => vm = some .suspended ∨ vm = some .saved ∨ vm = some .paused
  | .destroy, vm => vm = none
  | _, _ => False

/-- The requests that can be repeated. -/
inductive Request.Repeatable : Request → Prop
  | stop : Repeatable .stop
  | suspend : Repeatable .suspend
  | destroy : Repeatable .destroy

theorem not_refused_of_ok {e : LifecycleError}
    (run : Runs (request.apply ctx imports s).run trace (some (.ok ()))) :
    s.answer? request ≠ some (.refused e) := by
  intro h
  rw [apply_of_answer? h, Answer.runs_action] at run
  cases run.2

theorem lands_of_repeatable (hrequest : request.Repeatable) (hs : s.Shows machines name)
    {r : Option (Except LifecycleError Unit)}
    (run : Runs (request.apply ctx imports s).run trace r) :
    Lands machines name request s.stateName trace r := by
  cases hrequest with
  | stop => exact lands_stop ctx hs run
  | suspend => exact lands_suspend hs run
  | destroy => exact lands_destroy hs run

/-- A request that goes well has done what there was to do. -/
theorem done_of_runs_apply (hrequest : request.Repeatable) (hs : s.Shows machines name)
    (run : Runs (request.apply ctx imports s).run trace (some (.ok ()))) :
    request.Done (runStates.afterAll machines trace name) := by
  have hanswer (e : LifecycleError) : s.answer? request ≠ some (.refused e) := not_refused_of_ok run
  obtain ⟨_, hresult, hafter⟩ := lands_of_repeatable hrequest hs run
  cases hresult
  rw [hafter]
  cases s with
  | notCreated missing =>
      cases hrequest with
      | stop => exact .inl hs.2
      | suspend => exact absurd rfl (hanswer _)
      | destroy => rfl
  | existing phase config =>
      obtain ⟨-, hstate⟩ := hs
      cases hrequest with
      | stop =>
          cases phase with
          | running | unprovisioned | recoverable => exact .inr (.inl rfl)
          | stopped => exact .inr (.inl hstate)
          | aborted => exact .inr (.inr hstate)
          | _ => exact absurd rfl (hanswer _)
      | suspend =>
          cases phase with
          | running => exact .inl rfl
          | suspended => exact .inl hstate
          | saved => exact .inr (.inl hstate)
          | paused => exact .inr (.inr hstate)
          | _ => exact absurd rfl (hanswer _)
      | destroy => rfl
  | invalid reason => exact absurd rfl (hanswer _)

/-- A VM that is there after a request that went well was there before. -/
theorem existing_of_there (hrequest : request.Repeatable) (hs : s.Shows machines name)
    (run : Runs (request.apply ctx imports s).run trace (some (.ok ())))
    (hthere : runStates.afterAll machines trace name ≠ none) :
    ∃ phase config, s = .existing phase config := by
  obtain ⟨_, hresult, hafter⟩ := lands_of_repeatable hrequest hs run
  cases hresult
  cases s with
  | notCreated missing =>
      have hgone : runStates.afterAll machines trace name = none := by
        rw [hafter]
        cases hrequest with
        | destroy => rfl
        | stop => exact hs.2
        | suspend => exact hs.2
      exact absurd hgone hthere
  | existing phase config => exact ⟨phase, config, rfl⟩
  | invalid reason => exact (not_refused_of_ok run rfl).elim

/-- A VM that is not there after a stop that went well was not there before. -/
theorem notCreated_of_gone (hs : s.Shows machines name)
    (run : Runs (Request.stop.apply ctx imports s).run trace (some (.ok ())))
    (hgone : runStates.afterAll machines trace name = none) : s = .notCreated name := by
  obtain ⟨_, hresult, hafter⟩ := lands_of_repeatable .stop hs run
  cases hresult
  cases s with
  | notCreated missing => rw [hs.1]
  | existing phase config =>
      rw [hafter, hs.2] at hgone
      cases phase <;> cases hgone
  | invalid reason => exact (not_refused_of_ok run rfl).elim

theorem eq_notCreated_of_gone (hs : s.Shows machines name) (hgone : machines name = none) :
    s = .notCreated name := by
  cases s with
  | notCreated missing => rw [hs.1]
  | existing phase config =>
      rw [hs.2] at hgone
      cases hgone
  | invalid reason => exact absurd hgone hs

theorem Request.Done.rests (hdone : request.Done (machines name)) (hthere : machines name ≠ none) :
    Rests machines name := by
  cases request with
  | stop =>
      rcases hdone with h | h | h
      · exact absurd h hthere
      · exact ⟨.stopped, nofun, h⟩
      · exact ⟨.aborted, nofun, h⟩
  | suspend =>
      rcases hdone with h | h | h
      · exact ⟨.suspended, nofun, h⟩
      · exact ⟨.saved, nofun, h⟩
      · exact ⟨.paused, nofun, h⟩
  | destroy => exact absurd hdone hthere
  | _ => cases hdone

theorem Rests.not_running (h : Rests machines name) : machines name ≠ some .running := by
  obtain ⟨phase, hphase, hstate⟩ := h
  rw [hstate]
  exact fun hsame => hphase (Option.some.inj hsame)

theorem Request.Done.not_running (hdone : request.Done (machines name)) :
    machines name ≠ some .running := by
  by_cases hthere : machines name = none
  · rw [hthere]
    exact nofun
  · exact (hdone.rests hthere).not_running

/-- Where nothing is left to do the user is told so, unless another VM is to be looked
for first. -/
theorem told_of_done (hrequest : request.Repeatable) (hdone : request.Done (machines name))
    (hs : s.Shows machines name) (hvalid : ∀ reason, s ≠ .invalid reason)
    (hthere : request = .stop → machines name ≠ none) :
    ∃ text, s.answer? request = some (.told text) := by
  cases s with
  | notCreated missing =>
      cases hrequest with
      | stop => exact absurd hs.2 (hthere rfl)
      | suspend =>
          rw [hs.2] at hdone
          rcases hdone with h | h | h <;> cases h
      | destroy => exact ⟨_, rfl⟩
  | existing phase config =>
      rw [hs.2] at hdone
      cases hrequest with
      | stop =>
          rcases hdone with h | h | h <;> cases phase <;>
            first | exact ⟨_, rfl⟩ | cases h
      | suspend =>
          rcases hdone with h | h | h <;> cases phase <;>
            first | exact ⟨_, rfl⟩ | cases h
      | destroy => cases hdone
  | invalid reason => exact absurd rfl (hvalid reason)

/-! ## One repetition -/

/-- A query that was answered once is answered again. -/
theorem query_answered_again {q : Option (Except LifecycleError Snapshot)}
    (settles : Settles fails (first ++ second))
    (hfirst : Runs (ctx.query name).run first (some (.ok s)))
    (hsecond : Runs (ctx.query name).run second q) : ∃ s', q = some (.ok s') := by
  obtain ⟨outcome, rfl, hfound⟩ := found_of_runs_query hsecond
  rcases outcome with e | s'
  · obtain ⟨fault, rfl, -⟩ := hfound.error_iff.1 rfl
    obtain ⟨_, houtcome, hanswered⟩ := found_of_runs_query hfirst
    cases houtcome
    have hregistered : ∃ registered, ⟨.isRegistered name, .ok registered⟩ ∈ first := by
      cases hanswered <;> exact ⟨_, List.mem_cons_self⟩
    obtain ⟨registered, hmem⟩ := hregistered
    cases settles.fault?_eq_none (List.mem_append_left _ hmem) rfl
      (List.mem_append_right _ (List.mem_singleton_self _)) rfl rfl
  · exact ⟨s', rfl⟩

/-- The guest of a VM that does not run is not asked. -/
theorem inert_of_runs_query (hs : s.Shows machines name) (hidle : machines name ≠ some .running)
    (run : Runs (ctx.query name).run trace (some (.ok s))) : ∀ x ∈ trace, x.call.Inert := by
  obtain ⟨_, houtcome, hfound⟩ := found_of_runs_query run
  cases houtcome
  have hinquires : ∀ x ∈ trace, x.call.inquires = true := by
    cases hfound with
    | running ip port resources reply =>
        rw [hs.2, Guest.runState_phaseOf] at hidle
        exact absurd rfl hidle
    | _ => simp [configurationRead, Call.inquires]
  exact fun x hx => .of_inquires (hinquires x hx)

/-- The stop of a VM that does not exist looks for another VM, and ends well exactly if
the search finds none. -/
theorem search_of_runs_stop {r : Option (Except LifecycleError Unit)}
    (run : Runs (Snapshot.stop (.notCreated name)).run trace r) :
    ∃ found search rest, trace = search ++ rest ∧
      Runs (Hypervisor.conflictPresent name).run search (some found) ∧
      (r = some (.ok ()) ↔ found = .ok false) := by
  obtain ⟨search, found, rest, rfl, hsearch⟩ := searchesFirst_stop.begins run
  refine ⟨found, search, rest, rfl, hsearch, ?_⟩
  rcases found with fault | _ | _
  · obtain ⟨-, rfl⟩ := (searchesFirst_stop.ends hsearch rfl rest r).1 run
    simp
  · obtain ⟨-, rfl⟩ := (runs_stop_of_idle hsearch).1 run
    simp
  · obtain ⟨-, rfl⟩ := (searchesFirst_stop.ends hsearch rfl rest r).1 run
    simp

theorem inert_of_runs_stop {r : Option (Except LifecycleError Unit)}
    (run : Runs (Snapshot.stop (.notCreated name)).run trace r) :
    ∀ x ∈ trace, x.call.Inert := by
  have honly : Only Call.Inert (Snapshot.stop (.notCreated name)).run := by
    refine only_run_bind ?_ fun _ => only_run_tell _ (.inr ⟨_, rfl⟩)
    exact Looks.only_searching (.of_searches rfl) (fun _ => .of_searches rfl) name
  exact fun x hx => honly.of_runs run hx

/-- The stop of a VM that does not exist finds no other VM again. -/
theorem stop_nothing_again {r : Option (Except LifecycleError Unit)}
    (faithful : ∀ x ∈ first ++ second, x.FaithfulTo machines)
    (settles : Settles fails (first ++ second))
    (hfirst : Runs (Snapshot.stop (.notCreated name)).run first (some (.ok ())))
    (hsecond : Runs (Snapshot.stop (.notCreated name)).run second r) : r = some (.ok ()) := by
  obtain ⟨q, search, rest, rfl, hsearch, hq⟩ := search_of_runs_stop hfirst
  obtain ⟨q', search', rest', rfl, hsearch', hq'⟩ := search_of_runs_stop hsecond
  obtain rfl := hq.1 rfl
  simp only [settles_append, List.forall_mem_append] at settles faithful
  obtain ⟨⟨hsettles, -⟩, hsettles', -⟩ := settles
  obtain ⟨⟨hfaithful, -⟩, hfaithful', -⟩ := faithful
  refine hq'.2 (Option.some.inj ?_)
  exact search_finds_nothing_again (List.forall_mem_append.2 ⟨hfaithful, hfaithful'⟩)
    (settles_append.2 ⟨hsettles, hsettles'⟩) hsearch hsearch'

/-- A request that went well went on with the VM as it was. -/
theorem split_of_ok (truthful : Truthful machines trace)
    (run : Runs (ctx.perform imports name request).run trace (some (.ok ()))) :
    ∃ s asked rest, trace = asked ++ rest ∧ Runs (ctx.query name).run asked (some (.ok s)) ∧
      s.Shows machines name ∧
      runStates.afterAll machines trace = runStates.afterAll machines rest ∧
      Runs (request.apply ctx imports s).run rest (some (.ok ())) := by
  rcases split_of_runs_query truthful run with
    ⟨s, asked, rest, rfl, hasked, hs, hstill, -, happly⟩ | ⟨_, -, -, hr⟩
  · refine ⟨s, asked, rest, rfl, hasked, hs, ?_, happly⟩
    rw [runStates.afterAll_append, hstill]
  · cases hr

/-- Once a query was answered, a request goes on with the VM as it is then. -/
theorem split_again {asked : List Exchange} {r : Option (Except LifecycleError Unit)}
    (settles : Settles fails (asked ++ second)) (truthful : Truthful machines second)
    (hasked : Runs (ctx.query name).run asked (some (.ok s)))
    (run : Runs (ctx.perform imports name request).run second r) :
    ∃ s' asked' rest, second = asked' ++ rest ∧
      Runs (ctx.query name).run asked' (some (.ok s')) ∧ Truthful machines asked' ∧
      s'.Shows machines name ∧ Runs (request.apply ctx imports s').run rest r := by
  rcases split_of_runs_query truthful run with
    ⟨s', asked', rest, rfl, hasked', hs', -, -, happly⟩ | ⟨_, hlost, -, -⟩
  · exact ⟨s', asked', rest, rfl, hasked', (truthful_append.1 truthful).1, hs', happly⟩
  · obtain ⟨_, hs'⟩ := query_answered_again settles hasked hlost
    cases hs'

/-- The VM that a request left is made out again. -/
theorem made_out_again {s' : Snapshot} {asked rest asked' : List Exchange}
    (hrequest : request.Repeatable) (steady : Steady fails (asked ++ asked'))
    (hs : s.Shows machines name) (hasked : Runs (ctx.query name).run asked (some (.ok s)))
    (happly : Runs (request.apply ctx imports s).run rest (some (.ok ())))
    (truthful : Truthful (runStates.afterAll machines rest) asked')
    (hs' : s'.Shows (runStates.afterAll machines rest) name)
    (hasked' : Runs (ctx.query name).run asked' (some (.ok s'))) (reason : String) :
    s' ≠ .invalid reason := by
  rintro rfl
  obtain ⟨phase, config, rfl⟩ := existing_of_there hrequest hs happly hs'
  have rests : Rests (runStates.afterAll machines rest) name :=
    (done_of_runs_apply hrequest hs happly).rests hs'
  obtain ⟨_, _, hfound, -⟩ := found_at_rest steady rests truthful hasked hasked' hs'
  cases hfound

/-- Two stops in a row of a VM that does not exist: all that they do is to look for
another one. -/
theorem stop_repeated_of_missing {asked rest asked' rest' : List Exchange}
    {r : Option (Except LifecycleError Unit)}
    (faithful : Faithful machines (asked ++ rest ++ (asked' ++ rest')))
    (settles : Settles fails (asked ++ rest ++ (asked' ++ rest')))
    (hasked : ∀ x ∈ asked, x.call.Inert) (hasked' : ∀ x ∈ asked', x.call.Inert)
    (hfirst : Runs (Snapshot.stop (.notCreated name)).run rest (some (.ok ())))
    (hsecond : Runs (Snapshot.stop (.notCreated name)).run rest' r) : r = some (.ok ()) := by
  have hall : ∀ x ∈ asked ++ rest ++ (asked' ++ rest'), x.call.Inert := by
    simp only [List.forall_mem_append]
    exact ⟨⟨hasked, inert_of_runs_stop hfirst⟩, hasked', inert_of_runs_stop hsecond⟩
  have hstill : ∀ x ∈ asked ++ rest ++ (asked' ++ rest'), runStates.after machines x = machines :=
    fun x hx => (hall x hx).after runStates machines
  have hfaithful : ∀ x ∈ asked ++ rest ++ (asked' ++ rest'), x.FaithfulTo machines :=
    fun x hx => faithful.of_still hstill hx
  simp only [settles_append, List.forall_mem_append] at settles hfaithful
  exact stop_nothing_again (List.forall_mem_append.2 ⟨hfaithful.1.2, hfaithful.2.2⟩)
    (settles_append.2 ⟨settles.1.2, settles.2.2⟩) hfirst hsecond

/-- A request that went well goes well again, and only asks and tells. -/
theorem repeated_of_runs_perform {r : Option (Except LifecycleError Unit)}
    (hrequest : request.Repeatable) (faithful : Faithful machines (first ++ second))
    (settles : Settles fails (first ++ second))
    (hfirst : Runs (ctx.perform imports name request).run first (some (.ok ())))
    (hsecond : Runs (ctx.perform imports name request).run second r) :
    r = some (.ok ()) ∧ ∀ x ∈ second, x.call.Inert := by
  obtain ⟨hbefore, hafter⟩ := faithful_append.1 faithful
  obtain ⟨s, asked, rest, rfl, hasked, hs, hleft, happly⟩ := split_of_ok hbefore.truthful hfirst
  rw [hleft] at hafter
  obtain ⟨hearlier, hlater⟩ := settles_append.1 settles
  have hquestions : Settles fails (asked ++ second) :=
    settles_append.2 ⟨(settles_append.1 hearlier).1, hlater⟩
  obtain ⟨s', asked', rest', rfl, hasked', htruthful, hs', happly'⟩ :=
    split_again hquestions hafter.truthful hasked hsecond
  have hdone : request.Done (runStates.afterAll machines rest name) :=
    done_of_runs_apply hrequest hs happly
  have hinert : ∀ x ∈ asked', x.call.Inert := inert_of_runs_query hs' hdone.not_running hasked'
  rw [List.forall_mem_append]
  by_cases hnothing : request = .stop ∧ runStates.afterAll machines rest name = none
  · obtain ⟨rfl, hgone⟩ := hnothing
    obtain rfl := notCreated_of_gone hs happly hgone
    obtain rfl := eq_notCreated_of_gone hs' hgone
    have hasked : ∀ x ∈ asked, x.call.Inert :=
      inert_of_runs_query hs (by rw [hs.2]; exact nofun) hasked
    exact ⟨stop_repeated_of_missing faithful settles hasked hinert happly happly', hinert,
      inert_of_runs_stop happly'⟩
  · rw [← List.append_assoc] at hquestions
    have hsteady : Steady fails (asked ++ asked') := (settles_append.1 hquestions).1.steady
    have hvalid := made_out_again hrequest hsteady hs hasked happly htruthful hs' hasked'
    obtain ⟨text, hanswer⟩ := told_of_done hrequest hdone hs' hvalid
      fun hstop hgone => hnothing ⟨hstop, hgone⟩
    rw [apply_of_answer? hanswer, Answer.runs_action] at happly'
    obtain ⟨rfl, rfl⟩ := happly'
    exact ⟨rfl, hinert, List.forall_mem_singleton.2 (.inr ⟨text, rfl⟩)⟩

/-! ## Any number of repetitions -/

/-- Each repetition of a request that went well goes well, and only asks and tells. -/
theorem repeated_of_runs_session {n : Nat} {q : Option (List (Except LifecycleError Unit))}
    (hrequest : request.Repeatable) (faithful : Faithful machines (first ++ trace))
    (settles : Settles fails (first ++ trace))
    (hfirst : Runs (ctx.perform imports name request).run first (some (.ok ())))
    (run : Runs (ctx.session imports name (List.replicate n request)) trace q) :
    q = some (List.replicate n (.ok ())) ∧ ∀ x ∈ trace, x.call.Inert := by
  induction n generalizing machines first trace q with
  | zero =>
      obtain ⟨rfl, rfl⟩ := runs_done.1 run
      exact ⟨rfl, List.forall_mem_nil _⟩
  | succ n ih =>
      rw [List.replicate_succ, Context.session] at run
      rcases runs_bind.1 run with ⟨outcome, one, rest, rfl, hone, hrest⟩ | ⟨hone, rfl⟩
      · have hthis : Faithful machines (first ++ one) ∧ Settles fails (first ++ one) := by
          rw [← List.append_assoc] at faithful settles
          exact ⟨(faithful_append.1 faithful).1, (settles_append.1 settles).1⟩
        obtain ⟨houtcome, hinert⟩ :=
          repeated_of_runs_perform hrequest hthis.1 hthis.2 hfirst hone
        cases houtcome
        -- the next repetition repeats this one
        have hlater : Faithful (runStates.afterAll machines first) (one ++ rest) :=
          (faithful_append.1 faithful).2
        have hsettles : Settles fails (one ++ rest) := (settles_append.1 settles).2
        rcases runs_bind.1 hrest with ⟨outcomes, later, last, rfl, hothers, hlast⟩ | ⟨hothers, -⟩
        · obtain ⟨rfl, rfl⟩ := runs_done.1 hlast
          rw [List.append_nil] at hlater hsettles ⊢
          obtain ⟨houtcomes, hinerts⟩ := ih hlater hsettles hone hothers
          cases houtcomes
          exact ⟨rfl, List.forall_mem_append.2 ⟨hinert, hinerts⟩⟩
        · cases (ih hlater hsettles hone hothers).1
      · cases (repeated_of_runs_perform hrequest faithful settles hfirst hone).1

/-- On a hypervisor that says what is so, and where each question about VMs fails each
time or never, a stop, a suspension or a removal that went well goes well any number of
times more. The repetitions change no VM and reach no guest, but only ask questions and
tell the user something, so whatever is known of the hypervisor is as the first request
left it. -/
theorem requests_repeat {n : Nat} {later : List Exchange}
    {q : Option (List (Except LifecycleError Unit))}
    (hrequest : request.Repeatable) (faithful : Faithful machines (first ++ later))
    (settles : Settles fails (first ++ later))
    (hfirst : Runs (ctx.perform imports name request).run first (some (.ok ())))
    (run : Runs (ctx.session imports name (List.replicate n request)) later q) :
    q = some (List.replicate n (.ok ())) ∧
      (∀ x ∈ later, x.call.Inert ∧ x.call.changes? = none ∧ x.call.channel? = none) ∧
      (∀ (σ : Type) (model : HypervisorModel σ) (vms : Machines σ),
        model.afterAll vms (first ++ later) = model.afterAll vms first) ∧
      ∀ inv : Inventory, inv.afterAll (first ++ later) = inv.afterAll first := by
  obtain ⟨hresult, hinert⟩ := repeated_of_runs_session hrequest faithful settles hfirst run
  refine ⟨hresult, fun x hx => ⟨hinert x hx, (hinert x hx).changes?, (hinert x hx).channel?⟩,
    fun σ model vms => ?_, fun inv => ?_⟩
  · rw [model.afterAll_append]
    exact foldl_of_still fun x hx => (hinert x hx).after model _
  · rw [inv.afterAll_append]
    exact foldl_of_still fun x hx => (hinert x hx).after_inventory _

/-- A VM that runs is stopped, and stopped twice more. -/
theorem requests_repeat_stop :
    let ctx : Context := ⟨.defaults ⟨[]⟩, .builtIn⟩
    let machines : Machines RunState :=
      fun name => if name = "pcfdev-v1" then some .running else none
    let first : List Exchange :=
      configurationRead "pcfdev-v1" ⟨192, 168, 11, 11⟩ 2222 ⟨4096, 2⟩ ++
        [⟨.runState "pcfdev-v1", .ok .running⟩, ctx.marker 2222 (.ok "provisioned"),
         ⟨.tell "Stopping VM...", ()⟩, ⟨.powerOff "pcfdev-v1", .ok ()⟩,
         ⟨.tell "PCF Dev is now stopped.", ()⟩]
    let again : List Exchange :=
      configurationRead "pcfdev-v1" ⟨192, 168, 11, 11⟩ 2222 ⟨4096, 2⟩ ++
        [⟨.runState "pcfdev-v1", .ok .poweredOff⟩, ⟨.tell "PCF Dev is stopped.", ()⟩]
    Faithful machines (first ++ (again ++ again)) ∧
      Settles (fun _ => False) (first ++ (again ++ again)) ∧
      Runs (ctx.perform 1 "pcfdev-v1" .stop).run first (some (.ok ())) ∧
      Runs (ctx.session 1 "pcfdev-v1" (List.replicate 2 .stop)) (again ++ again)
        (some [.ok (), .ok ()]) ∧
      runStates.afterAll machines (first ++ (again ++ again)) =
        runStates.afterAll machines first := by
  intro ctx machines first again
  have faithful : Faithful machines (first ++ (again ++ again)) := by
    refine ⟨⟨rfl, trivial⟩, ⟨trivial, trivial⟩, ⟨trivial, trivial⟩, ⟨trivial, trivial⟩,
      ⟨rfl, trivial⟩, ⟨trivial, trivial⟩, ⟨trivial, trivial⟩, ⟨trivial, trivial⟩,
      ⟨trivial, trivial⟩, ⟨rfl, trivial⟩, ⟨trivial, trivial⟩, ⟨trivial, trivial⟩,
      ⟨trivial, trivial⟩, ⟨rfl, trivial⟩, ⟨trivial, trivial⟩, ⟨rfl, trivial⟩,
      ⟨trivial, trivial⟩, ⟨trivial, trivial⟩, ⟨trivial, trivial⟩, ⟨rfl, trivial⟩,
      ⟨trivial, trivial⟩, trivial⟩
  have settles : Settles (fun _ => False) (first ++ (again ++ again)) := by
    have hanswered : ∀ x ∈ first ++ (again ++ again), x.fault? = none := by
      decide
    intro x hx _
    simp [hanswered x hx]
  have hfirst : Runs (ctx.perform 1 "pcfdev-v1" .stop).run first (some (.ok ())) :=
    .ask _ (.ask _ (.ask _ (.ask _ (.ask _ (.ask _ (.note (.ask _ (.note (.ask _ (.ask _
      (.done _)))))))))))
  have run : Runs (ctx.session 1 "pcfdev-v1" (List.replicate 2 .stop)) (again ++ again)
      (some [.ok (), .ok ()]) :=
    .ask _ (.ask _ (.ask _ (.ask _ (.ask _ (.note (.ask _ (.ask _ (.ask _ (.ask _ (.ask _
      (.ask _ (.note (.ask _ (.done _))))))))))))))
  obtain ⟨-, -, hstill, -⟩ := requests_repeat .stop faithful settles hfirst run
  exact ⟨faithful, settles, hfirst, run, hstill _ runStates machines⟩

end VmLifecycle
