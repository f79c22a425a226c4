import VmLifecycle.Lifecycle.Operations
import VmLifecycle.Proofs.Hypervisor.Rivals

/-!
# Another VM in the way

The start and the stop of a VM that does not exist first look for another VM of the
platform that runs. One check does this for both, and its runs are those of the search. If
the search finds a VM or fails, the check ends in an error, and what would come after it
does not happen: so whatever begins with the check has nothing but the search for a run.
-/

namespace VmLifecycle

open Program Hypervisor

variable {name : String} {search trace : List Exchange}

/-! ## The check -/

/-- What the check makes of what the search came to. -/
def conflictVerdict : Except Fault Bool → Except LifecycleError Unit
  | .ok true => .error .conflict
  | .ok false => .ok ()
  | .error fault => .error (.vm fault)

theorem run_refuseConflict (name : String) :
    (Snapshot.refuseConflict name).run =
      (conflictPresent name).run.bind fun found => .done (conflictVerdict found) := by
  rw [Snapshot.refuseConflict, run_bind, run_asAction, bind_assoc]
  congr 1
  funext found
  rcases found with fault | _ | _ <;> rfl

theorem runs_refuseConflict {r : Option (Except LifecycleError Unit)} :
    Runs (Snapshot.refuseConflict name).run trace r ↔
      ∃ found, Runs (conflictPresent name).run trace (some found) ∧
        r = some (conflictVerdict found) := by
  rw [run_refuseConflict, runs_bind_done]
  constructor
  · rintro ⟨_ | found, run, rfl⟩
    · obtain ⟨_, _, _, -, hnone⟩ := runs_conflictPresent_ends run
      cases hnone
    · exact ⟨found, run, rfl⟩
  · rintro ⟨found, run, rfl⟩
    exact ⟨some found, run, rfl⟩

/-- The action looks first for another VM that runs. If the check does not pass, nothing
follows, and the action ends in the error of the check. -/
structure SearchesFirst (name : String) (action : Action Unit) : Prop where
  begins : ∀ {trace r}, Runs action.run trace r →
    ∃ search found rest, trace = search ++ rest ∧
      Runs (conflictPresent name).run search (some found)
  ends : ∀ {search found e}, Runs (conflictPresent name).run search (some found) →
    conflictVerdict found = .error e →
      ∀ rest r, Runs action.run (search ++ rest) r ↔ rest = [] ∧ r = some (.error e)

theorem searchesFirst_refuseConflict : SearchesFirst name (Snapshot.refuseConflict name) where
  begins run := by
    obtain ⟨found, hsearch, -⟩ := runs_refuseConflict.1 run
    exact ⟨_, found, [], by simp, hsearch⟩
  ends hsearch hverdict _ _ := runs_append (runs_refuseConflict.2 ⟨_, hsearch, by rw [hverdict]⟩)

/-- What comes after the check does not matter. -/
theorem SearchesFirst.bind {x : Action Unit} (h : SearchesFirst name x) (f : Unit → Action Unit) :
    SearchesFirst name (x >>= f) where
  begins run := by
    rcases runs_run_bind.1 run with ⟨_, first, second, rfl, hfirst, -⟩ | ⟨_, hfirst, -⟩ |
      ⟨hfirst, -⟩
    · obtain ⟨search, found, rest, rfl, hsearch⟩ := h.begins hfirst
      exact ⟨search, found, rest ++ second, List.append_assoc .., hsearch⟩
    · exact h.begins hfirst
    · exact h.begins hfirst
  ends hsearch hverdict _ _ := by
    have hfirst := (h.ends hsearch hverdict [] _).2 ⟨rfl, rfl⟩
    rw [List.append_nil] at hfirst
    exact runs_append (runs_run_bind.2 (.inr (.inl ⟨_, hfirst, rfl⟩)))

/-! ## Start and stop of a VM that does not exist -/

theorem searchesFirst_start (ctx : Context) (start : StartOptions) (imports : Nat) :
    SearchesFirst name (Snapshot.start ctx start (imports + 1) (.notCreated name)) :=
  (searchesFirst_refuseConflict.bind _).bind _

theorem searchesFirst_stop : SearchesFirst name (Snapshot.stop (.notCreated name)) :=
  searchesFirst_refuseConflict.bind _

/-- Where no other VM runs, a stop says that the VM does not exist. -/
theorem runs_stop_of_idle (h : Runs (conflictPresent name).run search (some (.ok false)))
    {rest : List Exchange} {r : Option (Except LifecycleError Unit)} :
    Runs (Snapshot.stop (.notCreated name)).run (search ++ rest) r ↔
      rest = [⟨.tell notCreatedText, ()⟩] ∧ r = some (.ok ()) := by
  have hpassed : Runs (Snapshot.refuseConflict name).run search (some (.ok ())) :=
    runs_refuseConflict.2 ⟨_, h, rfl⟩
  refine (runs_run_bind_append hpassed).trans ?_
  constructor
  · intro run
    obtain ⟨⟨⟩, rest, rfl, hdone⟩ := runs_ask.1 run
    obtain ⟨rfl, rfl⟩ := runs_done.1 hdone
    exact ⟨rfl, rfl⟩
  · rintro ⟨rfl, rfl⟩
    exact .ask _ (.done _)

/-- The search lists the VMs, and a listing that fails ends it. Then, whatever the `i`-th
question is answered, it has one run: it asks of the other platform VMs in the order of the
list, up to the first that runs or of which it cannot be told. It finds one exactly if some
such VM runs and no question before it failed, it fails with the first failure exactly if
that comes before any VM that runs, and it finds none if none runs. The start and the stop
of a VM that does not exist begin with it. A search that finds a VM ends them in a refusal
and one that fails in its fault, before anything else is asked or told; where none is
found, the stop gives its message and ends well. -/
theorem conflict_is_searched_first (name : String) :
    (∀ trace r, Runs (conflictPresent name).run trace r →
      ∃ reply rest, trace = ⟨.registered, reply⟩ :: rest) ∧
    (∀ fault rest r,
      Runs (conflictPresent name).run (⟨.registered, .error fault⟩ :: rest) r ↔
        rest = [] ∧ r = some (.error fault)) ∧
    (∀ names answers, ∃ found, Decided (rivals name names) answers found ∧
      ∀ rest r, (Runs (conflictPresent name).run (⟨.registered, .ok names⟩ :: rest) r ∧
          AnsweredInOrder answers rest) ↔
        rest = (upToDecision (inquiries (rivals name names) answers)).map Inquiry.exchange ∧
          r = some found) ∧
    (∀ ctx start imports,
      SearchesFirst name (Snapshot.start ctx start (imports + 1) (.notCreated name))) ∧
    SearchesFirst name (Snapshot.stop (.notCreated name)) ∧
    (∀ search, Runs (conflictPresent name).run search (some (.ok false)) →
      ∀ rest r, Runs (Snapshot.stop (.notCreated name)).run (search ++ rest) r ↔
        rest = [⟨.tell notCreatedText, ()⟩] ∧ r = some (.ok ())) := by
  refine ⟨fun trace r run => ?_, fun fault rest r => runs_conflictPresent_unlisted,
    fun names answers => ⟨_, decided_finding, fun rest r => ?_⟩, searchesFirst_start,
    searchesFirst_stop, fun search hidle rest r => runs_stop_of_idle hidle⟩
  · obtain ⟨reply, rest, found, rfl, -⟩ := runs_conflictPresent_ends run
    exact ⟨reply, rest, rfl⟩
  · rw [runs_conflictPresent_listed]
    exact runs_conflictAmong_answered

/-- Neither the VM itself nor one of another family is asked about, and the stop tells
nothing once a VM is found that runs. -/
theorem stop_behind_running_vm :
    let search : List Exchange :=
      [⟨.registered, .ok ["pcfdev-a", "ubuntu", "pcfdev-custom", "pcfdev-b", "pcfdev-c"]⟩,
       ⟨.isRunning "pcfdev-a", .ok false⟩, ⟨.isRunning "pcfdev-b", .ok true⟩]
    Runs (conflictPresent VmName.custom).run search (some (.ok true)) ∧
      ∀ rest r, Runs (Snapshot.stop (.notCreated VmName.custom)).run (search ++ rest) r ↔
        rest = [] ∧ r = some (.error .conflict) := by
  intro search
  obtain ⟨-, -, hsearch, -, hstop, -⟩ := conflict_is_searched_first VmName.custom
  obtain ⟨found, hdecided, hruns⟩ :=
    hsearch ["pcfdev-a", "ubuntu", "pcfdev-custom", "pcfdev-b", "pcfdev-c"] (fun i => .ok (i = 1))
  have hfound : found = .ok true := hdecided.running.2 ⟨1, by decide, rfl, nofun⟩
  subst hfound
  have run : Runs (conflictPresent VmName.custom).run search (some (.ok true)) :=
    ((hruns _ _).2 ⟨by rfl, rfl⟩).1
  exact ⟨run, hstop.ends run rfl⟩

end VmLifecycle
