import VmLifecycle.Hypervisor
import VmLifecycle.Proofs.Effect.Runs

/-!
# Looking for another VM that runs

The search goes through the other platform VMs in the order in which they are listed and
asks of each whether it runs. The first answer that is not a plain no decides it: later
VMs are not asked about, and the answer is what the search comes to.
-/

namespace VmLifecycle.Hypervisor

open Program

/-- The platform VMs of a list, without this one. -/
def rivals (name : String) (names : List String) : List String :=
  names.filter fun other => other ≠ name ∧ VmName.inFamily other

/-- A question whether a VM runs, with its answer. -/
structure Inquiry where
  vm : String
  answer : Except Fault Bool

namespace Inquiry

def exchange (q : Inquiry) : Exchange :=
  ⟨.isRunning q.vm, q.answer⟩

/-- The VM runs, or there is no telling. -/
def decides (q : Inquiry) : Bool :=
  match q.answer with
  | .ok running => running
  | .error _ => true

theorem decides_eq_true {q : Inquiry} : q.decides = true ↔ q.answer ≠ .ok false := by
  unfold decides
  split <;> simp [*]

end Inquiry

/-- A question for each VM, the `i`-th one with the `i`-th answer. -/
def inquiries (vms : List String) (answers : Nat → Except Fault Bool) : List Inquiry :=
  vms.mapIdx fun i vm => ⟨vm, answers i⟩

/-- The questions up to the first whose answer decides, that one included. -/
def upToDecision (questions : List Inquiry) : List Inquiry :=
  questions.take (questions.findIdx Inquiry.decides + 1)

/-- The first answer that decides, or a no if none does. -/
def finding (questions : List Inquiry) : Except Fault Bool :=
  ((questions.find? Inquiry.decides).map Inquiry.answer).getD (.ok false)

/-- The answer to a question whether a VM runs. -/
def toldRunning? : Exchange → Option (Except Fault Bool)
  | ⟨.isRunning _, reply⟩ => some reply
  | _ => none

/-- A question at place `i` has the `i`-th answer. -/
def AnsweredInOrder (answers : Nat → Except Fault Bool) (exchanges : List Exchange) : Prop :=
  ∀ i reply, exchanges[i]?.bind toldRunning? = some reply → reply = answers i

variable {name vm : String} {names vms : List String} {answers : Nat → Except Fault Bool}
  {trace : List Exchange} {x : Exchange}

/-! ## One question more -/

theorem rivals_cons_of_rival (h : vm ≠ name ∧ VmName.inFamily vm = true) :
    rivals name (vm :: names) = vm :: rivals name names :=
  List.filter_cons_of_pos (by simpa using h)

theorem rivals_cons_of_not_rival (h : ¬ (vm ≠ name ∧ VmName.inFamily vm = true)) :
    rivals name (vm :: names) = rivals name names :=
  List.filter_cons_of_neg (by simpa using h)

theorem inquiries_cons :
    inquiries (vm :: vms) answers =
      ⟨vm, answers 0⟩ :: inquiries vms (fun i => answers (i + 1)) :=
  List.mapIdx_cons

theorem upToDecision_cons_of_no (h : answers 0 = .ok false) :
    upToDecision (inquiries (vm :: vms) answers) =
      ⟨vm, .ok false⟩ :: upToDecision (inquiries vms fun i => answers (i + 1)) := by
  rw [inquiries_cons, h]
  simp [upToDecision, List.findIdx_cons, Inquiry.decides]

theorem upToDecision_cons_of_decided (h : answers 0 ≠ .ok false) :
    upToDecision (inquiries (vm :: vms) answers) = [⟨vm, answers 0⟩] := by
  rw [inquiries_cons, upToDecision, List.findIdx_cons, Inquiry.decides_eq_true.2 h]
  rfl

theorem finding_cons_of_no (h : answers 0 = .ok false) :
    finding (inquiries (vm :: vms) answers) =
      finding (inquiries vms fun i => answers (i + 1)) := by
  rw [inquiries_cons, h]
  rfl

theorem finding_cons_of_decided (h : answers 0 ≠ .ok false) :
    finding (inquiries (vm :: vms) answers) = answers 0 := by
  rw [inquiries_cons, finding, List.find?_cons_of_pos (Inquiry.decides_eq_true.2 h)]
  rfl

theorem answeredInOrder_nil : AnsweredInOrder answers [] :=
  nofun

theorem answeredInOrder_cons :
    AnsweredInOrder answers (x :: trace) ↔
      (∀ reply, toldRunning? x = some reply → reply = answers 0) ∧
        AnsweredInOrder (fun i => answers (i + 1)) trace := by
  constructor
  · exact fun h => ⟨h 0, fun i => h (i + 1)⟩
  · rintro ⟨hfirst, hrest⟩ (_ | i)
    · exact hfirst
    · exact hrest i

theorem answeredInOrder_cons_isRunning {reply : Except Fault Bool} :
    AnsweredInOrder answers (⟨.isRunning vm, reply⟩ :: trace) ↔
      reply = answers 0 ∧ AnsweredInOrder (fun i => answers (i + 1)) trace := by
  simp [answeredInOrder_cons, toldRunning?]

theorem exists_answers (exchanges : List Exchange) :
    ∃ answers, AnsweredInOrder answers exchanges :=
  ⟨fun i => (exchanges[i]?.bind toldRunning?).getD (.ok false), fun i reply h => by simp [h]⟩

/-! ## What a search comes to -/

/-- A VM runs, and no question before it failed. -/
theorem finding_eq_true :
    finding (inquiries vms answers) = .ok true ↔
      ∃ i < vms.length, answers i = .ok true ∧ ∀ j < i, ∀ fault, answers j ≠ .error fault := by
  induction vms generalizing answers with
  | nil => simp [inquiries, finding]
  | cons vm vms ih =>
      simp only [List.length_cons, Nat.exists_lt_succ_left, Nat.forall_lt_succ_left]
      rcases hanswer : answers 0 with fault | _ | _
      · rw [finding_cons_of_decided (by simp [hanswer]), hanswer]
        simp
      · rw [finding_cons_of_no hanswer, ih]
        simp
      · rw [finding_cons_of_decided (by simp [hanswer]), hanswer]
        simp

/-- A question failed, and each one before it was answered with a no. -/
theorem finding_eq_error {fault : Fault} :
    finding (inquiries vms answers) = .error fault ↔
      ∃ i < vms.length, answers i = .error fault ∧ ∀ j < i, answers j = .ok false := by
  induction vms generalizing answers with
  | nil => simp [inquiries, finding]
  | cons vm vms ih =>
      simp only [List.length_cons, Nat.exists_lt_succ_left, Nat.forall_lt_succ_left]
      by_cases hanswer : answers 0 = .ok false
      · rw [finding_cons_of_no hanswer, ih]
        simp [hanswer]
      · rw [finding_cons_of_decided hanswer]
        simp [hanswer]

/-- No VM runs, and of each it could be told. -/
theorem finding_eq_false :
    finding (inquiries vms answers) = .ok false ↔ ∀ i < vms.length, answers i = .ok false := by
  induction vms generalizing answers with
  | nil => simp [inquiries, finding]
  | cons vm vms ih =>
      simp only [List.length_cons, Nat.forall_lt_succ_left]
      by_cases hanswer : answers 0 = .ok false
      · rw [finding_cons_of_no hanswer, ih]
        simp [hanswer]
      · rw [finding_cons_of_decided hanswer]
        simp [hanswer]

/-- What a search among these VMs comes to, by the answers alone. -/
structure Decided (vms : List String) (answers : Nat → Except Fault Bool)
    (found : Except Fault Bool) : Prop where
  running : found = .ok true ↔
    ∃ i < vms.length, answers i = .ok true ∧ ∀ j < i, ∀ fault, answers j ≠ .error fault
  failed : ∀ fault, found = .error fault ↔
    ∃ i < vms.length, answers i = .error fault ∧ ∀ j < i, answers j = .ok false
  idle : found = .ok false ↔ ∀ i < vms.length, answers i = .ok false

theorem decided_finding : Decided vms answers (finding (inquiries vms answers)) :=
  ⟨finding_eq_true, fun _ => finding_eq_error, finding_eq_false⟩

/-! ## The runs of a search -/

section

variable {r : Option (Except Fault Bool)}

theorem conflictAmong_cons_of_not_rival (h : ¬ (vm ≠ name ∧ VmName.inFamily vm = true)) :
    conflictAmong name (vm :: names) = conflictAmong name names := by
  rw [conflictAmong, if_pos]
  by_cases hname : vm = name
  · simp [hname]
  · simpa [hname] using h

/-- A rival is asked about, and the search goes on only if it does not run. -/
theorem runs_conflictAmong_cons_of_rival (h : vm ≠ name ∧ VmName.inFamily vm = true) :
    Runs (conflictAmong name (vm :: names)).run trace r ↔
      ∃ reply rest, trace = ⟨.isRunning vm, reply⟩ :: rest ∧
        ((reply = .ok false ∧ Runs (conflictAmong name names).run rest r) ∨
          (reply ≠ .ok false ∧ rest = [] ∧ r = some reply)) := by
  rw [conflictAmong, if_neg (by simp [h])]
  refine runs_ask.trans (exists_congr fun reply => exists_congr fun rest =>
    and_congr_right fun _ => ?_)
  rcases reply with fault | _ | _
  · exact runs_done.trans (by simp)
  · change Runs (conflictAmong name names).run rest r ↔ _
    simp
  · exact (runs_note.trans runs_done).trans (by simp)

/-- Where the answers are settled, a search has one run: the questions up to the decision,
and what they come to. -/
theorem runs_conflictAmong_answered :
    (Runs (conflictAmong name names).run trace r ∧ AnsweredInOrder answers trace) ↔
      trace = (upToDecision (inquiries (rivals name names) answers)).map Inquiry.exchange ∧
        r = some (finding (inquiries (rivals name names) answers)) := by
  induction names generalizing trace answers with
  | nil =>
      constructor
      · exact fun h => runs_done.1 h.1
      · rintro ⟨rfl, rfl⟩
        exact ⟨.done _, answeredInOrder_nil⟩
  | cons vm names ih =>
      by_cases hrival : vm ≠ name ∧ VmName.inFamily vm = true
      · rw [rivals_cons_of_rival hrival, runs_conflictAmong_cons_of_rival hrival]
        by_cases hno : answers 0 = .ok false
        · rw [upToDecision_cons_of_no hno, finding_cons_of_no hno]
          constructor
          · rintro ⟨⟨reply, rest, rfl, hrest⟩, hanswered⟩
            obtain ⟨rfl, htail⟩ := answeredInOrder_cons_isRunning.1 hanswered
            obtain ⟨-, hrest⟩ := hrest.resolve_right fun h => h.1 hno
            obtain ⟨rfl, rfl⟩ := ih.1 ⟨hrest, htail⟩
            exact ⟨by rw [hno]; rfl, rfl⟩
          · rintro ⟨rfl, rfl⟩
            obtain ⟨hrest, htail⟩ := (@ih (fun i => answers (i + 1)) _).2 ⟨rfl, rfl⟩
            exact ⟨⟨_, _, rfl, .inl ⟨rfl, hrest⟩⟩,
              answeredInOrder_cons_isRunning.2 ⟨hno.symm, htail⟩⟩
        · rw [upToDecision_cons_of_decided hno, finding_cons_of_decided hno]
          constructor
          · rintro ⟨⟨reply, rest, rfl, hrest⟩, hanswered⟩
            obtain ⟨rfl, -⟩ := answeredInOrder_cons_isRunning.1 hanswered
            obtain ⟨-, rfl, rfl⟩ := hrest.resolve_left fun h => hno h.1
            exact ⟨rfl, rfl⟩
          · rintro ⟨rfl, rfl⟩
            exact ⟨⟨_, [], rfl, .inr ⟨hno, rfl, rfl⟩⟩,
              answeredInOrder_cons_isRunning.2 ⟨rfl, answeredInOrder_nil⟩⟩
      · rw [rivals_cons_of_not_rival hrival, conflictAmong_cons_of_not_rival hrival]
        exact ih

/-- A run of a search is known by its answers. -/
theorem answers_of_runs_conflictAmong (run : Runs (conflictAmong name names).run trace r) :
    ∃ answers,
      trace = (upToDecision (inquiries (rivals name names) answers)).map Inquiry.exchange ∧
        r = some (finding (inquiries (rivals name names) answers)) := by
  obtain ⟨answers, hanswered⟩ := exists_answers trace
  exact ⟨answers, runs_conflictAmong_answered.1 ⟨run, hanswered⟩⟩

theorem runs_conflictPresent_unlisted {fault : Fault} :
    Runs (conflictPresent name).run (⟨.registered, .error fault⟩ :: trace) r ↔
      trace = [] ∧ r = some (.error fault) :=
  runs_ask_cons.trans runs_done

theorem runs_conflictPresent_listed :
    Runs (conflictPresent name).run (⟨.registered, .ok names⟩ :: trace) r ↔
      Runs (conflictAmong name names).run trace r :=
  runs_ask_cons

theorem runs_conflictPresent_ends (run : Runs (conflictPresent name).run trace r) :
    ∃ reply rest found, trace = ⟨.registered, reply⟩ :: rest ∧ r = some found := by
  obtain ⟨reply, rest, rfl, -⟩ := runs_ask.1 run
  rcases reply with fault | names
  · exact ⟨_, _, _, rfl, (runs_conflictPresent_unlisted.1 run).2⟩
  · obtain ⟨answers, -, hfound⟩ :=
      answers_of_runs_conflictAmong (runs_conflictPresent_listed.1 run)
    exact ⟨_, _, _, rfl, hfound⟩

end

end VmLifecycle.Hypervisor
