import VmLifecycle.Effect.Trace

/-!
# Runs of attempts and actions

How the traces of a composed program split into those of its parts. A run of an
attempt goes on only after an answer that is no failure, so each composition has
one case more than that of plain programs: the first part ends in an error, and
nothing follows.
-/

namespace VmLifecycle.Program

variable {ε ε' α β : Type}

theorem runs_call {c : Call} {trace : List Exchange} {r : Option c.Reply} :
    Runs (Program.call c) trace r ↔ ∃ reply, trace = [⟨c, reply⟩] ∧ r = some reply := by
  simp only [Program.call, runs_ask, runs_done]
  constructor
  · rintro ⟨reply, rest, rfl, rfl, rfl⟩
    exact ⟨reply, rfl, rfl⟩
  · rintro ⟨reply, rfl, rfl⟩
    exact ⟨reply, [], rfl, rfl, rfl⟩

/-- Once a call is answered, the program goes on with the answer. -/
theorem runs_ask_cons {c : Call} {next : c.Reply → Program α} {reply : c.Reply}
    {trace : List Exchange} {r : Option α} :
    Runs (.ask c next) (⟨c, reply⟩ :: trace) r ↔ Runs (next reply) trace r := by
  rw [runs_ask]
  constructor
  · rintro ⟨reply', rest, heq, run⟩
    cases heq
    exact run
  · exact fun run => ⟨reply, trace, rfl, run⟩

/-- After a run of the first part, the runs of the whole are those of what
follows. This is where it counts that an answer decides the next call. -/
theorem runs_bind_append {p : Program α} {f : α → Program β} {a : α}
    {first second : List Exchange} {r : Option β} (hfirst : Runs p first (some a)) :
    Runs (p.bind f) (first ++ second) r ↔ Runs (f a) second r := by
  induction p generalizing first with
  | done b =>
      obtain ⟨rfl, hb⟩ := runs_done.1 hfirst
      cases hb
      rfl
  | ask call next ih =>
      obtain ⟨reply, rest, rfl, hrest⟩ := runs_ask.1 hfirst
      rw [ask_bind, List.cons_append, runs_ask_cons, ih reply hrest]
  | note event rest ih =>
      rw [note_bind, runs_note]
      exact ih (runs_note.1 hfirst)
  | unsettled =>
      obtain ⟨_, hnone⟩ := runs_unsettled.1 hfirst
      cases hnone

/-- Nothing follows a run that has ended. -/
theorem runs_append {p : Program α} {a : α} {first second : List Exchange} {r : Option α}
    (hfirst : Runs p first (some a)) :
    Runs p (first ++ second) r ↔ second = [] ∧ r = some a := by
  rw [← runs_done, ← runs_bind_append (f := .done) hfirst, bind_done]

/-- Where a result is only translated, so is that of each run. -/
theorem runs_bind_done {p : Program α} {g : α → β} {trace : List Exchange} {r : Option β} :
    Runs (p.bind fun a => .done (g a)) trace r ↔ ∃ q, Runs p trace q ∧ r = q.map g := by
  rw [runs_bind]
  constructor
  · rintro (⟨a, first, second, rfl, hfirst, hend⟩ | ⟨hnone, rfl⟩)
    · obtain ⟨rfl, rfl⟩ := runs_done.1 hend
      exact ⟨some a, by simpa using hfirst, rfl⟩
    · exact ⟨none, hnone, rfl⟩
  · rintro ⟨_ | a, hrun, rfl⟩
    · exact .inr ⟨hrun, rfl⟩
    · exact .inl ⟨a, trace, [], by simp, hrun, .done _⟩

/-- The runs of two attempts in a row: the second is reached only if the first
ended well. -/
theorem runs_run_bind {x : ExceptT ε Program α} {f : α → ExceptT ε Program β}
    {trace : List Exchange} {r : Option (Except ε β)} :
    Runs (x >>= f).run trace r ↔
      (∃ a first second, trace = first ++ second ∧ Runs x.run first (some (.ok a)) ∧
        Runs (f a).run second r) ∨
      (∃ e, Runs x.run trace (some (.error e)) ∧ r = some (.error e)) ∨
      (Runs x.run trace none ∧ r = none) := by
  rw [run_bind, runs_bind]
  constructor
  · rintro (⟨e | a, first, second, rfl, hfirst, hsecond⟩ | hnone)
    · obtain ⟨rfl, rfl⟩ := runs_done.1 hsecond
      exact .inr (.inl ⟨e, by simpa using hfirst, rfl⟩)
    · exact .inl ⟨a, first, second, rfl, hfirst, hsecond⟩
    · exact .inr (.inr hnone)
  · rintro (⟨a, first, second, rfl, hfirst, hsecond⟩ | ⟨e, he, rfl⟩ | hnone)
    · exact .inl ⟨.ok a, first, second, rfl, hfirst, hsecond⟩
    · exact .inl ⟨.error e, trace, [], by simp, he, .done _⟩
    · exact .inr hnone

/-- Two attempts in a row end well only if both do. -/
theorem runs_run_bind_ok {x : ExceptT ε Program α} {f : α → ExceptT ε Program β}
    {trace : List Exchange} {b : β} :
    Runs (x >>= f).run trace (some (.ok b)) ↔
      ∃ a first second, trace = first ++ second ∧ Runs x.run first (some (.ok a)) ∧
        Runs (f a).run second (some (.ok b)) := by
  rw [runs_run_bind]
  constructor
  · rintro (hok | ⟨_, _, he⟩ | ⟨_, hnone⟩)
    · exact hok
    · cases he
    · cases hnone
  · exact .inl

theorem runs_run_call_bind_ok {c : Call} {g : c.Reply → Except ε α}
    {f : α → ExceptT ε Program β} {trace : List Exchange} {b : β} :
    Runs (Program.outcome (.ask c fun reply => .done (g reply)) >>= f).run trace
        (some (.ok b)) ↔
      ∃ reply a rest, trace = ⟨c, reply⟩ :: rest ∧ g reply = .ok a ∧
        Runs (f a).run rest (some (.ok b)) := by
  rw [run_bind, run_outcome, ask_bind, runs_ask]
  constructor
  · rintro ⟨reply, rest, rfl, run⟩
    rw [done_bind] at run
    cases hreply : g reply with
    | error e =>
        rw [hreply] at run
        cases (runs_done.1 run).2
    | ok a =>
        rw [hreply] at run
        exact ⟨reply, a, rest, rfl, hreply, run⟩
  · rintro ⟨reply, a, rest, rfl, hreply, run⟩
    refine ⟨reply, rest, rfl, ?_⟩
    rw [done_bind, hreply]
    exact run

/-- A log event leaves no trace. -/
theorem runs_run_log_bind {event : LogEvent} {f : Unit → ExceptT ε Program β}
    {trace : List Exchange} {r : Option (Except ε β)} :
    Runs ((liftM (Program.log event) : ExceptT ε Program Unit) >>= f).run trace r ↔
      Runs (f ()).run trace r :=
  runs_note

theorem runs_run_bind_append {x : ExceptT ε Program α} {f : α → ExceptT ε Program β} {a : α}
    {first second : List Exchange} {r : Option (Except ε β)}
    (hfirst : Runs x.run first (some (.ok a))) :
    Runs (x >>= f).run (first ++ second) r ↔ Runs (f a).run second r := by
  rw [run_bind, runs_bind_append hfirst]

/-- An exchange that is not in the first part of a trace is in the second. -/
theorem split_of_append_eq {α : Type} {first second before after : List α} {x : α}
    (h : first ++ second = before ++ x :: after) (hx : x ∉ first) :
    ∃ middle, before = first ++ middle ∧ second = middle ++ x :: after := by
  rcases List.append_eq_append_iff.1 h with ⟨middle, rfl, hsecond⟩ | ⟨middle, rfl, hsecond⟩
  · exact ⟨middle, rfl, hsecond⟩
  · cases middle with
    | nil => exact ⟨[], by simp, by simpa using hsecond.symm⟩
    | cons y middle =>
        cases hsecond
        simp at hx

/-- An exchange that the first part does not make is made by what follows. -/
theorem split_of_runs_run_bind {x : ExceptT ε Program α} {f : α → ExceptT ε Program β}
    {before after : List Exchange} {y : Exchange} {r : Option (Except ε β)}
    (hx : ∀ {first q}, Runs x.run first q → y ∉ first)
    (run : Runs (x >>= f).run (before ++ y :: after) r) :
    ∃ a first middle, before = first ++ middle ∧ Runs x.run first (some (.ok a)) ∧
      Runs (f a).run (middle ++ y :: after) r := by
  rcases runs_run_bind.1 run with ⟨a, first, second, htrace, hfirst, hsecond⟩ |
    ⟨e, hfirst, -⟩ | ⟨hfirst, -⟩
  · obtain ⟨middle, rfl, rfl⟩ := split_of_append_eq htrace.symm (hx hfirst)
    exact ⟨a, first, middle, rfl, hfirst, hsecond⟩
  · exact absurd (by simp) (hx hfirst)
  · exact absurd (by simp) (hx hfirst)

theorem run_adapt (g : ε → ε') (x : ExceptT ε Program α) :
    (ExceptT.adapt g x).run = x.run.bind fun outcome => .done (outcome.mapError g) := rfl

theorem runs_run_adapt {g : ε → ε'} {x : ExceptT ε Program α} {trace : List Exchange}
    {r : Option (Except ε' α)} :
    Runs (ExceptT.adapt g x).run trace r ↔
      ∃ q, Runs x.run trace q ∧ r = q.map (Except.mapError g) := by
  rw [run_adapt, runs_bind_done]

theorem runs_run_adapt_bind {g : ε → ε'} {x : ExceptT ε Program α}
    {f : α → ExceptT ε' Program β} {trace : List Exchange} {r : Option (Except ε' β)} :
    Runs (ExceptT.adapt g x >>= f).run trace r ↔
      (∃ a first second, trace = first ++ second ∧ Runs x.run first (some (.ok a)) ∧
        Runs (f a).run second r) ∨
      (∃ e, Runs x.run trace (some (.error e)) ∧ r = some (.error (g e))) ∨
      (Runs x.run trace none ∧ r = none) := by
  rw [runs_run_bind]
  constructor
  · rintro (⟨a, first, second, rfl, hfirst, hsecond⟩ | ⟨e', hx, rfl⟩ | ⟨hx, rfl⟩)
    · obtain ⟨_ | _ | _, hrun, hq⟩ := runs_run_adapt.1 hfirst <;> cases hq
      exact .inl ⟨a, first, second, rfl, hrun, hsecond⟩
    · obtain ⟨_ | e | _, hrun, hq⟩ := runs_run_adapt.1 hx <;> cases hq
      exact .inr (.inl ⟨e, hrun, rfl⟩)
    · obtain ⟨_ | _, hrun, hq⟩ := runs_run_adapt.1 hx <;> cases hq
      exact .inr (.inr ⟨hrun, rfl⟩)
  · rintro (⟨a, first, second, rfl, hfirst, hsecond⟩ | ⟨e, he, rfl⟩ | ⟨hnone, rfl⟩)
    · exact .inl ⟨a, first, second, rfl, runs_run_adapt.2 ⟨_, hfirst, rfl⟩, hsecond⟩
    · exact .inr (.inl ⟨g e, runs_run_adapt.2 ⟨_, he, rfl⟩, rfl⟩)
    · exact .inr (.inr ⟨runs_run_adapt.2 ⟨_, hnone, rfl⟩, rfl⟩)

theorem runs_run_caught_bind {a : Attempt α} {f : Except Fault α → Attempt β}
    {trace : List Exchange} {r : Option (Except Fault β)} :
    Runs (a.caught >>= f).run trace r ↔
      (∃ outcome first second, trace = first ++ second ∧ Runs a.run first (some outcome) ∧
        Runs (f outcome).run second r) ∨ (Runs a.run trace none ∧ r = none) := by
  rw [run_bind, run_caught, bind_assoc]
  exact runs_bind

end VmLifecycle.Program
