import VmLifecycle.Proofs.Effect.FailStop

/-!
# Actions that end at the first failure that counts

An action may be one of many steps, each of which reports its failures in its
own way, and some failures may not count. What each exchange is blamed with, if
with anything, is given, and so is the VM that is being created, if any. In an
orderly action the first exchange that is blamed is the end of it, but for one
removal of this VM if it was being set up, and the error of the action is the one
that this exchange is blamed with.
-/

namespace VmLifecycle

namespace Program

variable {ε α β : Type} {e : ε} {trace : List Exchange}

/-- Nothing is done any more, and the end is an error. -/
def Stops (e : ε) : Program (Except ε α) → Prop
  | .done result => result = .error e
  | .note _ rest => Stops e rest
  | .ask _ _ => False
  | .unsettled => False

/-- A VM is removed, and whatever becomes of that, the end is an error. -/
def CleansUp (name : String) (e : ε) : Program (Except ε α) → Prop
  | .done _ => False
  | .note _ rest => CleansUp name e rest
  | .ask call next => call = .unregister name ∧ ∀ reply, Stops e (next reply)
  | .unsettled => False

/-- What follows a failure of `call` that counts: if it was met in setting up the
VM `vm`, that VM is removed. -/
structure Concludes (vm : Option String) (call : Call) (e : ε) (p : Program (Except ε α)) :
    Prop where
  cleansUp : ∀ name, vm = some name → call.SetsUp name → CleansUp name e p
  stops : (∀ name, vm = some name → ¬ call.SetsUp name) → Stops e p

theorem concludes_of_stops {vm : Option String} {call : Call} {p : Program (Except ε α)}
    (hcall : ∀ name, ¬ call.SetsUp name) (h : Stops e p) : Concludes vm call e p :=
  ⟨fun name _ hsetsUp => absurd hsetsUp (hcall name), fun _ => h⟩

theorem concludes_of_cleansUp {name : String} {call : Call} {p : Program (Except ε α)}
    (hcall : call.SetsUp name) (h : CleansUp name e p) : Concludes (some name) call e p :=
  ⟨fun _ hname _ => Option.some.inj hname ▸ h, fun hnot => absurd hcall (hnot name rfl)⟩

theorem Stops.outcome {p : Program (Except ε α)} {r : Option (Except ε α)} (h : Stops e p)
    (run : Runs p trace r) : trace = [] ∧ r = some (.error e) := by
  induction run with
  | done result => exact ⟨rfl, congrArg some h⟩
  | ask => cases h
  | note _ ih => exact ih h
  | unsettled => cases h

theorem CleansUp.outcome {p : Program (Except ε α)} {name : String} {r : Option (Except ε α)}
    (h : CleansUp name e p) (run : Runs p trace r) :
    (∃ reply, trace = [⟨.unregister name, reply⟩]) ∧ r = some (.error e) := by
  induction run with
  | done => cases h
  | ask reply run _ =>
      obtain ⟨rfl, hstops⟩ := h
      obtain ⟨rfl, rfl⟩ := (hstops reply).outcome run
      exact ⟨⟨reply, rfl⟩, rfl⟩
  | note _ ih => exact ih h
  | unsettled => cases h

theorem Stops.bind {p : Program (Except ε α)} {f : Except ε α → Program (Except ε β)}
    (h : Stops e p) (hf : Stops e (f (.error e))) : Stops e (p.bind f) := by
  induction p with
  | done result =>
      obtain rfl : result = .error e := h
      exact hf
  | note event rest ih => exact ih h
  | ask => cases h
  | unsettled => cases h

theorem CleansUp.bind {p : Program (Except ε α)} {f : Except ε α → Program (Except ε β)}
    {name : String} (h : CleansUp name e p) (hf : Stops e (f (.error e))) :
    CleansUp name e (p.bind f) := by
  induction p with
  | done => cases h
  | note event rest ih => exact ih h
  | ask call next _ =>
      obtain ⟨rfl, hstops⟩ := h
      exact ⟨rfl, fun reply => (hstops reply).bind hf⟩
  | unsettled => cases h

theorem Concludes.bind {p : Program (Except ε α)} {f : Except ε α → Program (Except ε β)}
    {vm : Option String} {call : Call} (h : Concludes vm call e p)
    (hf : Stops e (f (.error e))) : Concludes vm call e (p.bind f) where
  cleansUp name hname hsetsUp := (h.cleansUp name hname hsetsUp).bind hf
  stops hnot := (h.stops hnot).bind hf

/-! ## Orderly actions -/

variable {blame : Exchange → Option ε} {vm : Option String} {loose : Prop}

/-- The first exchange that is blamed is the end, but for a cleanup. With `loose`
an action may also give up. -/
def Orderly (blame : Exchange → Option ε) (vm : Option String) (loose : Prop) :
    Program (Except ε α) → Prop
  | .done _ => True
  | .ask call next => ∀ reply,
    match blame ⟨call, reply⟩ with
    | none => Orderly blame vm loose (next reply)
    | some e => Concludes vm call e (next reply)
  | .note _ rest => Orderly blame vm loose rest
  | .unsettled => loose

theorem orderly_ask {call : Call} {next : call.Reply → Program (Except ε α)} :
    Orderly blame vm loose (.ask call next) ↔ ∀ reply,
      (blame ⟨call, reply⟩ = none → Orderly blame vm loose (next reply)) ∧
      ∀ e, blame ⟨call, reply⟩ = some e → Concludes vm call e (next reply) := by
  rw [Orderly]
  refine forall_congr' fun reply => ?_
  cases blame ⟨call, reply⟩ with
  | none => simp
  | some e => simp

/-- What is left of a run after a failure of `call`: the removal of the VM `vm` if
the call was to set it up, and nothing if not. -/
structure Concluded (vm : Option String) (call : Call) (after : List Exchange) : Prop where
  removed : ∀ name, vm = some name → call.SetsUp name →
    ∃ reply, after = [⟨.unregister name, reply⟩]
  ended : (∀ name, vm = some name → ¬ call.SetsUp name) → after = []

theorem Concludes.outcome {p : Program (Except ε α)} {call : Call} {r : Option (Except ε α)}
    (h : Concludes vm call e p) (run : Runs p trace r) :
    r = some (.error e) ∧ Concluded vm call trace := by
  by_cases hsetsUp : ∃ name, vm = some name ∧ call.SetsUp name
  · obtain ⟨name, hname, hcall⟩ := hsetsUp
    obtain ⟨htrace, hr⟩ := (h.cleansUp name hname hcall).outcome run
    refine ⟨hr, fun other hother _ => ?_, fun hnot => absurd hcall (hnot name hname)⟩
    rw [hname] at hother
    exact Option.some.inj hother ▸ htrace
  · have hnot : ∀ name, vm = some name → ¬ call.SetsUp name :=
      fun name hname hcall => hsetsUp ⟨name, hname, hcall⟩
    obtain ⟨htrace, hr⟩ := (h.stops hnot).outcome run
    exact ⟨hr, fun name hname hcall => absurd hcall (hnot name hname), fun _ => htrace⟩

/-- Either no exchange of a run is blamed, or the run ends as its first one that
is says. -/
theorem Orderly.outcome {p : Program (Except ε α)} {r : Option (Except ε α)}
    (h : Orderly blame vm loose p) (run : Runs p trace r) :
    ((∀ x ∈ trace, blame x = none) ∧ (r = none → loose)) ∨
      ∃ before x after e, trace = before ++ x :: after ∧ (∀ y ∈ before, blame y = none) ∧
        blame x = some e ∧ r = some (.error e) ∧ Concluded vm x.call after := by
  induction run with
  | done result => exact .inl ⟨by simp, nofun⟩
  | @ask call next trace r reply run ih =>
      obtain ⟨hnone, hsome⟩ := orderly_ask.1 h reply
      cases hblame : blame ⟨call, reply⟩ with
      | none =>
          rcases ih (hnone hblame) with ⟨hall, hloose⟩ |
            ⟨before, x, after, e, rfl, hbefore, hx, hr, hafter⟩
          · exact .inl ⟨List.forall_mem_cons.2 ⟨hblame, hall⟩, hloose⟩
          · exact .inr ⟨⟨call, reply⟩ :: before, x, after, e, rfl,
              List.forall_mem_cons.2 ⟨hblame, hbefore⟩, hx, hr, hafter⟩
      | some e =>
          exact .inr ⟨[], ⟨call, reply⟩, trace, e, rfl, by simp, hblame,
            (hsome e hblame).outcome run⟩
  | note _ ih => exact ih h
  | unsettled => exact .inl ⟨by simp, fun _ => h⟩

theorem orderly_run_bind {x : ExceptT ε Program α} {f : α → ExceptT ε Program β}
    (hx : Orderly blame vm loose x.run) (hf : ∀ a, Orderly blame vm loose (f a).run) :
    Orderly blame vm loose (x >>= f).run := by
  rw [run_bind]
  generalize x.run = p at hx
  induction p with
  | done result =>
      rcases result with e | a
      · trivial
      · exact hf a
  | ask call next ih =>
      refine orderly_ask.2 fun reply => ?_
      obtain ⟨hnone, hsome⟩ := orderly_ask.1 hx reply
      exact ⟨fun h => ih reply (hnone h), fun e h => (hsome e h).bind rfl⟩
  | note event rest ih => exact ih hx
  | unsettled => exact hx

theorem orderly_run_throw (e : ε) :
    Orderly blame vm loose (throw e : ExceptT ε Program α).run :=
  trivial

theorem orderly_run_pure (a : α) :
    Orderly blame vm loose (pure a : ExceptT ε Program α).run :=
  trivial

theorem orderly_run_except (x : Except ε α) :
    Orderly blame vm loose (liftExcept x : ExceptT ε Program α).run := by
  cases x <;> trivial

theorem orderly_run_log (event : LogEvent) :
    Orderly blame vm loose (liftM (Program.log event) : ExceptT ε Program Unit).run :=
  trivial

/-- A call that fails with what it is blamed with. -/
theorem orderly_call {c : Call} {f : c.Reply → Except ε α} (hcall : ∀ name, ¬ c.SetsUp name)
    (h : ∀ reply, blame ⟨c, reply⟩ = match f reply with
      | .error e => some e
      | .ok _ => none) :
    Orderly blame vm loose (.ask c fun reply => .done (f reply)) := by
  refine orderly_ask.2 fun reply => ⟨fun _ => trivial, fun e he => concludes_of_stops hcall ?_⟩
  rw [h reply] at he
  cases hreply : f reply with
  | error e' =>
      rw [hreply] at he
      cases he
      rfl
  | ok a =>
      rw [hreply] at he
      cases he

/-- A call that is never blamed. -/
theorem orderly_run_lift {c : Call} (h : ∀ reply, blame ⟨c, reply⟩ = none) :
    Orderly blame vm loose (liftM (Program.call c) : ExceptT ε Program c.Reply).run := by
  refine orderly_ask.2 fun reply => ⟨fun _ => trivial, fun e he => ?_⟩
  rw [h reply] at he
  cases he

/-- An attempt that ends at its first fault, and what follows it. Its faults are
blamed as they are reported then. -/
theorem FailStop.orderly_bind {own : Fault → Prop} {a : Attempt α}
    {f : Except Fault α → Program (Except ε β)} {g : Fault → ε} (h : FailStop own a.run)
    (hcalls : Only (fun c => (∀ reply, blame ⟨c, reply⟩ = (Exchange.fault? ⟨c, reply⟩).map g) ∧
      ∀ fault, Concludes vm c (g fault) (f (.error fault))) a.run)
    (hok : ∀ a, Orderly blame vm loose (f (.ok a)))
    (hown : ∀ fault, own fault → Orderly blame vm loose (f (.error fault))) :
    Orderly blame vm loose (a.run.bind f) := by
  generalize a.run = p at h hcalls
  induction p with
  | done result =>
      rcases result with fault | a
      · exact hown fault h
      · exact hok a
  | ask call next ih =>
      obtain ⟨⟨hblame, hconcludes⟩, hnext⟩ := hcalls
      refine orderly_ask.2 fun reply => ?_
      rw [hblame]
      rcases h reply with ⟨fault, hfault, hend⟩ | ⟨hnone, hrest⟩
      · rw [hfault, hend]
        refine ⟨nofun, fun e he => ?_⟩
        cases he
        exact hconcludes fault
      · rw [hnone]
        exact ⟨fun _ => ih reply hrest (hnext reply), nofun⟩
  | note event rest ih => exact ih h hcalls
  | unsettled => cases h

/-- An attempt whose faults are translated as they are blamed. -/
theorem FailStop.orderly {own : Fault → Prop} {a : Attempt α} {g : Fault → ε}
    (h : FailStop own a.run)
    (hcalls : Only (fun c => (∀ reply, blame ⟨c, reply⟩ = (Exchange.fault? ⟨c, reply⟩).map g) ∧
      ∀ name, ¬ c.SetsUp name) a.run) :
    Orderly blame vm loose (ExceptT.adapt g a).run :=
  h.orderly_bind (hcalls.mono fun _ hcall => ⟨hcall.1, fun _ => concludes_of_stops hcall.2 rfl⟩)
    (fun _ => trivial) fun _ _ => trivial

/-- Attempts that are translated together are translated one by one. -/
theorem adapt_bind {ε ε' : Type} (g : ε → ε') (x : ExceptT ε Program α)
    (f : α → ExceptT ε Program β) :
    ExceptT.adapt g (x >>= f) = ExceptT.adapt g x >>= fun a => ExceptT.adapt g (f a) := by
  refine ExceptT.ext ?_
  rw [run_adapt, run_bind, run_bind, run_adapt, bind_assoc, bind_assoc]
  refine congrArg x.run.bind (funext fun outcome => ?_)
  cases outcome <;> rfl

end Program

end VmLifecycle
