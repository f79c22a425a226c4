import VmLifecycle.Proofs.Effect.Only

/-!
# Conditions that follow a state along a trace

What is known of the outside changes with each exchange, and what an exchange
may say or do depends on what is known by then. Such a condition on a trace
splits where the trace splits. That all runs of a program satisfy it is shown on
the tree of the program, from the conditions that the outside keeps.
-/

namespace VmLifecycle

variable {σ : Type} {step : σ → Exchange → σ} {P : σ → Exchange → Prop} {s : σ}
  {first second : List Exchange}

/-- Each exchange satisfies `P` in the state that the exchanges before it lead to. -/
def Along (step : σ → Exchange → σ) (P : σ → Exchange → Prop) : σ → List Exchange → Prop
  | _, [] => True
  | s, x :: trace => P s x ∧ Along step P (step s x) trace

theorem along_append : Along step P s (first ++ second) ↔
    Along step P s first ∧ Along step P (first.foldl step s) second := by
  induction first generalizing s with
  | nil => exact (and_iff_right trivial).symm
  | cons x first ih => rw [List.cons_append, Along, ih, Along, and_assoc, List.foldl_cons]

/-- Where no exchange moves the state, the trace does not. -/
theorem foldl_of_still {trace : List Exchange} (hstill : ∀ x ∈ trace, step s x = s) :
    trace.foldl step s = s := by
  induction trace with
  | nil => rfl
  | cons x trace ih =>
      obtain ⟨hx, hrest⟩ := List.forall_mem_cons.1 hstill
      rw [List.foldl_cons, hx, ih hrest]

/-- Where no exchange moves the state, each satisfies `P` in the state at the start. -/
theorem Along.of_still {trace : List Exchange} (h : Along step P s trace)
    (hstill : ∀ x ∈ trace, step s x = s) {x : Exchange} (hx : x ∈ trace) : P s x := by
  induction trace with
  | nil => cases hx
  | cons y trace ih =>
      obtain ⟨hy, hrest⟩ := h
      rw [hstill y List.mem_cons_self] at hrest
      rcases List.mem_cons.1 hx with rfl | hx
      · exact hy
      · exact ih hrest (fun z hz => hstill z (List.mem_cons_of_mem y hz)) hx

/-- Where the state is the history, the condition is one on each split of the trace. -/
theorem along_history {history trace : List Exchange} {P : List Exchange → Exchange → Prop} :
    Along (fun history x => history ++ [x]) P history trace ↔
      ∀ before x after, trace = before ++ x :: after → P (history ++ before) x := by
  induction trace generalizing history with
  | nil => simp [Along]
  | cons y trace ih =>
      rw [Along, ih]
      constructor
      · rintro ⟨hy, hrest⟩ before x after heq
        cases before with
        | nil =>
            cases heq
            rwa [List.append_nil]
        | cons z before =>
            cases heq
            rw [List.append_cons]
            exact hrest before x after rfl
      · intro h
        refine ⟨by simpa using h [] y trace rfl, ?_⟩
        rintro before x after rfl
        simpa using h (y :: before) x after rfl

/-- A condition on the state that a history leads to is one along the states. -/
theorem along_foldl {history trace : List Exchange} :
    Along (fun history x => history ++ [x]) (fun history x => P (history.foldl step s) x)
        history trace ↔ Along step P (history.foldl step s) trace := by
  induction trace generalizing history with
  | nil => exact Iff.rfl
  | cons x trace ih => rw [Along, Along, ih, List.foldl_append, List.foldl_cons, List.foldl_nil]

/-- What each exchange of a trace preserves is preserved by the trace. -/
theorem Along.preserves {trace : List Exchange} {Inv : σ → Prop} (h : Along step P s trace)
    (hstep : ∀ s, ∀ x ∈ trace, P s x → Inv s → Inv (step s x)) (hs : Inv s) :
    Inv (trace.foldl step s) := by
  induction trace generalizing s with
  | nil => exact hs
  | cons x trace ih =>
      have hnext : Inv (step s x) := hstep s x List.mem_cons_self h.1 hs
      exact ih h.2 (fun t y hy => hstep t y (List.mem_cons_of_mem x hy)) hnext

namespace Program

variable {ε α β : Type} {given shown : σ → Exchange → Prop}

/-- From the state `s` on, as long as the exchanges of a run satisfy `given`, they
satisfy `shown`, and the run ends in a result and a state with `Q`. -/
def Maintains (step : σ → Exchange → σ) (given shown : σ → Exchange → Prop)
    (Q : α → σ → Prop) : σ → Program α → Prop
  | s, .done a => Q a s
  | s, .ask call next => ∀ reply, given s ⟨call, reply⟩ → shown s ⟨call, reply⟩ ∧
    Maintains step given shown Q (step s ⟨call, reply⟩) (next reply)
  | s, .note _ rest => Maintains step given shown Q s rest
  | _, .unsettled => True

namespace Maintains

variable {A : α → σ → Prop} {B : β → σ → Prop}

theorem outcome {p : Program α} {trace : List Exchange} {r : Option α}
    (h : p.Maintains step given shown A s) (hgiven : Along step given s trace)
    (run : Runs p trace r) :
    Along step shown s trace ∧ ∀ a, r = some a → A a (trace.foldl step s) := by
  induction run generalizing s with
  | done a =>
      refine ⟨trivial, ?_⟩
      rintro b ⟨⟩
      exact h
  | ask reply run ih =>
      obtain ⟨hshown, hnext⟩ := h reply hgiven.1
      obtain ⟨hrest, hresult⟩ := ih hnext hgiven.2
      exact ⟨⟨hshown, hrest⟩, hresult⟩
  | note _ ih => exact ih h hgiven
  | unsettled => exact ⟨trivial, nofun⟩

theorem bind {p : Program α} {f : α → Program β} (hp : p.Maintains step given shown A s)
    (hf : ∀ a s, A a s → (f a).Maintains step given shown B s) :
    (p.bind f).Maintains step given shown B s := by
  induction p generalizing s with
  | done a => exact hf a s hp
  | ask call next ih =>
      intro reply hgiven
      obtain ⟨hshown, hnext⟩ := hp reply hgiven
      exact ⟨hshown, ih reply hnext⟩
  | note event rest ih => exact ih hp
  | unsettled => trivial

/-- A program that makes only calls that keep a condition on the state keeps it. -/
theorem of_only {p : Program α} {C : Call → Prop} {Inv : σ → Prop} (h : Only C p)
    (hcall : ∀ call, C call → ∀ reply s, given s ⟨call, reply⟩ → Inv s →
      shown s ⟨call, reply⟩ ∧ Inv (step s ⟨call, reply⟩)) (hs : Inv s) :
    p.Maintains step given shown (fun _ => Inv) s := by
  induction p generalizing s with
  | done => exact hs
  | ask call next ih =>
      intro reply hgiven
      obtain ⟨hshown, hnext⟩ := hcall call h.1 reply s hgiven hs
      exact ⟨hshown, ih reply (h.2 reply) hnext⟩
  | note event rest ih => exact ih h hs
  | unsettled => trivial

/-- Two attempts in a row keep a condition on the state if each does. -/
theorem run_bind {x : ExceptT ε Program α} {f : α → ExceptT ε Program β} {Inv : σ → Prop}
    (hx : x.run.Maintains step given shown (fun _ => Inv) s)
    (hf : ∀ a s, Inv s → (f a).run.Maintains step given shown (fun _ => Inv) s) :
    (x >>= f).run.Maintains step given shown (fun _ => Inv) s := by
  refine bind hx fun outcome s h => ?_
  cases outcome with
  | error e => exact h
  | ok a => exact hf a s h

end Maintains

end Program

end VmLifecycle
