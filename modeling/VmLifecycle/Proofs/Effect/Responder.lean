import VmLifecycle.Proofs.Effect.Along

/-!
# Outsides that answer

An outside is known by what it answers to each call after what was exchanged before.
Faced with one, a program has a single run: at each call there is one answer, and the
program is finite. An outside may be given by a state that each call changes; what it
has answered so far is then all that its state depends on.
-/

namespace VmLifecycle

/-- What is answered to a call after a history of exchanges. -/
abbrev Responder := List Exchange → (call : Call) → call.Reply

namespace Responder

variable {σ α : Type} {history trace trace' : List Exchange} {answer : Responder}

/-- After the history, each exchange of the trace is as the outside answers. -/
def Gives (answer : Responder) : List Exchange → List Exchange → Prop :=
  Along (fun history x => history ++ [x]) fun history x => x.reply = answer history x.call

/-- A program has a run on which it is answered by this outside. -/
theorem exists_runs (answer : Responder) (p : Program α) (history : List Exchange) :
    ∃ trace r, answer.Gives history trace ∧ p.Runs trace r := by
  induction p generalizing history with
  | done a => exact ⟨[], some a, trivial, .done a⟩
  | ask call next ih =>
      let x : Exchange := ⟨call, answer history call⟩
      obtain ⟨trace, r, hgives, run⟩ := ih x.reply (history ++ [x])
      exact ⟨x :: trace, r, ⟨rfl, hgives⟩, .ask x.reply run⟩
  | note event rest ih =>
      obtain ⟨trace, r, hgives, run⟩ := ih history
      exact ⟨trace, r, hgives, .note run⟩
  | unsettled => exact ⟨[], none, trivial, .unsettled⟩

/-- It has no other. -/
theorem runs_unique {p : Program α} {r r' : Option α} (run : p.Runs trace r)
    (hgives : answer.Gives history trace) (run' : p.Runs trace' r')
    (hgives' : answer.Gives history trace') : trace' = trace ∧ r' = r := by
  induction run generalizing history trace' with
  | done a => exact Program.runs_done.1 run'
  | @ask call next trace r reply run ih =>
      obtain ⟨reply', rest, rfl, hrest⟩ := Program.runs_ask.1 run'
      obtain ⟨hreply, hgives⟩ := hgives
      obtain ⟨hreply', hgives'⟩ := hgives'
      obtain rfl : reply' = reply := hreply'.trans hreply.symm
      obtain ⟨rfl, rfl⟩ := ih hgives hrest hgives'
      exact ⟨rfl, rfl⟩
  | note _ ih => exact ih hgives (Program.runs_note.1 run') hgives'
  | unsettled => exact Program.runs_unsettled.1 run'

/-- The outside that answers from a state, which each call changes. -/
def ofState (respond : σ → (call : Call) → call.Reply × σ) (s : σ) : Responder :=
  fun history call => (respond (history.foldl (fun s x => (respond s x.call).2) s) call).1

theorem gives_ofState {respond : σ → (call : Call) → call.Reply × σ} {s : σ} :
    (ofState respond s).Gives [] trace ↔
      Along (fun s x => (respond s x.call).2) (fun s x => x.reply = (respond s x.call).1)
        s trace :=
  along_foldl (P := fun s x => x.reply = (respond s x.call).1) (s := s)

end Responder

end VmLifecycle
