import VmLifecycle.Json.Record

/-!
# What a reader takes off a text

A reader that succeeds takes a value off the front of a text and leaves the
rest. Readers are followed step by step: each step takes what is next, and the
steps of a loop are its rounds.
-/

namespace VmLifecycle.Json

variable {α β σ : Type}

/-- The reader takes `a` off `s` and leaves `rest`. -/
def Takes (reader : Reader α) (s : List Char) (a : α) (rest : List Char) : Prop :=
  reader.run s = .ok (a, rest)

theorem takes_pure (a : α) (s : List Char) : Takes (pure a) s a s :=
  rfl

/-- Once the first reader has taken what it takes, the second goes on. -/
theorem Takes.run_bind {x : Reader α} {f : α → Reader β} {s t : List Char} {a : α}
    (hx : Takes x s a t) : (x >>= f).run s = (f a).run t := by
  unfold Takes at hx
  rw [StateT.run_bind, hx]
  rfl

theorem Takes.bind {x : Reader α} {f : α → Reader β} {s t rest : List Char} {a : α} {b : β}
    (hx : Takes x s a t) (hf : Takes (f a) t b rest) : Takes (x >>= f) s b rest :=
  hx.run_bind.trans hf

/-- The reader finds the fault `e` in `s`. -/
def Fails (reader : Reader α) (s : List Char) (e : ReadError) : Prop :=
  reader.run s = .error e

theorem Fails.bind {x : Reader α} {s : List Char} {e : ReadError} (hx : Fails x s e)
    (f : α → Reader β) : Fails (x >>= f) s e := by
  unfold Fails at *
  rw [StateT.run_bind, hx]
  rfl

theorem Takes.bind_fails {x : Reader α} {f : α → Reader β} {s t : List Char} {a : α}
    {e : ReadError} (hx : Takes x s a t) (hf : Fails (f a) t e) : Fails (x >>= f) s e :=
  hx.run_bind.trans hf

theorem fails_throw (e : ReadError) (s : List Char) : Fails (throw e : Reader α) s e :=
  rfl

theorem takes_get (s : List Char) : Takes get s s s :=
  rfl

theorem takes_set (s t : List Char) : Takes (set t : Reader PUnit) s ⟨⟩ t :=
  rfl

theorem takes_lift {x : Except ReadError α} {a : α} (h : x = .ok a) (s : List Char) :
    Takes (liftM x : Reader α) s a s := by
  rw [h]
  rfl

theorem takes_skip (c : Char) (s : List Char) : Takes Reader.skip (c :: s) () s :=
  rfl

theorem isSpace_iff {c : Char} : isSpace c = true ↔ c = ' ' ∨ c = '\t' ∨ c = '\n' ∨ c = '\r' := by
  simp [isSpace, or_assoc]

theorem takes_peek {c : Char} (hc : isSpace c = false) (s : List Char) :
    Takes Reader.peek (c :: s) (some c) (c :: s) := by
  have hdrop : (c :: s).dropWhile isSpace = c :: s := by
    rw [List.dropWhile_cons, if_neg (by simp [hc])]
  refine Takes.bind (a := ⟨⟩) (t := c :: s) ?_ rfl
  show Except.ok (PUnit.unit, (c :: s).dropWhile isSpace) = _
  rw [hdrop]

theorem takes_mark {c : Char} (hc : isSpace c = false) (s : List Char) :
    Takes (Reader.mark c) (c :: s) () s := by
  refine (takes_peek hc s).bind ?_
  show Takes (if c = c then Reader.skip else throw .malformed) (c :: s) () s
  rw [if_pos rfl]
  exact takes_skip c s

theorem takes_literal (word rest : List Char) :
    Takes (Reader.literal word) (word ++ rest) () rest := by
  induction word with
  | nil => exact takes_pure () rest
  | cons w word ih =>
      refine (takes_get _).bind ?_
      show Takes (if w = w then _ else _) _ _ _
      rw [if_pos rfl]
      exact (takes_set _ _).bind ih

theorem whole_of_fails {reader : Reader α} {text : String} {e : ReadError}
    (h : Fails reader text.toList e) : Reader.whole reader text = .error e := by
  unfold Fails at h
  rw [Reader.whole, h]
  rfl

/-! ## Rounds of a loop -/

theorem rounds_of_takes_inl {step : σ → Reader (σ ⊕ β)} {c : Char} {bound s t : List Char}
    {st next : σ} (h : Takes (step st) s (.inl next) t) :
    Reader.rounds step (c :: bound) st s = Reader.rounds step bound next t := by
  unfold Takes at h
  rw [Reader.rounds, h]

theorem rounds_of_takes_inr {step : σ → Reader (σ ⊕ β)} {c : Char} {bound s rest : List Char}
    {st : σ} {b : β} (h : Takes (step st) s (.inr b) rest) :
    Reader.rounds step (c :: bound) st s = .ok (b, rest) := by
  unfold Takes at h
  rw [Reader.rounds, h]

/-- Rounds of a loop, each over at least one character, lead from one state and text to
another. -/
inductive Goes (step : σ → Reader (σ ⊕ β)) : σ → List Char → σ → List Char → Prop
  | refl (st : σ) (s : List Char) : Goes step st s st s
  | round {st next last : σ} {s t rest : List Char} (h : Takes (step st) s (.inl next) t)
      (hless : t.length < s.length) (hrest : Goes step next t last rest) :
      Goes step st s last rest

namespace Goes

variable {step : σ → Reader (σ ⊕ β)} {st next last : σ} {s t rest : List Char}

theorem trans (h : Goes step st s next t) (hrest : Goes step next t last rest) :
    Goes step st s last rest := by
  induction h with
  | refl => exact hrest
  | round h hless _ ih => exact .round h hless (ih hrest)

/-- The bound on the rounds is never met. -/
theorem rounds (h : Goes step st s last rest) (bound : List Char)
    (hbound : s.length < bound.length) :
    ∃ left, rest.length < left.length ∧
      Reader.rounds step bound st s = Reader.rounds step left last rest := by
  induction h generalizing bound with
  | refl => exact ⟨bound, hbound, rfl⟩
  | round h hless _ ih =>
      obtain ⟨c, bound, rfl⟩ := List.exists_cons_of_length_pos (Nat.zero_lt_of_lt hbound)
      rw [rounds_of_takes_inl h]
      exact ih bound (by rw [List.length_cons] at hbound; omega)

theorem takes_untilDone (h : Goes step st s last t) {b : β}
    (hend : Takes (step last) t (.inr b) rest) : Takes (Reader.untilDone step st) s b rest := by
  obtain ⟨left, hleft, hrounds⟩ := h.rounds (' ' :: s) (Nat.lt_succ_self _)
  obtain ⟨c, left, rfl⟩ := List.exists_cons_of_length_pos (Nat.zero_lt_of_lt hleft)
  exact hrounds.trans (rounds_of_takes_inr hend)

theorem fails_untilDone (h : Goes step st s last t) {e : ReadError}
    (hend : Fails (step last) t e) : Fails (Reader.untilDone step st) s e := by
  obtain ⟨left, hleft, hrounds⟩ := h.rounds (' ' :: s) (Nat.lt_succ_self _)
  obtain ⟨c, left, rfl⟩ := List.exists_cons_of_length_pos (Nat.zero_lt_of_lt hleft)
  refine hrounds.trans ?_
  unfold Fails at hend
  rw [Reader.rounds, hend]

end Goes

end VmLifecycle.Json
