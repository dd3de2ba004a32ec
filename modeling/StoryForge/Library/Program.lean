import Mathlib.Logic.Basic

/-!
# Programs with exceptions over committed state

A `Program σ ε α` reads and writes a state `σ` and returns an `α` or raises an `ε`. What it
wrote before an exception stays written: this is the behaviour of code that commits one
transaction after another, where the handler of an exception sees everything that was
committed before it.

Programs are specified by triples with two postconditions, one for returning and one for
raising.

## Main results

* `exec_escalate_ok`, `exec_escalate_error` — the executions of a program with a handler that
  raises in turn;
* `escalate_bind`, `escalate_bind_uncaught`, `escalate_tag` — the handlers of single steps are one
  handler of the whole, that looks at which step raised;
* `Triple.bind`, `Triple.rescue` — the rules of sequence and of handlers;
* `Triple.act` — the rule of a single step;
* `Triple.conseq`, `Triple.of_exec` — consequence, and what a triple says of one execution.
-/

/-- Programs that may raise, over a state that survives exceptions. -/
abbrev Program (σ ε α : Type) := ExceptT ε (StateM σ) α

namespace Program

variable {σ ε ε' α β : Type}

/-- The result and the final state of a program. -/
def exec (x : Program σ ε α) (s : σ) : Except ε α × σ := x.run.run s

/-- One step: a function of the state. -/
def act (f : σ → Except ε α × σ) : Program σ ε α := ExceptT.mk fun s => f s

/-- A step that does not touch the state. -/
def ofExcept (r : Except ε α) : Program σ ε α := act fun s => (r, s)

/-- Raise when there is something to raise. -/
def raising (fault : Option ε) : Program σ ε Unit :=
  ofExcept (match fault with | some e => .error e | none => .ok ())

/-- A step that only changes the state. -/
def update (f : σ → σ) : Program σ ε Unit := act fun s => (.ok (), f s)

/-- Rename what is raised. -/
def tag (f : ε → ε') (x : Program σ ε α) : Program σ ε' α :=
  act fun s => match x.exec s with
    | (.ok a, s') => (.ok a, s')
    | (.error e, s') => (.error (f e), s')

/-- Run `x`, and `h` on what it raised, in the state it left. -/
def rescue (x : Program σ ε α) (h : ε → Program σ ε' α) : Program σ ε' α :=
  act fun s => match x.exec s with
    | (.ok a, s') => (.ok a, s')
    | (.error e, s') => (h e).exec s'

section Exec

@[simp] theorem exec_pure (a : α) (s : σ) : (pure a : Program σ ε α).exec s = (.ok a, s) := rfl

@[simp] theorem exec_throw (e : ε) (s : σ) :
    (throw e : Program σ ε α).exec s = (.error e, s) := rfl

@[simp] theorem exec_act (f : σ → Except ε α × σ) (s : σ) : (act f).exec s = f s := rfl

/-- Sequence: the second program runs where the first returned. -/
theorem exec_bind (x : Program σ ε α) (f : α → Program σ ε β) (s : σ) :
    (x >>= f).exec s = match x.exec s with
      | (.ok a, s') => (f a).exec s'
      | (.error e, s') => (.error e, s') := by
  simp only [exec, ExceptT.run_bind, StateT.run_bind]
  rcases x.run.run s with ⟨_ | _, s'⟩ <;> rfl

@[simp] theorem exec_update (f : σ → σ) (s : σ) :
    (update f : Program σ ε Unit).exec s = (.ok (), f s) := rfl

@[simp] theorem exec_raising_none (s : σ) : (raising (none : Option ε)).exec s = (.ok (), s) := rfl

@[simp] theorem exec_raising_some (e : ε) (s : σ) :
    (raising (some e)).exec s = (.error e, s) := rfl

@[simp] theorem exec_ofExcept (r : Except ε α) (s : σ) : (ofExcept r).exec s = (r, s) := rfl

/-- A handler runs where the program raised. -/
theorem exec_rescue (x : Program σ ε α) (h : ε → Program σ ε' α) (s : σ) :
    (rescue x h).exec s = match x.exec s with
      | (.ok a, s') => (.ok a, s')
      | (.error e, s') => (h e).exec s' := rfl

end Exec

/-! ### Handlers that raise in turn -/

section Escalate

variable {δ : Type}

/-- Run `x`, and `h` on what it raised; `h` raises in turn. -/
def escalate (x : Program σ ε α) (h : ε → Program σ ε' Empty) : Program σ ε' α :=
  x.rescue fun e => h e >>= fun nothing => nothing.elim

theorem exec_escalate (x : Program σ ε α) (h : ε → Program σ ε' Empty) (s : σ) :
    (x.escalate h).exec s = match x.exec s with
      | (.ok a, s') => (.ok a, s')
      | (.error e, s') => match (h e).exec s' with
        | (.ok nothing, _) => nothing.elim
        | (.error e', s'') => (.error e', s'') := by
  rw [escalate, exec_rescue]
  rcases x.exec s with ⟨e | a, s'⟩
  · dsimp only
    rw [exec_bind]
    rcases (h e).exec s' with ⟨e' | nothing, s''⟩
    · rfl
    · exact nothing.elim
  · rfl

/-- What escapes a program that never returns. -/
theorem exec_empty (x : Program σ ε Empty) (s : σ) : ∃ e, x.exec s = (.error e, (x.exec s).2) := by
  rcases x.exec s with ⟨e | nothing, s'⟩
  · exact ⟨e, rfl⟩
  · exact nothing.elim

theorem exec_escalate_ok {x : Program σ ε α} {h : ε → Program σ ε' Empty} {s s' : σ} {a : α}
    (hx : x.exec s = (.ok a, s')) : (x.escalate h).exec s = (.ok a, s') := by
  rw [exec_escalate, hx]

/-- The state after an exception is the one its handler leaves. -/
theorem exec_escalate_error {x : Program σ ε α} {h : ε → Program σ ε' Empty} {s s' : σ} {e : ε}
    (hx : x.exec s = (.error e, s')) :
    ∃ e', (x.escalate h).exec s = (.error e', ((h e).exec s').2) := by
  obtain ⟨e', he'⟩ := exec_empty (h e) s'
  refine ⟨e', ?_⟩
  rw [exec_escalate, hx]
  dsimp only
  rw [he']

/-- Programs with the same executions are the same. -/
theorem exec_inj {x y : Program σ ε α} (h : ∀ s, x.exec s = y.exec s) : x = y := by
  funext s
  exact h s

/-- Raising again what was raised does nothing. -/
theorem escalate_throw (x : Program σ ε α) : x.escalate (fun e => throw e) = x := by
  refine exec_inj fun s => ?_
  rw [exec_escalate]
  rcases x.exec s with ⟨e | a, s'⟩ <;> rfl

/-- **Handlers of single steps are one handler of the whole** that looks at which step
raised. -/
theorem escalate_bind {x : Program σ ε α} {y : α → Program σ ε' β} {z : α → Program σ δ β}
    {f : ε → δ} {h : ε → Program σ ε' Empty} {H : δ → Program σ ε' Empty}
    (hx : ∀ e, h e = H (f e)) (hy : ∀ a, y a = (z a).escalate H) :
    (x.escalate h >>= y) = (x.tag f >>= z).escalate H := by
  refine exec_inj fun s => ?_
  rw [exec_bind, exec_escalate, exec_escalate, exec_bind, tag, exec_act]
  rcases x.exec s with ⟨e | a, s'⟩
  · dsimp only
    rw [hx]
    rcases (H (f e)).exec s' with ⟨e' | nothing, s''⟩
    · rfl
    · exact nothing.elim
  · dsimp only
    rw [hy, exec_escalate]

/-- A step without a handler. -/
theorem escalate_bind_uncaught {x : Program σ ε α} {y : α → Program σ ε β}
    {z : α → Program σ δ β} {f : ε → δ} {H : δ → Program σ ε Empty}
    (hx : ∀ e, H (f e) = throw e) (hy : ∀ a, y a = (z a).escalate H) :
    (x >>= y) = (x.tag f >>= z).escalate H := by
  have hbind := escalate_bind (x := x) (fun e => (hx e).symm) hy
  rwa [escalate_throw] at hbind

/-- The last step. -/
theorem escalate_tag {x : Program σ ε α} {f : ε → δ} {h : ε → Program σ ε' Empty}
    {H : δ → Program σ ε' Empty} (hx : ∀ e, h e = H (f e)) :
    x.escalate h = (x.tag f).escalate H := by
  refine exec_inj fun s => ?_
  rw [exec_escalate, exec_escalate, tag, exec_act]
  rcases x.exec s with ⟨e | a, s'⟩
  · dsimp only
    rw [hx]
  · rfl

end Escalate

/-! ### Triples -/

/-- What a run ended with. -/
def Post (Q : α → σ → Prop) (E : ε → σ → Prop) : Except ε α × σ → Prop
  | (.ok a, s) => Q a s
  | (.error e, s) => E e s

/-- From a state in `P`, `x` returns into `Q` or raises into `E`. -/
def Triple (P : σ → Prop) (x : Program σ ε α) (Q : α → σ → Prop) (E : ε → σ → Prop) : Prop :=
  ∀ s, P s → Post Q E (x.exec s)

namespace Triple

variable {P P' : σ → Prop} {Q Q' : α → σ → Prop} {E E' : ε → σ → Prop}

/-- Consequence. -/
theorem conseq {x : Program σ ε α} (h : Triple P x Q E) (hP : ∀ s, P' s → P s)
    (hQ : ∀ a s, Q a s → Q' a s) (hE : ∀ e s, E e s → E' e s) : Triple P' x Q' E' := by
  intro s hs
  have hpost := h s (hP s hs)
  revert hpost
  rcases x.exec s with ⟨_ | _, s'⟩
  · exact hE _ _
  · exact hQ _ _

/-- What a triple says of an execution. -/
theorem of_exec {x : Program σ ε α} (h : Triple P x Q E) {s : σ} (hs : P s) :
    Post Q E (x.exec s) := h s hs

theorem pure {a : α} (h : ∀ s, P s → Q a s) : Triple P (pure a : Program σ ε α) Q E := h

theorem throw {e : ε} (h : ∀ s, P s → E e s) : Triple P (throw e : Program σ ε α) Q E := h

/-- A single step. -/
theorem act {f : σ → Except ε α × σ} (h : ∀ s, P s → Post Q E (f s)) :
    Triple P (Program.act f) Q E := h

theorem update {f : σ → σ} {Q : Unit → σ → Prop} (h : ∀ s, P s → Q () (f s)) :
    Triple P (Program.update f : Program σ ε Unit) Q E := h

/-- A step on which the outside may raise. -/
theorem raising {fault : Option ε} {Q : Unit → σ → Prop} (hQ : fault = none → ∀ s, P s → Q () s)
    (hE : ∀ e, fault = some e → ∀ s, P s → E e s) :
    Triple P (Program.raising fault : Program σ ε Unit) Q E := by
  cases fault with
  | none => exact hQ rfl
  | some e => exact hE e rfl

/-- Sequence. -/
theorem bind {R : α → σ → Prop} {Q : β → σ → Prop} {x : Program σ ε α} {f : α → Program σ ε β}
    (hx : Triple P x R E) (hf : ∀ a, Triple (R a) (f a) Q E) : Triple P (x >>= f) Q E := by
  intro s hs
  have hpost := hx s hs
  rw [exec_bind]
  revert hpost
  rcases x.exec s with ⟨_ | a, s'⟩
  · exact id
  · exact hf a s'

theorem tag {f : ε → ε'} {E : ε' → σ → Prop} {x : Program σ ε α}
    (h : Triple P x Q fun e => E (f e)) : Triple P (x.tag f) Q E := by
  intro s hs
  have hpost := h s hs
  unfold Program.tag
  rw [exec_act]
  revert hpost
  rcases x.exec s with ⟨_ | _, s'⟩ <;> exact id

/-- Handlers. -/
theorem rescue {R : ε → σ → Prop} {E : ε' → σ → Prop} {x : Program σ ε α}
    {h : ε → Program σ ε' α} (hx : Triple P x Q R) (hh : ∀ e, Triple (R e) (h e) Q E) :
    Triple P (x.rescue h) Q E := by
  intro s hs
  have hpost := hx s hs
  unfold Program.rescue
  rw [exec_act]
  revert hpost
  rcases x.exec s with ⟨e | _, s'⟩
  · exact hh e s'
  · exact id

/-- A choice made on a value the program has. -/
theorem ite {c : Prop} [Decidable c] {x y : Program σ ε α} (hx : c → Triple P x Q E)
    (hy : ¬ c → Triple P y Q E) : Triple P (if c then x else y) Q E := by
  split
  · exact hx ‹_›
  · exact hy ‹_›

end Triple

end Program
