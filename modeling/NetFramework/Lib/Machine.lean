import Mathlib.Data.List.Basic

/-!
# Runs of a state machine

A `Machine` has initial states and steps labelled by events. `Run es s` says that the events `es`,
in this order, lead from an initial state to `s`. `Run.invariant` is the induction over runs that
every safety result uses; its invariant may speak about the events that have happened.
-/

namespace NetFramework.Lib

structure Machine (σ ε : Type*) where
  init : σ → Prop
  step : σ → ε → σ → Prop

namespace Machine

variable {σ ε : Type*} (M : Machine σ ε)

/-- The events `es` lead to `s`. -/
inductive Run : List ε → σ → Prop
  | init {s : σ} (h : M.init s) : Run [] s
  | step {es : List ε} {s s' : σ} {e : ε} (hrun : Run es s) (hstep : M.step s e s') :
      Run (es ++ [e]) s'

variable {M}

/-- **Induction over runs.** What holds at the beginning and is kept by every step of a run holds
wherever a run leads. -/
theorem Run.invariant {P : List ε → σ → Prop} (hinit : ∀ s, M.init s → P [] s)
    (hstep : ∀ es s e s', M.Run es s → P es s → M.step s e s' → P (es ++ [e]) s')
    {es : List ε} {s : σ} (h : M.Run es s) : P es s := by
  induction h with
  | init h => exact hinit _ h
  | step hrun hs ih => exact hstep _ _ _ _ hrun ih hs

/-- The last step of a run. -/
theorem Run.last {es : List ε} {e : ε} {s' : σ} (h : M.Run (es ++ [e]) s') :
    ∃ s, M.Run es s ∧ M.step s e s' := by
  generalize hes : es ++ [e] = es' at h
  cases h with
  | init => exact absurd hes (by simp)
  | step hrun hstep =>
    obtain ⟨rfl, he⟩ := List.append_inj' hes rfl
    cases he
    exact ⟨_, hrun, hstep⟩

/-- The first `n` steps of an execution, state by state. -/
structure Execution (M : Machine σ ε) (n : ℕ) where
  states : ℕ → σ
  events : ℕ → ε
  init : M.init (states 0)
  step : ∀ i < n, M.step (states i) (events i) (states (i + 1))

theorem Execution.run {n : ℕ} (x : M.Execution n) {i : ℕ} (hi : i ≤ n) :
    M.Run ((List.range i).map x.events) (x.states i) := by
  induction i with
  | zero => exact .init x.init
  | succ i ih =>
    rw [List.range_succ, List.map_append]
    exact .step (ih (by omega)) (x.step i hi)

/-! ## Executable machines -/

section Play

variable (execute : σ → ε → Option σ)

/-- The state to which events lead, if they all have a step. -/
def play (s : σ) : List ε → Option σ
  | [] => some s
  | e :: es => (execute s e).bind fun s' => play s' es

theorem play_append (s : σ) (es es' : List ε) :
    play execute s (es ++ es') = (play execute s es).bind fun s' => play execute s' es' := by
  induction es generalizing s with
  | nil => rfl
  | cons e rest ih =>
    show (execute s e).bind _ = ((execute s e).bind _).bind _
    rw [Option.bind_assoc]
    exact congrArg _ (funext fun s' => ih s')

variable {execute}

/-- A run that goes on with events that are played. -/
theorem Run.play (hstep : ∀ s e s', execute s e = some s' → M.step s e s') {es es' : List ε}
    {s s' : σ} (h : M.Run es s) (hplay : Machine.play execute s es' = some s') :
    M.Run (es ++ es') s' := by
  induction es' generalizing es s with
  | nil =>
    cases hplay
    rwa [List.append_nil]
  | cons e rest ih =>
    obtain ⟨t, ht, hrest⟩ := Option.bind_eq_some_iff.mp hplay
    have := ih (.step h (hstep _ _ _ ht)) hrest
    rwa [List.append_assoc] at this

/-- The execution in which events are played; `e₀` stands for the events after them. -/
def Execution.ofPlay (hstep : ∀ s e s', execute s e = some s' → M.step s e s') (e₀ : ε) {s : σ}
    {es : List ε} (hinit : M.init s) (h : (play execute s es).isSome = true) :
    M.Execution es.length where
  states i := (play execute s (es.take i)).getD s
  events i := es.getD i e₀
  init := hinit
  step i hi := by
    obtain ⟨s', hs'⟩ := Option.isSome_iff_exists.mp h
    rw [← List.take_append_drop (i + 1) es, play_append] at hs'
    obtain ⟨t', ht', -⟩ := Option.bind_eq_some_iff.mp hs'
    have hsplit := ht'
    rw [List.take_succ_eq_append_getElem hi, play_append] at hsplit
    obtain ⟨t, ht, hplay⟩ := Option.bind_eq_some_iff.mp hsplit
    obtain ⟨t'', hexecute, hend⟩ := Option.bind_eq_some_iff.mp hplay
    cases hend
    have hevent : es.getD i e₀ = es[i] := by simp [hi]
    rw [ht', ht, hevent]
    exact hstep _ _ _ hexecute

end Play

end Machine

end NetFramework.Lib
