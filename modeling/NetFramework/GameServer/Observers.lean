import NetFramework.Lib.Machine
import Mathlib.Data.List.Infix
import Mathlib.Data.List.Induction
import Mathlib.Logic.Function.Basic

/-!
# Observer lists

`Acceptor`, `SessionBuilder` and `SessionExtensionSubject` keep their observers in the same way. The
predicate with which `UnsubscribeObserver` removes an observer is a function-local `static`: it is
built by the first call in the process, and keeps a reference to the parameter of that call. Every
later call compares the observers with a variable that is gone.
-/

namespace NetFramework.GameServer.Observers

open Lib

inductive SubjectClass
  | acceptor
  | sessionBuilder
  | sessionExtensionSubject
  deriving DecidableEq, Repr

/-- The objects `I` of the three classes in a process, with observers at the addresses `O`. -/
structure Subjects (I O : Type) where
  observers : SubjectClass → I → List O
  /-- The call whose parameter the static predicate of the class refers to, once it is built. -/
  removeDecision : SubjectClass → Option ℕ
  /-- The calls so far; each of them has its parameter in a variable of its own. -/
  calls : ℕ

variable {I O : Type} [DecidableEq I] [DecidableEq O]

/-- `list` is the list of the object `i` of the class `cls`, and the others stay. -/
def setList (lists : SubjectClass → I → List O) (cls : SubjectClass) (i : I) (list : List O) :
    SubjectClass → I → List O :=
  fun cls' i' => if cls' = cls ∧ i' = i then list else lists cls' i'

/-- `std::remove_if` and `erase`: the predicate reads the captured variable for every item. -/
def removeIf (captured : ℕ → Option O) : List O → List O
  | [] => []
  | item :: l =>
    if some item = captured 0 then removeIf (fun n => captured (n + 1)) l
    else item :: removeIf (fun n => captured (n + 1)) l

namespace Subjects

def create : Subjects I O := ⟨fun _ _ => [], fun _ => none, 0⟩

def subscribeObserver (cls : SubjectClass) (s : Subjects I O) (i : I) (observer : O) :
    Subjects I O :=
  { s with
    observers := setList s.observers cls i (s.observers cls i ++ [observer])
    calls := s.calls + 1 }

/-- `stale` is what is read from the parameter of a call that has returned: the address of an
observer, or something else. -/
def unsubscribeObserver (cls : SubjectClass) (s : Subjects I O) (i : I) (observer : O)
    (stale : ℕ → Option O) : Subjects I O :=
  let call := (s.removeDecision cls).getD s.calls
  let captured := if call = s.calls then fun _ => some observer else stale
  { observers := setList s.observers cls i (removeIf captured (s.observers cls i))
    removeDecision := Function.update s.removeDecision cls (some call)
    calls := s.calls + 1 }

end Subjects

namespace Acceptor

def subscribeObserver (s : Subjects I O) := s.subscribeObserver .acceptor

def unsubscribeObserver (s : Subjects I O) := s.unsubscribeObserver .acceptor

end Acceptor

namespace SessionBuilder

def subscribeObserver (s : Subjects I O) := s.subscribeObserver .sessionBuilder

def unsubscribeObserver (s : Subjects I O) := s.unsubscribeObserver .sessionBuilder

end SessionBuilder

namespace SessionExtensionSubject

def subscribeObserver (s : Subjects I O) := s.subscribeObserver .sessionExtensionSubject

def unsubscribeObserver (s : Subjects I O) := s.unsubscribeObserver .sessionExtensionSubject

end SessionExtensionSubject

/-- A call on the object `i` of a class. -/
inductive Call (I O : Type)
  | subscribeObserver (cls : SubjectClass) (i : I) (observer : O)
  | unsubscribeObserver (cls : SubjectClass) (i : I) (observer : O)

/-- What a call can do, whatever is read from a variable that is gone. -/
def Step (s : Subjects I O) : Call I O → Subjects I O → Prop
  | .subscribeObserver .acceptor i o, s' => s' = Acceptor.subscribeObserver s i o
  | .subscribeObserver .sessionBuilder i o, s' => s' = SessionBuilder.subscribeObserver s i o
  | .subscribeObserver .sessionExtensionSubject i o, s' =>
    s' = SessionExtensionSubject.subscribeObserver s i o
  | .unsubscribeObserver .acceptor i o, s' =>
    ∃ stale, s' = Acceptor.unsubscribeObserver s i o stale
  | .unsubscribeObserver .sessionBuilder i o, s' =>
    ∃ stale, s' = SessionBuilder.unsubscribeObserver s i o stale
  | .unsubscribeObserver .sessionExtensionSubject i o, s' =>
    ∃ stale, s' = SessionExtensionSubject.unsubscribeObserver s i o stale

/-- A process, before any call. -/
def machine : Machine (Subjects I O) (Call I O) where
  init s := s = .create
  step := Step

theorem step_subscribeObserver {cls : SubjectClass} {s s' : Subjects I O} {i : I} {o : O} :
    Step s (.subscribeObserver cls i o) s' ↔ s' = s.subscribeObserver cls i o := by
  cases cls <;> exact Iff.rfl

theorem step_unsubscribeObserver {cls : SubjectClass} {s s' : Subjects I O} {i : I} {o : O} :
    Step s (.unsubscribeObserver cls i o) s' ↔
      ∃ stale, s' = s.unsubscribeObserver cls i o stale := by
  cases cls <;> exact Iff.rfl

/-! ## The lists that the calls ask for -/

def Call.apply (lists : SubjectClass → I → List O) : Call I O → SubjectClass → I → List O
  | .subscribeObserver cls i o => setList lists cls i (lists cls i ++ [o])
  | .unsubscribeObserver cls i o => setList lists cls i ((lists cls i).filter (· ≠ o))

/-- The observers that have been subscribed, without those unsubscribed since. -/
def subscribed (calls : List (Call I O)) : SubjectClass → I → List O :=
  calls.foldl Call.apply fun _ _ => []

theorem subscribed_concat (calls : List (Call I O)) (call : Call I O) :
    subscribed (calls ++ [call]) = call.apply (subscribed calls) :=
  List.foldl_concat ..

/-- However the calls go, every object has after each of them the observers it is asked to have. -/
def Follows (calls : List (Call I O)) : Prop :=
  ∀ done, done <+: calls → ∀ s, machine.Run done s → s.observers = subscribed done

/-- A call of `UnsubscribeObserver` is the first one on its class, or finds no observers. -/
def Call.Sound (done : List (Call I O)) : Call I O → Prop
  | .subscribeObserver .. => True
  | .unsubscribeObserver cls i _ =>
    (∀ i' o, .unsubscribeObserver cls i' o ∉ done) ∨ subscribed done cls i = []

/-! ## One call -/

omit [DecidableEq I] in
/-- The predicate that the call itself has built removes its observer. -/
theorem removeIf_live (o : O) (l : List O) :
    removeIf (fun _ => some o) l = l.filter (· ≠ o) := by
  induction l with
  | nil => rfl
  | cons item l ih =>
    unfold removeIf
    by_cases h : item = o
    · rw [if_pos (congrArg some h), ih, List.filter_cons_of_neg (by simp [h])]
    · rw [if_neg (fun hsome => h (Option.some.inj hsome)), ih, List.filter_cons_of_pos (by simp [h])]

omit [DecidableEq I] in
/-- A predicate that finds no observer removes nothing. -/
theorem removeIf_none (l : List O) : removeIf (fun _ => none) l = l := by
  induction l with
  | nil => rfl
  | cons item l ih =>
    unfold removeIf
    rw [if_neg (Option.some_ne_none item), ih]

omit [DecidableEq O] in
@[simp] theorem setList_self (lists : SubjectClass → I → List O) (cls : SubjectClass) (i : I)
    (list : List O) : setList lists cls i list cls i = list := if_pos ⟨rfl, rfl⟩

/-- What is known of the static predicates after the calls `done`. -/
structure Built (done : List (Call I O)) (s : Subjects I O) : Prop where
  none_iff : ∀ cls, s.removeDecision cls = none ↔
    ∀ i o, Call.unsubscribeObserver cls i o ∉ done
  lt : ∀ cls call, s.removeDecision cls = some call → call < s.calls

omit [DecidableEq I] [DecidableEq O] in
theorem built_create : Built ([] : List (Call I O)) .create :=
  ⟨fun _ => iff_of_true rfl fun _ _ => List.not_mem_nil, fun _ _ h => by cases h⟩

theorem Built.step {done : List (Call I O)} {s s' : Subjects I O} {call : Call I O}
    (h : Built done s) (hstep : Step s call s') : Built (done ++ [call]) s' := by
  cases call with
  | subscribeObserver cls i o =>
    rw [step_subscribeObserver] at hstep
    subst hstep
    refine ⟨fun cls' => (h.none_iff cls').trans ?_, fun cls' call hcall => ?_⟩
    · simp
    · exact Nat.lt_succ_of_lt (h.lt cls' call hcall)
  | unsubscribeObserver cls i o =>
    obtain ⟨stale, rfl⟩ := step_unsubscribeObserver.mp hstep
    have hcall : (s.removeDecision cls).getD s.calls < s.calls + 1 := by
      cases hbuilt : s.removeDecision cls with
      | none => exact Nat.lt_succ_self _
      | some call => exact Nat.lt_succ_of_lt (h.lt cls call hbuilt)
    refine ⟨fun cls' => ?_, fun cls' call hcall' => ?_⟩
    · show Function.update s.removeDecision cls _ cls' = none ↔ _
      by_cases hcls : cls' = cls
      · subst hcls
        rw [Function.update_self]
        refine iff_of_false (Option.some_ne_none _) fun hnone => hnone i o ?_
        exact List.mem_append_right _ (List.mem_singleton_self _)
      · rw [Function.update_of_ne hcls, h.none_iff]
        simp [hcls]
    · change Function.update s.removeDecision cls _ cls' = some call at hcall'
      by_cases hcls : cls' = cls
      · subst hcls
        rw [Function.update_self] at hcall'
        cases hcall'
        exact hcall
      · rw [Function.update_of_ne hcls] at hcall'
        exact Nat.lt_succ_of_lt (h.lt cls' call hcall')

/-- A sound call does what it is asked to do. -/
theorem Built.follows {done : List (Call I O)} {s s' : Subjects I O} {call : Call I O}
    (h : Built done s) (hlists : s.observers = subscribed done) (hsound : call.Sound done)
    (hstep : Step s call s') : s'.observers = subscribed (done ++ [call]) := by
  rw [subscribed_concat, ← hlists]
  cases call with
  | subscribeObserver cls i o =>
    rw [step_subscribeObserver] at hstep
    subst hstep
    rfl
  | unsubscribeObserver cls i o =>
    obtain ⟨stale, rfl⟩ := step_unsubscribeObserver.mp hstep
    show setList s.observers cls i (removeIf _ (s.observers cls i)) = setList _ _ _ _
    obtain hfirst | hempty := hsound
    · rw [(h.none_iff cls).mpr hfirst, Option.getD_none, if_pos rfl, removeIf_live]
    · rw [hlists, hempty]
      rfl

/-- A call that is not sound may do something else. -/
theorem Built.exists_step {done : List (Call I O)} {s : Subjects I O} {call : Call I O}
    (h : Built done s) (hlists : s.observers = subscribed done) (hsound : ¬call.Sound done) :
    ∃ s', Step s call s' ∧ s'.observers ≠ subscribed (done ++ [call]) := by
  cases call with
  | subscribeObserver cls i o => exact absurd trivial hsound
  | unsubscribeObserver cls i o =>
    obtain ⟨hlater, hlist⟩ := not_or.mp hsound
    rw [← h.none_iff] at hlater
    obtain ⟨built, hbuilt⟩ := Option.ne_none_iff_exists'.mp hlater
    have hgone : (s.removeDecision cls).getD s.calls ≠ s.calls := by
      rw [hbuilt]
      exact (h.lt cls built hbuilt).ne
    rw [← hlists] at hlist
    obtain ⟨item, hitem⟩ := List.exists_mem_of_ne_nil _ hlist
    -- what is read is `item` if another observer is to go, and nothing if `item` is
    let stale : ℕ → Option O := fun _ => if item = o then none else some item
    refine ⟨s.unsubscribeObserver cls i o stale, step_unsubscribeObserver.mpr ⟨stale, rfl⟩, ?_⟩
    rw [subscribed_concat, ← hlists]
    intro heq
    have hat := congrFun (congrFun heq cls) i
    change setList s.observers cls i (removeIf _ (s.observers cls i)) cls i =
      setList s.observers cls i ((s.observers cls i).filter (· ≠ o)) cls i at hat
    rw [setList_self, setList_self, if_neg hgone] at hat
    by_cases hitemo : item = o
    · rw [show stale = fun _ => none from funext fun _ => if_pos hitemo, removeIf_none] at hat
      rw [hat] at hitem
      exact of_decide_eq_true (List.mem_filter.mp hitem).2 hitemo
    · rw [show stale = fun _ => some item from funext fun _ => if_neg hitemo, removeIf_live] at hat
      have hkept : item ∈ (s.observers cls i).filter (· ≠ o) :=
        List.mem_filter.mpr ⟨hitem, decide_eq_true hitemo⟩
      rw [← hat] at hkept
      exact of_decide_eq_true (List.mem_filter.mp hkept).2 rfl

/-! ## All calls -/

theorem run_built {done : List (Call I O)} {s : Subjects I O} (h : machine.Run done s) :
    Built done s :=
  h.invariant (P := Built) (fun s hs => by
    subst hs
    exact built_create) fun _ _ _ _ _ hbuilt hstep => hbuilt.step hstep

/-- Every call returns. -/
theorem exists_step (s : Subjects I O) (call : Call I O) : ∃ s', Step s call s' := by
  cases call with
  | subscribeObserver cls i o => exact ⟨_, step_subscribeObserver.mpr rfl⟩
  | unsubscribeObserver cls i o =>
    exact ⟨_, step_unsubscribeObserver.mpr ⟨fun _ => none, rfl⟩⟩

theorem exists_run (calls : List (Call I O)) : ∃ s, machine.Run calls s := by
  induction calls using List.reverseRecOn with
  | nil => exact ⟨.create, .init rfl⟩
  | append_singleton done call ih =>
    obtain ⟨s, hrun⟩ := ih
    obtain ⟨s', hstep⟩ := exists_step s call
    exact ⟨s', .step hrun hstep⟩

/-- **Observer lists follow their subscriptions** in all behaviours exactly if on each of the
classes only the first call of `UnsubscribeObserver` finds observers. -/
theorem follows_iff (calls : List (Call I O)) :
    Follows calls ↔ ∀ done call, done ++ [call] <+: calls → call.Sound done := by
  constructor
  · intro h done call hprefix
    by_contra hsound
    obtain ⟨s, hrun⟩ := exists_run done
    have hlists := h done ((List.prefix_append _ _).trans hprefix) s hrun
    obtain ⟨s', hstep, hne⟩ := (run_built hrun).exists_step hlists hsound
    exact hne (h _ hprefix s' (.step hrun hstep))
  · intro h done hprefix s hrun
    refine hrun.invariant (P := fun done s => done <+: calls → s.observers = subscribed done) ?_ ?_
      hprefix
    · intro s hs _
      subst hs
      rfl
    · intro done s call s' hrun ih hstep hprefix
      have hlists := ih ((List.prefix_append _ _).trans hprefix)
      exact (run_built hrun).follows hlists (h done call hprefix) hstep

/-- The same observer comes and goes twice, and stays. -/
theorem follows_fails : ∃ calls : List (Call ℕ ℕ), ∃ s, machine.Run calls s ∧
    s.observers .acceptor 0 = [7] ∧ subscribed calls .acceptor 0 = [] ∧ ¬Follows calls := by
  let first : Subjects ℕ ℕ := Acceptor.subscribeObserver .create 0 7
  let second := Acceptor.unsubscribeObserver first 0 7 fun _ => none
  let third := Acceptor.subscribeObserver second 0 7
  let last := Acceptor.unsubscribeObserver third 0 7 fun _ => none
  have hfirst : machine.Run ([] ++ [.subscribeObserver .acceptor 0 7]) first :=
    .step (.init rfl) rfl
  have hsecond : machine.Run ([_] ++ [.unsubscribeObserver .acceptor 0 7]) second :=
    .step hfirst ⟨_, rfl⟩
  have hthird : machine.Run ([_, _] ++ [.subscribeObserver .acceptor 0 7]) third :=
    .step hsecond rfl
  have hrun : machine.Run ([_, _, _] ++ [.unsubscribeObserver .acceptor 0 7]) last :=
    .step hthird ⟨_, rfl⟩
  refine ⟨_, last, hrun, rfl, rfl, fun h => ?_⟩
  have heq := congrFun (congrFun (h _ List.prefix_rfl last hrun) .acceptor) 0
  exact absurd (show [7] = ([] : List ℕ) from heq) (by decide)

end NetFramework.GameServer.Observers
