import NetFramework.Lib.Machine

/-!
# The life of an acceptor

One thread runs `Start`; another one may call `Close` at any time, of which each part is a step of
its own here. `HandleAccept` reads `m_CurrentAcceptSocket` again and not the socket that was
accepted into, so that who owns a socket follows from when the pointer changes. It returns at once
on any error, and then nobody accepts any more: `keepsAccepting_iff` says that this is the only way
in which an acceptor that is not closed ends up without an outstanding accept.
-/

namespace NetFramework.BaseServer

/-- How far `Start` comes with the acceptor of the operating system. -/
inductive Opening
  | notOpened
  | notBound
  | listening
  deriving DecidableEq, Repr

/-- Where the thread of `Start` is. `handled` and `accepting` are inside of `HandleAccept`: behind
`NotifyObservers`, and before the lock of `AsyncAccept` for the thread `threadIndex`. -/
inductive Phase
  | outside
  | opened
  | running
  | handled
  | accepting (threadIndex : ℕ)
  | stopped
  deriving DecidableEq, Repr

/-- `allocated` counts the sockets of `Accept`, which are numbered. An outstanding `async_accept` is
the thread that is to get the connection and the socket it accepts into. `handed` lists the sockets
given to a `Connection`, with the thread it is added to, and `deleted` those that are deleted. -/
structure Acceptor where
  closed : Bool
  ioServiceStopped : Bool
  isOpen : Bool
  phase : Phase
  begun : Bool
  currentAcceptSocket : Option ℕ
  allocated : ℕ
  outstanding : List (ℕ × Option ℕ)
  handed : List (ℕ × Option ℕ)
  deleted : List ℕ
  deriving DecidableEq, Repr

namespace Acceptor

def create : Acceptor := ⟨false, false, false, .outside, false, none, 0, [], [], []⟩

/-- `new boost::asio::ip::tcp::socket`. -/
def newSocket (s : Acceptor) : Acceptor :=
  { s with currentAcceptSocket := some s.allocated, allocated := s.allocated + 1 }

/-- `async_accept` into the current socket. -/
def asyncAccept (threadIndex : ℕ) (s : Acceptor) : Acceptor :=
  { s with outstanding := s.outstanding ++ [(threadIndex, s.currentAcceptSocket)] }

/-- `Start` up to its call of `Accept`, with the lock; an acceptor that is open cannot be opened. -/
def start (opening : Opening) (s : Acceptor) : Acceptor :=
  if s.closed ∨ s.isOpen then s
  else
    match opening with
    | .notOpened => s
    | .notBound => { s with isOpen := true }
    | .listening => { s with isOpen := true, phase := .opened }

/-- `Accept(false)` of `Start`; then `m_IOService.run()` begins. -/
def acceptFirst (threadIndex : ℕ) (s : Acceptor) : Acceptor :=
  if s.closed then { s with phase := .running }
  else { s.newSocket.asyncAccept threadIndex with phase := .running, begun := true }

/-- `HandleAccept` until the observers have been notified. -/
def handleAccept (threadIndex : ℕ) (error : Bool) (s : Acceptor) : Acceptor :=
  if error then s
  else { s with
    handed := s.handed ++ [(threadIndex, s.currentAcceptSocket)]
    currentAcceptSocket := none
    phase := .handled }

/-- `Accept` at the end of `HandleAccept`, up to the lock. -/
def accept (threadIndex : ℕ) (s : Acceptor) : Acceptor :=
  if s.closed then { s with phase := .running }
  else { s.newSocket with phase := .accepting threadIndex }

def onStopIOService (s : Acceptor) : Acceptor :=
  { s with deleted := s.deleted ++ s.currentAcceptSocket.toList, phase := .outside }

end Acceptor

inductive AcceptorEvent
  | start (opening : Opening)
  | acceptFirst (threadIndex : ℕ)
  | accepted (error : Bool)
  | accept (threadIndex : ℕ)
  | lock
  | runReturns
  | onStopIOService
  | close
  | stopIOService
  | closeAcceptor
  deriving DecidableEq, Repr

/-- An event and what it does. `run` returns when the service is stopped or has nothing left to do,
and `Start` holds the lock while it is in phase `opened`. -/
def Acceptor.execute (s : Acceptor) : AcceptorEvent → Option Acceptor
  | .start opening => if s.phase = .opened then none else some (s.start opening)
  | .acceptFirst threadIndex =>
    if s.phase = .opened then some (s.acceptFirst threadIndex) else none
  | .accepted error =>
    match s.phase, s.ioServiceStopped, s.outstanding with
    | .running, false, (threadIndex, _) :: rest =>
      some ({ s with outstanding := rest }.handleAccept threadIndex error)
    | _, _, _ => none
  | .accept threadIndex => if s.phase = .handled then some (s.accept threadIndex) else none
  | .lock =>
    match s.phase with
    | .accepting threadIndex => some { s.asyncAccept threadIndex with phase := .running }
    | _ => none
  | .runReturns =>
    if s.phase = .running ∧ (s.ioServiceStopped = true ∨ s.outstanding = []) then
      some { s with phase := .stopped }
    else none
  | .onStopIOService => if s.phase = .stopped then some s.onStopIOService else none
  | .close => some { s with closed := true }
  | .stopIOService => if s.closed = true then some { s with ioServiceStopped := true } else none
  | .closeAcceptor =>
    if s.ioServiceStopped = true ∧ s.phase ≠ .opened then some { s with isOpen := false } else none

namespace Acceptor

def machine : Lib.Machine Acceptor AcceptorEvent where
  init s := s = create
  step s e s' := s.execute e = some s'

/-- Between two handlers, one accept is outstanding from its beginning to `Close`. -/
def Accepts (s : Acceptor) : Prop :=
  s.begun = true → s.closed = false → s.phase = .handled ∨ (∃ t, s.phase = .accepting t) ∨
    ∃ threadIndex socket, s.outstanding = [(threadIndex, some socket)] ∧
      s.currentAcceptSocket = some socket

/-- The socket that `Start` still holds. -/
def holds (s : Acceptor) (socket : ℕ) : Bool :=
  s.phase ≠ .outside ∧ s.currentAcceptSocket = some socket

/-- How often a socket has found its way: to a connection, to its deletion or to `Start`. -/
def owners (s : Acceptor) (socket : ℕ) : ℕ :=
  (s.handed.map Prod.snd).count (some socket) + s.deleted.count socket +
    if s.holds socket then 1 else 0

/-- Every socket has one owner; once `Start` has returned, it has been handed to one connection or
deleted once. -/
def Owned (s : Acceptor) : Prop :=
  ∀ socket < s.allocated, s.owners socket = 1

/-! ## What a step does -/

inductive Step (s : Acceptor) : AcceptorEvent → Acceptor → Prop
  | start {opening : Opening} (hphase : s.phase ≠ .opened) :
      Step s (.start opening) (s.start opening)
  | acceptFirst {threadIndex : ℕ} (hphase : s.phase = .opened) :
      Step s (.acceptFirst threadIndex) (s.acceptFirst threadIndex)
  | accepted {error : Bool} {threadIndex : ℕ} {socket : Option ℕ} {rest : List (ℕ × Option ℕ)}
      (hphase : s.phase = .running) (houtstanding : s.outstanding = (threadIndex, socket) :: rest) :
      Step s (.accepted error) (({ s with outstanding := rest } : Acceptor).handleAccept threadIndex
        error)
  | accept {threadIndex : ℕ} (hphase : s.phase = .handled) :
      Step s (.accept threadIndex) (s.accept threadIndex)
  | lock {threadIndex : ℕ} (hphase : s.phase = .accepting threadIndex) :
      Step s .lock { s.asyncAccept threadIndex with phase := .running }
  | runReturns (hphase : s.phase = .running)
      (hreturns : s.ioServiceStopped = true ∨ s.outstanding = []) :
      Step s .runReturns { s with phase := .stopped }
  | onStopIOService (hphase : s.phase = .stopped) : Step s .onStopIOService s.onStopIOService
  | close : Step s .close { s with closed := true }
  | stopIOService (hclosed : s.closed = true) :
      Step s .stopIOService { s with ioServiceStopped := true }
  | closeAcceptor (hstopped : s.ioServiceStopped = true) (hphase : s.phase ≠ .opened) :
      Step s .closeAcceptor { s with isOpen := false }

theorem step_of_execute {s s' : Acceptor} {e : AcceptorEvent} (h : s.execute e = some s') :
    Step s e s' := by
  cases e with
  | start opening =>
    simp only [execute] at h
    split_ifs at h with hphase
    cases h
    exact .start hphase
  | acceptFirst threadIndex =>
    simp only [execute] at h
    split_ifs at h with hphase
    cases h
    exact .acceptFirst hphase
  | accepted error =>
    simp only [execute] at h
    split at h
    · rename_i threadIndex socket rest hphase _ houtstanding
      cases h
      exact .accepted hphase houtstanding
    · cases h
  | accept threadIndex =>
    simp only [execute] at h
    split_ifs at h with hphase
    cases h
    exact .accept hphase
  | lock =>
    simp only [execute] at h
    split at h
    · rename_i threadIndex hphase
      cases h
      exact .lock hphase
    · cases h
  | runReturns =>
    simp only [execute] at h
    split_ifs at h with hphase
    cases h
    exact .runReturns hphase.1 hphase.2
  | onStopIOService =>
    simp only [execute] at h
    split_ifs at h with hphase
    cases h
    exact .onStopIOService hphase
  | close =>
    cases h
    exact .close
  | stopIOService =>
    simp only [execute] at h
    split_ifs at h with hclosed
    cases h
    exact .stopIOService hclosed
  | closeAcceptor =>
    simp only [execute] at h
    split_ifs at h with hphase
    cases h
    exact .closeAcceptor hphase.1 hphase.2

/-! ## What holds in every run -/

/-- Where the current socket is in each phase, and that every socket has its owner. -/
structure Inv (s : Acceptor) : Prop where
  owned : ∀ socket, s.owners socket = if socket < s.allocated then 1 else 0
  busy : s.phase ≠ .outside ∨ s.begun = true → s.isOpen = true ∨ s.closed = true
  stopped : s.ioServiceStopped = true → s.closed = true
  unused : s.isOpen = false → s.closed = false →
    s.currentAcceptSocket = none ∧ s.outstanding = []
  opened : s.phase = .opened → s.currentAcceptSocket = none ∧ s.outstanding = []
  handled : s.phase = .handled → s.currentAcceptSocket = none ∧ s.outstanding = []
  accepting : ∀ t, s.phase = .accepting t → s.outstanding = [] ∧
    ∃ socket, s.currentAcceptSocket = some socket
  running : s.phase = .running → s.outstanding = [] ∨ ∃ t socket,
    s.outstanding = [(t, some socket)] ∧ s.currentAcceptSocket = some socket
  unbegun : s.begun = false →
    s.outstanding = [] ∧ s.phase ≠ .handled ∧ ∀ t, s.phase ≠ .accepting t

section

variable {s s' : Acceptor}

/-- Who owns what only depends on four things. -/
theorem owned_congr (h : ∀ socket, s.owners socket = if socket < s.allocated then 1 else 0)
    (hhanded : s'.handed = s.handed) (hdeleted : s'.deleted = s.deleted)
    (hallocated : s'.allocated = s.allocated)
    (hholds : ∀ socket, s'.holds socket = s.holds socket) (socket : ℕ) :
    s'.owners socket = if socket < s'.allocated then 1 else 0 := by
  unfold owners
  rw [hhanded, hdeleted, hallocated, hholds]
  exact h socket

theorem holds_of_phase (hphase : s.phase ≠ .outside) (socket : ℕ) :
    s.holds socket = decide (s.currentAcceptSocket = some socket) := by
  unfold holds
  simp [hphase]

theorem holds_of_none (hnone : s.currentAcceptSocket = none) (socket : ℕ) :
    s.holds socket = false := by
  unfold holds
  simp [hnone]

theorem holds_eq_of_none (hnone : s.currentAcceptSocket = none)
    (hsame : s'.currentAcceptSocket = s.currentAcceptSocket) (socket : ℕ) :
    s'.holds socket = s.holds socket := by
  rw [holds_of_none hnone, holds_of_none (hsame.trans hnone)]

theorem holds_eq_of_phase (hphase : s.phase ≠ .outside) (hphase' : s'.phase ≠ .outside)
    (hsame : s'.currentAcceptSocket = s.currentAcceptSocket) (socket : ℕ) :
    s'.holds socket = s.holds socket := by
  rw [holds_of_phase hphase, holds_of_phase hphase', hsame]

theorem not_unused {isOpen closed : Bool} {P : Prop} (h : isOpen = true ∨ closed = true)
    (hopen : isOpen = false) (hclosed : closed = false) : P := by
  rw [hopen, hclosed] at h
  simp at h

/-- A new socket is held. -/
theorem owned_newSocket (h : ∀ socket, s.owners socket = if socket < s.allocated then 1 else 0)
    (hnone : s.currentAcceptSocket = none) (hhanded : s'.handed = s.handed)
    (hdeleted : s'.deleted = s.deleted) (hallocated : s'.allocated = s.allocated + 1)
    (hphase : s'.phase ≠ .outside) (hcurrent : s'.currentAcceptSocket = some s.allocated)
    (socket : ℕ) : s'.owners socket = if socket < s'.allocated then 1 else 0 := by
  have howners := h socket
  unfold owners at howners ⊢
  rw [holds_of_none hnone] at howners
  rw [hhanded, hdeleted, hallocated, holds_of_phase hphase, hcurrent]
  simp only [Option.some.injEq, decide_eq_true_eq, Bool.false_eq_true, if_false] at howners ⊢
  split_ifs at howners ⊢ <;> omega

theorem inv_create : Inv create where
  owned socket := by simp [owners, holds, create]
  busy := by simp [create]
  stopped := by simp [create]
  unused _ _ := ⟨rfl, rfl⟩
  opened := by simp [create]
  handled := by simp [create]
  accepting := by simp [create]
  running := by simp [create]
  unbegun := by simp [create]

theorem Inv.begun_of (h : s.Inv)
    (hphase : s.outstanding ≠ [] ∨ s.phase = .handled ∨ ∃ t, s.phase = .accepting t) :
    s.begun = true := by
  by_contra hbegun
  obtain ⟨hnothing, hhandled, haccepting⟩ := h.unbegun (Bool.eq_false_iff.mpr hbegun)
  obtain hsome | hphase | ⟨t, hphase⟩ := hphase
  · exact hsome hnothing
  · exact hhandled hphase
  · exact haccepting t hphase

theorem inv_start (h : s.Inv) (opening : Opening) : (s.start opening).Inv := by
  unfold start
  split_ifs with hused
  · exact h
  · obtain ⟨hnone, hnothing⟩ := h.unused (by grind) (by grind)
    cases opening with
    | notOpened => exact h
    | notBound =>
      exact ⟨h.owned, fun _ => .inl rfl, h.stopped, by simp, h.opened, h.handled, h.accepting,
        h.running, h.unbegun⟩
    | listening =>
      exact ⟨owned_congr h.owned rfl rfl rfl (holds_eq_of_none hnone rfl), fun _ => .inl rfl,
        h.stopped, by simp, fun _ => ⟨hnone, hnothing⟩, by simp, by simp, by simp,
        fun _ => ⟨hnothing, by simp, by simp⟩⟩

theorem inv_acceptFirst (h : s.Inv) (hphase : s.phase = .opened) (threadIndex : ℕ) :
    (s.acceptFirst threadIndex).Inv := by
  obtain ⟨hnone, hnothing⟩ := h.opened hphase
  have hbusy := h.busy (.inl (by simp [hphase]))
  unfold acceptFirst
  split_ifs with hclosed
  · exact ⟨owned_congr h.owned rfl rfl rfl (holds_eq_of_none hnone rfl), fun _ => hbusy, h.stopped,
      h.unused, by simp, by simp, by simp, fun _ => .inl hnothing,
      fun _ => ⟨hnothing, by simp, by simp⟩⟩
  · refine ⟨owned_newSocket h.owned hnone rfl rfl rfl (by simp) rfl, fun _ => hbusy, h.stopped,
      not_unused hbusy, by simp, by simp, by simp,
      fun _ => .inr ⟨threadIndex, s.allocated, ?_, rfl⟩, by simp⟩
    show s.outstanding ++ _ = _
    rw [hnothing]
    rfl

theorem inv_handleAccept (h : s.Inv) (hphase : s.phase = .running) {threadIndex : ℕ}
    {socket : Option ℕ} {rest : List (ℕ × Option ℕ)}
    (houtstanding : s.outstanding = (threadIndex, socket) :: rest) (error : Bool) :
    (({ s with outstanding := rest } : Acceptor).handleAccept threadIndex error).Inv := by
  have hbusy := h.busy (.inl (by simp [hphase]))
  have hbegun := h.begun_of (.inl (by simp [houtstanding]))
  obtain hnothing | ⟨t, current, hone, hcurrent⟩ := h.running hphase
  · rw [hnothing] at houtstanding
    cases houtstanding
  rw [hone] at houtstanding
  obtain ⟨-, rfl⟩ := List.cons.inj houtstanding
  unfold handleAccept
  split_ifs
  · exact ⟨h.owned, h.busy, h.stopped, not_unused hbusy, by simp [hphase], by simp [hphase],
      by simp [hphase], fun _ => .inl rfl, by simp [hbegun]⟩
  · refine ⟨fun socket => ?_, fun _ => hbusy, h.stopped, not_unused hbusy, by simp,
      fun _ => ⟨rfl, rfl⟩, by simp, by simp, by simp [hbegun]⟩
    have howned := h.owned socket
    unfold owners at howned ⊢
    rw [holds_of_phase (by simp [hphase]), hcurrent] at howned
    rw [holds_of_none rfl]
    simp only [List.map_append, List.count_append, hcurrent, List.map_cons, List.map_nil,
      List.count_singleton, Option.some.injEq, decide_eq_true_eq, beq_iff_eq, Bool.false_eq_true,
      if_false] at howned ⊢
    split_ifs at howned ⊢ <;> omega

theorem inv_accept (h : s.Inv) (hphase : s.phase = .handled) (threadIndex : ℕ) :
    (s.accept threadIndex).Inv := by
  obtain ⟨hnone, hnothing⟩ := h.handled hphase
  have hbusy := h.busy (.inl (by simp [hphase]))
  have hbegun := h.begun_of (.inr (.inl hphase))
  unfold accept
  split_ifs with hclosed
  · exact ⟨owned_congr h.owned rfl rfl rfl (holds_eq_of_none hnone rfl), fun _ => hbusy, h.stopped,
      h.unused, by simp, by simp, by simp, fun _ => .inl hnothing, by simp [hbegun]⟩
  · exact ⟨owned_newSocket h.owned hnone rfl rfl rfl (by simp) rfl, fun _ => hbusy, h.stopped,
      not_unused hbusy, by simp, by simp, fun _ _ => ⟨hnothing, s.allocated, rfl⟩, by simp,
      by simp [newSocket, hbegun]⟩

theorem inv_onStopIOService (h : s.Inv) (hphase : s.phase = .stopped) : s.onStopIOService.Inv := by
  have hbusy := h.busy (.inl (by simp [hphase]))
  refine ⟨fun socket => ?_, fun _ => hbusy, h.stopped, not_unused hbusy, by simp [onStopIOService],
    by simp [onStopIOService], by simp [onStopIOService], by simp [onStopIOService],
    fun hbegun => ⟨(h.unbegun hbegun).1, by simp [onStopIOService], by simp [onStopIOService]⟩⟩
  have howned := h.owned socket
  unfold owners at howned ⊢
  rw [holds_of_phase (by simp [hphase])] at howned
  have hreturned : s.onStopIOService.holds socket = false := by
    unfold holds onStopIOService
    simp
  rw [hreturned]
  show (s.handed.map Prod.snd).count (some socket) +
    (s.deleted ++ s.currentAcceptSocket.toList).count socket + _ =
      if socket < s.allocated then 1 else 0
  rw [List.count_append, ← howned]
  cases hcurrent : s.currentAcceptSocket with
  | none => simp
  | some current =>
    simp only [Option.toList_some, List.count_singleton, Option.some.injEq, decide_eq_true_eq,
      beq_iff_eq, Bool.false_eq_true, if_false]
    omega

theorem inv_step (h : s.Inv) {e : AcceptorEvent} (hstep : Step s e s') : s'.Inv := by
  cases hstep with
  | start hphase => exact inv_start h _
  | acceptFirst hphase => exact inv_acceptFirst h hphase _
  | accepted hphase houtstanding => exact inv_handleAccept h hphase houtstanding _
  | accept hphase => exact inv_accept h hphase _
  | @lock threadIndex hphase =>
    obtain ⟨hnothing, socket, hcurrent⟩ := h.accepting threadIndex hphase
    have hbusy := h.busy (.inl (by simp [hphase]))
    have hbegun := h.begun_of (.inr (.inr ⟨threadIndex, hphase⟩))
    refine ⟨owned_congr h.owned rfl rfl rfl (holds_eq_of_phase (by simp [hphase]) (by simp) rfl),
      fun _ => hbusy, h.stopped, not_unused hbusy, by simp, by simp, by simp,
      fun _ => .inr ⟨threadIndex, socket, ?_, hcurrent⟩, by simp [asyncAccept, hbegun]⟩
    show s.outstanding ++ [(threadIndex, s.currentAcceptSocket)] = _
    rw [hnothing, hcurrent]
    rfl
  | runReturns hphase hreturns =>
    have hbusy := h.busy (.inl (by simp [hphase]))
    exact ⟨owned_congr h.owned rfl rfl rfl (holds_eq_of_phase (by simp [hphase]) (by simp) rfl),
      fun _ => hbusy, h.stopped, not_unused hbusy, by simp, by simp, by simp, by simp,
      fun hbegun => ⟨(h.unbegun hbegun).1, by simp, by simp⟩⟩
  | onStopIOService hphase => exact inv_onStopIOService h hphase
  | close =>
    exact ⟨h.owned, fun _ => .inr rfl, fun _ => rfl, by simp, h.opened, h.handled, h.accepting,
      h.running, h.unbegun⟩
  | stopIOService hclosed =>
    exact ⟨h.owned, h.busy, fun _ => hclosed, h.unused, h.opened, h.handled, h.accepting,
      h.running, h.unbegun⟩
  | closeAcceptor hstopped hphase =>
    have hclosed := h.stopped hstopped
    exact ⟨h.owned, fun _ => .inr hclosed, h.stopped, not_unused (.inr hclosed), h.opened,
      h.handled, h.accepting, h.running, h.unbegun⟩

/-! ## Whether anybody accepts -/

/-- The thread of `Start` is accepting, or in a handler behind which it will. -/
def Serving (s : Acceptor) : Prop :=
  s.begun = true → s.closed = false →
    (s.phase = .running ∧ ∃ threadIndex socket, s.outstanding = [(threadIndex, some socket)] ∧
      s.currentAcceptSocket = some socket) ∨
    s.phase = .handled ∨ ∃ t, s.phase = .accepting t

theorem Serving.accepts (h : s.Serving) : s.Accepts := fun hbegun hclosed => by
  obtain ⟨-, haccepts⟩ | hhandled | haccepting := h hbegun hclosed
  · exact .inr (.inr haccepts)
  · exact .inl hhandled
  · exact .inr (.inl haccepting)

/-- A step keeps the acceptor serving, unless an accept fails before `Close`. -/
theorem serving_step (h : s.Inv) (hserving : s.Serving) {e : AcceptorEvent} (hstep : Step s e s')
    (hfailure : e = .accepted true → s.closed = true) : s'.Serving := by
  intro hbegun hclosed
  cases hstep with
  | @start opening hphase =>
    have hsame : s.start opening = s := by
      have hbegun' : s.begun = true := by
        unfold start at hbegun
        cases opening <;> split_ifs at hbegun <;> exact hbegun
      exact if_pos (Or.symm (h.busy (.inr hbegun')))
    rw [hsame] at hbegun hclosed ⊢
    exact hserving hbegun hclosed
  | @acceptFirst threadIndex hphase =>
    unfold acceptFirst at hclosed ⊢
    split_ifs at hclosed ⊢ with hwas
    · exact absurd hclosed (by simp [hwas])
    · refine .inl ⟨rfl, threadIndex, s.allocated, ?_, rfl⟩
      show s.outstanding ++ _ = _
      rw [(h.opened hphase).2]
      rfl
  | @accepted error threadIndex socket rest hphase houtstanding =>
    cases error with
    | true => exact absurd hclosed (by simp [handleAccept, hfailure rfl])
    | false => exact .inr (.inl rfl)
  | @accept threadIndex hphase =>
    unfold accept at hclosed ⊢
    split_ifs at hclosed ⊢ with hwas
    · exact absurd hclosed (by simp [hwas])
    · exact .inr (.inr ⟨threadIndex, rfl⟩)
  | @lock threadIndex hphase =>
    obtain ⟨hnothing, socket, hcurrent⟩ := h.accepting threadIndex hphase
    refine .inl ⟨rfl, threadIndex, socket, ?_, hcurrent⟩
    show s.outstanding ++ [(threadIndex, s.currentAcceptSocket)] = _
    rw [hnothing, hcurrent]
    rfl
  | runReturns hphase hreturns =>
    -- the service has work as long as the acceptor serves, and is stopped only by `Close`
    have hopen : s.closed = false := hclosed
    obtain ⟨-, _, _, hone, -⟩ | hhandled | ⟨_, haccepting⟩ := hserving hbegun hclosed
    · obtain hstopped | hnothing := hreturns
      · exact absurd (h.stopped hstopped) (by simp [hopen])
      · rw [hone] at hnothing
        cases hnothing
    · rw [hphase] at hhandled
      cases hhandled
    · rw [hphase] at haccepting
      cases haccepting
  | onStopIOService hphase =>
    obtain ⟨hrunning, -⟩ | hhandled | ⟨_, haccepting⟩ := hserving hbegun hclosed
    · rw [hphase] at hrunning
      cases hrunning
    · rw [hphase] at hhandled
      cases hhandled
    · rw [hphase] at haccepting
      cases haccepting
  | close => exact absurd hclosed (by simp)
  | stopIOService hstopping => exact hserving hbegun hclosed
  | closeAcceptor hstopped hphase => exact hserving hbegun hclosed

/-- A failed accept before `Close` leaves an acceptor that has begun without an accept. -/
theorem not_accepts_of_failure (h : s.Inv) (hstep : Step s (.accepted true) s')
    (hclosed : s.closed = false) : ¬s'.Accepts := by
  intro haccepts
  cases hstep with
  | @accepted _ threadIndex socket rest hphase houtstanding =>
    have hrest : rest = [] := by
      obtain hnothing | ⟨_, _, hone, -⟩ := h.running hphase
      · rw [hnothing] at houtstanding
        cases houtstanding
      · rw [hone] at houtstanding
        exact (List.cons.inj houtstanding).2.symm
    obtain hhandled | ⟨_, haccepting⟩ | ⟨_, _, hone, -⟩ :=
      haccepts (h.begun_of (.inl (by simp [houtstanding]))) hclosed
    · have : s.phase = .handled := hhandled
      rw [hphase] at this
      cases this
    · have : s.phase = .accepting _ := haccepting
      rw [hphase] at this
      cases this
    · have : rest = _ := hone
      rw [hrest] at this
      cases this

end

/-! ## Runs -/

variable {n : ℕ} (x : machine.Execution n)

include x in
theorem inv_states {i : ℕ} (hi : i ≤ n) : (x.states i).Inv := by
  refine (x.run hi).invariant (P := fun _ s => s.Inv) ?_ fun _ _ _ _ _ h hstep =>
    inv_step h (step_of_execute hstep)
  rintro s rfl
  exact inv_create

theorem Inv.isOwned {s : Acceptor} (h : s.Inv) : s.Owned := fun socket hsocket =>
  (h.owned socket).trans (if_pos hsocket)

/-- In a run, somebody accepts until `Close` and every socket has one owner, if and only if no
accept fails before `Close`. -/
theorem keepsAccepting_iff : (∀ i ≤ n, (x.states i).Accepts ∧ (x.states i).Owned) ↔
    ∀ i < n, x.events i = .accepted true → (x.states i).closed = true := by
  refine ⟨fun h i hi hevent => ?_, fun h => ?_⟩
  · have hstep := step_of_execute (x.step i hi)
    rw [hevent] at hstep
    by_contra hclosed
    exact not_accepts_of_failure (inv_states x (Nat.le_of_lt hi)) hstep
      (Bool.eq_false_iff.mpr hclosed) (h (i + 1) hi).1
  · have hserving : ∀ i ≤ n, (x.states i).Serving := by
      intro i
      induction i with
      | zero =>
        intro _
        have hcreate : x.states 0 = create := x.init
        rw [hcreate]
        intro hbegun
        cases hbegun
      | succ i ih =>
        intro hi
        exact serving_step (inv_states x (by omega)) (ih (by omega))
          (step_of_execute (x.step i hi)) (h i hi)
    exact fun i hi => ⟨(hserving i hi).accepts, (inv_states x hi).isOwned⟩

/-- The operating system has no descriptor left for the first connection. -/
theorem accepts_fails : ∃ x : machine.Execution 3,
    (List.range 3).map x.events = [.start .listening, .acceptFirst 0, .accepted true] ∧
    (x.states 3).begun = true ∧ (x.states 3).closed = false ∧ (x.states 3).outstanding = [] ∧
    ¬∀ i ≤ 3, (x.states i).Accepts ∧ (x.states i).Owned := by
  have hplay : (Lib.Machine.play execute create [.start .listening, .acceptFirst 0,
      .accepted true]).isSome = true := by decide
  let x : machine.Execution 3 := .ofPlay (fun _ _ _ h => h) .close rfl hplay
  have hlast : x.states 3 =
      ⟨false, false, true, .running, true, some 0, 1, [], [], []⟩ := rfl
  refine ⟨x, rfl, by rw [hlast], by rw [hlast], by rw [hlast], fun h => ?_⟩
  have haccepts := (h 3 (Nat.le_refl 3)).1
  rw [hlast] at haccepts
  simp [Accepts] at haccepts

end Acceptor

end NetFramework.BaseServer
