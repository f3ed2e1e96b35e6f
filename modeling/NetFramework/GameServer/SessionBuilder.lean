import NetFramework.Lib.Machine
import Mathlib.Data.Option.Basic
import Mathlib.Order.Nat

/-!
# Sessions and their extensions

For every connection the acceptor's thread first creates a session hook, whose extension goes to the
`SessionBuilder` by way of the `SessionExtensionSubject`, and then notifies the builder of the
connection, which takes the extension that it finds. Meanwhile the main thread subscribes the builder
to the acceptor, then to the subject, and then the game to the builder. A session without an
extension gets to the game exactly if a connection is accepted across the last two subscriptions.
-/

namespace NetFramework.GameServer

open Lib

/-- A connection and the extension of its session hook; both are numbered as they are created. -/
structure AcceptedConnection where
  connection : ℕ
  sessionExtension : ℕ
  deriving DecidableEq

/-- A `Session` with its `SessionExtensionAccessor`. -/
structure BuiltSession where
  connection : AcceptedConnection
  sessionExtension : Option ℕ
  deriving DecidableEq

/-- The game is its only observer. -/
structure SessionBuilder where
  subscribed : Bool
  sessionExtension : Option ℕ

namespace SessionBuilder

def create : SessionBuilder := ⟨false, none⟩

def subscribeObserver (builder : SessionBuilder) : SessionBuilder :=
  { builder with subscribed := true }

def notifySessionExtension (builder : SessionBuilder) (sessionExtension : ℕ) : SessionBuilder :=
  { builder with sessionExtension := some sessionExtension }

/-- The builder and the calls of `NotifySession`. -/
def notifyConnection (builder : SessionBuilder) (connection : AcceptedConnection) :
    SessionBuilder × List BuiltSession :=
  ({ builder with sessionExtension := none },
    if builder.subscribed then [⟨connection, builder.sessionExtension⟩] else [])

end SessionBuilder

/-- The start of the server. `acceptor` and `subject` say whether the builder is subscribed to them,
`handling` is the hook's extension while `HandleAccept` runs, and `sessions` is what the game has been
notified of. -/
structure StartUp where
  created : ℕ
  handling : Option ℕ
  accepted : ℕ
  acceptor : Bool
  subject : Bool
  builder : SessionBuilder
  sessions : List BuiltSession

namespace StartUp

def create : StartUp := ⟨0, none, 0, false, false, .create, []⟩

/-- `SessionExtensionSubject::Notify`. -/
def notifySubject (s : StartUp) (sessionExtension : ℕ) : StartUp :=
  if s.subject then { s with builder := s.builder.notifySessionExtension sessionExtension } else s

/-- `SessionHookFactory::Create`. -/
def createSessionHook (s : StartUp) : StartUp :=
  { s.notifySubject s.created with created := s.created + 1, handling := some s.created }

/-- `Acceptor::NotifyObservers`. -/
def notifyObservers (s : StartUp) (connection : AcceptedConnection) : StartUp :=
  if s.acceptor then
    { s with
      builder := (s.builder.notifyConnection connection).1
      sessions := s.sessions ++ (s.builder.notifyConnection connection).2 }
  else s

/-- The steps of `HandleAccept` that matter here, and those of `main`. -/
inductive Event
  | createSessionHook
  | notifyObservers
  | subscribeToAcceptor
  | subscribeToSubject
  | subscribeGame
  deriving DecidableEq

def execute (s : StartUp) : Event → Option StartUp
  | .createSessionHook => if s.handling.isNone then some s.createSessionHook else none
  | .notifyObservers => s.handling.map fun sessionExtension =>
      { s.notifyObservers ⟨s.accepted, sessionExtension⟩ with
        handling := none
        accepted := s.accepted + 1 }
  | .subscribeToAcceptor => if s.acceptor then none else some { s with acceptor := true }
  | .subscribeToSubject =>
    if s.acceptor && !s.subject then some { s with subject := true } else none
  | .subscribeGame =>
    if s.subject && !s.builder.subscribed then
      some { s with builder := s.builder.subscribeObserver }
    else none

def machine : Machine StartUp Event where
  init s := s = create
  step s e s' := s.execute e = some s'

/-! ## One step -/

variable {s s' : StartUp} {e : Event}

theorem createSessionHook_of_step (h : s.execute .createSessionHook = some s') :
    s.handling = none ∧ s'.handling = some s.created ∧ s'.builder.sessionExtension =
      (if s.subject then some s.created else s.builder.sessionExtension) ∧
        s'.sessions = s.sessions := by
  change (if s.handling.isNone then some s.createSessionHook else none) = some s' at h
  split_ifs at h with hnone
  cases h
  refine ⟨Option.isNone_iff_eq_none.mp hnone, rfl, ?_, ?_⟩ <;>
    unfold createSessionHook notifySubject <;> dsimp only <;> split_ifs <;> rfl

theorem notifyObservers_of_step (h : s.execute .notifyObservers = some s') :
    ∃ sessionExtension, s.handling = some sessionExtension ∧ s'.handling = none ∧
      (s.acceptor = true → s'.builder.sessionExtension = none ∧ s'.sessions = s.sessions ++
        if s.builder.subscribed then
          [⟨⟨s.accepted, sessionExtension⟩, s.builder.sessionExtension⟩] else []) ∧
      (s.acceptor = false → s'.builder = s.builder ∧ s'.sessions = s.sessions) := by
  obtain ⟨sessionExtension, hhandling, rfl⟩ := Option.map_eq_some_iff.mp h
  refine ⟨sessionExtension, hhandling, rfl, fun hacceptor => ?_, fun hacceptor => ?_⟩
  · unfold notifyObservers
    rw [if_pos hacceptor]
    exact ⟨rfl, rfl⟩
  · unfold notifyObservers
    rw [hacceptor]
    exact ⟨rfl, rfl⟩

/-- The steps of `main` do not touch what the acceptor's thread is about. -/
theorem main_of_step (h : s.execute e = some s') (hcreate : e ≠ .createSessionHook)
    (hnotify : e ≠ .notifyObservers) : s'.handling = s.handling ∧
      s'.builder.sessionExtension = s.builder.sessionExtension ∧ s'.sessions = s.sessions := by
  cases e with
  | createSessionHook => exact absurd rfl hcreate
  | notifyObservers => exact absurd rfl hnotify
  | subscribeToAcceptor | subscribeToSubject | subscribeGame =>
    dsimp only [execute] at h
    split_ifs at h
    cases h
    exact ⟨rfl, rfl, rfl⟩

/-- `main` subscribes in order, and the builder has no extension but that of the connection that is
being accepted, if it is subscribed to the subject. -/
structure Sound (s : StartUp) : Prop where
  acceptor : s.subject = true → s.acceptor = true
  game : s.builder.subscribed = true → s.subject = true
  unsubscribed : s.subject = false → s.builder.sessionExtension = none
  idle : s.handling = none → s.builder.sessionExtension = none

theorem sound_create : create.Sound := ⟨nofun, nofun, fun _ => rfl, fun _ => rfl⟩

theorem Sound.step (h : s.Sound) (hstep : s.execute e = some s') : s'.Sound := by
  cases e with
  | createSessionHook =>
    change (if s.handling.isNone then some s.createSessionHook else none) = some s' at hstep
    split_ifs at hstep
    cases hstep
    unfold createSessionHook notifySubject
    split_ifs with hsubject
    · exact ⟨h.acceptor, h.game, fun hnot => absurd (hsubject.symm.trans hnot) nofun, nofun⟩
    · exact ⟨h.acceptor, h.game, h.unsubscribed, nofun⟩
  | notifyObservers =>
    obtain ⟨sessionExtension, -, rfl⟩ := Option.map_eq_some_iff.mp hstep
    unfold notifyObservers
    split_ifs with hacceptor
    · exact ⟨h.acceptor, h.game, fun _ => rfl, fun _ => rfl⟩
    · have hsubject : s.subject = false := Bool.eq_false_iff.mpr fun hs => hacceptor (h.acceptor hs)
      exact ⟨h.acceptor, h.game, h.unsubscribed, fun _ => h.unsubscribed hsubject⟩
  | subscribeToAcceptor =>
    dsimp only [execute] at hstep
    split_ifs at hstep
    cases hstep
    exact ⟨fun _ => rfl, h.game, h.unsubscribed, h.idle⟩
  | subscribeToSubject =>
    dsimp only [execute] at hstep
    split_ifs at hstep with hacceptor
    cases hstep
    exact ⟨fun _ => (Bool.and_eq_true_iff.mp hacceptor).1, fun _ => rfl, nofun, h.idle⟩
  | subscribeGame =>
    dsimp only [execute] at hstep
    split_ifs at hstep with hsubject
    cases hstep
    exact ⟨h.acceptor, fun _ => (Bool.and_eq_true_iff.mp hsubject).1, h.unsubscribed, h.idle⟩

/-! ## Runs -/

variable {n : ℕ} (x : machine.Execution n)

/-- Every session that reaches the game has the extension of its own connection. -/
def Paired : Prop :=
  ∀ i ≤ n, ∀ session ∈ (x.states i).sessions,
    session.sessionExtension = some session.connection.sessionExtension

/-- The step `b` notifies of the connection whose hook the step `a` has created. -/
def Handles (a b : ℕ) : Prop :=
  a < b ∧ x.events a = .createSessionHook ∧ x.events b = .notifyObservers ∧
    ∀ i, a < i → i < b → x.events i ≠ .notifyObservers

variable {x}

theorem sound_of_execution {i : ℕ} (hi : i ≤ n) : (x.states i).Sound := by
  induction i with
  | zero =>
    rw [show x.states 0 = create from x.init]
    exact sound_create
  | succ i ih => exact (ih (Nat.le_of_succ_le hi)).step (x.step i hi)

/-- A connection that is being accepted has been begun with. -/
theorem exists_createSessionHook {i sessionExtension : ℕ} (hi : i ≤ n)
    (h : (x.states i).handling = some sessionExtension) :
    ∃ a < i, x.events a = .createSessionHook ∧
      ∀ j, a < j → j < i → x.events j ≠ .notifyObservers := by
  induction i with
  | zero =>
    rw [show x.states 0 = create from x.init] at h
    cases h
  | succ i ih =>
    have hstep : (x.states i).execute (x.events i) = some (x.states (i + 1)) := x.step i hi
    by_cases hcreate : x.events i = .createSessionHook
    · exact ⟨i, i.lt_succ_self, hcreate, fun j hij hji => absurd hji (by omega)⟩
    by_cases hnotify : x.events i = .notifyObservers
    · rw [hnotify] at hstep
      obtain ⟨_, -, hidle, -⟩ := notifyObservers_of_step hstep
      rw [hidle] at h
      cases h
    · obtain ⟨hhandling, -⟩ := main_of_step hstep hcreate hnotify
      obtain ⟨a, ha, hcreated, hnone⟩ := ih (Nat.le_of_succ_le hi) (hhandling ▸ h)
      refine ⟨a, Nat.lt_succ_of_lt ha, hcreated, fun j haj hj => ?_⟩
      rcases Nat.lt_succ_iff_lt_or_eq.mp hj with hlt | rfl
      · exact hnone j haj hlt
      · exact hnotify

/-- What the builder has when it is notified of a connection: the extension of that connection, if
it has been subscribed to the subject in time. -/
theorem sessionExtension_of_handles {a b : ℕ} (hb : b < n) (h : Handles x a b) :
    ∃ sessionExtension, (x.states b).handling = some sessionExtension ∧
      (x.states b).builder.sessionExtension =
        if (x.states a).subject then some sessionExtension else none := by
  obtain ⟨hab, hcreate, -, hnone⟩ := h
  have hfirst : (x.states a).execute .createSessionHook = some (x.states (a + 1)) :=
    hcreate ▸ x.step a (hab.trans hb)
  obtain ⟨hidle, hhandling, hextension, -⟩ := createSessionHook_of_step hfirst
  rw [(sound_of_execution (hab.trans hb).le).idle hidle] at hextension
  refine ⟨(x.states a).created, ?_⟩
  have hstays (i : ℕ) (hai : a + 1 ≤ i) (hib : i ≤ b) :
      (x.states i).handling = some (x.states a).created ∧
        (x.states i).builder.sessionExtension =
          if (x.states a).subject then some (x.states a).created else none := by
    induction i, hai using Nat.le_induction with
    | base => exact ⟨hhandling, hextension⟩
    | succ i hai ih =>
      obtain ⟨hsome, hsame⟩ := ih (Nat.le_of_succ_le hib)
      have hstep : (x.states i).execute (x.events i) = some (x.states (i + 1)) :=
        x.step i (Nat.lt_of_lt_of_le hib hb.le)
      have hnotCreate : x.events i ≠ .createSessionHook := fun hevent => by
        rw [hevent] at hstep
        rw [(createSessionHook_of_step hstep).1] at hsome
        cases hsome
      obtain ⟨hhandling', hextension', -⟩ := main_of_step hstep hnotCreate (hnone i hai hib)
      exact ⟨hhandling'.trans hsome, hextension'.trans hsame⟩
  exact hstays b hab le_rfl

/-- What the game is notified of with the connection that `a` and `b` accept. -/
theorem sessions_of_handles {a b : ℕ} (hb : b < n) (h : Handles x a b) :
    ∃ accepted sessionExtension, (x.states (b + 1)).sessions = (x.states b).sessions ++
      if (x.states b).builder.subscribed then [⟨⟨accepted, sessionExtension⟩,
        if (x.states a).subject then some sessionExtension else none⟩] else [] := by
  have hstep : (x.states b).execute .notifyObservers = some (x.states (b + 1)) :=
    h.2.2.1 ▸ x.step b hb
  obtain ⟨sessionExtension, hhandling, hextension⟩ := sessionExtension_of_handles hb h
  obtain ⟨sessionExtension', hhandling', -, hsubscribed, hunsubscribed⟩ :=
    notifyObservers_of_step hstep
  cases hhandling.symm.trans hhandling'
  refine ⟨(x.states b).accepted, sessionExtension, ?_⟩
  cases hacceptor : (x.states b).acceptor with
  | true => rw [(hsubscribed hacceptor).2, hextension]
  | false =>
    have hsound : (x.states b).Sound := sound_of_execution hb.le
    have hgame : ¬(x.states b).builder.subscribed = true := fun hgame =>
      Bool.false_ne_true (hacceptor.symm.trans (hsound.acceptor (hsound.game hgame)))
    rw [(hunsubscribed hacceptor).2, if_neg hgame, List.append_nil]

variable (x) in
/-- A connection whose extension is created before the builder is subscribed to the subject, and of
which the builder is notified after the game has been subscribed to it. -/
def Straddles : Prop :=
  ∃ a b, b < n ∧ Handles x a b ∧ (x.states a).subject = false ∧
    (x.states b).builder.subscribed = true

/-- **The pairing of sessions.** Every session that reaches the game has the extension of its own
connection exactly if no connection is accepted across the last two subscriptions. -/
theorem paired_iff (x : machine.Execution n) : Paired x ↔ ¬Straddles x := by
  constructor
  · rintro h ⟨a, b, hb, hhandles, hsubject, hgame⟩
    obtain ⟨accepted, sessionExtension, hsessions⟩ := sessions_of_handles hb hhandles
    rw [hsubject, if_pos hgame, if_neg Bool.false_ne_true] at hsessions
    have hmem : (⟨⟨accepted, sessionExtension⟩, none⟩ : BuiltSession) ∈
        (x.states (b + 1)).sessions := by
      rw [hsessions]
      exact List.mem_append_right _ (List.mem_singleton_self _)
    exact absurd (h (b + 1) hb _ hmem) nofun
  · intro h i hi
    induction i with
    | zero =>
      rw [show x.states 0 = create from x.init]
      nofun
    | succ i ih =>
      intro session hsession
      have hold := ih (Nat.le_of_succ_le hi)
      have hstep : (x.states i).execute (x.events i) = some (x.states (i + 1)) := x.step i hi
      by_cases hcreate : x.events i = .createSessionHook
      · rw [hcreate] at hstep
        rw [(createSessionHook_of_step hstep).2.2.2] at hsession
        exact hold session hsession
      by_cases hnotify : x.events i = .notifyObservers
      swap
      · rw [(main_of_step hstep hcreate hnotify).2.2] at hsession
        exact hold session hsession
      rw [hnotify] at hstep
      obtain ⟨_, hhandling, -⟩ := notifyObservers_of_step hstep
      obtain ⟨a, ha, hcreated, hnone⟩ := exists_createSessionHook (Nat.le_of_succ_le hi) hhandling
      have hhandles : Handles x a i := ⟨ha, hcreated, hnotify, hnone⟩
      obtain ⟨accepted, sessionExtension, hsessions⟩ := sessions_of_handles hi hhandles
      rw [hsessions] at hsession
      rcases List.mem_append.mp hsession with hbefore | hnew
      · exact hold session hbefore
      split_ifs at hnew with hgame hsubject
      · rw [List.mem_singleton.mp hnew]
      · exact absurd ⟨a, i, hi, hhandles, Bool.eq_false_iff.mpr hsubject, hgame⟩ h
      · cases hnew

/-- A connection that is accepted while `main` subscribes. -/
def accepting : List Event :=
  [.subscribeToAcceptor, .createSessionHook, .subscribeToSubject, .subscribeGame, .notifyObservers]

/-- It becomes a session without an extension. -/
theorem unpaired_of_accepting : ∃ x : machine.Execution accepting.length,
    (x.states 5).sessions = [⟨⟨0, 0⟩, none⟩] ∧ ¬Paired x := by
  have hplay : (Machine.play execute create accepting).isSome = true := rfl
  let x : machine.Execution accepting.length :=
    .ofPlay (fun _ _ _ h => h) .createSessionHook rfl hplay
  have hsessions : (x.states 5).sessions = [⟨⟨0, 0⟩, none⟩] := rfl
  refine ⟨x, hsessions, fun h => ?_⟩
  exact absurd (h 5 (by decide) ⟨⟨0, 0⟩, none⟩ (by rw [hsessions]; exact List.mem_cons_self)) nofun

end StartUp

end NetFramework.GameServer
