import Mathlib.Data.Nat.Find
import NetFramework.BaseServer.Acceptor

/-!
# Connecting to one of several addresses

`AsyncConnect` starts an attempt at one address, and the `HandleConnect` of a failed attempt calls
it for the next one. Neither looks at what it is given: `ipAddresses[0]` is read of an empty vector
too, and `address::from_string` throws for a string that is not an address. `reportsOnce_iff` says
for which lists the callback is called once all the same. How `from_string` reads a string is the
parameter `fromString`.
-/

namespace NetFramework.Connector

/-- How a function is left other than by returning. -/
inductive Escape
  | outOfRange
  | systemError
  deriving DecidableEq, Repr

/-- A call of `onConnectCallback`. -/
structure OnConnect where
  hasError : Bool
  errorValue : ℤ
  connectionId : ℕ
  deriving DecidableEq, Repr

variable {Address C : Type}

/-- A call of `AsyncConnect` in progress. `tried` lists the endpoints of `async_connect`, `handler`
is the index `HandleConnect` is bound to while an attempt is outstanding, and `added` lists the
connections given to a network thread. -/
structure Connecting (Address C : Type) where
  tried : List (Address × UInt16)
  handler : Option ℕ
  connections : List (Option C)
  added : List (ℕ × C)
  callbacks : List OnConnect
  deriving DecidableEq, Repr

/-- How an attempt ends, and what `m_Connections` holds by then: other calls add to it, and
`CloseConnection` clears entries. -/
structure Completion (C : Type) where
  error : Option ℤ
  connections : List (Option C)

/-- What `AsyncConnect` looks at of the manager. -/
structure ConnectionManager (C : Type) where
  threadCount : ℕ
  connectionsCount : ℕ → UInt32
  connections : List (Option C)

def ConnectionManager.selectThreadWithMinConnections (manager : ConnectionManager C) : ℕ :=
  (List.range' 1 (manager.threadCount - 1)).foldl
    (fun min i =>
      if manager.connectionsCount i < manager.connectionsCount min then i else min) 0

section

variable (fromString : String → Option Address) (ipAddresses : List String) (port : UInt16)

/-- The private `AsyncConnect`. -/
def asyncConnect (index : ℕ) (s : Connecting Address C) : Except Escape (Connecting Address C) :=
  match ipAddresses[index]? with
  | none => .error .outOfRange
  | some ipAddress =>
    match fromString ipAddress with
    | none => .error .systemError
    | some address => .ok { s with
        tried := s.tried ++ [(address, port)]
        handler := some (index + 1) }

variable (newConnection : C) (threadIndex : ℕ)

/-- `HandleConnect`, for the attempt that is outstanding. -/
def handleConnect (completion : Completion C) (s : Connecting Address C) :
    Except Escape (Connecting Address C) :=
  match s.handler with
  | none => .ok s
  | some index =>
    let s := { s with handler := none, connections := completion.connections }
    match completion.error with
    | none => .ok { s with
        added := s.added ++ [(threadIndex, newConnection)]
        connections := s.connections ++ [some newConnection]
        callbacks := s.callbacks ++ [⟨false, 0, s.connections.length⟩] }
    | some error =>
      if index < ipAddresses.length then asyncConnect fromString ipAddresses port index s
      else .ok { s with callbacks := s.callbacks ++ [⟨true, error, 0⟩] }

variable (manager : ConnectionManager C) (completions : ℕ → Completion C)

/-- The public `AsyncConnect` of a started manager, with `newConnection` as the connection it
creates on the socket of the selected thread. -/
def connectionManagerAsyncConnect : Except Escape (Connecting Address C) :=
  if manager.selectThreadWithMinConnections < manager.threadCount then
    asyncConnect fromString ipAddresses port 0 ⟨[], none, manager.connections, [], []⟩
  else .error .outOfRange

/-- After the completions of the first `n` attempts. -/
def after : ℕ → Except Escape (Connecting Address C)
  | 0 => connectionManagerAsyncConnect fromString ipAddresses port manager
  | n + 1 => do
    let s ← after n
    handleConnect fromString ipAddresses port newConnection
      manager.selectThreadWithMinConnections (completions n) s

/-- The endpoints that can be tried. -/
def endpoints : List (Address × UInt16) :=
  ipAddresses.filterMap fun ipAddress => (fromString ipAddress).map fun address => (address, port)

/-- The endpoints have been tried up to the first success, and the callback has told so. -/
def Reported (s : Connecting Address C) : Prop :=
  (∃ k < (endpoints fromString ipAddresses port).length,
    (∀ j < k, (completions j).error ≠ none) ∧ (completions k).error = none ∧
    s.tried = (endpoints fromString ipAddresses port).take (k + 1) ∧
    ∃ connectionId threadIndex, s.callbacks = [⟨false, 0, connectionId⟩] ∧
      s.connections[connectionId]? = some (some newConnection) ∧
      threadIndex < manager.threadCount ∧ s.added = [(threadIndex, newConnection)]) ∨
  ((∀ j < (endpoints fromString ipAddresses port).length, (completions j).error ≠ none) ∧
    s.tried = endpoints fromString ipAddresses port ∧
    ∃ errorValue, s.callbacks = [⟨true, errorValue, 0⟩] ∧ s.added = [])

/-- Nothing escapes, and once there can be no further attempt the callback has been called once. -/
structure ReportsOnce : Prop where
  returns : ∀ n, ∃ s, after fromString ipAddresses port newConnection manager completions n = .ok s
  once : ∀ n s, after fromString ipAddresses port newConnection manager completions n = .ok s →
    s.callbacks.length ≤ 1
  reported : ∀ n ≥ ipAddresses.length, ∀ s,
    after fromString ipAddresses port newConnection manager completions n = .ok s →
      s.handler = none ∧
        Reported fromString ipAddresses port newConnection manager completions s

/-- There are addresses, and those up to the first success can be read. -/
structure Connectable : Prop where
  thread : 0 < manager.threadCount
  nonempty : ipAddresses ≠ []
  valid : ∀ i ipAddress, ipAddresses[i]? = some ipAddress →
    (∀ j < i, (completions j).error ≠ none) → fromString ipAddress ≠ none

end

section

variable {fromString : String → Option Address} {ipAddresses : List String} {port : UInt16}
  {newConnection : C} {manager : ConnectionManager C} {completions : ℕ → Completion C}

theorem selectThreadWithMinConnections_lt (h : 0 < manager.threadCount) :
    manager.selectThreadWithMinConnections < manager.threadCount := by
  have hle := (BaseServer.foldl_min_spec manager.connectionsCount (manager.threadCount - 1)).1
  unfold ConnectionManager.selectThreadWithMinConnections
  omega

/-! ## Attempts -/

theorem after_succ {n : ℕ} {s : Connecting Address C}
    (h : after fromString ipAddresses port newConnection manager completions n = .ok s) :
    after fromString ipAddresses port newConnection manager completions (n + 1) =
      handleConnect fromString ipAddresses port newConnection
        manager.selectThreadWithMinConnections (completions n) s := by
  unfold after
  rw [h]
  rfl

/-- Without an attempt nothing happens any more. -/
theorem after_of_idle {n m : ℕ} {s : Connecting Address C}
    (h : after fromString ipAddresses port newConnection manager completions n = .ok s)
    (hidle : s.handler = none) (hm : n ≤ m) :
    after fromString ipAddresses port newConnection manager completions m = .ok s := by
  induction m, hm using Nat.le_induction with
  | base => exact h
  | succ m hm ih =>
    rw [after_succ ih]
    unfold handleConnect
    rw [hidle]

/-- The endpoints of the first `n` addresses. -/
def front (fromString : String → Option Address) (ipAddresses : List String) (port : UInt16)
    (n : ℕ) : List (Address × UInt16) :=
  endpoints fromString (ipAddresses.take n) port

theorem front_succ {n : ℕ} {ipAddress : String} {address : Address}
    (h : ipAddresses[n]? = some ipAddress) (haddress : fromString ipAddress = some address) :
    front fromString ipAddresses port (n + 1) =
      front fromString ipAddresses port n ++ [(address, port)] := by
  unfold front endpoints
  rw [List.take_add_one, h, List.filterMap_append]
  simp [haddress]

/-- The first `k` addresses can be read. -/
def ValidBelow (fromString : String → Option Address) (ipAddresses : List String) (k : ℕ) : Prop :=
  ∀ i < k, ∀ ipAddress, ipAddresses[i]? = some ipAddress → fromString ipAddress ≠ none

theorem ValidBelow.mono {k l : ℕ} (h : ValidBelow fromString ipAddresses k) (hl : l ≤ k) :
    ValidBelow fromString ipAddresses l :=
  fun i hi => h i (by omega)

theorem ValidBelow.exists {k n : ℕ} (h : ValidBelow fromString ipAddresses k) (hn : n < k)
    (hk : k ≤ ipAddresses.length) :
    ∃ ipAddress address, ipAddresses[n]? = some ipAddress ∧ fromString ipAddress = some address := by
  have hget : ipAddresses[n]? = some ipAddresses[n] := List.getElem?_eq_getElem (by omega)
  obtain ⟨address, haddress⟩ := Option.ne_none_iff_exists'.mp (h n hn _ hget)
  exact ⟨_, address, hget, haddress⟩

/-- What has been tried of readable addresses is the front of what can be tried. -/
theorem front_eq_take {k : ℕ} (h : ValidBelow fromString ipAddresses k)
    (hk : k ≤ ipAddresses.length) :
    front fromString ipAddresses port k = (endpoints fromString ipAddresses port).take k ∧
      k ≤ (endpoints fromString ipAddresses port).length := by
  have hlength : ∀ n ≤ k, (front fromString ipAddresses port n).length = n := by
    intro n hn
    induction n with
    | zero => rfl
    | succ n ih =>
      obtain ⟨ipAddress, address, hget, haddress⟩ := h.exists hn hk
      rw [front_succ hget haddress, List.length_append, ih (by omega)]
      rfl
  have hsplit : endpoints fromString ipAddresses port =
      front fromString ipAddresses port k ++ endpoints fromString (ipAddresses.drop k) port := by
    unfold front endpoints
    rw [← List.filterMap_append, List.take_append_drop]
  rw [hsplit, List.take_left' (hlength k le_rfl), List.length_append, hlength k le_rfl]
  exact ⟨rfl, Nat.le_add_right ..⟩

theorem asyncConnect_of_valid {n : ℕ} {connections : List (Option C)}
    (hvalid : ValidBelow fromString ipAddresses (n + 1)) (hn : n < ipAddresses.length) :
    asyncConnect fromString ipAddresses port n
      ⟨front fromString ipAddresses port n, none, connections, [], []⟩ =
        .ok ⟨front fromString ipAddresses port (n + 1), some (n + 1), connections, [], []⟩ := by
  obtain ⟨ipAddress, address, hget, haddress⟩ := hvalid.exists (Nat.lt_succ_self n) hn
  unfold asyncConnect
  rw [front_succ hget haddress, hget]
  simp only [haddress]

theorem asyncConnect_of_invalid {n : ℕ} {ipAddress : String} {s : Connecting Address C}
    (hget : ipAddresses[n]? = some ipAddress) (hinvalid : fromString ipAddress = none) :
    asyncConnect fromString ipAddresses port n s = .error .systemError := by
  unfold asyncConnect
  rw [hget]
  simp only [hinvalid]

/-- Attempts that fail lead to the next address, whether it can be read or not. -/
theorem after_failures (hthread : 0 < manager.threadCount) {n : ℕ} (hn : n < ipAddresses.length)
    (herrors : ∀ j < n, (completions j).error ≠ none)
    (hvalid : ValidBelow fromString ipAddresses n) :
    ∃ connections, after fromString ipAddresses port newConnection manager completions n =
      asyncConnect fromString ipAddresses port n
        ⟨front fromString ipAddresses port n, none, connections, [], []⟩ := by
  induction n with
  | zero =>
    refine ⟨manager.connections, ?_⟩
    unfold after connectionManagerAsyncConnect
    rw [if_pos (selectThreadWithMinConnections_lt hthread)]
    rfl
  | succ n ih =>
    obtain ⟨connections, hafter⟩ := ih (by omega) (fun j hj => herrors j (by omega))
      (hvalid.mono (Nat.le_succ n))
    obtain ⟨error, herror⟩ := Option.ne_none_iff_exists'.mp (herrors n (Nat.lt_succ_self n))
    refine ⟨(completions n).connections, ?_⟩
    rw [after_succ (hafter.trans (asyncConnect_of_valid hvalid (by omega)))]
    unfold handleConnect
    simp only [herror, if_pos hn]

/-- The attempt at a readable address is outstanding. -/
theorem after_waiting (hthread : 0 < manager.threadCount) {n : ℕ} (hn : n < ipAddresses.length)
    (herrors : ∀ j < n, (completions j).error ≠ none)
    (hvalid : ValidBelow fromString ipAddresses (n + 1)) :
    ∃ connections, after fromString ipAddresses port newConnection manager completions n =
      .ok ⟨front fromString ipAddresses port (n + 1), some (n + 1), connections, [], []⟩ := by
  obtain ⟨connections, hafter⟩ := after_failures hthread hn herrors (hvalid.mono (Nat.le_succ n))
  exact ⟨connections, hafter.trans (asyncConnect_of_valid hvalid hn)⟩

/-- The first attempt that succeeds is reported. -/
theorem after_success (hthread : 0 < manager.threadCount) {k : ℕ} (hk : k < ipAddresses.length)
    (herrors : ∀ j < k, (completions j).error ≠ none) (hsuccess : (completions k).error = none)
    (hvalid : ValidBelow fromString ipAddresses (k + 1)) :
    ∃ s, after fromString ipAddresses port newConnection manager completions (k + 1) = .ok s ∧
      s.handler = none ∧ s.callbacks.length ≤ 1 ∧
        Reported fromString ipAddresses port newConnection manager completions s := by
  obtain ⟨connections, hwaiting⟩ := after_waiting hthread hk herrors hvalid
  obtain ⟨hfront, hlength⟩ := front_eq_take hvalid hk
  rw [after_succ hwaiting]
  unfold handleConnect
  simp only [hsuccess]
  refine ⟨_, rfl, rfl, le_rfl, .inl ⟨k, hlength, herrors, hsuccess, hfront,
    (completions k).connections.length, _, rfl, ?_, selectThreadWithMinConnections_lt hthread,
    rfl⟩⟩
  exact List.getElem?_concat_length

/-- Where all attempts fail, the last error is reported. -/
theorem after_all_failures (hthread : 0 < manager.threadCount) (hnonempty : ipAddresses ≠ [])
    (herrors : ∀ j < ipAddresses.length, (completions j).error ≠ none)
    (hvalid : ValidBelow fromString ipAddresses ipAddresses.length) :
    ∃ s, after fromString ipAddresses port newConnection manager completions
        ipAddresses.length = .ok s ∧
      s.handler = none ∧ s.callbacks.length ≤ 1 ∧
        Reported fromString ipAddresses port newConnection manager completions s := by
  obtain ⟨hfront, hlength⟩ := front_eq_take hvalid le_rfl
  have hle : (endpoints fromString ipAddresses port).length ≤ ipAddresses.length :=
    List.length_filterMap_le ..
  rw [List.take_of_length_le hle] at hfront
  obtain ⟨last, hlast⟩ := Nat.exists_eq_succ_of_ne_zero (mt List.length_eq_zero_iff.mp hnonempty)
  obtain ⟨connections, hwaiting⟩ := after_waiting hthread
    (show last < ipAddresses.length by omega) (fun j hj => herrors j (by omega))
    (hlast ▸ hvalid)
  obtain ⟨error, herror⟩ := Option.ne_none_iff_exists'.mp (herrors last (by omega))
  rw [hlast, after_succ hwaiting]
  unfold handleConnect
  simp only [herror, hlast, Nat.succ_eq_add_one, lt_irrefl, if_false]
  refine ⟨_, rfl, rfl, le_rfl, .inr ⟨fun j hj => herrors j (by omega), ?_, error, rfl, rfl⟩⟩
  rw [← hfront, hlast]

/-! ## One callback -/

/-- Attempts up to `stop` of which the last one is reported. -/
theorem reportsOnce_of_stop {stop : ℕ} (hstop : stop ≤ ipAddresses.length)
    (hwaiting : ∀ n < stop, ∃ s,
      after fromString ipAddresses port newConnection manager completions n = .ok s ∧
        s.callbacks = [])
    (hend : ∃ s, after fromString ipAddresses port newConnection manager completions stop = .ok s ∧
      s.handler = none ∧ s.callbacks.length ≤ 1 ∧
        Reported fromString ipAddresses port newConnection manager completions s) :
    ReportsOnce fromString ipAddresses port newConnection manager completions := by
  obtain ⟨last, hlast, hidle, honce, hreported⟩ := hend
  have hafter : ∀ n ≥ stop,
      after fromString ipAddresses port newConnection manager completions n = .ok last :=
    fun n hn => after_of_idle hlast hidle hn
  refine ⟨fun n => ?_, fun n s hs => ?_, fun n hn s hs => ?_⟩
  · obtain hlt | hge := lt_or_ge n stop
    · obtain ⟨s, hs, -⟩ := hwaiting n hlt
      exact ⟨s, hs⟩
    · exact ⟨last, hafter n hge⟩
  · obtain hlt | hge := lt_or_ge n stop
    · obtain ⟨s', hs', hnone⟩ := hwaiting n hlt
      obtain rfl := Except.ok.inj (hs.symm.trans hs')
      rw [hnone]
      exact Nat.zero_le 1
    · obtain rfl := Except.ok.inj (hs.symm.trans (hafter n hge))
      exact honce
  · obtain rfl := Except.ok.inj (hs.symm.trans (hafter n (hstop.trans hn)))
    exact ⟨hidle, hreported⟩

/-- The addresses before the first success, and where all fail all of them, are readable. -/
theorem Connectable.validBelow (h : Connectable fromString ipAddresses manager completions) {k : ℕ}
    (herrors : ∀ j, j + 1 < k → (completions j).error ≠ none) :
    ValidBelow fromString ipAddresses k :=
  fun i hi ipAddress hget => h.valid i ipAddress hget fun j hj => herrors j (by omega)

theorem reportsOnce_of_connectable
    (h : Connectable fromString ipAddresses manager completions) :
    ReportsOnce fromString ipAddresses port newConnection manager completions := by
  -- before an attempt succeeds, and where there is one behind it, the next one is outstanding
  have hwaiting : ∀ stop ≤ ipAddresses.length, (∀ j, j + 1 < stop → (completions j).error ≠ none) →
      ∀ n < stop, ∃ s,
        after fromString ipAddresses port newConnection manager completions n = .ok s ∧
          s.callbacks = [] := by
    intro stop hstop herrors n hn
    obtain ⟨connections, hafter⟩ := after_waiting h.thread (show n < ipAddresses.length by omega)
      (fun j hj => herrors j (by omega)) (h.validBelow fun j hj => herrors j (by omega))
    exact ⟨_, hafter, rfl⟩
  by_cases hsome : ∃ k, k < ipAddresses.length ∧ (completions k).error = none
  · classical
    obtain ⟨hk, hsuccess⟩ := Nat.find_spec hsome
    have herrors : ∀ j < Nat.find hsome, (completions j).error ≠ none :=
      fun j hj hnone => Nat.find_min hsome hj ⟨by omega, hnone⟩
    exact reportsOnce_of_stop hk (hwaiting _ hk fun j hj => herrors j (by omega))
      (after_success h.thread hk herrors hsuccess
        (h.validBelow fun j hj => herrors j (by omega)))
  · have herrors : ∀ j < ipAddresses.length, (completions j).error ≠ none :=
      fun j hj hnone => hsome ⟨j, hj, hnone⟩
    exact reportsOnce_of_stop le_rfl (hwaiting _ le_rfl fun j hj => herrors j (by omega))
      (after_all_failures h.thread h.nonempty herrors
        (h.validBelow fun j hj => herrors j (by omega)))

theorem connectable_of_returns
    (h : ∀ n, ∃ s, after fromString ipAddresses port newConnection manager completions n = .ok s) :
    Connectable fromString ipAddresses manager completions := by
  have hthread : 0 < manager.threadCount := by
    by_contra hnone
    obtain ⟨s, hs⟩ := h 0
    unfold after connectionManagerAsyncConnect at hs
    rw [if_neg (by omega)] at hs
    cases hs
  refine ⟨hthread, ?_, fun i => ?_⟩
  · rintro rfl
    obtain ⟨s, hs⟩ := h 0
    unfold after connectionManagerAsyncConnect at hs
    rw [if_pos (selectThreadWithMinConnections_lt hthread)] at hs
    cases hs
  · induction i using Nat.strong_induction_on with
    | _ i ih =>
      intro ipAddress hget herrors hinvalid
      have hi : i < ipAddresses.length := by
        by_contra hbeyond
        rw [List.getElem?_eq_none (by omega)] at hget
        cases hget
      have hvalid : ValidBelow fromString ipAddresses i := fun j hj ipAddress' hget' =>
        ih j hj ipAddress' hget' fun l hl => herrors l (by omega)
      obtain ⟨connections, hafter⟩ := after_failures hthread hi herrors hvalid
      obtain ⟨s, hs⟩ := h i
      rw [hafter, asyncConnect_of_invalid hget hinvalid] at hs
      cases hs

end

/-- The callback is called once, and nothing escapes, if and only if there is an address to try and
those up to the first success can be read. -/
theorem reportsOnce_iff (fromString : String → Option Address) (ipAddresses : List String)
    (port : UInt16) (newConnection : C) (manager : ConnectionManager C)
    (completions : ℕ → Completion C) :
    ReportsOnce fromString ipAddresses port newConnection manager completions ↔
      Connectable fromString ipAddresses manager completions :=
  ⟨fun h => connectable_of_returns h.returns, reportsOnce_of_connectable⟩

/-- An empty list is indexed, and so does a host name lead to an exception. -/
theorem reportsOnce_fails :
    ¬ReportsOnce (fun s => if s = "127.0.0.1" then some [127, 0, 0, 1] else none) [] 7777 ()
      ⟨1, fun _ => 0, []⟩ (fun _ => ⟨none, []⟩) ∧
    ¬ReportsOnce (fun s => if s = "127.0.0.1" then some [127, 0, 0, 1] else none) ["localhost"]
      7777 () ⟨1, fun _ => 0, []⟩ (fun _ => ⟨none, []⟩) := by
  refine ⟨fun h => ?_, fun h => ?_⟩
  · exact (connectable_of_returns h.returns).nonempty rfl
  · exact (connectable_of_returns h.returns).valid 0 "localhost" rfl (by simp) (by decide)

end NetFramework.Connector
