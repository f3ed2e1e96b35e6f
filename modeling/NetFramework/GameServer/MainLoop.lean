import Mathlib.Algebra.BigOperators.Group.List.Basic
import Mathlib.Data.List.Basic
import Mathlib.Data.UInt

/-!
# The main loop and its clock

`MainLoop` reads a millisecond counter of 32 bits and passes to `Game::Update` what it has advanced
since the reading that caused the last update. After a wrap of the counter
`GetTimeDifferenceInMilliseconds` is one millisecond short, and the loop has no other way to find
that millisecond again: `keepsTime_iff` says that no time is lost as long as no update looks across
a wrap.
-/

namespace NetFramework.GameServer

/-- `UINT32_MAX`. -/
def uint32Max : UInt32 := 4294967295

/-- `GetTimeInMilliseconds`, when the application has been running for `milliseconds`. -/
def getTimeInMilliseconds (milliseconds : ℕ) : UInt32 := .ofNat milliseconds

def getTimeDifferenceInMilliseconds (oldTimeInMilliseconds newTimeInMilliseconds : UInt32) :
    UInt32 :=
  if oldTimeInMilliseconds > newTimeInMilliseconds then
    (uint32Max - oldTimeInMilliseconds) + newTimeInMilliseconds
  else newTimeInMilliseconds - oldTimeInMilliseconds

/-- A call of `Game::Update`, with the milliseconds after which it was made and what the globals
`Time` and `TimeDifference` are in it. -/
structure GameUpdate where
  milliseconds : ℕ
  time : ℤ
  timeDifference : UInt32
  deriving DecidableEq, Repr

/-- The loop between two iterations. `time` and `timeDifference` are the globals, and `updates` are
the calls of `Game::Update`. -/
structure MainLoop where
  realPreviousTime : UInt32
  time : ℤ
  timeDifference : UInt32
  updates : List GameUpdate
  deriving DecidableEq, Repr

/-- What the two clocks show at the readings of the loop, of which the first one is made before the
first iteration. -/
structure Clock where
  milliseconds : ℕ → ℕ
  seconds : ℕ → ℤ
  le_succ : ∀ k, milliseconds k ≤ milliseconds (k + 1)
  succ_lt : ∀ k, milliseconds (k + 1) < milliseconds k + 2 ^ 32

namespace MainLoop

def minUpdateDifference : UInt32 := 1

/-- The loop before its first iteration; `Time` has been set when the program started. -/
def start (milliseconds : ℕ) (seconds : ℤ) : MainLoop :=
  ⟨getTimeInMilliseconds milliseconds, seconds, 0, []⟩

def iterate (s : MainLoop) (milliseconds : ℕ) (seconds : ℤ) : MainLoop :=
  let realCurrentTime := getTimeInMilliseconds milliseconds
  let timeDifference := getTimeDifferenceInMilliseconds s.realPreviousTime realCurrentTime
  if timeDifference < minUpdateDifference then { s with timeDifference := timeDifference }
  else
    { realPreviousTime := realCurrentTime
      time := seconds
      timeDifference := timeDifference
      updates := s.updates ++ [⟨milliseconds, seconds, timeDifference⟩] }

/-- The loop after `n` iterations. -/
def after (clock : Clock) : ℕ → MainLoop
  | 0 => start (clock.milliseconds 0) (clock.seconds 0)
  | n + 1 => (after clock n).iterate (clock.milliseconds (n + 1)) (clock.seconds (n + 1))

/-- The time that the game has been told. -/
def told (s : MainLoop) : ℕ := (s.updates.map fun u => u.timeDifference.toNat).sum

/-- When the last update was caused, or else the first reading made. -/
def lastUpdate (clock : Clock) (s : MainLoop) : ℕ :=
  (s.updates.getLast?.map GameUpdate.milliseconds).getD (clock.milliseconds 0)

/-- The game has been told the time between the first reading and the one that caused the last
update, neither more nor less. -/
def KeepsTime (clock : Clock) (s : MainLoop) : Prop :=
  clock.milliseconds 0 + s.told = s.lastUpdate clock

instance (clock : Clock) (s : MainLoop) : Decidable (s.KeepsTime clock) :=
  inferInstanceAs (Decidable (_ = _))

/-! ## One difference -/

/-- The difference that the loop sees between two readings. -/
def seen (t t' : ℕ) : ℕ :=
  (getTimeDifferenceInMilliseconds (getTimeInMilliseconds t) (getTimeInMilliseconds t')).toNat

theorem toNat_getTimeInMilliseconds (t : ℕ) : (getTimeInMilliseconds t).toNat = t % 2 ^ 32 :=
  UInt32.toNat_ofNat'

/-- After a wrap the step from `UINT32_MAX` to 0 is not counted. -/
theorem seen_eq (t t' : ℕ) :
    seen t t' = if t' % 2 ^ 32 < t % 2 ^ 32 then 2 ^ 32 - 1 - t % 2 ^ 32 + t' % 2 ^ 32
      else t' % 2 ^ 32 - t % 2 ^ 32 := by
  have ht := toNat_getTimeInMilliseconds t
  have ht' := toNat_getTimeInMilliseconds t'
  have hmax : uint32Max.toNat = 2 ^ 32 - 1 := rfl
  unfold seen getTimeDifferenceInMilliseconds
  by_cases hlt : getTimeInMilliseconds t' < getTimeInMilliseconds t
  · have hlt' := UInt32.lt_iff_toNat_lt.mp hlt
    rw [ht, ht'] at hlt'
    rw [if_pos hlt, if_pos hlt', UInt32.toNat_add, UInt32.toNat_sub_of_le, ht, ht', hmax]
    · omega
    · rw [UInt32.le_iff_toNat_le, ht, hmax]
      omega
  · have hle := UInt32.le_iff_toNat_le.mp (UInt32.not_lt.mp hlt)
    rw [ht, ht'] at hle
    rw [if_neg hlt, if_neg (not_lt.mpr hle), UInt32.toNat_sub_of_le _ _ (UInt32.not_lt.mp hlt), ht,
      ht']

variable {t t' : ℕ}

theorem seen_le (h : t ≤ t') : t + seen t t' ≤ t' := by
  rw [seen_eq]
  split_ifs <;> omega

/-- Without a wrap the difference is right. -/
theorem seen_of_round (h : t ≤ t') (hround : t' / 2 ^ 32 = t / 2 ^ 32) : t + seen t t' = t' := by
  rw [seen_eq, if_neg (by omega)]
  omega

/-- The counter shows 0 or the last value before the wrap, which is the base. -/
def Hides (t t' : ℕ) : Prop :=
  t % 2 ^ 32 = 2 ^ 32 - 1 ∧ (t' % 2 ^ 32 = 0 ∨ t' % 2 ^ 32 = 2 ^ 32 - 1)

theorem seen_of_hides (h : Hides t t') : seen t t' = 0 := by
  unfold Hides at h
  rw [seen_eq]
  split_ifs <;> omega

/-- Across a wrap the difference is short, and the loop takes it for the right one. -/
theorem seen_lt (h : t ≤ t') (hround : t' / 2 ^ 32 ≠ t / 2 ^ 32) (hhides : ¬Hides t t')
    (hbase : t' < t + 2 ^ 32 ∨ t % 2 ^ 32 = 2 ^ 32 - 1) :
    seen t t' ≠ 0 ∧ t + seen t t' < t' := by
  unfold Hides at hhides
  rw [seen_eq]
  split_ifs <;> omega

/-! ## One iteration -/

/-- An iteration that reads the clock at `t`. -/
theorem iterate_spec (clock : Clock) {s : MainLoop}
    (hprevious : s.realPreviousTime = getTimeInMilliseconds (s.lastUpdate clock))
    (t : ℕ) (seconds : ℤ) :
    (s.iterate t seconds).realPreviousTime =
        getTimeInMilliseconds ((s.iterate t seconds).lastUpdate clock) ∧
      (s.iterate t seconds).told = s.told + seen (s.lastUpdate clock) t ∧
      (s.iterate t seconds).lastUpdate clock =
        if seen (s.lastUpdate clock) t = 0 then s.lastUpdate clock else t := by
  have hskip (d : UInt32) : d < minUpdateDifference ↔ d.toNat = 0 :=
    UInt32.lt_iff_toNat_lt.trans Nat.lt_one_iff
  unfold iterate
  dsimp only
  rw [hprevious]
  by_cases hd : seen (s.lastUpdate clock) t = 0
  · rw [if_pos ((hskip _).mpr hd), if_pos hd, hd]
    exact ⟨rfl, rfl, rfl⟩
  · rw [if_neg fun h => hd ((hskip _).mp h), if_neg hd]
    refine ⟨?_, ?_, ?_⟩
    · unfold lastUpdate
      rw [List.getLast?_concat]
      rfl
    · unfold told
      rw [List.map_append, List.sum_append, List.map_singleton, List.sum_singleton]
      rfl
    · unfold lastUpdate
      rw [List.getLast?_concat]
      rfl

/-! ## All iterations -/

/-- The reading `k` is made before the counter wraps, or after a wrap that no update has looked
across: the last millisecond before the wrap has been read, and the counter shows it again or 0. -/
def BeforeWrap (clock : Clock) (k : ℕ) : Prop :=
  clock.milliseconds k / 2 ^ 32 = clock.milliseconds 0 / 2 ^ 32 ∨
    (clock.milliseconds k % 2 ^ 32 = 0 ∨ clock.milliseconds k % 2 ^ 32 = 2 ^ 32 - 1) ∧
      ∃ j ≤ k, clock.milliseconds j = clock.milliseconds 0 / 2 ^ 32 * 2 ^ 32 + (2 ^ 32 - 1)

/-- The base of the differences is the reading that caused the last update. -/
structure Based (clock : Clock) (n : ℕ) (s : MainLoop) : Prop where
  previous : s.realPreviousTime = getTimeInMilliseconds (s.lastUpdate clock)
  read : ∃ j ≤ n, clock.milliseconds j = s.lastUpdate clock
  le : s.lastUpdate clock ≤ clock.milliseconds n
  le_last : clock.milliseconds 0 ≤ s.lastUpdate clock

/-- No time has been lost, and the last update was caused before the counter wrapped. Since then
the loop has seen no difference. -/
structure OnTime (clock : Clock) (n : ℕ) (s : MainLoop) : Prop where
  keeps : s.KeepsTime clock
  round : s.lastUpdate clock / 2 ^ 32 = clock.milliseconds 0 / 2 ^ 32
  shows : clock.milliseconds n = s.lastUpdate clock ∨
    Hides (s.lastUpdate clock) (clock.milliseconds n)

/-- Time has been lost. -/
def Late (clock : Clock) (s : MainLoop) : Prop :=
  clock.milliseconds 0 + s.told < s.lastUpdate clock

variable {clock : Clock} {n : ℕ}

theorem Based.zero : Based clock 0 (after clock 0) :=
  ⟨rfl, ⟨0, le_rfl, rfl⟩, le_rfl, le_rfl⟩

/-- What one iteration adds to the time the game has been told, and to the time that has passed. -/
theorem Based.step (h : Based clock n (after clock n)) :
    (after clock (n + 1)).told = (after clock n).told +
        seen ((after clock n).lastUpdate clock) (clock.milliseconds (n + 1)) ∧
      (after clock (n + 1)).lastUpdate clock =
        if seen ((after clock n).lastUpdate clock) (clock.milliseconds (n + 1)) = 0
        then (after clock n).lastUpdate clock else clock.milliseconds (n + 1) :=
  (iterate_spec clock h.previous _ _).2

theorem Based.le_succ (h : Based clock n (after clock n)) :
    (after clock n).lastUpdate clock ≤ clock.milliseconds (n + 1) :=
  h.le.trans (clock.le_succ n)

theorem Based.succ (h : Based clock n (after clock n)) :
    Based clock (n + 1) (after clock (n + 1)) := by
  have hle := h.le_succ
  have hfirst := h.le_last
  obtain ⟨j, hj, hread⟩ := h.read
  refine ⟨(iterate_spec clock h.previous _ _).1, ?_, ?_, ?_⟩
  all_goals
    rw [h.step.2]
    split_ifs
  · exact ⟨j, by omega, hread⟩
  · exact ⟨n + 1, le_rfl, rfl⟩
  · exact hle
  · exact le_rfl
  · exact hfirst
  · exact hfirst.trans hle

/-- Time that has been lost stays lost. -/
theorem Late.succ (hbased : Based clock n (after clock n)) (h : Late clock (after clock n)) :
    Late clock (after clock (n + 1)) := by
  have hle := seen_le hbased.le_succ
  obtain ⟨htold, hnew⟩ := hbased.step
  unfold Late at h ⊢
  rw [htold, hnew]
  split_ifs <;> omega

theorem OnTime.zero : OnTime clock 0 (after clock 0) := ⟨rfl, rfl, .inl rfl⟩

/-- An iteration in the round of the first reading keeps the time. -/
theorem OnTime.succ_of_round (hbased : Based clock n (after clock n))
    (h : OnTime clock n (after clock n))
    (hround : clock.milliseconds (n + 1) / 2 ^ 32 = clock.milliseconds 0 / 2 ^ 32) :
    OnTime clock (n + 1) (after clock (n + 1)) := by
  have hseen := seen_of_round hbased.le_succ (hround.trans h.round.symm)
  have hkeeps := h.keeps
  obtain ⟨htold, hnew⟩ := hbased.step
  have hbase : (after clock (n + 1)).lastUpdate clock = clock.milliseconds (n + 1) := by
    rw [hnew]
    split_ifs <;> omega
  refine ⟨?_, by rw [hbase, hround], .inl hbase.symm⟩
  unfold KeepsTime at hkeeps ⊢
  omega

/-- An iteration in which the loop sees no difference keeps the time. -/
theorem OnTime.succ_of_hides (hbased : Based clock n (after clock n))
    (h : OnTime clock n (after clock n))
    (hhides : Hides ((after clock n).lastUpdate clock) (clock.milliseconds (n + 1))) :
    OnTime clock (n + 1) (after clock (n + 1)) := by
  have hkeeps := h.keeps
  obtain ⟨htold, hnew⟩ := hbased.step
  rw [seen_of_hides hhides] at htold hnew
  rw [if_pos rfl] at hnew
  refine ⟨?_, ?_, .inr ?_⟩
  · unfold KeepsTime at hkeeps ⊢
    rw [htold, hnew, Nat.add_zero, hkeeps]
  · rw [hnew, h.round]
  · rwa [hnew]

/-- The first update that looks across a wrap loses a millisecond. -/
theorem OnTime.late_succ (hbased : Based clock n (after clock n))
    (h : OnTime clock n (after clock n))
    (hround : clock.milliseconds (n + 1) / 2 ^ 32 ≠ clock.milliseconds 0 / 2 ^ 32)
    (hhides : ¬Hides ((after clock n).lastUpdate clock) (clock.milliseconds (n + 1))) :
    Late clock (after clock (n + 1)) := by
  have hkeeps := h.keeps
  obtain ⟨htold, hnew⟩ := hbased.step
  have hbase : clock.milliseconds (n + 1) < (after clock n).lastUpdate clock + 2 ^ 32 ∨
      (after clock n).lastUpdate clock % 2 ^ 32 = 2 ^ 32 - 1 := by
    obtain hshown | hhidden := h.shows
    · rw [← hshown]
      exact .inl (clock.succ_lt n)
    · exact .inr hhidden.1
  obtain ⟨hseen, hshort⟩ := seen_lt hbased.le_succ (h.round ▸ hround) hhides hbase
  rw [if_neg hseen] at hnew
  unfold KeepsTime at hkeeps
  unfold Late
  omega

/-- An iteration keeps the time exactly if it is before a wrap. -/
theorem OnTime.succ (hbased : Based clock n (after clock n)) (h : OnTime clock n (after clock n)) :
    BeforeWrap clock (n + 1) ∧ OnTime clock (n + 1) (after clock (n + 1)) ∨
      ¬BeforeWrap clock (n + 1) ∧ Late clock (after clock (n + 1)) := by
  have hfirst := h.round
  by_cases hround : clock.milliseconds (n + 1) / 2 ^ 32 = clock.milliseconds 0 / 2 ^ 32
  · exact .inl ⟨.inl hround, h.succ_of_round hbased hround⟩
  by_cases hhides : Hides ((after clock n).lastUpdate clock) (clock.milliseconds (n + 1))
  · obtain ⟨j, hj, hread⟩ := hbased.read
    have hbase := hhides.1
    exact .inl ⟨.inr ⟨hhides.2, j, by omega, by omega⟩, h.succ_of_hides hbased hhides⟩
  · refine .inr ⟨?_, h.late_succ hbased hround hhides⟩
    rintro (hin | ⟨hshown, j, hj, hread⟩)
    · exact hround hin
    -- the last millisecond before the wrap has been read, so it has caused the last update
    have hjn : j ≤ n := by
      by_contra hgt
      obtain rfl : j = n + 1 := by omega
      omega
    have hmono := monotone_nat_of_le_succ clock.le_succ hjn
    refine hhides ⟨?_, hshown⟩
    obtain heq | hbase := h.shows
    · omega
    · exact hbase.1

/-- After any number of iterations either the time has been kept and no update has looked across a
wrap, or neither. -/
theorem onTime_or_late (clock : Clock) (n : ℕ) : Based clock n (after clock n) ∧
    (OnTime clock n (after clock n) ∧ (∀ k ≤ n, BeforeWrap clock k) ∨
      Late clock (after clock n) ∧ ∃ k ≤ n, ¬BeforeWrap clock k) := by
  induction n with
  | zero =>
    refine ⟨.zero, .inl ⟨.zero, fun k hk => ?_⟩⟩
    obtain rfl := Nat.le_zero.mp hk
    exact .inl rfl
  | succ n ih =>
    obtain ⟨hbased, ⟨hon, hbefore⟩ | ⟨hlate, k, hk, hafter⟩⟩ := ih
    · refine ⟨hbased.succ, (hon.succ hbased).imp ?_ ?_⟩
      · rintro ⟨hnext, hon'⟩
        refine ⟨hon', fun k hk => ?_⟩
        obtain hlt | rfl := Nat.le_succ_iff.mp hk
        · exact hbefore k hlt
        · exact hnext
      · rintro ⟨hnext, hlate⟩
        exact ⟨hlate, n + 1, le_rfl, hnext⟩
    · exact ⟨hbased.succ, .inr ⟨hlate.succ hbased, k, Nat.le_succ_of_le hk, hafter⟩⟩

/-- **The time of the game.** After any number of iterations the game has been told the time that
has passed exactly if no update has looked across a wrap of the counter. -/
theorem keepsTime_iff (clock : Clock) (n : ℕ) :
    KeepsTime clock (after clock n) ↔ ∀ k ≤ n, BeforeWrap clock k := by
  obtain ⟨-, ⟨hon, hbefore⟩ | ⟨hlate, k, hk, hafter⟩⟩ := onTime_or_late clock n
  · exact iff_of_true hon.keeps hbefore
  · exact iff_of_false hlate.ne fun hbefore => hafter (hbefore k hk)

/-- A clock that is read two milliseconds before a wrap and at the wrap. -/
def atWrap : Clock where
  milliseconds
    | 0 => 2 ^ 32 - 2
    | _ + 1 => 2 ^ 32
  seconds _ := 0
  le_succ
    | 0 => Nat.sub_le ..
    | _ + 1 => le_rfl
  succ_lt
    | 0 => by decide
    | _ + 1 => Nat.lt_add_of_pos_right (by decide)

/-- Two milliseconds pass, and the game is told one. -/
theorem keepsTime_fails : ∃ clock : Clock,
    clock.milliseconds 1 = clock.milliseconds 0 + 2 ∧ (after clock 1).told = 1 ∧
      (after clock 1).lastUpdate clock = clock.milliseconds 1 ∧
      ¬KeepsTime clock (after clock 1) :=
  ⟨atWrap, rfl, rfl, rfl, by decide⟩

end MainLoop

end NetFramework.GameServer
