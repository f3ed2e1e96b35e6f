import Mathlib.Data.Finset.Card
import Mathlib.Data.Finset.Range
import NetFramework.GameServer.Combat
import NetFramework.GameServer.MatchStep

/-!
# The steps of a combat

Whatever a match does is a sequence of these steps, as far as the fights see it. A `rash` step turns
a mind against somebody without an attack of its NPC; an `arriving` step brings somebody or
something new into the match; in a `collecting` step somebody gets a collectable.
-/

namespace NetFramework.GameServer

open Lib Relation

namespace Combat

/-- `id` leaves, and every mind hears of it. -/
def vanish (d : Combat) (id : ℕ) : Combat :=
  (d.mapMinds fun _ => Mind.someoneDisappear id).withFighter id none

theorem fighters_vanish (d : Combat) (id k : ℕ) :
    (d.vanish id).fighters k =
      if k = id then none else (d.fighters k).map (Fighter.mapMind (Mind.someoneDisappear id)) :=
  fighters_withFighter ..

/-- The spawner of the fighter waits to spawn it anew. -/
def despawn (d : Combat) : Fighter → Combat
  | .client => d
  | .npc i _ => { d with npcTimers := d.npcTimers.modify i (· + 1) }

@[simp] theorem fighters_despawn (d : Combat) (f : Fighter) :
    (d.despawn f).fighters = d.fighters := by cases f <;> rfl

@[simp] theorem attacks_despawn (d : Combat) (f : Fighter) :
    (d.despawn f).attacks = d.attacks := by cases f <;> rfl

@[simp] theorem nextID_despawn (d : Combat) (f : Fighter) :
    (d.despawn f).nextID = d.nextID := by cases f <;> rfl

@[simp] theorem collectables_despawn (d : Combat) (f : Fighter) :
    (d.despawn f).collectables = d.collectables := by cases f <;> rfl

@[simp] theorem collectableTimers_despawn (d : Combat) (f : Fighter) :
    (d.despawn f).collectableTimers = d.collectableTimers := by cases f <;> rfl

/-- The attack at `key` has killed `id`. -/
def bury (d : Combat) (key id : ℕ) (f : Fighter) : Combat :=
  (((d.withAttack id none).withAttack key none).vanish id).despawn f

/-- The mind of `id` gives up its enemy. -/
def calmDown (d : Combat) (id : ℕ) : Combat :=
  d.mapMinds fun k => if k = id then Mind.attackCancelled else fun mind => mind

def engage (d : Combat) (id i : ℕ) (mind : Mind) (enemy : ℕ) : Combat :=
  d.withFighter id (some (.npc i (mind.engage enemy)))

/-- A client comes in. -/
def arrive (d : Combat) : Combat := d.allocate.emplaceFighter d.nextID .client

end Combat

inductive CombatStep (rash arriving collecting : Prop) : Combat → Combat → Prop
  | arrive {d : Combat} (harriving : arriving) : CombatStep rash arriving collecting d d.arrive
  | spawnNPC {d : Combat} {i n : ℕ} {mind : Mind} (harriving : arriving)
      (htimers : d.npcTimers[i]? = some (n + 1)) (henemy : mind.enemy = none)
      (htarget : mind.target = none) :
      CombatStep rash arriving collecting d
        { d.allocate.emplaceFighter d.nextID (.npc i mind) with npcTimers := d.npcTimers.set i n }
  | spawnCollectable {d : Combat} {i n : ℕ} (harriving : arriving)
      (htimers : d.collectableTimers[i]? = some (n + 1)) :
      CombatStep rash arriving collecting d
        { d.allocate with
          collectables :=
            Function.update d.collectables d.nextID (some ((d.collectables d.nextID).getD i))
          collectableTimers := d.collectableTimers.set i n }
  | collect {d : Combat} {id i : ℕ} (hcollecting : collecting)
      (hcollectable : d.collectables id = some i) :
      CombatStep rash arriving collecting d
        { d with
          collectables := Function.update d.collectables id none
          collectableTimers := d.collectableTimers.modify i (· + 1) }
  | vanish {d : Combat} {id : ℕ} (hclient : d.fighters id = some .client) :
      CombatStep rash arriving collecting d (d.vanish id)
  | die {d : Combat} {key attacker id : ℕ} {f : Fighter} (hfighter : d.fighters id = some f)
      (hattack : d.attacks key = some (attacker, id)) :
      CombatStep rash arriving collecting d (d.bury key id f)
  | cancel {d : Combat} {key attacker attacked : ℕ}
      (hattack : d.attacks key = some (attacker, attacked)) :
      CombatStep rash arriving collecting d ((d.withAttack key none).calmDown attacker)
  | drop {d : Combat} {key attacker attacked : ℕ}
      (hattack : d.attacks key = some (attacker, attacked))
      (hgone : d.fighters attacker = none ∨ d.fighters attacked = none) :
      CombatStep rash arriving collecting d (d.withAttack key none)
  | stop {d : Combat} {id : ℕ} (hclient : d.fighters id = some .client) :
      CombatStep rash arriving collecting d (d.withAttack id none)
  | attack {d : Combat} {id attacked : ℕ} (hclient : d.fighters id = some .client)
      (hattacked : (d.fighters attacked).isSome = true) :
      CombatStep rash arriving collecting d (d.withAttack id (some (id, attacked)))
  | engage {d : Combat} {id i enemy : ℕ} {mind : Mind}
      (hnpc : d.fighters id = some (.npc i mind)) (henemy : (d.fighters enemy).isSome = true) :
      CombatStep rash arriving collecting d
        ((d.withAttack id (some (id, enemy))).engage id i mind enemy)
  | rash {d : Combat} {id i enemy : ℕ} {mind : Mind} (hrash : rash)
      (hnpc : d.fighters id = some (.npc i mind)) (henemy : (d.fighters enemy).isSome = true) :
      CombatStep rash arriving collecting d (d.engage id i mind enemy)
  | aim {d : Combat} {id i target : ℕ} {mind : Mind} (hnpc : d.fighters id = some (.npc i mind))
      (htarget : (d.fighters target).isSome = true) :
      CombatStep rash arriving collecting d (d.withFighter id (some (.npc i (mind.aim target))))
  | unaim {d : Combat} {id i : ℕ} {mind : Mind} (hnpc : d.fighters id = some (.npc i mind)) :
      CombatStep rash arriving collecting d
        (d.withFighter id (some (.npc i { mind with target := none })))

abbrev CombatPath (rash arriving collecting : Prop) : Combat → Combat → Prop :=
  ReflTransGen (CombatStep rash arriving collecting)

theorem CombatPath.of_eq {rash arriving collecting : Prop} {x y : Combat} (h : y = x) :
    CombatPath rash arriving collecting x y := h ▸ .refl

/-- What every step keeps holds at the end of a path. -/
theorem CombatPath.induction {rash arriving collecting : Prop} {P : Combat → Prop}
    (hstep : ∀ x y, CombatStep rash arriving collecting x y → P x → P y) {x y : Combat}
    (hpath : CombatPath rash arriving collecting x y) (h : P x) : P y := by
  induction hpath with
  | refl => exact h
  | tail _ hlast ih => exact hstep _ _ hlast ih

/-! ## What holds in every combat -/

/-- Whom a mind remembers is there, under the identifier it remembers. -/
structure Mind.Valid (m : Mind) (fighters : ℕ → Option Fighter) : Prop where
  enemy : ∀ x, m.enemy = some x → x = m.enemyID ∧ (fighters x).isSome = true
  target : ∀ x, m.target = some x → x = m.targetID ∧ (fighters x).isSome = true

structure Combat.Sound (d : Combat) : Prop where
  fighters : ∀ id, d.nextID ≤ id → d.fighters id = none
  collectables : ∀ id, d.nextID ≤ id → d.collectables id = none
  keyed : ∀ key attacker attacked, d.attacks key = some (attacker, attacked) → attacker = key
  minds : ∀ id i mind, d.fighters id = some (.npc i mind) → mind.Valid d.fighters

namespace Mind

theorem Valid.mono {m : Mind} {f f' : ℕ → Option Fighter} (h : m.Valid f)
    (hf : ∀ x, (f x).isSome = true → (f' x).isSome = true) : m.Valid f' :=
  ⟨fun x hx => ⟨(h.enemy x hx).1, hf x (h.enemy x hx).2⟩,
    fun x hx => ⟨(h.target x hx).1, hf x (h.target x hx).2⟩⟩

theorem Valid.someoneDisappear {m : Mind} {f f' : ℕ → Option Fighter} {id : ℕ} (h : m.Valid f)
    (hf : ∀ x, x ≠ id → (f x).isSome = true → (f' x).isSome = true) :
    (m.someoneDisappear id).Valid f' := by
  refine ⟨fun x hx => ?_, fun x hx => ?_⟩
  · obtain ⟨hid, hx⟩ := Option.ite_none_left_eq_some.mp hx
    obtain ⟨rfl, hmem⟩ := h.enemy x hx
    exact ⟨rfl, hf _ hid hmem⟩
  · obtain ⟨hid, hx⟩ := Option.ite_none_left_eq_some.mp hx
    obtain ⟨rfl, hmem⟩ := h.target x hx
    exact ⟨rfl, hf _ hid hmem⟩

theorem Valid.attackCancelled {m : Mind} {f : ℕ → Option Fighter} (h : m.Valid f) :
    m.attackCancelled.Valid f := ⟨nofun, h.target⟩

theorem Valid.engage {m : Mind} {f : ℕ → Option Fighter} (h : m.Valid f) {x : ℕ}
    (hx : (f x).isSome = true) : (m.engage x).Valid f :=
  ⟨fun y hy => by cases hy; exact ⟨rfl, hx⟩, h.target⟩

theorem Valid.aim {m : Mind} {f : ℕ → Option Fighter} (h : m.Valid f) {x : ℕ}
    (hx : (f x).isSome = true) : (m.aim x).Valid f :=
  ⟨h.enemy, fun y hy => by cases hy; exact ⟨rfl, hx⟩⟩

end Mind

namespace Combat

theorem Sound.lt {d : Combat} (h : d.Sound) {id : ℕ} {f : Fighter}
    (hf : d.fighters id = some f) : id < d.nextID := by
  by_contra hle
  rw [h.fighters id (not_lt.mp hle)] at hf
  cases hf

theorem Sound.emplaceFighter {d : Combat} (h : d.Sound) {f : Fighter}
    (hf : ∀ i mind, f = .npc i mind → mind.enemy = none ∧ mind.target = none) :
    (d.allocate.emplaceFighter d.nextID f).Sound := by
  have hfresh : d.fighters d.nextID = none := h.fighters _ le_rfl
  have hlookup : ∀ k, (d.allocate.emplaceFighter d.nextID f).fighters k =
      if k = d.nextID then some f else d.fighters k := fun k => by
    unfold Combat.emplaceFighter
    rw [fighters_withFighter, show d.allocate.fighters d.nextID = none from hfresh]
    rfl
  refine ⟨fun id hid => ?_, fun id hid => h.collectables id (Nat.le_of_succ_le hid), h.keyed,
    fun id i mind hid => ?_⟩
  · have hid : d.nextID + 1 ≤ id := hid
    rw [hlookup, if_neg (by omega)]
    exact h.fighters id (by omega)
  · rw [hlookup] at hid
    split_ifs at hid with hk
    · obtain ⟨henemy, htarget⟩ := hf i mind (Option.some.inj hid)
      refine ⟨fun x hx => ?_, fun x hx => ?_⟩
      · rw [henemy] at hx
        cases hx
      · rw [htarget] at hx
        cases hx
    · refine (h.minds id i mind hid).mono fun x hx => ?_
      rw [hlookup]
      split_ifs
      · rfl
      · exact hx

theorem Sound.withAttack_none {d : Combat} (h : d.Sound) (key : ℕ) :
    (d.withAttack key none).Sound := by
  refine ⟨h.fighters, h.collectables, fun k attacker attacked hk => ?_, h.minds⟩
  rw [attacks_withAttack] at hk
  split_ifs at hk
  exact h.keyed k attacker attacked hk

theorem Sound.withAttack {d : Combat} (h : d.Sound) (key attacked : ℕ) :
    (d.withAttack key (some (key, attacked))).Sound := by
  refine ⟨h.fighters, h.collectables, fun k attacker attacked' hk => ?_, h.minds⟩
  rw [attacks_withAttack] at hk
  split_ifs at hk with hkey
  · cases hk
    exact hkey.symm
  · exact h.keyed k attacker attacked' hk

theorem Sound.withMind {d : Combat} (h : d.Sound) {id i : ℕ} {mind mind' : Mind}
    (hnpc : d.fighters id = some (.npc i mind)) (hvalid : mind'.Valid d.fighters) :
    (d.withFighter id (some (.npc i mind'))).Sound := by
  have hpresent : ∀ x, (d.fighters x).isSome = true →
      ((d.withFighter id (some (.npc i mind'))).fighters x).isSome = true := fun x hx => by
    rw [fighters_withFighter]
    split_ifs
    · rfl
    · exact hx
  refine ⟨fun k hk => ?_, h.collectables, h.keyed, fun k j m hk => ?_⟩
  · have hlt := h.lt hnpc
    rw [fighters_withFighter, if_neg fun heq => (hlt.trans_le hk).ne heq.symm]
    exact h.fighters k hk
  · rw [fighters_withFighter] at hk
    split_ifs at hk
    · cases hk
      exact hvalid.mono hpresent
    · exact (h.minds k j m hk).mono hpresent

theorem Sound.mapMinds {d : Combat} (h : d.Sound) {f : ℕ → Mind → Mind}
    (hf : ∀ k m, m.Valid d.fighters → (f k m).Valid d.fighters) : (d.mapMinds f).Sound := by
  have hpresent : ∀ x, (d.fighters x).isSome = true →
      ((d.mapMinds f).fighters x).isSome = true := fun x hx => by
    rwa [fighters_mapMinds, Option.isSome_map]
  refine ⟨fun k hk => ?_, h.collectables, h.keyed, fun k j m hk => ?_⟩
  · rw [fighters_mapMinds, h.fighters k hk]
    rfl
  · obtain ⟨g, hg, hm⟩ := Option.map_eq_some_iff.mp hk
    cases g with
    | client => cases hm
    | npc i mind =>
      cases hm
      exact (hf k mind (h.minds k j mind hg)).mono hpresent

theorem Sound.vanish {d : Combat} (h : d.Sound) (id : ℕ) : (d.vanish id).Sound := by
  refine ⟨fun k hk => ?_, h.collectables, h.keyed, fun k j m hk => ?_⟩
  · rw [fighters_vanish, h.fighters k hk]
    exact ite_self none
  · rw [fighters_vanish] at hk
    obtain ⟨-, hk⟩ := Option.ite_none_left_eq_some.mp hk
    obtain ⟨g, hg, hm⟩ := Option.map_eq_some_iff.mp hk
    cases g with
    | client => cases hm
    | npc i mind =>
      cases hm
      refine (h.minds k j mind hg).someoneDisappear fun x hx hmem => ?_
      rwa [fighters_vanish, if_neg hx, Option.isSome_map]

theorem Sound.despawn {d : Combat} (h : d.Sound) (f : Fighter) : (d.despawn f).Sound := by
  cases f with
  | client => exact h
  | npc i mind => exact ⟨h.fighters, h.collectables, h.keyed, h.minds⟩

end Combat

theorem CombatStep.sound {rash arriving collecting : Prop} {x y : Combat}
    (hstep : CombatStep rash arriving collecting x y) (h : x.Sound) : y.Sound := by
  cases hstep with
  | arrive => exact h.emplaceFighter nofun
  | @spawnNPC i _ mind _ _ henemy htarget =>
    have hnpc : (x.allocate.emplaceFighter x.nextID (.npc i mind)).Sound :=
      h.emplaceFighter fun j m heq => by
        cases heq
        exact ⟨henemy, htarget⟩
    exact ⟨hnpc.fighters, hnpc.collectables, hnpc.keyed, hnpc.minds⟩
  | spawnCollectable =>
    refine ⟨fun id hid => h.fighters id (Nat.le_of_succ_le hid), fun id hid => ?_, h.keyed, h.minds⟩
    have hid : x.nextID + 1 ≤ id := hid
    refine (Function.update_of_ne (by omega) ..).trans ?_
    exact h.collectables id (by omega)
  | collect =>
    refine ⟨h.fighters, fun id hid => ?_, h.keyed, h.minds⟩
    refine (Function.update_apply ..).trans ?_
    split_ifs
    · rfl
    · exact h.collectables id hid
  | vanish => exact h.vanish _
  | die => exact (((h.withAttack_none _).withAttack_none _).vanish _).despawn _
  | cancel =>
    refine (h.withAttack_none _).mapMinds fun k m hm => ?_
    split_ifs
    · exact hm.attackCancelled
    · exact hm
  | drop => exact h.withAttack_none _
  | stop => exact h.withAttack_none _
  | attack => exact h.withAttack _ _
  | engage hnpc henemy =>
    exact (h.withAttack _ _).withMind hnpc ((h.minds _ _ _ hnpc).engage henemy)
  | rash _ hnpc henemy => exact h.withMind hnpc ((h.minds _ _ _ hnpc).engage henemy)
  | aim hnpc htarget => exact h.withMind hnpc ((h.minds _ _ _ hnpc).aim htarget)
  | unaim hnpc =>
    exact h.withMind hnpc ⟨(h.minds _ _ _ hnpc).enemy, nofun⟩

theorem CombatPath.sound {rash arriving collecting : Prop} {x y : Combat}
    (hpath : CombatPath rash arriving collecting x y) (h : x.Sound) : y.Sound :=
  hpath.induction (fun _ _ => CombatStep.sound) h

end NetFramework.GameServer
