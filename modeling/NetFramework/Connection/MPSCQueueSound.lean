import NetFramework.Connection.MPSCQueue
import NetFramework.Lib.LinkedChain

/-!
# The queue returns the nodes in the order of their exchanges

In every state of every interleaving the nodes not returned yet form a `LinkedChain` from the tail
to the head, whose link stores under way are those of producers, and of the consumer while it
enqueues the dummy (`Inv`). Each access is one move of the chain.
-/

namespace NetFramework.Connection

open Lib

namespace MPSCQueue

variable {ι α : Type*}

/-- A link store under way: the link of `x` is about to become `y`. -/
def Linking (s : MPSCQueue ι α) (x y : Node α) : Prop :=
  (∃ p a, s.producers p = .link a x ∧ y = .node a) ∨
    (y = .dummy ∧ ∃ tail, s.consumer = .linkDummy tail x)

/-- What the consumer has read still holds where it stands. -/
def ConsumerAt (s : MPSCQueue ι α) (c : List (Node α)) : Prop :=
  match s.consumer with
  | .idle => True
  | .done result => ∀ x, result = some x → ∃ a, x = .node a ∧ s.returned.getLast? = some a
  | .loadNext tail => tail = s.tail
  | .storeDummyNext next => s.tail = .dummy ∧ s.next .dummy = some next
  | .loadNextAgain tail => tail = s.tail ∧ tail ≠ .dummy
  | .storeTail tail next => tail = s.tail ∧ tail ≠ .dummy ∧ s.next tail = some next
  | .loadHead tail => tail = s.tail ∧ tail ≠ .dummy
  | .clearDummy tail => tail = s.tail ∧ tail ≠ .dummy ∧ .dummy ∉ c
  | .exchangeDummy tail =>
    tail = s.tail ∧ tail ≠ .dummy ∧ .dummy ∉ c ∧ s.next .dummy = none
  | .linkDummy tail _ => tail = s.tail ∧ tail ≠ .dummy
  | .reloadNext tail => tail = s.tail ∧ tail ≠ .dummy ∧ 2 ≤ c.length

/-- What others do keeps what the consumer has read: they do not touch the tail, they change no link
of the tail that is set, and they neither link nor append the dummy. -/
theorem ConsumerAt.of_frame {s s' : MPSCQueue ι α} {c c' : List (Node α)} (h : s.ConsumerAt c)
    (hcons : s'.consumer = s.consumer) (htail : s'.tail = s.tail)
    (hret : s'.returned = s.returned)
    (hnext : ∀ y, s.next s.tail = some y → s'.next s.tail = some y)
    (hfree : .dummy ∉ c → s.next .dummy = none → s'.next .dummy = none)
    (hdummy : .dummy ∉ c → .dummy ∉ c') (hlen : c.length ≤ c'.length) : s'.ConsumerAt c' := by
  unfold ConsumerAt at h ⊢
  rw [hcons, htail, hret]
  cases hc : s.consumer with
  | idle => trivial
  | done result => rw [hc] at h; exact h
  | loadNext tail => rw [hc] at h; exact h
  | storeDummyNext next =>
    rw [hc] at h
    obtain ⟨ht, hn⟩ := h
    refine ⟨ht, ?_⟩
    rw [← ht] at hn ⊢
    exact hnext next hn
  | loadNextAgain tail => rw [hc] at h; exact h
  | storeTail tail next =>
    rw [hc] at h
    obtain ⟨rfl, hd, hn⟩ := h
    exact ⟨rfl, hd, hnext next hn⟩
  | loadHead tail => rw [hc] at h; exact h
  | clearDummy tail => rw [hc] at h; exact ⟨h.1, h.2.1, hdummy h.2.2⟩
  | exchangeDummy tail =>
    rw [hc] at h
    exact ⟨h.1, h.2.1, hdummy h.2.2.1, hfree h.2.2.1 h.2.2.2⟩
  | linkDummy tail prevHead => rw [hc] at h; exact h
  | reloadNext tail => rw [hc] at h; exact ⟨h.1, h.2.1, le_trans h.2.2 hlen⟩

/-- The nodes of `c` wait in the queue. -/
structure Inv (s : MPSCQueue ι α) (c : List (Node α)) : Prop where
  chain : LinkedChain s.next s.Linking s.tail s.head c
  exchanged : s.exchanged = s.returned ++ c.filterMap Node.value
  once : s.exchanged.Nodup
  fresh : ∀ p a, s.producers p = .exchange a → a ∉ s.exchanged ∧ s.next (.node a) = none
  started : ∀ a ∈ s.exchanged, a ∈ s.started
  inputs : ∀ p a, (s.producers p).input = some a → a ∈ s.started
  distinct : ∀ p q a, (s.producers p).input = some a → (s.producers q).input = some a → p = q
  consumer : s.ConsumerAt c

theorem Inv.of_initial {s : MPSCQueue ι α} (h : s.Initial) : s.Inv [.dummy] := by
  obtain ⟨hhead, htail, hnext, hprod, hcons, hstart, hex, hret⟩ := h
  refine ⟨?_, ?_, ?_, ?_, ?_, ?_, ?_, ?_⟩
  · rw [hhead, htail]
    refine LinkedChain.singleton _ hnext ?_
    rintro y z (⟨p, a, hp, -⟩ | ⟨-, tail, ht⟩)
    · rw [hprod p] at hp; cases hp
    · rw [hcons] at ht; cases ht
  · rw [hex, hret]; rfl
  · rw [hex]; exact List.nodup_nil
  · intro p a hp; rw [hprod p] at hp; cases hp
  · rw [hex]; simp
  · intro p a hp; rw [hprod p] at hp; cases hp
  · intro p q a hp; rw [hprod p] at hp; cases hp
  · unfold ConsumerAt; rw [hcons]; trivial

section

variable {s : MPSCQueue ι α} {c : List (Node α)} (h : s.Inv c)

include h

/-- A node of the chain has been exchanged and not returned. -/
theorem Inv.mem_chain {a : α} (ha : .node a ∈ c) : a ∈ s.exchanged ∧ a ∉ s.returned := by
  have hmem : a ∈ c.filterMap Node.value := List.mem_filterMap.mpr ⟨_, ha, rfl⟩
  have honce := h.once
  rw [h.exchanged] at honce ⊢
  refine ⟨List.mem_append_right _ hmem, fun hr => ?_⟩
  exact (List.nodup_append.mp honce).2.2 a hr a hmem rfl

theorem Inv.not_mem_chain {a : α} (ha : a ∉ s.exchanged) : .node a ∉ c :=
  fun hc => ha (h.mem_chain hc).1

variable [DecidableEq ι] [DecidableEq α]

/-! ## The accesses of a producer -/

/-- The producer `p` enters `Enqueue` with a node that is not in the chain. -/
theorem Inv.beginEnqueue {p : ι} {a : α} (hidle : s.producers p = .idle) (ha : a ∉ s.started) :
    (s.beginEnqueue p a).Inv c := by
  have hnew : a ∉ s.exchanged := fun hex => ha (h.started a hex)
  have hout : .node a ∉ c := h.not_mem_chain hnew
  have hself : (s.beginEnqueue p a).producers p = .exchange a := Function.update_self ..
  have hother : ∀ q, q ≠ p → (s.beginEnqueue p a).producers q = s.producers q :=
    fun q hq => Function.update_of_ne hq ..
  have hnext : ∀ x, x ≠ .node a → (s.beginEnqueue p a).next x = s.next x :=
    fun x hx => Function.update_of_ne hx ..
  have hlinking : ∀ x y, (s.beginEnqueue p a).Linking x y ↔ s.Linking x y := by
    intro x y
    refine or_congr ⟨?_, ?_⟩ Iff.rfl
    · rintro ⟨q, b, hq, rfl⟩
      have hqp : q ≠ p := by rintro rfl; rw [hself] at hq; cases hq
      exact ⟨q, b, by rwa [hother q hqp] at hq, rfl⟩
    · rintro ⟨q, b, hq, rfl⟩
      have hqp : q ≠ p := by rintro rfl; rw [hidle] at hq; cases hq
      exact ⟨q, b, by rwa [hother q hqp], rfl⟩
  refine ⟨(h.chain.clear hout).congr hlinking, h.exchanged, h.once, ?_, ?_, ?_, ?_, ?_⟩
  · intro q b hq
    by_cases hqp : q = p
    · rw [hqp, hself] at hq
      obtain rfl := Producer.exchange.inj hq
      exact ⟨hnew, Function.update_self ..⟩
    · rw [hother q hqp] at hq
      obtain ⟨hb, hn⟩ := h.fresh q b hq
      have hba : b ≠ a := by
        rintro rfl
        exact ha (h.inputs q b (by rw [hq]; rfl))
      exact ⟨hb, by rw [hnext _ (fun he => hba (Node.node.inj he))]; exact hn⟩
  · exact fun b hb => Finset.mem_insert_of_mem (h.started b hb)
  · intro q b hq
    by_cases hqp : q = p
    · rw [hqp, hself] at hq
      rw [← Option.some.inj hq]
      exact Finset.mem_insert_self ..
    · rw [hother q hqp] at hq
      exact Finset.mem_insert_of_mem (h.inputs q b hq)
  · intro q r b hq hr
    by_cases hqp : q = p <;> by_cases hrp : r = p
    · rw [hqp, hrp]
    · rw [hqp, hself] at hq
      rw [hother r hrp] at hr
      exact absurd (h.inputs r b hr) (by rw [← Option.some.inj hq]; exact ha)
    · rw [hrp, hself] at hr
      rw [hother q hqp] at hq
      exact absurd (h.inputs q b hq) (by rw [← Option.some.inj hr]; exact ha)
    · rw [hother q hqp] at hq
      rw [hother r hrp] at hr
      exact h.distinct q r b hq hr
  · refine h.consumer.of_frame rfl rfl rfl (fun y hy => ?_) (fun _ hn => ?_) id le_rfl
    · rw [hnext _ (ne_of_mem_of_not_mem h.chain.first_mem hout)]
      exact hy
    · rw [hnext _ (by simp)]
      exact hn

/-- The producer `p` exchanges the head: its node is the last one. -/
theorem Inv.exchange {p : ι} {a : α} (hp : s.producers p = .exchange a) :
    ∃ s', s.produce p = some s' ∧ s'.Inv (c ++ [.node a]) ∧ s'.exchanged = s.exchanged ++ [a] ∧
      s'.returned = s.returned ∧ s'.producers p = .link a s.head ∧ s'.consumer = s.consumer := by
  obtain ⟨hnew, hopen⟩ := h.fresh p a hp
  have hout : .node a ∉ c := h.not_mem_chain hnew
  refine ⟨{ s with
    head := .node a
    producers := Function.update s.producers p (.link a s.head)
    exchanged := s.exchanged ++ [a] }, by unfold produce; rw [hp], ?_, rfl, rfl,
    Function.update_self .., rfl⟩
  have hself : Function.update s.producers p (.link a s.head) p = .link a s.head :=
    Function.update_self ..
  have hother : ∀ q, q ≠ p →
      Function.update s.producers p (.link a s.head) q = s.producers q :=
    fun q hq => Function.update_of_ne hq ..
  have hinput : ∀ q b, (Function.update s.producers p (.link a s.head) q).input = some b →
      (s.producers q).input = some b := by
    intro q b hq
    by_cases hqp : q = p
    · rw [hqp, hself] at hq
      rw [hqp, hp]
      exact hq
    · rwa [hother q hqp] at hq
  refine ⟨(h.chain.append hout hopen).congr ?_, ?_, ?_, ?_, ?_, ?_, ?_, ?_⟩
  · intro x y
    unfold Linking
    constructor
    · rintro (⟨q, b, hq, rfl⟩ | hd)
      · by_cases hqp : q = p
        · rw [hqp] at hq
          obtain ⟨rfl, rfl⟩ := Producer.link.inj (hself.symm.trans hq)
          exact Or.inr ⟨rfl, rfl⟩
        · exact Or.inl (Or.inl ⟨q, b, (hother q hqp).symm.trans hq, rfl⟩)
      · exact Or.inl (Or.inr hd)
    · rintro ((⟨q, b, hq, rfl⟩ | hd) | ⟨rfl, rfl⟩)
      · have hqp : q ≠ p := by rintro rfl; rw [hp] at hq; cases hq
        exact Or.inl ⟨q, b, (hother q hqp).trans hq, rfl⟩
      · exact Or.inr hd
      · exact Or.inl ⟨p, a, hself, rfl⟩
  · show s.exchanged ++ [a] = _
    rw [h.exchanged, List.filterMap_append, List.append_assoc]
    rfl
  · exact List.nodup_append.mpr ⟨h.once, List.nodup_singleton a, fun b hb d hd => by
      rw [List.mem_singleton.mp hd]
      exact ne_of_mem_of_not_mem hb hnew⟩
  · intro q b hq
    have hqp : q ≠ p := by
      rintro rfl
      exact absurd (hself.symm.trans hq) (by simp)
    have hq' : s.producers q = .exchange b := (hother q hqp).symm.trans hq
    obtain ⟨hb, hn⟩ := h.fresh q b hq'
    refine ⟨fun hmem => ?_, hn⟩
    rcases List.mem_append.mp hmem with hin | hin
    · exact hb hin
    · rw [List.mem_singleton.mp hin] at hq'
      exact hqp (h.distinct q p a (by rw [hq']; rfl) (by rw [hp]; rfl))
  · intro b hb
    rcases List.mem_append.mp hb with hin | hin
    · exact h.started b hin
    · rw [List.mem_singleton.mp hin]
      exact h.inputs p a (by rw [hp]; rfl)
  · exact fun q b hq => h.inputs q b (hinput q b hq)
  · exact fun q r b hq hr => h.distinct q r b (hinput q b hq) (hinput r b hr)
  · refine h.consumer.of_frame rfl rfl rfl (fun y hy => hy) (fun _ hn => hn) (fun hd hmem => ?_) (by simp)
    rcases List.mem_append.mp hmem with hin | hin
    · exact hd hin
    · simp at hin

/-- The producer `p` stores the link of the previous head. -/
theorem Inv.link {p : ι} {a : α} {prevHead : Node α} (hp : s.producers p = .link a prevHead) :
    ∃ s', s.produce p = some s' ∧ s'.Inv c ∧ s'.exchanged = s.exchanged ∧
      s'.returned = s.returned ∧ s'.head = s.head ∧ s'.consumer = s.consumer := by
  have hlink : s.Linking prevHead (.node a) := Or.inl ⟨p, a, hp, rfl⟩
  obtain ⟨hadj, hnone⟩ := h.chain.late _ _ hlink
  refine ⟨{ s.storeLink prevHead (some (.node a)) with
    producers := Function.update s.producers p .idle }, by unfold produce; rw [hp], ?_, rfl, rfl,
    rfl, rfl⟩
  have hself : Function.update s.producers p .idle p = .idle := Function.update_self ..
  have hother : ∀ q, q ≠ p → Function.update s.producers p .idle q = s.producers q :=
    fun q hq => Function.update_of_ne hq ..
  have hnext : ∀ x, x ≠ prevHead →
      Function.update s.next prevHead (some (.node a)) x = s.next x :=
    fun x hx => Function.update_of_ne hx ..
  have hinput : ∀ q b, (Function.update s.producers p .idle q).input = some b →
      (s.producers q).input = some b := by
    intro q b hq
    by_cases hqp : q = p
    · rw [hqp, hself] at hq; cases hq
    · rwa [hother q hqp] at hq
  refine ⟨(h.chain.store hlink).congr ?_, h.exchanged, h.once, ?_, h.started,
    fun q b hq => h.inputs q b (hinput q b hq),
    fun q r b hq hr => h.distinct q r b (hinput q b hq) (hinput r b hr), ?_⟩
  · intro x y
    unfold Linking
    constructor
    · rintro (⟨q, b, hq, rfl⟩ | ⟨rfl, tail, ht⟩)
      · have hqp : q ≠ p := by rintro rfl; exact absurd (hself.symm.trans hq) (by simp)
        have hq' : s.producers q = .link b x := (hother q hqp).symm.trans hq
        refine ⟨Or.inl ⟨q, b, hq', rfl⟩, ?_⟩
        -- two stores for one link would be for the same node, so by the same producer
        rintro rfl
        obtain ⟨hadj', -⟩ := h.chain.late _ _ (Or.inl ⟨q, b, hq', rfl⟩)
        have hba : b = a := Node.node.inj (hadj'.right_unique h.chain.nodup hadj)
        exact hqp (h.distinct q p a (by rw [hq', ← hba]; rfl) (by rw [hp]; rfl))
      · refine ⟨Or.inr ⟨rfl, tail, ht⟩, ?_⟩
        rintro rfl
        obtain ⟨hadj', -⟩ := h.chain.late _ _ (Or.inr ⟨rfl, tail, ht⟩)
        exact absurd (hadj'.right_unique h.chain.nodup hadj) (by simp)
    · rintro ⟨⟨q, b, hq, rfl⟩ | hd, hx⟩
      · have hqp : q ≠ p := by
          rintro rfl
          exact hx (Producer.link.inj (hp.symm.trans hq)).2.symm
        exact Or.inl ⟨q, b, (hother q hqp).trans hq, rfl⟩
      · exact Or.inr hd
  · intro q b hq
    have hqp : q ≠ p := by rintro rfl; exact absurd (hself.symm.trans hq) (by simp)
    obtain ⟨hb, hn⟩ := h.fresh q b ((hother q hqp).symm.trans hq)
    refine ⟨hb, ?_⟩
    show Function.update s.next prevHead (some (.node a)) _ = none
    rw [hnext (.node b) fun he => h.not_mem_chain hb (by rw [he]; exact hadj.mem_left)]
    exact hn
  · refine h.consumer.of_frame rfl rfl rfl (fun y hy => ?_) (fun hd hn => ?_) id le_rfl
    · show Function.update s.next prevHead (some (.node a)) _ = _
      rw [hnext _ fun he => by rw [he, hnone] at hy; cases hy]
      exact hy
    · show Function.update s.next prevHead (some (.node a)) _ = _
      rw [hnext .dummy fun he => hd (by rw [he]; exact hadj.mem_left)]
      exact hn

/-! ## The accesses of the consumer -/

omit [DecidableEq ι] [DecidableEq α] in
/-- The consumer only read something. -/
theorem Inv.moveConsumer {k : Consumer α} (hold : ∀ tail x, s.consumer ≠ .linkDummy tail x)
    (hnew : ∀ tail x, k ≠ .linkDummy tail x)
    (hat : ({ s with consumer := k } : MPSCQueue ι α).ConsumerAt c) :
    ({ s with consumer := k } : MPSCQueue ι α).Inv c := by
  refine ⟨h.chain.congr fun x y => or_congr Iff.rfl ?_, h.exchanged, h.once, h.fresh, h.started,
    h.inputs, h.distinct, hat⟩
  constructor
  · rintro ⟨-, tail, ht⟩; exact absurd ht (hnew tail x)
  · rintro ⟨-, tail, ht⟩; exact absurd ht (hold tail x)

omit [DecidableEq ι] [DecidableEq α] in
/-- The consumer moves the tail to the next node; a node that is left behind is returned. -/
theorem Inv.moveTail {k : Consumer α} {next : Node α} (hn : s.next s.tail = some next)
    (hold : ∀ tail x, s.consumer ≠ .linkDummy tail x) (hnew : ∀ tail x, k ≠ .linkDummy tail x)
    (hat : ∀ c', next ≠ s.tail → ({ s with
      tail := next
      consumer := k
      returned := s.returned ++ s.tail.value.toList } : MPSCQueue ι α).ConsumerAt c') :
    ∃ c', ({ s with
      tail := next
      consumer := k
      returned := s.returned ++ s.tail.value.toList } : MPSCQueue ι α).Inv c' := by
  obtain ⟨r, hr, hchain⟩ := h.chain.advance hn
  have hne : next ≠ s.tail := by
    have hnodup := h.chain.nodup
    rw [hr] at hnodup
    exact fun he => (List.nodup_cons.mp hnodup).1 (by rw [← he]; exact List.mem_cons_self ..)
  refine ⟨next :: r, hchain.congr fun x y => or_congr Iff.rfl ?_, ?_, h.once, h.fresh, h.started,
    h.inputs, h.distinct, hat _ hne⟩
  · constructor
    · rintro ⟨-, tail, ht⟩; exact absurd ht (hnew tail x)
    · rintro ⟨-, tail, ht⟩; exact absurd ht (hold tail x)
  · show s.exchanged = s.returned ++ s.tail.value.toList ++ _
    rw [h.exchanged, hr, List.append_assoc, List.filterMap_cons]
    cases s.tail <;> rfl

omit [DecidableEq ι] in
theorem Inv.loadNext {tail : Node α} (hc : s.consumer = .loadNext tail) : s.consume.Inv c := by
  have hat := h.consumer
  unfold ConsumerAt at hat
  unfold MPSCQueue.consume
  rw [hc] at hat ⊢
  refine h.moveConsumer (by simp [hc]) ?_ ?_
  · intro t x
    cases s.next tail <;> simp only <;> split_ifs <;> simp
  · unfold ConsumerAt
    cases hn : s.next tail with
    | none =>
      simp only
      split_ifs with hd
      · simp
      · exact ⟨hat, hd⟩
    | some next =>
      simp only
      split_ifs with hd
      · exact ⟨hat.symm.trans hd, by rw [← hd]; exact hn⟩
      · exact ⟨hat, hd, hn⟩

omit [DecidableEq ι] in
/-- The tail moves past a node, which is returned. -/
theorem Inv.storeTail {tail next : Node α} (hc : s.consumer = .storeTail tail next) :
    ∃ c', s.consume.Inv c' := by
  have hat := h.consumer
  unfold ConsumerAt at hat
  unfold MPSCQueue.consume
  rw [hc] at hat ⊢
  obtain ⟨rfl, hd, hn⟩ := hat
  refine h.moveTail hn (by simp [hc]) (by simp) fun c' _ => ?_
  rintro x hx
  obtain rfl := Option.some.inj hx
  obtain ⟨a, ha⟩ : ∃ a, s.tail = .node a := by
    cases ht : s.tail with
    | dummy => exact absurd ht hd
    | node a => exact ⟨a, rfl⟩
  exact ⟨a, ha, by simp [ha, Node.value]⟩

omit [DecidableEq ι] in
theorem Inv.loadHead {tail : Node α} (hc : s.consumer = .loadHead tail) : s.consume.Inv c := by
  have hat := h.consumer
  unfold ConsumerAt at hat
  unfold MPSCQueue.consume
  rw [hc] at hat ⊢
  refine h.moveConsumer (by simp [hc]) ?_ ?_
  · intro t x
    split_ifs <;> simp
  · unfold ConsumerAt
    simp only
    split_ifs with hhead
    · simp
    · -- the tail is also the head: it is the only node, and not the dummy
      obtain ⟨rfl, hd⟩ := hat
      refine ⟨rfl, hd, ?_⟩
      rw [h.chain.eq_singleton (not_not.mp hhead), List.mem_singleton]
      exact hd.symm

omit [DecidableEq ι] in
/-- The dummy is not in the chain when its link is cleared. -/
theorem Inv.clearDummy {tail : Node α} (hc : s.consumer = .clearDummy tail) : s.consume.Inv c := by
  have hat := h.consumer
  unfold ConsumerAt at hat
  unfold MPSCQueue.consume
  rw [hc] at hat ⊢
  obtain ⟨ht, hd, hout⟩ := hat
  have hnext : ∀ x, x ≠ .dummy → Function.update s.next .dummy none x = s.next x :=
    fun x hx => Function.update_of_ne hx ..
  refine ⟨(h.chain.clear hout).congr fun x y => or_congr Iff.rfl ?_, h.exchanged, h.once, ?_,
    h.started, h.inputs, h.distinct, ht, hd, hout, ?_⟩
  · simp [hc]
  · intro p a hp
    obtain ⟨ha, hn⟩ := h.fresh p a hp
    exact ⟨ha, (hnext (.node a) (by simp)).trans hn⟩
  · show Function.update s.next .dummy none .dummy = none
    exact Function.update_self ..

omit [DecidableEq ι] in
/-- The dummy becomes the last node. -/
theorem Inv.exchangeDummy {tail : Node α} (hc : s.consumer = .exchangeDummy tail) :
    s.consume.Inv (c ++ [.dummy]) := by
  have hat := h.consumer
  unfold ConsumerAt at hat
  unfold MPSCQueue.consume
  rw [hc] at hat ⊢
  obtain ⟨ht, hd, hout, hopen⟩ := hat
  refine ⟨(h.chain.append hout hopen).congr ?_, ?_, h.once, h.fresh, h.started, h.inputs,
    h.distinct, ht, hd⟩
  · intro x y
    unfold Linking
    simp only [hc, reduceCtorEq, exists_false, and_false, or_false, Consumer.linkDummy.injEq]
    constructor
    · rintro (hp | ⟨rfl, t, -, rfl⟩)
      · exact Or.inl hp
      · exact Or.inr ⟨rfl, rfl⟩
    · rintro (hp | ⟨rfl, rfl⟩)
      · exact Or.inl hp
      · exact Or.inr ⟨rfl, tail, rfl, rfl⟩
  · rw [List.filterMap_append, show [Node.dummy].filterMap Node.value = ([] : List α) from rfl,
      List.append_nil]
    exact h.exchanged

omit [DecidableEq ι] in
/-- The link to the dummy is stored: the tail has a successor. -/
theorem Inv.linkDummy {tail prevHead : Node α} (hc : s.consumer = .linkDummy tail prevHead) :
    s.consume.Inv c := by
  have hat := h.consumer
  unfold ConsumerAt at hat
  unfold MPSCQueue.consume
  rw [hc] at hat ⊢
  have hlink : s.Linking prevHead .dummy := Or.inr ⟨rfl, tail, hc⟩
  obtain ⟨hadj, hnone⟩ := h.chain.late _ _ hlink
  have hnext : ∀ x, x ≠ prevHead → Function.update s.next prevHead (some .dummy) x = s.next x :=
    fun x hx => Function.update_of_ne hx ..
  refine ⟨(h.chain.store hlink).congr ?_, h.exchanged, h.once, ?_, h.started, h.inputs,
    h.distinct, hat.1, hat.2, hadj.two_le_length⟩
  · intro x y
    unfold Linking
    constructor
    · rintro (⟨q, b, hq, rfl⟩ | ⟨rfl, t, ht⟩)
      · refine ⟨Or.inl ⟨q, b, hq, rfl⟩, ?_⟩
        rintro rfl
        obtain ⟨hadj', -⟩ := h.chain.late _ _ (Or.inl ⟨q, b, hq, rfl⟩)
        exact absurd (hadj'.right_unique h.chain.nodup hadj) (by simp)
      · cases ht
    · rintro ⟨hp | ⟨rfl, t, ht⟩, hx⟩
      · exact Or.inl hp
      · exact absurd (Consumer.linkDummy.inj (hc.symm.trans ht)).2.symm hx
  · intro p a hp
    obtain ⟨ha, hn⟩ := h.fresh p a hp
    refine ⟨ha, (hnext (.node a) fun he => ?_).trans hn⟩
    exact h.not_mem_chain ha (by rw [he]; exact hadj.mem_left)

omit [DecidableEq ι] in
/-- **The consumer.** Each of its accesses keeps the queue in order. -/
theorem Inv.consume : ∃ c', s.consume.Inv c' := by
  have hat := h.consumer
  unfold ConsumerAt at hat
  cases hc : s.consumer with
  | idle | done =>
    unfold MPSCQueue.consume
    rw [hc]
    exact ⟨c, h.moveConsumer (by simp [hc]) (by simp) rfl⟩
  | loadNext => exact ⟨c, h.loadNext hc⟩
  | storeDummyNext next =>
    unfold MPSCQueue.consume
    rw [hc] at hat ⊢
    obtain ⟨ht, hn⟩ := hat
    have := h.moveTail (k := .loadNextAgain next) (by rw [ht]; exact hn) (by simp [hc]) (by simp)
      (fun c' hne => ⟨rfl, by rw [← ht]; exact hne⟩)
    rw [ht] at this
    simpa [Node.value] using this
  | loadNextAgain tail =>
    unfold MPSCQueue.consume
    rw [hc] at hat ⊢
    refine ⟨c, h.moveConsumer (by simp [hc]) ?_ ?_⟩
    · intro t x
      cases s.next tail <;> simp
    · unfold ConsumerAt
      cases hn : s.next tail with
      | none => exact hat
      | some next => exact ⟨hat.1, hat.2, hn⟩
  | storeTail => exact h.storeTail hc
  | loadHead => exact ⟨c, h.loadHead hc⟩
  | clearDummy => exact ⟨c, h.clearDummy hc⟩
  | exchangeDummy => exact ⟨_, h.exchangeDummy hc⟩
  | linkDummy => exact ⟨c, h.linkDummy hc⟩
  | reloadNext tail =>
    unfold MPSCQueue.consume
    rw [hc] at hat ⊢
    refine ⟨c, h.moveConsumer (by simp [hc]) ?_ ?_⟩
    · intro t x
      cases s.next tail <;> simp
    · unfold ConsumerAt
      cases hn : s.next tail with
      | none => simp
      | some next => exact ⟨hat.1, hat.2.1, hn⟩

/-- **One access** of anyone. -/
theorem Inv.step {e : QueueEvent ι α} {s' : MPSCQueue ι α} (hstep : e.Step s s') :
    ∃ c', s'.Inv c' := by
  cases e with
  | enqueue p a =>
    obtain ⟨hidle, ha, rfl⟩ := hstep
    exact ⟨c, h.beginEnqueue hidle ha⟩
  | produce p =>
    have hs : s.produce p = some s' := hstep
    cases hp : s.producers p with
    | idle => simp [produce, hp] at hs
    | exchange a =>
      obtain ⟨s₁, hs₁, hinv, -⟩ := h.exchange hp
      obtain rfl := Option.some.inj (hs₁.symm.trans hs)
      exact ⟨_, hinv⟩
    | link a prevHead =>
      obtain ⟨s₁, hs₁, hinv, -⟩ := h.link hp
      obtain rfl := Option.some.inj (hs₁.symm.trans hs)
      exact ⟨_, hinv⟩
  | consume =>
    obtain rfl := hstep
    exact h.consume

/-- No access is to the link of a returned node. -/
theorem Inv.accesses {e : QueueEvent ι α} {s' : MPSCQueue ι α} (hstep : e.Step s s') {a : α}
    (ha : .node a ∈ e.accesses s) : a ∉ s.returned := by
  have hchain : .node a ∈ c → a ∉ s.returned := fun hc => (h.mem_chain hc).2
  have hlinking : ∀ x y, s.Linking x y → .node a ∈ [x] → a ∉ s.returned := by
    intro x y hl hx
    rw [List.mem_singleton] at hx
    exact hchain (hx ▸ (h.chain.late x y hl).1.mem_left)
  have htail : ∀ x, x = s.tail → .node a ∈ [x] → a ∉ s.returned := by
    rintro x rfl hx
    rw [List.mem_singleton] at hx
    exact hchain (hx ▸ h.chain.first_mem)
  cases e with
  | enqueue p b =>
    obtain ⟨-, hb, -⟩ := hstep
    simp only [QueueEvent.accesses, List.mem_singleton, Node.node.injEq] at ha
    rw [ha]
    intro hr
    exact hb (h.started b (by rw [h.exchanged]; exact List.mem_append_left _ hr))
  | produce p =>
    cases hp : s.producers p with
    | idle => simp [QueueEvent.accesses, hp] at ha
    | exchange b => simp [QueueEvent.accesses, hp] at ha
    | link b prevHead =>
      simp only [QueueEvent.accesses, hp] at ha
      exact hlinking _ _ (Or.inl ⟨p, b, hp, rfl⟩) ha
  | consume =>
    have hat := h.consumer
    unfold ConsumerAt at hat
    unfold QueueEvent.accesses at ha
    cases hc : s.consumer <;> simp only [hc] at ha hat
    case loadNext tail => exact htail tail hat ha
    case loadNextAgain tail => exact htail tail hat.1 ha
    case linkDummy tail prevHead => exact hlinking _ _ (Or.inr ⟨rfl, tail, hc⟩) ha
    case reloadNext tail => exact htail tail hat.1 ha
    all_goals simp at ha

end

theorem exists_inv_of_run [DecidableEq ι] [DecidableEq α] {es : List (QueueEvent ι α)}
    {s : MPSCQueue ι α} (h : (queueMachine ι α).Run es s) : ∃ c, s.Inv c :=
  Machine.Run.invariant (P := fun _ s => ∃ c, s.Inv c) (fun _ hs => ⟨_, Inv.of_initial hs⟩)
    (fun _ _ _ _ _ ⟨_, hinv⟩ hstep => hinv.step hstep) h

/-! ## When `Dequeue` returns false -/

/-- What excuses a `false`: every node exchanged so far has been returned, or some producer is
between its exchange and its link store. -/
def Excused (s : MPSCQueue ι α) : Prop :=
  (∀ a ∈ s.exchanged, a ∈ s.returned) ∨ ∃ p a prevHead, s.producers p = .link a prevHead

section

variable {s : MPSCQueue ι α} {c : List (Node α)} (h : s.Inv c)

include h

/-- A tail that is not linked is the only node, or excuses the consumer. -/
theorem Inv.of_tail_open (hn : s.next s.tail = none)
    (hold : ∀ tail x, s.consumer ≠ .linkDummy tail x) :
    (c = [s.tail] ∧ s.tail = s.head) ∨ s.Excused := by
  rcases h.chain.of_first_open hn with hone | ⟨y, ⟨p, a, hp, -⟩ | ⟨-, tail, ht⟩⟩
  · exact Or.inl hone
  · exact Or.inr (Or.inr ⟨p, a, _, hp⟩)
  · exact absurd ht (hold _ _)

/-- With the dummy alone in the queue every exchanged node has been returned. -/
theorem Inv.excused_of_dummy (hn : s.next s.tail = none) (ht : s.tail = .dummy)
    (hold : ∀ tail x, s.consumer ≠ .linkDummy tail x) : s.Excused := by
  rcases h.of_tail_open hn hold with ⟨hc, -⟩ | he
  · left
    intro a ha
    rw [h.exchanged, hc, ht] at ha
    simpa [Node.value] using ha
  · exact he

variable [DecidableEq ι] [DecidableEq α]

/-- An access after which the consumer is about to load the head: the tail is the head, the
consumer is excused, or it was there before and the head has not changed. -/
theorem Inv.loadHead_step {e : QueueEvent ι α} {s' : MPSCQueue ι α} (hstep : e.Step s s')
    {tail : Node α} (hc' : s'.consumer = .loadHead tail) :
    s'.head = tail ∨ s.Excused ∨ s'.Excused ∨
      (s.consumer = .loadHead tail ∧ s'.head = s.head) := by
  cases e with
  | enqueue p a =>
    obtain ⟨-, -, rfl⟩ := hstep
    exact Or.inr (Or.inr (Or.inr ⟨hc', rfl⟩))
  | produce p =>
    have hs : s.produce p = some s' := hstep
    cases hp : s.producers p with
    | idle => simp [produce, hp] at hs
    | exchange a =>
      obtain ⟨s₁, hs₁, -, -, -, hprod, -⟩ := h.exchange hp
      obtain rfl := Option.some.inj (hs₁.symm.trans hs)
      exact Or.inr (Or.inr (Or.inl (Or.inr ⟨p, a, _, hprod⟩)))
    | link a prevHead =>
      obtain ⟨s₁, hs₁, -, -, -, hhead, hcons⟩ := h.link hp
      obtain rfl := Option.some.inj (hs₁.symm.trans hs)
      exact Or.inr (Or.inr (Or.inr ⟨hcons.symm.trans hc', hhead⟩))
  | consume =>
    obtain rfl : s' = s.consume := hstep
    have hat := h.consumer
    unfold ConsumerAt at hat
    -- only the two loads of the tail's link lead here, when it is not set
    have key : ∀ t, t = s.tail → s.next t = none → t = tail →
        (∀ t x, s.consumer ≠ .linkDummy t x) → s.head = tail ∨ s.Excused := by
      rintro t rfl hn rfl hold
      rcases h.of_tail_open hn hold with ⟨-, hh⟩ | he
      · exact Or.inl hh.symm
      · exact Or.inr he
    cases hc : s.consumer <;> simp only [MPSCQueue.consume, hc] at hc' hat ⊢
    case loadNext t =>
      cases hn : s.next t <;> simp only [hn] at hc' <;> split_ifs at hc'
      exact (key t hat hn (Consumer.loadHead.inj hc') (by simp [hc])).imp_right Or.inl
    case loadNextAgain t =>
      cases hn : s.next t <;> simp only [hn] at hc'
      · exact (key t hat.1 hn (Consumer.loadHead.inj hc') (by simp [hc])).imp_right Or.inl
      · cases hc'
    case loadHead t => split_ifs at hc'
    case reloadNext t => cases hn : s.next t <;> simp only [hn] at hc' <;> cases hc'
    all_goals cases hc'

/-- An access that returns false while the consumer is not excused found another head than the tail
it had read. -/
theorem Inv.returnsFalse_step {e : QueueEvent ι α} {s' : MPSCQueue ι α} (hstep : e.Step s s')
    (hcall : s.consumer.InCall) (hc' : s'.consumer = .done none) :
    s.Excused ∨ ∃ tail, s.consumer = .loadHead tail ∧ s.head ≠ tail := by
  have hproduce : s'.consumer ≠ s.consumer := by
    intro he
    rw [← he, hc'] at hcall
    exact hcall
  cases e with
  | enqueue p a =>
    obtain ⟨-, -, rfl⟩ := hstep
    exact absurd rfl hproduce
  | produce p =>
    have hs : s.produce p = some s' := hstep
    cases hp : s.producers p with
    | idle => simp [produce, hp] at hs
    | exchange a =>
      obtain ⟨s₁, hs₁, -, -, -, -, hcons⟩ := h.exchange hp
      obtain rfl := Option.some.inj (hs₁.symm.trans hs)
      exact absurd hcons hproduce
    | link a prevHead =>
      obtain ⟨s₁, hs₁, -, -, -, -, hcons⟩ := h.link hp
      obtain rfl := Option.some.inj (hs₁.symm.trans hs)
      exact absurd hcons hproduce
  | consume =>
    obtain rfl : s' = s.consume := hstep
    have hat := h.consumer
    unfold ConsumerAt at hat
    cases hc : s.consumer <;> simp only [MPSCQueue.consume, hc] at hc' hat hcall ⊢
    case idle => exact absurd hcall id
    case done r => exact absurd hcall id
    case loadNext t =>
      cases hn : s.next t <;> simp only [hn] at hc' <;> split_ifs at hc' with hd
      rw [hat] at hn hd
      exact Or.inl (h.excused_of_dummy hn hd (by simp [hc]))
    case loadNextAgain t => cases hn : s.next t <;> simp only [hn] at hc' <;> cases hc'
    case storeTail t next => cases hc'
    case loadHead t =>
      split_ifs at hc' with hne
      exact Or.inr ⟨t, rfl, Ne.symm hne⟩
    case reloadNext t =>
      cases hn : s.next t <;> simp only [hn] at hc'
      · left
        obtain ⟨rfl, -, hlen⟩ := hat
        rcases h.of_tail_open hn (by simp [hc]) with ⟨hone, -⟩ | he
        · rw [hone] at hlen
          exact absurd hlen (by simp)
        · exact he
      · cases hc'
    all_goals cases hc'

end

section Execution

variable [DecidableEq ι] [DecidableEq α] {n : ℕ} (x : (queueMachine ι α).Execution n) {i : ℕ}

/-- Since step `i` the consumer has been excused. -/
def ExcusedSince (i k : ℕ) : Prop := ∃ m, i ≤ m ∧ m ≤ k ∧ (x.states m).Excused

/-- **History of a call.** A consumer about to load the head, in a call that began at step `i`, has
been excused since, or the head is still the tail it has read. -/
theorem excused_of_loadHead (hbegin : ¬ (x.states i).consumer.InCall) :
    ∀ k, i < k → k ≤ n → ∀ tail, (x.states k).consumer = .loadHead tail →
      ExcusedSince x i k ∨ (x.states k).head = tail := by
  intro k
  induction k with
  | zero => intro hi; omega
  | succ k ih =>
    intro hi hk tail hc
    obtain ⟨c, hinv⟩ := exists_inv_of_run (x.run (show k ≤ n by omega))
    rcases hinv.loadHead_step (x.step k (by omega)) hc with hh | he | he | ⟨hold, hhead⟩
    · exact Or.inr hh
    · exact Or.inl ⟨k, by omega, by omega, he⟩
    · exact Or.inl ⟨k + 1, by omega, le_rfl, he⟩
    · rcases Nat.lt_succ_iff_lt_or_eq.mp hi with hlt | rfl
      · rcases ih hlt (by omega) tail hold with ⟨m, hm, hmk, he⟩ | hh
        · exact Or.inl ⟨m, hm, by omega, he⟩
        · exact Or.inr (hhead.trans hh)
      · rw [hold] at hbegin
        exact absurd trivial hbegin

end Execution

end MPSCQueue

open MPSCQueue

/-- **Linearizability.** In every interleaving the returned nodes are the beginning of the exchanged
ones, in order and each once; a call returns `false` only if it was excused at some moment of it;
and no access is to the link of a node that has been returned. -/
theorem queue_linearizable (ι α : Type*) [DecidableEq ι] [DecidableEq α] :
    (∀ es s, (queueMachine ι α).Run es s →
      s.returned <+: s.exchanged ∧ s.exchanged.Nodup ∧
      (∀ r, s.consumer = .done (some r) → ∃ a, r = .node a ∧ s.returned.getLast? = some a) ∧
      ∀ (e : QueueEvent ι α) s', e.Step s s' → ∀ a ∈ s.returned, .node a ∉ e.accesses s) ∧
    ∀ n (x : (queueMachine ι α).Execution n) i j, i < j → j < n →
      ¬ (x.states i).consumer.InCall →
      (∀ k, i < k → k ≤ j → (x.states k).consumer.InCall) →
      (x.states (j + 1)).consumer = .done none →
      ∃ k, i ≤ k ∧ k ≤ j ∧ (x.states k).Excused := by
  refine ⟨fun es s hrun => ?_, fun n x i j hij hj hbegin hcall hfalse => ?_⟩
  · obtain ⟨c, hinv⟩ := exists_inv_of_run hrun
    refine ⟨⟨c.filterMap Node.value, hinv.exchanged.symm⟩, hinv.once, fun r hr => ?_,
      fun e s' hstep a ha hacc => hinv.accesses hstep hacc ha⟩
    have hat := hinv.consumer
    unfold ConsumerAt at hat
    rw [hr] at hat
    exact hat r rfl
  · obtain ⟨c, hinv⟩ := exists_inv_of_run (x.run hj.le)
    rcases hinv.returnsFalse_step (x.step j hj) (hcall j hij le_rfl) hfalse with
      he | ⟨tail, hc, hne⟩
    · exact ⟨j, hij.le, le_rfl, he⟩
    · exact (excused_of_loadHead x hbegin j hij hj.le tail hc).resolve_right hne

/-- A node goes in and the consumer comes out with it; a call on an empty queue returns `false`. -/
theorem queue_linearizable_one :
    (∃ es, ∃ s : MPSCQueue ℕ ℕ, (queueMachine ℕ ℕ).Run es s ∧ s.returned = [7] ∧
      s.returned <+: s.exchanged) ∧
    ∃ x : (queueMachine ℕ ℕ).Execution 2, (x.states 2).consumer = .done none ∧
      ∃ k, 0 ≤ k ∧ k ≤ 1 ∧ (x.states k).Excused := by
  have hconsume : ∀ m es (s : MPSCQueue ℕ ℕ), (queueMachine ℕ ℕ).Run es s →
      ∃ es', (queueMachine ℕ ℕ).Run es' (MPSCQueue.consume^[m] s) := by
    intro m
    induction m with
    | zero => exact fun es s h => ⟨es, h⟩
    | succ m ih => exact fun es s h => ih _ _ (h.step (e := QueueEvent.consume) rfl)
  constructor
  · have hin : (queueMachine ℕ ℕ).Run [] (empty : MPSCQueue ℕ ℕ) := .init initial_empty
    have hclear := hin.step (e := QueueEvent.enqueue 0 7) ⟨rfl, by decide, rfl⟩
    have hexchange := hclear.step (e := QueueEvent.produce 0) rfl
    have hlink := hexchange.step (e := QueueEvent.produce 0) rfl
    obtain ⟨es, hrun⟩ := hconsume 10 _ _ hlink
    exact ⟨es, _, hrun, rfl, ((queue_linearizable ℕ ℕ).1 es _ hrun).1⟩
  · refine ⟨⟨fun k => MPSCQueue.consume^[k] empty, fun _ => .consume, initial_empty, fun i _ =>
      Function.iterate_succ_apply' MPSCQueue.consume i empty⟩, rfl, ?_⟩
    refine (queue_linearizable ℕ ℕ).2 2 _ 0 1 (by decide) (by decide) id ?_ rfl
    intro k hk hk1
    obtain rfl : k = 1 := by omega
    trivial

end NetFramework.Connection
