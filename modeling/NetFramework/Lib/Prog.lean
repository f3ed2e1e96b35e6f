import Mathlib.Order.Defs.Unbundled
import Mathlib.Data.List.Nodup

/-!
# Programs with a state and exceptions

Programs are `EStateM ε σ α`: an exception keeps the state in which it was thrown. Three ways to
speak about them are developed here. The inversion lemmas (`bind_ok` and its companions) take a
finished run apart. `Keeps R p` says that `p` leads from a state to an `R`-related one however it
ends, and `Leads R p` says so of the runs that finish; they are classes, so that for a preorder `R`
the composition rules are found by instance search and only the primitives of a program need a
proof.
-/

namespace NetFramework.Lib

variable {ε σ τ α β : Type}

/-- The state in which a program ends. -/
def finalState : EStateM.Result ε σ α → σ
  | .ok _ s => s
  | .error _ s => s

/-! ## Taking a finished run apart -/

theorem run_bind_of_ok {p : EStateM ε σ α} {f : α → EStateM ε σ β} {s s₁ : σ} {a : α}
    (h : p.run s = .ok a s₁) : (p >>= f).run s = (f a).run s₁ := by
  rw [EStateM.run_bind, h]

theorem run_bind_of_error {p : EStateM ε σ α} {f : α → EStateM ε σ β} {s s₁ : σ} {e : ε}
    (h : p.run s = .error e s₁) : (p >>= f).run s = .error e s₁ := by
  rw [EStateM.run_bind, h]

/-- An exception is caught in the state in which it was thrown. -/
theorem run_tryCatch_of_ok {p : EStateM ε σ α} {f : ε → EStateM ε σ α} {s s₁ : σ} {a : α}
    (h : p.run s = .ok a s₁) : (tryCatch p f).run s = .ok a s₁ := by
  have h' : p s = .ok a s₁ := h
  show EStateM.tryCatch p f s = _
  delta EStateM.tryCatch
  simp only [h']

theorem run_tryCatch_of_error {p : EStateM ε σ α} {f : ε → EStateM ε σ α} {s s₁ : σ} {e : ε}
    (h : p.run s = .error e s₁) : (tryCatch p f).run s = (f e).run s₁ := by
  have h' : p s = .error e s₁ := h
  show EStateM.tryCatch p f s = _
  delta EStateM.tryCatch
  simp only [h']
  rfl

theorem bind_ok {p : EStateM ε σ α} {f : α → EStateM ε σ β} {s s' : σ} {b : β}
    (h : (p >>= f).run s = .ok b s') : ∃ a s₁, p.run s = .ok a s₁ ∧ (f a).run s₁ = .ok b s' := by
  cases hp : p.run s with
  | ok a s₁ => exact ⟨a, s₁, rfl, (run_bind_of_ok hp).symm.trans h⟩
  | error e s₁ =>
    rw [run_bind_of_error hp] at h
    cases h

/-- The two parts of a run that finishes, put together. -/
theorem exists_bind_ok {p : EStateM ε σ α} {f : α → EStateM ε σ β} {P : β → σ → Prop} {s : σ}
    (h : ∃ a s₁, p.run s = .ok a s₁ ∧ ∃ b s', (f a).run s₁ = .ok b s' ∧ P b s') :
    ∃ b s', (p >>= f).run s = .ok b s' ∧ P b s' := by
  obtain ⟨a, s₁, hp, b, s', hf, hP⟩ := h
  exact ⟨b, s', (run_bind_of_ok hp).trans hf, hP⟩

theorem pure_ok {a b : α} {s s' : σ} (h : (pure a : EStateM ε σ α).run s = .ok b s') :
    b = a ∧ s' = s := by
  cases h
  exact ⟨rfl, rfl⟩

theorem get_ok {a s s' : σ} (h : (get : EStateM ε σ σ).run s = .ok a s') : a = s ∧ s' = s := by
  cases h
  exact ⟨rfl, rfl⟩

theorem get_bind_ok {f : σ → EStateM ε σ β} {b : β} {s s' : σ}
    (h : ((get : EStateM ε σ σ) >>= f).run s = .ok b s') : (f s).run s = .ok b s' := h

theorem modify_ok {f : σ → σ} {u : PUnit} {s s' : σ}
    (h : (modify f : EStateM ε σ PUnit).run s = .ok u s') : s' = f s := by
  cases h
  rfl

theorem throw_ok {e : ε} {a : α} {s s' : σ} (h : (throw e : EStateM ε σ α).run s = .ok a s') :
    False := by
  cases h

/-- A loop whose turns keep `P` keeps it as a whole; `P` speaks about the items to come. -/
theorem forM_ok {f : α → EStateM ε σ PUnit} {P : List α → σ → Prop}
    (hturn : ∀ a rest s s' u, P (a :: rest) s → (f a).run s = .ok u s' → P rest s') :
    ∀ {l : List α} {s s' : σ} {u : PUnit}, P l s → (l.forM f).run s = .ok u s' → P [] s' := by
  intro l
  induction l with
  | nil =>
    intro s s' u hP h
    obtain ⟨-, rfl⟩ := pure_ok h
    exact hP
  | cons a rest ih =>
    intro s s' u hP h
    obtain ⟨v, s₁, h₁, h₂⟩ := bind_ok (show (f a >>= fun _ => rest.forM f).run s = .ok u s' from h)
    exact ih (hturn a rest s s₁ v hP h₁) h₂

theorem run_forM_append {f : α → EStateM ε σ PUnit} {l l' : List α} {s s₁ : σ} {u : PUnit}
    (h : (l.forM f).run s = .ok u s₁) : ((l ++ l').forM f).run s = (l'.forM f).run s₁ := by
  induction l generalizing s with
  | nil =>
    obtain ⟨-, rfl⟩ := pure_ok h
    rfl
  | cons a rest ih =>
    obtain ⟨v, s₂, h₁, h₂⟩ := bind_ok (show (f a >>= fun _ => rest.forM f).run s = .ok u s₁ from h)
    show (f a >>= fun _ => (rest ++ l').forM f).run s = _
    rw [run_bind_of_ok h₁]
    exact ih h₂

/-- The rule for loops whose turns depend on where in the loop they are: a turn begins where the
turns before it lead. -/
theorem forM_ok_of_turns {f : α → EStateM ε σ PUnit} {P : σ → Prop} {l : List α} {s s' : σ}
    {u : PUnit}
    (hturn : ∀ before a after t t', l = before ++ a :: after →
      (before.forM f).run s = .ok PUnit.unit t → P t → (f a).run t = .ok PUnit.unit t' → P t')
    (hs : P s) (h : (l.forM f).run s = .ok u s') : P s' := by
  suffices hrest : ∀ rest before t, l = before ++ rest → (before.forM f).run s = .ok PUnit.unit t →
      P t → (rest.forM f).run t = .ok u s' → P s' from hrest l [] s rfl rfl hs h
  intro rest
  induction rest with
  | nil =>
    intro before t _ _ hP hend
    obtain ⟨-, rfl⟩ := pure_ok hend
    exact hP
  | cons a rest ih =>
    intro before t hl hbefore hP hend
    obtain ⟨v, t', ha, hrest⟩ :=
      bind_ok (show (f a >>= fun _ => rest.forM f).run t = .ok u s' from hend)
    refine ih (before ++ [a]) t' (by rw [hl, List.append_assoc, List.singleton_append]) ?_
      (hturn before a rest t t' hl hbefore hP ha) hrest
    rw [run_forM_append hbefore]
    show (f a >>= fun _ => pure PUnit.unit).run t = _
    rw [run_bind_of_ok ha]
    rfl

/-- A finished loop, taken apart at one of its turns. -/
theorem forM_turn {f : α → EStateM ε σ PUnit} {before after : List α} {a : α} {s s' : σ}
    {u : PUnit} (h : ((before ++ a :: after).forM f).run s = .ok u s') :
    ∃ t t', (before.forM f).run s = .ok PUnit.unit t ∧ (f a).run t = .ok PUnit.unit t' ∧
      (after.forM f).run t' = .ok PUnit.unit s' := by
  induction before generalizing s with
  | nil =>
    obtain ⟨v, t', hturn, hafter⟩ :=
      bind_ok (show (f a >>= fun _ => after.forM f).run s = .ok u s' from h)
    exact ⟨s, t', rfl, hturn, hafter⟩
  | cons b before ih =>
    obtain ⟨v, s₁, hb, hrest⟩ := bind_ok
      (show (f b >>= fun _ => (before ++ a :: after).forM f).run s = .ok u s' from h)
    obtain ⟨t, t', hbefore, hturn, hafter⟩ := ih hrest
    refine ⟨t, t', ?_, hturn, hafter⟩
    show (f b >>= fun _ => before.forM f).run s = _
    rw [run_bind_of_ok hb]
    exact hbefore

/-- A loop over a list without duplicates comes to each of its elements in one state. -/
theorem forM_before_unique {f : α → EStateM ε σ PUnit} {l before after before' after' : List α}
    {a : α} {s t t' : σ} {u u' : PUnit} (hnodup : l.Nodup) (hsplit : l = before ++ a :: after)
    (hsplit' : l = before' ++ a :: after') (h : (before.forM f).run s = .ok u t)
    (h' : (before'.forM f).run s = .ok u' t') : t = t' := by
  rw [hsplit] at hnodup hsplit'
  obtain ⟨ha, -⟩ := List.nodup_cons.mp (List.nodup_middle.mp hnodup)
  rw [List.mem_append, not_or] at ha
  obtain ⟨rfl, -, -⟩ := (List.append_cons_inj_of_notMem ha.1 ha.2).mp hsplit'
  rw [h] at h'
  cases h'
  rfl

/-- A search that finishes, by its first turn: it ends there, or the rest of it goes on. -/
theorem anyM_cons_ok {f : α → EStateM ε σ Bool} {a : α} {rest : List α} {s s' : σ} {b : Bool}
    (h : ((a :: rest).anyM f).run s = .ok b s') :
    ((f a).run s = .ok true s' ∧ b = true) ∨
      ∃ t, (f a).run s = .ok false t ∧ (rest.anyM f).run t = .ok b s' := by
  rw [List.anyM_cons] at h
  obtain ⟨found, t, hturn, hrest⟩ := bind_ok h
  cases found with
  | true =>
    obtain ⟨rfl, rfl⟩ := pure_ok hrest
    exact .inl ⟨hturn, rfl⟩
  | false => exact .inr ⟨t, hturn, hrest⟩

theorem run_anyM_append {f : α → EStateM ε σ Bool} {l l' : List α} {s s₁ : σ}
    (h : (l.anyM f).run s = .ok false s₁) : ((l ++ l').anyM f).run s = (l'.anyM f).run s₁ := by
  induction l generalizing s with
  | nil =>
    obtain ⟨-, rfl⟩ := pure_ok h
    rfl
  | cons a rest ih =>
    rcases anyM_cons_ok h with ⟨-, hfalse⟩ | ⟨t, hturn, hrest⟩
    · cases hfalse
    · rw [List.cons_append, List.anyM_cons, run_bind_of_ok hturn]
      exact ih hrest

/-- The rule for searches whose turns depend on where in the search they are: a turn begins where
the turns before it lead. -/
theorem anyM_ok_of_turns {f : α → EStateM ε σ Bool} {P : σ → Prop} {Q : Bool → σ → Prop}
    {l : List α} {s s' : σ} {b : Bool} (hQ : ∀ t, P t → Q false t)
    (hturn : ∀ before a after t found t', l = before ++ a :: after →
      (before.anyM f).run s = .ok false t → P t → (f a).run t = .ok found t' →
        if found = true then Q true t' else P t')
    (hs : P s) (h : (l.anyM f).run s = .ok b s') : Q b s' := by
  suffices hrest : ∀ rest before t, l = before ++ rest → (before.anyM f).run s = .ok false t →
      P t → (rest.anyM f).run t = .ok b s' → Q b s' from hrest l [] s rfl rfl hs h
  intro rest
  induction rest with
  | nil =>
    intro before t _ _ hP hend
    obtain ⟨rfl, rfl⟩ := pure_ok hend
    exact hQ _ hP
  | cons a rest ih =>
    intro before t hl hbefore hP hend
    rcases anyM_cons_ok hend with ⟨ha, rfl⟩ | ⟨t', ha, hrest⟩
    · exact hturn before a rest t true s' hl hbefore hP ha
    · refine ih (before ++ [a]) t' (by rw [hl, List.append_assoc, List.singleton_append]) ?_
        (hturn before a rest t false t' hl hbefore hP ha) hrest
      rw [run_anyM_append hbefore, List.anyM_cons, run_bind_of_ok ha]
      rfl

/-- A loop that fails does so in one of its turns. -/
theorem exists_turn_of_error {f : α → EStateM ε σ PUnit} {l : List α} {s s' : σ}
    {e : ε} (h : (l.forM f).run s = .error e s') :
    ∃ before a after t, l = before ++ a :: after ∧ (before.forM f).run s = .ok PUnit.unit t ∧
      (f a).run t = .error e s' := by
  induction l generalizing s with
  | nil => cases h
  | cons a rest ih =>
    have h' : (f a >>= fun _ => rest.forM f).run s = .error e s' := h
    cases hturn : (f a).run s with
    | error e₁ s₁ =>
      rw [run_bind_of_error hturn] at h'
      cases h'
      exact ⟨[], a, rest, s, rfl, rfl, hturn⟩
    | ok u s₁ =>
      rw [run_bind_of_ok hturn] at h'
      obtain ⟨before, b, after, t, rfl, hbefore, hb⟩ := ih h'
      refine ⟨a :: before, b, after, t, rfl, ?_, hb⟩
      show (f a >>= fun _ => before.forM f).run s = _
      rw [run_bind_of_ok hturn]
      exact hbefore

/-- A search that fails does so in one of its turns. -/
theorem exists_turn_of_anyM_error {f : α → EStateM ε σ Bool} {l : List α} {s s' : σ} {e : ε}
    (h : (l.anyM f).run s = .error e s') :
    ∃ before a after t, l = before ++ a :: after ∧ (before.anyM f).run s = .ok false t ∧
      (f a).run t = .error e s' := by
  induction l generalizing s with
  | nil => cases h
  | cons a rest ih =>
    rw [List.anyM_cons] at h
    cases hturn : (f a).run s with
    | error e₁ s₁ =>
      rw [run_bind_of_error hturn] at h
      cases h
      exact ⟨[], a, rest, s, rfl, rfl, hturn⟩
    | ok found s₁ =>
      rw [run_bind_of_ok hturn] at h
      cases found with
      | true => cases h
      | false =>
        obtain ⟨before, b, after, t, rfl, hbefore, hb⟩ := ih h
        refine ⟨a :: before, b, after, t, rfl, ?_, hb⟩
        rw [List.anyM_cons, run_bind_of_ok hturn]
        exact hbefore

/-- The rule for loops whose turns do not meddle with each other: the turn of an item changes the
item's own slice of the state and no other. -/
theorem forM_ok_slices {γ : Type} {f : α → EStateM ε σ PUnit} {slice : α → σ → γ}
    {T : α → γ → γ → Prop}
    (hturn : ∀ a s s' u, (f a).run s = .ok u s' →
      T a (slice a s) (slice a s') ∧ ∀ b, b ≠ a → slice b s' = slice b s)
    {l : List α} (hl : l.Nodup) {s s' : σ} {u : PUnit} (h : (l.forM f).run s = .ok u s') :
    (∀ a ∈ l, T a (slice a s) (slice a s')) ∧ ∀ b ∉ l, slice b s' = slice b s := by
  induction l generalizing s with
  | nil =>
    obtain ⟨-, rfl⟩ := pure_ok h
    exact ⟨fun a ha => absurd ha List.not_mem_nil, fun _ _ => rfl⟩
  | cons a rest ih =>
    obtain ⟨v, s₁, h₁, h₂⟩ := bind_ok (show (f a >>= fun _ => rest.forM f).run s = .ok u s' from h)
    obtain ⟨hfirst, hothers⟩ := hturn a s s₁ v h₁
    obtain ⟨hrest, houtside⟩ := ih hl.of_cons h₂
    have hnotMem : a ∉ rest := (List.nodup_cons.mp hl).1
    refine ⟨fun b hb => ?_, fun b hb => ?_⟩
    · rcases List.mem_cons.mp hb with rfl | hb
      · rwa [houtside b hnotMem]
      · rw [← hothers b fun heq => hnotMem (heq ▸ hb)]
        exact hrest b hb
    · rw [houtside b fun hmem => hb (List.mem_cons_of_mem a hmem),
        hothers b fun heq => hb (heq ▸ List.mem_cons_self)]

/-! ## Programs that keep a relation -/

/-- However `p` ends, the state is `R`-related to the one it started from. -/
class Keeps (R : σ → σ → Prop) (p : EStateM ε σ α) : Prop where
  keeps : ∀ s, R s (finalState (p.run s))

theorem Keeps.of_ok {R : σ → σ → Prop} {p : EStateM ε σ α} [Keeps R p] {s s' : σ} {a : α}
    (h : p.run s = .ok a s') : R s s' := by
  have := Keeps.keeps (R := R) (p := p) s
  rwa [h] at this

section Keeps

variable {R : σ → σ → Prop} [Std.Refl R] [IsTrans σ R]

omit [IsTrans σ R] in
instance {a : α} : Keeps R (pure a : EStateM ε σ α) := ⟨fun s => Std.Refl.refl s⟩

omit [IsTrans σ R] in
instance {e : ε} : Keeps R (throw e : EStateM ε σ α) := ⟨fun s => Std.Refl.refl s⟩

omit [IsTrans σ R] in
instance : Keeps R (get : EStateM ε σ σ) := ⟨fun s => Std.Refl.refl s⟩

omit [Std.Refl R] in
/-- A program whose beginning is known to be kept from one state only. -/
theorem keeps_bind_run {p : EStateM ε σ α} {f : α → EStateM ε σ β} [hf : ∀ a, Keeps R (f a)] {s : σ}
    (hp : R s (finalState (p.run s))) : R s (finalState ((p >>= f).run s)) := by
  cases h : p.run s with
  | ok a s₁ =>
    rw [h] at hp
    rw [run_bind_of_ok h]
    exact Trans.trans hp ((hf a).keeps s₁)
  | error e s₁ =>
    rw [h] at hp
    rwa [run_bind_of_error h]

omit [Std.Refl R] in
instance {p : EStateM ε σ α} {f : α → EStateM ε σ β} [hp : Keeps R p] [hf : ∀ a, Keeps R (f a)] :
    Keeps R (p >>= f) := ⟨fun s => keeps_bind_run (hp.keeps s)⟩

omit [Std.Refl R] in
/-- A program whose rest is kept whatever value its beginning gives. -/
theorem keeps_bind {p : EStateM ε σ α} {f : α → EStateM ε σ β} (hp : Keeps R p)
    (hf : ∀ a, Keeps R (f a)) : Keeps R (p >>= f) := inferInstance

omit [Std.Refl R] in
/-- A program whose rest is kept for the values that its beginning gives. -/
theorem keeps_bind_of_ok {p : EStateM ε σ α} {f : α → EStateM ε σ β} [hp : Keeps R p]
    (hf : ∀ s a s₁, p.run s = .ok a s₁ → R s₁ (finalState ((f a).run s₁))) : Keeps R (p >>= f) := by
  refine ⟨fun s => ?_⟩
  have hs := hp.keeps s
  cases h : p.run s with
  | ok a s₁ =>
    rw [h] at hs
    rw [run_bind_of_ok h]
    exact Trans.trans hs (hf s a s₁ h)
  | error e s₁ =>
    rw [h] at hs
    rwa [run_bind_of_error h]

omit [Std.Refl R] [IsTrans σ R] in
instance {c : Prop} [Decidable c] {p q : EStateM ε σ α} [hp : Keeps R p] [hq : Keeps R q] :
    Keeps R (if c then p else q) := by
  by_cases h : c
  · rwa [if_pos h]
  · rwa [if_neg h]

/-- A loop keeps what each of its turns keeps. -/
theorem keeps_forM {f : α → EStateM ε σ PUnit} {l : List α} (h : ∀ a ∈ l, Keeps R (f a)) :
    Keeps R (l.forM f) := by
  induction l with
  | nil => exact inferInstanceAs (Keeps R (pure PUnit.unit))
  | cons a rest ih =>
    have := h a List.mem_cons_self
    have := ih fun b hb => h b (List.mem_cons_of_mem a hb)
    exact inferInstanceAs (Keeps R (f a >>= fun _ => rest.forM f))

instance {f : α → EStateM ε σ PUnit} [hf : ∀ a, Keeps R (f a)] (l : List α) :
    Keeps R (l.forM f) := keeps_forM fun a _ => hf a

instance {f : α → EStateM ε σ Bool} [hf : ∀ a, Keeps R (f a)] (l : List α) :
    Keeps R (l.anyM f) := by
  induction l with
  | nil => exact inferInstanceAs (Keeps R (pure false))
  | cons a rest ih =>
    rw [List.anyM_cons]
    infer_instance

omit [Std.Refl R] [IsTrans σ R] in
instance {o : Option α} {p : EStateM ε σ β} {f : α → EStateM ε σ β} [hp : Keeps R p]
    [hf : ∀ a, Keeps R (f a)] : Keeps R (o.elim p f) := by
  cases o with
  | none => exact hp
  | some a => exact hf a

omit [Std.Refl R] in
instance {p : EStateM ε σ α} {f : ε → EStateM ε σ α} [hp : Keeps R p] [hf : ∀ e, Keeps R (f e)] :
    Keeps R (tryCatch p f) := by
  refine ⟨fun s => ?_⟩
  have h₁ := hp.keeps s
  cases h : p.run s with
  | ok a s₁ =>
    rw [h] at h₁
    rw [run_tryCatch_of_ok h]
    exact h₁
  | error e s₁ =>
    rw [h] at h₁
    rw [run_tryCatch_of_error h]
    exact Trans.trans h₁ ((hf e).keeps s₁)

end Keeps

/-! ## Programs that lead to a relation -/

/-- A finished run of `p` leads from a state to an `R`-related one. -/
class Leads (R : σ → σ → Prop) (p : EStateM ε σ α) : Prop where
  leads : ∀ s a s', p.run s = .ok a s' → R s s'

section Leads

variable {R : σ → σ → Prop} [Std.Refl R] [IsTrans σ R]

omit [IsTrans σ R] in
instance {a : α} : Leads R (pure a : EStateM ε σ α) :=
  ⟨fun s b s' h => by rw [(pure_ok h).2]; exact Std.Refl.refl s⟩

omit [Std.Refl R] [IsTrans σ R] in
instance {e : ε} : Leads R (throw e : EStateM ε σ α) := ⟨fun _ _ _ h => (throw_ok h).elim⟩

omit [IsTrans σ R] in
instance : Leads R (get : EStateM ε σ σ) :=
  ⟨fun s b s' h => by rw [(get_ok h).2]; exact Std.Refl.refl s⟩

omit [Std.Refl R] in
instance {p : EStateM ε σ α} {f : α → EStateM ε σ β} [hp : Leads R p] [hf : ∀ a, Leads R (f a)] :
    Leads R (p >>= f) := by
  refine ⟨fun s b s' h => ?_⟩
  obtain ⟨a, s₁, h₁, h₂⟩ := bind_ok h
  exact Trans.trans (hp.leads s a s₁ h₁) ((hf a).leads s₁ b s' h₂)

omit [Std.Refl R] [IsTrans σ R] in
instance {c : Prop} [Decidable c] {p q : EStateM ε σ α} [hp : Leads R p] [hq : Leads R q] :
    Leads R (if c then p else q) := by
  by_cases h : c
  · rwa [if_pos h]
  · rwa [if_neg h]

omit [Std.Refl R] [IsTrans σ R] in
instance {o : Option α} {p : EStateM ε σ β} {f : α → EStateM ε σ β} [hp : Leads R p]
    [hf : ∀ a, Leads R (f a)] : Leads R (o.elim p f) := by
  cases o with
  | none => exact hp
  | some a => exact hf a

instance {f : α → EStateM ε σ PUnit} [hf : ∀ a, Leads R (f a)] (l : List α) :
    Leads R (l.forM f) := by
  induction l with
  | nil => exact inferInstanceAs (Leads R (pure PUnit.unit))
  | cons a rest ih => exact inferInstanceAs (Leads R (f a >>= fun _ => rest.forM f))

instance {f : α → EStateM ε σ Bool} [hf : ∀ a, Leads R (f a)] (l : List α) :
    Leads R (l.anyM f) := by
  induction l with
  | nil => exact inferInstanceAs (Leads R (pure false))
  | cons a rest ih =>
    rw [List.anyM_cons]
    infer_instance

end Leads

/-! ## Programs that end well -/

/-- From a state in `I` a run of `p` ends in one, and what it throws is in `E`. -/
class Within (I : σ → Prop) (E : ε → Prop) (p : EStateM ε σ α) : Prop where
  ok : ∀ s a s', I s → p.run s = .ok a s' → I s'
  error : ∀ s e s', I s → p.run s = .error e s' → E e ∧ I s'

section Within

variable {I : σ → Prop} {E : ε → Prop}

instance {a : α} : Within I E (pure a : EStateM ε σ α) :=
  ⟨fun s b s' hI h => by rwa [(pure_ok h).2], fun _ _ _ _ h => by cases h⟩

instance : Within I E (get : EStateM ε σ σ) :=
  ⟨fun s b s' hI h => by rwa [(get_ok h).2], fun _ _ _ _ h => by cases h⟩

theorem within_throw {e : ε} (he : E e) : Within I E (throw e : EStateM ε σ α) :=
  ⟨fun _ _ _ _ h => (throw_ok h).elim, fun s e' s' hI h => by cases h; exact ⟨he, hI⟩⟩

theorem within_modify {f : σ → σ} (hf : ∀ s, I s → I (f s)) :
    Within I E (modify f : EStateM ε σ PUnit) :=
  ⟨fun s u s' hI h => by rw [modify_ok h]; exact hf s hI, fun _ _ _ _ h => by cases h⟩

/-- A change of the state throws nothing. -/
instance {f : σ → σ} : Within (fun _ => True) E (modify f : EStateM ε σ PUnit) :=
  within_modify fun _ _ => trivial

instance {p : EStateM ε σ α} {f : α → EStateM ε σ β} [hp : Within I E p]
    [hf : ∀ a, Within I E (f a)] : Within I E (p >>= f) := by
  refine ⟨fun s b s' hI h => ?_, fun s e s' hI h => ?_⟩
  · obtain ⟨a, s₁, h₁, h₂⟩ := bind_ok h
    exact (hf a).ok s₁ b s' (hp.ok s a s₁ hI h₁) h₂
  · cases hrun : p.run s with
    | ok a s₁ =>
      rw [run_bind_of_ok hrun] at h
      exact (hf a).error s₁ e s' (hp.ok s a s₁ hI hrun) h
    | error e₁ s₁ =>
      rw [run_bind_of_error hrun] at h
      cases h
      exact hp.error s _ _ hI hrun

instance {c : Prop} [Decidable c] {p q : EStateM ε σ α} [hp : Within I E p] [hq : Within I E q] :
    Within I E (if c then p else q) := by
  by_cases h : c
  · rwa [if_pos h]
  · rwa [if_neg h]

instance {o : Option α} {p : EStateM ε σ β} {f : α → EStateM ε σ β} [hp : Within I E p]
    [hf : ∀ a, Within I E (f a)] : Within I E (o.elim p f) := by
  cases o with
  | none => exact hp
  | some a => exact hf a

instance {f : α → EStateM ε σ PUnit} [hf : ∀ a, Within I E (f a)] (l : List α) :
    Within I E (l.forM f) := by
  induction l with
  | nil => exact inferInstanceAs (Within I E (pure PUnit.unit))
  | cons a rest ih => exact inferInstanceAs (Within I E (f a >>= fun _ => rest.forM f))

/-- What throws nothing finishes. -/
theorem Within.exists_ok {p : EStateM ε σ α} (h : Within I (fun _ => False) p) {s : σ} (hI : I s) :
    ∃ a s', p.run s = .ok a s' ∧ I s' := by
  cases hrun : p.run s with
  | ok a s' => exact ⟨a, s', rfl, h.ok s a s' hI hrun⟩
  | error e s' => exact (h.error s e s' hI hrun).1.elim

end Within

/-! ## Programs that throw only what they may -/

/-- From a state in `P` the program throws only what is in `E`. -/
def Confined (P : σ → Prop) (E : ε → Prop) (p : EStateM ε σ α) : Prop :=
  ∀ s e s', P s → p.run s = .error e s' → E e

section Confined

variable {P : σ → Prop} {E : ε → Prop}

theorem confined_of_within {p : EStateM ε σ α} [h : Within (fun _ => True) E p] : Confined P E p :=
  fun s e s' _ hrun => (h.error s e s' trivial hrun).1

theorem Confined.mono {Q : σ → Prop} {p : EStateM ε σ α} (h : Confined Q E p)
    (hPQ : ∀ s, P s → Q s) : Confined P E p :=
  fun s e s' hs hrun => h s e s' (hPQ s hs) hrun

theorem Confined.imp {E' : ε → Prop} {p : EStateM ε σ α} (h : Confined P E p)
    (hE : ∀ e, E e → E' e) : Confined P E' p :=
  fun s e s' hs hrun => hE e (h s e s' hs hrun)

/-- The rest begins where the beginning leads. -/
theorem Confined.bind {Q : α → σ → Prop} {p : EStateM ε σ α} {f : α → EStateM ε σ β}
    (hp : Confined P E p) (hQ : ∀ s a s', P s → p.run s = .ok a s' → Q a s')
    (hf : ∀ a, Confined (Q a) E (f a)) : Confined P E (p >>= f) := by
  intro s e s' hs h
  cases hrun : p.run s with
  | ok a s₁ =>
    rw [run_bind_of_ok hrun] at h
    exact hf a s₁ e s' (hQ s a s₁ hs hrun) h
  | error e₁ s₁ =>
    rw [run_bind_of_error hrun] at h
    cases h
    exact hp s _ _ hs hrun

theorem Confined.get_bind {f : σ → EStateM ε σ β} (hf : ∀ s, Confined (fun t => t = s ∧ P s) E (f s)) :
    Confined P E (get >>= f) :=
  fun s e s' hs h => hf s s e s' ⟨rfl, hs⟩ h

theorem Confined.ite {c : Prop} [Decidable c] {p q : EStateM ε σ α} (hp : c → Confined P E p)
    (hq : ¬c → Confined P E q) : Confined P E (if c then p else q) := by
  by_cases h : c
  · rw [if_pos h]
    exact hp h
  · rw [if_neg h]
    exact hq h

/-- A loop by its turns, which keep `P`. -/
theorem Confined.forM {f : α → EStateM ε σ PUnit} {l : List α}
    (hP : ∀ a ∈ l, ∀ s u s', P s → (f a).run s = .ok u s' → P s')
    (hf : ∀ a ∈ l, Confined P E (f a)) : Confined P E (l.forM f) := by
  intro s e s' hs h
  obtain ⟨before, a, after, t, rfl, hbefore, hturn⟩ := exists_turn_of_error h
  refine hf a (by simp) t e s' ?_ hturn
  refine forM_ok (P := fun rest t => rest ⊆ before ++ a :: after ∧ P t)
    (fun b rest t t' u ht hrun => ?_) ⟨List.subset_append_left _ _, hs⟩ hbefore |>.2
  obtain ⟨hb, hrest⟩ := List.cons_subset.mp ht.1
  exact ⟨hrest, hP b hb t u t' ht.2 hrun⟩

end Confined

/-- The value is there, or the error is in `E`. -/
class Throws (E : ε → Prop) (x : Except ε α) : Prop where
  error : ∀ e, x = .error e → E e

section Throws

variable {E : ε → Prop}

instance {a : α} : Throws E (pure a : Except ε α) := ⟨fun _ h => by cases h⟩

theorem Throws.bind {x : Except ε α} {f : α → Except ε β} (hx : Throws E x)
    (hf : ∀ a, Throws E (f a)) : Throws E (x >>= f) := by
  refine ⟨fun e h => ?_⟩
  cases x with
  | ok a => exact (hf a).error e h
  | error e' =>
    cases h
    exact hx.error _ rfl

end Throws

end NetFramework.Lib
