import Mathlib.Data.Multiset.AddSub

/-!
# Foundations/Resources — handles that are given out and have to be given back

A `Ledger` knows the handles that are live.  A command works on an object and on the ledger; it may
throw, and then leaves what it has done; and it faults when it touches or gives back a handle that
is not live.  `Leads` is what a command does where it does not fault, with a rule for each
construct.
-/

namespace Foundations

/-- The handles given out so far are those below `next`; some of them are live. -/
structure Ledger where
  next : ℕ
  live : Multiset ℕ
  nodup : live.Nodup
  lt_next : ∀ h ∈ live, h < next

namespace Ledger

/-- Nothing given out. -/
def empty : Ledger := ⟨0, 0, Multiset.nodup_zero, fun _ h => absurd h (Multiset.notMem_zero _)⟩

/-- A handle given out, a new one. -/
def acquire (L : Ledger) : Ledger where
  next := L.next + 1
  live := L.next ::ₘ L.live
  nodup := Multiset.nodup_cons.mpr ⟨fun h => absurd (L.lt_next _ h) (lt_irrefl _), L.nodup⟩
  lt_next h hh := by
    obtain rfl | hmem := Multiset.mem_cons.mp hh
    · exact Nat.lt_succ_self _
    · exact Nat.lt_succ_of_lt (L.lt_next h hmem)

/-- A handle given back. -/
def release (L : Ledger) (h : ℕ) : Ledger where
  next := L.next
  live := L.live.erase h
  nodup := L.nodup.erase h
  lt_next k hk := L.lt_next k (Multiset.mem_of_mem_erase hk)

@[simp] theorem live_empty : empty.live = 0 := rfl

@[simp] theorem live_acquire (L : Ledger) : L.acquire.live = L.next ::ₘ L.live := rfl

@[simp] theorem live_release (L : Ledger) (h : ℕ) : (L.release h).live = L.live.erase h := rfl

end Ledger

/-- An object, and the handles around it. -/
structure Owner (σ : Type) where
  fields : σ
  ledger : Ledger

/-- A command: `none` is a fault, an error is thrown. -/
def Cmd (σ ε α : Type) : Type := Owner σ → Option (Except ε α × Owner σ)

namespace Cmd

variable {σ ε α β : Type}

instance : Monad (Cmd σ ε) where
  pure a s := some (.ok a, s)
  bind c f s := match c s with
    | none => none
    | some (.ok a, s) => f a s
    | some (.error e, s) => some (.error e, s)

/-- `throw`. -/
def throw (e : ε) : Cmd σ ε α := fun s => some (.error e, s)

/-- What no program should do. -/
def fault : Cmd σ ε α := fun _ => none

/-- The object. -/
def fields : Cmd σ ε σ := fun s => some (.ok s.fields, s)

/-- An assignment to the object. -/
def modify (f : σ → σ) : Cmd σ ε Unit := fun s => some (.ok (), { s with fields := f s.fields })

/-- A new handle. -/
def acquire : Cmd σ ε ℕ := fun s => some (.ok s.ledger.next, { s with ledger := s.ledger.acquire })

/-- A handle given back. -/
def release (h : ℕ) : Cmd σ ε Unit := fun s =>
  if h ∈ s.ledger.live then some (.ok (), { s with ledger := s.ledger.release h }) else none

/-- A handle touched. -/
def use (h : ℕ) : Cmd σ ε Unit := fun s => if h ∈ s.ledger.live then some (.ok (), s) else none

/-- A pointer followed: the null pointer faults. -/
def follow : Option ℕ → Cmd σ ε Unit
  | some h => use h
  | none => fault

/-! ## What a command leads to -/

/-- The command does not fault, and what it returns or throws, and leaves, satisfies `Q`. -/
def Leads (c : Cmd σ ε α) (s : Owner σ) (Q : Except ε α → Owner σ → Prop) : Prop :=
  ∃ r t, c s = some (r, t) ∧ Q r t

variable {s : Owner σ} {Q : Except ε α → Owner σ → Prop}

theorem leads_of_eq {c : Cmd σ ε α} {r : Except ε α} {t : Owner σ} (h : c s = some (r, t)) :
    c.Leads s Q ↔ Q r t := by
  constructor
  · rintro ⟨r', t', h', hQ⟩
    obtain ⟨rfl, rfl⟩ := Prod.mk.inj (Option.some.inj (h.symm.trans h'))
    exact hQ
  · intro hQ
    exact ⟨r, t, h, hQ⟩

@[simp] theorem leads_pure (a : α) : (pure a : Cmd σ ε α).Leads s Q ↔ Q (.ok a) s :=
  leads_of_eq rfl

@[simp] theorem leads_throw (e : ε) : (throw e : Cmd σ ε α).Leads s Q ↔ Q (.error e) s :=
  leads_of_eq rfl

/-- **One command after another.** -/
@[simp] theorem leads_bind (c : Cmd σ ε β) (f : β → Cmd σ ε α) :
    (c >>= f).Leads s Q ↔ c.Leads s fun r t => match r with
      | .ok b => (f b).Leads t Q
      | .error e => Q (.error e) t := by
  constructor
  · rintro ⟨r, t, h, hQ⟩
    change (match c s with
      | none => none
      | some (.ok a, s) => f a s
      | some (.error e, s) => some (.error e, s)) = some (r, t) at h
    split at h
    · exact nomatch h
    · next b u hc => exact ⟨.ok b, u, hc, r, t, h, hQ⟩
    · next e u hc =>
      obtain ⟨rfl, rfl⟩ := Prod.mk.inj (Option.some.inj h)
      exact ⟨.error e, u, hc, hQ⟩
  · rintro ⟨r, t, hc, h⟩
    have hbind : (c >>= f) s = match c s with
      | none => none
      | some (.ok a, s) => f a s
      | some (.error e, s) => some (.error e, s) := rfl
    rw [hc] at hbind
    cases r with
    | ok b =>
      obtain ⟨r', t', hf, hQ⟩ := h
      exact ⟨r', t', hbind.trans hf, hQ⟩
    | error e => exact ⟨.error e, t, hbind, h⟩

@[simp] theorem leads_fields {Q : Except ε σ → Owner σ → Prop} :
    (fields : Cmd σ ε σ).Leads s Q ↔ Q (.ok s.fields) s :=
  leads_of_eq rfl

@[simp] theorem leads_modify (f : σ → σ) {Q : Except ε Unit → Owner σ → Prop} :
    (modify f).Leads s Q ↔ Q (.ok ()) { s with fields := f s.fields } :=
  leads_of_eq rfl

@[simp] theorem leads_acquire {Q : Except ε ℕ → Owner σ → Prop} :
    (acquire : Cmd σ ε ℕ).Leads s Q
      ↔ Q (.ok s.ledger.next) { s with ledger := s.ledger.acquire } :=
  leads_of_eq rfl

@[simp] theorem not_leads_fault : ¬ (fault : Cmd σ ε α).Leads s Q := by
  rintro ⟨r, t, h, -⟩
  exact nomatch h

@[simp] theorem leads_release (h : ℕ) {Q : Except ε Unit → Owner σ → Prop} :
    (release h).Leads s Q
      ↔ h ∈ s.ledger.live ∧ Q (.ok ()) { s with ledger := s.ledger.release h } := by
  by_cases hlive : h ∈ s.ledger.live
  · rw [leads_of_eq (if_pos hlive)]
    exact (and_iff_right hlive).symm
  · refine ⟨fun ⟨r, t, heq, _⟩ => ?_, fun hand => absurd hand.1 hlive⟩
    exact nomatch (if_neg hlive).symm.trans heq

@[simp] theorem leads_use (h : ℕ) {Q : Except ε Unit → Owner σ → Prop} :
    (use h).Leads s Q ↔ h ∈ s.ledger.live ∧ Q (.ok ()) s := by
  by_cases hlive : h ∈ s.ledger.live
  · rw [leads_of_eq (if_pos hlive)]
    exact (and_iff_right hlive).symm
  · refine ⟨fun ⟨r, t, heq, _⟩ => ?_, fun hand => absurd hand.1 hlive⟩
    exact nomatch (if_neg hlive).symm.trans heq

/-- **Consequence.** -/
theorem Leads.mono {c : Cmd σ ε α} {Q' : Except ε α → Owner σ → Prop} (h : c.Leads s Q)
    (hQ : ∀ r t, Q r t → Q' r t) : c.Leads s Q' := by
  obtain ⟨r, t, heq, hpost⟩ := h
  exact ⟨r, t, heq, hQ r t hpost⟩

/-- The command neither faults nor throws, and what it returns and leaves satisfies `P`. -/
def Returns (c : Cmd σ ε α) (s : Owner σ) (P : α → Owner σ → Prop) : Prop :=
  c.Leads s fun r t => ∃ a, r = .ok a ∧ P a t

/-- **What follows a command that returns.** -/
theorem Returns.bind {c : Cmd σ ε β} {f : β → Cmd σ ε α} {P : β → Owner σ → Prop}
    (h : c.Returns s P) (hf : ∀ b t, P b t → (f b).Leads t Q) : (c >>= f).Leads s Q := by
  rw [leads_bind]
  refine Leads.mono h fun r t ⟨b, hr, hP⟩ => ?_
  subst hr
  exact hf b t hP

end Cmd

end Foundations
