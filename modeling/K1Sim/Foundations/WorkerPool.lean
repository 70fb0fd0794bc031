import K1Sim.Foundations.LastWrite
import K1Sim.Foundations.Machine
import Mathlib.Data.List.Perm.Basic

/-!
# Foundations/WorkerPool — tasks queued in order, finished in any order

Emitted tasks wait in a first-in first-out queue; at most `threads` of them run at a time, and a
running task may take effect before or after any other running one.  The trace of a run is the
order in which the tasks took effect.  Nothing is lost or done twice (`perm_emitted`), and the
shared state is the effects in that order (`state_run`); the emission order is not kept.
-/

namespace Foundations

variable {τ σ : Type*}

/-- A pool: the tasks not started, those in flight, and the state their effects act on. -/
structure Pool (τ σ : Type*) where
  queue : List τ
  running : List τ
  state : σ

/-- What can happen to a pool; `finish i` is the effect of the `i`-th task in flight. -/
inductive PoolEvent (τ : Type*) where
  | emit (t : τ)
  | start
  | finish (i : ℕ)

namespace Pool

/-- The pool of `threads` workers whose tasks act by `effect`.  Its output is the task that took
effect. -/
def machine (threads : ℕ) (effect : σ → τ → σ) : Machine (Pool τ σ) (PoolEvent τ) τ where
  next p
    | .emit t => { p with queue := p.queue ++ [t] }
    | .start =>
      match p.queue with
      | [] => p
      | t :: rest =>
        if p.running.length < threads then
          { p with queue := rest, running := p.running ++ [t] }
        else p
    | .finish i =>
      match p.running[i]? with
      | none => p
      | some t => { p with running := p.running.eraseIdx i, state := effect p.state t }
  out p
    | .finish i => p.running[i]?
    | _ => none

/-- The tasks a word emits, in order. -/
def emitted : List (PoolEvent τ) → List τ
  | [] => []
  | .emit t :: es => t :: emitted es
  | .start :: es => emitted es
  | .finish _ :: es => emitted es

/-- The tasks that have not taken effect. -/
def pending (p : Pool τ σ) : List τ := p.running ++ p.queue

/-- Nothing waits and nothing is in flight. -/
def Quiet (p : Pool τ σ) : Prop := p.pending = []

variable (threads : ℕ) (effect : σ → τ → σ)

@[simp] theorem pending_emit (p : Pool τ σ) (t : τ) :
    ((machine threads effect).next p (.emit t)).pending = p.pending ++ [t] :=
  (List.append_assoc _ _ _).symm

theorem start_frame (p : Pool τ σ) :
    ((machine threads effect).next p .start).pending = p.pending
      ∧ ((machine threads effect).next p .start).state = p.state := by
  obtain ⟨queue, running, state⟩ := p
  rcases queue with - | ⟨t, rest⟩
  case nil => exact ⟨rfl, rfl⟩
  case cons => by_cases hlt : running.length < threads <;> simp [machine, pending, hlt]

theorem finish_of_getElem? {p : Pool τ σ} {i : ℕ} {t : τ} (hi : p.running[i]? = some t) :
    (machine threads effect).next p (.finish i)
      = { p with running := p.running.eraseIdx i, state := effect p.state t } := by
  simp [machine, hi]

theorem finish_of_none {p : Pool τ σ} {i : ℕ} (hi : p.running[i]? = none) :
    (machine threads effect).next p (.finish i) = p := by
  simp [machine, hi]

/-- **One event moves tasks along**: what it emits is added to the pending tasks, what it shows is
taken from them. -/
theorem pending_next_perm (p : Pool τ σ) (e : PoolEvent τ) :
    (((machine threads effect).out p e).toList ++ ((machine threads effect).next p e).pending).Perm
      (p.pending ++ emitted [e]) := by
  rcases e with t | - | i
  case emit => simp [machine, pending, emitted]
  case start =>
    rcases hq : p.queue with - | ⟨t, rest⟩
    case nil => simp [machine, pending, emitted, hq]
    case cons =>
      by_cases hlt : p.running.length < threads
      · simp [machine, pending, emitted, hq, hlt]
      · simp [machine, pending, emitted, hq, hlt]
  case finish =>
    rcases hi : p.running[i]? with - | t
    case none => simp [machine, pending, emitted, hi]
    case some =>
      obtain ⟨hlt, rfl⟩ := List.getElem?_eq_some_iff.mp hi
      have hcons : (p.running[i] :: p.running.eraseIdx i).Perm p.running :=
        List.getElem_cons_eraseIdx_perm hlt
      simpa [machine, pending, emitted, hi] using hcons.append_right p.queue

/-- **No task is lost and none is done twice**: the tasks that took effect and those pending are
those pending at the start and those emitted since. -/
theorem perm_emitted (es : List (PoolEvent τ)) (p : Pool τ σ) :
    ((machine threads effect).trace p es ++ ((machine threads effect).run p es).pending).Perm
      (p.pending ++ emitted es) := by
  induction es generalizing p with
  | nil => simp [emitted]
  | cons e es ih =>
    have hsplit : emitted (e :: es) = emitted [e] ++ emitted es := by rcases e <;> rfl
    rw [Machine.trace_cons, Machine.run_cons, hsplit, List.append_assoc]
    refine ((ih _).append_left _).trans ?_
    rw [← List.append_assoc, ← List.append_assoc]
    exact (pending_next_perm threads effect p e).append_right _

/-- **Once the pool is quiet, the tasks done are the tasks emitted**, in some order. -/
theorem trace_perm_emitted_of_quiet {p : Pool τ σ} (hp : p.Quiet) {es : List (PoolEvent τ)}
    (hq : ((machine threads effect).run p es).Quiet) :
    ((machine threads effect).trace p es).Perm (emitted es) := by
  have h := perm_emitted threads effect es p
  rwa [hp, hq, List.append_nil, List.nil_append] at h

theorem state_next (p : Pool τ σ) (e : PoolEvent τ) :
    ((machine threads effect).next p e).state
      = ((machine threads effect).out p e).toList.foldl effect p.state := by
  rcases e with t | - | i
  case emit => rfl
  case start =>
    rcases hq : p.queue with - | ⟨t, rest⟩
    case nil => simp [machine, hq]
    case cons => by_cases hlt : p.running.length < threads <;> simp [machine, hq, hlt]
  case finish => rcases hi : p.running[i]? with - | t <;> simp [machine, hi]

/-- **The state is the effects, in the order they were taken.** -/
theorem state_run (es : List (PoolEvent τ)) (p : Pool τ σ) :
    ((machine threads effect).run p es).state
      = ((machine threads effect).trace p es).foldl effect p.state := by
  induction es generalizing p with
  | nil => rfl
  | cons e es ih =>
    rw [Machine.run_cons, Machine.trace_cons, List.foldl_append, ← state_next]
    exact ih _

theorem run_map_emit (p : Pool τ σ) (ts : List τ) :
    (machine threads effect).run p (ts.map .emit) = { p with queue := p.queue ++ ts } := by
  induction ts generalizing p with
  | nil => simp
  | cons t ts ih =>
    rw [List.map_cons, Machine.run_cons, ih]
    simp [machine]

/-! ## A register the tasks write -/

variable {α : Type*}

/-- **Last to take effect wins.**  A register all of whose changes are writes by tasks holds what
the last writing task to take effect wrote. -/
theorem register_run {read : σ → α} {f : τ → Option α}
    (hread : ∀ s t, read (effect s t) = (f t).getD (read s)) (p : Pool τ σ)
    (es : List (PoolEvent τ)) :
    read ((machine threads effect).run p es).state
      = (lastWrite f ((machine threads effect).trace p es)).getD (read p.state) := by
  rw [state_run]
  exact register_foldl hread _ _

/-- **A write that nothing of its kind can overtake is the last**: emitted when no write is pending
and followed by none. -/
theorem lastWrite_of_settled {f : τ → Option α} {p : Pool τ σ} {es fs : List (PoolEvent τ)} {t : τ}
    {a : α} (ht : f t = some a)
    (hsettled : ∀ u ∈ ((machine threads effect).run p es).pending, f u = none)
    (hlast : ∀ u ∈ emitted fs, f u = none)
    (hq : ((machine threads effect).run p (es ++ .emit t :: fs)).Quiet) :
    lastWrite f ((machine threads effect).trace p (es ++ .emit t :: fs)) = some a := by
  set q := (machine threads effect).run p es with hqdef
  have hrun := perm_emitted threads effect (.emit t :: fs) q
  rw [Machine.run_append, ← hqdef] at hq
  rw [hq, List.append_nil] at hrun
  have hwrites : ((machine threads effect).trace q (.emit t :: fs)).filterMap f = [a] := by
    have hperm := hrun.filterMap f
    have hpending : q.pending.filterMap f = [] := List.filterMap_eq_nil_iff.mpr hsettled
    have hemitted : (emitted (.emit t :: fs)).filterMap f = [a] := by
      rw [emitted, List.filterMap_cons_some ht, List.filterMap_eq_nil_iff.mpr hlast]
    rw [List.filterMap_append, hpending, hemitted, List.nil_append] at hperm
    exact List.perm_singleton.mp hperm
  rw [Machine.trace_append, lastWrite_append, ← hqdef, lastWrite, hwrites]
  rfl

/-! ## Overtaking

Tasks are emitted in the order of a key.  The tasks in flight that one emitted later has overtaken
are always the foremost of them, so their number says which they are. -/

/-- The tasks not done are in the order of their keys; the foremost `overtaken` of those in flight
come before the last to take effect, all the others after it. -/
structure InTurn (key : τ → ℕ) (latest : Option ℕ) (overtaken : ℕ) (p : Pool τ σ) : Prop where
  sorted : p.pending.Pairwise fun t u => key t < key u
  le_length : overtaken ≤ p.running.length
  behind : ∀ t ∈ p.running.take overtaken, ∀ k ∈ latest, key t < k
  ahead : ∀ t ∈ p.running.drop overtaken ++ p.queue, ∀ k ∈ latest, k < key t

namespace InTurn

variable {key : τ → ℕ} {latest : Option ℕ} {overtaken : ℕ} {p : Pool τ σ}

theorem emit (h : InTurn key latest overtaken p) {t : τ} (hnew : ∀ u ∈ p.pending, key u < key t)
    (hlatest : ∀ k ∈ latest, k < key t) :
    InTurn key latest overtaken ((machine threads effect).next p (.emit t)) := by
  refine ⟨?_, h.le_length, h.behind, ?_⟩
  · rw [pending_emit, List.pairwise_append]
    refine ⟨h.sorted, List.pairwise_singleton _ _, fun u hu v hv => ?_⟩
    obtain rfl := List.mem_singleton.mp hv
    exact hnew u hu
  · change ∀ u ∈ p.running.drop overtaken ++ (p.queue ++ [t]), _
    rw [← List.append_assoc]
    intro u hu
    rcases List.mem_append.mp hu with hold | hlast
    · exact h.ahead u hold
    · obtain rfl := List.mem_singleton.mp hlast
      exact hlatest

theorem start (h : InTurn key latest overtaken p) :
    InTurn key latest overtaken ((machine threads effect).next p .start) := by
  obtain ⟨queue, running, state⟩ := p
  rcases queue with - | ⟨t, rest⟩
  case nil => exact h
  case cons =>
    by_cases hlt : running.length < threads
    case neg => simpa [machine, hlt] using h
    case pos =>
      obtain ⟨hsorted, hle, hbehind, hahead⟩ := h
      simp only [pending] at hsorted hle hbehind hahead
      refine ⟨?_, ?_, ?_, ?_⟩ <;> simp only [machine, pending, if_pos hlt]
      · rwa [List.append_assoc]
      · rw [List.length_append]
        exact Nat.le_add_right_of_le hle
      · rwa [List.take_append_of_le_length hle]
      · rwa [List.drop_append_of_le_length hle, List.append_assoc]

/-- **A task in flight comes after the last to take effect exactly when it has not been
overtaken.** -/
theorem after_latest_iff (h : InTurn key latest overtaken p) (hnone : latest = none → overtaken = 0)
    {i : ℕ} {t : τ} (hi : p.running[i]? = some t) :
    (∀ k ∈ latest, k < key t) ↔ overtaken ≤ i := by
  obtain ⟨hlt, rfl⟩ := List.getElem?_eq_some_iff.mp hi
  constructor
  · intro hafter
    by_contra hover
    rcases hlatest : latest with - | k
    case none => exact hover (by simp [hnone hlatest])
    case some =>
      have hmem : p.running[i] ∈ p.running.take overtaken :=
        List.mem_take_iff_getElem.mpr ⟨i, by omega, rfl⟩
      exact Nat.lt_asymm (hafter k hlatest) (h.behind _ hmem k hlatest)
  · intro hturn
    have hmem : p.running[i] ∈ p.running.drop overtaken :=
      List.mem_drop_iff_getElem.mpr ⟨i - overtaken, by omega, by simp [hturn]⟩
    exact h.ahead _ (List.mem_append_left _ hmem)

/-- The one that takes effect leaves those before it behind. -/
theorem finish (h : InTurn key latest overtaken p) {i : ℕ} {t : τ}
    (hi : p.running[i]? = some t) :
    InTurn key (some (key t)) i ((machine threads effect).next p (.finish i)) := by
  obtain ⟨hlt, rfl⟩ := List.getElem?_eq_some_iff.mp hi
  have hsplit : p.running = p.running.take i ++ p.running[i] :: p.running.drop (i + 1) := by
    rw [← List.drop_eq_getElem_cons hlt, List.take_append_drop]
  have herase : p.running.eraseIdx i = p.running.take i ++ p.running.drop (i + 1) :=
    List.eraseIdx_eq_take_drop_succ _ _
  have hlen : (p.running.take i).length = i := List.length_take_of_le (Nat.le_of_lt hlt)
  have hsorted := h.sorted
  rw [pending, hsplit, List.append_assoc, List.cons_append] at hsorted
  obtain ⟨-, hrest, hbefore⟩ := List.pairwise_append.mp hsorted
  rw [finish_of_getElem? threads effect hi]
  refine ⟨?_, ?_, ?_, ?_⟩
  · refine h.sorted.sublist ?_
    exact (List.eraseIdx_sublist _ _).append_right _
  · simp only [herase, List.length_append, hlen]
    exact Nat.le_add_right _ _
  · simp only [herase, List.take_left' hlen, Option.mem_some_iff, forall_eq']
    exact fun u hu => hbefore u hu _ List.mem_cons_self
  · simp only [herase, List.drop_left' hlen, Option.mem_some_iff, forall_eq']
    exact (List.pairwise_cons.mp hrest).1

/-- A task whose effect counts for nothing leaves the others in turn. -/
theorem drop (h : InTurn key none 0 p) (i : ℕ) :
    InTurn key none 0 ((machine threads effect).next p (.finish i)) := by
  rcases hi : p.running[i]? with - | t
  case none => rwa [finish_of_none threads effect hi]
  case some =>
    rw [finish_of_getElem? threads effect hi]
    refine ⟨h.sorted.sublist ((List.eraseIdx_sublist _ _).append_right _), Nat.zero_le _, ?_, ?_⟩
    · exact fun _ _ _ hk => nomatch hk
    · exact fun _ _ _ hk => nomatch hk

end InTurn

end Pool

end Foundations
