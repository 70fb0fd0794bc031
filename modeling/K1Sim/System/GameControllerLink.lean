import K1Sim.Supervisor.WireFormat
import K1Sim.System.SimData

/-!
# System/GameControllerLink — from a datagram to the data

The supervisor's reactor stores the three pointers that the simulation hands out, one atomic store
after the other, and loads them for each GameController datagram, one atomic load after the other,
before it takes the sim mutex.  Beside it the other modules go on taking their turns at the mutex.
`datagrams_delivered`: whatever the order of all these steps, the data is what the packets and the
turns make of it, and a packet is lost only while another is being handled or before the pointers
are there.
-/

namespace K1Sim

open Foundations

/-- The packet of a turn at the mutex. -/
def SimAccess.packet? {K ρ : Type*} : SimAccess K ρ → Option Gc.GameControllerPacket
  | .packet pkt => some pkt
  | _ => none

namespace GameControllerLink

/-- The pointers that `Supervisor` keeps. -/
inductive Pointer where
  | model | data | simMutex
  deriving DecidableEq

/-- The order in which both reactions go through the pointers. -/
def Pointer.order : List Pointer := [.model, .data, .simMutex]

theorem mem_order (p : Pointer) : p ∈ Pointer.order := by
  cases p <;> decide

/-- The UDP reaction under way: with its payload yet to be parsed, or with the packet, the loads to
come, and whether all loads so far have found a pointer. -/
inductive Handler where
  | parsing (payload : List UInt8)
  | loading (pkt : Gc.GameControllerPacket) (toLoad : List Pointer) (ready : Bool)

/-- `Supervisor` beside the data: which pointers are set, the stores to come of the reaction to
`SimHandles`, the UDP reaction, and the log. -/
structure Link (K ρ δ : Type*) [Field K] where
  sim : SimData K ρ δ
  pointers : Pointer → Bool := fun _ => false
  storing : List Pointer := []
  handler : Option Handler := none
  log : List Action := []

/-- What happens: `SimHandles` is emitted, its reaction stores the next pointer, a datagram comes
in, the UDP reaction goes on by a step, or another module takes its turn at the mutex. -/
inductive LinkEvent (K ρ : Type*) where
  | handles
  | store
  | datagram (payload : List UInt8)
  | handler
  | access (a : { a : SimAccess K ρ // a.packet? = none })

/-- The packet in a payload, as the reaction parses it into an empty struct. -/
def recognise (payload : List UInt8) : Option Gc.GameControllerPacket :=
  let parsed := Gc.tryParse (some payload) (Gc.packetLayout.read (Memory.ofList []) 0)
  if parsed.1 then some parsed.2.packet else none

/-- The packet in a datagram. -/
def LinkEvent.packet? {K ρ : Type*} : LinkEvent K ρ → Option Gc.GameControllerPacket
  | .datagram payload => recognise payload
  | _ => none

/-- The turn of another module. -/
def LinkEvent.turn? {K ρ : Type*} : LinkEvent K ρ → Option (SimAccess K ρ)
  | .access a => some a.1
  | _ => none

/-- Whether the UDP reaction goes on. -/
def LinkEvent.isHandler {K ρ : Type*} : LinkEvent K ρ → Bool
  | .handler => true
  | _ => false

section Link

variable {K ρ δ : Type*} [Field K] [Libc K] [LinearOrder K] (P : Plant K ρ δ)

/-- A step of the UDP reaction: the payload parsed, a pointer loaded, or at last the packet under
the sim mutex, if all pointers were there. -/
def goOn (s : Link K ρ δ) : Handler → Link K ρ δ
  | .parsing payload =>
    { s with handler := (recognise payload).map fun pkt => .loading pkt Pointer.order true }
  | .loading pkt (p :: ps) ready =>
    { s with handler := some (.loading pkt ps (ready && s.pointers p)) }
  | .loading pkt [] true =>
    { s with
      sim := P.next s.sim (.packet pkt)
      handler := none
      log := s.log ++ (s.sim.logic.process P.model.toMjModel s.sim.mj.data pkt).2.actions }
  | .loading _ [] false =>
    { s with
      handler := none
      log := s.log ++ [⟨.warn,
        "GameController packet received before the sim model was ready — ignoring"⟩] }

/-- What each step leaves.  The UDP reaction is a `Single` one: a datagram that comes in while it
is under way is dropped. -/
def next (listens : Bool) (s : Link K ρ δ) : LinkEvent K ρ → Link K ρ δ
  | .handles => { s with storing := s.storing ++ Pointer.order }
  | .store =>
    match s.storing with
    | [] => s
    | p :: ps => { s with pointers := Function.update s.pointers p true, storing := ps }
  | .datagram payload =>
    if listens && s.handler.isNone then
      { s with handler := some (.parsing payload) }
    else s
  | .handler => s.handler.elim s (goOn P s)
  | .access a => { s with sim := P.next s.sim a.1 }

/-- The simulator with the reactor, showing what the simulator shows. -/
def machine (headBodyId : ℕ) (listens : Bool) :
    Machine (Link K ρ δ) (LinkEvent K ρ) (HeadReading K) where
  next := next P listens
  out s
    | .access a => (P.machine headBodyId).out s.sim a.1
    | _ => none

omit [Libc K] [LinearOrder K] in
/-- The turn at the mutex that a step is. -/
def letter (s : Link K ρ δ) : LinkEvent K ρ → Option (SimAccess K ρ)
  | .access a => some a.1
  | .handler =>
    match s.handler with
    | some (.loading pkt [] true) => some (.packet pkt)
    | _ => none
  | _ => none

/-! ## One step -/

variable (headBodyId : ℕ) (listens : Bool)

/-- **What a step can do**: the turn at the mutex that it is, and the state it leaves. -/
inductive Step (s : Link K ρ δ) :
    LinkEvent K ρ → Option (SimAccess K ρ) → Link K ρ δ → Prop where
  | handles : Step s .handles none { s with storing := s.storing ++ Pointer.order }
  | stored {p : Pointer} {ps : List Pointer} (hstoring : s.storing = p :: ps) :
    Step s .store none { s with pointers := Function.update s.pointers p true, storing := ps }
  | allStored (hstoring : s.storing = []) : Step s .store none s
  | received (payload : List UInt8) (hlistens : listens = true) (hfree : s.handler = none) :
    Step s (.datagram payload) none { s with handler := some (.parsing payload) }
  | dropped (payload : List UInt8) (hbusy : listens = true → s.handler ≠ none) :
    Step s (.datagram payload) none s
  | idle (hfree : s.handler = none) : Step s .handler none s
  | parsed {payload : List UInt8} (hhandler : s.handler = some (.parsing payload)) :
    Step s .handler none
      { s with handler := (recognise payload).map fun pkt => .loading pkt Pointer.order true }
  | loaded {pkt : Gc.GameControllerPacket} {p : Pointer} {ps : List Pointer} {ready : Bool}
      (hhandler : s.handler = some (.loading pkt (p :: ps) ready)) :
    Step s .handler none { s with handler := some (.loading pkt ps (ready && s.pointers p)) }
  | processed {pkt : Gc.GameControllerPacket} (hhandler : s.handler = some (.loading pkt [] true))
      (log : List Action) :
    Step s .handler (some (.packet pkt))
      { s with sim := P.next s.sim (.packet pkt), handler := none, log := log }
  | refused {pkt : Gc.GameControllerPacket} (hhandler : s.handler = some (.loading pkt [] false))
      (log : List Action) :
    Step s .handler none { s with handler := none, log := log }
  | access (a : { a : SimAccess K ρ // a.packet? = none }) :
    Step s (.access a) (some a.1) { s with sim := P.next s.sim a.1 }

theorem step_next (s : Link K ρ δ) (e : LinkEvent K ρ) :
    Step P listens s e (letter s e) (next P listens s e) := by
  obtain ⟨sim, pointers, storing, handler, log⟩ := s
  cases e with
  | handles => exact .handles
  | store =>
    cases storing with
    | nil => exact .allStored rfl
    | cons p ps => exact .stored rfl
  | datagram payload =>
    cases listens with
    | false => exact .dropped payload nofun
    | true =>
      cases handler with
      | none => exact .received payload rfl rfl
      | some h => exact .dropped payload nofun
  | access a => exact .access a
  | handler =>
    cases handler with
    | none => exact .idle rfl
    | some h =>
      match h with
      | .parsing payload => exact .parsed rfl
      | .loading pkt (p :: ps) ready => exact .loaded rfl
      | .loading pkt [] true => exact .processed rfl _
      | .loading pkt [] false => exact .refused rfl _

namespace Step

variable {P} {listens} {s s' : Link K ρ δ} {e : LinkEvent K ρ} {k : Option (SimAccess K ρ)}

/-- **A step is a turn at the mutex, or leaves the data alone.** -/
theorem sim_eq (h : Step P listens s e k s') : s'.sim = k.elim s.sim (P.next s.sim) := by
  cases h <;> rfl

theorem out_eq (h : Step P listens s e k s') :
    (machine P headBodyId listens).out s e = k.bind ((P.machine headBodyId).out s.sim) := by
  cases h <;> rfl

/-- The other modules take their turns as they come. -/
theorem turn?_eq (h : Step P listens s e k s') :
    e.turn? = k.filter fun a => a.packet?.isNone := by
  cases h with
  | access a =>
    rw [LinkEvent.turn?, Option.filter_some, if_pos (Option.isNone_iff_eq_none.mpr a.2)]
  | _ => rfl

theorem pointers_mono (h : Step P listens s e k s') {q : Pointer} (hq : s.pointers q = true) :
    s'.pointers q = true := by
  cases h with
  | @stored p ps hstoring =>
    change Function.update s.pointers p true q = true
    rw [Function.update_apply]
    split_ifs
    · rfl
    · exact hq
  | _ => exact hq

end Step

/-- The packet of the UDP reaction, if its payload is one. -/
def Handler.packet? : Handler → Option Gc.GameControllerPacket
  | .parsing payload => recognise payload
  | .loading pkt _ _ => some pkt

/-- The packet that the UDP reaction has in hand. -/
def inHand (s : Link K ρ δ) : List Gc.GameControllerPacket :=
  (s.handler.bind Handler.packet?).toList

/-- **A packet is taken in hand when it comes in, and handed on once, or dropped.** -/
theorem Step.inHand_sublist {P} {listens} {s s' : Link K ρ δ} {e : LinkEvent K ρ}
    {k : Option (SimAccess K ρ)} (h : Step P listens s e k s') :
    ((k.bind SimAccess.packet?).toList ++ inHand s').Sublist (inHand s ++ e.packet?.toList) := by
  cases h with
  | handles => exact List.sublist_append_left _ _
  | stored => exact List.sublist_append_left _ _
  | allStored => exact List.sublist_append_left _ _
  | received payload hlistens hfree =>
    rw [inHand, inHand, hfree]
    exact List.Sublist.refl _
  | dropped payload => exact List.sublist_append_left _ _
  | idle => exact List.sublist_append_left _ _
  | @parsed payload hhandler =>
    have hpkt : ((recognise payload).map fun pkt => .loading pkt Pointer.order true).bind
        Handler.packet? = recognise payload := by
      cases recognise payload <;> rfl
    rw [inHand, inHand, hhandler, hpkt]
    exact List.sublist_append_left _ _
  | loaded hhandler =>
    rw [inHand, inHand, hhandler]
    exact List.sublist_append_left _ _
  | processed hhandler =>
    rw [inHand, inHand, hhandler]
    exact List.Sublist.refl _
  | refused => exact List.nil_sublist _
  | access a =>
    rw [Option.bind_some, a.2]
    exact List.sublist_append_left _ _

/-! ## Runs -/

/-- The turns at the mutex of a run. -/
def turns (s : Link K ρ δ) (es : List (LinkEvent K ρ)) : List (SimAccess K ρ) :=
  (machine P headBodyId listens).word letter s es

/-- The packets that a run hands on to the logic. -/
def handedOn (s : Link K ρ δ) (es : List (LinkEvent K ρ)) : List Gc.GameControllerPacket :=
  (turns P headBodyId listens s es).filterMap SimAccess.packet?

theorem handedOn_cons (s : Link K ρ δ) (e : LinkEvent K ρ) (es : List (LinkEvent K ρ)) :
    handedOn P headBodyId listens s (e :: es)
      = ((letter s e).bind SimAccess.packet?).toList
        ++ handedOn P headBodyId listens (next P listens s e) es := by
  rw [handedOn, turns, Machine.word, List.filterMap_append]
  cases letter s e with
  | none => rfl
  | some a => cases a <;> rfl

omit [Field K] [Libc K] [LinearOrder K] in
theorem filterMap_cons_toList {α : Type*} (f : LinkEvent K ρ → Option α) (e : LinkEvent K ρ)
    (es : List (LinkEvent K ρ)) : (e :: es).filterMap f = (f e).toList ++ es.filterMap f := by
  cases hf : f e with
  | none => exact List.filterMap_cons_none hf
  | some a => exact List.filterMap_cons_some hf

/-- **In order, and none twice.** -/
theorem handedOn_sublist (es : List (LinkEvent K ρ)) (s : Link K ρ δ) :
    (handedOn P headBodyId listens s es).Sublist (inHand s ++ es.filterMap LinkEvent.packet?) := by
  induction es generalizing s with
  | nil => exact List.nil_sublist _
  | cons e es ih =>
    have hrest := (ih (next P listens s e)).append_left ((letter s e).bind SimAccess.packet?).toList
    have hstep := (step_next P listens s e).inHand_sublist.append_right
      (es.filterMap LinkEvent.packet?)
    rw [List.append_assoc] at hstep
    rw [handedOn_cons, filterMap_cons_toList, ← List.append_assoc]
    exact hrest.trans hstep

/-- The steps that the UDP reaction has left. -/
def Handler.left : Handler → ℕ
  | .parsing _ => Pointer.order.length + 2
  | .loading _ toLoad _ => toLoad.length + 1

/-- A reaction to a packet, with all pointers found so far. -/
def Handler.Finds (pkt : Gc.GameControllerPacket) : Handler → Prop
  | .parsing payload => recognise payload = some pkt
  | .loading pkt' _ ready => pkt' = pkt ∧ ready = true

/-- **What is in hand gets through**: with all pointers found so far and all of them set, the steps
of the UDP reaction that are left hand the packet on, whatever else happens in between. -/
theorem handedOn_of_inHand {pkt : Gc.GameControllerPacket} (es : List (LinkEvent K ρ))
    {h : Handler} (hfinds : h.Finds pkt) {s : Link K ρ δ} (hhandler : s.handler = some h)
    (hset : ∀ p, s.pointers p = true) (hsteps : h.left ≤ es.countP LinkEvent.isHandler) :
    ∃ rest, handedOn P headBodyId listens s es = pkt :: rest := by
  induction es generalizing s h with
  | nil => cases h <;> exact absurd hsteps (Nat.not_succ_le_zero _)
  | cons e es ih =>
    have hstep := step_next P listens s e
    have hset' : ∀ p, (next P listens s e).pointers p = true :=
      fun p => hstep.pointers_mono (hset p)
    rw [handedOn_cons]
    generalize letter s e = k at hstep ⊢
    generalize hnext : next P listens s e = s' at hstep hset' ⊢
    -- a step of another reaction leaves the packet in hand
    have hother (hstay : s'.handler = some h) (hk : k.bind SimAccess.packet? = none)
        (he : LinkEvent.isHandler e = false) :
        ∃ rest, (k.bind SimAccess.packet?).toList ++ handedOn P headBodyId listens s' es
          = pkt :: rest := by
      rw [List.countP_cons_of_neg (Bool.eq_false_iff.mp he)] at hsteps
      rw [hk]
      exact ih hfinds hstay hset' hsteps
    cases hstep with
    | handles => exact hother hhandler rfl rfl
    | stored => exact hother hhandler rfl rfl
    | allStored => exact hother hhandler rfl rfl
    | dropped payload => exact hother hhandler rfl rfl
    | access a => exact hother hhandler a.2 rfl
    | received payload hlistens hfree =>
      exact absurd (hhandler.symm.trans hfree) (Option.some_ne_none h)
    | idle hfree => exact absurd (hhandler.symm.trans hfree) (Option.some_ne_none h)
    | parsed hhandler' =>
      obtain rfl := Option.some.inj (hhandler.symm.trans hhandler')
      rw [List.countP_cons_of_pos rfl] at hsteps
      refine ih (h := .loading pkt Pointer.order true) ⟨rfl, rfl⟩ ?_ hset' ?_
      · exact congrArg (Option.map _) hfinds
      · exact Nat.le_of_succ_le_succ hsteps
    | @loaded pkt' p ps ready hhandler' =>
      obtain rfl := Option.some.inj (hhandler.symm.trans hhandler')
      rw [List.countP_cons_of_pos rfl] at hsteps
      refine ih (h := .loading pkt' ps (ready && s.pointers p)) ⟨hfinds.1, ?_⟩ rfl hset' ?_
      · exact Bool.and_eq_true_iff.mpr ⟨hfinds.2, hset p⟩
      · exact Nat.le_of_succ_le_succ hsteps
    | processed hhandler' =>
      obtain rfl := Option.some.inj (hhandler.symm.trans hhandler')
      obtain ⟨rfl, -⟩ := hfinds
      exact ⟨_, rfl⟩
    | refused hhandler' =>
      obtain rfl := Option.some.inj (hhandler.symm.trans hhandler')
      exact absurd hfinds.2 Bool.false_ne_true

/-- Once the loads of a reaction have found their pointers, these are set. -/
def Sound (s : Link K ρ δ) : Prop :=
  ∀ pkt toLoad, s.handler = some (.loading pkt toLoad true) →
    ∀ p, p ∈ toLoad ∨ s.pointers p = true

theorem Step.sound {P} {listens} {s s' : Link K ρ δ} {e : LinkEvent K ρ}
    {k : Option (SimAccess K ρ)} (hstep : Step P listens s e k s') (hsound : Sound s) :
    Sound s' := by
  intro pkt toLoad hhandler q
  have hstay (h : s.handler = some (.loading pkt toLoad true)) :
      q ∈ toLoad ∨ s'.pointers q = true :=
    (hsound pkt toLoad h q).imp_right hstep.pointers_mono
  cases hstep with
  | received => exact absurd (Option.some.inj hhandler) Handler.noConfusion
  | parsed =>
    obtain ⟨pkt', -, heq⟩ := Option.map_eq_some_iff.mp hhandler
    obtain ⟨-, rfl, -⟩ := Handler.loading.inj heq
    exact Or.inl (mem_order q)
  | @loaded pkt' p ps ready hhandler' =>
    obtain ⟨-, rfl, hready⟩ := Handler.loading.inj (Option.some.inj hhandler)
    obtain ⟨rfl, hp⟩ := Bool.and_eq_true_iff.mp hready
    obtain hmem | hset := hsound pkt' (p :: ps) hhandler' q
    · obtain rfl | hmem := List.mem_cons.mp hmem
      · exact Or.inr hp
      · exact Or.inl hmem
    · exact Or.inr hset
  | processed => exact absurd hhandler (Option.some_ne_none _).symm
  | refused => exact absurd hhandler (Option.some_ne_none _).symm
  | _ => exact hstay hhandler

/-- **A packet is handed on only when all pointers are set.** -/
theorem Step.pointers_of_packet {P} {listens} {s s' : Link K ρ δ} {e : LinkEvent K ρ}
    {pkt : Gc.GameControllerPacket} (hstep : Step P listens s e (some (.packet pkt)) s')
    (hsound : Sound s) (p : Pointer) : s.pointers p = true := by
  generalize hk : some (SimAccess.packet pkt) = k at hstep
  cases hstep with
  | processed hhandler =>
    obtain hmem | hset := hsound _ _ hhandler p
    · exact absurd hmem List.not_mem_nil
    · exact hset
  | access a =>
    have hpacket := a.2
    rw [← Option.some.inj hk] at hpacket
    exact absurd hpacket (Option.some_ne_none pkt)
  | _ => exact absurd hk (Option.some_ne_none _)

theorem handedOn_append (s : Link K ρ δ) (es fs : List (LinkEvent K ρ)) :
    handedOn P headBodyId listens s (es ++ fs) = handedOn P headBodyId listens s es
      ++ handedOn P headBodyId listens ((machine P headBodyId listens).run s es) fs := by
  induction es generalizing s with
  | nil => rfl
  | cons e es ih =>
    rw [List.cons_append, handedOn_cons, handedOn_cons, ih, List.append_assoc]
    rfl

/-- A reactor that does not listen hands nothing on. -/
theorem handedOn_of_deaf (es : List (LinkEvent K ρ)) {s : Link K ρ δ} (hfree : s.handler = none) :
    handedOn P headBodyId false s es = [] := by
  induction es generalizing s with
  | nil => rfl
  | cons e es ih =>
    have hstep := step_next P false s e
    have hnone : (letter s e).bind SimAccess.packet? = none
        ∧ (next P false s e).handler = none := by
      generalize letter s e = k at hstep ⊢
      generalize next P false s e = s' at hstep ⊢
      cases hstep with
      | received payload hlistens => exact absurd hlistens Bool.false_ne_true
      | parsed hhandler => exact absurd (hfree.symm.trans hhandler) (Option.some_ne_none _).symm
      | loaded hhandler => exact absurd (hfree.symm.trans hhandler) (Option.some_ne_none _).symm
      | processed hhandler => exact absurd (hfree.symm.trans hhandler) (Option.some_ne_none _).symm
      | refused => exact ⟨rfl, rfl⟩
      | access a => exact ⟨a.2, hfree⟩
      | _ => exact ⟨rfl, hfree⟩
    rw [handedOn_cons, hnone.1, ih hnone.2]
    rfl

/-- A packet on the wire, whatever follows it, is recognised. -/
theorem recognise_encode {p : Gc.WirePacket} (hheader : p.packet.header = Gc.receiveHeader)
    (hversion : p.packet.version = Gc.supportedVersion) (tail : List UInt8) :
    recognise (Gc.packetLayout.encode p ++ tail) = some p.packet := by
  rw [recognise, Gc.tryParse_eq, if_pos (Gc.isPacket_encode hheader hversion tail),
    Gc.packetLayout.read_encode]
  rfl

/-- The reactor before anything has happened. -/
def start (sim : SimData K ρ δ) : Link K ρ δ := { sim := sim }

/-- **From the datagrams to the data.** -/
structure Delivers (sim : SimData K ρ δ) (es : List (LinkEvent K ρ)) : Prop where
  /-- The data, and what the simulator shows, are those of the turns taken one after the other. -/
  data : ((machine P headBodyId listens).run (start sim) es).sim
    = (P.machine headBodyId).run sim (turns P headBodyId listens (start sim) es)
  shown : (machine P headBodyId listens).trace (start sim) es
    = (P.machine headBodyId).trace sim (turns P headBodyId listens (start sim) es)
  /-- Every turn of another module is among them, in its place. -/
  others : (turns P headBodyId listens (start sim) es).filter (fun a => a.packet?.isNone)
    = es.filterMap LinkEvent.turn?
  /-- Every packet among them came in as a datagram, in its place. -/
  packets : (handedOn P headBodyId listens (start sim) es).Sublist
    (es.filterMap LinkEvent.packet?)
  /-- No packet is handed on by a reactor that does not listen, or while a pointer is missing. -/
  deaf : listens = false → handedOn P headBodyId listens (start sim) es = []
  pointers : (machine P headBodyId listens).Always
    (fun s e => ∀ pkt, letter s e = some (.packet pkt) → ∀ p, s.pointers p = true) (start sim) es
  /-- A packet that comes in while none is in hand and the pointers are there, and is followed by
  the five steps of its reaction, is the next to be handed on. -/
  delivered : listens = true → ∀ (before after : List (LinkEvent K ρ)) (p : Gc.WirePacket)
    (tail : List UInt8), es = before ++ .datagram (Gc.packetLayout.encode p ++ tail) :: after →
    p.packet.header = Gc.receiveHeader → p.packet.version = Gc.supportedVersion →
    let s := (machine P headBodyId listens).run (start sim) before
    s.handler = none → (∀ q, s.pointers q = true) →
    Pointer.order.length + 2 ≤ after.countP LinkEvent.isHandler →
    ∃ rest, handedOn P headBodyId listens (start sim) es
      = handedOn P headBodyId listens (start sim) before ++ p.packet :: rest

theorem filter_turns (es : List (LinkEvent K ρ)) (s : Link K ρ δ) :
    (turns P headBodyId listens s es).filter (fun a => a.packet?.isNone)
      = es.filterMap LinkEvent.turn? := by
  induction es generalizing s with
  | nil => rfl
  | cons e es ih =>
    have hturn := (step_next P listens s e).turn?_eq
    rw [turns, Machine.word, List.filter_append, ← Option.toList_filter, ← hturn,
      filterMap_cons_toList]
    exact congrArg _ (ih (next P listens s e))

/-- **Datagrams are delivered.** -/
theorem datagrams_delivered (sim : SimData K ρ δ) (es : List (LinkEvent K ρ)) :
    Delivers P headBodyId listens sim es := by
  have hbehind : ∀ (s : Link K ρ δ) (t : SimData K ρ δ) (e : LinkEvent K ρ), s.sim = t →
      (machine P headBodyId listens).StandsBehind (P.machine headBodyId) (fun s t => s.sim = t)
        s t e (letter s e) := by
    rintro s t e rfl
    have hsim := (step_next P listens s e).sim_eq
    have hout := (step_next P listens s e).out_eq headBodyId
    cases hletter : letter s e with
    | none =>
      rw [hletter] at hsim hout
      exact ⟨hout, hsim⟩
    | some a =>
      rw [hletter] at hsim hout
      exact ⟨hout.symm, hsim⟩
  obtain ⟨hrun, htrace⟩ := Machine.refines _ hbehind es (show (start sim).sim = sim from rfl)
  refine ⟨hrun, htrace.symm, filter_turns P headBodyId listens es _, ?_, ?_, ?_, ?_⟩
  · exact handedOn_sublist P headBodyId listens es (start sim)
  · rintro rfl
    exact handedOn_of_deaf P headBodyId es rfl
  · have hpointers : ∀ (s : Link K ρ δ) (e : LinkEvent K ρ), Sound s →
        ∀ pkt, letter s e = some (.packet pkt) → ∀ p, s.pointers p = true := by
      intro s e hsound pkt hletter
      have hstep := step_next P listens s e
      rw [hletter] at hstep
      exact hstep.pointers_of_packet hsound
    exact Machine.always_of_invariant _ hpointers (fun s e => (step_next P listens s e).sound) es _
      fun _ _ hhandler => absurd hhandler (Option.some_ne_none _).symm
  · rintro rfl before after p tail rfl hheader hversion s hfree hset hsteps
    have hreceived : next P true s (.datagram (Gc.packetLayout.encode p ++ tail))
        = { s with handler := some (.parsing (Gc.packetLayout.encode p ++ tail)) } := by
      rw [next, hfree]
      rfl
    obtain ⟨rest, hrest⟩ := handedOn_of_inHand P headBodyId true after
      (h := .parsing (Gc.packetLayout.encode p ++ tail)) (recognise_encode hheader hversion tail)
      (s := next P true s (.datagram (Gc.packetLayout.encode p ++ tail)))
      (by rw [hreceived]) (by rw [hreceived]; exact hset) hsteps
    refine ⟨rest, ?_⟩
    rw [handedOn_append, handedOn_cons, hrest]
    rfl

end Link

end GameControllerLink

end K1Sim
