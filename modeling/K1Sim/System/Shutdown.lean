import K1Sim.Foundations.Machine
import Mathlib.Data.List.TakeWhile

/-!
# System/Shutdown — the model and data pointers after `unload`

`Simulation`'s Shutdown frees the model and the data without the mutex and without telling anyone;
`Camera`, `Viewer` and `Supervisor` go on using the pointers they were handed until their own
threads, reactions and sockets come to an end.  `pointersOutliveUse_iff` says for which clients and
which orders of the Shutdown reactions no frame and no packet can touch what has been freed.
-/

namespace K1Sim

open Foundations

/-- The modules that hold the pointers of `SimHandles`. -/
inductive Client where
  | camera | viewer | supervisor
  deriving DecidableEq

/-- The Shutdown reactions that matter to the pointers. -/
inductive ShutdownReaction where
  | simulation | camera | viewer | supervisor
  deriving DecidableEq

/-- How the clients came up: the render loop gets past the checks before its first frame, the viewer
has a window, the supervisor is enabled and its port bound, and it manages the ball or a robot
(`SupervisorConfig.manages`). -/
structure Clients where
  cameraRenders : Bool
  viewerWindow : Bool
  supervisorListens : Bool
  supervisorManages : Bool

/-- Where `Camera::render_loop` is: before its first frame, at the top of its loop, in a frame, or
returned. -/
inductive RenderThread where
  | starting | looping | framing | exited
  deriving DecidableEq

/-- The modules while they shut down; `usedAfterFree` says that a frame or a packet has touched the
model or the data after `unload`. -/
structure Teardown where
  freed : Bool := false
  holder : Option Client := none
  cameraRunning : Bool := true
  cameraHandles : Bool := false
  renderThread : RenderThread := .starting
  window : Bool
  sceneReady : Bool := false
  supervisorHandles : Bool := false
  usedAfterFree : Bool := false

/-- What can happen: a client's reaction to `SimHandles`; the render thread looks at `running_`; a
frame or a packet locks the sim mutex, touches the model or the data, and unlocks; the store in
`Camera`'s Shutdown; the end of a Shutdown reaction.  That of `Supervisor` only logs. -/
inductive TeardownEvent where
  | handles (client : Client)
  | checkRunning
  | lock (client : Client)
  | touch
  | unlock
  | stopCamera
  | shutdown (reaction : ShutdownReaction)

namespace Teardown

/-- Every Startup has run. -/
def start (clients : Clients) : Teardown := { window := clients.viewerWindow }

/-- The render thread after a look at `running_`. -/
def RenderThread.check (clients : Clients) (running handles : Bool) : RenderThread → RenderThread
  | .starting =>
    if !running || !clients.cameraRenders then .exited
    else if handles then .looping else .starting
  | .looping => if running then .framing else .exited
  | .framing => .framing
  | .exited => .exited

/-- The four modules. -/
def machine (clients : Clients) : Machine Teardown TeardownEvent Unit where
  next s
    | .handles .camera => { s with cameraHandles := true }
    | .handles .viewer => { s with sceneReady := s.sceneReady || s.window }
    | .handles .supervisor => { s with supervisorHandles := true }
    | .checkRunning =>
      { s with
        renderThread :=
          RenderThread.check clients s.cameraRunning s.cameraHandles s.renderThread }
    | .lock client => { s with holder := some client }
    | .touch => { s with usedAfterFree := s.usedAfterFree || s.freed }
    | .unlock =>
      { s with
        holder := none
        renderThread := if s.holder = some .camera then .looping else s.renderThread }
    | .stopCamera => { s with cameraRunning := false }
    | .shutdown .simulation => { s with freed := true }
    | .shutdown .viewer => { s with window := false, sceneReady := false }
    | .shutdown .camera => s
    | .shutdown .supervisor => s
  out _ _ := none

/-- An event can happen: a frame or a packet takes the mutex when it is free and its client has got
so far; a packet touches nothing if there is nothing to place; the viewer's reactions share the main
thread; `Camera`'s Shutdown joins the render thread. -/
def Enabled (clients : Clients) (s : Teardown) : TeardownEvent → Prop
  | .handles .viewer => s.holder ≠ some .viewer
  | .handles _ => True
  | .checkRunning => s.renderThread = .starting ∨ s.renderThread = .looping
  | .lock .camera => s.holder = none ∧ s.renderThread = .framing
  | .lock .viewer => s.holder = none ∧ s.sceneReady = true
  | .lock .supervisor =>
    s.holder = none ∧ clients.supervisorListens = true ∧ s.supervisorHandles = true
  | .touch =>
    s.holder ≠ none ∧ (s.holder = some .supervisor → clients.supervisorManages = true)
  | .unlock => s.holder ≠ none
  | .stopCamera => True
  | .shutdown .camera => s.cameraRunning = false ∧ s.renderThread = .exited
  | .shutdown .viewer => s.holder ≠ some .viewer
  | .shutdown _ => True

/-- The Shutdown reaction that an event ends. -/
def shutdown? : TeardownEvent → Option ShutdownReaction
  | .shutdown reaction => some reaction
  | _ => none

theorem shutdown?_eq_some_iff {e : TeardownEvent} {r : ShutdownReaction} :
    shutdown? e = some r ↔ e = .shutdown r := by
  cases e <;> simp [shutdown?]

/-- Along every legal run that ends these Shutdown reactions in this order, no frame and no packet
touches the model or the data after `unload`. -/
def PointersOutliveUse (clients : Clients) (order : List ShutdownReaction) : Prop :=
  ∀ es, (machine clients).Always (Enabled clients) (start clients) es →
    es.filterMap shutdown? = order →
      ((machine clients).run (start clients) es).usedAfterFree = false

/-- The Shutdown reactions that end before `unload`. -/
def beforeUnload (order : List ShutdownReaction) : List ShutdownReaction :=
  order.takeWhile (· ≠ .simulation)

variable {clients : Clients}

/-! ## Who can hold the mutex -/

/-- The holder of the mutex has got so far. -/
structure HolderInv (clients : Clients) (s : Teardown) : Prop where
  camera : s.holder = some .camera → s.renderThread = .framing
  viewer : s.holder = some .viewer → s.sceneReady = true
  supervisor : s.holder = some .supervisor → clients.supervisorListens = true
  renders : s.renderThread = .looping ∨ s.renderThread = .framing → clients.cameraRenders = true
  scene : s.sceneReady = true → s.window = true
  window : s.window = true → clients.viewerWindow = true

theorem HolderInv.start : HolderInv clients (start clients) :=
  ⟨nofun, nofun, nofun, fun h => by rcases h with h | h <;> (cases h), nofun, id⟩

theorem HolderInv.next {s : Teardown} (h : HolderInv clients s) {e : TeardownEvent}
    (he : Enabled clients s e) : HolderInv clients ((machine clients).next s e) := by
  obtain ⟨hcamera, hviewer, hsupervisor, hrenders, hscene, hwindow⟩ := h
  rcases e with client | - | client | - | - | - | reaction
  case handles =>
    rcases client
    case viewer =>
      refine ⟨hcamera, fun h => ?_, hsupervisor, hrenders, fun h => ?_, hwindow⟩
      · exact (Bool.or_eq_true _ _).mpr (.inl (hviewer h))
      · exact ((Bool.or_eq_true _ _).mp h).elim hscene id
    case camera | supervisor => exact ⟨hcamera, hviewer, hsupervisor, hrenders, hscene, hwindow⟩
  case checkRunning =>
    refine ⟨fun h => ?_, hviewer, hsupervisor, fun h => ?_, hscene, hwindow⟩
    · have hframing := hcamera h
      rw [Enabled, hframing] at he
      rcases he with he | he <;> cases he
    · rcases he with he | he
      · by_contra hnot
        rw [Bool.not_eq_true] at hnot
        simp [machine, RenderThread.check, he, hnot] at h
      · exact hrenders (.inl he)
  case lock =>
    rcases client
    case camera => exact ⟨fun _ => he.2, nofun, nofun, hrenders, hscene, hwindow⟩
    case viewer => exact ⟨nofun, fun _ => he.2, nofun, hrenders, hscene, hwindow⟩
    case supervisor => exact ⟨nofun, nofun, fun _ => he.2.1, hrenders, hscene, hwindow⟩
  case touch => exact ⟨hcamera, hviewer, hsupervisor, hrenders, hscene, hwindow⟩
  case unlock =>
    refine ⟨nofun, nofun, nofun, fun h => ?_, hscene, hwindow⟩
    by_cases hheld : s.holder = some .camera
    · exact hrenders (.inr (hcamera hheld))
    · simp only [machine, if_neg hheld] at h
      exact hrenders h
  case stopCamera => exact ⟨hcamera, hviewer, hsupervisor, hrenders, hscene, hwindow⟩
  case shutdown =>
    rcases reaction
    case viewer => exact ⟨hcamera, fun h => absurd h he, hsupervisor, hrenders, nofun, nofun⟩
    case simulation | camera | supervisor =>
      exact ⟨hcamera, hviewer, hsupervisor, hrenders, hscene, hwindow⟩

/-! ## Before `unload` -/

/-- A render thread that has returned and a window that has been closed stay so. -/
theorem closed_next {s : Teardown} {e : TeardownEvent} (he : Enabled clients s e)
    (hholder : HolderInv clients s) :
    (s.renderThread = .exited → ((machine clients).next s e).renderThread = .exited)
      ∧ (s.window = false → ((machine clients).next s e).window = false) := by
  rcases e with client | - | client | - | - | - | reaction
  case handles => cases client <;> exact ⟨id, id⟩
  case checkRunning =>
    refine ⟨fun h => ?_, id⟩
    rw [Enabled, h] at he
    rcases he with he | he <;> cases he
  case lock => exact ⟨id, id⟩
  case touch => exact ⟨id, id⟩
  case unlock =>
    refine ⟨fun h => ?_, id⟩
    by_cases hheld : s.holder = some .camera
    · exact absurd ((hholder.camera hheld).symm.trans h) (by decide)
    · simpa only [machine, if_neg hheld] using h
  case stopCamera => exact ⟨id, id⟩
  case shutdown => cases reaction <;> exact ⟨id, by first | exact id | exact fun _ => rfl⟩

/-- What the Shutdown reactions of `Camera` and `Viewer` leave behind. -/
theorem closed_run (es : List TeardownEvent) {s : Teardown} (hinv : HolderInv clients s)
    (hE : (machine clients).Always (Enabled clients) s es) :
    (s.renderThread = .exited ∨ .camera ∈ es.filterMap shutdown? →
        ((machine clients).run s es).renderThread = .exited)
      ∧ (s.window = false ∨ .viewer ∈ es.filterMap shutdown? →
        ((machine clients).run s es).window = false) := by
  induction es generalizing s with
  | nil => exact ⟨by simp, by simp⟩
  | cons e es ih =>
    obtain ⟨he, hE⟩ := hE
    obtain ⟨hexited, hclosed⟩ := closed_next he hinv
    obtain ⟨ihexited, ihclosed⟩ := ih (hinv.next he) hE
    have hmem {r : ShutdownReaction} (h : r ∈ (e :: es).filterMap shutdown?) :
        e = .shutdown r ∨ r ∈ es.filterMap shutdown? := by
      obtain ⟨e', he', hr⟩ := List.mem_filterMap.mp h
      rcases List.mem_cons.mp he' with rfl | he'
      · exact .inl (shutdown?_eq_some_iff.mp hr)
      · exact .inr (List.mem_filterMap.mpr ⟨e', he', hr⟩)
    constructor
    · rintro (h | h)
      · exact ihexited (.inl (hexited h))
      · rcases hmem h with rfl | h
        · exact ihexited (.inl (hexited he.2))
        · exact ihexited (.inr h)
    · rintro (h | h)
      · exact ihclosed (.inl (hclosed h))
      · rcases hmem h with rfl | h
        · exact ihclosed (.inl rfl)
        · exact ihclosed (.inr h)

variable (clients) in
/-- Until `unload` there is nothing freed to touch. -/
theorem unfreed_run (es : List TeardownEvent) {s : Teardown} (hs : s.freed = false)
    (hused : s.usedAfterFree = false) (hnone : .simulation ∉ es.filterMap shutdown?) :
    ((machine clients).run s es).freed = false
      ∧ ((machine clients).run s es).usedAfterFree = false := by
  refine (machine clients).run_induction_of (A := fun e => shutdown? e ≠ some .simulation)
    (P := fun s => s.freed = false ∧ s.usedAfterFree = false) ?_ es s ?_ ⟨hs, hused⟩
  · rintro s e he ⟨hfreed, hused⟩
    rcases e with client | - | client | - | - | - | reaction
    case handles => cases client <;> exact ⟨hfreed, hused⟩
    case touch => exact ⟨hfreed, by simp [machine, hfreed, hused]⟩
    case shutdown =>
      rcases reaction
      case simulation => exact absurd rfl he
      case camera | viewer | supervisor => exact ⟨hfreed, hused⟩
    all_goals exact ⟨hfreed, hused⟩
  · intro e he hsimulation
    exact hnone (List.mem_filterMap.mpr ⟨e, he, hsimulation⟩)

/-! ## After `unload` -/

/-- No frame can begin, a packet has nothing to place, and none has touched what has been freed. -/
structure Silent (clients : Clients) (s : Teardown) : Prop where
  holder : s.holder = none ∨ s.holder = some .supervisor ∧ clients.supervisorManages = false
  camera : s.renderThread = .exited ∨ s.renderThread = .starting ∧ clients.cameraRenders = false
  window : s.window = false
  scene : s.sceneReady = false
  supervisor : clients.supervisorListens = true → clients.supervisorManages = false
  unused : s.usedAfterFree = false

theorem Silent.next {s : Teardown} (h : Silent clients s) {e : TeardownEvent}
    (he : Enabled clients s e) : Silent clients ((machine clients).next s e) := by
  obtain ⟨hholder, hcamera, hwindow, hscene, hsupervisor, hunused⟩ := h
  rcases e with client | - | client | - | - | - | reaction
  case handles =>
    rcases client
    case viewer =>
      exact ⟨hholder, hcamera, hwindow, by simp [machine, hscene, hwindow], hsupervisor, hunused⟩
    case camera | supervisor => exact ⟨hholder, hcamera, hwindow, hscene, hsupervisor, hunused⟩
  case checkRunning =>
    refine ⟨hholder, .inl ?_, hwindow, hscene, hsupervisor, hunused⟩
    rcases hcamera with hexited | ⟨hstarting, hrenders⟩
    · simp [machine, RenderThread.check, hexited]
    · simp [machine, RenderThread.check, hstarting, hrenders]
  case lock =>
    rcases client
    case camera =>
      rcases hcamera with hexited | ⟨hstarting, -⟩
      · exact absurd (he.2.symm.trans hexited) (by decide)
      · exact absurd (he.2.symm.trans hstarting) (by decide)
    case viewer => exact absurd (he.2.symm.trans hscene) (by decide)
    case supervisor =>
      exact ⟨.inr ⟨rfl, hsupervisor he.2.1⟩, hcamera, hwindow, hscene, hsupervisor, hunused⟩
  case touch =>
    obtain ⟨hheld, hmanages⟩ := he
    rcases hholder with hfree | ⟨hpacket, hidle⟩
    · exact absurd hfree hheld
    · exact absurd ((hmanages hpacket).symm.trans hidle) (by decide)
  case unlock =>
    have hthread : s.holder ≠ some .camera := by
      rcases hholder with hfree | ⟨hpacket, -⟩
      · exact absurd hfree he
      · rw [hpacket]
        decide
    refine ⟨.inl rfl, ?_, hwindow, hscene, hsupervisor, hunused⟩
    simpa only [machine, if_neg hthread] using hcamera
  case stopCamera => exact ⟨hholder, hcamera, hwindow, hscene, hsupervisor, hunused⟩
  case shutdown =>
    rcases reaction
    case viewer => exact ⟨hholder, hcamera, rfl, rfl, hsupervisor, hunused⟩
    case simulation | camera | supervisor =>
      exact ⟨hholder, hcamera, hwindow, hscene, hsupervisor, hunused⟩

/-- Nobody is left who could use the pointers once these reactions have ended. -/
def AllDone (clients : Clients) (ended : List ShutdownReaction) : Prop :=
  (clients.supervisorListens = true → clients.supervisorManages = false)
    ∧ (clients.cameraRenders = true → .camera ∈ ended)
    ∧ (clients.viewerWindow = true → .viewer ∈ ended)

/-- The mutex is free, or a packet with nothing to place has it, when no other client has got as far
as taking it. -/
theorem HolderInv.holder_idle {s : Teardown} (h : HolderInv clients s)
    (hframing : s.renderThread ≠ .framing) (hscene : s.sceneReady = false)
    (hsupervisor : clients.supervisorListens = true → clients.supervisorManages = false) :
    s.holder = none ∨ s.holder = some .supervisor ∧ clients.supervisorManages = false := by
  rcases hholder : s.holder with - | client
  case none => exact .inl rfl
  case some =>
    rcases client
    case camera => exact absurd (h.camera hholder) hframing
    case viewer => exact absurd (h.viewer hholder) (by rw [hscene]; decide)
    case supervisor => exact .inr ⟨rfl, hsupervisor (h.supervisor hholder)⟩

/-- When everyone is done, `unload` finds nobody who could touch what it frees. -/
theorem silent_of_allDone {s : Teardown} (hinv : HolderInv clients s)
    {ended : List ShutdownReaction} (hdone : AllDone clients ended)
    (hcamera : .camera ∈ ended → s.renderThread = .exited)
    (hviewer : .viewer ∈ ended → s.window = false) (hused : s.usedAfterFree = false) :
    Silent clients s := by
  obtain ⟨hsupervisor, hrenders, hwindow⟩ := hdone
  have hwindowClosed : s.window = false := by
    by_contra h
    rw [Bool.not_eq_false] at h
    exact absurd (hviewer (hwindow (hinv.window h))) (by rw [h]; decide)
  have hsceneClosed : s.sceneReady = false := by
    by_contra h
    rw [Bool.not_eq_false] at h
    exact absurd (hinv.scene h) (by rw [hwindowClosed]; decide)
  have hthread : s.renderThread = .exited
      ∨ s.renderThread = .starting ∧ clients.cameraRenders = false := by
    rcases hrend : clients.cameraRenders with - | -
    case true => exact .inl (hcamera (hrenders hrend))
    case false =>
      have hnot : ¬ (s.renderThread = .looping ∨ s.renderThread = .framing) := fun h =>
        absurd (hinv.renders h) (by rw [hrend]; decide)
      rcases hthread : s.renderThread <;> simp_all
  have hframing : s.renderThread ≠ .framing := by
    rcases hthread with h | ⟨h, -⟩ <;> rw [h] <;> decide
  exact ⟨hinv.holder_idle hframing hsceneClosed hsupervisor, hthread, hwindowClosed,
    hsceneClosed, hsupervisor, hused⟩

/-! ## Misuse -/

/-- The state after a series of Shutdown reactions. -/
def afterShutdowns (s : Teardown) (ended : List ShutdownReaction) : Teardown :=
  { s with
    freed := s.freed || ended.contains .simulation
    window := s.window && !ended.contains .viewer
    sceneReady := s.sceneReady && !ended.contains .viewer }

variable (clients) in
/-- **The Shutdown reactions can end one after the other in any order**, while nobody holds the
mutex: `Camera`'s, once its render thread has returned. -/
theorem shutdowns_run (ended : List ShutdownReaction) {s : Teardown} (hs : s.holder = none)
    (hcamera : .camera ∈ ended → s.cameraRunning = false ∧ s.renderThread = .exited) :
    (machine clients).Always (Enabled clients) s (ended.map .shutdown)
      ∧ (machine clients).run s (ended.map .shutdown) = s.afterShutdowns ended := by
  induction ended generalizing s with
  | nil => exact ⟨trivial, by simp [afterShutdowns]⟩
  | cons r ended ih =>
    have hrest : (machine clients).next s (.shutdown r) = s.afterShutdowns [r] := by
      cases r <;> simp [machine, afterShutdowns]
    have henabled : Enabled clients s (.shutdown r) := by
      rcases r
      case camera => exact hcamera List.mem_cons_self
      case viewer => exact fun h => nomatch hs.symm.trans h
      case simulation | supervisor => trivial
    obtain ⟨halways, hrun⟩ := ih (s := s.afterShutdowns [r]) hs
      fun h => hcamera (List.mem_cons_of_mem _ h)
    rw [List.map_cons, Machine.always_cons, Machine.run_cons, hrest, hrun]
    refine ⟨⟨henabled, halways⟩, ?_⟩
    cases r <;> simp [afterShutdowns]

/-- What has been used after it was freed has been used for good. -/
theorem used_run (es : List TeardownEvent) {s : Teardown} (h : s.usedAfterFree = true) :
    ((machine clients).run s es).usedAfterFree = true := by
  refine (machine clients).run_induction (P := fun s => s.usedAfterFree = true) ?_ es s h
  rintro s (client | - | client | - | - | - | reaction) hused
  case handles => cases client <;> exact hused
  case touch => exact (Bool.or_eq_true _ _).mpr (.inl hused)
  case shutdown => cases reaction <;> exact hused
  all_goals exact hused

theorem filterMap_map_shutdown (ended : List ShutdownReaction) :
    (ended.map TeardownEvent.shutdown).filterMap shutdown? = ended := by
  rw [List.filterMap_map]
  exact List.filterMap_some

/-- **A use after `unload` refutes safety**: some Shutdown reactions end, `unload` among them,
something is touched, and the others end. -/
theorem not_outlive {ended rest : List ShutdownReaction} (pre mid : List TeardownEvent)
    {s t : Teardown} (hpre : (machine clients).Always (Enabled clients) (start clients) pre)
    (hs : (machine clients).run (start clients) pre = s) (hfree : s.holder = none)
    (hcamera : .camera ∈ ended → s.cameraRunning = false ∧ s.renderThread = .exited)
    (hmid : (machine clients).Always (Enabled clients) (s.afterShutdowns ended) mid)
    (ht : (machine clients).run (s.afterShutdowns ended) mid = t)
    (hfree' : t.holder = none) (hused : t.usedAfterFree = true)
    (hcamera' : .camera ∈ rest → t.cameraRunning = false ∧ t.renderThread = .exited)
    (hsilent : pre.filterMap shutdown? = [] ∧ mid.filterMap shutdown? = []) :
    ¬ PointersOutliveUse clients (ended ++ rest) := by
  intro houtlive
  obtain ⟨hended, hrun⟩ := shutdowns_run clients ended hfree hcamera
  obtain ⟨hrest, -⟩ := shutdowns_run clients rest hfree' hcamera'
  have hunused := houtlive (pre ++ (ended.map .shutdown ++ (mid ++ rest.map .shutdown))) ?_ ?_
  · rw [Machine.run_append, hs, Machine.run_append, hrun, Machine.run_append, ht,
      used_run _ hused] at hunused
    cases hunused
  · rw [Machine.always_append, hs, Machine.always_append, hrun, Machine.always_append, ht]
    exact ⟨hpre, hended, hmid, hrest⟩
  · simp only [List.filterMap_append, filterMap_map_shutdown, hsilent.1, hsilent.2,
      List.nil_append]

/-- A packet comes in after `unload`, the socket still bound. -/
theorem misuse_supervisor (hlistens : clients.supervisorListens = true)
    (hmanages : clients.supervisorManages = true) {order : List ShutdownReaction}
    (hunload : .simulation ∈ order) : ¬ PointersOutliveUse clients order := by
  rw [← List.append_nil order]
  refine not_outlive [.handles .supervisor, .stopCamera, .checkRunning]
    [.lock .supervisor, .touch, .unlock] ⟨trivial, trivial, .inl rfl, trivial⟩ rfl rfl
    (fun _ => ⟨rfl, rfl⟩) ⟨⟨rfl, hlistens, rfl⟩, ⟨nofun, fun _ => hmanages⟩, nofun, trivial⟩
    rfl rfl ?_ nofun ⟨rfl, rfl⟩
  simp [machine, afterShutdowns, hunload]

/-- `unload` overtakes `Camera`'s Shutdown, and the render thread goes on with its frame. -/
theorem misuse_camera (hrenders : clients.cameraRenders = true)
    {before after : List ShutdownReaction} (hbefore : .camera ∉ before) :
    ¬ PointersOutliveUse clients ((before ++ [.simulation]) ++ after) := by
  have hthread : ((machine clients).run (start clients)
      [.handles .camera, .checkRunning, .checkRunning]).renderThread = .framing := by
    simp [machine, start, RenderThread.check, hrenders]
  have hchecks : (machine clients).Always (Enabled clients) (start clients)
      [.handles .camera, .checkRunning, .checkRunning] := by
    simp [machine, start, Enabled, RenderThread.check, hrenders]
  refine not_outlive [.handles .camera, .checkRunning, .checkRunning]
    [.lock .camera, .touch, .unlock, .stopCamera, .checkRunning] hchecks rfl rfl (fun h => ?_)
    ⟨⟨rfl, hthread⟩, ⟨nofun, nofun⟩, nofun, trivial, .inr rfl, trivial⟩ rfl rfl ?_
    (fun _ => ⟨rfl, rfl⟩) ⟨rfl, rfl⟩
  · simp [hbefore] at h
  · simp [machine, afterShutdowns]

/-- `unload` overtakes `Viewer`'s Shutdown, and the window is redrawn. -/
theorem misuse_viewer (hwindow : clients.viewerWindow = true) {before after : List ShutdownReaction}
    (hbefore : .viewer ∉ before) :
    ¬ PointersOutliveUse clients ((before ++ [.simulation]) ++ after) := by
  refine not_outlive [.stopCamera, .checkRunning, .handles .viewer]
    [.lock .viewer, .touch, .unlock] ⟨trivial, .inl rfl, nofun, trivial⟩ rfl rfl
    (fun _ => ⟨rfl, rfl⟩) ⟨⟨rfl, ?_⟩, ⟨nofun, nofun⟩, nofun, trivial⟩ rfl rfl ?_
    (fun _ => ⟨rfl, rfl⟩) ⟨rfl, rfl⟩
  · simp [machine, start, afterShutdowns, hwindow, hbefore]
  · simp [machine, afterShutdowns]

/-! ## Which orders are safe -/

theorem exists_eq_of_unload {order : List ShutdownReaction} (h : .simulation ∈ order) :
    ∃ after, order = (beforeUnload order ++ [.simulation]) ++ after := by
  obtain ⟨before, after, rfl, hbefore⟩ := List.eq_append_cons_of_mem h
  have hne : ∀ r ∈ before, decide (r ≠ ShutdownReaction.simulation) = true := fun r hr =>
    decide_eq_true fun heq => hbefore (heq ▸ hr)
  refine ⟨after, ?_⟩
  rw [beforeUnload, List.takeWhile_append_of_pos hne, List.takeWhile_cons_of_neg (by decide)]
  simp

theorem simulation_notMem_beforeUnload (order : List ShutdownReaction) :
    .simulation ∉ beforeUnload order := fun h => by
  simpa using List.mem_takeWhile_imp h

/-- **Orders in which everyone is done before `unload` are safe.** -/
theorem outlive_of_allDone {order : List ShutdownReaction}
    (hdone : .simulation ∈ order → AllDone clients (beforeUnload order)) :
    PointersOutliveUse clients order := by
  intro es hE hes
  by_cases hunload : .simulation ∈ order
  case neg => exact (unfreed_run clients es rfl rfl (hes ▸ hunload)).2
  obtain ⟨after, horder⟩ := exists_eq_of_unload hunload
  rw [horder, List.append_assoc] at hes
  obtain ⟨es₁, es', rfl, hbefore, hes'⟩ := List.filterMap_eq_append_iff.mp hes
  obtain ⟨hid, e, es₂, rfl, hhid, he, -⟩ := List.filterMap_eq_cons_iff.mp hes'
  obtain rfl := shutdown?_eq_some_iff.mp he
  -- the run up to `unload`
  have hended : (es₁ ++ hid).filterMap shutdown? = beforeUnload order := by
    rw [List.filterMap_append, hbefore, List.filterMap_eq_nil_iff.mpr hhid, List.append_nil]
  rw [← List.append_assoc] at hE ⊢
  obtain ⟨hE₁, -, hE₂⟩ := (Machine.always_append ..).mp hE
  have hinv : HolderInv clients ((machine clients).run (start clients) (es₁ ++ hid)) :=
    (machine clients).run_induction_always (P := HolderInv clients) (fun _ _ he h => h.next he) _ _
      hE₁ .start
  obtain ⟨hexited, hclosed⟩ := closed_run (es₁ ++ hid) HolderInv.start hE₁
  rw [hended] at hexited hclosed
  obtain ⟨-, hunused⟩ := unfreed_run clients (es₁ ++ hid) (s := start clients) rfl rfl
    (by rw [hended]; exact simulation_notMem_beforeUnload _)
  have hsilent := silent_of_allDone hinv (hdone hunload) (fun h => hexited (.inr h))
    (fun h => hclosed (.inr h)) hunused
  -- the run from there on
  have hfreed := hsilent.next (e := .shutdown .simulation) trivial
  rw [Machine.run_append, Machine.run_cons]
  exact ((machine clients).run_induction_always (P := Silent clients) (fun _ _ he h => h.next he) _
    _ hE₂ hfreed).unused

/-- **The pointers outlive their use exactly when everyone is done before `unload`**: in no
interleaving of the frames, the packets and these Shutdown reactions is the model or the data
touched after it is freed, if and only if `Simulation`'s Shutdown is not among them or the
supervisor does not listen or has nothing to place, `Camera`'s Shutdown ends before it or the camera
never renders, and `Viewer`'s ends before it or there is no window. -/
theorem pointersOutliveUse_iff (clients : Clients) (order : List ShutdownReaction) :
    PointersOutliveUse clients order
      ↔ (.simulation ∈ order → AllDone clients (beforeUnload order)) := by
  refine ⟨fun houtlive hunload => ?_, outlive_of_allDone⟩
  obtain ⟨after, horder⟩ := exists_eq_of_unload hunload
  refine ⟨?_, fun hrenders => ?_, fun hwindow => ?_⟩
  · intro hlistens
    by_contra hmanages
    exact misuse_supervisor hlistens (Bool.not_eq_false _ ▸ hmanages) hunload houtlive
  · by_contra hcamera
    rw [horder] at houtlive
    exact misuse_camera hrenders hcamera houtlive
  · by_contra hviewer
    rw [horder] at houtlive
    exact misuse_viewer hwindow hviewer houtlive

/-- The soccer role: the Shutdown reactions end in the order the modules were installed in, and a
packet comes in after them. -/
theorem pointers_usedAfterFree :
    ¬ PointersOutliveUse ⟨true, true, true, true⟩ [.simulation, .camera, .supervisor, .viewer] := by
  intro houtlive
  have hunused := houtlive
    [.stopCamera, .checkRunning, .handles .supervisor, .shutdown .simulation, .shutdown .camera,
      .shutdown .supervisor, .shutdown .viewer, .lock .supervisor, .touch]
    ⟨trivial, .inl rfl, trivial, trivial, ⟨rfl, rfl⟩, trivial, nofun, ⟨rfl, rfl, rfl⟩,
      ⟨nofun, fun _ => rfl⟩, trivial⟩
    rfl
  exact absurd hunused (by decide)

end Teardown

end K1Sim
