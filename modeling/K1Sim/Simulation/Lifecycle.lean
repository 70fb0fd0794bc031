import K1Sim.Foundations.Machine
import K1Sim.Foundations.Resources
import Mathlib.Algebra.Order.Group.Multiset
import Mathlib.Tactic.Abel

/-!
# Simulation/Lifecycle — what `SimCore` allocates, from construction to destruction

`load_model` takes MuJoCo's specs, model and data and the file of the foot log, any step of it may
fail, and the physics thread works with all of it until it is joined.  `lifecycle_sound`: whatever
fails, a client that keeps to the contract in the header never makes `SimCore` follow a null pointer
or touch what has been freed, and its destructor leaves nothing behind.
-/

namespace K1Sim

open Foundations

namespace Lifecycle

/-- The members of `SimCore` that own something, and `running_`. -/
structure Members where
  m : Option ℕ := none
  d : Option ℕ := none
  footLog : Option ℕ := none
  thread : Option ℕ := none
  running : Bool := false

/-- What `load_model` reads of `SimCore::Config`, the model path resolved. -/
structure LoadConfig where
  modelPath : String
  robots : ℤ := 1
  footLogPath : String := ""

/-- How the calls come out that `load_model` makes: what is said by those that fail. -/
structure LoadOutcome where
  loadXml : Option String := none
  parseScene : Option String := none
  parseRobot : ℕ → Option String := fun _ => none
  attach : ℕ → Option String := fun _ => none
  compile : Option String := none
  buildMap : Option String := none
  feetFound : Bool := true
  footLogOpens : Bool := true
  copyMaps : Option String := none
  dataMade : Bool := true

/-- A method of `SimCore`. -/
abbrev Method := Cmd Members String

open Cmd

/-! ## The methods -/

/-- A step that throws where it fails. -/
def check : Option String → Method Unit
  | some what => throw what
  | none => pure ()

/-- The directory of a path, with its slash. -/
def directory (path : String) : String :=
  String.ofList (path.toList.reverse.dropWhile (· ≠ '/')).reverse

/-- The body of the loop over the copies. -/
def attachCopy (o : LoadOutcome) (robotXml : String) (scene k : ℕ) : Method Unit :=
  match o.parseRobot k with
  | some error => do
    release scene
    throw ("mj_parseXML failed for '" ++ robotXml ++ "': " ++ error)
  | none => do
    let robot ← acquire
    use robot
    use scene
    match o.attach k with
    | some error => do
      use scene
      release robot
      release scene
      throw ("mjs_attach failed for robot copy " ++ toString k ++ ": " ++ error)
    | none => release robot

/-- The loop over the copies. -/
def attachCopies (o : LoadOutcome) (robotXml : String) (scene : ℕ) : List ℕ → Method Unit
  | [] => pure ()
  | k :: ks => do
    attachCopy o robotXml scene k
    attachCopies o robotXml scene ks

/-- `load_multi_robot_model`. -/
def loadMultiRobotModel (o : LoadOutcome) (scenePath : String) (extras : ℕ) : Method ℕ :=
  match o.parseScene with
  | some error => throw ("mj_parseXML failed for '" ++ scenePath ++ "': " ++ error)
  | none => do
    let scene ← acquire
    attachCopies o (directory scenePath ++ "K1_22dof.xml") scene (List.range' 1 extras)
    match o.compile with
    | some error => do
      use scene
      release scene
      throw ("mj_compile failed for multi-robot scene: " ++ error)
    | none => do
      let m ← acquire
      release scene
      return m

/-- The model of a scene. -/
def readModel (cfg : LoadConfig) (o : LoadOutcome) : Method ℕ :=
  if cfg.robots ≤ 1 then
    match o.loadXml with
    | some error => throw ("mj_loadXML failed for '" ++ cfg.modelPath ++ "': " ++ error)
    | none => acquire
  else loadMultiRobotModel o cfg.modelPath (cfg.robots.toNat - 1)

/-- The foot log, where one is asked for and can be had. -/
def openFootLog (cfg : LoadConfig) (o : LoadOutcome) : Method Unit :=
  if cfg.footLogPath ≠ "" && o.feetFound && o.footLogOpens then do
    let f ← acquire
    modify fun x => { x with footLog := some f }
    use f
  else pure ()

/-- The data of a model. -/
def makeData (cfg : LoadConfig) (o : LoadOutcome) (m : ℕ) : Method Unit :=
  if o.dataMade then do
    let d ← acquire
    modify fun x => { x with d := some d }
    use d
  else do
    release m
    modify fun x => { x with m := none }
    throw ("mj_makeData failed for '" ++ cfg.modelPath ++ "'")

/-- `load_model`. -/
def loadModel (cfg : LoadConfig) (o : LoadOutcome) : Method Unit := do
  let m ← readModel cfg o
  modify fun x => { x with m := some m }
  use m
  check o.buildMap
  openFootLog cfg o
  use m
  check o.copyMaps
  makeData cfg o m

/-- `start`.  To overwrite a thread that has not been joined would terminate the program. -/
def start : Method Unit := do
  let x ← fields
  if x.running then pure ()
  else
    match x.thread with
    | some _ => fault
    | none => do
      let t ← acquire
      modify fun x => { x with running := true, thread := some t }

/-- `stop`. -/
def stop : Method Unit := do
  modify fun x => { x with running := false }
  let x ← fields
  match x.thread with
  | some t => do
    release t
    modify fun x => { x with thread := none }
  | none => pure ()

/-- A member freed, unless it is null, and nulled. -/
def free (p : Option ℕ) (clear : Members → Members) : Method Unit :=
  match p with
  | some h => do
    release h
    modify clear
  | none => pure ()

/-- `unload`. -/
def unload : Method Unit := do
  let x ← fields
  free x.footLog fun x => { x with footLog := none }
  free x.d fun x => { x with d := none }
  free x.m fun x => { x with m := none }

/-- `reset`. -/
def reset : Method Unit := do
  let x ← fields
  follow x.m
  follow x.d

/-- A pass of `physics_loop`, if its thread is running. -/
def pass : Method Unit := do
  let x ← fields
  match x.thread with
  | none => pure ()
  | some _ => do
    follow x.m
    follow x.d
    match x.footLog with
    | some f => use f
    | none => pure ()

/-- `~SimCore`. -/
def destroy : Method Unit := do
  stop
  unload

/-! ## A client -/

/-- The calls of a client, and the passes of the physics thread. -/
inductive Call where
  | load (o : LoadOutcome)
  | start
  | pass
  | reset
  | stop
  | unload
  | destroy

/-- The method that a call runs. -/
def method (cfg : LoadConfig) : Call → Method Unit
  | .load o => loadModel cfg o
  | .start => start
  | .pass => pass
  | .reset => reset
  | .stop => stop
  | .unload => unload
  | .destroy => destroy

/-- The object under calls.  After a fault there is none. -/
def machine (cfg : LoadConfig) : Machine (Option (Owner Members)) Call Unit where
  next s call := s.bind fun s => (method cfg call s).map Prod.snd
  out _ _ := none

/-- The object constructed. -/
def constructed : Owner Members := ⟨{}, .empty⟩

/-- How far a client is with the model. -/
inductive Stage where
  | constructed | loaded | failed | unloaded
  deriving DecidableEq

/-- What a client knows. -/
structure Client where
  stage : Stage := .constructed
  started : Bool := false

/-- The history variable: what the client has learnt from its calls. -/
def Client.note (cfg : LoadConfig) (c : Client) (s : Option (Owner Members)) : Call → Client
  | .load o => match s.bind fun s => (loadModel cfg o s).map Prod.fst with
    | some (.ok _) => { c with stage := .loaded }
    | _ => { c with stage := .failed }
  | .start => { c with started := true }
  | .stop => { c with started := false }
  | .unload => { c with stage := .unloaded }
  | _ => c

/-- **The contract of the header**: load once and first, start and reset what is loaded, stop before
unloading. -/
def Contract (p : Option (Owner Members) × Client) : Call → Prop
  | .load _ => p.2.stage = .constructed
  | .start => p.2.stage = .loaded
  | .reset => p.2.stage = .loaded
  | .unload => p.2.started = false
  | .stop => True
  | .pass => True
  | .destroy => False

/-! ## What the methods own -/

/-- What a pointer owns. -/
def own : Option ℕ → Multiset ℕ
  | some h => {h}
  | none => 0

/-- What the members own. -/
def Members.held (x : Members) : Multiset ℕ := own x.m + own x.d + own x.footLog + own x.thread

/-- **The members own what is live**, each handle once. -/
def Owned (s : Owner Members) : Prop := s.ledger.live = s.fields.held

/-- A copy attached leaves things as they were, and one that is not takes the scene with it. -/
theorem attachCopy_leads (o : LoadOutcome) (robotXml : String) {scene : ℕ} (k : ℕ)
    {s : Owner Members} (hscene : scene ∈ s.ledger.live) :
    (attachCopy o robotXml scene k).Leads s fun r t => t.fields = s.fields
      ∧ match r with
        | .ok _ => t.ledger.live = s.ledger.live
        | .error _ => t.ledger.live = s.ledger.live.erase scene := by
  rw [attachCopy]
  split
  · simp [hscene]
  · split <;> simp [hscene]

theorem attachCopies_leads (o : LoadOutcome) (robotXml : String) {scene : ℕ} (ks : List ℕ)
    {s : Owner Members} (hscene : scene ∈ s.ledger.live) :
    (attachCopies o robotXml scene ks).Leads s fun r t => t.fields = s.fields
      ∧ match r with
        | .ok _ => t.ledger.live = s.ledger.live
        | .error _ => t.ledger.live = s.ledger.live.erase scene := by
  induction ks generalizing s with
  | nil => simp [attachCopies]
  | cons k ks ih =>
    rw [attachCopies, leads_bind]
    refine (attachCopy_leads o robotXml k hscene).mono fun r t ⟨hfields, hlive⟩ => ?_
    cases r with
    | error e => exact ⟨hfields, hlive⟩
    | ok _ =>
      dsimp only at hlive
      have hrest := ih (hlive ▸ hscene)
      rwa [hfields, hlive] at hrest

theorem loadMultiRobotModel_leads (o : LoadOutcome) (scenePath : String) (extras : ℕ)
    (s : Owner Members) :
    (loadMultiRobotModel o scenePath extras).Leads s fun r t => t.fields = s.fields
      ∧ match r with
        | .ok m => t.ledger.live = m ::ₘ s.ledger.live
        | .error _ => t.ledger.live = s.ledger.live := by
  rw [loadMultiRobotModel]
  split
  · simp
  · simp only [leads_bind, leads_acquire]
    refine (attachCopies_leads o _ _ (Multiset.mem_cons_self _ _)).mono fun r t h => ?_
    have hfields := h.1
    have hlive := h.2
    cases r with
    | error e => exact ⟨hfields, hlive.trans (Multiset.erase_cons_head _ _)⟩
    | ok _ =>
      dsimp only at hlive hfields ⊢
      rw [Ledger.live_acquire] at hlive
      split
      · simp [hlive, hfields]
      · simp [hlive, hfields, Multiset.cons_swap _ s.ledger.next]

theorem readModel_leads (cfg : LoadConfig) (o : LoadOutcome) (s : Owner Members) :
    (readModel cfg o).Leads s fun r t => t.fields = s.fields
      ∧ match r with
        | .ok m => t.ledger.live = m ::ₘ s.ledger.live
        | .error _ => t.ledger.live = s.ledger.live := by
  rw [readModel]
  split
  · split <;> simp
  · exact loadMultiRobotModel_leads o _ _ s

/-- Opening the foot log leaves the rest as it was. -/
theorem openFootLog_leads (cfg : LoadConfig) (o : LoadOutcome) (s : Owner Members)
    (hnone : s.fields.footLog = none) :
    (openFootLog cfg o).Leads s fun r t => r = .ok ()
      ∧ ∃ f, t.fields = { s.fields with footLog := f } ∧ t.ledger.live = own f + s.ledger.live := by
  rw [openFootLog]
  split
  · simp only [leads_bind, leads_acquire, leads_modify, leads_use]
    exact ⟨Multiset.mem_cons_self _ _, trivial, some _, rfl, rfl⟩
  · rw [leads_pure]
    exact ⟨rfl, none, by rw [← hnone], (Multiset.zero_add _).symm⟩

/-- What loading leaves behind, whether or not it throws. -/
def Loaded (r : Except String Unit) (t : Owner Members) : Prop :=
  Owned t ∧ t.fields.thread = none ∧ t.fields.running = false
    ∧ (r = .ok () → t.fields.m.isSome = true ∧ t.fields.d.isSome = true)

/-- What has thrown has not loaded. -/
theorem error_ne_ok {p : Prop} {e : String} (h : (.error e : Except String Unit) = .ok ()) : p :=
  absurd h (by simp)

/-- A file opened, or not, beside a model that is held. -/
theorem held_of_model (m : ℕ) (f : Option ℕ) :
    Members.held { m := some m, footLog := f } = m ::ₘ own f := by
  cases f <;> rfl

theorem makeData_leads (cfg : LoadConfig) (o : LoadOutcome) {s : Owner Members} {m : ℕ}
    {f : Option ℕ} (hfields : s.fields = { m := some m, footLog := f })
    (hlive : s.ledger.live = m ::ₘ own f) : (makeData cfg o m).Leads s Loaded := by
  rw [makeData]
  split
  · simp only [leads_bind, leads_acquire, leads_modify, leads_use, hfields]
    refine ⟨Multiset.mem_cons_self _ _, ?_, rfl, rfl, fun _ => ⟨rfl, rfl⟩⟩
    change s.ledger.next ::ₘ s.ledger.live = own (some m) + own _ + own f + own none
    rw [hlive]
    rw [← Multiset.singleton_add, ← Multiset.singleton_add]
    change {_} + ({m} + own f) = {m} + {_} + own f + 0
    abel
  · simp only [leads_bind, leads_release, leads_modify, leads_throw, hfields]
    refine ⟨hlive ▸ Multiset.mem_cons_self _ _, ?_, rfl, rfl, error_ne_ok⟩
    change s.ledger.live.erase m = own none + own none + own f + own none
    rw [hlive, Multiset.erase_cons_head]
    cases f <;> rfl

/-- A step that throws leaves things as they are. -/
@[simp] theorem leads_check (what : Option String) {s : Owner Members}
    {Q : Except String Unit → Owner Members → Prop} :
    (check what).Leads s Q ↔ Q (what.elim (.ok ()) .error) s := by
  cases what <;> simp [check]

/-- **Loading into a new object**: whatever fails, the members own what has been allocated. -/
theorem loadModel_leads (cfg : LoadConfig) (o : LoadOutcome) {s : Owner Members}
    (hnew : s.fields = {}) (howned : Owned s) : (loadModel cfg o).Leads s Loaded := by
  have hlive : s.ledger.live = 0 := by
    rw [howned, hnew]
    rfl
  rw [loadModel, leads_bind]
  refine (readModel_leads cfg o s).mono fun r t h => ?_
  have hfields := h.1.trans hnew
  have hread := h.2
  rw [hlive] at hread
  cases r with
  | error e => refine ⟨hread.trans (by rw [hfields]; rfl), ?_, ?_, error_ne_ok⟩ <;> rw [hfields]
  | ok m =>
    dsimp only at hread ⊢
    simp only [leads_bind, leads_modify, leads_use, leads_check, hfields, hread]
    refine ⟨Multiset.mem_cons_self _ _, ?_⟩
    cases o.buildMap with
    | some e => exact ⟨hread, rfl, rfl, error_ne_ok⟩
    | none =>
      refine (openFootLog_leads cfg o _ rfl).mono fun r u hopen => ?_
      obtain ⟨rfl, f, hu, hlog⟩ := hopen
      have hheld : u.ledger.live = m ::ₘ own f := by
        rw [hlog, hread, add_comm]
        exact Multiset.singleton_add m _
      refine ⟨hheld ▸ Multiset.mem_cons_self _ _, ?_⟩
      cases o.copyMaps with
      | some e =>
        refine ⟨hheld.trans ?_, ?_, ?_, error_ne_ok⟩
        · rw [hu, ← held_of_model]
        · rw [hu]
        · rw [hu]
      | none => exact makeData_leads cfg o hu hheld

/-- A member freed and nulled leaves the others, and they own the rest. -/
theorem free_returns {p : Option ℕ} {clear : Members → Members} {s : Owner Members}
    (howned : Owned s) (hheld : s.fields.held = own p + (clear s.fields).held)
    (hnull : p = none → clear s.fields = s.fields) :
    (free p clear).Returns s fun _ t => t.fields = clear s.fields ∧ Owned t := by
  rw [Cmd.Returns]
  cases p with
  | none =>
    rw [free, leads_pure, hnull rfl]
    exact ⟨(), rfl, rfl, howned⟩
  | some h =>
    have hlive : s.ledger.live = h ::ₘ (clear s.fields).held :=
      (howned.trans hheld).trans (Multiset.singleton_add h _)
    simp only [free, leads_bind, leads_release, leads_modify]
    refine ⟨hlive ▸ Multiset.mem_cons_self _ _, (), trivial, trivial, ?_⟩
    change s.ledger.live.erase h = _
    rw [hlive, Multiset.erase_cons_head]

/-- The members that are left, each owning its own. -/
theorem held_eq (m d f t : Option ℕ) (running : Bool) :
    Members.held ⟨m, d, f, t, running⟩ = own m + own d + own f + own t := rfl

/-- **Unloading frees what is left**, and only the thread remains. -/
theorem unload_returns {s : Owner Members} (howned : Owned s) :
    unload.Returns s fun _ t => Owned t
      ∧ t.fields = { thread := s.fields.thread, running := s.fields.running } := by
  obtain ⟨⟨m, d, f, thread, running⟩, ledger⟩ := s
  rw [unload, Cmd.Returns, leads_bind, leads_fields]
  refine (free_returns howned ?_ fun h => h ▸ rfl).bind fun _ t ⟨ht, howned⟩ => ?_
  · simp only [held_eq, own]
    abel
  refine (free_returns howned ?_ fun h => ?_).bind fun _ u ⟨hu, howned⟩ => ?_
  · simp only [ht, held_eq, own]
    abel
  · rw [ht, h]
  refine Leads.mono (free_returns howned ?_ fun h => ?_) fun _ v ⟨_, hr, hv, howned⟩ => ?_
  · simp only [hu, ht, held_eq, own]
    abel
  · rw [hu, ht, h]
  · exact ⟨(), hr, howned, by rw [hv, hu, ht]⟩

/-- **Stopping joins the thread**, if there is one. -/
theorem stop_returns {s : Owner Members} (howned : Owned s) :
    stop.Returns s fun _ t => Owned t
      ∧ t.fields = { s.fields with running := false, thread := none } := by
  obtain ⟨⟨m, d, f, thread, running⟩, ledger⟩ := s
  have hlive : ledger.live = own m + own d + own f + own thread := howned
  rw [stop, Cmd.Returns, leads_bind, leads_modify]
  cases thread with
  | none => exact leads_pure () |>.mpr ⟨(), rfl, howned, rfl⟩
  | some t =>
    have hcons : ledger.live = t ::ₘ (own m + own d + own f + own none) := by
      rw [hlive, ← Multiset.singleton_add]
      simp only [own]
      abel
    simp only [leads_bind, leads_fields, leads_release, leads_modify]
    refine ⟨hcons ▸ Multiset.mem_cons_self _ _, (), trivial, ?_, trivial⟩
    change ledger.live.erase t = _
    rw [hcons, Multiset.erase_cons_head]
    rfl

/-- **Destroying frees everything.** -/
theorem destroy_returns {s : Owner Members} (howned : Owned s) :
    destroy.Returns s fun _ t => t.ledger.live = 0 := by
  rw [destroy]
  refine (stop_returns howned).bind fun _ t ⟨howned, ht⟩ => ?_
  refine Leads.mono (unload_returns howned) fun r u ⟨a, hr, howned, hu⟩ => ⟨a, hr, ?_⟩
  change u.ledger.live = 0
  rw [howned, hu, ht]
  rfl

/-- **Starting takes a thread**, unless one is running. -/
theorem start_returns {s : Owner Members} (howned : Owned s)
    (hrunning : s.fields.running = s.fields.thread.isSome) :
    start.Returns s fun _ t => Owned t
      ∧ ∃ k, t.fields = { s.fields with running := true, thread := some k } := by
  obtain ⟨⟨m, d, f, thread, running⟩, ledger⟩ := s
  have hlive : ledger.live = own m + own d + own f + own thread := howned
  obtain rfl : running = thread.isSome := hrunning
  rw [start, Cmd.Returns, leads_bind, leads_fields]
  cases thread with
  | some t => exact leads_pure () |>.mpr ⟨(), rfl, howned, t, rfl⟩
  | none =>
    simp only [Option.isSome_none, Bool.false_eq_true, if_false, leads_bind, leads_acquire,
      leads_modify]
    refine ⟨(), trivial, ?_, _, rfl⟩
    change ledger.next ::ₘ ledger.live = own m + own d + own f + own (some _)
    rw [hlive, ← Multiset.singleton_add]
    simp only [own]
    abel

/-- What a member points to is live. -/
theorem mem_live {s : Owner Members} (howned : Owned s) {h : ℕ}
    (hmem : s.fields.m = some h ∨ s.fields.d = some h ∨ s.fields.footLog = some h) :
    h ∈ s.ledger.live := by
  rw [howned, Members.held]
  simp only [Multiset.mem_add]
  obtain heq | heq | heq := hmem <;> simp [heq, own]

/-- **Resetting touches what is loaded**, and frees nothing. -/
theorem reset_returns {s : Owner Members} (howned : Owned s) (hm : s.fields.m.isSome = true)
    (hd : s.fields.d.isSome = true) : reset.Returns s fun _ t => t = s := by
  obtain ⟨m, hm⟩ := Option.isSome_iff_exists.mp hm
  obtain ⟨d, hd⟩ := Option.isSome_iff_exists.mp hd
  rw [reset, Cmd.Returns, leads_bind, leads_fields]
  simp only [hm, hd, follow, leads_bind, leads_use]
  exact ⟨mem_live howned (.inl hm), mem_live howned (.inr (.inl hd)), (), trivial, trivial⟩

/-- **A pass touches what is loaded**, and frees nothing. -/
theorem pass_returns {s : Owner Members} (howned : Owned s)
    (hloaded : s.fields.thread.isSome = true →
      s.fields.m.isSome = true ∧ s.fields.d.isSome = true) : pass.Returns s fun _ t => t = s := by
  simp only [pass, Cmd.Returns, leads_bind, leads_fields]
  cases hthread : s.fields.thread with
  | none => simp
  | some t =>
    obtain ⟨hm, hd⟩ := hloaded (by rw [hthread]; rfl)
    obtain ⟨m, hm⟩ := Option.isSome_iff_exists.mp hm
    obtain ⟨d, hd⟩ := Option.isSome_iff_exists.mp hd
    simp only [hm, hd, follow, leads_bind, leads_use]
    refine ⟨mem_live howned (.inl hm), mem_live howned (.inr (.inl hd)), ?_⟩
    cases hlog : s.fields.footLog with
    | none => simp
    | some f => simp [mem_live howned (.inr (.inr hlog))]

/-! ## Runs -/

/-- What holds between the calls of a client that keeps to the contract. -/
def Kept (p : Option (Owner Members) × Client) : Prop :=
  ∃ s, p.1 = some s ∧ Owned s ∧ s.fields.thread.isSome = p.2.started
    ∧ s.fields.running = p.2.started ∧ (p.2.stage = .constructed → s.fields = {})
    ∧ (p.2.stage = .loaded → s.fields.m.isSome = true ∧ s.fields.d.isSome = true)
    ∧ (p.2.started = true → p.2.stage = .loaded)

theorem kept_constructed : Kept (some constructed, {}) :=
  ⟨constructed, rfl, rfl, rfl, rfl, fun _ => rfl, nofun, nofun⟩

/-- A method that returns leads to an object. -/
theorem next_of_returns (cfg : LoadConfig) (call : Call) {s : Owner Members}
    {P : Unit → Owner Members → Prop} (h : (method cfg call).Returns s P) :
    ∃ t, (machine cfg).next (some s) call = some t ∧ P () t := by
  obtain ⟨r, t, heq, a, -, hP⟩ := h
  refine ⟨t, ?_, hP⟩
  change (method cfg call s).map Prod.snd = some t
  rw [heq]
  rfl

/-- The client learns from a load whether it threw. -/
theorem note_load {cfg : LoadConfig} {o : LoadOutcome} {c : Client} {s t : Owner Members}
    {r : Except String Unit} (h : loadModel cfg o s = some (r, t)) :
    (c.note cfg (some s) (.load o)).started = c.started
      ∧ (c.note cfg (some s) (.load o)).stage ≠ .constructed
      ∧ ((c.note cfg (some s) (.load o)).stage = .loaded → r = .ok ()) := by
  rw [Client.note, Option.bind_some, h]
  cases r with
  | ok _ => exact ⟨rfl, nofun, fun _ => rfl⟩
  | error _ => exact ⟨rfl, nofun, nofun⟩

/-- Loading is where the contract begins. -/
theorem kept_load (cfg : LoadConfig) (o : LoadOutcome) {s : Owner Members} {c : Client}
    (hnew : s.fields = {}) (howned : Owned s) (hstarted : c.started = false) :
    Kept (((machine cfg).withHistory (Client.note cfg)).next (some s, c) (.load o)) := by
  obtain ⟨r, t, heq, howned, hthread, hrunning, hloaded⟩ := loadModel_leads cfg o hnew howned
  obtain ⟨hsame, hstage, hok⟩ := note_load (c := c) heq
  have hnext : (machine cfg).next (some s) (.load o) = some t := by
    change (loadModel cfg o s).map Prod.snd = some t
    rw [heq]
    rfl
  refine ⟨t, hnext, howned, ?_, ?_, fun h => absurd h hstage, fun h => hloaded (hok h), fun h => ?_⟩
  · rw [hthread]
    exact (hsame.trans hstarted).symm
  · exact hrunning.trans (hsame.trans hstarted).symm
  · exact nomatch (hsame.trans hstarted).symm.trans h

/-- **A call that keeps to the contract** keeps what holds between calls. -/
theorem kept_next (cfg : LoadConfig) (p : Option (Owner Members) × Client) (call : Call)
    (hcontract : Contract p call) (h : Kept p) :
    Kept (((machine cfg).withHistory (Client.note cfg)).next p call) := by
  obtain ⟨p, c⟩ := p
  obtain ⟨s, hp, howned, hthread, hrunning, hnew, hloaded, hstarted⟩ := h
  dsimp only at hp hthread hrunning hnew hloaded hstarted
  subst hp
  cases call with
  | load o =>
    have hstage : c.stage = .constructed := hcontract
    refine kept_load cfg o (hnew hstage) howned (Bool.eq_false_iff.mpr fun h => ?_)
    exact nomatch hstage.symm.trans (hstarted h)
  | start =>
    obtain ⟨t, hnext, howned, k, ht⟩ := next_of_returns cfg .start
      (start_returns howned (hrunning.trans hthread.symm))
    refine ⟨t, hnext, howned, ?_, ?_, fun h => ?_, fun h => ?_, fun _ => hcontract⟩
    · rw [ht]
      rfl
    · rw [ht]
      rfl
    · exact nomatch hcontract.symm.trans h
    · rw [ht]
      exact hloaded h
  | pass =>
    obtain ⟨t, hnext, rfl⟩ := next_of_returns cfg .pass
      (pass_returns howned fun h => hloaded (hstarted (hthread.symm.trans h)))
    exact ⟨t, hnext, howned, hthread, hrunning, hnew, hloaded, hstarted⟩
  | reset =>
    obtain ⟨t, hnext, rfl⟩ := next_of_returns cfg .reset
      (reset_returns howned (hloaded hcontract).1 (hloaded hcontract).2)
    exact ⟨t, hnext, howned, hthread, hrunning, hnew, hloaded, hstarted⟩
  | stop =>
    obtain ⟨t, hnext, howned, ht⟩ := next_of_returns cfg .stop
      (stop_returns howned)
    refine ⟨t, hnext, howned, ?_, ?_, fun h => ?_, fun h => ?_, nofun⟩
    · rw [ht]
      rfl
    · rw [ht]
      rfl
    · rw [ht, hnew h]
    · rw [ht]
      exact hloaded h
  | unload =>
    obtain ⟨t, hnext, howned, ht⟩ := next_of_returns cfg .unload
      (unload_returns howned)
    refine ⟨t, hnext, howned, ?_, ?_, nofun, nofun, fun h => ?_⟩
    · rw [ht]
      exact hthread
    · rw [ht]
      exact hrunning
    · exact nomatch (show c.started = false from hcontract).symm.trans h
  | destroy => exact hcontract.elim

/-- **`SimCore` is sound, whatever fails.**  After any calls that keep to the contract, and any
passes of the physics thread, the destructor is reached without a fault and leaves nothing live. -/
theorem lifecycle_sound (cfg : LoadConfig) (calls : List Call)
    (hcontract : ((machine cfg).withHistory (Client.note cfg)).Always Contract
      (some constructed, {}) calls) :
    ∃ s, (machine cfg).run (some constructed) (calls ++ [.destroy]) = some s
      ∧ s.ledger.live = 0 := by
  obtain ⟨s, hs, howned, -⟩ := Machine.run_induction_always _ (kept_next cfg) calls _ hcontract
    kept_constructed
  rw [Machine.fst_run_withHistory] at hs
  obtain ⟨t, hnext, hlive⟩ := next_of_returns cfg .destroy
    (destroy_returns howned)
  refine ⟨t, ?_, hlive⟩
  rw [Machine.run_append, hs]
  exact hnext

/-- Three robots and a foot log; the second copy cannot be attached, and the client, who started
nothing, unloads what there is. -/
theorem lifecycle_sound_attachFails :
    ∃ s, (machine { modelPath := "scenes/field.xml", robots := 3, footLogPath := "feet.csv" }).run
        (some constructed)
        ([.load { attach := fun k => if k = 2 then some "name clash" else none }, .stop, .unload]
          ++ [.destroy]) = some s
      ∧ s.ledger.live = 0 :=
  lifecycle_sound _ _ ⟨rfl, trivial, rfl, trivial⟩

end Lifecycle

end K1Sim
