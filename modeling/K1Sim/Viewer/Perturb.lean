import K1Sim.Foundations.Machine
import K1Sim.Foundations.Numerals
import Mathlib.Algebra.Group.Pi.Basic
import Mathlib.Algebra.Order.Field.Rat
import Mathlib.Order.Defs.LinearOrder

/-!
# Viewer/Perturb — dragging a body with the mouse

A double click selects a body, and a drag with the control key held pushes or twists it: the frames
drawn meanwhile write a force to the selected body, and the first frame after the drag takes it
away.  `drags_end`: no other body ever has a force of the viewer's, and none has one after a frame
without a drag, as long as a frame is drawn between letting a button go and pressing one again.
-/

namespace K1Sim

open Foundations

namespace Viewer

/-- `GLFW_MOUSE_BUTTON_*`: the callback comes for the five further ones as well. -/
inductive MouseButton where
  | left | right | middle
  | further (i : Fin 5)
  deriving DecidableEq

/-- `mjtPertBit`, as far as `mjvPerturb::active` takes it. -/
inductive PertActive where
  | none | translate | rotate
  deriving DecidableEq

/-- `mjtMouse`. -/
inductive MouseAction where
  | zoom | moveH | moveV | rotateH | rotateV
  deriving DecidableEq

/-- `mjvPerturb`: the selection, and the drag under way. -/
structure Pert where
  select : ℕ := 0
  skinselect : ℤ := -1
  active : PertActive := .none

/-- A press of a mouse button: where the cursor is, when it is, the size of the window, and what
`mjv_select` finds under the cursor, a body and a skin, or nothing. -/
structure Click (K : Type*) where
  button : MouseButton
  ctrl : Bool := false
  x : K
  y : K
  now : K
  width : ℤ
  height : ℤ
  picked : Option (ℕ × ℤ)

/-- What happens on the main thread, and the resets of the simulator.  The reaction of every 16 ms
is a `poll`, the inputs that come in with it, and a `frame` with the force that
`mjv_applyPerturbForce` would write, unless the selected body takes none.  The other keys touch
nothing of this. -/
inductive Input (K : Type*) where
  | handles
  | poll
  | press (c : Click K)
  | release (button : MouseButton) (x y : K)
  | move (x y : K) (shift ctrl : Bool) (height : ℤ)
  | scroll (yoffset : K)
  | backspace
  | escape
  | frame (force : Option (Fin 6 → K))
  | reset

/-- What the viewer asks of others. -/
inductive Request (K : Type*) where
  | resetSim
  | shutdown
  | movePerturb (action : MouseAction) (dx dy : K)
  | moveCamera (action : MouseAction) (dx dy : K)

/-- The viewer's globals, whether the reaction under way is to draw a frame, the buttons that are
down, and `xfrc_applied`. -/
structure State (K : Type*) [Zero K] where
  ready : Bool := false
  closing : Bool := false
  drawing : Bool := false
  down : MouseButton → Bool := fun _ => false
  lastX : K := 0
  lastY : K := 0
  pert : Pert := {}
  lastClickTime : K := 0
  lastClickButton : Option MouseButton := none
  xfrcApplied : ℕ → Fin 6 → K := fun _ => 0

/-- `end_perturb`. -/
def endPerturb (p : Pert) : Pert := { p with active := .none }

/-- A press with the control key held begins a drag of the selected body. -/
def ctrlDrag (down : MouseButton → Bool) (ctrl : Bool) (p : Pert) : Pert :=
  if ctrl = true ∧ 0 < p.select then
    if down .right then { p with active := .translate }
    else if down .left then { p with active := .rotate }
    else p
  else p

section Callbacks

variable {K : Type*} [Field K] [LinearOrder K]

/-- What a double click selects. -/
def clickSelect (c : Click K) (p : Pert) : Pert :=
  if 0 < c.width ∧ 0 < c.height then
    match c.picked with
    | some (body, skin) => { p with select := body, skinselect := skin }
    | none => endPerturb { p with select := 0, skinselect := -1 }
  else p

/-- Two presses of one button, not 300 ms apart. -/
def State.DoubleClick (s : State K) (c : Click K) : Prop :=
  s.lastClickButton = some c.button ∧ c.now - s.lastClickTime < 3 / 10

instance (s : State K) (c : Click K) : Decidable (s.DoubleClick c) :=
  inferInstanceAs (Decidable (_ ∧ _))

/-- `mouse_button_cb`, of a press. -/
def State.press (s : State K) (c : Click K) : State K :=
  let held := { s with down := Function.update s.down c.button true, lastX := c.x, lastY := c.y }
  if s.ready then
    let dragged := ctrlDrag held.down c.ctrl s.pert
    { held with
      lastClickTime := c.now
      lastClickButton := some c.button
      pert := if s.DoubleClick c then clickSelect c dragged else dragged }
  else held

/-- `mouse_button_cb`, of a release. -/
def State.release (s : State K) (button : MouseButton) (x y : K) : State K :=
  let up := { s with down := Function.update s.down button false, lastX := x, lastY := y }
  if s.ready then { up with pert := endPerturb s.pert } else up

/-- The force that a frame leaves on the selected body. -/
def State.appliedForce (s : State K) (force : Option (Fin 6 → K)) : Fin 6 → K :=
  if s.pert.active ≠ .none then force.getD (s.xfrcApplied s.pert.select) else 0

/-- The viewer's turn at the sim mutex.  Escape does not keep the reaction that polls it from its
frame. -/
def State.frame (s : State K) (force : Option (Fin 6 → K)) : State K :=
  let drawn := { s with drawing := false }
  if s.drawing = true ∧ s.ready = true ∧ 0 < s.pert.select then
    { drawn with
      xfrcApplied := Function.update s.xfrcApplied s.pert.select (s.appliedForce force) }
  else drawn

/-- What `mouse_move_cb` moves. -/
def State.moved (s : State K) (x y : K) (shift ctrl : Bool) (height : ℤ) : Option (Request K) :=
  let dx := (x - s.lastX) / height
  let dy := (y - s.lastY) / height
  if (s.down .left || s.down .middle || s.down .right) && s.ready && height ≠ 0 then
    if ctrl = true ∧ s.pert.active ≠ .none then
      some (.movePerturb (if s.down .right then .moveV else .rotateV) dx dy)
    else
      let action : MouseAction :=
        if s.down .right then if shift then .moveH else .moveV
        else if s.down .left then if shift then .rotateH else .rotateV
        else .zoom
      some (.moveCamera action dx dy)
  else none

/-- The viewer and its window. -/
def machine : Machine (State K) (Input K) (Request K) where
  next s
    | .handles => { s with ready := true }
    | .poll => { s with drawing := !s.closing }
    | .press c => s.press c
    | .release button x y => s.release button x y
    | .move x y _ _ _ => { s with lastX := x, lastY := y }
    | .scroll _ => s
    | .backspace => { s with pert := endPerturb s.pert }
    | .escape => { s with closing := true }
    | .frame force => s.frame force
    | .reset => { s with xfrcApplied := fun _ => 0 }
  out s
    | .move x y shift ctrl height => s.moved x y shift ctrl height
    | .scroll yoffset => if s.ready then some (.moveCamera .zoom 0 (-(5 / 100) * yoffset)) else none
    | .backspace => some .resetSim
    | .poll => if s.closing then some .shutdown else none
    | _ => none

/-! ## What a user and GLFW keep to -/

/-- The history variable: a drag may have ended since the last frame. -/
def noteEnded (ended : Bool) (s : State K) : Input K → Bool
  | .release _ _ _ => true
  | .backspace => true
  | .frame _ => if s.drawing then false else ended
  | _ => ended

/-- A button is pressed that is not down, and not before a frame has followed what ended a drag. -/
def Polled (p : State K × Bool) : Input K → Prop
  | .press c => p.1.down c.button = false ∧ p.2 = false
  | _ => True

instance (p : State K × Bool) : (e : Input K) → Decidable (Polled p e)
  | .press _ => inferInstanceAs (Decidable (_ ∧ _))
  | .handles | .poll | .release _ _ _ | .move _ _ _ _ _ | .scroll _ | .backspace | .escape
  | .frame _ | .reset => .isTrue trivial

/-- **A drag ends where it should**: only the selected body has a force, a drag is under way only
while one of its buttons is down, and no body has a force after a frame without a drag. -/
structure DragsEnd (s : State K) (e : Input K) : Prop where
  selected : ∀ b, b ≠ (machine.next s e).pert.select → (machine.next s e).xfrcApplied b = 0
  held : (machine.next s e).pert.active ≠ .none →
    (machine.next s e).down .right = true ∨ (machine.next s e).down .left = true
  ended : ∀ force, e = .frame force → s.drawing = true → s.pert.active = .none →
    (machine.next s e).xfrcApplied = fun _ => 0

/-- What holds between two inputs. -/
structure DragInv (s : State K) (ended : Bool) : Prop where
  selected : ∀ b, b ≠ s.pert.select → s.xfrcApplied b = 0
  world : s.xfrcApplied 0 = 0
  unready : s.ready = false → s.pert.active = .none ∧ s.xfrcApplied = fun _ => 0
  held : s.pert.active ≠ .none → s.down .right = true ∨ s.down .left = true
  /-- The button pressed last is still down, or no drag is under way. -/
  lastDown : ∀ b, s.lastClickButton = some b → s.down b = false → s.pert.active = .none
  settled : ended = false → s.pert.active = .none → s.xfrcApplied = fun _ => 0

/-! ## Each input keeps it -/

theorem ctrlDrag_select (down : MouseButton → Bool) (ctrl : Bool) (p : Pert) :
    (ctrlDrag down ctrl p).select = p.select := by
  rw [ctrlDrag]
  split_ifs <;> rfl

/-- A drag begins with one of its buttons down. -/
theorem ctrlDrag_active (down : MouseButton → Bool) (ctrl : Bool) (p : Pert) :
    (ctrlDrag down ctrl p).active = p.active
      ∨ (ctrlDrag down ctrl p).active ≠ .none ∧ (down .right = true ∨ down .left = true) := by
  rw [ctrlDrag]
  split_ifs with hctrl hright hleft
  · exact .inr ⟨nofun, .inl hright⟩
  · exact .inr ⟨nofun, .inr hleft⟩
  · exact .inl rfl
  · exact .inl rfl

omit [Field K] [LinearOrder K] in
theorem clickSelect_active (c : Click K) (p : Pert) :
    (clickSelect c p).active = p.active ∨ (clickSelect c p).active = .none := by
  rw [clickSelect]
  split_ifs
  · split
    · exact .inl rfl
    · exact .inr rfl
  · exact .inl rfl

variable {s : State K}

/-- **A double click finds no force left**: the button was let go since, and a frame has
followed. -/
theorem DragInv.of_doubleClick (h : DragInv s false) {c : Click K}
    (hup : s.down c.button = false) (hdouble : s.DoubleClick c) :
    s.pert.active = .none ∧ s.xfrcApplied = fun _ => 0 := by
  have hactive := h.lastDown c.button hdouble.1 hup
  exact ⟨hactive, h.settled rfl hactive⟩

/-- A button stays down as long as another is pressed. -/
theorem down_press {down : MouseButton → Bool} {b : MouseButton} (button : MouseButton)
    (hb : down b = true) : Function.update down button true b = true := by
  by_cases hsame : b = button
  · rw [hsame, Function.update_self]
  · rw [Function.update_of_ne hsame, hb]

omit [LinearOrder K] in
theorem DragInv.held_press (h : DragInv s false) (c : Click K) :
    (ctrlDrag (Function.update s.down c.button true) c.ctrl s.pert).active ≠ .none →
      Function.update s.down c.button true .right = true
        ∨ Function.update s.down c.button true .left = true := by
  intro hne
  obtain hsame | ⟨-, hdown⟩ := ctrlDrag_active (Function.update s.down c.button true) c.ctrl s.pert
  · rw [hsame] at hne
    exact (h.held hne).imp (down_press c.button) (down_press c.button)
  · exact hdown

theorem DragInv.press_single (h : DragInv s false) {c : Click K} (hready : s.ready = true)
    (hsingle : ¬ s.DoubleClick c) : DragInv (s.press c) false := by
  have hselect := ctrlDrag_select (Function.update s.down c.button true) c.ctrl s.pert
  simp only [State.press, if_pos hready, if_neg hsingle]
  refine ⟨fun b hb => h.selected b (hselect ▸ hb), h.world, fun hno => ?_, h.held_press c,
    fun b hb hup => ?_, fun _ hnone => ?_⟩
  · exact absurd (hready.symm.trans hno) (by decide)
  · obtain rfl := Option.some.inj hb
    exact absurd ((Function.update_self ..).symm.trans hup) (by decide)
  · obtain hsame | ⟨hne, -⟩ :=
      ctrlDrag_active (Function.update s.down c.button true) c.ctrl s.pert
    · exact h.settled rfl (hsame.symm.trans hnone)
    · exact absurd hnone hne

theorem DragInv.press_double (h : DragInv s false) {c : Click K} (hready : s.ready = true)
    (hup : s.down c.button = false) (hdouble : s.DoubleClick c) : DragInv (s.press c) false := by
  obtain ⟨-, hforce⟩ := h.of_doubleClick hup hdouble
  simp only [State.press, if_pos hready, if_pos hdouble]
  refine ⟨fun b _ => congrFun hforce b, congrFun hforce 0, fun hno => ?_, fun hne => ?_,
    fun b hb hup => ?_, fun _ _ => hforce⟩
  · exact absurd (hready.symm.trans hno) (by decide)
  · obtain hsame | hnone := clickSelect_active c
      (ctrlDrag (Function.update s.down c.button true) c.ctrl s.pert)
    · exact h.held_press c (hsame ▸ hne)
    · exact absurd hnone hne
  · obtain rfl := Option.some.inj hb
    exact absurd ((Function.update_self ..).symm.trans hup) (by decide)

theorem DragInv.press (h : DragInv s false) {c : Click K} (hup : s.down c.button = false) :
    DragInv (s.press c) false := by
  by_cases hready : s.ready = true
  · by_cases hdouble : s.DoubleClick c
    · exact h.press_double hready hup hdouble
    · exact h.press_single hready hdouble
  · have hunready := Bool.eq_false_iff.mpr hready
    obtain ⟨hactive, hforce⟩ := h.unready hunready
    simp only [State.press, if_neg hready]
    exact ⟨h.selected, h.world, fun _ => ⟨hactive, hforce⟩, fun hne => absurd hactive hne,
      fun _ _ _ => hactive, fun _ _ => hforce⟩

omit [LinearOrder K] in
theorem DragInv.release {ended : Bool} (h : DragInv s ended) (button : MouseButton) (x y : K) :
    DragInv (s.release button x y) true := by
  simp only [State.release]
  split_ifs with hready
  · exact ⟨h.selected, h.world, fun hno => absurd (hready.symm.trans hno) (by decide),
      fun hne => absurd rfl hne, fun _ _ _ => rfl, nofun⟩
  · obtain ⟨hactive, hforce⟩ := h.unready (Bool.eq_false_iff.mpr hready)
    exact ⟨h.selected, h.world, fun _ => ⟨hactive, hforce⟩, fun hne => absurd hactive hne,
      fun _ _ _ => hactive, nofun⟩

omit [LinearOrder K] in
/-- **A frame without a drag takes the force away.** -/
theorem DragInv.frame_idle {ended : Bool} (h : DragInv s ended) (hdrawing : s.drawing = true)
    (hactive : s.pert.active = .none) (force : Option (Fin 6 → K)) :
    (s.frame force).xfrcApplied = fun _ => 0 := by
  rw [State.frame]
  split_ifs with hdraws
  · have hzero : s.appliedForce force = 0 := if_neg (not_not.mpr hactive)
    funext b
    dsimp only
    by_cases hb : b = s.pert.select
    · rw [hb, Function.update_self, hzero]
    · rw [Function.update_of_ne hb, h.selected b hb]
  · by_cases hready : s.ready = true
    · -- nothing is selected, and the world has no force
      have hnone : s.pert.select = 0 :=
        Nat.eq_zero_of_not_pos fun hpos => hdraws ⟨hdrawing, hready, hpos⟩
      funext b
      by_cases hb : b = 0
      · rw [hb, h.world]
      · exact h.selected b (hnone ▸ hb)
    · exact (h.unready (Bool.eq_false_iff.mpr hready)).2

omit [LinearOrder K] in
theorem DragInv.frame {ended : Bool} (h : DragInv s ended) (force : Option (Fin 6 → K)) :
    DragInv (s.frame force) (if s.drawing then false else ended) := by
  have hidle (hdrawing : s.drawing = true) (hactive : s.pert.active = .none) :=
    h.frame_idle hdrawing hactive force
  rw [State.frame] at hidle ⊢
  dsimp only at hidle ⊢
  split_ifs at hidle ⊢ with hdraws hdrawing hdrawing
  · obtain ⟨-, hready, hpos⟩ := hdraws
    refine ⟨fun b hb => ?_, ?_, fun hno => ?_, h.held, h.lastDown, fun _ => hidle hdrawing⟩
    · exact (Function.update_of_ne hb _ _).trans (h.selected b hb)
    · exact (Function.update_of_ne hpos.ne _ _).trans h.world
    · exact absurd (hready.symm.trans hno) (by decide)
  · exact absurd hdraws.1 hdrawing
  · exact ⟨h.selected, h.world, h.unready, h.held, h.lastDown, fun _ => hidle hdrawing⟩
  · exact ⟨h.selected, h.world, h.unready, h.held, h.lastDown, h.settled⟩

/-- **Every input keeps it.** -/
theorem DragInv.next {ended : Bool} (h : DragInv s ended) (e : Input K)
    (hpolled : Polled (s, ended) e) : DragInv (machine.next s e) (noteEnded ended s e) := by
  cases e with
  | press c =>
    obtain ⟨hup, rfl⟩ := hpolled
    exact h.press hup
  | release button x y => exact h.release button x y
  | frame force => exact h.frame force
  | handles =>
    exact ⟨h.selected, h.world, nofun, h.held, h.lastDown, h.settled⟩
  | poll => exact ⟨h.selected, h.world, h.unready, h.held, h.lastDown, h.settled⟩
  | move => exact ⟨h.selected, h.world, h.unready, h.held, h.lastDown, h.settled⟩
  | scroll => exact h
  | backspace =>
    exact ⟨h.selected, h.world, fun hno => ⟨rfl, (h.unready hno).2⟩, fun hne => absurd rfl hne,
      fun _ _ _ => rfl, nofun⟩
  | escape => exact ⟨h.selected, h.world, h.unready, h.held, h.lastDown, h.settled⟩
  | reset =>
    exact ⟨fun _ _ => rfl, rfl, fun hno => ⟨(h.unready hno).1, rfl⟩, h.held, h.lastDown,
      fun _ _ => rfl⟩

omit [LinearOrder K] in
/-- The viewer on start-up. -/
theorem dragInv_start : DragInv ({} : State K) false :=
  ⟨fun _ _ => rfl, rfl, fun _ => ⟨rfl, rfl⟩, fun hne => absurd rfl hne, nofun, fun _ _ => rfl⟩

theorem DragInv.dragsEnd {ended : Bool} (h : DragInv s ended) {e : Input K}
    (hpolled : Polled (s, ended) e) : DragsEnd s e := by
  have hnext := h.next e hpolled
  refine ⟨hnext.selected, hnext.held, ?_⟩
  rintro force rfl hdrawing hactive
  exact h.frame_idle hdrawing hactive force

/-- **Drags end.**  Along every run of the viewer in which a frame is drawn between what ends a drag
and the next press of a button, only the selected body has a force, a drag is under way only while
one of its buttons is down, and no body has a force after a frame without a drag. -/
theorem drags_end (es : List (Input K))
    (hpolled : (machine.withHistory noteEnded).Always Polled (({} : State K), false) es) :
    (machine (K := K)).Always DragsEnd {} es := by
  have hboth := ((machine.withHistory noteEnded).always_iff_always
    (P := Polled) (Q := fun p e => Polled p e ∧ DragsEnd p.1 e)
    (fun p e (h : DragInv p.1 p.2) => ⟨fun hp => ⟨hp, h.dragsEnd hp⟩, And.left⟩)
    (fun p e h hp => h.next e hp) es ({}, false) dragInv_start).mp hpolled
  rw [← machine.always_withHistory noteEnded false]
  exact (((machine.withHistory noteEnded).always_and ..).mp hboth).2

end Callbacks

/-! ## A push -/

/-- A click of the right button on the robot, in a window of a hundred pixels a side. -/
def clickRobot (ctrl : Bool) (now : ℚ) : Click ℚ :=
  { button := .right, ctrl := ctrl, x := 50, y := 50, now := now, width := 100, height := 100,
    picked := some (1, -1) }

/-- The robot selected by a double click, then pushed, and the window closed. -/
def push : List (Input ℚ) :=
  [.handles, .poll, .press (clickRobot false 1), .release .right 50 50, .frame none,
    .poll, .press (clickRobot false (6 / 5)), .release .right 50 50, .frame none,
    .poll, .press (clickRobot true 2), .frame (some fun _ => 1),
    .poll, .release .right 50 60, .escape, .frame none, .poll]

theorem drags_end_push : (machine (K := ℚ)).Always DragsEnd {} push :=
  drags_end push (by decide +kernel)

/-- The same with the last drag let go over an empty spot, in a second click that no frame comes
before: nothing is selected any more, and the robot keeps the force. -/
example :
    let clickAway := { clickRobot true (11 / 5) with picked := none }
    let s := (machine (K := ℚ)).run {} (push.take 12
      ++ [.poll, .release .right 50 60, .press clickAway, .frame none])
    s.pert.select = 0 ∧ s.xfrcApplied 1 0 = 1 := by
  decide +kernel

end Viewer

end K1Sim
