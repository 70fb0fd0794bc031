import K1Sim.Foundations.Accumulate
import K1Sim.Shared.ModelMap
import K1Sim.Simulation.Rpy

/-!
# Simulation/FootLog — the row of foot contacts

`logFootState` writes, for each foot, the sum of the normal forces on it and their centre of
pressure in the foot's own frame.  A contact is counted for one foot, the left one first, so the row
is true of every foot exactly when no loaded contact is between the two (`footLog_true_iff`).
-/

namespace K1Sim

open Foundations

/-- `mjContact`, with the force that `mj_contactForce` finds in it, in the frame of the contact. -/
structure MjContact (K : Type*) where
  geom1 : ℕ
  geom2 : ℕ
  pos : Vec3 K
  force : Fin 6 → K

/-- What `mjData` has derived of the bodies and their contacts. -/
structure MjBodies (K : Type*) where
  xpos : ℕ → K
  xmat : ℕ → K
  xquat : ℕ → K
  contact : List (MjContact K)

/-- `mju_mulMatTVec3`: the vector times the transposed matrix. -/
def mjuMulMatTVec3 {K : Type*} [Field K] (mat : ℕ → K) (v : Vec3 K) : Vec3 K :=
  ⟨mat 0 * v.x + mat 3 * v.y + mat 6 * v.z, mat 1 * v.x + mat 4 * v.y + mat 7 * v.z,
    mat 2 * v.x + mat 5 * v.y + mat 8 * v.z⟩

/-- `foot_log_` while it is open: the model has both feet. -/
structure FootLog {K : Type*} (m : MjModel K) where
  leftFootBodyId : ℕ
  rightFootBodyId : ℕ
  left_name : m.name2id .body "left_foot_link" = some leftFootBodyId
  right_name : m.name2id .body "right_foot_link" = some rightFootBodyId

/-- The part of `load_model` that opens the log.  `fopen` says whether a path can be written. -/
def openFootLog {K : Type*} (m : MjModel K) (footLogPath : String) (fopen : String → Bool) :
    Option (FootLog m) :=
  if footLogPath = "" then none
  else
    match hleft : m.name2id .body "left_foot_link",
      hright : m.name2id .body "right_foot_link" with
    | some left, some right => if fopen footLogPath then some ⟨left, right, hleft, hright⟩ else none
    | _, _ => none

/-- `FootAcc`. -/
structure FootAcc (K : Type*) where
  fz : K
  copX : K
  copY : K
  pitch : K
  roll : K

/-- A row of the log. -/
structure FootRow (K : Type*) where
  time : K
  feet : Fin 2 → FootAcc K
  basePitch : K
  baseZ : K

namespace FootLog

variable {K : Type*} [Field K] {m : MjModel K} (log : FootLog m) (d : MjBodies K)

/-- `body_ids`: the left foot, then the right one. -/
def bodyIds : Fin 2 → ℕ := ![log.leftFootBodyId, log.rightFootBodyId]

omit [Field K] in
theorem bodyIds_ne : log.bodyIds 0 ≠ log.bodyIds 1 := by
  intro h
  have hname := m.name2id_inj (log.left_name.trans (congrArg some h)) log.right_name
  exact absurd hname (by decide)

/-- The foot's body takes part in the contact. -/
def Involves (f : Fin 2) (con : MjContact K) : Prop :=
  m.geomBodyid con.geom1 = log.bodyIds f ∨ m.geomBodyid con.geom2 = log.bodyIds f

instance (f : Fin 2) (con : MjContact K) : Decidable (log.Involves f con) :=
  inferInstanceAs (Decidable (_ ∨ _))

/-- The foot that a contact is counted for. -/
def footOf (con : MjContact K) : Option (Fin 2) :=
  if log.Involves 0 con then some 0 else if log.Involves 1 con then some 1 else none

/-- The contact point in the foot's frame. -/
def localPoint (f : Fin 2) (con : MjContact K) : Vec3 K :=
  let b := log.bodyIds f
  mjuMulMatTVec3 (fun i => d.xmat (9 * b + i))
    ⟨con.pos.x - d.xpos (3 * b), con.pos.y - d.xpos (3 * b + 1), con.pos.z - d.xpos (3 * b + 2)⟩

/-- The feet before any contact: the tilt of their soles. -/
def soles [Libc K] (f : Fin 2) : FootAcc K :=
  let xmat i := d.xmat (9 * log.bodyIds f + i)
  { fz := 0
    copX := 0
    copY := 0
    pitch := Libc.atan2 (xmat 2) (xmat 8)
    roll := Libc.atan2 (xmat 5) (xmat 8) }

variable [LinearOrder K]

/-- One contact counted. -/
def addContact (feet : Fin 2 → FootAcc K) (con : MjContact K) : Fin 2 → FootAcc K :=
  match log.footOf con with
  | none => feet
  | some f =>
    let fn := con.force 0
    if fn ≤ 0 then feet
    else
      let p := log.localPoint d f con
      Function.update feet f
        { feet f with
          fz := (feet f).fz + fn
          copX := (feet f).copX + fn * p.x
          copY := (feet f).copY + fn * p.y }

/-- The centre of pressure from the weighted sum. -/
def centre (foot : FootAcc K) : FootAcc K :=
  if 0 < foot.fz then { foot with copX := foot.copX / foot.fz, copY := foot.copY / foot.fz }
  else foot

end FootLog

/-- `log_foot_state`: the row written, if any. -/
def logFootState {K : Type*} [Field K] [LinearOrder K] [Libc K] [Arcsine K] {m : MjModel K}
    (footLog : Option (FootLog m)) (map : ModelMap) (data : MjData K) (d : MjBodies K) :
    Option (FootRow K) :=
  footLog.map fun log =>
    let feet := d.contact.foldl (log.addContact d) (log.soles d)
    let xquat i := d.xquat (4 * map.rootBodyId + i)
    { time := data.time
      feet := fun f => FootLog.centre (feet f)
      basePitch := (quatToRpy ⟨xquat 0, xquat 1, xquat 2, xquat 3⟩).y
      baseZ := data.qpos (map.rootQposAdr + 2) }

namespace FootLog

variable {K : Type*} [Field K] [LinearOrder K] {m : MjModel K} (log : FootLog m) (d : MjBodies K)

/-- The contacts counted for a foot. -/
def counted (f : Fin 2) : List (MjContact K) :=
  d.contact.filter fun con => log.footOf con = some f ∧ 0 < con.force 0

/-- The loaded contacts that a foot's body takes part in. -/
def loaded (f : Fin 2) : List (MjContact K) :=
  d.contact.filter fun con => log.Involves f con ∧ 0 < con.force 0

/-- The contact is between the two feet. -/
def BetweenFeet (con : MjContact K) : Prop := log.Involves 0 con ∧ log.Involves 1 con

omit [Field K] [LinearOrder K] in
/-- The two feet being two bodies, each has one of the geoms. -/
theorem betweenFeet_iff (con : MjContact K) : log.BetweenFeet con
    ↔ (m.geomBodyid con.geom1 = log.bodyIds 0 ∧ m.geomBodyid con.geom2 = log.bodyIds 1)
      ∨ (m.geomBodyid con.geom1 = log.bodyIds 1 ∧ m.geomBodyid con.geom2 = log.bodyIds 0) := by
  have hne := log.bodyIds_ne
  constructor
  · rintro ⟨hleft | hleft, hright | hright⟩
    · exact absurd (hleft.symm.trans hright) hne
    · exact .inl ⟨hleft, hright⟩
    · exact .inr ⟨hright, hleft⟩
    · exact absurd (hleft.symm.trans hright) hne
  · rintro (⟨hleft, hright⟩ | ⟨hright, hleft⟩)
    · exact ⟨.inl hleft, .inr hright⟩
    · exact ⟨.inr hleft, .inl hright⟩

/-- What a row says of a foot is true: the sum of the normal forces on it, and their centre of
pressure in the foot's own frame, or zeros without any. -/
structure TrueOf (f : Fin 2) (foot : FootAcc K) : Prop where
  fz : foot.fz = ((log.loaded d f).map fun con => con.force 0).sum
  /-- The divisor is positive, -/
  cop : log.loaded d f ≠ [] → 0 < foot.fz
    ∧ foot.copX = weightedMean (fun con => con.force 0) (fun con => (log.localPoint d f con).x)
      (log.loaded d f)
    ∧ foot.copY = weightedMean (fun con => con.force 0) (fun con => (log.localPoint d f con).y)
      (log.loaded d f)
  /-- and without a loaded contact there is no division. -/
  unloaded : log.loaded d f = [] → foot.fz = 0 ∧ foot.copX = 0 ∧ foot.copY = 0
  box_x : log.loaded d f ≠ [] → ∀ lo hi,
    (∀ con ∈ log.loaded d f, (log.localPoint d f con).x ∈ Set.Icc lo hi) → foot.copX ∈ Set.Icc lo hi
  box_y : log.loaded d f ≠ [] → ∀ lo hi,
    (∀ con ∈ log.loaded d f, (log.localPoint d f con).y ∈ Set.Icc lo hi) → foot.copY ∈ Set.Icc lo hi

theorem addContact_apply (feet : Fin 2 → FootAcc K) (con : MjContact K) (f : Fin 2) :
    log.addContact d feet con f
      = if log.footOf con = some f ∧ 0 < con.force 0 then
          { feet f with
            fz := (feet f).fz + con.force 0
            copX := (feet f).copX + con.force 0 * (log.localPoint d f con).x
            copY := (feet f).copY + con.force 0 * (log.localPoint d f con).y }
        else feet f := by
  rw [addContact]
  rcases hfoot : log.footOf con with - | g
  case none => rw [if_neg fun h => absurd h.1 (by simp)]
  case some =>
    by_cases hfn : con.force 0 ≤ 0
    · simp only [if_pos hfn]
      rw [if_neg fun h => hfn.not_gt h.2]
    · simp only [if_neg hfn]
      by_cases hg : g = f
      · subst hg
        rw [Function.update_self, if_pos ⟨rfl, not_le.mp hfn⟩]
      · rw [Function.update_of_ne (Ne.symm hg), if_neg fun h => hg (Option.some.inj h.1)]

/-- A reading of a foot to which every contact counted for it adds its amount. -/
theorem foldl_reading {f : Fin 2} (read : FootAcc K → K) {amount : MjContact K → K}
    (hread : ∀ foot con, read { foot with
        fz := foot.fz + con.force 0
        copX := foot.copX + con.force 0 * (log.localPoint d f con).x
        copY := foot.copY + con.force 0 * (log.localPoint d f con).y } = read foot + amount con)
    (feet : Fin 2 → FootAcc K) : read (d.contact.foldl (log.addContact d) feet f)
      = read (feet f) + ((log.counted d f).map amount).sum := by
  refine foldl_accumulate (fun feet : Fin 2 → FootAcc K => read (feet f)) (fun feet con => ?_) _ _
  rw [addContact_apply]
  by_cases h : log.footOf con = some f ∧ 0 < con.force 0
  · rw [if_pos h, hread, if_pos (decide_eq_true h)]
  · rw [if_neg h, if_neg (decide_eq_true_iff.not.mpr h), add_zero]

/-- **After all contacts**, a foot holds the sums over those counted for it. -/
theorem foldl_addContact (feet : Fin 2 → FootAcc K) (f : Fin 2) :
    (d.contact.foldl (log.addContact d) feet f).fz
        = (feet f).fz + ((log.counted d f).map fun con => con.force 0).sum
      ∧ (d.contact.foldl (log.addContact d) feet f).copX = (feet f).copX
        + ((log.counted d f).map fun con => con.force 0 * (log.localPoint d f con).x).sum
      ∧ (d.contact.foldl (log.addContact d) feet f).copY = (feet f).copY
        + ((log.counted d f).map fun con => con.force 0 * (log.localPoint d f con).y).sum := by
  refine ⟨?_, ?_, ?_⟩
  · exact log.foldl_reading d FootAcc.fz (fun _ _ => rfl) feet
  · exact log.foldl_reading d FootAcc.copX (fun _ _ => rfl) feet
  · exact log.foldl_reading d FootAcc.copY (fun _ _ => rfl) feet

theorem centre_of_pos {foot : FootAcc K} (h : 0 < foot.fz) :
    centre foot = { foot with copX := foot.copX / foot.fz, copY := foot.copY / foot.fz } :=
  if_pos h

theorem centre_of_zero {foot : FootAcc K} (h : foot.fz = 0) : centre foot = foot :=
  if_neg fun hpos => hpos.ne' h

/-- What the row says of a foot. -/
def foot [Libc K] (f : Fin 2) : FootAcc K :=
  centre (d.contact.foldl (log.addContact d) (log.soles d) f)

variable {log d}

theorem force_pos {f : Fin 2} {con : MjContact K} (h : con ∈ log.loaded d f) : 0 < con.force 0 :=
  (of_decide_eq_true (List.mem_filter.mp h).2).2

variable [Libc K]

theorem foot_fz (f : Fin 2) :
    (log.foot d f).fz = ((log.counted d f).map fun con => con.force 0).sum := by
  have hfz := (log.foldl_addContact d (log.soles d) f).1
  change _ = 0 + _ at hfz
  rw [zero_add] at hfz
  rw [foot, centre]
  split_ifs
  · exact hfz
  · exact hfz

section Ordered

variable [IsStrictOrderedRing K]

/-- **A foot for which all of its loaded contacts are counted** is told truly. -/
theorem trueOf_of_counted {f : Fin 2} (h : log.counted d f = log.loaded d f) :
    log.TrueOf d f (log.foot d f) := by
  have hfz : (log.foot d f).fz = _ := foot_fz f
  obtain ⟨hsum, hx, hy⟩ := log.foldl_addContact d (log.soles d) f
  rw [h] at hfz hsum hx hy
  change _ = 0 + _ at hsum hx hy
  rw [zero_add] at hsum hx hy
  by_cases hnone : log.loaded d f = []
  · rw [hnone] at hsum hx hy
    have hfoot : log.foot d f = d.contact.foldl (log.addContact d) (log.soles d) f :=
      centre_of_zero hsum
    refine ⟨hfz, fun h => absurd hnone h, fun _ => ?_, fun h => absurd hnone h,
      fun h => absurd hnone h⟩
    rw [hfoot]
    exact ⟨hsum, hx, hy⟩
  · have hpos := sum_weights_pos hnone fun con hcon => force_pos hcon
    have hfoot := centre_of_pos (hsum.symm ▸ hpos)
    have hcopX : (log.foot d f).copX = weightedMean (fun con => con.force 0)
        (fun con => (log.localPoint d f con).x) (log.loaded d f) := by
      rw [foot, hfoot, weightedMean, ← hx, ← hsum]
    have hcopY : (log.foot d f).copY = weightedMean (fun con => con.force 0)
        (fun con => (log.localPoint d f con).y) (log.loaded d f) := by
      rw [foot, hfoot, weightedMean, ← hy, ← hsum]
    refine ⟨hfz, fun _ => ⟨hfz.symm ▸ hpos, hcopX, hcopY⟩, fun h => absurd h hnone,
      fun _ lo hi hbox => ?_, fun _ lo hi hbox => ?_⟩
    · rw [hcopX]
      exact weightedMean_mem_Icc hnone (fun con hcon => force_pos hcon) hbox
    · rw [hcopY]
      exact weightedMean_mem_Icc hnone (fun con hcon => force_pos hcon) hbox

end Ordered

omit [Libc K] [LinearOrder K] [Field K] in
/-- **The left foot comes first**: a contact is counted for the right one if the left one has no
part in it. -/
theorem footOf_eq_some_iff (con : MjContact K) :
    (log.footOf con = some 0 ↔ log.Involves 0 con)
      ∧ (log.footOf con = some 1 ↔ log.Involves 1 con ∧ ¬ log.Involves 0 con) := by
  rw [footOf]
  split_ifs with hleft hright <;> simp_all

omit [Libc K] in
theorem counted_left : log.counted d 0 = log.loaded d 0 :=
  List.filter_congr fun con _ =>
    decide_eq_decide.mpr (and_congr_left fun _ => (footOf_eq_some_iff con).1)

omit [Libc K] in
theorem counted_right (h : ∀ con ∈ d.contact, 0 < con.force 0 → ¬ log.BetweenFeet con) :
    log.counted d 1 = log.loaded d 1 := by
  refine List.filter_congr fun con hcon => decide_eq_decide.mpr ?_
  rw [(footOf_eq_some_iff con).2]
  refine and_congr_left fun hforce => and_iff_left_of_imp fun hright hleft => ?_
  exact h con hcon hforce ⟨hleft, hright⟩

end FootLog

/-- **The row is true of both feet exactly when no loaded contact is between them.** -/
theorem footLog_true_iff {K : Type*} [Field K] [LinearOrder K] [IsStrictOrderedRing K] [Libc K]
    [Arcsine K] {m : MjModel K} {log : FootLog m} {map : ModelMap} {data : MjData K}
    {d : MjBodies K} {row : FootRow K} (hrow : logFootState (some log) map data d = some row) :
    (∀ f, log.TrueOf d f (row.feet f))
      ↔ ∀ con ∈ d.contact, 0 < con.force 0 → ¬ log.BetweenFeet con := by
  obtain rfl := Option.some.inj hrow
  change (∀ f, log.TrueOf d f (log.foot d f)) ↔ _
  constructor
  · intro htrue con hcon hforce hboth
    have hfz := (htrue 1).fz
    rw [FootLog.foot_fz] at hfz
    refine hfz.not_lt (sum_filter_lt (fun con h => ?_) (fun con _ h => ?_) ⟨con, hcon, ?_, ?_⟩)
    · obtain ⟨hfoot, hloaded⟩ := of_decide_eq_true h
      exact decide_eq_true ⟨((FootLog.footOf_eq_some_iff con).2.mp hfoot).1, hloaded⟩
    · exact (of_decide_eq_true h).2
    · exact decide_eq_true ⟨hboth.2, hforce⟩
    · exact fun h =>
        ((FootLog.footOf_eq_some_iff con).2.mp (of_decide_eq_true h).1).2 hboth.1
  · intro hnone
    refine Fin.forall_fin_two.mpr ⟨?_, ?_⟩
    · exact FootLog.trueOf_of_counted FootLog.counted_left
    · exact FootLog.trueOf_of_counted (FootLog.counted_right hnone)

/-! ## One foot against the other -/

/-- The K1 with its feet: each sole is a geom of its own, beside the floor. -/
def k1WithFeet : MjModel ℚ where
  __ := k1Scene 1
  nbody := 4
  ngeom := 3
  geomBodyid g := if g = 0 then 0 else g + 1
  name2id
    | .body, name =>
      if name = "Trunk" then some 1
      else if name = "left_foot_link" then some 2
      else if name = "right_foot_link" then some 3 else none
    | kind, name => (k1Scene 1).name2id kind name
  name2id_inj := by
    intro kind s s' i h h'
    cases kind with
    | body =>
      dsimp only at h h'
      split_ifs at h h' <;> simp_all <;> omega
    | joint => exact (k1Scene 1).name2id_inj (t := .joint) h h'
    | _ => exact (k1Scene 1).name2id_inj h h'

/-- The log of its feet. -/
def k1FootLog : FootLog k1WithFeet := ⟨2, 3, by decide, by decide⟩

/-- Both soles on the floor, and the left one pushing the right one. -/
def sideBySide : MjBodies ℚ where
  xpos _ := 0
  xmat i := if i % 9 % 4 = 0 then 1 else 0
  xquat i := if i % 4 = 0 then 1 else 0
  contact := [⟨0, 1, ⟨1, 0, 0⟩, ![8, 0, 0, 0, 0, 0]⟩, ⟨0, 2, ⟨0, 1, 0⟩, ![6, 0, 0, 0, 0, 0]⟩,
    ⟨1, 2, ⟨0, 0, 1⟩, ![10, 0, 0, 0, 0, 0]⟩]

/-- The state beside it. -/
def atRest : MjData ℚ := ⟨0, fun _ => 0, fun _ => 0, fun _ => 0, fun _ => 0⟩

theorem footLog_true_iff_side_by_side :
    ∃ row, logFootState (some k1FootLog) k1Map atRest sideBySide = some row
      ∧ ((∀ f, k1FootLog.TrueOf sideBySide f (row.feet f))
        ↔ ∀ con ∈ sideBySide.contact, 0 < con.force 0 → ¬ k1FootLog.BetweenFeet con) :=
  ⟨_, rfl, footLog_true_iff rfl⟩

/-- Of the three contacts the right foot takes part in two, and the row counts one: `6` instead of
`16`. -/
theorem footLog_misses_right_foot :
    ∃ row, logFootState (openFootLog k1WithFeet "feet.csv" fun _ => true) k1Map atRest sideBySide
        = some row
      ∧ ¬ ∀ f, k1FootLog.TrueOf sideBySide f (row.feet f) := by
  refine ⟨_, rfl, fun htrue => ?_⟩
  have hfz := (htrue 1).fz
  exact absurd hfz (by decide +kernel)

end K1Sim
