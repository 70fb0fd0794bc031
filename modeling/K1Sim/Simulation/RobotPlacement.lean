import K1Sim.Foundations.Fallible
import K1Sim.Locomotion.LocoMath
import K1Sim.Simulation.LoadModel
import Mathlib.Data.List.Basic
import Mathlib.Tactic.LinearCombination

/-!
# Simulation/RobotPlacement — where placing the robots leaves them

Each copy of the robot stands at its own slot, since the joints of different copies have different
names and each joint its own stretch of the data (`placeRobots_copy`); and turning the main robot
about the vertical keeps its height, its tilt and the norm of its quaternion.
-/

namespace K1Sim

open Foundations

/-- Two lists that split at the first occurrence of one letter have the same parts. -/
theorem append_cons_inj_of_first {α : Type*} {c : α} {x x' z z' : List α} (hx : c ∉ x)
    (hx' : c ∉ x') (h : x ++ c :: z = x' ++ c :: z') : x = x' ∧ z = z' := by
  induction x generalizing x' with
  | nil =>
    cases x' with
    | nil => exact ⟨rfl, (List.cons.inj h).2⟩
    | cons a x' => exact absurd ((List.cons.inj h).1 ▸ List.mem_cons_self) hx'
  | cons a x ih =>
    cases x' with
    | nil => exact absurd ((List.cons.inj h).1 ▸ List.mem_cons_self) hx
    | cons a' x' =>
      obtain ⟨rfl, hrest⟩ := List.cons.inj h
      obtain ⟨rfl, hz⟩ := ih (fun hin => hx (List.mem_cons_of_mem a hin))
        (fun hin => hx' (List.mem_cons_of_mem a hin)) hrest
      exact ⟨rfl, hz⟩

namespace SimCore

/-! ## The names of the copies -/

/-- The digits of the conversion `%02d`. -/
def paddedDigits (k : ℕ) : List Char :=
  List.replicate (2 - (Nat.toDigits 10 k).length) '0' ++ Nat.toDigits 10 k

theorem underscore_notMem_paddedDigits (k : ℕ) : '_' ∉ paddedDigits k := by
  rw [paddedDigits, List.mem_append, not_or]
  exact ⟨fun h => absurd (List.eq_of_mem_replicate h) (by decide), Nat.underscore_not_in_toDigits⟩

theorem ofDigitChars_paddedDigits (k : ℕ) : Nat.ofDigitChars 10 (paddedDigits k) 0 = k := by
  have hzeros (n : ℕ) (cs : List Char) :
      Nat.ofDigitChars 10 (List.replicate n '0' ++ cs) 0 = Nat.ofDigitChars 10 cs 0 := by
    induction n with
    | zero => rfl
    | succ n ih => exact ih
  rw [paddedDigits, hzeros, Nat.ofDigitChars_ten_toDigits]

theorem toList_extraPrefix_append (k : ℕ) (s : String) :
    (extraPrefix k ++ s).toList = "sub".toList ++ (paddedDigits k ++ '_' :: s.toList) := by
  have hdigits : (toString k).toList = Nat.toDigits 10 k := Nat.toList_repr
  have hlength : (toString k).length = (Nat.toDigits 10 k).length := by
    rw [← String.length_toList, hdigits]
  simp only [extraPrefix, String.toList_append, String.toList_ofList, hdigits, hlength,
    paddedDigits, List.append_assoc]
  rfl

/-- **A prefixed name tells the copy and the name.** -/
theorem extraPrefix_append_inj {k k' : ℕ} {s s' : String}
    (h : extraPrefix k ++ s = extraPrefix k' ++ s') : k = k' ∧ s = s' := by
  have hlist := congrArg String.toList h
  rw [toList_extraPrefix_append, toList_extraPrefix_append, List.append_cancel_left_eq] at hlist
  obtain ⟨hk, hs⟩ := append_cons_inj_of_first (underscore_notMem_paddedDigits k)
    (underscore_notMem_paddedDigits k') hlist
  refine ⟨?_, String.toList_inj.mp hs⟩
  rw [← ofDigitChars_paddedDigits k, hk, ofDigitChars_paddedDigits]

/-! ## The joints of the copies -/

variable {K : Type*}

/-- The joints of a copy: its root, or one of the joints of the robot. -/
inductive CopyJoint where
  | root
  | joint (i : Fin jointCount)

/-- The name of a joint in the robot's own model. -/
def CopyJoint.name : CopyJoint → String
  | .root => "root"
  | .joint i => jointNames.get i

theorem CopyJoint.name_injective : Function.Injective CopyJoint.name := by
  have hroot : ∀ i, jointNames.get i ≠ "root" := by decide +kernel
  rintro (- | i) (- | j) h
  · rfl
  · exact absurd h.symm (hroot j)
  · exact absurd h (hroot i)
  · exact congrArg _ (jointNames_injective h)

/-- `em` is the map of the `k`-th copy, whose joints are `jnt`. -/
structure IsCopy (m : MjModel K) (k : ℕ) (em : CopyMap) (jnt : CopyJoint → ℕ) : Prop where
  name2id : ∀ c, m.name2id .joint (extraPrefix k ++ c.name) = some (jnt c)
  qposAdr : ∀ i, em.qposAdr i = m.jntQposadr (jnt (.joint i))
  dofAdr : ∀ i, em.dofAdr i = m.jntDofadr (jnt (.joint i))
  rootQposAdr : em.rootQposAdr = m.jntQposadr (jnt .root)
  rootDofAdr : em.rootDofAdr = m.jntDofadr (jnt .root)

theorem exists_isCopy {m : MjModel K} {k : ℕ} {em : CopyMap} (h : copyMap m k = .ok em) :
    ∃ jnt, IsCopy m k em jnt := by
  simp only [copyMap] at h
  split at h
  · exact absurd h (by simp)
  rename_i hfound
  split at h
  case h_1 => exact absurd h (by simp)
  case h_2 root hroot =>
    obtain rfl := Except.ok.inj h
    have hjnt (i : Fin jointCount) :
        ∃ jnt, m.name2id .joint (extraPrefix k ++ jointNames.get i) = some jnt := by
      have hpresent := List.find?_eq_none.mp hfound i (List.mem_finRange i)
      exact Option.ne_none_iff_exists'.mp (not_or.mp (by simpa using hpresent)).1
    choose jnt hname using hjnt
    refine ⟨fun | .root => root | .joint i => jnt i, ?_, fun i => ?_, fun i => ?_, rfl, rfl⟩
    · rintro (- | i)
      · exact hroot
      · exact hname i
    · simp only [hname, Option.getD_some]
    · simp only [hname, Option.getD_some]

/-- The maps of the copies, one after the other. -/
theorem copyMap_of_copyMaps {m : MjModel K} {n : ℕ} {maps : List CopyMap}
    (h : copyMaps m n = .ok maps) : maps.length = n
      ∧ ∀ j em, maps[j]? = some em → copyMap m (j + 1) = .ok em := by
  induction n generalizing maps with
  | zero =>
    obtain rfl := Except.ok.inj h
    exact ⟨rfl, fun j em hj => absurd hj (by simp)⟩
  | succ n ih =>
    obtain ⟨before, hbefore, hlast⟩ := bind_eq_ok_iff.mp h
    obtain ⟨last, hcopy, hmaps⟩ := bind_eq_ok_iff.mp hlast
    obtain rfl := Except.ok.inj hmaps
    obtain ⟨hlength, hall⟩ := ih hbefore
    refine ⟨by rw [List.length_append, hlength]; rfl, fun j em hj => ?_⟩
    rcases lt_or_ge j n with hlt | hge
    · rw [List.getElem?_append_left (hlength ▸ hlt)] at hj
      exact hall j em hj
    · rw [List.getElem?_append_right (hlength ▸ hge), hlength] at hj
      obtain ⟨hlast, rfl⟩ := List.getElem?_eq_some_iff.mp hj
      have hj : j = n := by rw [List.length_singleton] at hlast; omega
      subst hj
      simpa using hcopy

/-! ## The places of the copies -/

/-- What compiling a scene with copies of its robot attached gives: names have joints of the model,
each joint its own stretch of positions and velocities, the copies have the joints of the robot's
own model, and the root of the robot that they are copies of comes before theirs. -/
structure RobotsAttached [LE K] (m : MjModel K) : Prop where
  joint_lt : ∀ name j, m.name2id .joint name = some j → j < m.njnt
  qpos_apart : m.Apart m.jntQposadr MjJnt.nq
  dof_apart : m.Apart m.jntDofadr MjJnt.nv
  root_free : ∀ k j, m.name2id .joint (extraPrefix k ++ "root") = some j → m.jntType j = .free
  joint_hinge : ∀ k i j, m.name2id .joint (extraPrefix k ++ jointNames.get i) = some j →
    m.jntType j = .hinge
  main_first : ∀ k j, m.name2id .joint (extraPrefix k ++ "root") = some j →
    ∃ main < j, m.jntType main = .free
      ∧ m.bodySubtreemass (m.jntBodyid j) ≤ m.bodySubtreemass (m.jntBodyid main)

/-- The places of a copy in one of the arrays: those of its root, and one for each joint. -/
structure CopyPlaces (m : MjModel K) (adr : ℕ → ℕ) (width : MjJnt → ℕ) (jnt : CopyJoint → ℕ)
    (n rootAdr : ℕ) (adrs : Fin jointCount → ℕ) : Prop where
  root : ∀ i : Fin n, m.Stretch adr width (jnt .root) (rootAdr + i)
  joint : ∀ i, m.Stretch adr width (jnt (.joint i)) (adrs i)

variable {m : MjModel K} {k k' : ℕ} {em em' : CopyMap} {jnt jnt' : CopyJoint → ℕ}

/-- A joint belongs to one copy, and there to one name. -/
theorem IsCopy.eq_of_jnt_eq (h : IsCopy m k em jnt) (h' : IsCopy m k' em' jnt') {c c' : CopyJoint}
    (heq : jnt c = jnt' c') : k = k' ∧ c = c' := by
  have hname := m.name2id_inj (h.name2id c) (heq ▸ h'.name2id c')
  obtain ⟨hk, hc⟩ := extraPrefix_append_inj hname
  exact ⟨hk, CopyJoint.name_injective hc⟩

theorem IsCopy.qposPlaces [LE K] (hm : RobotsAttached m) (h : IsCopy m k em jnt) :
    CopyPlaces m m.jntQposadr MjJnt.nq jnt 7 em.rootQposAdr em.qposAdr := by
  refine ⟨fun i => ⟨i, ?_, by rw [h.rootQposAdr]⟩, fun i => ⟨0, ?_, h.qposAdr i⟩⟩
  · rw [hm.root_free k _ (h.name2id .root)]
    exact i.isLt
  · rw [hm.joint_hinge k i _ (h.name2id (.joint i))]
    exact Nat.one_pos

theorem IsCopy.dofPlaces [LE K] (hm : RobotsAttached m) (h : IsCopy m k em jnt) :
    CopyPlaces m m.jntDofadr MjJnt.nv jnt 6 em.rootDofAdr em.dofAdr := by
  refine ⟨fun i => ⟨i, ?_, by rw [h.rootDofAdr]⟩, fun i => ⟨0, ?_, h.dofAdr i⟩⟩
  · rw [hm.root_free k _ (h.name2id .root)]
    exact i.isLt
  · rw [hm.joint_hinge k i _ (h.name2id (.joint i))]
    exact Nat.one_pos

theorem IsCopy.jnt_lt [LE K] (hm : RobotsAttached m) (h : IsCopy m k em jnt) (c : CopyJoint) :
    jnt c < m.njnt :=
  hm.joint_lt _ _ (h.name2id c)

section Writing

variable {α : Type*} {adr : ℕ → ℕ} {width : MjJnt → ℕ} {n rootAdr : ℕ} {adrs : Fin jointCount → ℕ}

/-- The array after a copy has been written: its root, then its joints. -/
def writeCopy (rootAdr : ℕ) (root : Fin n → α) (adrs : Fin jointCount → ℕ)
    (joints : Fin jointCount → α) (a : ℕ → α) : ℕ → α :=
  writeAll adrs joints (List.finRange jointCount)
    (writeAll (fun i : Fin n => rootAdr + i) root (List.finRange n) a)

/-- **Writing a copy touches its own places only.** -/
theorem CopyPlaces.write_of_not_stretch (h : CopyPlaces m adr width jnt n rootAdr adrs)
    (root : Fin n → α) (joints : Fin jointCount → α) (a : ℕ → α) {p : ℕ}
    (hp : ∀ c, ¬ m.Stretch adr width (jnt c) p) :
    writeCopy rootAdr root adrs joints a p = a p := by
  have hjoints : ∀ i ∈ List.finRange jointCount, adrs i ≠ p :=
    fun i _ heq => hp _ (heq ▸ h.joint i)
  have hroot : ∀ i ∈ List.finRange n, rootAdr + i.val ≠ p := fun i _ heq => hp _ (heq ▸ h.root i)
  rw [writeCopy, writeAll_of_notMem adrs joints _ _ hjoints, writeAll_of_notMem _ root _ _ hroot]

theorem CopyPlaces.write_joint (h : CopyPlaces m adr width jnt n rootAdr adrs)
    (hapart : m.Apart adr width) (hlt : ∀ c, jnt c < m.njnt) (hinj : Function.Injective jnt)
    (root : Fin n → α) (joints : Fin jointCount → α) (a : ℕ → α) (i : Fin jointCount) :
    writeCopy rootAdr root adrs joints a (adrs i) = joints i := by
  refine writeAll_of_mem adrs joints _ _ ((List.nodup_finRange _).map fun i j heq => ?_)
    (List.mem_finRange i)
  have hjnt := hapart _ _ _ (hlt _) (hlt _) (h.joint i) (heq ▸ h.joint j)
  exact CopyJoint.joint.inj (hinj hjnt)

theorem CopyPlaces.write_root (h : CopyPlaces m adr width jnt n rootAdr adrs)
    (hapart : m.Apart adr width) (hlt : ∀ c, jnt c < m.njnt) (hinj : Function.Injective jnt)
    (root : Fin n → α) (joints : Fin jointCount → α) (a : ℕ → α) (i : Fin n) :
    writeCopy rootAdr root adrs joints a (rootAdr + i) = root i := by
  have hother : ∀ j ∈ List.finRange jointCount, adrs j ≠ rootAdr + i := fun j _ heq => by
    have hjnt := hapart _ _ _ (hlt _) (hlt _) (h.joint j) (heq ▸ h.root i)
    exact absurd (hinj hjnt) nofun
  rw [writeCopy, writeAll_of_notMem adrs joints _ _ hother]
  refine writeAll_of_mem (fun i : Fin n => rootAdr + i) root _ _ ?_ (List.mem_finRange i)
  exact (List.nodup_finRange _).map fun i j heq => Fin.ext (Nat.add_left_cancel heq)

end Writing

/-! ## The copies at their slots -/

variable [Field K] [Libc K]

/-- The copy stands at its slot, in the ready pose and at rest. -/
structure Stands (cfg : Config K) (ready : JointArray K) (entry : CopyMap × ℕ) (d : MjData K) :
    Prop where
  root : ∀ i : Fin 7, d.qpos (entry.1.rootQposAdr + i)
    = let pose := spawnPose cfg (entry.2 + 1)
      let q : Quat K := yawQuat pose.yaw
      ![pose.x, pose.y, pose.z, q.w, q.x, q.y, q.z] i
  joints : ∀ i, d.qpos (entry.1.qposAdr i) = ready i
  rootAtRest : ∀ i : Fin 6, d.qvel (entry.1.rootDofAdr + i) = 0
  jointsAtRest : ∀ i, d.qvel (entry.1.dofAdr i) = 0

variable {cfg : Config K} {ready : JointArray K} {entry : CopyMap × ℕ}

theorem placeCopy_qpos (cfg : Config K) (ready : JointArray K) (d : MjData K)
    (entry : CopyMap × ℕ) :
    (placeCopy cfg ready d entry).qpos = writeCopy entry.1.rootQposAdr
      (let pose := spawnPose cfg (entry.2 + 1)
        let q : Quat K := yawQuat pose.yaw
        ![pose.x, pose.y, pose.z, q.w, q.x, q.y, q.z]) entry.1.qposAdr ready d.qpos := rfl

theorem placeCopy_qvel (cfg : Config K) (ready : JointArray K) (d : MjData K)
    (entry : CopyMap × ℕ) :
    (placeCopy cfg ready d entry).qvel = writeCopy entry.1.rootDofAdr (fun _ : Fin 6 => 0)
      entry.1.dofAdr (fun _ => 0) d.qvel := rfl

theorem placeCopy_qpos_of_not_stretch [LE K] (hm : RobotsAttached m)
    (hcopy : IsCopy m k entry.1 jnt) (d : MjData K) {p : ℕ}
    (hp : ∀ c, ¬ m.Stretch m.jntQposadr MjJnt.nq (jnt c) p) :
    (placeCopy cfg ready d entry).qpos p = d.qpos p := by
  rw [placeCopy_qpos, (hcopy.qposPlaces hm).write_of_not_stretch _ _ _ hp]

theorem placeCopy_qvel_of_not_stretch [LE K] (hm : RobotsAttached m)
    (hcopy : IsCopy m k entry.1 jnt) (d : MjData K) {p : ℕ}
    (hp : ∀ c, ¬ m.Stretch m.jntDofadr MjJnt.nv (jnt c) p) :
    (placeCopy cfg ready d entry).qvel p = d.qvel p := by
  rw [placeCopy_qvel, (hcopy.dofPlaces hm).write_of_not_stretch _ _ _ hp]

/-- **Placing a copy puts it at its slot.** -/
theorem placeCopy_stands [LE K] (hm : RobotsAttached m) (hcopy : IsCopy m k entry.1 jnt)
    (d : MjData K) : Stands cfg ready entry (placeCopy cfg ready d entry) := by
  have hinj : Function.Injective jnt := fun _ _ heq => (hcopy.eq_of_jnt_eq hcopy heq).2
  have hlt := hcopy.jnt_lt hm
  refine ⟨fun i => ?_, fun i => ?_, fun i => ?_, fun i => ?_⟩
  · rw [placeCopy_qpos, (hcopy.qposPlaces hm).write_root hm.qpos_apart hlt hinj]
  · rw [placeCopy_qpos, (hcopy.qposPlaces hm).write_joint hm.qpos_apart hlt hinj]
  · rw [placeCopy_qvel, (hcopy.dofPlaces hm).write_root hm.dof_apart hlt hinj]
  · rw [placeCopy_qvel, (hcopy.dofPlaces hm).write_joint hm.dof_apart hlt hinj]

/-- **Placing another copy leaves it there.** -/
theorem Stands.placeCopy_other [LE K] (hm : RobotsAttached m) {other : CopyMap × ℕ}
    (hcopy : IsCopy m k entry.1 jnt) (hother : IsCopy m k' other.1 jnt') (hk : k ≠ k')
    {d : MjData K} (h : Stands cfg ready entry d) :
    Stands cfg ready entry (placeCopy cfg ready d other) := by
  have hqpos {c p} (hp : m.Stretch m.jntQposadr MjJnt.nq (jnt c) p) :
      (placeCopy cfg ready d other).qpos p = d.qpos p :=
    placeCopy_qpos_of_not_stretch hm hother d fun c' hp' => hk
      (hcopy.eq_of_jnt_eq hother
        (hm.qpos_apart _ _ p (hcopy.jnt_lt hm c) (hother.jnt_lt hm c') hp hp')).1
  have hqvel {c p} (hp : m.Stretch m.jntDofadr MjJnt.nv (jnt c) p) :
      (placeCopy cfg ready d other).qvel p = d.qvel p :=
    placeCopy_qvel_of_not_stretch hm hother d fun c' hp' => hk
      (hcopy.eq_of_jnt_eq hother
        (hm.dof_apart _ _ p (hcopy.jnt_lt hm c) (hother.jnt_lt hm c') hp hp')).1
  refine ⟨fun i => ?_, fun i => ?_, fun i => ?_, fun i => ?_⟩
  · rw [hqpos ((hcopy.qposPlaces hm).root i), h.root]
  · rw [hqpos ((hcopy.qposPlaces hm).joint i), h.joints]
  · rw [hqvel ((hcopy.dofPlaces hm).root i), h.rootAtRest]
  · rw [hqvel ((hcopy.dofPlaces hm).joint i), h.jointsAtRest]

omit [Field K] [Libc K] in
/-- The entries of the loop over the copies are copies of the robot. -/
theorem exists_isCopy_of_mem {n : ℕ} {maps : List CopyMap} (hmaps : copyMaps m n = .ok maps)
    (hin : entry ∈ maps.zipIdx) : ∃ jnt, IsCopy m (entry.2 + 1) entry.1 jnt :=
  exists_isCopy ((copyMap_of_copyMaps hmaps).2 _ _ (List.mem_zipIdx_iff_getElem?.mp hin))

/-- **After the loop every copy stands at its slot.** -/
theorem stands_of_mem [LE K] (hm : RobotsAttached m) {n : ℕ} {maps : List CopyMap}
    (hmaps : copyMaps m n = .ok maps) (hin : entry ∈ maps.zipIdx) (d : MjData K) :
    Stands cfg ready entry (maps.zipIdx.foldl (placeCopy cfg ready) d) := by
  obtain ⟨jnt, hcopy⟩ := exists_isCopy_of_mem hmaps hin
  refine foldl_of_mem (fun s => placeCopy_stands hm hcopy s) (fun s other hother hs => ?_) hin d
  obtain ⟨jnt', hcopy'⟩ := exists_isCopy_of_mem hmaps hother
  by_cases hk : entry.2 = other.2
  · have hsame : other = entry := by
      have hentry := List.mem_zipIdx_iff_getElem?.mp hin
      rw [hk, List.mem_zipIdx_iff_getElem?.mp hother] at hentry
      exact Prod.ext (Option.some.inj hentry) hk.symm
    rw [hsame]
    exact placeCopy_stands hm hcopy s
  · exact hs.placeCopy_other hm hcopy hcopy' fun heq => hk (Nat.succ.inj heq)

/-- Places that belong to no joint of a copy are left alone by the loop. -/
theorem foldl_placeCopy_qpos [LE K] (hm : RobotsAttached m) {n : ℕ} {maps : List CopyMap}
    (hmaps : copyMaps m n = .ok maps) {p : ℕ}
    (hp : ∀ k em jnt, IsCopy m k em jnt → ∀ c, ¬ m.Stretch m.jntQposadr MjJnt.nq (jnt c) p)
    (d : MjData K) : (maps.zipIdx.foldl (placeCopy cfg ready) d).qpos p = d.qpos p := by
  have hrest (entries : List (CopyMap × ℕ)) (hin : ∀ e ∈ entries, e ∈ maps.zipIdx)
      (d : MjData K) : (entries.foldl (placeCopy cfg ready) d).qpos p = d.qpos p := by
    induction entries generalizing d with
    | nil => rfl
    | cons e entries ih =>
      obtain ⟨he, hentries⟩ := List.forall_mem_cons.mp hin
      obtain ⟨jnt, hcopy⟩ := exists_isCopy_of_mem hmaps he
      rw [List.foldl_cons, ih hentries, placeCopy_qpos_of_not_stretch hm hcopy d (hp _ _ _ hcopy)]
  exact hrest _ (fun _ he => he) d

/-! ## The main robot -/

theorem placeMain_qpos (cfg : Config K) (map : ModelMap) (d : MjData K) (i : Fin 6) :
    (placeMain cfg map d).qpos (map.rootQposAdr + ![0, 1, 3, 4, 5, 6] i)
      = let pose := spawnPose cfg 0
        let c := Libc.cos (pose.yaw / 2)
        let s := Libc.sin (pose.yaw / 2)
        let q := d.freeQuat map.rootQposAdr
        ![pose.x, pose.y, c * q.w - s * q.z, c * q.x - s * q.y, c * q.y + s * q.x,
          c * q.z + s * q.w] i := by
  have hplaces : ∀ i j : Fin 6,
      (![0, 1, 3, 4, 5, 6] : Fin 6 → ℕ) i = ![0, 1, 3, 4, 5, 6] j → i = j := by decide
  refine writeAll_of_mem (fun i : Fin 6 => map.rootQposAdr + ![0, 1, 3, 4, 5, 6] i) _ _ _ ?_
    (List.mem_finRange i)
  exact (List.nodup_finRange _).map fun i j heq => hplaces i j (Nat.add_left_cancel heq)

/-- A turn about the vertical, written out. -/
theorem yawQuat_mul (yaw : K) (q : Quat K) :
    let c := Libc.cos (yaw / 2)
    let s := Libc.sin (yaw / 2)
    mjuMulQuat (yawQuat yaw) q
      = ⟨c * q.w - s * q.z, c * q.x - s * q.y, c * q.y + s * q.x, c * q.z + s * q.w⟩ := by
  intro c s
  rw [mjuMulQuat, Quat.mk.injEq]
  change c * q.w - 0 * q.x - 0 * q.y - s * q.z = _ ∧ c * q.x + 0 * q.w + 0 * q.z - s * q.y = _
    ∧ c * q.y - 0 * q.z + 0 * q.w + s * q.x = _ ∧ c * q.z + 0 * q.y - 0 * q.x + s * q.w = _
  exact ⟨by ring, by ring, by ring, by ring⟩

/-- **The main robot is turned by its yaw.** -/
theorem placeMain_freeQuat (cfg : Config K) (map : ModelMap) (d : MjData K) :
    (placeMain cfg map d).freeQuat map.rootQposAdr
      = mjuMulQuat (yawQuat (spawnPose cfg 0).yaw) (d.freeQuat map.rootQposAdr) := by
  rw [yawQuat_mul]
  exact Quat.mk.injEq .. |>.mpr ⟨placeMain_qpos cfg map d 2, placeMain_qpos cfg map d 3,
    placeMain_qpos cfg map d 4, placeMain_qpos cfg map d 5⟩

/-- **It keeps its height.** -/
theorem placeMain_height (cfg : Config K) (map : ModelMap) (d : MjData K) :
    (placeMain cfg map d).qpos (map.rootQposAdr + 2) = d.qpos (map.rootQposAdr + 2) := by
  have hplaces : ∀ i : Fin 6, (![0, 1, 3, 4, 5, 6] : Fin 6 → ℕ) i ≠ 2 := by decide
  exact writeAll_of_notMem (fun i : Fin 6 => map.rootQposAdr + ![0, 1, 3, 4, 5, 6] i) _ _ _
    fun i _ heq => hplaces i (Nat.add_left_cancel heq)

/-- **Turning about the vertical keeps a quaternion's norm.** -/
theorem normSq_yawQuat_mul {yaw : K} (htrig : Libc.cos (yaw / 2) * Libc.cos (yaw / 2)
    + Libc.sin (yaw / 2) * Libc.sin (yaw / 2) = 1) (q : Quat K) :
    (mjuMulQuat (yawQuat yaw) q).normSq = q.normSq := by
  rw [yawQuat_mul, Quat.normSq, Quat.normSq]
  linear_combination (q.w * q.w + q.x * q.x + q.y * q.y + q.z * q.z) * htrig

/-- **Turning about the vertical keeps the height of a body's up axis.** -/
theorem tilt_yawQuat_mul {yaw : K} (htrig : Libc.cos (yaw / 2) * Libc.cos (yaw / 2)
    + Libc.sin (yaw / 2) * Libc.sin (yaw / 2) = 1) (q : Quat K) :
    (mjuRotVecQuat ⟨0, 0, 1⟩ (mjuMulQuat (yawQuat yaw) q)).z = (mjuRotVecQuat ⟨0, 0, 1⟩ q).z := by
  rw [yawQuat_mul, mjuRotVecQuat, mjuRotVecQuat]
  dsimp only [Vec3.cross]
  linear_combination -2 * (q.x * q.x + q.y * q.y) * htrig

/-! ## What placing the robots leaves -/

variable [LinearOrder K] {scene : Scene K} {root : ℕ}

omit [Field K] [Libc K] in
/-- **The root of the map is the main robot's**: no place of it belongs to a copy. -/
theorem not_stretch_of_isRoot (hm : RobotsAttached m) (hroot : ModelMap.IsRoot m m.njnt root)
    {p : ℕ} (hp : m.Stretch m.jntQposadr MjJnt.nq root p) (k : ℕ) (em : CopyMap)
    (jnt : CopyJoint → ℕ) (hcopy : IsCopy m k em jnt) (c : CopyJoint) :
    ¬ m.Stretch m.jntQposadr MjJnt.nq (jnt c) p := by
  intro hp'
  have hsame : jnt c = root := hm.qpos_apart _ _ p (hcopy.jnt_lt hm c) hroot.lt hp' hp
  rcases c with - | i
  · obtain ⟨main, hlt, hfree, hmass⟩ := hm.main_first k _ (hcopy.name2id .root)
    rw [hsame] at hlt hmass
    exact absurd (hroot.first main hlt hfree) (not_lt_of_ge hmass)
  · have hhinge := hm.joint_hinge k i _ (hcopy.name2id (.joint i))
    rw [hsame, hroot.free] at hhinge
    exact nomatch hhinge

omit [Libc K] in
/-- The centre mark is an `x`: whatever the root is, the rest of it stays. -/
theorem placeBallOnCentreMark_qpos (hm : RobotsAttached m) (hroot : ModelMap.IsRoot m m.njnt root)
    (d : MjData K) {o : ℕ} (hpos : 0 < o) (hlt : o < 7) :
    (placeBallOnCentreMark m d).qpos (m.jntQposadr root + o) = d.qpos (m.jntQposadr root + o) := by
  rw [placeBallOnCentreMark]
  split
  case h_2 => rfl
  case h_1 joint geom hjoint _ =>
    refine Function.update_of_ne (fun heq => ?_) _ _
    have hplace : m.Stretch m.jntQposadr MjJnt.nq root (m.jntQposadr root + o) :=
      ⟨o, by rw [hroot.free]; exact hlt, rfl⟩
    have hsame : joint = root := hm.qpos_apart _ _ _ (hm.joint_lt _ _ hjoint) hroot.lt
      ⟨0, MjJnt.nq_pos _, heq⟩ hplace
    rw [hsame] at heq
    omega

/-- The robots as they are placed: `start` is the data of the keyframe, `d` the data afterwards. -/
structure Placed (cfg : Config K) (scene : Scene K) (start d : MjData K) : Prop where
  /-- In a game the main robot is turned by its yaw, once. -/
  orientation : d.freeQuat scene.map.rootQposAdr
    = if cfg.spawns ≠ [] then
        mjuMulQuat (yawQuat (spawnPose cfg 0).yaw) (start.freeQuat scene.map.rootQposAdr)
      else start.freeQuat scene.map.rootQposAdr
  norm : (d.freeQuat scene.map.rootQposAdr).normSq
    = (start.freeQuat scene.map.rootQposAdr).normSq
  height : d.qpos (scene.map.rootQposAdr + 2) = start.qpos (scene.map.rootQposAdr + 2)
  tilt : (baseUpVector d scene.map).z = (baseUpVector start scene.map).z
  copies : ∀ entry ∈ scene.copies.zipIdx, Stands cfg scene.readyTarget entry d

omit [LinearOrder K] in
/-- Only positions and velocities are looked at. -/
theorem Placed.congr {start d d' : MjData K} (h : Placed cfg scene start d)
    (hqpos : d'.qpos = d.qpos) (hqvel : d'.qvel = d.qvel) : Placed cfg scene start d' := by
  have hquat (adr : ℕ) : d'.freeQuat adr = d.freeQuat adr := by rw [MjData.freeQuat, hqpos]; rfl
  refine ⟨by rw [hquat, h.orientation], by rw [hquat, h.norm], by rw [hqpos, h.height], ?_,
    fun entry hin => ?_⟩
  · change (mjuRotVecQuat ⟨0, 0, 1⟩ (d'.freeQuat scene.map.rootQposAdr)).z = _
    rw [hquat]
    exact h.tilt
  · obtain ⟨hroot, hjoints, hrootAtRest, hjointsAtRest⟩ := h.copies entry hin
    exact ⟨hqpos ▸ hroot, hqpos ▸ hjoints, hqvel ▸ hrootAtRest, hqvel ▸ hjointsAtRest⟩

variable (cfg) in
/-- Neither the ball nor the copies touch the main robot's height and orientation. -/
theorem placeRobots_qpos_root (hm : RobotsAttached m) (hmap : ModelMap.build m = .ok scene.map)
    {n : ℕ} (hcopies : copyMaps m n = .ok scene.copies) (start : MjData K) {o : ℕ} (hpos : 0 < o)
    (hlt : o < 7) :
    (placeRobots m cfg scene start).qpos (scene.map.rootQposAdr + o)
      = (if cfg.spawns ≠ [] then placeMain cfg scene.map start else start).qpos
        (scene.map.rootQposAdr + o) := by
  obtain ⟨root, hfree, hadr, -⟩ := ModelMap.exists_freeRoot hmap
  have hroot := ModelMap.isRoot_of_freeRoot hfree
  have hplace : m.Stretch m.jntQposadr MjJnt.nq root (scene.map.rootQposAdr + o) :=
    ⟨o, by rw [hroot.free]; exact hlt, by rw [hadr]⟩
  refine (foldl_placeCopy_qpos hm hcopies (not_stretch_of_isRoot hm hroot hplace) _).trans ?_
  split_ifs
  · rw [hadr]
    exact placeBallOnCentreMark_qpos hm hroot _ hpos hlt
  · rfl

variable (cfg) in
theorem placeRobots_freeQuat (hm : RobotsAttached m) (hmap : ModelMap.build m = .ok scene.map)
    {n : ℕ} (hcopies : copyMaps m n = .ok scene.copies) (start : MjData K) :
    (placeRobots m cfg scene start).freeQuat scene.map.rootQposAdr
      = if cfg.spawns ≠ [] then
          mjuMulQuat (yawQuat (spawnPose cfg 0).yaw) (start.freeQuat scene.map.rootQposAdr)
        else start.freeQuat scene.map.rootQposAdr := by
  have hsame {o : ℕ} (hpos : 0 < o) (hlt : o < 7) :=
    placeRobots_qpos_root cfg hm hmap hcopies start hpos hlt
  rw [MjData.freeQuat, hsame, hsame, hsame, hsame]
  any_goals omega
  split_ifs
  · exact placeMain_freeQuat cfg scene.map start
  · rfl

/-- **Where the robots stand after they are placed.** -/
theorem placeRobots_placed (hm : RobotsAttached m)
    (htrig : ∀ x : K, Libc.cos x * Libc.cos x + Libc.sin x * Libc.sin x = 1)
    (hmap : ModelMap.build m = .ok scene.map) {n : ℕ}
    (hcopies : copyMaps m n = .ok scene.copies) (start : MjData K) :
    Placed cfg scene start (placeRobots m cfg scene start) := by
  have horientation := placeRobots_freeQuat cfg hm hmap hcopies start
  refine ⟨horientation, ?_, ?_, ?_, fun entry hin => stands_of_mem hm hcopies hin _⟩
  · rw [horientation]
    split_ifs
    · exact normSq_yawQuat_mul (htrig _) _
    · rfl
  · rw [placeRobots_qpos_root cfg hm hmap hcopies start Nat.two_pos (by decide)]
    split_ifs
    · exact placeMain_height cfg scene.map start
    · rfl
  · change (mjuRotVecQuat ⟨0, 0, 1⟩ ((placeRobots m cfg scene start).freeQuat
      scene.map.rootQposAdr)).z = _
    rw [horientation]
    split_ifs
    · exact tilt_yawQuat_mul (htrig _) _
    · rfl

/-! ## A pair of robots -/

/-- The joints of two K1s, the second one a copy. -/
def pairJoints : List String :=
  ("root" :: jointNames.toList) ++ ("root" :: jointNames.toList).map (extraPrefix 1 ++ ·)

/-- Their actuators. -/
def pairActuators : List String :=
  jointNames.toList ++ jointNames.toList.map (extraPrefix 1 ++ ·)

/-- Two K1s, the second one a copy of the first, in one scene with a "ready" keyframe. -/
def k1Pair : SceneModel ℚ where
  optTimestep := 1
  nbody := 3
  njnt := 2 * (1 + jointCount)
  ngeom := 0
  bodyJntnum b := if b = 0 then 0 else 1
  bodyJntadr b := if b = 2 then 23 else 0
  bodySubtreemass _ := 20
  jntType j := if j = 0 ∨ j = 23 then .free else .hinge
  jntBodyid j := if j < 23 then 1 else 2
  jntQposadr j := if j = 0 then 0 else if j < 23 then 6 + j else if j = 23 then 29 else 12 + j
  jntDofadr j := if j = 0 then 0 else if j < 23 then 5 + j else if j = 23 then 28 else 10 + j
  geomBodyid _ := 0
  geomPos _ := 0
  geomSize _ := 0
  actuatorForcelimited _ := false
  actuatorForcerange _ := 0
  sensorAdr _ := 0
  name2id
    | .joint, name => pairJoints.idxOf? name
    | .actuator, name => pairActuators.idxOf? name
    | .body, name => ["world", "Trunk", "sub01_Trunk"].idxOf? name
    | .key, name => ["ready"].idxOf? name
    | _, _ => none
  name2id_inj := by
    intro t s s' i h h'
    cases t with
    | joint | actuator | body | key => exact idxOf?_inj h h'
    | _ => exact absurd h (by simp)
  nq := 58
  keyQpos i := if i = 2 then 1 / 2 else if i = 3 then 1 else 0

theorem k1Pair_joint (name : String) :
    k1Pair.name2id .joint name = pairJoints.idxOf? name := rfl

theorem k1Pair_actuator (name : String) :
    k1Pair.name2id .actuator name = pairActuators.idxOf? name := rfl

/-- A prefixed name stands among the joints of the copy. -/
theorem getElem?_of_pairJoints {k j : ℕ} {s : String}
    (h : pairJoints.idxOf? (extraPrefix k ++ s) = some j) :
    23 ≤ j ∧ ("root" :: jointNames.toList)[j - 23]? = some s := by
  have hplain : ∀ name ∈ "root" :: jointNames.toList, name.toList.head? ≠ some 's' := by
    decide +kernel
  obtain ⟨hlt, hname, -⟩ := List.idxOf?_eq_some_iff.mp h
  have hsome : pairJoints[j]? = some (extraPrefix k ++ s) :=
    List.getElem?_eq_some_iff.mpr ⟨hlt, hname⟩
  rcases lt_or_ge j 23 with hfirst | hsecond
  · rw [pairJoints, List.getElem?_append_left hfirst] at hsome
    refine absurd ?_ (hplain _ (List.mem_of_getElem? hsome))
    rw [toList_extraPrefix_append]
    rfl
  · refine ⟨hsecond, ?_⟩
    rw [pairJoints, List.getElem?_append_right hsecond, List.getElem?_map] at hsome
    obtain ⟨name, hget, hprefixed⟩ := Option.map_eq_some_iff.mp hsome
    rw [← (extraPrefix_append_inj hprefixed).2]
    exact hget

/-- The pair is as compiling it makes it. -/
theorem k1Pair_attached : RobotsAttached k1Pair.toMjModel := by
  have hroot {k j : ℕ} (h : pairJoints.idxOf? (extraPrefix k ++ "root") = some j) :
      j = 23 := by
    obtain ⟨hge, hget⟩ := getElem?_of_pairJoints h
    have honly : ∀ n < 23, ("root" :: jointNames.toList)[n]? = some "root" → n = 0 := by
      decide +kernel
    have := honly (j - 23) (List.getElem?_eq_some_iff.mp hget).1 hget
    omega
  refine ⟨?_, ?_, ?_, ?_, ?_, ?_⟩
  · intro name j h
    rw [k1Pair_joint] at h
    exact (List.idxOf?_eq_some_iff.mp h).1
  · rintro j j' p - - ⟨a, ha, rfl⟩ ⟨b, hb, h⟩
    simp only [k1Pair] at *
    split_ifs at * <;> simp only [MjJnt.nq] at * <;> omega
  · rintro j j' p - - ⟨a, ha, rfl⟩ ⟨b, hb, h⟩
    simp only [k1Pair] at *
    split_ifs at * <;> simp only [MjJnt.nv] at * <;> omega
  · intro k j h
    rw [k1Pair_joint] at h
    exact if_pos (.inr (hroot h))
  · intro k i j h
    rw [k1Pair_joint] at h
    obtain ⟨hge, hget⟩ := getElem?_of_pairJoints h
    have hnotRoot : ∀ i, jointNames.get i ≠ "root" := by decide +kernel
    refine if_neg (not_or.mpr ⟨by omega, fun hj => hnotRoot i ?_⟩)
    rw [hj, Nat.sub_self, List.getElem?_cons_zero] at hget
    exact (Option.some.inj hget).symm
  · intro k j h
    rw [k1Pair_joint] at h
    obtain rfl := hroot h
    exact ⟨0, by decide, rfl, le_rfl⟩

end SimCore

end K1Sim
