import K1Sim.Scene.PitchArcs

/-!
# Scene/PitchSymmetry — the pitch is the same from both ends and from both sides

The markings and the goals of every field that the generator can print are their own reflections
along and across the pitch (`pitch_fair`), so neither half is better to play in.
-/

namespace K1Sim

open Foundations

namespace GenerateField

/-! ## Reflections -/

section Reflect

variable {a b : ℝ}

/-- The reflection along the axes takes one part of the floor into another. -/
def TakesInto (a b : ℝ) (S T : Set (ℝ × ℝ)) : Prop := ∀ p ∈ S, (a * p.1, b * p.2) ∈ T

theorem covered_append (l l' : List (Box ℝ)) : covered (l ++ l') = covered l ∪ covered l' := by
  ext p
  simp only [covered, List.mem_append, or_and_right, exists_or, Set.mem_ofPred_eq, Set.mem_union]

theorem mem_covered_flatMap {α : Type*} (l : List α) (boxes : α → List (Box ℝ)) (p : ℝ × ℝ) :
    p ∈ covered (l.flatMap boxes) ↔ ∃ x ∈ l, p ∈ covered (boxes x) := by
  simp only [covered, List.mem_flatMap, Set.mem_ofPred_eq]
  constructor
  · rintro ⟨m, ⟨x, hx, hm⟩, hp⟩
    exact ⟨x, hx, m, hm, hp⟩
  · rintro ⟨x, hx, m, hm, hp⟩
    exact ⟨m, ⟨x, hx, hm⟩, hp⟩

theorem takesInto_append {l l' : List (Box ℝ)} (h : TakesInto a b (covered l) (covered l))
    (h' : TakesInto a b (covered l') (covered l')) :
    TakesInto a b (covered (l ++ l')) (covered (l ++ l')) := by
  rw [covered_append]
  rintro p (hp | hp)
  · exact Or.inl (h p hp)
  · exact Or.inr (h' p hp)

theorem takesInto_flatMap {α : Type*} {l : List α} {boxes : α → List (Box ℝ)}
    (h : ∀ x ∈ l, TakesInto a b (covered (boxes x)) (covered (boxes x))) :
    TakesInto a b (covered (l.flatMap boxes)) (covered (l.flatMap boxes)) := by
  intro p hp
  obtain ⟨x, hx, hmem⟩ := (mem_covered_flatMap l boxes p).mp hp
  exact (mem_covered_flatMap l boxes _).mpr ⟨x, hx, h x hx p hmem⟩

/-- A sign leaves distances alone. -/
theorem abs_sign_mul_sub (ha : a * a = 1) (x y : ℝ) : |a * x - a * y| = |x - y| := by
  rw [← mul_sub, abs_mul, abs_eq_one_of_mul_self ha, one_mul]

/-- **Boxes along the axes**, each laid out on both sides. -/
theorem takesInto_straight (ha : a * a = 1) (hb : b * b = 1) {l : List (Box ℝ)}
    (h : ∀ m ∈ l, m.quat = none ∧ { m with x := a * m.x, y := b * m.y } ∈ l) :
    TakesInto a b (covered l) (covered l) := by
  rintro p ⟨m, hm, hp⟩
  obtain ⟨hquat, hmem⟩ := h m hm
  refine ⟨_, hmem, ?_⟩
  simp only [Box.covers, Box.axis, hquat, mul_one, mul_zero, add_zero, zero_add,
    Set.mem_ofPred_eq] at hp ⊢
  rwa [abs_sign_mul_sub ha, abs_sign_mul_sub hb]

/-- **Arcs whose segments lie in reflected directions.** -/
theorem takesInto_arc (ha : a * a = 1) (hb : b * b = 1) (f : PitchField ℝ)
    (cx cy radius : ℝ) {start start' : ℝ} {n n' : ℕ}
    (h : ∀ i < n, ∃ j < n', Real.cos (theta start' j) = a * Real.cos (theta start i)
      ∧ Real.sin (theta start' j) = b * Real.sin (theta start i)) :
    TakesInto a b (covered (arc f cx cy radius start n))
      (covered (arc f (a * cx) (b * cy) radius start' n')) := by
  intro p hp
  obtain ⟨i, hi, htile⟩ := (mem_covered_arc f cx cy radius start n p).mp hp
  obtain ⟨j, hj, hcos, hsin⟩ := h i hi
  refine (mem_covered_arc f _ _ radius start' n' _).mpr ⟨j, hj, ?_⟩
  have hreflected := (mem_tile_reflect ha hb _).mpr htile
  rwa [hcos, hsin, ← mul_sub, ← mul_sub]

/-! ## The parts of the markings -/

theorem takesInto_lines (ha : a * a = 1) (hb : b * b = 1) (f : PitchField ℝ) :
    TakesInto a b (covered (lines f)) (covered (lines f)) := by
  refine takesInto_straight ha hb ?_
  obtain rfl | rfl := mul_self_eq_one_iff.mp ha <;>
    obtain rfl | rfl := mul_self_eq_one_iff.mp hb <;> simp [lines]

theorem takesInto_area (ha : a * a = 1) (hb : b * b = 1) (f : PitchField ℝ) (length width : ℝ) :
    TakesInto a b (covered (area f length width)) (covered (area f length width)) := by
  refine takesInto_straight ha hb ?_
  obtain rfl | rfl := mul_self_eq_one_iff.mp ha <;>
    obtain rfl | rfl := mul_self_eq_one_iff.mp hb <;> simp [area, neg_div]

theorem takesInto_crosses (ha : a * a = 1) (hb : b * b = 1) (f : PitchField ℝ) (x : ℝ) :
    TakesInto a b (covered (cross f 0 ++ cross f x ++ cross f (-x)))
      (covered (cross f 0 ++ cross f x ++ cross f (-x))) := by
  refine takesInto_straight ha hb ?_
  obtain rfl | rfl := mul_self_eq_one_iff.mp ha <;>
    obtain rfl | rfl := mul_self_eq_one_iff.mp hb <;> simp [cross]

/-- A full circle about the middle. -/
theorem takesInto_circle (ha : a * a = 1) (hb : b * b = 1) (f : PitchField ℝ) (radius : ℝ) :
    TakesInto a b (covered (arc f 0 0 radius 0 40)) (covered (arc f 0 0 radius 0 40)) := by
  have hhalf : ((20 : ℤ) : ℝ) * segmentStep = Real.pi := by
    rw [segmentStep_eq]
    push_cast
    ring
  have htheta : ∀ i : ℕ, theta 0 i = ((i : ℤ) : ℝ) * segmentStep := fun i => zero_add _
  -- the segment in the reflected direction, some turns away
  have hk : ∀ i : ℕ, ∃ k : ℤ, Real.cos (k * segmentStep) = a * Real.cos (theta 0 i)
      ∧ Real.sin (k * segmentStep) = b * Real.sin (theta 0 i) := by
    intro i
    rw [htheta]
    obtain rfl | rfl := mul_self_eq_one_iff.mp ha <;>
      obtain rfl | rfl := mul_self_eq_one_iff.mp hb
    · exact ⟨i, by rw [one_mul], by rw [one_mul]⟩
    · refine ⟨-i, ?_, ?_⟩
      · rw [Int.cast_neg, neg_mul, Real.cos_neg, one_mul]
      · rw [Int.cast_neg, neg_mul, Real.sin_neg, neg_one_mul]
    · refine ⟨20 - i, ?_, ?_⟩
      · rw [Int.cast_sub, sub_mul, hhalf, Real.cos_pi_sub, neg_one_mul]
      · rw [Int.cast_sub, sub_mul, hhalf, Real.sin_pi_sub, one_mul]
    · refine ⟨i + 20, ?_, ?_⟩
      · rw [Int.cast_add, add_mul, hhalf, Real.cos_add_pi, neg_one_mul]
      · rw [Int.cast_add, add_mul, hhalf, Real.sin_add_pi, neg_one_mul]
  have hdirections : ∀ i < 40, ∃ j < 40, Real.cos (theta 0 j) = a * Real.cos (theta 0 i)
      ∧ Real.sin (theta 0 j) = b * Real.sin (theta 0 i) := by
    intro i _
    obtain ⟨k, hcos, hsin⟩ := hk i
    obtain ⟨j, hj, hcos', hsin'⟩ := exists_step_eq (by norm_num : 0 < 40) circle_turn k
    refine ⟨j, hj, ?_, ?_⟩
    · rw [htheta j, Int.cast_natCast, hcos', hcos]
    · rw [htheta j, Int.cast_natCast, hsin', hsin]
  have harc := takesInto_arc ha hb f 0 0 radius hdirections
  rwa [mul_zero, mul_zero] at harc

theorem takesInto_corners (ha : a * a = 1) (hb : b * b = 1) (f : PitchField ℝ) :
    TakesInto a b (covered (corners.flatMap (cornerArc f)))
      (covered (corners.flatMap (cornerArc f))) := by
  intro p hp
  obtain ⟨s, hs, hp⟩ := (mem_covered_flatMap _ _ p).mp hp
  have hs' := (mem_corners s).mp hs
  have hreflected : Signs (a * s.1, b * s.2) :=
    ⟨by linear_combination s.1 * s.1 * ha + hs'.1, by linear_combination s.2 * s.2 * hb + hs'.2⟩
  refine (mem_covered_flatMap _ _ _).mpr ⟨_, (mem_corners _).mpr hreflected, ?_⟩
  rw [cornerArc_eq] at hp ⊢
  rw [mul_assoc, mul_assoc]
  refine takesInto_arc ha hb f _ _ _ (fun i hi => ?_) p hp
  -- the segment's place in the first quadrant, and from there its place in the other corner
  obtain ⟨hcos, hsin⟩ := cornerStart_directions hs' (cornerIndex_lt (s := s) hi)
  obtain ⟨hcos', hsin'⟩ := cornerStart_directions hreflected (cornerIndex_lt (s := s) hi)
  rw [cornerIndex_cornerIndex hi] at hcos hsin
  refine ⟨cornerIndex (a * s.1, b * s.2) (cornerIndex s i), cornerIndex_lt (cornerIndex_lt hi), ?_,
    ?_⟩
  · rw [hcos', hcos]
    ring
  · rw [hsin', hsin]
    ring

theorem takesInto_markings (ha : a * a = 1) (hb : b * b = 1) (f : PitchField ℝ) :
    TakesInto a b (covered (markings f)) (covered (markings f)) := by
  rw [markings, segments_circle]
  refine takesInto_append (takesInto_append (takesInto_append (takesInto_append ?_ ?_) ?_) ?_) ?_
  · exact takesInto_lines ha hb f
  · exact takesInto_flatMap fun x _ => takesInto_area ha hb f x.1 x.2
  · exact takesInto_circle ha hb f _
  · exact takesInto_crosses ha hb f _
  · split_ifs
    · exact takesInto_corners ha hb f
    · rintro p ⟨m, hm, -⟩
      exact absurd hm List.not_mem_nil

/-! ## The goals -/

/-- A point of space reflected. -/
def reflect (a b : ℝ) (v : Vec3 ℝ) : Vec3 ℝ := ⟨a * v.x, b * v.y, v.z⟩

theorem reflect_sub (a b : ℝ) (u v : Vec3 ℝ) :
    reflect a b (Vec3.sub u v) = Vec3.sub (reflect a b u) (reflect a b v) := by
  simp only [reflect, Vec3.sub, mul_sub]

theorem dot_reflect (ha : a * a = 1) (hb : b * b = 1) (u v : Vec3 ℝ) :
    Vec3.dot (reflect a b u) (reflect a b v) = Vec3.dot u v := by
  simp only [reflect, Vec3.dot]
  linear_combination u.x * v.x * ha + u.y * v.y * hb

theorem mem_cylinder_reflect (ha : a * a = 1) (hb : b * b = 1) {start stop p : Vec3 ℝ} {radius : ℝ}
    (hp : p ∈ cylinder start stop radius) :
    reflect a b p ∈ cylinder (reflect a b start) (reflect a b stop) radius := by
  simp only [cylinder, Set.mem_ofPred_eq, ← reflect_sub, dot_reflect ha hb]
  exact hp

/-- A cylinder has no first end. -/
theorem cylinder_comm (start stop : Vec3 ℝ) (radius : ℝ) :
    cylinder start stop radius = cylinder stop start radius := by
  have hle : ∀ start stop : Vec3 ℝ, cylinder start stop radius ⊆ cylinder stop start radius := by
    rintro start stop p ⟨hlow, hhigh, hnear⟩
    simp only [Vec3.dot, Vec3.sub] at hlow hhigh hnear
    refine ⟨?_, ?_, ?_⟩ <;> simp only [Vec3.dot, Vec3.sub]
    · linarith
    · linarith
    · linarith
  exact Set.Subset.antisymm (hle start stop) (hle stop start)

/-- The ends of the two posts and of the bar. -/
def goalEnds (f : PitchField ℝ) : List (Vec3 ℝ × Vec3 ℝ) :=
  let y := f.goalpostCentreY
  let h := f.goalHeight
  [(⟨0, y, 0⟩, ⟨0, y, h⟩), (⟨0, -y, 0⟩, ⟨0, -y, h⟩), (⟨0, -y, h⟩, ⟨0, y, h⟩)]

theorem mem_covers_goal (f : PitchField ℝ) (sign : ℤ) (p : Vec3 ℝ) :
    p ∈ (goal f sign).covers ↔ ∃ e ∈ goalEnds f,
      Vec3.sub p ⟨sign * f.length / 2, 0, 0⟩ ∈ cylinder e.1 e.2 f.goalpostRadius := by
  simp only [GoalBody.covers, goal, goalEnds, List.exists_mem_cons_iff, List.not_mem_nil, false_and,
    exists_false, or_false, Set.mem_ofPred_eq]

/-- **A goal reflected is a goal.** -/
theorem mem_goalEnds_reflect (ha : a * a = 1) (hb : b * b = 1) (f : PitchField ℝ)
    {e : Vec3 ℝ × Vec3 ℝ} (he : e ∈ goalEnds f) {p : Vec3 ℝ}
    (hp : p ∈ cylinder e.1 e.2 f.goalpostRadius) :
    ∃ e' ∈ goalEnds f, reflect a b p ∈ cylinder e'.1 e'.2 f.goalpostRadius := by
  have hreflect := mem_cylinder_reflect ha hb hp
  obtain rfl | rfl := mul_self_eq_one_iff.mp hb
  · refine ⟨e, he, ?_⟩
    simp only [goalEnds, List.mem_cons, List.not_mem_nil, or_false] at he
    obtain rfl | rfl | rfl := he <;> simpa [reflect] using hreflect
  · simp only [goalEnds, List.mem_cons, List.not_mem_nil, or_false] at he
    obtain rfl | rfl | rfl := he
    · exact ⟨_, List.mem_cons_of_mem _ List.mem_cons_self, by simpa [reflect] using hreflect⟩
    · exact ⟨_, List.mem_cons_self, by simpa [reflect] using hreflect⟩
    · refine ⟨_, List.mem_cons_of_mem _ (List.mem_cons_of_mem _ List.mem_cons_self), ?_⟩
      rw [cylinder_comm]
      simpa [reflect] using hreflect

theorem reflect_mem_woodwork (ha : a * a = 1) (hb : b * b = 1) (f : PitchField ℝ) {p : Vec3 ℝ}
    (hp : p ∈ (pitch f).woodwork) : reflect a b p ∈ (pitch f).woodwork := by
  have hgoals : ∀ sign : ℤ, sign = 1 ∨ sign = -1 → goal f sign ∈ (pitch f).goals := by
    rintro sign (rfl | rfl)
    · exact List.mem_cons_self
    · exact List.mem_cons_of_mem _ List.mem_cons_self
  obtain ⟨g, hg, hp⟩ := hp
  obtain ⟨sign, hsign, rfl⟩ := List.mem_map.mp hg
  obtain ⟨e, he, hmem⟩ := (mem_covers_goal f sign p).mp hp
  obtain ⟨e', he', hmem'⟩ := mem_goalEnds_reflect ha hb f he hmem
  -- the goal at the end that the reflection takes this one to
  obtain ⟨sign', hsign', hcast⟩ : ∃ sign' : ℤ, (sign' = 1 ∨ sign' = -1)
      ∧ (sign' : ℝ) = a * sign := by
    have hsign : sign = 1 ∨ sign = -1 := by simpa using hsign
    obtain rfl | rfl := mul_self_eq_one_iff.mp ha
    · exact ⟨sign, hsign, (one_mul _).symm⟩
    · exact ⟨-sign, by omega, by push_cast; ring⟩
  refine ⟨_, hgoals sign' hsign', (mem_covers_goal f sign' _).mpr ⟨e', he', ?_⟩⟩
  rw [reflect_sub] at hmem'
  have hpos : reflect a b ⟨sign * f.length / 2, 0, 0⟩ = ⟨sign' * f.length / 2, 0, 0⟩ := by
    rw [hcast, reflect, mul_zero, mul_div_assoc, mul_div_assoc, mul_assoc]
  rwa [hpos] at hmem'

end Reflect

/-! ## Fair -/

/-- **A pitch that looks the same from everywhere it is played from**: its lines and its goals are
their own reflections along and across it. -/
structure Pitch.Fair (scene : Pitch ℝ) : Prop where
  painted : ∀ a b : ℝ, a * a = 1 → b * b = 1 → ∀ p : ℝ × ℝ,
    (a * p.1, b * p.2) ∈ scene.painted ↔ p ∈ scene.painted
  woodwork : ∀ a b : ℝ, a * a = 1 → b * b = 1 → ∀ p : Vec3 ℝ,
    (⟨a * p.x, b * p.y, p.z⟩ : Vec3 ℝ) ∈ scene.woodwork ↔ p ∈ scene.woodwork

/-- **Every field that is generated is fair.** -/
theorem pitch_fair (f : PitchField ℝ) : (pitch f).Fair where
  painted a b ha hb p := by
    have hback : (a * (a * p.1), b * (b * p.2)) = p := by
      rw [← mul_assoc, ← mul_assoc, ha, hb, one_mul, one_mul]
    refine ⟨fun h => ?_, takesInto_markings ha hb f p⟩
    have hp := takesInto_markings ha hb f _ h
    rwa [hback] at hp
  woodwork a b ha hb p := by
    have hback : reflect a b ⟨a * p.x, b * p.y, p.z⟩ = p := by
      rw [reflect, ← mul_assoc, ← mul_assoc, ha, hb, one_mul, one_mul]
    refine ⟨fun h => ?_, reflect_mem_woodwork ha hb f⟩
    have hp := reflect_mem_woodwork ha hb f h
    rwa [hback] at hp

end GenerateField

end K1Sim
