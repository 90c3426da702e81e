import Ssim.Analysis.Reals
import Ssim.Library.CircularNeighbours
import Ssim.Library.SortedLists
import Mathlib.Data.List.Nodup
import Mathlib.Data.List.TakeWhile
import Mathlib.Tactic.Positivity

/-!
# The heights of the wafer map

Over the reals, a cell inside the wafer should get the height that goes linearly from the
ray behind it to the ray ahead of it.  The search for these rays wraps at the full turn at
both ends of the sorted rays, but the span between them is corrected at one end only.
-/

namespace Ssim.Analysis

open Library CircularNeighbours SortedLists

/-! ## Angles -/

/-- The angle of a point, in the full turn from zero. -/
noncomputable def polarAngle (x y : ℝ) : ℝ :=
  if Complex.arg ⟨x, y⟩ < 0 then Complex.arg ⟨x, y⟩ + 2 * Real.pi else Complex.arg ⟨x, y⟩

theorem two_pi_literal : (2.0 : ℝ) * Geometry.pi = 2 * Real.pi := by
  norm_num [Geometry.pi]

theorem raiseAngle_of_nonneg {theta : ℝ} (nonneg : 0 ≤ theta) (turns : Nat) :
    raiseAngle turns theta = theta := by
  cases turns with
  | zero => rfl
  | succ turns => rw [raiseAngle, if_neg (not_lt.mpr nonneg)]

theorem lowerAngle_of_lt {theta : ℝ} (below : theta < 2 * Real.pi) (turns : Nat) :
    lowerAngle turns theta = theta := by
  cases turns with
  | zero => rfl
  | succ turns => rw [lowerAngle, two_pi_literal, if_neg (not_le.mpr below)]

theorem normalizeAngle_of_mem {theta : ℝ} (nonneg : 0 ≤ theta) (below : theta < 2 * Real.pi) :
    normalizeAngle theta = theta := by
  rw [normalizeAngle, raiseAngle_of_nonneg nonneg, lowerAngle_of_lt below]

theorem normalizeAngle_of_neg {theta : ℝ} (neg : theta < 0) (above : -(2 * Real.pi) ≤ theta) :
    normalizeAngle theta = theta + 2 * Real.pi := by
  have once : raiseAngle turnLimit theta = theta + 2 * Real.pi := by
    have positive : turnLimit = (turnLimit - 1) + 1 := by norm_num [turnLimit]
    rw [positive, raiseAngle, if_pos neg, two_pi_literal, raiseAngle_of_nonneg (by linarith)]
  rw [normalizeAngle, once, lowerAngle_of_lt (by linarith)]

theorem normalizeAngle_atan2 (x y : ℝ) :
    normalizeAngle (Geometry.atan2 y x) = polarAngle x y := by
  have lower := Complex.neg_pi_lt_arg ⟨x, y⟩
  have upper := Complex.arg_le_pi ⟨x, y⟩
  have positive := Real.pi_pos
  change normalizeAngle (Complex.arg ⟨x, y⟩) = _
  unfold polarAngle
  split
  next neg => exact normalizeAngle_of_neg neg (by linarith)
  next nonneg => exact normalizeAngle_of_mem (not_lt.mp nonneg) (by linarith)

theorem polarAngle_mem (x y : ℝ) : 0 ≤ polarAngle x y ∧ polarAngle x y < 2 * Real.pi := by
  have lower := Complex.neg_pi_lt_arg ⟨x, y⟩
  have upper := Complex.arg_le_pi ⟨x, y⟩
  have positive := Real.pi_pos
  unfold polarAngle
  split
  · constructor <;> linarith
  next nonneg => exact ⟨not_lt.mp nonneg, by linarith⟩

/-! ## Rays -/

/-- The rays of valid fits with angles in the first half turn. -/
noncomputable def raysOf (fits : List (LineFitResult ℝ)) : List (DirectedRay ℝ) :=
  fits.flatMap fun fit =>
    [⟨fit.angleRad, fit.a, fit.b, fit.c⟩, ⟨fit.angleRad + Real.pi, fit.a, -fit.b, fit.c⟩]

/-- The fits that the map is built from. -/
structure GoodFits (fits : List (LineFitResult ℝ)) : Prop where
  some : fits ≠ []
  valid : ∀ fit ∈ fits, fit.valid = true
  inside : ∀ fit ∈ fits, 0 ≤ fit.angleRad ∧ fit.angleRad < Real.pi
  distinct : (fits.map (·.angleRad)).Nodup

section Rays

variable {fits : List (LineFitResult ℝ)}

theorem mem_raysOf {ray : DirectedRay ℝ} :
    ray ∈ raysOf fits ↔ ∃ fit ∈ fits,
      ray = ⟨fit.angleRad, fit.a, fit.b, fit.c⟩ ∨
        ray = ⟨fit.angleRad + Real.pi, fit.a, -fit.b, fit.c⟩ := by
  simp [raysOf]

theorem directedRays_eq (good : GoodFits fits) : directedRays fits = raysOf fits := by
  have all : fits.filter (·.valid) = fits := List.filter_eq_self.mpr good.valid
  rw [directedRays, raysOf, all]
  refine List.flatMap_congr fun fit member => ?_
  obtain ⟨above, below⟩ := good.inside fit member
  rw [normalizeAngle_of_mem above (by linarith), normalizeAngle_of_mem]
  · rfl
  · exact add_nonneg above Real.pi_pos.le
  · change fit.angleRad + Real.pi < 2 * Real.pi
    linarith

theorem GoodFits.rays_inside (good : GoodFits fits) :
    ∀ ray ∈ raysOf fits, 0 ≤ ray.angleRad ∧ ray.angleRad < 2 * Real.pi := by
  intro ray member
  obtain ⟨fit, here, rfl | rfl⟩ := mem_raysOf.mp member
  · exact ⟨(good.inside fit here).1, by linarith [(good.inside fit here).2, Real.pi_pos]⟩
  · exact ⟨by linarith [(good.inside fit here).1, Real.pi_pos],
      by linarith [(good.inside fit here).2]⟩

/-- Different rays have different angles. -/
theorem GoodFits.rays_distinct (good : GoodFits fits) :
    ∀ first ∈ raysOf fits, ∀ second ∈ raysOf fits,
      first.angleRad = second.angleRad → first = second := by
  intro first firstMember second secondMember same
  obtain ⟨fit, here, rays⟩ := mem_raysOf.mp firstMember
  obtain ⟨other, there, others⟩ := mem_raysOf.mp secondMember
  have bounds := good.inside fit here
  have otherBounds := good.inside other there
  have unique : fit.angleRad = other.angleRad → fit = other :=
    fun angles => List.inj_on_of_nodup_map good.distinct here there angles
  obtain rfl | rfl := rays <;> obtain rfl | rfl := others <;> dsimp only at same
  · rw [unique same]
  · linarith
  · linarith
  · rw [unique (by linarith)]

end Rays

/-! ## The search -/

theorem sortRays_sorted (rays : List (DirectedRay ℝ)) :
    (sortRays rays).Pairwise fun first second => first.angleRad ≤ second.angleRad := by
  have sorted := @List.pairwise_mergeSort _
    (fun first second : DirectedRay ℝ => !decide (second.angleRad < first.angleRad))
    (fun first second third firstSecond secondThird => by
      simp only [Bool.not_eq_true', decide_eq_false_iff_not, not_lt] at *
      exact firstSecond.trans secondThird)
    (fun first second => by simpa using le_total _ _) rays
  exact sorted.imp fun ordered => by simpa using ordered

section Search

variable {rays : List (DirectedRay ℝ)} {rM theta : ℝ}

/-- The angle lies between two rays next to each other, or outside of all of them. -/
theorem search_cases (some : rays ≠ []) (theta : ℝ) :
    (∃ below lo hi above, rays = below ++ lo :: hi :: above ∧
        (∀ ray ∈ below, ray.angleRad < theta) ∧ lo.angleRad < theta ∧ theta ≤ hi.angleRad) ∨
      (∃ first rest, rays = first :: rest ∧ theta ≤ first.angleRad) ∨
      ∀ ray ∈ rays, ray.angleRad < theta := by
  induction rays with
  | nil => exact absurd rfl some
  | cons first rest ih =>
      by_cases early : theta ≤ first.angleRad
      · exact .inr (.inl ⟨first, rest, rfl, early⟩)
      have late := not_le.mp early
      cases rest with
      | nil => exact .inr (.inr fun ray member => by rwa [List.mem_singleton.mp member])
      | cons second rest =>
          obtain ⟨below, lo, hi, above, split, low, behindTheta, aheadTheta⟩ |
            ⟨hi, above, split, aheadTheta⟩ | low := ih (List.cons_ne_nil _ _)
          · refine .inl ⟨first :: below, lo, hi, above, by rw [split]; rfl, ?_, behindTheta,
              aheadTheta⟩
            exact List.forall_mem_cons.mpr ⟨late, low⟩
          · exact .inl ⟨[], first, hi, above, by rw [split]; rfl, by simp, late, aheadTheta⟩
          · exact .inr (.inr (List.forall_mem_cons.mpr ⟨late, low⟩))

/-- Between two rays the code interpolates between them. -/
theorem interpolateRays_inside {below above : List (DirectedRay ℝ)} {lo hi : DirectedRay ℝ}
    (low : ∀ ray ∈ below, ray.angleRad < theta) (behindTheta : lo.angleRad < theta)
    (aheadTheta : theta ≤ hi.angleRad) (first : DirectedRay ℝ) :
    interpolateRays first (below ++ lo :: hi :: above) rM theta =
      interpolated (2 * Real.pi) (·.angleRad) (evalRay · rM) theta lo hi := by
  have index : ((below ++ lo :: hi :: above).takeWhile (·.angleRad < theta)).length =
      below.length + 1 := by
    rw [List.takeWhile_append_of_pos fun ray member => decide_eq_true (low ray member)]
    simp [behindTheta, aheadTheta]
  have length : (below ++ lo :: hi :: above).length = below.length + 2 + above.length := by
    simp
    omega
  have noWrap : below.length + 1 ≠ (below ++ lo :: hi :: above).length := by omega
  unfold interpolateRays
  dsimp only
  rw [index, if_neg (Nat.succ_ne_zero _), Nat.add_sub_cancel,
    Nat.mod_eq_of_lt (by omega), if_neg noWrap]
  have atLo : (below ++ lo :: hi :: above).getD below.length first = lo := by simp
  have atHi : (below ++ lo :: hi :: above).getD (below.length + 1) first = hi := by simp
  have back : ¬ theta - lo.angleRad < 0 := by linarith
  rw [atLo, atHi, if_neg back, if_pos (by linarith)]
  simp only [interpolated, behind, ahead, if_pos behindTheta, if_pos aheadTheta]
  congr 3
  ring

/-- Behind the last ray the code interpolates from it to the first one. -/
theorem interpolateRays_after {first last : DirectedRay ℝ} (some : rays ≠ [])
    (low : ∀ ray ∈ rays, ray.angleRad < theta) (firstAt : rays.head? = .some first)
    (lastAt : rays.getLast? = .some last) (span : last.angleRad - first.angleRad < 2 * Real.pi)
    (other : DirectedRay ℝ) :
    interpolateRays other rays rM theta =
      interpolated (2 * Real.pi) (·.angleRad) (evalRay · rM) theta last first := by
  have index : (rays.takeWhile (·.angleRad < theta)).length = rays.length := by
    rw [List.takeWhile_eq_self_iff.mpr fun ray member => decide_eq_true (low ray member)]
  have positive : rays.length ≠ 0 := fun none => some (List.length_eq_zero_iff.mp none)
  unfold interpolateRays
  dsimp only
  rw [index, if_neg positive, Nat.mod_self, if_pos rfl]
  have atFirst : rays.getD 0 other = first := by
    rw [List.getD_eq_getElem?_getD, ← List.head?_eq_getElem?, firstAt]
    rfl
  have atLast : rays.getD (rays.length - 1) other = last := by
    rw [List.getD_eq_getElem?_getD, ← List.getLast?_eq_getElem?, lastAt]
    rfl
  have lastLow := low last (List.mem_of_getLast? lastAt)
  have firstLow := low first (List.mem_of_head? firstAt)
  have back : ¬ theta - last.angleRad < 0 := by linarith
  rw [atFirst, atLast, if_neg back, two_pi_literal, if_pos (by linarith)]
  simp only [interpolated, behind, ahead, if_pos lastLow, if_neg (not_le.mpr firstLow)]
  congr 3
  ring

/-- Up to the first ray the code takes the height of the last one. -/
theorem interpolateRays_before {first last : DirectedRay ℝ} {rest : List (DirectedRay ℝ)}
    (early : theta ≤ first.angleRad) (lastAt : (first :: rest).getLast? = some last)
    (ordered : first.angleRad ≤ last.angleRad) (other : DirectedRay ℝ) :
    interpolateRays other (first :: rest) rM theta = evalRay last rM := by
  have index : ((first :: rest).takeWhile (·.angleRad < theta)).length = 0 := by
    simp [early]
  have noWrap : 0 ≠ (first :: rest).length := (Nat.succ_ne_zero _).symm
  unfold interpolateRays
  dsimp only
  rw [index, if_pos rfl, Nat.zero_mod, if_neg noWrap]
  have atLast : (first :: rest).getD ((first :: rest).length - 1) other = last := by
    rw [List.getD_eq_getElem?_getD, ← List.getLast?_eq_getElem?, lastAt]
    rfl
  rw [atLast, List.getD_cons_zero, if_neg (show ¬ 0 < first.angleRad - last.angleRad by linarith)]
  ring

end Search

section Sorted

variable {fits : List (LineFitResult ℝ)} {rM theta : ℝ}

/-- What the search makes of sorted rays. -/
theorem interpolateRays_sorted (good : GoodFits fits)
    {first last : DirectedRay ℝ} (firstMem : first ∈ raysOf fits) (lastMem : last ∈ raysOf fits)
    (extremes : ∀ ray ∈ raysOf fits,
      first.angleRad ≤ ray.angleRad ∧ ray.angleRad ≤ last.angleRad) (other : DirectedRay ℝ) :
    let value := interpolateRays other (sortRays (raysOf fits)) rM theta
    (first.angleRad < theta → ∃ lo hi,
        Brackets (2 * Real.pi) (·.angleRad) (raysOf fits) theta lo hi ∧
          value = interpolated (2 * Real.pi) (·.angleRad) (evalRay · rM) theta lo hi) ∧
      (theta ≤ first.angleRad → value = evalRay last rM) := by
  have same : ∀ ray, ray ∈ sortRays (raysOf fits) ↔ ray ∈ raysOf fits :=
    fun ray => (List.mergeSort_perm _ _).mem_iff
  have sorted := sortRays_sorted (raysOf fits)
  generalize sortRays (raysOf fits) = rays at same sorted
  have above : ∀ ray ∈ raysOf fits, 0 ≤ ray.angleRad :=
    fun ray member => (good.rays_inside ray member).1
  have below : ∀ ray ∈ raysOf fits, ray.angleRad < 2 * Real.pi :=
    fun ray member => (good.rays_inside ray member).2
  have some : rays ≠ [] := List.ne_nil_of_mem ((same first).mpr firstMem)
  have distinct : ∀ ray ∈ rays, ∀ second ∈ rays, ray.angleRad = second.angleRad → ray = second :=
    fun ray member second other =>
      good.rays_distinct ray ((same ray).mp member) second ((same second).mp other)
  have headAt : rays.head? = .some first :=
    head?_of_least sorted distinct ((same first).mpr firstMem)
      fun ray member => (extremes ray ((same ray).mp member)).1
  have lastAt : rays.getLast? = .some last :=
    getLast?_of_greatest sorted distinct ((same last).mpr lastMem)
      fun ray member => (extremes ray ((same ray).mp member)).2
  intro value
  constructor
  · intro late
    obtain ⟨front, lo, hi, rest, rfl, low, behindTheta, aheadTheta⟩ |
      ⟨head, rest, rfl, early⟩ | low := search_cases some theta
    · have loMem := (same lo).mp (by simp)
      have hiMem := (same hi).mp (by simp)
      refine ⟨lo, hi, brackets_inside above below loMem hiMem behindTheta aheadTheta ?_,
        interpolateRays_inside low behindTheta aheadTheta other⟩
      exact fun ray member => le_or_ge_of_neighbours sorted rfl ((same ray).mpr member)
    · obtain rfl := Option.some.inj headAt
      exact absurd late (not_lt.mpr early)
    · refine ⟨last, first, brackets_around above below lastMem firstMem extremes
        (.inr (low last ((same last).mpr lastMem))), ?_⟩
      exact interpolateRays_after some low headAt lastAt
        (by linarith [below last lastMem, above first firstMem]) other
  · intro early
    cases rays with
    | nil => exact absurd rfl some
    | cons head rest =>
        obtain rfl := Option.some.inj headAt
        exact interpolateRays_before early lastAt (extremes last lastMem).1 other

end Sorted

/-! ## The cells -/

/-- A cell of a grid that is written row after row. -/
theorem getElem?_grid {β : Type} {rows columns i j : Nat} (cell : Nat → Nat → β) (row : j < rows)
    (column : i < columns) :
    ((List.range rows).flatMap fun j => (List.range columns).map (cell j))[j * columns + i]? =
      some (cell j i) := by
  have before : ∀ count, ((List.range count).flatMap fun j =>
      (List.range columns).map (cell j)).length = count * columns := by
    intro count
    simp
  obtain ⟨rest, rfl⟩ := Nat.exists_eq_add_of_lt row
  rw [Nat.add_assoc, List.range_add, List.flatMap_append, List.getElem?_append_right
    (by rw [before]; omega), before, Nat.add_sub_cancel_left, Nat.add_comm rest 1,
    List.range_add, List.map_append, List.flatMap_append, List.getElem?_append_left (by simpa)]
  simp [column]

/--
What the height of a cell should be: linear between the neighbouring rays, hence between
their heights, and on a ray the height of that ray.
-/
structure Interpolates (rays : List (DirectedRay ℝ)) (rM theta value : ℝ) : Prop where
  neighbours : ∃ lo hi, Brackets (2 * Real.pi) (·.angleRad) rays theta lo hi ∧
    value = interpolated (2 * Real.pi) (·.angleRad) (evalRay · rM) theta lo hi ∧
    min (evalRay lo rM) (evalRay hi rM) ≤ value ∧ value ≤ max (evalRay lo rM) (evalRay hi rM)
  onRay : ∀ ray ∈ rays, ray.angleRad = theta → value = evalRay ray rM

/-- The first ray is behind the angle, or as high as the last one. -/
def FirstRayPassed (rays : List (DirectedRay ℝ)) (rM theta : ℝ) : Prop :=
  ∀ first ∈ rays, ∀ last ∈ rays,
    (∀ ray ∈ rays, first.angleRad ≤ ray.angleRad ∧ ray.angleRad ≤ last.angleRad) →
      first.angleRad < theta ∨ evalRay first rM = evalRay last rM

section Cells

variable {fits : List (LineFitResult ℝ)} {rM theta : ℝ}

theorem GoodFits.interpolates (good : GoodFits fits)
    (inside : 0 ≤ theta ∧ theta < 2 * Real.pi) {lo hi : DirectedRay ℝ}
    (brackets : Brackets (2 * Real.pi) (·.angleRad) (raysOf fits) theta lo hi) :
    Interpolates (raysOf fits) rM theta
      (interpolated (2 * Real.pi) (·.angleRad) (evalRay · rM) theta lo hi) := by
  have above : ∀ ray ∈ raysOf fits, 0 ≤ ray.angleRad :=
    fun ray member => (good.rays_inside ray member).1
  have below : ∀ ray ∈ raysOf fits, ray.angleRad < 2 * Real.pi :=
    fun ray member => (good.rays_inside ray member).2
  have between := @Brackets.interpolated_between _ ℝ _ _ _ (2 * Real.pi) (·.angleRad)
    (evalRay · rM) (raysOf fits) theta lo hi above below inside.1 inside.2 brackets
  constructor
  · exact ⟨lo, hi, brackets, rfl, between⟩
  · intro ray member here
    exact brackets.interpolated_at above below inside.1 inside.2 good.rays_distinct member here

theorem GoodFits.exists_extremes (good : GoodFits fits) :
    ∃ first ∈ raysOf fits, ∃ last ∈ raysOf fits, ∀ ray ∈ raysOf fits,
      first.angleRad ≤ ray.angleRad ∧ ray.angleRad ≤ last.angleRad := by
  obtain ⟨fit, member⟩ := List.exists_mem_of_ne_nil fits good.some
  have some : {ray | ray ∈ raysOf fits}.Nonempty := ⟨_, mem_raysOf.mpr ⟨fit, member, .inl rfl⟩⟩
  have finite : {ray | ray ∈ raysOf fits}.Finite := List.finite_toSet (raysOf fits)
  obtain ⟨first, firstMem, least⟩ := Set.exists_min_image _ (·.angleRad) finite some
  obtain ⟨last, lastMem, most⟩ := Set.exists_max_image _ (·.angleRad) finite some
  exact ⟨first, firstMem, last, lastMem, fun ray here => ⟨least ray here, most ray here⟩⟩

/-- The search interpolates exactly if the first ray is passed. -/
theorem GoodFits.interpolates_iff (good : GoodFits fits)
    (inside : 0 ≤ theta ∧ theta < 2 * Real.pi) (other : DirectedRay ℝ) :
    Interpolates (raysOf fits) rM theta
        (interpolateRays other (sortRays (raysOf fits)) rM theta) ↔
      FirstRayPassed (raysOf fits) rM theta := by
  have above : ∀ ray ∈ raysOf fits, 0 ≤ ray.angleRad :=
    fun ray member => (good.rays_inside ray member).1
  have below : ∀ ray ∈ raysOf fits, ray.angleRad < 2 * Real.pi :=
    fun ray member => (good.rays_inside ray member).2
  constructor
  · intro interpolates first firstMem last lastMem extremes
    obtain ⟨_, before⟩ := @interpolateRays_sorted fits rM theta good first last firstMem lastMem
      extremes other
    by_cases late : first.angleRad < theta
    · exact .inl late
    right
    have early := not_lt.mp late
    obtain ⟨lo, hi, brackets, value, _⟩ := interpolates.neighbours
    have around := brackets_around above below lastMem firstMem extremes (.inl early)
    obtain ⟨rfl, rfl⟩ := brackets.unique above below good.rays_distinct around
    rw [before early] at value
    have back := behind_pos inside.1 (below _ lastMem)
    have front := ahead_nonneg inside.2 (above _ firstMem)
    -- the fraction is positive, so the heights do not differ
    have fraction : 0 < behind (2 * Real.pi) theta lo.angleRad /
        (behind (2 * Real.pi) theta lo.angleRad + ahead (2 * Real.pi) theta hi.angleRad) :=
      div_pos back (by linarith)
    have product := left_eq_add.mp value
    have difference := (mul_eq_zero.mp product).resolve_left fraction.ne'
    linarith
  · intro passed
    obtain ⟨first, firstMem, last, lastMem, extremes⟩ := good.exists_extremes
    obtain ⟨after, before⟩ := @interpolateRays_sorted fits rM theta good first last firstMem
      lastMem extremes other
    by_cases late : first.angleRad < theta
    · obtain ⟨lo, hi, brackets, value⟩ := after late
      rw [value]
      exact good.interpolates inside brackets
    · have early := not_lt.mp late
      have same := (passed first firstMem last lastMem extremes).resolve_left late
      have around := brackets_around above below lastMem firstMem extremes (.inl early)
      have value : evalRay last rM =
          interpolated (2 * Real.pi) (·.angleRad) (evalRay · rM) theta last first := by
        rw [interpolated, same, sub_self, mul_zero, add_zero]
      rw [before early, value]
      exact good.interpolates inside around

/-- The height that the map has for a cell inside the wafer. -/
theorem GoodFits.cell_value (good : GoodFits fits) (diameterM gridMm : ℝ) {i j : Nat} :
    let map := buildWaferMap fits diameterM gridMm
    let halfN := ⌈diameterM * 1000 / 2 / gridMm⌉
    let xMm := ((i : ℝ) - halfN) * gridMm
    let yMm := ((j : ℝ) - halfN) * gridMm
    (i : ℤ) < map.width → (j : ℤ) < map.height →
      √(xMm ^ 2 + yMm ^ 2) ≤ diameterM * 1000 / 2 →
      ∃ other, map.heightsM[j * map.width.toNat + i]? =
        Option.some (interpolateRays other (sortRays (raysOf fits))
          (√(xMm ^ 2 + yMm ^ 2) / 1000) (polarAngle xMm yMm)) := by
  intro map halfN xMm yMm column row inside
  have thousand : (1000.0 : ℝ) = 1000 := by norm_num
  have two : (2.0 : ℝ) = 2 := by norm_num
  have width : map.width = 2 * halfN + 1 := by
    simp only [map, buildWaferMap, thousand, two]
    rfl
  have height : map.height = 2 * halfN + 1 := width
  have heights : map.heightsM = (List.range (2 * halfN + 1).toNat).flatMap fun j =>
      (List.range (2 * halfN + 1).toNat).map
        (cellHeight (sortRays (raysOf fits)) (diameterM * 1000 / 2) gridMm halfN j) := by
    simp only [map, buildWaferMap, directedRays_eq good, thousand, two]
    rfl
  rw [width] at column ⊢
  rw [height] at row
  rw [heights, getElem?_grid _ (by omega) (by omega)]
  obtain ⟨first, firstMem, _⟩ := good.exists_extremes
  have member : first ∈ sortRays (raysOf fits) := (List.mergeSort_perm _ _).mem_iff.mpr firstMem
  cases sorted : sortRays (raysOf fits) with
  | nil =>
      rw [sorted] at member
      cases member
  | cons other rest =>
      have hypot : Geometry.hypot xMm yMm = √(xMm ^ 2 + yMm ^ 2) := rfl
      have castX : ((i - halfN : Int) : ℝ) * gridMm = xMm := by push_cast; rfl
      have castY : ((j - halfN : Int) : ℝ) * gridMm = yMm := by push_cast; rfl
      refine ⟨other, ?_⟩
      rw [cellHeight]
      dsimp only
      rw [castX, castY, hypot, if_neg (not_lt.mpr inside), normalizeAngle_atan2, thousand]

end Cells

/--
When the map interpolates.  In exact arithmetic, for all valid fits with different angles in
the half turn, every diameter and grid and every cell inside the wafer: the height of the
cell is the interpolation between its neighbouring rays exactly if its angle is beyond the
first ray, or the first and the last ray have the same height there.
-/
theorem wafer_map_interpolates_iff {fits : List (LineFitResult ℝ)} (good : GoodFits fits)
    (diameterM gridMm : ℝ) {i j : Nat} :
    let map := buildWaferMap fits diameterM gridMm
    let halfN := ⌈diameterM * 1000 / 2 / gridMm⌉
    let xMm := ((i : ℝ) - halfN) * gridMm
    let yMm := ((j : ℝ) - halfN) * gridMm
    let rM := √(xMm ^ 2 + yMm ^ 2) / 1000
    let theta := polarAngle xMm yMm
    (i : ℤ) < map.width → (j : ℤ) < map.height →
      √(xMm ^ 2 + yMm ^ 2) ≤ diameterM * 1000 / 2 →
      ∃ value, map.heightsM[j * map.width.toNat + i]? = some value ∧
        (Interpolates (raysOf fits) rM theta value ↔ FirstRayPassed (raysOf fits) rM theta) := by
  intro map halfN xMm yMm rM theta column row inside
  obtain ⟨other, value⟩ := good.cell_value diameterM gridMm column row inside
  exact ⟨_, value, good.interpolates_iff (polarAngle_mem _ _) other⟩

/-- A flat line at the angle zero, and a higher one across. -/
noncomputable def crossedLines : List (LineFitResult ℝ) :=
  [⟨0, 0, 0, 0, 0, 0, 0, 3, true⟩, ⟨Real.pi / 2, 0, 0, 1, 0, 0, 0, 3, true⟩]

theorem crossedLines_good : GoodFits crossedLines := by
  have positive := Real.pi_pos
  refine ⟨by simp [crossedLines], by simp [crossedLines], ?_, ?_⟩
  · intro fit member
    simp only [crossedLines, List.mem_cons, List.not_mem_nil, or_false] at member
    obtain rfl | rfl := member
    · exact ⟨le_refl _, positive⟩
    · constructor <;> dsimp only <;> linarith
  · have different : (0 : ℝ) ≠ Real.pi / 2 := by linarith
    simpa [crossedLines] using different

theorem crossedLines_halfN : ⌈(0.3 : ℝ) * 1000 / 2 / 150⌉ = 1 := by
  norm_num

theorem crossedLines_width : (buildWaferMap crossedLines 0.3 150).width = 3 := by
  have half : Geometry.ceil ((0.3 : ℝ) * 1000.0 / 2.0 / 150) = 1 := by
    norm_num [Geometry.ceil]
  rw [buildWaferMap, half]
  rfl

theorem crossedLines_height : (buildWaferMap crossedLines 0.3 150).height = 3 :=
  crossedLines_width

/-- The cells to the left and to the right of the centre are 150 mm away from it. -/
theorem crossedLines_radius {x : ℝ} (distance : x ^ 2 = 150 ^ 2) : √(x ^ 2 + 0 ^ 2) = 150 := by
  rw [distance, zero_pow two_ne_zero, add_zero, Real.sqrt_sq (by norm_num)]

/-- The cell to the left of the centre is beyond the first ray. -/
theorem wafer_map_interpolates_iff_left :
    ∃ value, (buildWaferMap crossedLines 0.3 150).heightsM[3]? = some value ∧
      Interpolates (raysOf crossedLines) 0.15 Real.pi value := by
  have left : (((0 : Nat) : ℝ) - ((1 : ℤ) : ℝ)) * 150 = -150 := by norm_num
  have middle : (((1 : Nat) : ℝ) - ((1 : ℤ) : ℝ)) * 150 = 0 := by norm_num
  have radius : √((-150 : ℝ) ^ 2 + 0 ^ 2) = 150 := crossedLines_radius (by norm_num)
  have metres : (150 : ℝ) / 1000 = 0.15 := by norm_num
  have west : polarAngle (-150) 0 = Real.pi := by
    have arg : Complex.arg ⟨-150, 0⟩ = Real.pi :=
      Complex.arg_ofReal_of_neg (by norm_num : (-150 : ℝ) < 0)
    rw [polarAngle, arg, if_neg (not_lt.mpr Real.pi_pos.le)]
  have cell := wafer_map_interpolates_iff crossedLines_good 0.3 150 (i := 0) (j := 1)
  dsimp only at cell
  rw [crossedLines_halfN, left, middle, radius, metres, west, crossedLines_width] at cell
  obtain ⟨value, found, interpolates⟩ :=
    cell (by norm_num) (by rw [crossedLines_height]; norm_num) (by norm_num)
  refine ⟨value, found, interpolates.mpr fun first _ last _ extremes => .inl ?_⟩
  have least := (extremes ⟨0, 0, 0, 0⟩ (by simp [raysOf, crossedLines])).1
  exact lt_of_le_of_lt least Real.pi_pos

/-- The cell on the ray at the angle zero gets the height of the last ray. -/
theorem first_ray_cell_not_interpolated :
    polarAngle 150 0 = 0 ∧
      (⟨0, 0, 0, 0⟩ : DirectedRay ℝ) ∈ raysOf crossedLines ∧
      evalRay (⟨0, 0, 0, 0⟩ : DirectedRay ℝ) 0.15 = 0 ∧
      (buildWaferMap crossedLines 0.3 150).heightsM[5]? = some 1 ∧
      ¬ Interpolates (raysOf crossedLines) 0.15 (polarAngle 150 0) 1 := by
  have positive := Real.pi_pos
  have right : (((2 : Nat) : ℝ) - ((1 : ℤ) : ℝ)) * 150 = 150 := by norm_num
  have middle : (((1 : Nat) : ℝ) - ((1 : ℤ) : ℝ)) * 150 = 0 := by norm_num
  have radius : √((150 : ℝ) ^ 2 + 0 ^ 2) = 150 := crossedLines_radius rfl
  have metres : (150 : ℝ) / 1000 = 0.15 := by norm_num
  have east : polarAngle 150 0 = 0 := by
    have arg : Complex.arg ⟨150, 0⟩ = 0 :=
      Complex.arg_ofReal_of_nonneg (by norm_num : (0 : ℝ) ≤ 150)
    rw [polarAngle, arg, if_neg (lt_irrefl _)]
  have firstMem : (⟨0, 0, 0, 0⟩ : DirectedRay ℝ) ∈ raysOf crossedLines := by
    simp [raysOf, crossedLines]
  have flat : evalRay (⟨0, 0, 0, 0⟩ : DirectedRay ℝ) 0.15 = 0 := by simp [evalRay]
  refine ⟨east, firstMem, flat, ?_, fun interpolates => ?_⟩
  · have cell := crossedLines_good.cell_value 0.3 150 (i := 2) (j := 1)
    dsimp only at cell
    rw [crossedLines_halfN, right, middle, radius, metres, east, crossedLines_width] at cell
    obtain ⟨other, found⟩ :=
      cell (by norm_num) (by rw [crossedLines_height]; norm_num) (by norm_num)
    have lastMem : (⟨Real.pi / 2 + Real.pi, 0, -0, 1⟩ : DirectedRay ℝ) ∈ raysOf crossedLines := by
      simp [raysOf, crossedLines]
    have extremes : ∀ ray ∈ raysOf crossedLines,
        (0 : ℝ) ≤ ray.angleRad ∧ ray.angleRad ≤ Real.pi / 2 + Real.pi := by
      intro ray member
      obtain ⟨fit, here, rfl | rfl⟩ := mem_raysOf.mp member <;>
        simp only [crossedLines, List.mem_cons, List.not_mem_nil, or_false] at here <;>
        obtain rfl | rfl := here <;> constructor <;> dsimp only <;> linarith
    have value := (@interpolateRays_sorted _ 0.15 0 crossedLines_good _ _ firstMem lastMem extremes
      other).2 (le_refl _)
    have high : evalRay (⟨Real.pi / 2 + Real.pi, 0, -0, 1⟩ : DirectedRay ℝ) 0.15 = 1 := by
      simp [evalRay]
    rw [value, high] at found
    exact found
  · have height := interpolates.onRay _ firstMem east.symm
    rw [flat] at height
    exact one_ne_zero height

end Ssim.Analysis
