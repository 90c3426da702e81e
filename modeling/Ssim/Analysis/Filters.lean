import Ssim.Analysis.Types

/-!
# Edge exclusion and outlier rejection

The two filters of a line.  Edge exclusion tags what lies near the ends of the line.
Outlier rejection slides a sorted window along the kept heights, where at each step
few values leave and few enter, and compares each height with the median and the
median absolute deviation of its window.  An access outside a vector, which no
run in exact arithmetic makes, reads zero, and an erasure at the end erases nothing.
-/

namespace Ssim.Analysis

section Filters

variable {R : Type} [Zero R] [Add R] [Sub R] [Mul R] [Div R] [Neg R] [NatCast R] [OfScientific R]
  [LT R] [DecidableLT R] [LE R] [DecidableLE R] [Elementary R]

/-! ## Edge exclusion -/

/-- The smallest value, the first argument of `std::minmax_element`. -/
def minElement (first : R) (rest : List R) : R :=
  rest.foldl (fun least value => if value < least then value else least) first

/-- The largest value, the second argument of `std::minmax_element`. -/
def maxElement (first : R) (rest : List R) : R :=
  rest.foldl (fun most value => if value < most then most else value) first

def edgeFlag (lo hi s z : R) : SampleFlag :=
  if Elementary.isnan z then
    .dropped
  else if s < lo ∨ hi < s then
    .edgeExcluded
  else
    .kept

def applyEdgeExclusion (line : LineSamples R) (edgeExclusionMm : R) : FilterResult R :=
  match line.sM with
  | [] => ⟨line.angleRad, [], 0, 0⟩
  | first :: rest =>
      let edgeExclusionM := edgeExclusionMm * 1e-3
      let lo := minElement first rest + edgeExclusionM
      let hi := maxElement first rest - edgeExclusionM
      let samples := (line.sM.zip line.zM).map fun (s, z) => ⟨s, z, edgeFlag lo hi s z⟩
      { angleRad := line.angleRad
        samples := samples
        removedCount := countRemoved samples
        removedFraction := (countRemoved samples : R) / (samples.length : R) }

/-! ## Medians -/

/-- The median of a sorted window that is not empty. -/
def sortedMedian (sorted : List R) : R :=
  let mid := sorted.length / 2
  if sorted.length % 2 = 0 then
    0.5 * (sorted.getD mid 0 + sorted.getD (mid - 1) 0)
  else
    sorted.getD mid 0

/-- The two pointers into the window and the last two deviations taken. -/
structure DeviationScan (R : Type) where
  left : Nat
  right : Nat
  previous : R
  current : R

/-- Take the smaller of the next deviation to the left and the next one to the right. -/
def DeviationScan.take (sorted : List R) (med : R) (scan : DeviationScan R) : DeviationScan R :=
  let haveLeft : Bool := scan.left > 0
  let haveRight : Bool := scan.right < sorted.length
  let devLeft := if haveLeft then med - sorted.getD (scan.left - 1) 0 else 0
  let devRight := if haveRight then sorted.getD scan.right 0 - med else 0
  if haveLeft ∧ (!haveRight ∨ devLeft ≤ devRight) then
    { scan with left := scan.left - 1, previous := scan.current, current := devLeft }
  else
    { scan with right := scan.right + 1, previous := scan.current, current := devRight }

def medianAbsDeviation (sorted : List R) (med : R) : R :=
  let size := sorted.length
  let split := lowerBound sorted med
  let scan := (DeviationScan.take sorted med)^[size / 2 + 1] ⟨split, split, 0, 0⟩
  if size % 2 = 0 then 0.5 * (scan.current + scan.previous) else scan.current

/-! ## Outlier rejection -/

/-- The kept heights in the window in sorted order, and their range among the kept ones. -/
structure Window (R : Type) where
  sorted : List R
  lo : Nat
  stop : Nat

namespace Window

def fresh : Window R := ⟨[], 0, 0⟩

/-- The height at `lo` leaves. -/
def leave (keptZ : List R) (window : Window R) : Window R :=
  { window with
    sorted := window.sorted.eraseIdx (lowerBound window.sorted (keptZ.getD window.lo 0))
    lo := window.lo + 1 }

/-- The height at `stop` enters. -/
def enter (keptZ : List R) (window : Window R) : Window R :=
  let entering := keptZ.getD window.stop 0
  { window with
    sorted := window.sorted.insertIdx (upperBound window.sorted entering) entering
    stop := window.stop + 1 }

/-- Move the window to the heights around the one at `k`. -/
def slide (keptZ : List R) (radius : Nat) (window : Window R) (k : Nat) : Window R :=
  let lo := if k > radius then k - radius else 0
  let stop := min keptZ.length (k + radius + 1)
  let window := (leave keptZ)^[lo - window.lo] window
  (enter keptZ)^[stop - window.stop] window

end Window

/-- Whether a height is too far from the median, for a positive threshold. -/
def exceeds (madK z med mad : R) : Bool :=
  let threshold := madK * mad
  0 < threshold && threshold < absolute (z - med)

/-- The window and the samples, flagged so far. -/
structure Rejection (R : Type) where
  window : Window R
  samples : List (FilteredSample R)

def flagOutlier (sample : FilteredSample R) : FilteredSample R :=
  { sample with flag := .outlier }

def Rejection.step (keptIndices : List Nat) (keptZ : List R) (madK : R) (radius : Nat)
    (rejection : Rejection R) (k : Nat) : Rejection R :=
  let window := rejection.window.slide keptZ radius k
  let med := sortedMedian window.sorted
  let mad := medianAbsDeviation window.sorted med
  { window := window
    samples :=
      if exceeds madK (keptZ.getD k 0) med mad then
        rejection.samples.modify (keptIndices.getD k 0) flagOutlier
      else
        rejection.samples }

/-- The kept samples with their indices. -/
def keptSamples (samples : List (FilteredSample R)) : List (FilteredSample R × Nat) :=
  samples.zipIdx.filter (·.1.flag = .kept)

/-- The result with these samples, counted again. -/
def FilterResult.recount (input : FilterResult R) (samples : List (FilteredSample R)) :
    FilterResult R :=
  { input with
    samples := samples
    removedCount := countRemoved samples
    removedFraction := (countRemoved samples : R) / (samples.length : R) }

def applyOutlierRejection (input : FilterResult R) (madK : R) (windowRadiusSamples : Int) :
    FilterResult R :=
  let kept := keptSamples input.samples
  let keptIndices := kept.map (·.2)
  let keptZ := kept.map (·.1.zM)
  let n := kept.length
  if n < 2 then
    input
  else
    let radius := (max 1 windowRadiusSamples).toNat
    let rejection := (List.range n).foldl
      (Rejection.step keptIndices keptZ madK radius) ⟨.fresh, input.samples⟩
    input.recount rejection.samples

/-! ## The filters only change flags -/

/-- The position and the height. -/
def FilteredSample.point (sample : FilteredSample R) : R × R :=
  (sample.sM, sample.zM)

omit [Div R] [NatCast R] [Elementary R] in
theorem Rejection.step_points (keptIndices : List Nat) (keptZ : List R) (madK : R) (radius : Nat)
    (rejection : Rejection R) (k : Nat) :
    (rejection.step keptIndices keptZ madK radius k).samples.map FilteredSample.point =
      rejection.samples.map FilteredSample.point := by
  simp only [Rejection.step]
  split
  · ext1 i
    rw [List.getElem?_map, List.getElem?_map, List.getElem?_modify]
    cases rejection.samples[i]? with
    | none => rfl
    | some sample =>
        change some (FilteredSample.point (ite _ _ _)) = _
        split <;> rfl
  · rfl

omit [Elementary R] in
theorem applyOutlierRejection_points (input : FilterResult R) (madK : R)
    (windowRadiusSamples : Int) :
    (applyOutlierRejection input madK windowRadiusSamples).samples.map FilteredSample.point =
      input.samples.map FilteredSample.point := by
  have run : ∀ (keptIndices : List Nat) (keptZ : List R) (radius : Nat) (steps : List Nat)
      (rejection : Rejection R),
      (steps.foldl (Rejection.step keptIndices keptZ madK radius) rejection).samples.map
          FilteredSample.point =
        rejection.samples.map FilteredSample.point := by
    intro keptIndices keptZ radius steps
    induction steps with
    | nil => exact fun _ => rfl
    | cons k steps ih =>
        intro rejection
        rw [List.foldl_cons, ih, Rejection.step_points]
  unfold applyOutlierRejection
  dsimp only
  split
  · rfl
  · exact run _ _ _ _ _

omit [Neg R] [LE R] [DecidableLE R] in
/-- Every sample after edge exclusion is one of the line. -/
theorem applyEdgeExclusion_points (line : LineSamples R) (edgeExclusionMm : R) :
    ∀ point ∈ (applyEdgeExclusion line edgeExclusionMm).samples.map FilteredSample.point,
      point ∈ line.sM.zip line.zM := by
  intro point member
  unfold applyEdgeExclusion at member
  split at member
  · cases member
  · rw [List.map_map, List.mem_map] at member
    obtain ⟨pair, here, rfl⟩ := member
    exact here

/-! ## Dropped samples -/

def FilteredSample.isDropped (sample : FilteredSample R) : Bool :=
  sample.flag = .dropped

omit [Zero R] [Add R] [Sub R] [Mul R] [Div R] [Neg R] [NatCast R] [OfScientific R] [LT R]
  [DecidableLT R] [LE R] [DecidableLE R] [Elementary R] in
theorem kept_at {samples : List (FilteredSample R)} {k : Nat}
    (inside : k < (keptSamples samples).length) :
    ∃ sample, samples[((keptSamples samples).map (·.2)).getD k 0]? = some sample ∧
      sample.isDropped = false := by
  have member := List.mem_filter.mp (List.getElem_mem inside)
  obtain ⟨here, kept⟩ := member
  refine ⟨(keptSamples samples)[k].1, ?_, ?_⟩
  · rw [List.getD_eq_getElem?_getD, List.getElem?_map, List.getElem?_eq_getElem inside]
    exact List.mk_mem_zipIdx_iff_getElem?.mp here
  · rw [FilteredSample.isDropped, of_decide_eq_true kept]
    rfl

omit [Div R] [NatCast R] [Elementary R] in
/-- A step flags none but a kept sample. -/
theorem Rejection.step_dropped {samples : List (FilteredSample R)} {keptZ : List R} {madK : R}
    {radius k : Nat} {rejection : Rejection R} (inside : k < (keptSamples samples).length)
    (before : rejection.samples.map FilteredSample.isDropped =
      samples.map FilteredSample.isDropped) :
    (rejection.step ((keptSamples samples).map (·.2)) keptZ madK radius k).samples.map
        FilteredSample.isDropped =
      samples.map FilteredSample.isDropped := by
  simp only [Rejection.step]
  split
  · refine .trans ?_ before
    ext1 i
    rw [List.getElem?_map, List.getElem?_map, List.getElem?_modify]
    by_cases flagged : ((keptSamples samples).map (·.2)).getD k 0 = i
    · obtain ⟨sample, here, kept⟩ := kept_at inside
      have same := congrArg (·[i]?) before
      simp only [List.getElem?_map] at same
      rw [flagged] at here
      rw [same, here, Option.map_some, kept]
      cases found : rejection.samples[i]? with
      | none =>
          rw [found, here] at same
          cases same
      | some other =>
          rw [Option.map_eq_map, Option.map_some, Option.map_some, if_pos flagged]
          rfl
    · cases rejection.samples[i]? with
      | none => rfl
      | some other => rw [Option.map_eq_map, Option.map_some, if_neg flagged]
  · exact before

omit [Elementary R] in
theorem applyOutlierRejection_dropped (input : FilterResult R) (madK : R)
    (windowRadiusSamples : Int) :
    (applyOutlierRejection input madK windowRadiusSamples).samples.map FilteredSample.isDropped =
      input.samples.map FilteredSample.isDropped := by
  unfold applyOutlierRejection
  dsimp only
  split
  · rfl
  · refine List.foldlRecOn _ _ (motive := fun rejection : Rejection R =>
      rejection.samples.map FilteredSample.isDropped =
        input.samples.map FilteredSample.isDropped) rfl ?_
    intro rejection before k member
    exact Rejection.step_dropped (List.mem_range.mp member) before

omit [Neg R] [LE R] [DecidableLE R] in
theorem applyEdgeExclusion_dropped (line : LineSamples R) (edgeExclusionMm : R) :
    (applyEdgeExclusion line edgeExclusionMm).samples.map FilteredSample.isDropped =
      (line.sM.zip line.zM).map fun point => Elementary.isnan point.2 := by
  unfold applyEdgeExclusion
  split
  next empty =>
    rw [empty]
    rfl
  next first rest nonempty =>
    rw [List.map_map]
    refine List.map_congr_left fun point member => ?_
    simp only [Function.comp_apply, FilteredSample.isDropped, edgeFlag]
    cases Elementary.isnan point.2 with
    | true => rfl
    | false =>
        rw [if_neg Bool.false_ne_true]
        split <;> rfl

end Filters

end Ssim.Analysis
