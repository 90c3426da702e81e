import Ssim.Analysis.Filters
import Ssim.Library.SortedLists
import Mathlib.Data.List.GetD
import Mathlib.Algebra.Order.Ring.Rat

/-!
# The sliding window

In exact arithmetic the fast filter is the direct one.  The sorted window holds the
heights of the current range, because every leaving height is found where it is
erased and every entering one is put in its place; a sorted list is determined by its
values.  The two pointers of the deviation scan take the deviations in the order of
the merge of the two sides of the window.
-/

namespace Ssim.Analysis

open Library.SortedLists

section Direct

variable {R : Type} [Zero R] [Add R] [Sub R] [Mul R] [Div R] [Neg R] [NatCast R] [OfScientific R]
  [LT R] [DecidableLT R] [LE R] [DecidableLE R]

/-! ## The direct definition -/

/-- The median of any values: sort them and take the middle. -/
def median (values : List R) : R :=
  sortedMedian values.mergeSort

/-- The kept heights around the one at `k`. -/
def heightsAround (keptZ : List R) (radius k : Nat) : List R :=
  (keptZ.take (k + radius + 1)).drop (k - radius)

/-- The window is rebuilt, and the deviations of all its heights are sorted. -/
def directExceeds (keptZ : List R) (madK : R) (radius k : Nat) (z : R) : Bool :=
  let window := heightsAround keptZ radius k
  let med := median window
  let mad := median (window.map fun other => absolute (other - med))
  0 < madK * mad && madK * mad < absolute (z - med)

/-- How many kept samples come before. -/
def keptBefore (samples : List (FilteredSample R)) (i : Nat) : Nat :=
  (samples.take i).countP (·.flag = .kept)

/-- The direct definition of outlier rejection, sample by sample. -/
def directOutlierRejection (input : FilterResult R) (madK : R) (windowRadiusSamples : Int) :
    FilterResult R :=
  let keptZ := (input.samples.filter (·.flag = .kept)).map (·.zM)
  let radius := (max 1 windowRadiusSamples).toNat
  if keptZ.length < 2 then
    input
  else
    input.recount (input.samples.mapIdx fun i sample =>
      if sample.flag = .kept ∧
          directExceeds keptZ madK radius (keptBefore input.samples i) sample.zM then
        flagOutlier sample
      else
        sample)

end Direct

set_option linter.unusedSectionVars false

section Exact

variable {R : Type} [Field R] [LinearOrder R] [IsStrictOrderedRing R]

/-! ## The deviation scan -/

namespace DeviationScan

variable (sorted : List R) (med : R)

/-- The deviations still to be taken on the left, the nearest first. -/
def leftDeviations (scan : DeviationScan R) : List R :=
  ((sorted.take scan.left).map (med - ·)).reverse

def rightDeviations (scan : DeviationScan R) : List R :=
  (sorted.drop scan.right).map (· - med)

/-- What the scan will take, in this order. -/
def remaining (scan : DeviationScan R) : List R :=
  (scan.leftDeviations sorted med).merge (scan.rightDeviations sorted med)

variable {sorted med}

theorem leftDeviations_pos {scan : DeviationScan R} (positive : 0 < scan.left)
    (within : scan.left ≤ sorted.length) :
    scan.leftDeviations sorted med =
      (med - sorted.getD (scan.left - 1) 0) ::
        ({ scan with left := scan.left - 1 } : DeviationScan R).leftDeviations sorted med := by
  obtain ⟨left, same⟩ : ∃ left, scan.left = left + 1 := ⟨scan.left - 1, by omega⟩
  have inside : left < sorted.length := by omega
  simp only [leftDeviations, same, Nat.add_sub_cancel]
  rw [List.take_succ_eq_append_getElem inside, List.map_append, List.reverse_append,
    List.getD_eq_getElem _ _ inside]
  rfl

theorem rightDeviations_lt {scan : DeviationScan R} (inside : scan.right < sorted.length) :
    scan.rightDeviations sorted med =
      (sorted.getD scan.right 0 - med) ::
        ({ scan with right := scan.right + 1 } : DeviationScan R).rightDeviations sorted med := by
  simp only [rightDeviations]
  rw [List.drop_eq_getElem_cons inside, List.map_cons, List.getD_eq_getElem _ _ inside]

theorem take_left {scan : DeviationScan R} (positive : 0 < scan.left)
    (chosen : scan.right < sorted.length →
      med - sorted.getD (scan.left - 1) 0 ≤ sorted.getD scan.right 0 - med) :
    scan.take sorted med =
      { scan with
        left := scan.left - 1
        previous := scan.current
        current := med - sorted.getD (scan.left - 1) 0 } := by
  unfold take
  by_cases inside : scan.right < sorted.length
  · simp only [positive, inside, chosen inside, decide_true, if_true, or_true, and_self]
  · simp only [positive, inside, decide_true, decide_false, Bool.not_false, if_true,
      true_or, and_self]

theorem take_right {scan : DeviationScan R} (inside : scan.right < sorted.length)
    (chosen : 0 < scan.left →
      ¬ med - sorted.getD (scan.left - 1) 0 ≤ sorted.getD scan.right 0 - med) :
    scan.take sorted med =
      { scan with
        right := scan.right + 1
        previous := scan.current
        current := sorted.getD scan.right 0 - med } := by
  unfold take
  by_cases positive : 0 < scan.left
  · simp only [positive, inside, chosen positive, decide_true, if_true, Bool.not_true,
      Bool.false_eq_true, or_self, and_false, if_false]
  · simp only [positive, inside, decide_true, decide_false, if_true, Bool.false_eq_true,
      false_and, if_false]

/-- One step takes the first of the remaining deviations. -/
theorem take_remaining {scan : DeviationScan R} (within : scan.left ≤ sorted.length)
    {next : R} {rest : List R} (first : scan.remaining sorted med = next :: rest) :
    (scan.take sorted med).remaining sorted med = rest ∧
      (scan.take sorted med).current = next ∧
      (scan.take sorted med).previous = scan.current ∧
      (scan.take sorted med).left ≤ sorted.length := by
  have lower : scan.left - 1 ≤ sorted.length := by omega
  unfold remaining at first
  by_cases positive : 0 < scan.left
  · have lefts : scan.leftDeviations sorted med = _ := leftDeviations_pos positive within
    by_cases inside : scan.right < sorted.length
    · have rights : scan.rightDeviations sorted med = _ := rightDeviations_lt inside
      by_cases order : med - sorted.getD (scan.left - 1) 0 ≤ sorted.getD scan.right 0 - med
      · rw [lefts, rights, List.cons_merge_cons_pos _ _ _ (by simpa using order), ← rights] at first
        obtain ⟨rfl, rfl⟩ := List.cons.inj first
        rw [take_left positive fun _ => order]
        exact ⟨rfl, rfl, rfl, lower⟩
      · rw [lefts, rights, List.cons_merge_cons_neg _ _ _ (by simpa using order), ← lefts] at first
        obtain ⟨rfl, rfl⟩ := List.cons.inj first
        rw [take_right inside fun _ => order]
        exact ⟨rfl, rfl, rfl, within⟩
    · have none : scan.rightDeviations sorted med = [] := by
        rw [rightDeviations, List.drop_eq_nil_of_le (Nat.not_lt.mp inside), List.map_nil]
      rw [lefts, none, List.merge_right] at first
      obtain ⟨rfl, rfl⟩ := List.cons.inj first
      rw [take_left positive fun within => absurd within inside]
      refine ⟨?_, rfl, rfl, lower⟩
      change List.merge _ (scan.rightDeviations sorted med) _ = _
      rw [none, List.merge_right]
      rfl
  · have none : scan.leftDeviations sorted med = [] := by
      rw [leftDeviations, Nat.eq_zero_of_not_pos positive]
      rfl
    rw [none, List.nil_merge] at first
    have inside : scan.right < sorted.length := by
      by_contra outside
      rw [rightDeviations, List.drop_eq_nil_of_le (Nat.not_lt.mp outside)] at first
      cases first
    rw [rightDeviations_lt inside] at first
    obtain ⟨rfl, rfl⟩ := List.cons.inj first
    rw [take_right inside fun some => absurd some positive]
    refine ⟨?_, rfl, rfl, within⟩
    change List.merge (scan.leftDeviations sorted med) _ _ = _
    rw [none, List.nil_merge]
    rfl

/-- After some steps the last two deviations taken are the last two so far in the merge. -/
theorem iterate_take {scan : DeviationScan R} (within : scan.left ≤ sorted.length) {steps : Nat}
    (enough : steps ≤ (scan.remaining sorted med).length) :
    ((take sorted med)^[steps] scan).remaining sorted med =
        (scan.remaining sorted med).drop steps ∧
      (0 < steps → ((take sorted med)^[steps] scan).current =
        (scan.remaining sorted med).getD (steps - 1) 0) ∧
      (1 < steps → ((take sorted med)^[steps] scan).previous =
        (scan.remaining sorted med).getD (steps - 2) 0) ∧
      ((take sorted med)^[steps] scan).left ≤ sorted.length := by
  induction steps with
  | zero =>
      exact ⟨rfl, fun none => absurd none (by omega), fun none => absurd none (by omega), within⟩
  | succ steps ih =>
      obtain ⟨left, current, _, inside⟩ := ih (by omega)
      have next : steps < (scan.remaining sorted med).length := by omega
      rw [List.drop_eq_getElem_cons next] at left
      obtain ⟨rest, taken, before, stays⟩ := take_remaining inside left
      rw [Function.iterate_succ_apply']
      refine ⟨rest, fun _ => ?_, fun several => ?_, stays⟩
      · rw [taken, Nat.add_sub_cancel, List.getD_eq_getElem _ _ next]
      · rw [before, current (by omega)]
        rfl

end DeviationScan

/-- The two sides of a sorted window, merged, are its absolute deviations in order. -/
theorem remaining_eq_mergeSort {sorted : List R} (ordered : sorted.Pairwise (· ≤ ·)) (med : R) :
    (⟨lowerBound sorted med, lowerBound sorted med, 0, 0⟩ : DeviationScan R).remaining sorted med =
      (sorted.map fun other => absolute (other - med)).mergeSort := by
  have below : sorted.take (lowerBound sorted med) = sorted.takeWhile (· < med) :=
    (List.prefix_iff_eq_take.mp (List.takeWhile_prefix _)).symm
  have above : sorted.drop (lowerBound sorted med) = sorted.dropWhile (· < med) := by
    have whole := List.take_append_drop (lowerBound sorted med) sorted
    rw [below] at whole
    exact List.append_cancel_left (whole.trans List.takeWhile_append_dropWhile.symm)
  unfold DeviationScan.remaining DeviationScan.leftDeviations DeviationScan.rightDeviations
  dsimp only
  rw [below, above]
  refine eq_mergeSort (List.Pairwise.merge ?_ ?_) ?_
  · rw [List.pairwise_reverse, List.pairwise_map]
    exact (ordered.sublist (List.takeWhile_sublist _)).imp fun order => sub_le_sub_left order med
  · rw [List.pairwise_map]
    exact (ordered.sublist (List.dropWhile_sublist _)).imp fun order => sub_le_sub_right order med
  · have left : (sorted.takeWhile (· < med)).map (med - ·) =
        (sorted.takeWhile (· < med)).map fun other => absolute (other - med) := by
      refine List.map_congr_left fun other member => ?_
      have smaller : other < med := by
        simpa using List.all_eq_true.mp List.all_takeWhile other member
      rw [absolute, if_pos (sub_neg.mpr smaller), neg_sub]
    have right : (sorted.dropWhile (· < med)).map (· - med) =
        (sorted.dropWhile (· < med)).map fun other => absolute (other - med) := by
      refine List.map_congr_left fun other member => ?_
      have larger : ¬ other - med < 0 := by
        simpa using le_of_mem_dropWhile ordered member
      rw [absolute, if_neg larger]
    refine (List.merge_perm_append _).trans ?_
    rw [left, right]
    refine ((List.reverse_perm _).append_right _).trans ?_
    rw [← List.map_append, List.takeWhile_append_dropWhile]

theorem median_perm {values others : List R} (same : values.Perm others) :
    median values = median others := by
  unfold median
  rw [eq_mergeSort (List.pairwise_mergeSort' (· ≤ ·) values)
    ((List.mergeSort_perm values _).trans same)]

/-- On a sorted window the scan computes the median of the absolute deviations. -/
theorem medianAbsDeviation_eq {sorted : List R} (ordered : sorted.Pairwise (· ≤ ·))
    (nonempty : sorted ≠ []) (med : R) :
    medianAbsDeviation sorted med = median (sorted.map fun other => absolute (other - med)) := by
  have merged := remaining_eq_mergeSort ordered med
  have size : (DeviationScan.remaining sorted med
      ⟨lowerBound sorted med, lowerBound sorted med, 0, 0⟩).length = sorted.length := by
    rw [merged, List.length_mergeSort, List.length_map]
  have positive : 0 < sorted.length := List.length_pos_iff.mpr nonempty
  have within : lowerBound sorted med ≤ sorted.length := (List.takeWhile_sublist _).length_le
  obtain ⟨_, current, previous, _⟩ := @DeviationScan.iterate_take R _ _ _ sorted med
    ⟨lowerBound sorted med, lowerBound sorted med, 0, 0⟩ within (sorted.length / 2 + 1)
    (by rw [size]; omega)
  unfold medianAbsDeviation median sortedMedian
  dsimp only
  rw [← merged, size]
  split
  next even =>
    rw [current (by omega), previous (by omega)]
    rfl
  · rw [current (by omega)]
    rfl

/-! ## The window -/

namespace Window

variable {keptZ : List R}

/-- The heights of a range of positions. -/
def segment (keptZ : List R) (lo stop : Nat) : List R :=
  (keptZ.take stop).drop lo

/-- The window holds the heights of its range, in order. -/
structure Holds (keptZ : List R) (window : Window R) : Prop where
  ordered : window.sorted.Pairwise (· ≤ ·)
  values : window.sorted.Perm (segment keptZ window.lo window.stop)
  range : window.lo ≤ window.stop
  inside : window.stop ≤ keptZ.length

theorem holds_fresh : (fresh : Window R).Holds keptZ :=
  ⟨.nil, by simp [fresh, segment], Nat.le_refl _, Nat.zero_le _⟩

/-- The leaving height is in the window, where the search for it ends. -/
def FindsLeaving (keptZ : List R) (window : Window R) : Prop :=
  ∃ leaving, keptZ[window.lo]? = some leaving ∧
    window.sorted[lowerBound window.sorted leaving]? = some leaving

theorem segment_first {lo stop : Nat} (nonempty : lo < stop) (inside : stop ≤ keptZ.length) :
    segment keptZ lo stop = keptZ.getD lo 0 :: segment keptZ (lo + 1) stop := by
  have within : lo < (keptZ.take stop).length := by
    rw [List.length_take]
    omega
  rw [segment, List.drop_eq_getElem_cons within, List.getElem_take,
    List.getD_eq_getElem _ _ (by omega)]
  rfl

theorem segment_last {lo stop : Nat} (range : lo ≤ stop) (inside : stop < keptZ.length) :
    segment keptZ lo (stop + 1) = segment keptZ lo stop ++ [keptZ.getD stop 0] := by
  rw [segment, List.take_succ_eq_append_getElem inside, List.drop_append_of_le_length
    (by rw [List.length_take]; omega), List.getD_eq_getElem _ _ inside]
  rfl

theorem Holds.leave {window : Window R} (holds : window.Holds keptZ)
    (nonempty : window.lo < window.stop) :
    (window.leave keptZ).Holds keptZ ∧ window.FindsLeaving keptZ := by
  have first := segment_first nonempty holds.inside
  have member : keptZ.getD window.lo 0 ∈ window.sorted := by
    rw [holds.values.mem_iff, first]
    exact List.mem_cons_self
  have inside : window.lo < keptZ.length := Nat.lt_of_lt_of_le nonempty holds.inside
  obtain ⟨found, same⟩ := erase_lower holds.ordered member
  refine ⟨⟨?_, ?_, nonempty, holds.inside⟩, keptZ.getD window.lo 0, ?_, found⟩
  · exact holds.ordered.sublist (List.eraseIdx_sublist _ _)
  · refine List.Perm.cons_inv ((same.symm.trans holds.values).trans (.of_eq first))
  · rw [List.getD_eq_getElem _ _ inside, List.getElem?_eq_getElem inside]

theorem Holds.enter {window : Window R} (holds : window.Holds keptZ)
    (room : window.stop < keptZ.length) : (window.enter keptZ).Holds keptZ := by
  obtain ⟨ordered, same⟩ := insert_upper holds.ordered (keptZ.getD window.stop 0)
  refine ⟨ordered, ?_, Nat.le_succ_of_le holds.range, room⟩
  refine same.trans ?_
  change (_ :: window.sorted).Perm (segment keptZ window.lo (window.stop + 1))
  rw [segment_last holds.range room]
  exact (holds.values.cons _).trans (List.perm_append_singleton _ _).symm

/-- While the range is not empty, heights leave one after the other, and each is found. -/
theorem Holds.leaves {window : Window R} (holds : window.Holds keptZ) {count : Nat}
    (enough : window.lo + count ≤ window.stop) :
    ((Window.leave keptZ)^[count] window).Holds keptZ ∧
      ((Window.leave keptZ)^[count] window).lo = window.lo + count ∧
      ((Window.leave keptZ)^[count] window).stop = window.stop ∧
      ∀ done < count, ((Window.leave keptZ)^[done] window).FindsLeaving keptZ := by
  induction count with
  | zero => exact ⟨holds, rfl, rfl, fun done none => absurd none (Nat.not_lt_zero _)⟩
  | succ count ih =>
      obtain ⟨before, lo, stop, found⟩ := ih (by omega)
      obtain ⟨after, here⟩ := before.leave (by omega)
      rw [Function.iterate_succ_apply']
      refine ⟨after, by rw [Window.leave, lo]; rfl, stop, fun done earlier => ?_⟩
      rcases Nat.lt_succ_iff_lt_or_eq.mp earlier with sooner | rfl
      · exact found done sooner
      · exact here

theorem Holds.enters {window : Window R} (holds : window.Holds keptZ) {count : Nat}
    (enough : window.stop + count ≤ keptZ.length) :
    ((Window.enter keptZ)^[count] window).Holds keptZ ∧
      ((Window.enter keptZ)^[count] window).lo = window.lo ∧
      ((Window.enter keptZ)^[count] window).stop = window.stop + count := by
  induction count with
  | zero => exact ⟨holds, rfl, rfl⟩
  | succ count ih =>
      obtain ⟨before, lo, stop⟩ := ih (by omega)
      rw [Function.iterate_succ_apply']
      exact ⟨before.enter (by omega), lo, by rw [Window.enter, stop]; rfl⟩

/-- Where the window stands before the height at `k` is looked at. -/
structure At (keptZ : List R) (radius k : Nat) (window : Window R) : Prop extends
    window.Holds keptZ where
  lo_eq : window.lo = k - 1 - radius
  stop_eq : window.stop = if k = 0 then 0 else min keptZ.length (k + radius)

theorem At.slide {radius k : Nat} {window : Window R} (before : window.At keptZ radius k)
    (inside : k < keptZ.length) :
    (window.slide keptZ radius k).At keptZ radius (k + 1) ∧
      ∀ done < k - radius - window.lo, ((Window.leave keptZ)^[done] window).FindsLeaving keptZ := by
  have lower : (if k > radius then k - radius else 0) = k - radius := by
    split <;> omega
  have loBefore := before.lo_eq
  have stopBefore := before.stop_eq
  have room : window.lo + (k - radius - window.lo) ≤ window.stop := by
    split at stopBefore <;> omega
  obtain ⟨left, lo, stop, found⟩ := before.toHolds.leaves room
  have space : ((Window.leave keptZ)^[k - radius - window.lo] window).stop +
      (min keptZ.length (k + radius + 1) -
        ((Window.leave keptZ)^[k - radius - window.lo] window).stop) ≤ keptZ.length := by
    rw [stop]
    have := before.inside
    omega
  obtain ⟨done, finalLo, finalStop⟩ := left.enters space
  unfold Window.slide
  dsimp only
  rw [lower]
  refine ⟨⟨done, ?_, ?_⟩, found⟩
  · rw [finalLo, lo]
    omega
  · rw [finalStop, stop, if_neg (by omega)]
    split at stopBefore <;> omega

/-- The window that the height at `k` is compared with. -/
theorem At.sorted_eq {radius k : Nat} {window : Window R}
    (here : window.At keptZ radius (k + 1)) :
    window.sorted = (heightsAround keptZ radius k).mergeSort := by
  have values := here.values
  rw [here.lo_eq, here.stop_eq, if_neg (by omega)] at values
  refine eq_mergeSort here.ordered (values.trans (.of_eq ?_))
  rw [segment, heightsAround, Nat.add_sub_cancel]
  congr 1
  rcases Nat.le_total keptZ.length (k + 1 + radius) with short | long
  · rw [Nat.min_eq_left short, List.take_length, List.take_of_length_le (by omega)]
  · rw [Nat.min_eq_right long]
    congr 1
    omega

end Window

/-! ## The kept samples -/

section Kept

variable {R : Type}

theorem keptSamples_fst (samples : List (FilteredSample R)) :
    (keptSamples samples).map (·.1) = samples.filter (·.flag = .kept) := by
  have split : samples.filter (·.flag = .kept) =
      (samples.zipIdx.map Prod.fst).filter (·.flag = .kept) := by rw [List.zipIdx_map_fst]
  rw [split, List.filter_map]
  rfl

/-- A kept sample stands where as many kept ones come before it. -/
theorem keptSamples_at {samples : List (FilteredSample R)} {i : Nat} {sample : FilteredSample R}
    (found : samples[i]? = some sample) (kept : sample.flag = .kept) :
    (keptSamples samples)[keptBefore samples i]? = some (sample, i) := by
  have inside : i < samples.zipIdx.length := by
    rw [List.length_zipIdx]
    exact (List.getElem?_eq_some_iff.mp found).1
  have here : samples.zipIdx[i]? = some (sample, i) := by
    rw [List.getElem?_zipIdx, found, Option.map_some, Nat.zero_add]
  have front : (samples.zipIdx.take i).map Prod.fst = samples.take i := by
    rw [List.map_take, List.zipIdx_map_fst]
  have before : ((samples.zipIdx.take i).filter (·.1.flag = .kept)).length =
      keptBefore samples i := by
    rw [← List.countP_eq_length_filter, keptBefore, ← front, List.countP_map]
    rfl
  have split : keptSamples samples = (samples.zipIdx.take i).filter (·.1.flag = .kept) ++
      (sample, i) :: (samples.zipIdx.drop (i + 1)).filter (·.1.flag = .kept) := by
    rw [← List.filter_cons_of_pos (by simpa using kept), ← List.filter_append,
      ← Option.some.inj ((List.getElem?_eq_getElem inside).symm.trans here),
      ← List.drop_eq_getElem_cons inside, List.take_append_drop]
    rfl
  rw [split, List.getElem?_append_right (by rw [before]), before, Nat.sub_self,
    List.getElem?_cons_zero]

theorem eq_keptBefore {samples : List (FilteredSample R)} {i j : Nat} {sample : FilteredSample R}
    (found : (keptSamples samples)[j]? = some (sample, i)) :
    samples[i]? = some sample ∧ sample.flag = .kept ∧ j = keptBefore samples i := by
  have member := List.mem_filter.mp (List.mem_of_getElem? found)
  have here : samples[i]? = some sample := List.mk_mem_zipIdx_iff_getElem?.mp member.1
  have kept : sample.flag = .kept := by simpa using member.2
  refine ⟨here, kept, ?_⟩
  -- No index occurs twice, so the two places are one.
  have distinct : ((keptSamples samples).map (·.2)).Nodup := by
    have all : (samples.zipIdx.map (·.2)).Nodup := by
      rw [show samples.zipIdx.map (·.2) = _ from List.zipIdx_map_snd 0 samples]
      exact List.nodup_range'
    exact all.sublist (List.filter_sublist.map _)
  have alsoHere := keptSamples_at here kept
  refine (List.getElem?_inj ?_ distinct).mp ?_
  · rw [List.length_map]
    exact (List.getElem?_eq_some_iff.mp found).1
  · rw [List.getElem?_map, List.getElem?_map, found, alsoHere]

end Kept

/-! ## The whole sweep -/

section Sweep

variable (samples : List (FilteredSample R)) (madK : R) (radius : Nat)

/-- The heights of the kept samples, in their order. -/
def keptHeights : List R :=
  (keptSamples samples).map (·.1.zM)

/-- The state of the sweep before the kept sample number `k` is looked at. -/
def rejectionBefore (k : Nat) : Rejection R :=
  (List.range k).foldl (Rejection.step ((keptSamples samples).map (·.2)) (keptHeights samples) madK
    radius) ⟨.fresh, samples⟩

theorem rejectionBefore_succ (k : Nat) :
    rejectionBefore samples madK radius (k + 1) =
      (rejectionBefore samples madK radius k).step ((keptSamples samples).map (·.2))
        (keptHeights samples) madK radius k := by
  rw [rejectionBefore, List.range_succ, List.foldl_append]
  rfl

theorem rejectionBefore_window {k : Nat} (within : k ≤ (keptSamples samples).length) :
    (rejectionBefore samples madK radius k).window.At (keptHeights samples) radius k := by
  induction k with
  | zero => exact ⟨Window.holds_fresh, by rw [Nat.zero_sub]; rfl, rfl⟩
  | succ k ih =>
      rw [rejectionBefore_succ]
      exact ((ih (by omega)).slide (by rw [keptHeights, List.length_map]; omega)).1

/-- The step looks at the window that the direct definition builds. -/
theorem exceeds_eq_direct {k : Nat} (inside : k < (keptSamples samples).length) (z : R) :
    let window :=
      (rejectionBefore samples madK radius k).window.slide (keptHeights samples) radius k
    exceeds madK z (sortedMedian window.sorted)
        (medianAbsDeviation window.sorted (sortedMedian window.sorted)) =
      directExceeds (keptHeights samples) madK radius k z := by
  have length : k < (keptHeights samples).length := by rwa [keptHeights, List.length_map]
  have here := ((rejectionBefore_window samples madK radius (Nat.le_of_lt inside)).slide length).1
  have nonempty : (heightsAround (keptHeights samples) radius k).mergeSort ≠ [] := by
    rw [← List.length_pos_iff, List.length_mergeSort, heightsAround, List.length_drop,
      List.length_take]
    omega
  dsimp only
  have ordered := here.ordered
  rw [here.sorted_eq] at ordered ⊢
  rw [medianAbsDeviation_eq ordered nonempty]
  have same : median ((heightsAround (keptHeights samples) radius k).mergeSort.map fun other =>
        absolute (other - sortedMedian (heightsAround (keptHeights samples) radius k).mergeSort)) =
      median ((heightsAround (keptHeights samples) radius k).map fun other =>
        absolute (other - median (heightsAround (keptHeights samples) radius k))) := by
    exact median_perm ((List.mergeSort_perm _ _).map _)
  rw [same]
  rfl

/-- Whether the kept sample number `j` is the one at index `i` and too far from its median. -/
def rejectsAt (i j : Nat) : Bool :=
  match (keptSamples samples)[j]? with
  | some (sample, index) =>
      index = i && directExceeds (keptHeights samples) madK radius j sample.zM
  | none => false

theorem rejectionBefore_samples {k : Nat} (within : k ≤ (keptSamples samples).length) (i : Nat) :
    (rejectionBefore samples madK radius k).samples[i]? = samples[i]?.map fun sample =>
      if (List.range k).any (rejectsAt samples madK radius i) then flagOutlier sample
      else sample := by
  induction k with
  | zero =>
      rw [rejectionBefore]
      simp
  | succ k ih =>
      have inside : k < (keptSamples samples).length := by omega
      obtain ⟨⟨sample, index⟩, found⟩ : ∃ entry, (keptSamples samples)[k]? = some entry :=
        ⟨_, List.getElem?_eq_getElem inside⟩
      have height : (keptHeights samples).getD k 0 = sample.zM := by
        rw [List.getD_eq_getElem?_getD, keptHeights, List.getElem?_map, found]
        rfl
      have place : ((keptSamples samples).map (·.2)).getD k 0 = index := by
        rw [List.getD_eq_getElem?_getD, List.getElem?_map, found]
        rfl
      have direct := exceeds_eq_direct samples madK radius inside sample.zM
      dsimp only at direct
      rw [rejectionBefore_succ, Rejection.step]
      dsimp only
      rw [height, place, direct, List.range_succ, List.any_append, List.any_cons, List.any_nil,
        Bool.or_false]
      have last : rejectsAt samples madK radius i k =
          (decide (index = i) && directExceeds (keptHeights samples) madK radius k sample.zM) := by
        rw [rejectsAt, found]
      rw [last]
      have before := ih (by omega)
      cases directExceeds (keptHeights samples) madK radius k sample.zM with
      | false => simpa using before
      | true =>
          rw [if_pos rfl, List.getElem?_modify, before, Bool.and_true]
          by_cases same : index = i
          · cases samples[i]? with
            | none => rfl
            | some other =>
                simp only [same, if_true, decide_true, Bool.or_true, Option.map_some]
                split <;> rfl
          · simp [same]

/-- A sample is flagged exactly if it is kept and the direct definition flags it. -/
theorem any_rejectsAt {i : Nat} {sample : FilteredSample R} (found : samples[i]? = some sample) :
    (List.range (keptSamples samples).length).any (rejectsAt samples madK radius i) = true ↔
      sample.flag = .kept ∧
        directExceeds (keptHeights samples) madK radius (keptBefore samples i) sample.zM =
          true := by
  rw [List.any_eq_true]
  constructor
  · rintro ⟨j, _, rejected⟩
    unfold rejectsAt at rejected
    split at rejected
    next other index here =>
      simp only [Bool.and_eq_true, decide_eq_true_eq] at rejected
      obtain ⟨rfl, exceeded⟩ := rejected
      obtain ⟨alsoFound, kept, rfl⟩ := eq_keptBefore here
      obtain rfl := Option.some.inj (found.symm.trans alsoFound)
      exact ⟨kept, exceeded⟩
    · cases rejected
  · rintro ⟨kept, exceeded⟩
    have here := keptSamples_at found kept
    refine ⟨keptBefore samples i, List.mem_range.mpr (List.getElem?_eq_some_iff.mp here).1, ?_⟩
    simp [rejectsAt, here, exceeded]

theorem rejectionBefore_eq_direct :
    (rejectionBefore samples madK radius (keptSamples samples).length).samples =
      samples.mapIdx fun i sample =>
        if sample.flag = .kept ∧
            directExceeds (keptHeights samples) madK radius (keptBefore samples i) sample.zM then
          flagOutlier sample
        else
          sample := by
  refine List.ext_getElem? fun i => ?_
  rw [rejectionBefore_samples samples madK radius (Nat.le_refl _), List.getElem?_mapIdx]
  cases found : samples[i]? with
  | none => rfl
  | some sample =>
      simp only [Option.map_some, any_rejectsAt samples madK radius found]

end Sweep

/--
The fast outlier filter is the direct one.  In exact arithmetic, for every input, factor
and radius, the sliding window gives the result of the direct definition; every
height that leaves the window is found where it is erased; and samples that were not
kept are as they were.
-/
theorem outlier_rejection_eq_direct (input : FilterResult R) (madK : R)
    (windowRadiusSamples : Int) :
    applyOutlierRejection input madK windowRadiusSamples =
        directOutlierRejection input madK windowRadiusSamples ∧
      (∀ k < (keptSamples input.samples).length,
        let radius := (max 1 windowRadiusSamples).toNat
        let window := (rejectionBefore input.samples madK radius k).window
        ∀ done < k - radius - window.lo,
          ((Window.leave (keptHeights input.samples))^[done] window).FindsLeaving
            (keptHeights input.samples)) ∧
      ∀ (i : Nat) (sample : FilteredSample R), input.samples[i]? = some sample →
        sample.flag ≠ .kept →
          (applyOutlierRejection input madK windowRadiusSamples).samples[i]? = some sample := by
  have heights : (input.samples.filter (·.flag = .kept)).map (·.zM) =
      keptHeights input.samples := by
    rw [← keptSamples_fst, List.map_map]
    rfl
  have length : (keptHeights input.samples).length = (keptSamples input.samples).length :=
    List.length_map _
  have same : applyOutlierRejection input madK windowRadiusSamples =
      directOutlierRejection input madK windowRadiusSamples := by
    unfold applyOutlierRejection directOutlierRejection
    dsimp only
    rw [heights, length, ← rejectionBefore_eq_direct input.samples madK]
    rfl
  refine ⟨same, fun k inside => ?_, fun i sample found removed => ?_⟩
  · exact ((rejectionBefore_window input.samples madK _ (Nat.le_of_lt inside)).slide
      (by rwa [length])).2
  · rw [same, directOutlierRejection]
    split
    · exact found
    · rw [FilterResult.recount, List.getElem?_mapIdx, found]
      simp [removed]

end Exact

/-- One spike among small heights, and one sample that was not kept before. -/
def spikedLine : FilterResult ℚ where
  angleRad := 0
  samples := [⟨0, 1, .kept⟩, ⟨1, 2, .kept⟩, ⟨2, 7, .edgeExcluded⟩, ⟨3, 1, .kept⟩, ⟨4, 90, .kept⟩,
    ⟨5, 2, .kept⟩, ⟨6, 1, .kept⟩, ⟨7, 2, .kept⟩]
  removedCount := 1
  removedFraction := 1 / 8

/-- The direct definition flags the spike, because the fast filter does. -/
theorem outlier_rejection_eq_direct_spike :
    (directOutlierRejection spikedLine 3 2).samples.map (·.flag) =
      [.kept, .kept, .edgeExcluded, .kept, .outlier, .kept, .kept, .kept] := by
  have same := (outlier_rejection_eq_direct spikedLine 3 2).1
  rw [← same]
  decide +kernel

end Ssim.Analysis
