import Mathlib.Data.List.Sort
import Mathlib.Data.List.Perm.Basic

/-!
# Sorted lists by position

Values of a linear order in a sorted list are found, erased and inserted at
positions that count the values below.  Two sorted lists with the same values are
equal, so a list that is kept sorted is determined by its values alone.  In a list
sorted by a key the extremes are at the ends, and nothing lies between neighbours.
-/

namespace Ssim.Library.SortedLists

variable {α : Type*} [LinearOrder α]

/-- From the first value that is not below on, no value is below. -/
theorem le_of_mem_dropWhile {values : List α} (sorted : values.Pairwise (· ≤ ·)) {value other : α}
    (member : other ∈ values.dropWhile (· < value)) : value ≤ other := by
  induction values with
  | nil => cases member
  | cons first rest ih =>
      have ⟨least, ordered⟩ := List.pairwise_cons.mp sorted
      rw [List.dropWhile_cons] at member
      split at member
      · exact ih ordered member
      next notBelow =>
        have here : value ≤ first := by simpa using notBelow
        rcases List.mem_cons.mp member with rfl | later
        · exact here
        · exact le_trans here (least other later)

/-- Where the values below end, a value of the list is found. -/
theorem dropWhile_eq_cons {values : List α} (sorted : values.Pairwise (· ≤ ·)) {value : α}
    (member : value ∈ values) :
    ∃ rest, values.dropWhile (· < value) = value :: rest := by
  have inRest : value ∈ values.dropWhile (· < value) := by
    have split := List.takeWhile_append_dropWhile (p := (· < value)) (l := values)
    rw [← split] at member
    refine (List.mem_append.mp member).resolve_left fun below => ?_
    exact lt_irrefl value (by simpa using List.all_eq_true.mp List.all_takeWhile value below)
  cases rest : values.dropWhile (· < value) with
  | nil =>
      rw [rest] at inRest
      cases inRest
  | cons first others =>
      have least : value ≤ first :=
        le_of_mem_dropWhile sorted (by rw [rest]; exact List.mem_cons_self)
      have ordered : (first :: others).Pairwise (· ≤ ·) := by
        rw [← rest]
        exact sorted.sublist (List.dropWhile_sublist _)
      rw [rest] at inRest
      have most : first ≤ value := by
        rcases List.mem_cons.mp inRest with same | later
        · exact le_of_eq same.symm
        · exact (List.pairwise_cons.mp ordered).1 value later
      exact ⟨others, by rw [le_antisymm least most]⟩

/-- Erasing at the number of values below erases the value itself. -/
theorem erase_lower {values : List α} (sorted : values.Pairwise (· ≤ ·)) {value : α}
    (member : value ∈ values) :
    values[(values.takeWhile (· < value)).length]? = some value ∧
      values.Perm (value :: values.eraseIdx (values.takeWhile (· < value)).length) := by
  obtain ⟨rest, found⟩ := dropWhile_eq_cons sorted member
  have split : values = values.takeWhile (· < value) ++ value :: rest := by
    rw [← found, List.takeWhile_append_dropWhile]
  generalize values.takeWhile (· < value) = below at split ⊢
  subst split
  refine ⟨by simp, ?_⟩
  rw [List.eraseIdx_append_of_length_le (Nat.le_refl _), Nat.sub_self, List.eraseIdx_cons_zero]
  exact List.perm_middle

/-- Inserting behind the values that are not above keeps a list sorted. -/
theorem insert_upper {values : List α} (sorted : values.Pairwise (· ≤ ·)) (value : α) :
    (values.insertIdx (values.takeWhile fun other => !decide (value < other)).length
        value).Pairwise (· ≤ ·) ∧
      (values.insertIdx (values.takeWhile fun other => !decide (value < other)).length
        value).Perm (value :: values) := by
  have within : (values.takeWhile fun other => !decide (value < other)).length ≤ values.length :=
    (List.takeWhile_sublist _).length_le
  refine ⟨?_, List.perm_insertIdx value values within⟩
  clear within
  induction values with
  | nil => simp
  | cons first rest ih =>
      have ⟨least, ordered⟩ := List.pairwise_cons.mp sorted
      rw [List.takeWhile_cons]
      split
      next notAbove =>
        have here : first ≤ value := by simpa using notAbove
        rw [List.length_cons, List.insertIdx_succ_cons]
        refine List.pairwise_cons.mpr ⟨fun other member => ?_, ih ordered⟩
        have among := (List.perm_insertIdx value rest
          (List.takeWhile_sublist _).length_le).subset member
        rcases List.mem_cons.mp among with rfl | later
        · exact here
        · exact least other later
      next above =>
        have here : value ≤ first := le_of_lt (by simpa using above)
        rw [List.length_nil, List.insertIdx_zero]
        refine List.pairwise_cons.mpr ⟨fun other member => ?_, sorted⟩
        rcases List.mem_cons.mp member with rfl | later
        · exact here
        · exact le_trans here (least other later)

/-- A sorted list is determined by its values. -/
theorem eq_mergeSort {values others : List α} (sorted : values.Pairwise (· ≤ ·))
    (same : values.Perm others) : values = others.mergeSort := by
  have ordered : others.mergeSort.Pairwise (· ≤ ·) := List.pairwise_mergeSort' (· ≤ ·) others
  exact List.Perm.eq_of_pairwise' sorted ordered
    (same.trans (List.mergeSort_perm others _).symm)

section Keys

variable {ι : Type*} {key : ι → α} {items : List ι} {item : ι}
  (sorted : items.Pairwise fun first second => key first ≤ key second)
  (distinct : ∀ first ∈ items, ∀ second ∈ items, key first = key second → first = second)

include sorted distinct

theorem head?_of_least (member : item ∈ items) (least : ∀ other ∈ items, key item ≤ key other) :
    items.head? = some item := by
  cases items with
  | nil => cases member
  | cons first rest =>
      have before : key first ≤ key item := by
        obtain rfl | later := List.mem_cons.mp member
        · exact le_refl _
        · exact List.rel_of_pairwise_cons sorted later
      rw [List.head?_cons, distinct first List.mem_cons_self item member
        (le_antisymm before (least first List.mem_cons_self))]

theorem getLast?_of_greatest (member : item ∈ items)
    (greatest : ∀ other ∈ items, key other ≤ key item) : items.getLast? = some item := by
  obtain rfl | ⟨front, last, rfl⟩ := List.eq_nil_or_concat' items
  · cases member
  · have lastMem : last ∈ front ++ [last] := List.mem_append_right _ List.mem_cons_self
    have after : key item ≤ key last := by
      obtain before | same := List.mem_append.mp member
      · exact (List.pairwise_append.mp sorted).2.2 item before last List.mem_cons_self
      · rw [List.mem_singleton.mp same]
    rw [List.getLast?_concat, distinct last lastMem item member
      (le_antisymm (greatest last lastMem) after)]

omit distinct

/-- No key lies strictly between those of two neighbours. -/
theorem le_or_ge_of_neighbours {before after : List ι} {lo hi : ι}
    (split : items = before ++ lo :: hi :: after) (member : item ∈ items) :
    key item ≤ key lo ∨ key hi ≤ key item := by
  subst split
  obtain ⟨_, pair, across⟩ := List.pairwise_append.mp sorted
  obtain front | here := List.mem_append.mp member
  · exact .inl (across item front lo List.mem_cons_self)
  · obtain rfl | here := List.mem_cons.mp here
    · exact .inl (le_refl _)
    · obtain rfl | later := List.mem_cons.mp here
      · exact .inr (le_refl _)
      · exact .inr (List.rel_of_pairwise_cons (List.pairwise_cons.mp pair).2 later)

end Keys

end Ssim.Library.SortedLists
