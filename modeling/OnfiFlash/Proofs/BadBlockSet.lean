import Mathlib.Data.Finset.Card
import Mathlib.Data.List.Sort
import OnfiFlash.BadBlock.Table

/-! A table of bad blocks is a set. Its list is what is left of the given blocks once they are
sorted and repetitions are dropped, and in such a list a search by halves finds exactly what is
listed. -/
namespace OnfiFlash

section Search

variable {numbers : Array Nat} {number : Nat}

/-- The smaller of two numbers stands first. -/
theorem place_lt_place (ascending : numbers.toList.Pairwise (· < ·)) {first second : Nat}
    (firstWithin : first < numbers.size) (secondWithin : second < numbers.size)
    (smaller : numbers[first] < numbers[second]) : first < second := by
  refine Nat.lt_of_not_le fun behind => ?_
  rcases Nat.eq_or_lt_of_le behind with rfl | before
  · exact Nat.lt_irrefl _ smaller
  · have larger := List.pairwise_iff_getElem.mp ascending _ _ secondWithin firstWithin before
    simp only [Array.getElem_toList] at larger
    exact Nat.lt_asymm smaller larger

/-- By the recursion of the search: the number is in no part that is left out. -/
theorem binSearchAux_iff (ascending : numbers.toList.Pairwise (· < ·))
    (low : Fin (numbers.size + 1)) (high : Fin numbers.size) (ordered : low.1 ≤ high.1) :
    Array.binSearchAux (fun a b => decide (a < b)) Option.isSome numbers number low high ordered
        = true ↔
      ∃ place, ∃ within : place < numbers.size,
        low.1 ≤ place ∧ place ≤ high.1 ∧ numbers[place] = number := by
  have follows {middle place : Nat} (middleWithin : middle < numbers.size)
      (below : decide (numbers[middle] < number) = true) (within : place < numbers.size)
      (same : numbers[place] = number) : middle < place :=
    place_lt_place ascending middleWithin within (same ▸ of_decide_eq_true below)
  have precedes {middle place : Nat} (middleWithin : middle < numbers.size)
      (above : decide (number < numbers[middle]) = true) (within : place < numbers.size)
      (same : numbers[place] = number) : place < middle :=
    place_lt_place ascending within middleWithin (same ▸ of_decide_eq_true above)
  fun_induction Array.binSearchAux (fun a b => decide (a < b)) Option.isSome numbers number
    low high ordered with
  | case1 low high ordered middle found below more _ ih =>
    refine Iff.trans ih ?_
    constructor
    · rintro ⟨place, within, start, stop, same⟩
      exact ⟨place, within, by simp only at start; omega, stop, same⟩
    · rintro ⟨place, within, -, stop, same⟩
      exact ⟨place, within, follows _ below within same, stop, same⟩
  | case2 low high ordered middle found below last _ =>
    refine iff_of_false nofun ?_
    rintro ⟨place, within, -, stop, same⟩
    have behind := follows _ below within same
    omega
  | case3 low high ordered middle found _ above first _ =>
    refine iff_of_false nofun ?_
    rintro ⟨place, within, start, -, same⟩
    have before := precedes _ above within same
    omega
  | case4 low high ordered middle found _ above more _ ih =>
    refine Iff.trans ih ?_
    constructor
    · rintro ⟨place, within, start, stop, same⟩
      exact ⟨place, within, start, by simp only at stop; omega, same⟩
    · rintro ⟨place, within, start, -, same⟩
      have before := precedes _ above within same
      exact ⟨place, within, start, by simp only; omega, same⟩
  | case5 low high ordered middle found below above _ =>
    have same : found = number := by
      simp only [decide_eq_true_eq] at below above
      omega
    exact iff_of_true rfl ⟨middle, _, by omega, by omega, same⟩

/-- In an ascending list the search finds exactly what is listed. -/
theorem binSearchContains_iff {blocks : List Nat} (ascending : blocks.Pairwise (· < ·))
    {block : Nat} :
    blocks.toArray.binSearchContains block (fun a b => decide (a < b)) = true ↔
      block ∈ blocks := by
  rw [List.mem_iff_getElem]
  unfold Array.binSearchContains
  by_cases listed : 0 < blocks.toArray.size
  · have last : blocks.toArray.size - 1 < blocks.toArray.size := Nat.sub_one_lt_of_lt listed
    simp only [listed, last, dite_true, if_true, Nat.zero_le]
    refine (binSearchAux_iff ascending _ _ _).trans ?_
    constructor
    · rintro ⟨place, within, -, -, same⟩
      exact ⟨place, within, same⟩
    · rintro ⟨place, within, same⟩
      exact ⟨place, within, Nat.zero_le _, Nat.le_sub_one_of_lt within, same⟩
  · rw [dif_neg listed]
    refine iff_of_false nofun ?_
    rintro ⟨place, within, -⟩
    exact listed (Nat.zero_lt_of_lt within)

end Search

section Repetitions

private theorem eraseReps_loop (first : Nat) (rest kept : List Nat) :
    List.eraseRepsBy.loop (· == ·) first rest kept = kept.reverse ++ (first :: rest).eraseReps := by
  have begun (number : Nat) (others : List Nat) :
      (number :: others).eraseReps = List.eraseRepsBy.loop (· == ·) number others [] := rfl
  induction rest generalizing first kept with
  | nil => simp [begun, List.eraseRepsBy.loop]
  | cons second rest ih =>
    rw [begun, List.eraseRepsBy.loop, List.eraseRepsBy.loop]
    cases first == second <;> simp [ih]

/-- A number that the next one repeats is dropped. -/
theorem eraseReps_cons_cons (first second : Nat) (rest : List Nat) :
    (first :: second :: rest).eraseReps =
      if first = second then (second :: rest).eraseReps
      else first :: (second :: rest).eraseReps := by
  have begun : (first :: second :: rest).eraseReps
      = List.eraseRepsBy.loop (· == ·) first (second :: rest) [] := rfl
  rw [begun, List.eraseRepsBy.loop, eraseReps_loop, eraseReps_loop]
  by_cases same : first = second
  · subst same
    simp
  · rw [if_neg same, beq_false_of_ne same]
    rfl

theorem mem_eraseReps {number : Nat} (numbers : List Nat) :
    number ∈ numbers.eraseReps ↔ number ∈ numbers := by
  induction numbers with
  | nil => exact Iff.rfl
  | cons first rest ih =>
    cases rest with
    | nil => exact Iff.rfl
    | cons second rest =>
      rw [eraseReps_cons_cons]
      split
      · next same => simp [ih, same]
      · rw [List.mem_cons, ih, ← List.mem_cons]

/-- Without repetitions a sorted list ascends strictly. -/
theorem pairwise_eraseReps {numbers : List Nat} (sorted : numbers.Pairwise (· ≤ ·)) :
    numbers.eraseReps.Pairwise (· < ·) := by
  induction numbers with
  | nil => exact List.Pairwise.nil
  | cons first rest ih =>
    obtain ⟨least, sortedRest⟩ := List.pairwise_cons.mp sorted
    cases rest with
    | nil => exact List.pairwise_singleton _ _
    | cons second rest =>
      rw [eraseReps_cons_cons]
      split
      · exact ih sortedRest
      · next different =>
        refine List.pairwise_cons.mpr ⟨fun other member => ?_, ih sortedRest⟩
        have atLeast : second ≤ other := by
          rcases List.mem_cons.mp ((mem_eraseReps _).mp member) with rfl | inRest
          · exact Nat.le_refl _
          · exact (List.pairwise_cons.mp sortedRest).1 other inRest
        have smaller := least second List.mem_cons_self
        omega

end Repetitions

namespace BadBlockTable

variable {blocks : List Nat} {total block : Nat}

theorem mem_toList_ofList : block ∈ (ofList blocks total).toList ↔ block ∈ blocks := by
  show block ∈ blocks.foldr insertAscending [] ↔ block ∈ blocks
  induction blocks with
  | nil => exact Iff.rfl
  | cons head rest ih => rw [List.foldr_cons, mem_insertAscending, ih, List.mem_cons]

theorem isBad_iff (table : BadBlockTable) : table.isBad block = true ↔ block ∈ table.toList :=
  binSearchContains_iff table.ascending

theorem isBad_ofList (blocks : List Nat) (total block : Nat) :
    (ofList blocks total).isBad block = decide (block ∈ blocks) := by
  rw [Bool.eq_iff_iff, isBad_iff, mem_toList_ofList, decide_eq_true_iff]

/-- Inserting block by block comes to sorting them all and dropping repetitions: there is but one
list that ascends strictly and has these members. -/
theorem toList_ofList_eq (blocks : List Nat) (total : Nat) :
    (ofList blocks total).toList = blocks.mergeSort.eraseReps := by
  have sorted : blocks.mergeSort.Pairwise fun first second => decide (first ≤ second) = true :=
    List.pairwise_mergeSort (by simpa using fun _ _ _ => Nat.le_trans)
      (by simpa using Nat.le_total) blocks
  have ascending := pairwise_eraseReps (sorted.imp of_decide_eq_true)
  refine (ofList blocks total).ascending.eq_of_mem_iff ascending fun block => ?_
  rw [mem_eraseReps, List.mem_mergeSort]
  exact mem_toList_ofList

/-- A table stands for the set of the blocks it is made of, in whatever order and however often they
are given: it lists them sorted and without repetitions, looking a block up finds just the members,
its size is the number of different blocks, and it is empty only if no block is given. -/
theorem ofList_represents_set (blocks : List Nat) (total : Nat) :
    let table := ofList blocks total
    table.toList = blocks.mergeSort.eraseReps ∧
    table.toList.Pairwise (· < ·) ∧
    (∀ block, block ∈ table.toList ↔ block ∈ blocks) ∧
    (∀ block, table.isBad block = true ↔ block ∈ blocks) ∧
    table.size = blocks.toFinset.card ∧
    (table.isEmpty = true ↔ blocks = []) := by
  intro table
  have members : ∀ block, block ∈ table.toList ↔ block ∈ blocks := fun _ => mem_toList_ofList
  have distinct : table.toList.Nodup := table.ascending.imp Nat.ne_of_lt
  refine ⟨toList_ofList_eq blocks total, table.ascending, members, fun block => ?_, ?_, ?_⟩
  · rw [isBad_iff, members]
  · have sameSet : table.toList.toFinset = blocks.toFinset := by
      ext block
      rw [List.mem_toFinset, List.mem_toFinset, members]
    calc table.size = table.toList.toFinset.card := (List.toFinset_card_of_nodup distinct).symm
      _ = blocks.toFinset.card := by rw [sameSet]
  · rw [isEmpty, List.isEmpty_iff]
    simp only [List.eq_nil_iff_forall_not_mem]
    exact forall_congr' fun block => not_congr (members block)

example : (ofList [9, 1, 9, 0, 1] 16).toList = [0, 1, 9] := by decide

end BadBlockTable

end OnfiFlash
