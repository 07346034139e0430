import OnfiFlash.Bytes.Chunks
import OnfiFlash.Image.Page

/-! Cutting an image into pieces for its pages: how many there are, how long they are, and that
filling each of them up fills up the image. -/
namespace OnfiFlash

theorem takeChunks_cons (size count : Nat) {data : List α} (nonempty : data ≠ []) :
    takeChunks size (count + 1) data
      = data.take size :: takeChunks size count (data.drop size) := by
  rw [takeChunks]
  exact nonempty

@[simp] theorem takeChunks_nil (size count : Nat) :
    takeChunks size count ([] : List α) = [] := by
  cases count <;> rfl

theorem length_le_of_mem_takeChunks (size count : Nat) (data : List α) :
    ∀ piece ∈ takeChunks size count data, piece.length ≤ size := by
  induction count generalizing data with
  | zero => exact nofun
  | succ count ih =>
    by_cases empty : data = []
    · simp [empty]
    · rw [takeChunks_cons _ _ empty]
      intro piece listed
      rcases List.mem_cons.mp listed with rfl | later
      · exact List.length_take_le _ _
      · exact ih _ piece later

theorem chunkCount_zero {size : Nat} (positive : 0 < size) : chunkCount size 0 = 0 :=
  Nat.div_eq_of_lt (by omega)

theorem chunkCount_succ {size : Nat} (positive : 0 < size) {length : Nat} (nonempty : 0 < length) :
    chunkCount size length = chunkCount size (length - size) + 1 := by
  unfold chunkCount
  rcases Nat.le_total length size with short | long
  · have one : (length + size - 1) / size = 1 := by
      rw [Nat.div_eq_iff positive]
      omega
    rw [one, Nat.sub_eq_zero_of_le short, Nat.div_eq_of_lt (by omega)]
  · rw [← Nat.add_div_right _ positive]
    congr 1
    omega

/-- Pieces that are all full but for some room left in the last. -/
theorem chunkCount_eq {size length count room : Nat} (filled : count * size = length + room)
    (spent : room < size) : chunkCount size length = count := by
  rw [chunkCount, Nat.div_eq_iff (Nat.zero_lt_of_lt spent)]
  omega

/-- What has room in `count` pieces needs no more of them. -/
theorem chunkCount_le {size length count : Nat} (positive : 0 < size)
    (room : length ≤ count * size) : chunkCount size length ≤ count := by
  refine Nat.le_of_lt_succ ((Nat.div_lt_iff_lt_mul positive).mpr ?_)
  rw [Nat.succ_mul]
  omega

theorem lt_chunkCount {size length count : Nat} (positive : 0 < size)
    (more : count * size < length) : count < chunkCount size length := by
  rw [chunkCount, Nat.lt_iff_add_one_le, Nat.le_div_iff_mul_le positive, Nat.succ_mul]
  omega

theorem length_takeChunks {size : Nat} (positive : 0 < size) (count : Nat) (data : List α)
    (enough : data.length ≤ count) :
    (takeChunks size count data).length = chunkCount size data.length := by
  induction count generalizing data with
  | zero =>
    rw [List.eq_nil_of_length_eq_zero (Nat.le_zero.mp enough)]
    exact (chunkCount_zero positive).symm
  | succ count ih =>
    by_cases empty : data = []
    · rw [empty, takeChunks_nil]
      exact (chunkCount_zero positive).symm
    · have nonempty := List.length_pos_iff.mpr empty
      rw [takeChunks_cons _ _ empty, List.length_cons, ih _ (by rw [List.length_drop]; omega),
        List.length_drop, chunkCount_succ positive nonempty]

/-- There are as many pieces as are announced. -/
theorem length_chunks {size : Nat} (positive : 0 < size) (data : List α) :
    (chunks size data).length = chunkCount size data.length :=
  length_takeChunks positive _ data (Nat.le_refl _)

/-- Cutting goes on until nothing is left. -/
theorem takeChunks_eq {size : Nat} (positive : 0 < size) {count other : Nat} {data : List α}
    (enough : data.length ≤ count) (also : data.length ≤ other) :
    takeChunks size count data = takeChunks size other data := by
  induction count generalizing data other with
  | zero =>
    rw [List.eq_nil_of_length_eq_zero (Nat.le_zero.mp enough), takeChunks_nil, takeChunks_nil]
  | succ count ih =>
    by_cases empty : data = []
    · rw [empty, takeChunks_nil, takeChunks_nil]
    · have nonempty := List.length_pos_iff.mpr empty
      obtain ⟨fewer, rfl⟩ : ∃ fewer, other = fewer + 1 :=
        Nat.exists_eq_succ_of_ne_zero (by omega)
      rw [takeChunks_cons _ _ empty, takeChunks_cons _ _ empty]
      congr 1
      exact ih (by rw [List.length_drop]; omega) (by rw [List.length_drop]; omega)

theorem chunks_cons {size : Nat} (positive : 0 < size) {data : List α} (nonempty : data ≠ []) :
    chunks size data = data.take size :: chunks size (data.drop size) := by
  have some := List.length_pos_iff.mpr nonempty
  obtain ⟨fewer, length⟩ : ∃ fewer, data.length = fewer + 1 :=
    Nat.exists_eq_succ_of_ne_zero (by omega)
  rw [chunks, length, takeChunks_cons _ _ nonempty, chunks]
  exact congrArg _ (takeChunks_eq positive (by rw [List.length_drop]; omega) (Nat.le_refl _))

/-- A piece of full length at the front is cut off whole. -/
theorem chunks_append {size : Nat} (positive : 0 < size) {piece : List α}
    (full : piece.length = size) (rest : List α) :
    chunks size (piece ++ rest) = piece :: chunks size rest := by
  have nonempty : piece ++ rest ≠ [] := by
    refine List.ne_nil_of_length_pos ?_
    rw [List.length_append]
    omega
  rw [chunks_cons positive nonempty, List.take_left' full, List.drop_left' full]

theorem length_le_of_mem_chunks (size : Nat) (data : List α) :
    ∀ piece ∈ chunks size data, piece.length ≤ size :=
  length_le_of_mem_takeChunks size _ data

end OnfiFlash
