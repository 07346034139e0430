/-! Cutting a sequence into pieces of one size, the last of which may be shorter. -/
namespace OnfiFlash

/-- Cut at most `count` pieces of `size` elements off the front of `data`. -/
def takeChunks (size : Nat) : (count : Nat) → (data : List α) → List (List α)
  | 0, _ => []
  | _, [] => []
  | count + 1, data => data.take size :: takeChunks size count (data.drop size)

/-- The pieces of `size` elements that make up `data`; only the last may be shorter.
A positive `size` yields at most one piece for each element. -/
def chunks (size : Nat) (data : List α) : List (List α) :=
  takeChunks size data.length data

/-- The number of pieces of `size` elements needed to hold `length` elements. -/
def chunkCount (size length : Nat) : Nat :=
  (length + size - 1) / size

theorem flatten_takeChunks (positive : 0 < size) (count : Nat) (data : List α)
    (enough : data.length ≤ count) : (takeChunks size count data).flatten = data := by
  induction count generalizing data with
  | zero => simp_all [takeChunks]
  | succ count earlier =>
    cases data with
    | nil => simp [takeChunks]
    | cons head rest =>
      have shorter : ((head :: rest).drop size).length ≤ count := by
        simp only [List.length_drop, List.length_cons] at enough ⊢
        omega
      rw [takeChunks]
      · rw [List.flatten_cons, earlier _ shorter, List.take_append_drop]
      · simp

/-- Nothing is lost by cutting. -/
theorem flatten_chunks (positive : 0 < size) (data : List α) :
    (chunks size data).flatten = data :=
  flatten_takeChunks positive data.length data (Nat.le_refl _)

end OnfiFlash
