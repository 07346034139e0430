import OnfiFlash.Proofs.GeometryLayout

/-! The pages of a list of blocks, in the order in which an image runs through them. -/
namespace OnfiFlash.Geometry

def pagesOf (g : Geometry) (blocks : List Nat) : List Nat :=
  blocks.flatMap fun block => List.range' (g.firstPage block) g.pagesPerBlock

variable {g : Geometry}

@[simp] theorem pagesOf_nil : g.pagesOf [] = [] := rfl

theorem pagesOf_cons (block : Nat) (rest : List Nat) :
    g.pagesOf (block :: rest) = List.range' (g.firstPage block) g.pagesPerBlock ++ g.pagesOf rest :=
  List.flatMap_cons

theorem pagesOf_append (blocks more : List Nat) :
    g.pagesOf (blocks ++ more) = g.pagesOf blocks ++ g.pagesOf more := List.flatMap_append

@[simp] theorem length_pagesOf (g : Geometry) (blocks : List Nat) :
    (g.pagesOf blocks).length = blocks.length * g.pagesPerBlock := by
  induction blocks with
  | nil => simp
  | cons block rest ih =>
    rw [pagesOf_cons, List.length_append, List.length_range', ih, List.length_cons, Nat.succ_mul,
      Nat.add_comm]

theorem Dimensions.blockOf_eq_iff (dimensions : g.Dimensions) (page block : Nat) :
    g.blockOf page = block ↔
      g.firstPage block ≤ page ∧ page < g.firstPage block + g.pagesPerBlock := by
  have positive := dimensions.pagesPerBlock
  rw [blockOf, firstPage, Nat.div_eq_iff positive]
  omega

theorem Dimensions.mem_pagesOf (dimensions : g.Dimensions) (blocks : List Nat) (page : Nat) :
    page ∈ g.pagesOf blocks ↔ g.blockOf page ∈ blocks := by
  simp only [pagesOf, List.mem_flatMap, List.mem_range'_1, ← dimensions.blockOf_eq_iff]
  constructor
  · rintro ⟨block, listed, inBlock⟩
    exact inBlock ▸ listed
  · exact fun listed => ⟨_, listed, rfl⟩

/-- The pages of ascending blocks ascend. -/
theorem pairwise_pagesOf {blocks : List Nat} (ascending : blocks.Pairwise (· < ·)) :
    (g.pagesOf blocks).Pairwise (· < ·) := by
  refine List.pairwise_flatMap.mpr ⟨fun _ _ => List.pairwise_lt_range', ascending.imp ?_⟩
  intro block other before page inBlock later inOther
  simp only [List.mem_range'_1] at inBlock inOther
  have apart : g.firstPage block + g.pagesPerBlock ≤ g.firstPage other := by
    rw [firstPage, firstPage, ← Nat.succ_mul]
    exact Nat.mul_le_mul_right _ before
  omega

end OnfiFlash.Geometry
