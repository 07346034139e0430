/-! The result of a bad-block scan: an ordered set of block numbers. -/
namespace OnfiFlash

/-- Insert a number into an ascending list, unless it is there. -/
def insertAscending (block : Nat) : List Nat → List Nat
  | [] => [block]
  | head :: rest =>
    if block < head then block :: head :: rest
    else if block = head then head :: rest
    else head :: insertAscending block rest

theorem mem_insertAscending (block other : Nat) (blocks : List Nat) :
    other ∈ insertAscending block blocks ↔ other = block ∨ other ∈ blocks := by
  induction blocks with
  | nil => simp [insertAscending]
  | cons head rest earlier =>
    simp only [insertAscending]
    split
    · simp
    · split
      · next same => subst same; simp
      · simp only [List.mem_cons, earlier]
        exact or_left_comm

theorem pairwise_insertAscending (block : Nat) (blocks : List Nat)
    (ascending : blocks.Pairwise (· < ·)) : (insertAscending block blocks).Pairwise (· < ·) := by
  induction blocks with
  | nil => simp [insertAscending]
  | cons head rest earlier =>
    obtain ⟨least, ascendingRest⟩ := List.pairwise_cons.mp ascending
    simp only [insertAscending]
    split
    · next below =>
      refine List.pairwise_cons.mpr ⟨fun other member => ?_, ascending⟩
      rcases List.mem_cons.mp member with same | inRest
      · exact same ▸ below
      · exact Nat.lt_trans below (least other inRest)
    · split
      · exact ascending
      · next notBelow different =>
        refine List.pairwise_cons.mpr ⟨fun other member => ?_, earlier ascendingRest⟩
        rcases (mem_insertAscending block other rest).mp member with same | inRest
        · omega
        · exact least other inRest

/-- The bad blocks found among the `total` blocks of a device, in ascending order. -/
structure BadBlockTable where
  blocks : List Nat
  total : Nat
  ascending : blocks.Pairwise (· < ·)
deriving DecidableEq

namespace BadBlockTable

/-- The table of the given blocks, in whatever order and however often they are given. -/
def ofList (blocks : List Nat) (total : Nat) : BadBlockTable where
  blocks := blocks.foldr insertAscending []
  total := total
  ascending := by
    induction blocks with
    | nil => exact List.Pairwise.nil
    | cons head rest earlier => exact pairwise_insertAscending head _ earlier

/-- Was the block found bad? The ascending list is searched by halves. -/
def isBad (table : BadBlockTable) (block : Nat) : Bool :=
  table.blocks.toArray.binSearchContains block (· < ·)

def toList (table : BadBlockTable) : List Nat := table.blocks

def size (table : BadBlockTable) : Nat := table.blocks.length

def isEmpty (table : BadBlockTable) : Bool := table.blocks.isEmpty

end BadBlockTable
end OnfiFlash
