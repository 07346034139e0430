import OnfiFlash.Proofs.BlockChoice
import OnfiFlash.Proofs.ImageWriting

/-! How an image takes blocks where nothing disturbs the search: the first block that the session
can write to behind those it has taken, and no other. Such a block is erased when it is taken, so the
pages that are left of it are too. -/
namespace OnfiFlash.Operation.WriteCursor

/-- Where a cursor stands in the block it has taken last: the pages left of that block are erased. -/
structure Poised (base : Session) (indexBlock : Nat) (cursor : WriteCursor) (d : Device)
    (room : Nat) : Prop where
  placed : cursor.Placed base.geometry indexBlock cursor.used room
  blank : ∀ page ∈ List.range' cursor.page room,
    d.flash.cells page = List.replicate base.geometry.rawPageSize erasedByte

/-- Where a cursor stands among the blocks that an image can be written to: it has taken the first of
them, and those behind it are the others. -/
structure Taking (base : Session) (indexBlock : Nat) (eligible : List Nat) (cursor : WriteCursor)
    (d : Device) (room : Nat) : Prop where
  placed : cursor.Placed base.geometry indexBlock cursor.used room
  blank : ∀ page ∈ List.range' cursor.page room,
    d.flash.cells page = List.replicate base.geometry.rawPageSize erasedByte
  taken : cursor.used.reverse = eligible.take cursor.used.length
  others : base.eligibleFrom d.flash cursor.nextBlock = eligible.drop cursor.used.length

variable {base : Session} {d : Device} {indexBlock room : Nat} {eligible : List Nat}
  {cursor : WriteCursor}

theorem poised_start {indexPage : Nat} (inRange : indexPage < base.geometry.totalPages)
    (d : Device) :
    ({ nextBlock := base.geometry.blockOf indexPage + 1 } : WriteCursor).Poised base
      (base.geometry.blockOf indexPage) d 0 where
  placed := placed_start inRange
  blank := nofun

/-- The next page, while some are left. -/
theorem Poised.next (dimensions : base.geometry.Dimensions)
    (poised : cursor.Poised base indexBlock d (room + 1)) :
    cursor.page < base.geometry.totalPages ∧
      d.flash.cells cursor.page = List.replicate base.geometry.rawPageSize erasedByte := by
  obtain ⟨-, -, inRange⟩ := poised.placed.page dimensions (Nat.succ_pos room)
  exact ⟨inRange, poised.blank _ (List.mem_range'_1.mpr ⟨Nat.le_refl _, by omega⟩)⟩

/-- Going on to a block that is erased. -/
theorem Poised.onto {found : Nat} (dimensions : base.geometry.Dimensions)
    (describes : base.geometry.Describes d.flash.config)
    (poised : cursor.Poised base indexBlock d 0) (behind : cursor.nextBlock ≤ found)
    (onDevice : found < base.geometry.totalBlocks) (accepted : d.flash.refuses found = false)
    (after : Device) (erased : after.flash = d.flash.erase found) (stats : WriteStats) :
    (cursor.onto base.geometry found stats).Poised base indexBlock after
      base.geometry.pagesPerBlock := by
  refine ⟨poised.placed.onto stats behind onDevice, fun page inBlock => ?_⟩
  have here : base.geometry.blockOf page = found :=
    (dimensions.blockOf_eq_iff page found).mpr (List.mem_range'_1.mp inBlock)
  rw [erased, Flash.cells_erase accepted (describes.pagesPerBlock ▸ here), describes.erasedPage]

/-- Going on to the next page, once nothing but this one is programmed. -/
theorem Poised.past {data : List UInt8} (poised : cursor.Poised base indexBlock d (room + 1))
    (after : Device) (programs : d.flash.Programs cursor.page data after.flash) (stats : WriteStats) :
    (cursor.past stats).Poised base indexBlock after room := by
  refine ⟨poised.placed.past stats, fun page listed => ?_⟩
  have later : cursor.page + 1 ≤ page := (List.mem_range'_1.mp listed).1
  rw [programs.elsewhere page (by omega)]
  apply poised.blank page
  rw [List.range'_succ]
  exact List.mem_cons_of_mem _ listed

theorem done_start (dimensions : base.geometry.Dimensions) (nextBlock : Nat) (data : List UInt8) :
    ({ nextBlock } : WriteCursor).done + (chunks base.geometry.bytesPerPage data).length
      = chunkCount base.geometry.bytesPerPage data.length := by
  rw [length_chunks dimensions.bytesPerPage]
  exact Nat.zero_add _

theorem taking_start {indexPage : Nat} (inRange : indexPage < base.geometry.totalPages)
    (d : Device) :
    ({ nextBlock := base.geometry.blockOf indexPage + 1 } : WriteCursor).Taking base
      (base.geometry.blockOf indexPage)
      (base.eligibleFrom d.flash (base.geometry.blockOf indexPage + 1)) d 0 where
  placed := placed_start inRange
  blank := nofun
  taken := rfl
  others := rfl

theorem Taking.poised (taking : cursor.Taking base indexBlock eligible d room) :
    cursor.Poised base indexBlock d room := ⟨taking.placed, taking.blank⟩

theorem Taking.length_le (taking : cursor.Taking base indexBlock eligible d room) :
    cursor.used.length ≤ eligible.length := by
  have length := congrArg List.length taking.taken
  rw [List.length_reverse, List.length_take] at length
  omega

/-- Going on to the next block. -/
theorem Taking.onto {found : Nat} {rest : List Nat} (dimensions : base.geometry.Dimensions)
    (describes : base.geometry.Describes d.flash.config)
    (taking : cursor.Taking base indexBlock eligible d 0)
    (next : base.eligibleFrom d.flash cursor.nextBlock = found :: rest)
    (accepted : d.flash.refuses found = false) (stats : WriteStats)
    (loaded : Option (List UInt8 × Nat)) :
    (cursor.onto base.geometry found stats).Taking base indexBlock eligible
      { d with flash := d.flash.erase found, loaded } base.geometry.pagesPerBlock := by
  obtain ⟨behind, onDevice, -, later⟩ := Session.of_eligibleFrom next
  have others : eligible.drop cursor.used.length = found :: rest := taking.others.symm.trans next
  obtain ⟨placed, blank⟩ := taking.poised.onto dimensions describes behind onDevice accepted
    { d with flash := d.flash.erase found, loaded } rfl stats
  refine ⟨placed, blank, ?_, ?_⟩
  · have length : (eligible.take cursor.used.length ++ [found]).length
        = cursor.used.length + 1 := by
      rw [List.length_append, ← taking.taken, List.length_reverse, List.length_singleton]
    have split : eligible.take cursor.used.length ++ [found] ++ rest = eligible := by
      rw [List.append_assoc, List.singleton_append, ← others, List.take_append_drop]
    show (found :: cursor.used).reverse = eligible.take (cursor.used.length + 1)
    rw [List.reverse_cons, taking.taken]
    conv => rhs; rw [← split]
    exact (List.take_left' length).symm
  · show base.eligibleFrom (d.flash.erase found) (found + 1)
      = eligible.drop (cursor.used.length + 1)
    rw [Session.eligibleFrom_congr dimensions (Flash.sameLayout_erase _ _)
      fun page further => ?_, later,
      ← List.tail_drop, others, List.tail_cons]
    refine Flash.cells_erase_of_ne _ fun same => ?_
    rw [describes.pagesPerBlock] at same
    exact Nat.not_succ_le_self found (same ▸ further)

/-- Going on to the next page, once this one is programmed. -/
theorem Taking.past (dimensions : base.geometry.Dimensions)
    (taking : cursor.Taking base indexBlock eligible d (room + 1)) (stats : WriteStats)
    (data : List UInt8) (loaded : Option (List UInt8 × Nat)) :
    (cursor.past stats).Taking base indexBlock eligible
      { d with flash := d.flash.program ⟨0, cursor.page, data⟩, loaded } room := by
  have programs : d.flash.Programs cursor.page data (d.flash.program ⟨0, cursor.page, data⟩) :=
    Flash.programs_program
  obtain ⟨-, among, -⟩ := taking.placed.page dimensions (Nat.succ_pos room)
  obtain ⟨-, before, -⟩ := taking.placed.used _ among
  obtain ⟨placed, blank⟩ := taking.poised.past
    { d with flash := d.flash.program ⟨0, cursor.page, data⟩, loaded } programs stats
  refine ⟨placed, blank, taking.taken, ?_⟩
  refine (Session.eligibleFrom_congr dimensions programs.layout fun page further => ?_).trans
    taking.others
  refine programs.elsewhere page fun same => ?_
  subst same
  exact Nat.not_lt.mpr further before

end OnfiFlash.Operation.WriteCursor
