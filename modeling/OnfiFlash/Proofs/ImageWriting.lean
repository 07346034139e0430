import OnfiFlash.Proofs.BlockPages
import OnfiFlash.Proofs.BlockSearch
import OnfiFlash.Proofs.ImagePage

/-! Writing the pages of an image. The write only ever moves forward: it erases blocks behind the
index block and programs pages of blocks that it has erased itself, so all other pages keep what
they held, wherever the write ends. -/
namespace OnfiFlash

namespace Flash

/-- From one state of the array to another, blocks from `first` on were erased, `fresh` with the
latest in front, and only pages of these blocks changed. -/
structure Grows (first : Nat) (flash after : Flash) (fresh : List Nat) : Prop where
  layout : flash.config.SameLayout after.config
  erased : after.erased = fresh ++ flash.erased
  behind : ∀ block ∈ fresh, first ≤ block
  elsewhere : ∀ page, page / flash.config.pagesPerBlock ∉ fresh →
    after.cells page = flash.cells page

namespace Grows

variable {first : Nat} {flash mid after : Flash} {fresh : List Nat}

theorem refl (first : Nat) (flash : Flash) : Grows first flash flash [] :=
  ⟨.refl _, rfl, nofun, fun _ _ => rfl⟩

theorem weaken (grows : Grows first flash after fresh) {earlier : Nat} (before : earlier ≤ first) :
    Grows earlier flash after fresh :=
  { grows with behind := fun block listed => Nat.le_trans before (grows.behind block listed) }

theorem erase (grows : Grows first flash mid fresh) {block : Nat} (behind : first ≤ block)
    (accepted : mid.refuses block = false) :
    Grows first flash (mid.erase block) (block :: fresh) where
  layout := grows.layout.trans (sameLayout_erase _ _)
  erased := by rw [erase_of_accepts accepted, grows.erased, List.cons_append]
  behind other listed := by
    rcases List.mem_cons.mp listed with rfl | earlier
    · exact behind
    · exact grows.behind other earlier
  elsewhere page untouched := by
    obtain ⟨different, before⟩ := not_or.mp (mt List.mem_cons.mpr untouched)
    rw [cells_erase_of_ne _ (grows.layout.pagesPerBlock ▸ different), grows.elsewhere page before]

/-- An erase that fails leaves everything as it was. -/
theorem erase_any (grows : Grows first flash mid fresh) {block : Nat} (behind : first ≤ block) :
    ∃ more, Grows first flash (mid.erase block) more ∧ fresh ⊆ more := by
  cases refused : mid.refuses block with
  | true =>
    rw [erase_of_refuses refused]
    exact ⟨fresh, grows, List.Subset.refl _⟩
  | false => exact ⟨block :: fresh, grows.erase behind refused, List.subset_cons_self _ _⟩

theorem program (grows : Grows first flash mid fresh) {page : Nat} {data : List UInt8}
    (programs : mid.Programs page data after)
    (opened : page / flash.config.pagesPerBlock ∈ fresh) : Grows first flash after fresh where
  layout := grows.layout.trans programs.layout
  erased := programs.erased.trans grows.erased
  behind := grows.behind
  elsewhere other untouched := by
    have different : other ≠ page := fun same => untouched (same ▸ opened)
    rw [programs.elsewhere other different, grows.elsewhere other untouched]

end Grows
end Flash

theorem Geometry.Describes.erasedPage {g : Geometry} {c : Chip.Config} (describes : g.Describes c) :
    c.erasedPage = List.replicate g.rawPageSize erasedByte := by
  rw [Chip.Config.erasedPage, describes.rawPageSize]
  rfl

namespace Operation

namespace WriteCursor

def onto (cursor : WriteCursor) (g : Geometry) (block : Nat) (stats : WriteStats) :
    WriteCursor where
  page := g.firstPage block
  nextBlock := block + 1
  used := block :: cursor.used
  done := cursor.done
  stats := stats

def past (cursor : WriteCursor) (stats : WriteStats) : WriteCursor where
  page := cursor.page + 1
  nextBlock := cursor.nextBlock
  used := cursor.used
  done := cursor.done + 1
  stats := stats

/-- Where a cursor stands: the blocks used lie behind the index block, each erased by this write,
and `room` pages of the latest are left. -/
structure Placed (g : Geometry) (indexBlock : Nat) (fresh : List Nat) (room : Nat)
    (cursor : WriteCursor) : Prop where
  count : cursor.used.length * g.pagesPerBlock = cursor.done + room
  fits : room ≤ g.pagesPerBlock
  latest : ∀ block earlier, cursor.used = block :: earlier →
    cursor.nextBlock = block + 1 ∧ cursor.page + room = g.firstPage cursor.nextBlock
  ascending : cursor.used.reverse.Pairwise (· < ·)
  used : ∀ block ∈ cursor.used, indexBlock < block ∧ block < cursor.nextBlock ∧ block ∈ fresh
  next : indexBlock < cursor.nextBlock ∧ cursor.nextBlock ≤ g.totalBlocks

/-- What the pages behind a cursor hold: the pieces written so far, then erased pages. -/
structure Filled (g : Geometry) (flash : Flash) (written : List (List UInt8)) (room : Nat)
    (cursor : WriteCursor) : Prop where
  contents : ∃ full, g.pagesOf cursor.used.reverse = full ++ List.range' cursor.page room ∧
    full.map flash.cells = written.map fun piece => g.storedPage (Image.pageContents g piece)
  blank : ∀ page ∈ List.range' cursor.page room,
    flash.cells page = List.replicate g.rawPageSize erasedByte

variable {g : Geometry} {indexBlock room : Nat} {fresh : List Nat} {cursor : WriteCursor}

/-- Before the first block is taken. -/
theorem placed_start {indexPage : Nat} (inRange : indexPage < g.totalPages) :
    ({ nextBlock := g.blockOf indexPage + 1 } : WriteCursor).Placed g
      (g.blockOf indexPage) fresh 0 where
  count := Nat.zero_mul _
  fits := Nat.zero_le _
  latest := nofun
  ascending := .nil
  used := nofun
  next := ⟨Nat.lt_succ_self _, Geometry.blockOf_lt inRange⟩

/-- A fresh block is due exactly when no room is left. -/
theorem Placed.due_iff (dimensions : g.Dimensions) (placed : cursor.Placed g indexBlock fresh room)
    (spent : room < g.pagesPerBlock) :
    (cursor.done = 0 ∨ cursor.page % g.pagesPerBlock = 0) ↔ room = 0 := by
  have positive := dimensions.pagesPerBlock
  have count := placed.count
  cases listed : cursor.used with
  | nil =>
    simp only [listed, List.length_nil, Nat.zero_mul] at count
    omega
  | cons block earlier =>
    obtain ⟨-, last⟩ := placed.latest block earlier listed
    rw [listed, List.length_cons, Nat.succ_mul] at count
    constructor
    · rintro (none | aligned)
      · omega
      · have ended : g.pagesPerBlock ∣ cursor.page + room :=
          last ▸ Nat.dvd_mul_left _ _
        have left : g.pagesPerBlock ∣ room :=
          (Nat.dvd_add_right (Nat.dvd_of_mod_eq_zero aligned)).mp ended
        exact Nat.eq_zero_of_dvd_of_lt left spent
    · rintro rfl
      right
      rw [Nat.add_zero] at last
      rw [last, Geometry.firstPage, Nat.mul_mod_left]

/-- The next page lies in a block that this write has erased. -/
theorem Placed.page (dimensions : g.Dimensions) (placed : cursor.Placed g indexBlock fresh room)
    (left : 0 < room) :
    indexBlock < g.blockOf cursor.page ∧ g.blockOf cursor.page ∈ fresh ∧
      cursor.page < g.totalPages := by
  have count := placed.count
  cases listed : cursor.used with
  | nil =>
    simp only [listed, List.length_nil, Nat.zero_mul] at count
    omega
  | cons block earlier =>
    obtain ⟨next, last⟩ := placed.latest block earlier listed
    have fits := placed.fits
    have inBlock : g.blockOf cursor.page = block := by
      rw [dimensions.blockOf_eq_iff]
      rw [next, Geometry.firstPage, Nat.succ_mul] at last
      simp only [Geometry.firstPage]
      omega
    have member : block ∈ cursor.used := listed ▸ List.mem_cons_self
    obtain ⟨behind, before, opened⟩ := placed.used block member
    refine ⟨inBlock ▸ behind, inBlock ▸ opened, ?_⟩
    have bounded := Nat.mul_le_mul_right g.pagesPerBlock placed.next.2
    rw [Geometry.totalPages_eq]
    simp only [Geometry.firstPage] at last
    omega

/-- Going on to a fresh block. -/
theorem Placed.onto (placed : cursor.Placed g indexBlock fresh 0) {block : Nat}
    (stats : WriteStats) (behind : cursor.nextBlock ≤ block) (onDevice : block < g.totalBlocks) :
    (cursor.onto g block stats).Placed g indexBlock (block :: fresh) g.pagesPerBlock where
  count := by
    show (cursor.used.length + 1) * g.pagesPerBlock = cursor.done + g.pagesPerBlock
    rw [Nat.succ_mul, placed.count, Nat.add_zero]
  fits := Nat.le_refl _
  latest := by
    rintro _ _ ⟨⟩
    exact ⟨rfl, (Nat.succ_mul _ _).symm⟩
  ascending := by
    show (block :: cursor.used).reverse.Pairwise (· < ·)
    rw [List.reverse_cons, List.pairwise_append]
    refine ⟨placed.ascending, List.pairwise_singleton _ _, fun other listed last isLast => ?_⟩
    rw [List.mem_singleton.mp isLast]
    exact Nat.lt_of_lt_of_le (placed.used other (List.mem_reverse.mp listed)).2.1 behind
  used other listed := by
    show indexBlock < other ∧ other < block + 1 ∧ other ∈ block :: fresh
    rcases List.mem_cons.mp listed with rfl | earlier
    · exact ⟨Nat.lt_of_lt_of_le placed.next.1 behind, Nat.lt_succ_self _, List.mem_cons_self⟩
    · obtain ⟨above, before, opened⟩ := placed.used other earlier
      exact ⟨above, by omega, List.mem_cons_of_mem _ opened⟩
  next := by
    show indexBlock < block + 1 ∧ block + 1 ≤ g.totalBlocks
    have next := placed.next.1
    omega

/-- Going on to the next page. -/
theorem Placed.past (placed : cursor.Placed g indexBlock fresh (room + 1)) (stats : WriteStats) :
    (cursor.past stats).Placed g indexBlock fresh room where
  count := by
    show cursor.used.length * g.pagesPerBlock = cursor.done + 1 + room
    rw [placed.count, Nat.add_assoc, Nat.add_comm 1]
  fits := Nat.le_of_succ_le placed.fits
  latest block earlier listed := by
    show cursor.nextBlock = block + 1 ∧ cursor.page + 1 + room = g.firstPage cursor.nextBlock
    obtain ⟨next, last⟩ := placed.latest block earlier listed
    exact ⟨next, by omega⟩
  ascending := placed.ascending
  used := placed.used
  next := placed.next

theorem Filled.onto {flash : Flash} {written : List (List UInt8)} (dimensions : g.Dimensions)
    (describes : g.Describes flash.config) (placed : cursor.Placed g indexBlock fresh 0)
    (filled : cursor.Filled g flash written 0) {block : Nat} (stats : WriteStats)
    (behind : cursor.nextBlock ≤ block) (accepted : flash.refuses block = false) :
    (cursor.onto g block stats).Filled g (flash.erase block) written g.pagesPerBlock where
  contents := by
    obtain ⟨full, pages, contents⟩ := filled.contents
    rw [List.range'_zero, List.append_nil] at pages
    refine ⟨full, ?_, ?_⟩
    · show g.pagesOf (block :: cursor.used).reverse
        = full ++ List.range' (g.firstPage block) g.pagesPerBlock
      rw [List.reverse_cons, Geometry.pagesOf_append, pages, Geometry.pagesOf_cons,
        Geometry.pagesOf_nil, List.append_nil]
    · rw [← contents]
      refine List.map_congr_left fun page listed => Flash.cells_erase_of_ne _ fun same => ?_
      have used : g.blockOf page ∈ cursor.used.reverse := by
        rw [← dimensions.mem_pagesOf, pages]
        exact listed
      have before := (placed.used _ (List.mem_reverse.mp used)).2.1
      rw [Geometry.blockOf, ← describes.pagesPerBlock, same] at before
      omega
  blank page inBlock := by
    have here : g.blockOf page = block :=
      (dimensions.blockOf_eq_iff page block).mpr (List.mem_range'_1.mp inBlock)
    rw [Flash.cells_erase accepted (describes.pagesPerBlock ▸ here), describes.erasedPage]

theorem Filled.past {flash after : Flash} {written : List (List UInt8)} {piece : List UInt8}
    (placed : cursor.Placed g indexBlock fresh (room + 1))
    (filled : cursor.Filled g flash written (room + 1)) (stats : WriteStats)
    (programs : flash.Programs cursor.page (Image.pageContents g piece) after)
    (stored : after.cells cursor.page
      = Chip.programmedCells (flash.cells cursor.page) 0 (Image.pageContents g piece)) :
    (cursor.past stats).Filled g after (written ++ [piece]) room := by
  obtain ⟨full, pages, contents⟩ := filled.contents
  have ascending : (g.pagesOf cursor.used.reverse).Pairwise (· < ·) :=
    Geometry.pairwise_pagesOf placed.ascending
  rw [pages, List.range'_succ] at ascending
  constructor
  · refine ⟨full ++ [cursor.page], ?_, ?_⟩
    · show g.pagesOf cursor.used.reverse
        = full ++ [cursor.page] ++ List.range' (cursor.page + 1) room
      rw [pages, List.range'_succ, List.append_assoc]
      rfl
    · have kept : full.map after.cells = full.map flash.cells :=
        List.map_congr_left fun page listed => programs.elsewhere page (Nat.ne_of_lt
          ((List.pairwise_append.mp ascending).2.2 page listed _ List.mem_cons_self))
      have blank := filled.blank cursor.page (by simp)
      rw [List.map_append, List.map_append, kept, contents, List.map_singleton, stored, blank]
      rfl
  · intro page listed
    have later : cursor.page + 1 ≤ page := (List.mem_range'_1.mp listed).1
    rw [programs.elsewhere page (by omega)]
    refine filled.blank page ?_
    rw [List.range'_succ]
    exact List.mem_cons_of_mem _ listed

/-- How far a write has come that began with the array `start`. -/
structure Reached (base : Session) (start : Flash) (indexBlock : Nat) (cursor : WriteCursor)
    (d : Device) (written : List (List UInt8)) (room : Nat) (fresh : List Nat) : Prop where
  grows : Flash.Grows (indexBlock + 1) start d.flash fresh
  placed : cursor.Placed base.geometry indexBlock fresh room
  done : cursor.done = written.length
  filled : base.config.polling.polls ≤ Chip.stuckBusy →
    cursor.Filled base.geometry d.flash written room

end WriteCursor

section Pieces

variable {base : Session} {d : Device} {start : Flash} {indexBlock room : Nat}
  {written : List (List UInt8)} {cursor : WriteCursor}

theorem advance_reaches (valid : base.geometry.Valid) (covers : base.geometry.RowsCover)
    (reached : cursor.Reached base start indexBlock d written room cursor.used)
    (spent : room < base.geometry.pagesPerBlock) :
    cursor.advance.Effects base d fun result after said =>
      said.countP Progress.isWritten = 0 ∧ match result with
        | .ok next => ∃ room, next.Reached base start indexBlock after written (room + 1) next.used
        | .error _ => ∃ fresh, Flash.Grows (indexBlock + 1) start after.flash fresh := by
  have dimensions := valid.dimensions
  refine .of_serving fun describes _ => .geometry_bind ?_
  split
  · next due =>
    obtain rfl := (reached.placed.due_iff dimensions spent).mp due
    dsimp only
    split
    · refine effects_note_bind (effects_throw_bind ⟨rfl, cursor.used, reached.grows⟩)
    · refine .bind (nextGoodBlock_searches valid covers _ reached.placed.next.2) ?_ ?_
      · rintro e after said ⟨same | ⟨block, behind, -, lost⟩, uncounted⟩
        · exact ⟨uncounted, cursor.used, same ▸ reached.grows⟩
        · obtain ⟨more, grows, -⟩ :=
            reached.grows.erase_any (Nat.le_trans reached.placed.next.1 behind)
          exact ⟨uncounted, more, lost ▸ grows⟩
      · rintro ⟨block, stats⟩ after said ⟨⟨behind, onDevice, accepted, erased⟩, uncounted⟩
        refine effects_pure ⟨by simpa using uncounted, ?_⟩
        obtain ⟨last, ppb⟩ : ∃ last, base.geometry.pagesPerBlock = last + 1 :=
          Nat.exists_eq_succ_of_ne_zero (Nat.ne_of_gt dimensions.pagesPerBlock)
        refine ⟨last, ?_, ?_, reached.done, fun bounded => ?_⟩
        · rw [erased]
          exact reached.grows.erase (Nat.le_trans reached.placed.next.1 behind) accepted
        · rw [← ppb]
          exact reached.placed.onto stats behind onDevice
        · rw [← ppb, erased]
          exact (reached.filled bounded).onto dimensions describes reached.placed stats behind
            accepted
  · next notDue =>
    cases room with
    | zero => exact absurd ((reached.placed.due_iff dimensions spent).mpr rfl) notDue
    | succ room => exact effects_pure ⟨rfl, room, reached⟩

/-- By induction on the pieces left: wherever the write ends, it has grown the array behind the
index block; and each piece that is reported as written is on its page. -/
theorem writePieces_reaches (valid : base.geometry.Valid) (covers : base.geometry.RowsCover)
    (pieces : List (List UInt8)) (describes : base.geometry.Describes start.config)
    (short : ∀ piece ∈ pieces, piece.length ≤ base.geometry.bytesPerPage)
    (reached : cursor.Reached base start indexBlock d written room cursor.used)
    (spent : room < base.geometry.pagesPerBlock) :
    (writePieces pieces cursor).Effects base d fun result after said => match result with
      | .ok last => said.countP Progress.isWritten = pieces.length ∧
        ∃ room, room < base.geometry.pagesPerBlock ∧
          last.Reached base start indexBlock after (written ++ pieces) room last.used
      | .error _ => said.countP Progress.isWritten < pieces.length ∧
        ∃ fresh, Flash.Grows (indexBlock + 1) start after.flash fresh := by
  have dimensions := valid.dimensions
  induction pieces generalizing cursor d room written with
  | nil => exact effects_pure ⟨rfl, room, spent, written.append_nil.symm ▸ reached⟩
  | cons piece rest ih =>
    refine .bind (advance_reaches valid covers reached spent) ?_ ?_
    · rintro e after said ⟨uncounted, grown⟩
      exact ⟨uncounted ▸ Nat.succ_pos _, grown⟩
    · rintro next mid said ⟨uncounted, room, begun⟩
      obtain ⟨-, opened, inRange⟩ := begun.placed.page dimensions (Nat.succ_pos room)
      have fits := Image.pageContents_fits (short piece List.mem_cons_self)
      have inFresh : next.page / start.config.pagesPerBlock ∈ next.used := by
        rw [describes.pagesPerBlock]
        exact opened
      refine .geometry_bind (.bind (writePage_writes valid covers inRange fits _) ?_ ?_)
      · rintro e after later ⟨writes, quiet⟩
        refine ⟨?_, next.used, begun.grows.program writes.programs inFresh⟩
        rw [List.countP_append, uncounted, quiet]
        exact Nat.succ_pos _
      · rintro stats after later ⟨writes, quiet⟩
        have continued : (next.past stats).Reached base start indexBlock after (written ++ [piece])
            room (next.past stats).used := by
          refine ⟨begun.grows.program writes.programs inFresh, begun.placed.past stats, ?_, ?_⟩
          · show next.done + 1 = _
            rw [begun.done, List.length_append, List.length_singleton]
          · exact fun bounded => (begun.filled bounded).past begun.placed stats writes.programs
              (writes.stored bounded stats rfl)
        have fewer : room < base.geometry.pagesPerBlock := begun.placed.fits
        refine effects_progress_bind ((ih (fun other listed =>
          short other (List.mem_cons_of_mem _ listed)) continued fewer).mono ?_)
        intro result last final ended
        have counted : (said ++ (later ++ (Progress.written (next.done + 1) :: final))).countP
            Progress.isWritten = final.countP Progress.isWritten + 1 := by
          rw [List.countP_append, List.countP_append, uncounted, quiet, List.countP_cons_of_pos rfl]
          omega
        cases result with
        | ok lastCursor =>
          rw [List.append_assoc] at ended
          exact ⟨counted.trans (congrArg (· + 1) ended.1), ended.2⟩
        | error e => exact ⟨counted ▸ Nat.succ_lt_succ ended.1, ended.2⟩

end Pieces

end Operation
end OnfiFlash
