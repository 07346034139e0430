import OnfiFlash.Proofs.ReadOnly

/-! Writing one page with retries. However often it is tried and however it ends, no other page
changes and this one at most loses the bits that the data clears, since clearing them twice is
clearing them once; where it succeeds, they are cleared. -/
namespace OnfiFlash

theorem Chip.programmedCells_front (cells data : List UInt8) :
    programmedCells cells 0 data = List.zipWith (· &&& ·) cells data ++ cells.drop data.length := by
  have beyond : cells.drop (min cells.length data.length) = cells.drop data.length := by
    rcases Nat.le_total data.length cells.length with fits | short
    · rw [Nat.min_eq_right fits]
    · rw [Nat.min_eq_left short, List.drop_length, List.drop_eq_nil_of_le short]
  simp only [programmedCells, List.drop_zero, List.take_zero, List.nil_append, Nat.zero_add,
    List.length_zipWith, beyond]

/-- Programming the same data again changes nothing more. -/
theorem Chip.programmedCells_twice (cells data : List UInt8) :
    programmedCells (programmedCells cells 0 data) 0 data = programmedCells cells 0 data := by
  simp only [programmedCells_front]
  induction cells generalizing data with
  | nil => simp
  | cons cell rest ih =>
    cases data with
    | nil => simp
    | cons byte data =>
      simp only [List.zipWith_cons_cons, List.length_cons, List.drop_succ_cons, List.cons_append,
        UInt8.and_assoc, UInt8.and_self, ih]

namespace Flash

/-- All that programming a page with the same data any number of times can do. -/
structure Programs (page : Nat) (data : List UInt8) (flash after : Flash) : Prop where
  layout : flash.config.SameLayout after.config
  erased : after.erased = flash.erased
  elsewhere : ∀ other, other ≠ page → after.cells other = flash.cells other
  here : after.cells page = flash.cells page ∨
    after.cells page = Chip.programmedCells (flash.cells page) 0 data

variable {page : Nat} {data : List UInt8} {flash mid after : Flash}

theorem Programs.of_same (same : after = flash) : Programs page data flash after := by
  subst same
  exact ⟨.refl _, rfl, fun _ _ => rfl, .inl rfl⟩

theorem programs_program : Programs page data flash (flash.program ⟨0, page, data⟩) where
  layout := sameLayout_program _ _
  erased := erased_program _ _
  elsewhere other different := by
    unfold program
    split
    · rfl
    · exact Chip.assign_other _ _ different
  here := by
    unfold program
    split
    · exact .inl rfl
    · exact .inr (Chip.assign_same _ _ _)

/-- What keeps a program from being stored. -/
theorem stores (faultless : flash.programFaults page = none)
    (writable : flash.config.writeProtected = false) (inRange : page < flash.config.totalPages) :
    ¬ flash.Ignores page := by
  rintro (fault | shielded | beyond)
  · simp [faultless] at fault
  · simp [writable] at shielded
  · exact Nat.not_lt.mpr beyond inRange

theorem cells_program (stored : ¬ flash.Ignores page) :
    (flash.program ⟨0, page, data⟩).cells page
      = Chip.programmedCells (flash.cells page) 0 data := by
  rw [program, if_neg stored]
  exact Chip.assign_same _ _ _

/-- Once the data is stored, it does not matter whether an earlier attempt stored it. -/
theorem Programs.stored (first : Programs page data flash mid)
    (next : after.cells page = Chip.programmedCells (mid.cells page) 0 data) :
    after.cells page = Chip.programmedCells (flash.cells page) 0 data := by
  rcases first.here with same | changed
  · rw [next, same]
  · rw [next, changed, Chip.programmedCells_twice]

theorem Programs.trans (first : Programs page data flash mid)
    (next : Programs page data mid after) : Programs page data flash after where
  layout := first.layout.trans next.layout
  erased := next.erased.trans first.erased
  elsewhere other different :=
    (next.elsewhere other different).trans (first.elsewhere other different)
  here := by
    rcases next.here with same | changed
    · rw [same]
      exact first.here
    · exact .inr (first.stored changed)

end Flash

/-- Is this the report of a page verified? -/
def Progress.isWritten : Progress → Bool
  | .written _ => true
  | _ => false

namespace Operation

variable {base : Session} {d : Device} {page : Nat} {data : List UInt8}

/-- What writing a page comes to: nothing but programs of the page, and after a success the data is
in it. -/
structure Writes (base : Session) (page : Nat) (data : List UInt8) (d after : Device)
    (result : Except Error α) : Prop where
  programs : d.flash.Programs page data after.flash
  stored : base.config.polling.polls ≤ Chip.stuckBusy → ∀ value, result = .ok value →
    after.flash.cells page = Chip.programmedCells (d.flash.cells page) 0 data

theorem programPage_writes (valid : base.geometry.Valid) (covers : base.geometry.RowsCover)
    (inRange : page < base.geometry.totalPages) (fits : data.length ≤ base.geometry.rawPageSize) :
    (programPage page data).Effects base d fun result after said =>
      Writes base page data d after result ∧ said = [] := by
  refine .of_serving fun describes _ => .programPage valid covers inRange fits ?_ ?_ ?_ ?_
  · exact fun _ => ⟨⟨.of_same rfl, nofun⟩, rfl⟩
  · exact fun _ _ => ⟨⟨Flash.programs_program, nofun⟩, rfl⟩
  · exact fun _ _ _ => ⟨⟨Flash.programs_program, nofun⟩, rfl⟩
  · intro writable connected settles status _
    refine ⟨⟨Flash.programs_program, fun bounded _ _ => Flash.cells_program ?_⟩, rfl⟩
    have faultless : d.flash.programFaults page = none := by
      cases fault : d.flash.programFaults page with
      | none => rfl
      | some misbehaviour =>
        cases misbehaviour with
        | transportError => exact absurd fault connected
        | stuck =>
          -- the page would still be busy after the last poll
          rw [Flash.busyAfterProgram, if_pos fault] at settles
          omega
    exact Flash.stores faultless writable (describes.totalPages ▸ inRange)

/-- Verifying a page only reads it. -/
theorem programVerified_writes (valid : base.geometry.Valid) (covers : base.geometry.RowsCover)
    (inRange : page < base.geometry.totalPages) (fits : data.length ≤ base.geometry.rawPageSize) :
    (programVerified page data).Effects base d fun result after said =>
      Writes base page data d after result ∧ said = [] := by
  rw [programVerified_eq]
  refine .bind (programPage_writes valid covers inRange fits) ?_ ?_
  · exact fun e after said reached => ⟨⟨reached.1.programs, nofun⟩, reached.2⟩
  · rintro status after said ⟨written, rfl⟩
    have short : data.length ≤ maxReadLength := Nat.le_trans fits valid.dimensions.rawPageSize
    refine (reads_reading.verifyPage page short).effects fun result last same => ?_
    refine ⟨⟨same ▸ written.programs, fun bounded _ _ => ?_⟩, rfl⟩
    rw [same]
    exact written.stored bounded status rfl

theorem tryPage_writes (valid : base.geometry.Valid) (covers : base.geometry.RowsCover)
    (inRange : page < base.geometry.totalPages) (fits : data.length ≤ base.geometry.rawPageSize) :
    (tryPage page data).Effects base d fun result after said =>
      d.flash.Programs page data after.flash ∧ said = [] ∧
        (base.config.polling.polls ≤ Chip.stuckBusy → result = .ok none →
          after.flash.cells page = Chip.programmedCells (d.flash.cells page) 0 data) := by
  have once : ((fun _ => (none : Option Error)) <$> programVerified page data).Effects base d
      fun result after said => d.flash.Programs page data after.flash ∧ said = [] ∧
        (base.config.polling.polls ≤ Chip.stuckBusy → result = .ok none →
          after.flash.cells page = Chip.programmedCells (d.flash.cells page) 0 data) := by
    refine .map ((programVerified_writes valid covers inRange fits).mono ?_)
    rintro result after said ⟨written, rfl⟩
    refine ⟨written.programs, rfl, fun bounded succeeded => ?_⟩
    cases result with
    | ok status => exact written.stored bounded status rfl
    | error e => cases succeeded
  refine .tryCatch once (fun _ _ _ reached => reached) ?_
  rintro e after said ⟨programs, rfl, _⟩
  split
  · exact effects_pure ⟨programs, rfl, nofun⟩
  · exact effects_throw ⟨programs, rfl, nofun⟩

/-- By induction on the attempts left: what the attempts so far did to the page is absorbed by
the next. -/
theorem writeAttempt_writes (valid : base.geometry.Valid) (covers : base.geometry.RowsCover)
    (inRange : page < base.geometry.totalPages) (fits : data.length ≤ base.geometry.rawPageSize)
    (maxAttempts left attempt : Nat) (stats : WriteStats) :
    (writeAttempt page data maxAttempts left attempt stats).Effects base d
      fun result after said =>
        Writes base page data d after result ∧ said.countP Progress.isWritten = 0 := by
  induction left generalizing d attempt stats with
  | zero =>
    refine .bind (tryPage_writes valid covers inRange fits) ?_ ?_
    · rintro e after said ⟨programs, rfl, _⟩
      exact ⟨⟨programs, nofun⟩, rfl⟩
    · rintro failed after said ⟨programs, rfl, stored⟩
      cases failed with
      | none => exact effects_pure ⟨⟨programs, fun bounded _ _ => stored bounded rfl⟩, rfl⟩
      | some e => exact effects_note_bind (effects_throw ⟨⟨programs, nofun⟩, rfl⟩)
  | succ left ih =>
    refine .bind (tryPage_writes valid covers inRange fits) ?_ ?_
    · rintro e after said ⟨programs, rfl, _⟩
      exact ⟨⟨programs, nofun⟩, rfl⟩
    · rintro failed after said ⟨programs, rfl, stored⟩
      cases failed with
      | none => exact effects_pure ⟨⟨programs, fun bounded _ _ => stored bounded rfl⟩, rfl⟩
      | some e =>
        refine effects_note_bind (effects_progress_bind ((ih _ _).mono ?_))
        rintro result last later ⟨again, uncounted⟩
        refine ⟨⟨programs.trans again.programs, fun bounded value succeeded => ?_⟩, uncounted⟩
        exact programs.stored (again.stored bounded value succeeded)

theorem writePage_writes (valid : base.geometry.Valid) (covers : base.geometry.RowsCover)
    (inRange : page < base.geometry.totalPages) (fits : data.length ≤ base.geometry.rawPageSize)
    (stats : WriteStats) :
    (writePage page data stats).Effects base d fun result after said =>
      Writes base page data d after result ∧ said.countP Progress.isWritten = 0 :=
  .get_bind fun _ => writeAttempt_writes valid covers inRange fits _ _ _ _

end Operation
end OnfiFlash
