import OnfiFlash.Proofs.BlockChoice
import OnfiFlash.Proofs.InUse

/-! A chip as an array of pages. On a chip that nothing disturbs, each call of a session on a page
or a block does in its many frames what an array of pages does in one step, whatever calls came
before it. -/
namespace OnfiFlash

structure FlashArray where
  geometry : Geometry
  /-- The raw contents of every page. -/
  pages : Nat → List UInt8
  /-- Does erasing the block fail? -/
  unerasable : Nat → Bool
  writeProtected : Bool

inductive ArrayCall where
  | read (page : Nat)
  | program (page : Nat) (data : List UInt8)
  | programVerified (page : Nat) (data : List UInt8)
  | erase (block : Nat)
deriving DecidableEq, Repr

/-- What a call returns that does not fail. -/
inductive ArrayAnswer where
  | bytes (raw : List UInt8)
  | programmed
  /-- An erase with its error bit. -/
  | erased (failed : Bool)
deriving DecidableEq, Repr

namespace FlashArray

/-- Data put over the front of a page: bits can only be cleared. -/
def overlaid (cells data : List UInt8) : List UInt8 :=
  List.zipWith (· &&& ·) cells data ++ cells.drop data.length

/-- The first place at which the front of a page differs from data. -/
def mismatch? (cells data : List UInt8) : Option Nat :=
  (List.zip cells data).findIdx? fun held => held.1 != held.2

def store (array : FlashArray) (page : Nat) (data : List UInt8) : FlashArray :=
  { array with pages := fun other =>
      if other = page then overlaid (array.pages page) data else array.pages other }

def clear (array : FlashArray) (block : Nat) : FlashArray :=
  { array with pages := fun page =>
      if array.geometry.blockOf page = block then List.replicate array.geometry.rawPageSize 0xFF
      else array.pages page }

/-- Why data is not programmed into a page, if it is not. -/
def refusal? (array : FlashArray) (page : Nat) (data : List UInt8) : Option Error :=
  if array.geometry.totalPages ≤ page then some .addressOutOfRange
  else if array.geometry.rawPageSize < data.length then some .imageTooLarge
  else if array.writeProtected then some .writeProtected
  else none

/-- What a call returns and what it makes of the array. -/
def step (array : FlashArray) : ArrayCall → Except Error ArrayAnswer × FlashArray
  | .read page =>
    if page < array.geometry.totalPages then (.ok (.bytes (array.pages page)), array)
    else (.error .addressOutOfRange, array)
  | .program page data =>
    match array.refusal? page data with
    | some e => (.error e, array)
    | none => (.ok .programmed, array.store page data)
  | .programVerified page data =>
    match array.refusal? page data with
    | some e => (.error e, array)
    | none =>
      match mismatch? (overlaid (array.pages page) data) data with
      | some offset => (.error (.verifyMismatch page offset), array.store page data)
      | none => (.ok .programmed, array.store page data)
  | .erase block =>
    if array.geometry.totalBlocks ≤ block then (.error .addressOutOfRange, array)
    else if array.writeProtected || array.unerasable block then (.ok (.erased true), array)
    else (.ok (.erased false), array.clear block)

/-- What one call after another returns and what they make of the array. -/
def run : List ArrayCall → FlashArray → List (Except Error ArrayAnswer) × FlashArray
  | [], array => ([], array)
  | call :: rest, array =>
    let later := run rest (array.step call).2
    ((array.step call).1 :: later.1, later.2)

end FlashArray

namespace ArrayCall

def operation : ArrayCall → Operation ArrayAnswer
  | read page => .bytes <$> Operation.readPage page
  | program page data => (fun _ => .programmed) <$> Operation.programPage page data
  | programVerified page data => (fun _ => .programmed) <$> Operation.programVerified page data
  | erase block => (fun status => .erased status.isError) <$> Operation.eraseBlock block

end ArrayCall

/-- Make one call after another in a session on a chip: what they return and the chip
afterwards. -/
def Session.runCalls : List ArrayCall → Session → Chip → List (Except Error ArrayAnswer) × Chip
  | [], _, chip => ([], chip)
  | call :: rest, session, chip =>
    let outcome := (call.operation.runIn session).run chip
    let later := runCalls rest outcome.value.2 outcome.link
    (outcome.value.1 :: later.1, later.2)

def Flash.array (flash : Flash) (g : Geometry) : FlashArray where
  geometry := g
  pages := flash.cells
  unerasable := flash.config.failsErase
  writeProtected := flash.config.writeProtected

namespace Flash

variable {flash : Flash} {g : Geometry}

theorem array_program {page : Nat} {data : List UInt8} (stored : ¬ flash.Ignores page)
    (unscheduled : flash.protectAfter = none) :
    (flash.program ⟨0, page, data⟩).array g = (flash.array g).store page data := by
  rw [program, if_neg stored]
  dsimp only [array, FlashArray.store]
  congr 1
  · funext other
    rw [Chip.assign, Chip.programmedCells_front]
    rfl
  · simp [protectionDue, unscheduled]

theorem array_erase {block : Nat} (describes : g.Describes flash.config)
    (accepted : flash.refuses block = false) :
    (flash.erase block).array g = (flash.array g).clear block := by
  rw [erase_of_accepts accepted]
  dsimp only [array, FlashArray.clear]
  congr 1
  funext page
  rw [Chip.eraseCells, describes.pagesPerBlock, Chip.Config.erasedPage, describes.rawPageSize]
  rfl

end Flash

namespace Operation

/-- By induction on the data, with as many cells left at each byte. -/
theorem firstDifference_go_eq {cells data : List UInt8} (enough : data.length ≤ cells.length)
    (place : Nat) :
    firstDifference.go (cells.take data.length) data place
      = (FlashArray.mismatch? cells data).map (place + ·) := by
  induction data generalizing cells place with
  | nil => cases cells <;> rfl
  | cons byte rest ih =>
    cases cells with
    | nil => cases enough
    | cons cell cells =>
      have left := Nat.le_of_succ_le_succ enough
      rw [FlashArray.mismatch?, List.zip_cons_cons, List.findIdx?_cons, List.length_cons,
        List.take_succ_cons, firstDifference.go]
      by_cases same : cell = byte
      · rw [if_pos same, ih left, FlashArray.mismatch?]
        simp [same, Option.map_map, Function.comp_def, Nat.add_assoc, Nat.add_comm 1]
      · simp [same]

theorem firstDifference_eq {cells data : List UInt8} (enough : data.length ≤ cells.length) :
    firstDifference (cells.take data.length) data = FlashArray.mismatch? cells data := by
  rw [firstDifference, firstDifference_go_eq enough]
  simp

variable {base : Session} {d : Device}

/-- Nothing disturbs the device, and its write-protect pin stays as it is. -/
structure Steady (base : Session) (d : Device) : Prop where
  undisturbed : d.Undisturbed base
  unscheduled : d.flash.protectAfter = none

/-- The operation does to the array of a steady device what the call does to an array of pages. -/
def Carries (base : Session) (operation : Operation ArrayAnswer) (d : Device) (call : ArrayCall) :
    Prop :=
  operation.Effects base d fun result after _ =>
    Steady base after ∧ (result, after.flash.array base.geometry)
      = (d.flash.array base.geometry).step call

theorem readPage_carries (reaches : base.geometry.Reaches) (steady : Steady base d) (page : Nat) :
    Carries base (ArrayCall.read page).operation d (.read page) := by
  apply Effects.of_serving
  intro describes sized
  by_cases inRange : page < base.geometry.totalPages
  · have whole : (d.flash.cells page).length = base.geometry.rawPageSize := by
      rw [sized page, describes.rawPageSize]
    apply Effects.map
    apply Succeeds.bind (loadPage_settled reaches inRange steady.undisturbed.settles
      (steady.undisturbed.loads page inRange))
    rintro _ _ ⟨-, rfl⟩
    have asked : (none : Option Nat).getD (base.geometry.rawPageSize - 0)
        = base.geometry.rawPageSize := Nat.sub_zero _
    apply Effects.readData reaches.valid rfl (Nat.zero_le _) asked
      reaches.valid.dimensions.rawPageSize
    intro place front
    rw [if_pos rfl] at front
    subst front
    rw [List.drop_zero, Chip.resized_of_le (Nat.le_of_eq whole.symm), ← whole, List.take_length]
    refine ⟨⟨steady.undisturbed.reload _, steady.unscheduled⟩, ?_⟩
    exact (if_pos inRange).symm
  · apply Effects.map
    apply effects_bind
    apply Effects.geometry_bind
    apply effects_require_error (Geometry.checkPage_eq_error inRange)
    exact ⟨steady, (if_neg inRange).symm⟩

/-- A program that is refused does nothing. -/
theorem programPage_refuses (reaches : base.geometry.Reaches) {page : Nat} {data : List UInt8}
    {e : Error} (refused : (d.flash.array base.geometry).refusal? page data = some e) :
    (programPage page data).Effects base d fun result after _ => result = .error e ∧ after = d := by
  unfold FlashArray.refusal? at refused
  split at refused
  · next beyond =>
    cases refused
    apply Effects.geometry_bind
    exact effects_require_error (Geometry.checkPage_eq_error (Nat.not_lt.mpr beyond)) ⟨rfl, rfl⟩
  · next within =>
    have inRange : page < base.geometry.totalPages := Nat.lt_of_not_le within
    split at refused
    · next long =>
      have tooLarge : base.geometry.rawPageSize < data.length := long
      cases refused
      apply Effects.geometry_bind
      apply Effects.require_bind (Geometry.checkPage_eq inRange)
      dsimp only
      rw [if_pos tooLarge]
      exact effects_throw_bind ⟨rfl, rfl⟩
    · next short =>
      have fits : data.length ≤ base.geometry.rawPageSize := Nat.le_of_not_lt short
      split at refused
      · next shielded =>
        have clash : d.flash.config.writeProtected ≠ false := by
          rw [show d.flash.config.writeProtected = true from shielded]
          exact nofun
        cases refused
        apply Effects.programPage reaches.valid reaches.covers inRange fits
        · intro _
          exact ⟨rfl, rfl⟩
        · intro writable
          exact absurd writable clash
        · intro writable
          exact absurd writable clash
        · intro writable
          exact absurd writable clash
      · cases refused

/-- Data that an array of pages takes is taken by the device. -/
theorem of_refusal?_eq_none {page : Nat} {data : List UInt8}
    (describes : base.geometry.Describes d.flash.config) (steady : Steady base d)
    (taken : (d.flash.array base.geometry).refusal? page data = none) :
    page < base.geometry.totalPages ∧ data.length ≤ base.geometry.rawPageSize ∧
      d.flash.config.writeProtected = false ∧ ¬ d.flash.Ignores page := by
  unfold FlashArray.refusal? at taken
  split at taken
  · cases taken
  · next within =>
    split at taken
    · cases taken
    · next short =>
      split at taken
      · cases taken
      · next exposed =>
        have inRange : page < base.geometry.totalPages := Nat.lt_of_not_le within
        have writable : d.flash.config.writeProtected = false := Bool.eq_false_iff.mpr exposed
        exact ⟨inRange, Nat.le_of_not_lt short, writable,
          steady.undisturbed.stores describes writable inRange⟩

theorem Steady.program (steady : Steady base d) (page : Nat) (data : List UInt8)
    (loaded : Option (List UInt8 × Nat)) :
    Steady base { d with flash := d.flash.program ⟨0, page, data⟩, loaded } where
  undisturbed := steady.undisturbed.program _ loaded
  unscheduled := by
    rw [Flash.protectAfter_program]
    exact steady.unscheduled

theorem programPage_carries (reaches : base.geometry.Reaches) (steady : Steady base d)
    (page : Nat) (data : List UInt8) :
    Carries base (ArrayCall.program page data).operation d (.program page data) := by
  apply Effects.of_serving
  intro describes _
  apply Effects.map
  cases taken : (d.flash.array base.geometry).refusal? page data with
  | some e =>
    apply (programPage_refuses reaches taken).mono
    rintro _ _ _ ⟨rfl, rfl⟩
    refine ⟨steady, ?_⟩
    rw [FlashArray.step, taken]
    rfl
  | none =>
    obtain ⟨inRange, fits, writable, stored⟩ := of_refusal?_eq_none describes steady taken
    have faultless := steady.undisturbed.programs page inRange
    have ready : d.flash.busyAfterProgram page < base.config.polling.polls := by
      rw [Flash.busyAfterProgram, faultless, if_neg (Option.some_ne_none _).symm]
      exact steady.undisturbed.settles
    apply Effects.programPage reaches.valid reaches.covers inRange fits
    · intro shielded
      rw [writable] at shielded
      cases shielded
    · intro _ lost
      rw [faultless] at lost
      cases lost
    · intro _ _ late
      exact absurd ready (Nat.not_lt.mpr late)
    · intro _ _ _ status _
      refine ⟨steady.program page data none, ?_⟩
      rw [Flash.array_program stored steady.unscheduled, FlashArray.step, taken]
      rfl

/-- What reading a page back complains about is where the cells differ from the data. -/
theorem complaint?_program {page : Nat} {data : List UInt8}
    (describes : base.geometry.Describes d.flash.config) (sized : d.flash.Sized)
    (fits : data.length ≤ base.geometry.rawPageSize) (stored : ¬ d.flash.Ignores page)
    (calm : (d.program page data).loadFaults page = none) :
    (d.program page data).complaint? page data
      = (FlashArray.mismatch? (FlashArray.overlaid (d.flash.cells page) data) data).map
        (.verifyMismatch page) := by
  have fault := Device.fault?_eq_none calm
  have enough : data.length ≤ ((d.program page data).flash.cells page).length := by
    rw [Device.program, sized.program,
      (describes.of_sameLayout (Flash.sameLayout_program _ _)).rawPageSize]
    exact fits
  rw [Device.complaint?_of_loaded (by simp [fault]) (by simp [fault]),
    Device.contents_of_quiet calm, firstDifference_eq enough, Device.program,
    Flash.cells_program stored, Chip.programmedCells_front]
  rfl

/-- What an array of pages answers when data that it takes is programmed and read back. -/
theorem step_programVerified {page : Nat} {data : List UInt8}
    (taken : (d.flash.array base.geometry).refusal? page data = none) :
    (d.flash.array base.geometry).step (.programVerified page data)
      = match FlashArray.mismatch? (FlashArray.overlaid (d.flash.cells page) data) data with
        | some offset => (.error (.verifyMismatch page offset),
            (d.flash.array base.geometry).store page data)
        | none => (.ok .programmed, (d.flash.array base.geometry).store page data) := by
  rw [FlashArray.step, taken]
  rfl

theorem programVerified_carries (reaches : base.geometry.Reaches) (steady : Steady base d)
    (page : Nat) (data : List UInt8) :
    Carries base (ArrayCall.programVerified page data).operation d (.programVerified page data) := by
  apply Effects.of_serving
  intro describes sized
  apply Effects.map
  cases taken : (d.flash.array base.geometry).refusal? page data with
  | some e =>
    apply Effects.bind (programPage_refuses reaches taken)
    · rintro _ _ _ ⟨⟨⟩, rfl⟩
      refine ⟨steady, ?_⟩
      rw [FlashArray.step, taken]
      rfl
    · rintro _ _ _ ⟨raised, -⟩
      cases raised
  | none =>
    obtain ⟨inRange, fits, writable, stored⟩ := of_refusal?_eq_none describes steady taken
    have calm : (d.program page data).loadFaults page = none :=
      steady.undisturbed.loads page inRange
    apply (programVerified_checks reaches inRange fits steady.undisturbed.settles writable
      (steady.undisturbed.programs page inRange)).mono
    rintro result after _ ⟨same, checked⟩
    rw [Device.afterLoad_of_quiet calm] at same
    rw [same]
    refine ⟨steady.program page data after.loaded, ?_⟩
    rw [complaint?_program describes sized fits stored calm] at checked
    rw [step_programVerified taken]
    dsimp only [Device.program]
    rw [Flash.array_program stored steady.unscheduled]
    cases found : FlashArray.mismatch? (FlashArray.overlaid (d.flash.cells page) data) data with
    | some offset =>
      rw [found] at checked
      rw [checked]
      rfl
    | none =>
      rw [found] at checked
      obtain ⟨status, rfl⟩ := checked
      rfl

theorem eraseBlock_carries (reaches : base.geometry.Reaches) (steady : Steady base d)
    (block : Nat) : Carries base (ArrayCall.erase block).operation d (.erase block) := by
  apply Effects.of_serving
  intro describes _
  apply Effects.map
  by_cases onDevice : block < base.geometry.totalBlocks
  · have within : ¬ base.geometry.totalBlocks ≤ block := Nat.not_le.mpr onDevice
    have known : d.flash.refuses block
        = (d.flash.config.writeProtected || d.flash.config.failsErase block) := by
      rw [Flash.refuses, describes.totalBlocks, decide_eq_false within, Bool.or_false,
        Bool.or_assoc, Chip.Config.failsErase]
    have outcome : (d.flash.array base.geometry).step (.erase block)
        = if d.flash.config.writeProtected || d.flash.config.failsErase block
          then (.ok (.erased true), d.flash.array base.geometry)
          else (.ok (.erased false), (d.flash.array base.geometry).clear block) := if_neg within
    rw [outcome, ← known]
    apply Effects.eraseBlock reaches.valid reaches.covers onDevice
    · intro late
      exact absurd steady.undisturbed.settles late
    · intro _ status reports
      have stays : Steady base { d with flash := d.flash.erase block, loaded := none } := by
        refine ⟨steady.undisturbed.erase block none, ?_⟩
        rw [Flash.protectAfter_erase]
        exact steady.unscheduled
      refine ⟨stays, ?_⟩
      dsimp only [Except.map]
      rw [reports]
      cases accepted : d.flash.refuses block with
      | true =>
        rw [Flash.erase_of_refuses accepted]
        rfl
      | false =>
        rw [Flash.array_erase describes accepted]
        rfl
  · have beyond : (d.flash.array base.geometry).step (.erase block)
        = (.error .addressOutOfRange, d.flash.array base.geometry) :=
      if_pos (Nat.le_of_not_lt onDevice)
    apply Effects.geometry_bind
    apply effects_require_error (if_neg onDevice)
    exact ⟨steady, beyond.symm⟩

/-- One call of a session on a steady device is one step of its array. -/
theorem call_carries (reaches : base.geometry.Reaches) (steady : Steady base d)
    (call : ArrayCall) : Carries base call.operation d call := by
  cases call with
  | read page => exact readPage_carries reaches steady page
  | program page data => exact programPage_carries reaches steady page data
  | programVerified page data => exact programVerified_carries reaches steady page data
  | erase block => exact eraseBlock_carries reaches steady block

end Operation

namespace Session

variable {start chip : Chip} {session base : Session}

/-- By induction on the calls: what a call leaves of the command interface does not matter to the
next one. -/
theorem runCalls_eq (reaches : base.geometry.Reaches) (calls : List ArrayCall)
    (serving : Serving base session chip) (steady : Operation.Steady base (session.device chip)) :
    (session.runCalls calls chip).1 = ((chip.flash.array base.geometry).run calls).1 ∧
      (session.runCalls calls chip).2.flash.array base.geometry
        = ((chip.flash.array base.geometry).run calls).2 := by
  induction calls generalizing session chip with
  | nil => exact ⟨rfl, rfl⟩
  | cons call rest ih =>
    obtain ⟨servingAfter, steadyAfter, stepped⟩ :=
      Operation.call_carries reaches steady call session chip serving rfl
    obtain ⟨answers, last⟩ := ih servingAfter steadyAfter
    have answer := congrArg Prod.fst stepped
    have array : ((call.operation.runIn session).run chip).link.flash.array base.geometry
        = ((chip.flash.array base.geometry).step call).2 := congrArg Prod.snd stepped
    rw [array] at answers last
    exact ⟨congr (congrArg List.cons answer) answers, last⟩

/-- On a chip with a valid layout whose row cycles cover its pages, without faults and without
write protection to come, page and block calls of a session return, one after another, what they
return on an array of pages, and leave the cells that they leave there. -/
theorem runCalls_refines (sound : start.Sound) (valid : start.config.geometry.Valid)
    (units : start.config.unitCount < limit8) (covers : start.config.geometry.RowsCover)
    (addressed : 0 < start.config.columnCycles + start.config.rowCycles)
    (inUse : session.InUse start chip)
    (settles : chip.config.busyPolls < session.config.polling.polls)
    (loads : ∀ page, page < session.geometry.totalPages → chip.loadFaults page = none)
    (programs : ∀ page, page < session.geometry.totalPages → chip.programFaults page = none)
    (unscheduled : chip.protectAfter = none) (calls : List ArrayCall) :
    let ran := session.runCalls calls chip
    let expected := (chip.flash.array session.geometry).run calls
    ran.1 = expected.1 ∧ ∀ page, ran.2.cells page = expected.2.pages page := by
  intro ran expected
  have fits : start.config.Fits := .of_valid valid units
  obtain ⟨serving, -⟩ := inUse.serving sound fits
  have describes := inUse.describes sound fits
  have reaches : session.geometry.Reaches :=
    ⟨session.valid, describes.rowsCover covers, describes.addressed addressed⟩
  have steady : Operation.Steady session (session.device chip) :=
    ⟨⟨settles, loads, programs⟩, unscheduled⟩
  obtain ⟨answers, last⟩ := runCalls_eq reaches calls serving steady
  refine ⟨answers, fun page => ?_⟩
  exact congrFun (congrArg FlashArray.pages last) page

/-- Overwriting data that is still there fails at the first byte that lacks a bit; erasing the
block helps, unless the block is bad. -/
theorem runCalls_refines_small :
    let calls := [.programVerified 4 [0xF0, 0x0F], .programVerified 4 [0xF0, 0xF0], .read 4,
      .erase 2, .program 4 [1], .erase 1, .read 8]
    (smallSession.runCalls calls (afterOpening {} smallChip)).1 =
      [.ok .programmed, .error (.verifyMismatch 4 1),
        .ok (.bytes (0xF0 :: 0 :: List.replicate 13 0xFF)), .ok (.erased false), .ok .programmed,
        .ok (.erased true), .error .addressOutOfRange] := by
  intro calls
  have valid : smallChip.config.geometry.Valid := by decide
  have covers : smallChip.config.geometry.RowsCover := by decide
  have loads : ∀ page, page < smallSession.geometry.totalPages →
      (afterOpening {} smallChip).loadFaults page = none := by decide +kernel
  have programs : ∀ page, page < smallSession.geometry.totalPages →
      (afterOpening {} smallChip).programFaults page = none := by decide +kernel
  have refines := runCalls_refines (Chip.sound_ofConfig _) valid (by decide) covers (by decide)
    smallSession_inUse (by decide +kernel) loads programs (by decide +kernel) calls
  rw [refines.1]
  decide +kernel

/-- Where responses wait when the session is opened, a read returns them and not the page. -/
theorem runCalls_strays :
    let session := ofOpening unread_opens
    let chip := afterOpening bareOpening smallChip.unread
    (chip.config.geometry.Valid ∧ chip.config.geometry.RowsCover ∧
      chip.config.busyPolls < session.config.polling.polls ∧ chip.protectAfter = none ∧
      ∀ page, page < session.geometry.totalPages →
        chip.loadFaults page = none ∧ chip.programFaults page = none) ∧
    (session.runCalls [.read 0] chip).1
      ≠ ((chip.flash.array session.geometry).run [.read 0]).1 := by
  decide +kernel

end Session
end OnfiFlash
