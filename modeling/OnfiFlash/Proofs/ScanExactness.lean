import OnfiFlash.Link.Scripted
import OnfiFlash.Proofs.CachedScan

/-! What a scan for bad blocks comes to. On a device whose loads misbehave in the same way every
time, it finds exactly the blocks whose first or last page fails to load or carries a marker that is
mostly cleared, and changes nothing. The table stays with the session for good; a scan that fails
leaves none. -/
namespace OnfiFlash

/-- Blocks in ascending order are listed as they are. -/
theorem BadBlockTable.toList_ofList {blocks : List Nat} (ascending : blocks.Pairwise (· < ·))
    (total : Nat) : (ofList blocks total).toList = blocks := by
  show blocks.foldr insertAscending [] = blocks
  induction blocks with
  | nil => rfl
  | cons head rest ih =>
    obtain ⟨least, ascendingRest⟩ := List.pairwise_cons.mp ascending
    rw [List.foldr_cons, ih ascendingRest]
    cases rest with
    | nil => rfl
    | cons next others => exact if_pos (least next List.mem_cons_self)

namespace Device

variable {d : Device} {g : Geometry} {page : Nat}

/-- Every load of a page of the device misbehaves like the last one. -/
def Lasting (d : Device) (g : Geometry) : Prop :=
  ∀ page < g.totalPages, ∀ injected ∈ d.loadFaults page, injected.remaining = none

/-- Loads change nothing about the loads to come. -/
theorem Lasting.afterLoad (lasting : d.Lasting g) (inRange : page < g.totalPages) :
    d.afterLoad page = { d with loaded := none } := by
  unfold Device.afterLoad
  split
  · rfl
  · next injected faulty =>
    have again : Chip.InjectedFault.afterLoad injected = d.loadFaults page := by
      rw [Chip.InjectedFault.afterLoad, lasting page inRange injected faulty, faulty]
    have same : Chip.assign d.loadFaults page (Chip.InjectedFault.afterLoad injected)
        = d.loadFaults := by
      funext other
      rw [Chip.assign, again]
      split
      · next here => rw [here]
      · rfl
    rw [same]

/-- Do the markers of the block condemn it, or that they cannot be read? -/
def condemned (d : Device) (g : Geometry) (block : Nat) : Bool :=
  condemns (d.marker? g (g.firstPage block)) || condemns (d.marker? g (g.lastPage block))

end Device

namespace Operation

variable {base : Session} {d : Device} {block : Nat}

section Scanning

variable (reaches : base.geometry.Reaches) (settles : d.Settles base.config.polling)
  (lasting : d.Lasting base.geometry)
include reaches settles lasting

theorem readMarker_lasting {page : Nat} (inRange : page < base.geometry.totalPages) :
    (readMarker page).Succeeds base d fun marker after =>
      marker = d.marker? base.geometry page ∧ ∃ loaded, after = { d with loaded } := by
  apply (readMarker_settled reaches inRange settles).mono
  rintro _ after _ ⟨marker, rfl, shown, same⟩
  rw [lasting.afterLoad inRange] at same
  exact ⟨marker, rfl, shown, after.loaded, same⟩

/-- Looking at a block changes nothing but what is loaded in the end. -/
theorem isBadBlock_lasting (onDevice : block < base.geometry.totalBlocks) :
    (isBadBlock block).Succeeds base d fun bad after =>
      bad = d.condemned base.geometry block ∧ ∃ loaded, after = { d with loaded } := by
  have dimensions := reaches.valid.dimensions
  have first := dimensions.firstPage_lt onDevice
  have last := dimensions.lastPage_lt onDevice
  apply Effects.geometry_bind
  apply Effects.require_bind (Geometry.checkBlock_eq onDevice)
  apply (readMarker_lasting reaches settles lasting first).bind
  rintro _ _ ⟨rfl, loaded, rfl⟩
  rw [Device.condemned]
  cases condemns (d.marker? base.geometry (base.geometry.firstPage block)) with
  | true => exact succeeds_pure ⟨rfl, loaded, rfl⟩
  | false =>
    apply Succeeds.bind (readMarker_lasting (d := { d with loaded }) reaches settles lasting last)
    rintro _ _ ⟨rfl, reloaded, rfl⟩
    exact succeeds_pure ⟨rfl, reloaded, rfl⟩

/-- By induction on the blocks left: those found so far stay in front. -/
theorem scanFrom_lasting (count : Nat) (bad : List Nat)
    (onDevice : block + count ≤ base.geometry.totalBlocks) :
    (scanFrom count block bad).Succeeds base d fun found after =>
      found = bad.reverse ++ (List.range' block count).filter (d.condemned base.geometry) ∧
        ∃ loaded, after = { d with loaded } := by
  induction count generalizing block bad d with
  | zero =>
    rw [List.range'_zero, List.filter_nil, List.append_nil]
    exact succeeds_pure ⟨rfl, d.loaded, rfl⟩
  | succ count ih =>
    have here : block < base.geometry.totalBlocks := by omega
    have behind : block + 1 + count ≤ base.geometry.totalBlocks := by omega
    apply (isBadBlock_lasting reaches settles lasting here).bind
    rintro _ _ ⟨rfl, loaded, rfl⟩
    rw [List.range'_succ, List.filter_cons]
    have rest : ∀ bad, (scanFrom count (block + 1) bad).Succeeds base { d with loaded } _ :=
      fun bad => ih (d := { d with loaded }) settles lasting bad behind
    cases d.condemned base.geometry block with
    | true =>
      apply effects_note_bind
      apply (rest (block :: bad)).mono
      rintro _ _ _ ⟨found, rfl, rfl, reloaded, rfl⟩
      refine ⟨_, rfl, ?_, reloaded, rfl⟩
      rw [List.reverse_cons, List.append_assoc]
      rfl
    | false => exact rest bad

theorem scanDevice_lasting :
    scanDevice.Succeeds base d fun table after =>
      table = .ofList ((List.range base.geometry.totalBlocks).filter (d.condemned base.geometry))
        base.geometry.totalBlocks ∧ ∃ loaded, after = { d with loaded } := by
  apply Effects.geometry_bind
  have onDevice : 0 + base.geometry.totalBlocks ≤ base.geometry.totalBlocks := by omega
  apply (scanFrom_lasting reaches settles lasting _ [] onDevice).bind
  rintro _ _ ⟨rfl, loaded, rfl⟩
  rw [List.reverse_nil, List.nil_append, ← List.range_eq_range']
  exact succeeds_pure ⟨rfl, loaded, rfl⟩

end Scanning

def scanAndKeep : Operation BadBlockTable := do
  let total := (← geometry).totalBlocks
  let table := .ofList (← scanFrom total 0 []) total
  modify fun session => { session with badBlocks := some table }
  return table

/-- No step but a scan changes the table of a session. -/
theorem fixes_table : Working fun _ operation => operation.Fixes Session.badBlocks :=
  fixes_working fun _ _ => rfl

/-- A table at hand is yielded at once. -/
theorem badBlockTable_cached {session : Session} {table : BadBlockTable}
    (cached : session.badBlocks = some table) :
    badBlockTable.runIn session = .done (.ok table, session) := by
  rw [badBlockTable, runIn_get_bind, cached]
  rfl

/-- What a scan finds is kept with the session. -/
theorem badBlockTable_scans {session : Session} {chip : Chip} (reaches : session.geometry.Reaches)
    (settles : (session.device chip).Settles session.config.polling)
    (lasting : (session.device chip).Lasting session.geometry)
    (serving : Serving session session chip) (uncached : session.badBlocks = none) :
    badBlockTable.Ensures session chip fun result left after _ => ∃ table : BadBlockTable,
      table = .ofList ((List.range session.geometry.totalBlocks).filter
        ((session.device chip).condemned session.geometry)) session.geometry.totalBlocks ∧
      result = .ok table ∧ left.badBlocks = some table ∧ after.flash = chip.flash := by
  rw [badBlockTable, ensures_bind, ensures_get]
  dsimp only
  rw [uncached]
  have scanned := scanDevice_lasting reaches settles lasting session chip serving rfl
  refine .bind scanned ?_ ?_
  · rintro e _ _ _ ⟨-, _, raised, -⟩
    cases raised
  · rintro _ left after _ ⟨-, table, ⟨⟩, rfl, loaded, same⟩
    exact ⟨_, rfl, rfl, rfl, congrArg Device.flash same⟩

theorem badBlockTable_uncached {session : Session} (uncached : session.badBlocks = none) :
    badBlockTable.runIn session = scanAndKeep.runIn session := by
  rw [badBlockTable, runIn_get_bind, uncached]
  simp only [scanDevice, scanAndKeep, bind_assoc, pure_bind]

/-- A scan that fails leaves no table behind, whatever the link. -/
theorem badBlockTable_fails {session : Session} (uncached : session.badBlocks = none) {σ : Type}
    [Link σ] (link : σ) :
    badBlockTable.Ensures session link fun result left _ _ =>
      ∀ e, result = .error e → left.badBlocks = none := by
  rw [badBlockTable, ensures_bind, ensures_get]
  dsimp only
  rw [uncached]
  refine .bind (fixes_table.scanDevice σ session link) ?_ ?_
  · intro e left _ _ kept _ _
    exact kept.trans uncached
  · rintro table left after _ _ e raised
    cases raised

end Operation

namespace Chip

/-- Does the page condemn its block: does it fail to load, or is its first spare byte mostly
cleared? -/
def condemns (chip : Chip) (page : Nat) : Bool :=
  ((chip.loadFaults page).any fun injected => injected.fault = .readError) ||
    ((chip.cells page)[chip.config.bytesPerPage]?.any fun marker => bitCount marker ≤ 4)

/-- The blocks that are condemned by their first or by their last page, in ascending order. -/
def condemned (chip : Chip) : List Nat :=
  (List.range chip.config.totalBlocks).filter fun block =>
    chip.condemns (block * chip.config.pagesPerBlock) ||
      chip.condemns (block * chip.config.pagesPerBlock + chip.config.pagesPerBlock - 1)

end Chip

namespace Session

variable {start chip : Chip} {session : Session}

theorem condemns_marker? (describes : session.geometry.Describes chip.config) (page : Nat) :
    OnfiFlash.condemns ((session.device chip).marker? session.geometry page)
      = chip.condemns page := by
  have failed_iff : (session.device chip).fault? page = some .readError ↔
      ((chip.loadFaults page).any fun injected => injected.fault = .readError) = true := by
    show (chip.loadFaults page).map (·.fault) = some .readError ↔ _
    cases chip.loadFaults page <;> simp
  rw [Device.marker?, Chip.condemns, describes.bytesPerPage]
  by_cases failed : (session.device chip).fault? page = some .readError
  · rw [if_pos failed, failed_iff.mp failed]
    rfl
  · rw [if_neg failed, Bool.eq_false_iff.mpr (mt failed_iff.mpr failed), Bool.false_or,
      List.headD_eq_head?_getD, List.head?_drop]
    show OnfiFlash.condemns (some ((chip.cells page)[session.geometry.bytesPerPage]?.getD _)) = _
    cases (chip.cells page)[session.geometry.bytesPerPage]? <;> rfl

theorem condemned_device (describes : session.geometry.Describes chip.config) :
    (List.range session.geometry.totalBlocks).filter
      ((session.device chip).condemned session.geometry) = chip.condemned := by
  rw [Chip.condemned, describes.totalBlocks, describes.pagesPerBlock]
  refine List.filter_congr fun block _ => ?_
  rw [Device.condemned, condemns_marker? describes, condemns_marker? describes]
  rfl

/-- A call leaves the table that the session keeps. -/
theorem Call.retains (call : Call) {table : BadBlockTable} (cached : session.badBlocks = some table)
    {σ : Type} [Link σ] (link : σ) :
    call.answering.Ensures session link fun _ left _ _ => left.badBlocks = some table := by
  by_cases scans : call = .badBlockTable
  · subst scans
    have looked : Operation.badBlockTable.Ensures session link fun _ left _ _ =>
        left.badBlocks = some table := by
      unfold Operation.Ensures
      rw [Operation.badBlockTable_cached cached]
      exact cached
    exact .bind looked (fun _ _ _ _ kept => kept) fun _ _ _ _ kept => kept
  · have kept := call.inherits_working Operation.fixes_table
      (fun start size? _ => Operation.fixes_readData start size?) (fun same => absurd same scans)
    exact (kept σ session link).mono fun _ _ _ _ same => same.trans cached

/-- By induction on the calls. -/
theorem answers_retain (calls : List Call) {table : BadBlockTable}
    (cached : session.badBlocks = some table) {σ : Type} [Link σ] (link : σ) :
    ((answers calls session).run link).value.2.badBlocks = some table := by
  induction calls generalizing session link with
  | nil => exact cached
  | cons call rest ih =>
    rw [answers, Dialogue.run_bind]
    simp only [Dialogue.run_bind, Dialogue.run_done]
    exact ih (call.retains cached link) _

/-- On a chip whose rows are covered and whose faults do not pass, a first scan finds exactly the
blocks that are condemned, in ascending order, and changes neither the cells nor the logs. Later
calls yield the same table and send nothing, whatever is called in between. Over whatever link, a
scan that fails leaves no table, so that the next one starts over with the first block. -/
theorem badBlockTable_exact (sound : start.Sound) (fits : start.config.Fits)
    (covers : start.config.geometry.RowsCover)
    (addressed : 0 < start.config.columnCycles + start.config.rowCycles)
    (inUse : session.InUse start chip) (uncached : session.badBlocks = none)
    (settles : chip.config.busyPolls < session.config.polling.polls)
    (lasting : ∀ page < session.geometry.totalPages, ∀ injected ∈ chip.loadFaults page,
      injected.remaining = none) :
    let scan := (Operation.badBlockTable.runIn session).run chip
    (∃ table : BadBlockTable, scan.value.1 = .ok table ∧ table.toList = chip.condemned ∧
      table.total = chip.config.totalBlocks ∧
      ∀ (σ : Type) [Link σ] (between : List Call) (link : σ),
        let later := ((answers between scan.value.2).run link).value.2
        Operation.badBlockTable.runIn later = .done (.ok table, later)) ∧
    (scan.link.cells = chip.cells ∧ scan.link.eraseLog = chip.eraseLog ∧
      scan.link.programLog = chip.programLog) ∧
    ∀ (σ : Type) [Link σ] (fresh : Session) (link : σ), fresh.badBlocks = none →
      let failed := (Operation.badBlockTable.runIn fresh).run link
      ∀ e, failed.value.1 = .error e → failed.value.2.badBlocks = none ∧
        Operation.badBlockTable.runIn failed.value.2
          = Operation.scanAndKeep.runIn failed.value.2 := by
  intro scan
  obtain ⟨serving, -⟩ := inUse.serving sound fits
  have describes := inUse.describes sound fits
  have reaches : session.geometry.Reaches :=
    ⟨session.valid, describes.rowsCover covers, describes.addressed addressed⟩
  obtain ⟨table, rfl, found, kept, same⟩ :=
    Operation.badBlockTable_scans reaches settles lasting serving uncached
  refine ⟨⟨_, found, ?_, serving.describes.totalBlocks.symm, ?_⟩, ⟨congrArg Flash.cells same,
    congrArg (fun flash => flash.erased.reverse) same,
    congrArg (fun flash => flash.programmed.reverse) same⟩, ?_⟩
  · rw [condemned_device serving.describes]
    exact BadBlockTable.toList_ofList (List.pairwise_lt_range.filter _) _
  · intro σ _ between link
    exact Operation.badBlockTable_cached (answers_retain between kept link)
  · intro σ _ fresh link none failed e raised
    have left := Operation.badBlockTable_fails none link e raised
    exact ⟨left, Operation.badBlockTable_uncached left⟩

end Session

namespace Opening

def scan (opening : Opening) : Dialogue.Outcome Chip (Except Error BadBlockTable × Session) :=
  (Operation.badBlockTable.runIn opening.session).run opening.chip

end Opening

/-- A session with the small chip, one page of which always fails to load. -/
def failingOpening : Opening where
  start := smallChip.injectFault 4 .readError none
  opens := by decide +kernel

namespace Session

/-- The block of that page is found along with the one that is bad from the factory. A link that
refuses the first load leaves no table. -/
theorem badBlockTable_exact_small :
    let scan := failingOpening.scan
    let later := ((answers [.writeImage 0 [7]] scan.value.2).run scan.link).value.2
    let mute : Script := { cues := [(⟨Opcode.readStart, true⟩, [.fail])] }
    let failed := (Operation.badBlockTable.runIn smallSession).run mute
    (∃ table : BadBlockTable, scan.value.1 = .ok table ∧ table.toList = [1, 2] ∧
      Operation.badBlockTable.runIn later = .done (.ok table, later)) ∧
    scan.link.cells = failingOpening.chip.cells ∧
    failed.value.1 = .error .transport ∧ failed.value.2.badBlocks = none := by
  intro scan later mute failed
  have fits : failingOpening.start.config.Fits := .of_valid (by decide) (by decide)
  have covers : failingOpening.start.config.geometry.RowsCover := by decide
  have uncached : failingOpening.session.badBlocks = none := by decide +kernel
  have settles : failingOpening.chip.config.busyPolls
      < failingOpening.session.config.polling.polls := by decide +kernel
  have lasting : ∀ page < failingOpening.session.geometry.totalPages,
      ∀ injected ∈ failingOpening.chip.loadFaults page, injected.remaining = none := by
    decide +kernel
  have sound : failingOpening.start.Sound := ⟨(Chip.sound_ofConfig smallChip.config).sized, rfl⟩
  obtain ⟨⟨table, found, listed, -, retained⟩, ⟨same, -⟩, next⟩ :=
    badBlockTable_exact sound fits covers (by decide) failingOpening.inUse uncached settles lasting
  have condemned : failingOpening.chip.condemned = [1, 2] := by decide +kernel
  have lost : failed.value.1 = .error .transport := by decide +kernel
  refine ⟨⟨table, found, listed.trans condemned, retained Chip _ _⟩, same, lost, ?_⟩
  exact (next Script smallSession mute (by decide +kernel) _ lost).1

end Session

/-- A chip with a cleared marker whose column cycles do not fit the parameter page. -/
def markedOpening : Opening where
  start := unfitOpening.start.setPage 1 (List.replicate 12 0xFF ++ [0])
  opens := by decide +kernel

namespace Session

/-- Both are needed: that the cycles fit, and that no response waits when the session is opened. On
the first chip the block that is condemned is not found, on the second the responses pass for markers
that condemn good blocks. -/
theorem badBlockTable_strays :
    (∀ opening ∈ [markedOpening, unreadOpening], opening.Scannable ∧
      0 < opening.start.config.columnCycles + opening.start.config.rowCycles ∧
      0 < opening.start.config.sparePerPage) ∧
    (markedOpening.scan.value.1 = .ok (.ofList [] 4) ∧ markedOpening.chip.condemned = [1]) ∧
    (unreadOpening.scan.value.1 = .ok (.ofList [0, 1] 2) ∧ unreadOpening.chip.condemned = []) := by
  refine ⟨?_, by decide +kernel, by decide +kernel⟩
  simp only [List.forall_mem_cons, List.not_mem_nil, false_imp_iff, implies_true, and_true]
  refine ⟨⟨⟨?_, ?_, ?_⟩, ?_⟩, ⟨?_, ?_, ?_⟩, ?_⟩
  all_goals decide +kernel

end Session
end OnfiFlash
