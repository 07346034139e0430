import OnfiFlash.Proofs.ChipInvariants
import OnfiFlash.Proofs.WriteTrace

/-! What an image write counts as erased and what is erased. Every erase that is tried is counted,
and a block whose erase fails is counted as passed over as well. So the totals agree with the erase
log exactly where no erase fails. -/
namespace OnfiFlash

/-- The blocks of which it is reported that they are about to be erased, in order. -/
def Progress.announced (said : List Progress) : List Nat :=
  said.filterMap fun
    | .erasing block => some block
    | _ => none

namespace Progress

theorem announced_append (said later : List Progress) :
    announced (said ++ later) = announced said ++ announced later := List.filterMap_append

theorem length_announced (said : List Progress) :
    (announced said).length = said.countP isErasing := by
  induction said with
  | nil => rfl
  | cons step rest ih =>
    cases step with
    | erasing block => exact (congrArg (· + 1) ih).trans (List.countP_cons_of_pos rfl).symm
    | _ => exact ih.trans (List.countP_cons_of_neg Bool.false_ne_true).symm

end Progress

theorem announced_retries (page attempt : Nat) (causes : List Error) :
    Progress.announced (retries page attempt causes) = [] :=
  List.eq_nil_of_length_eq_zero
    ((Progress.length_announced _).trans (countP_isErasing_retries page attempt causes))

/-- What becomes of a block that a search for a usable block comes to: it is known to be bad, its
erase fails, or it is erased and used. -/
inductive Fate where
  | bad
  | failed
  | used
  deriving DecidableEq

namespace Fate

def isTried : Fate → Bool
  | bad => false
  | failed | used => true

def isUsed : Fate → Bool
  | used => true
  | bad | failed => false

def isSkipped (fate : Fate) : Bool := !fate.isUsed

/-- Of the blocks from `first` on, the ones whose fates are as asked. -/
def blocks (asked : Fate → Bool) : (first : Nat) → (fates : List Fate) → List Nat
  | _, [] => []
  | first, fate :: rest =>
    if asked fate then first :: blocks asked (first + 1) rest else blocks asked (first + 1) rest

theorem blocks_append (asked : Fate → Bool) (first : Nat) (fates more : List Fate) :
    blocks asked first (fates ++ more)
      = blocks asked first fates ++ blocks asked (first + fates.length) more := by
  induction fates generalizing first with
  | nil => rfl
  | cons fate rest ih =>
    have behind : first + 1 + rest.length = first + (fate :: rest).length := by
      rw [List.length_cons]
      omega
    simp only [List.cons_append, blocks, ih, behind]
    split <;> rfl

theorem length_blocks (asked : Fate → Bool) (first : Nat) (fates : List Fate) :
    (blocks asked first fates).length = fates.countP asked := by
  induction fates generalizing first with
  | nil => rfl
  | cons fate rest ih =>
    simp only [blocks, List.countP_cons]
    split
    · rw [List.length_cons, ih]
    · exact ih (first + 1)

/-- An erase is tried of the blocks that are used and of those whose erase fails. -/
theorem countP_isTried (fates : List Fate) :
    fates.countP isTried = fates.countP isUsed + fates.count failed := by
  induction fates with
  | nil => rfl
  | cons fate rest ih => cases fate <;> simp [List.countP_cons, isTried, isUsed] <;> omega

theorem countP_isSkipped (fates : List Fate) :
    fates.countP isSkipped = fates.count bad + fates.count failed := by
  induction fates with
  | nil => rfl
  | cons fate rest ih => cases fate <;> simp [isSkipped, isUsed] <;> omega

end Fate

/-- From one total to another, the blocks whose erase was tried were counted as erased, and those
that were passed over as skipped. -/
structure WriteStats.Counted (before : WriteStats) (fates : List Fate) (after : WriteStats) :
    Prop where
  erased : after.erased = before.erased + fates.countP Fate.isTried
  skipped : after.skipped = before.skipped + fates.countP Fate.isSkipped

theorem WriteStats.Counted.trans {before mid after : WriteStats} {fates more : List Fate}
    (begun : before.Counted fates mid) (continued : mid.Counted more after) :
    before.Counted (fates ++ more) after where
  erased := by rw [continued.erased, begun.erased, List.countP_append, Nat.add_assoc]
  skipped := by rw [continued.skipped, begun.skipped, List.countP_append, Nat.add_assoc]

/-- A part of an image write that goes through the blocks from `first` to `next`: what is counted
and reported on the way, and how many blocks are erased. -/
structure Passage (first next : Nat) (before after : WriteStats) (fates : List Fate)
    (logged : List Nat) (said : List Progress) : Prop where
  onward : next = first + fates.length
  counted : before.Counted fates after
  announced : Progress.announced said = Fate.blocks Fate.isTried first fates
  logged : logged.length = fates.countP Fate.isUsed

namespace Passage

variable {first mid next : Nat} {before between after : WriteStats} {fates more : List Fate}
  {logged rest : List Nat} {said later : List Progress}

/-- Nothing is erased where the write stands. -/
theorem stay (block : Nat) (erased : after.erased = before.erased)
    (skipped : after.skipped = before.skipped) (silent : Progress.announced said = []) :
    Passage block block before after [] [] said := ⟨rfl, ⟨erased, skipped⟩, silent, rfl⟩

theorem pass (block : Nat) (stats : WriteStats) :
    Passage block (block + 1) stats { stats with skipped := stats.skipped + 1 } [.bad] [] [] :=
  ⟨rfl, ⟨rfl, rfl⟩, rfl, rfl⟩

/-- Here a block is counted twice. -/
theorem fail (block : Nat) (stats : WriteStats) (none : logged.length = 0) :
    Passage block (block + 1) stats
      { stats with erased := stats.erased + 1, skipped := stats.skipped + 1 } [.failed] logged
      [.erasing block] := ⟨rfl, ⟨rfl, rfl⟩, rfl, none⟩

theorem take (block : Nat) (stats : WriteStats) (one : logged.length = 1) :
    Passage block (block + 1) stats { stats with erased := stats.erased + 1 } [.used] logged
      [.erasing block] := ⟨rfl, ⟨rfl, rfl⟩, rfl, one⟩

theorem trans (begun : Passage first mid before between fates logged said)
    (continued : Passage mid next between after more rest later) :
    Passage first next before after (fates ++ more) (logged ++ rest) (said ++ later) where
  onward := by rw [continued.onward, begun.onward, List.length_append, Nat.add_assoc]
  counted := begun.counted.trans continued.counted
  announced := by
    rw [Progress.announced_append, begun.announced, continued.announced, begun.onward,
      ← Fate.blocks_append]
  logged := by rw [List.length_append, begun.logged, continued.logged, List.countP_append]

end Passage

namespace Chip

/-- A confirmed erase is logged unless it fails. -/
theorem eraseLog_erasing (chip : Chip) (row : Nat) :
    ∃ logged, (chip.erasing row).eraseLog = chip.eraseLog ++ logged ∧
      logged.length = if (chip.erasing row).failed then 0 else 1 := by
  have erased : (chip.erasing row).erased
      = (chip.flash.erase (row / chip.config.pagesPerBlock)).erased :=
    congrArg Flash.erased (flash_erasing chip row)
  rw [eraseLog, erased, failed_erasing]
  cases refused : chip.flash.refuses (row / chip.config.pagesPerBlock) with
  | true =>
    rw [Flash.erase_of_refuses refused]
    exact ⟨[], (List.append_nil _).symm, rfl⟩
  | false =>
    rw [Flash.erase_of_accepts refused]
    exact ⟨[_], List.reverse_cons, rfl⟩

/-- Only a confirmed erase is logged as one. -/
theorem erased_execute (chip : Chip) (frame : Frame) (clear : chip.pending = [])
    (other : frame.opcode ≠ Opcode.eraseConfirm) :
    (Link.execute frame chip).state.erased = chip.erased := by
  rw [state_execute chip frame clear]
  split
  · rcases flash_handle chip.counted frame with same | ⟨_, erases, _⟩ | ⟨pending, _, _, programmed⟩
    · exact congrArg Flash.erased same
    · exact absurd erases other
    · exact (congrArg Flash.erased programmed).trans (Flash.erased_program _ _)
  · rfl

end Chip

namespace Operation

variable {α β : Type} {g : Geometry}

theorem sustains_erased_execute {log : List Nat} {frame : Frame} {opcodes : List UInt8}
    (among : frame.opcode ∈ opcodes) (others : Opcode.eraseConfirm ∉ opcodes) :
    (execute frame).Sustains fun chip => chip.erased = log := by
  have other : frame.opcode ≠ Opcode.eraseConfirm := fun confirms => others (confirms ▸ among)
  exact sustains_execute fun chip clear same =>
    (Chip.erased_execute chip frame clear other).trans same

theorem sustains_erased_waitReady {log : List Nat} :
    waitReady.Sustains fun chip => chip.erased = log := sustains_waitReady fun _ _ => id

/-- Reading and programming erases nothing. -/
theorem sustains_erased (log : List Nat) :
    Programming fun _ operation => operation.Sustains fun chip => chip.erased = log where
  toClosed := sustains_closed _
  readStatus := sustains_readStatus fun _ _ => id
  loadPage := (sustains_closed _).loadPage
    (fun _ _ among => sustains_erased_execute among (by decide)) sustains_enter
    sustains_erased_waitReady
  readData start size? _ := (sustains_closed _).readData
    (fun _ reads => sustains_erased_execute reads.opcode (by decide))
    (fun _ _ among => sustains_erased_execute among (by decide)) start size?
    fun _ _ _ => sustains_throw _
  programPage := (sustains_closed _).programPage
    (fun _ _ among => sustains_erased_execute among (by decide))
    (fun state _ => sustains_enter state) (sustains_readStatus fun _ _ => id)
    sustains_erased_waitReady

def Spares (operation : Operation α) : Prop :=
  ∀ log, operation.Sustains fun chip => chip.erased = log

/-- In every session with the geometry and on every chip with no response waiting: if the operation
succeeds, no response is waiting afterwards, and its value, what was added to the erase log and what
was reported are as `post` says. -/
def Accounts (g : Geometry) (operation : Operation α)
    (post : α → (logged : List Nat) → (said : List Progress) → Prop) : Prop :=
  ∀ (session : Session) (chip : Chip), session.geometry = g → chip.pending = [] →
    operation.Leads session chip fun result left after said => ∀ value, result = .ok value →
      left.geometry = g ∧ after.pending = [] ∧
        ∃ logged, after.eraseLog = chip.eraseLog ++ logged ∧ post value logged said

variable {post : α → List Nat → List Progress → Prop}

theorem Accounts.mono {operation : Operation α} {strong : α → List Nat → List Progress → Prop}
    (accounts : operation.Accounts g strong)
    (weaker : ∀ value logged said, strong value logged said → post value logged said) :
    operation.Accounts g post := by
  intro session chip same clear
  refine (accounts session chip same clear).mono fun _ _ _ said reached value succeeded => ?_
  obtain ⟨kept, idle, logged, log, ended⟩ := reached value succeeded
  exact ⟨kept, idle, logged, log, weaker value logged said ended⟩

theorem accounts_pure {value : α} (ended : post value [] []) :
    (pure value : Operation α).Accounts g post := by
  rintro session chip same clear _ ⟨⟩
  exact ⟨same, clear, [], (List.append_nil _).symm, ended⟩

theorem accounts_throw (e : Error) : (throw e : Operation α).Accounts g post :=
  fun _ _ _ _ => nofun

theorem Accounts.bind {first : Operation β} {next : β → Operation α}
    {mid : β → List Nat → List Progress → Prop} (begun : first.Accounts g mid)
    (continued : ∀ value logged said, mid value logged said →
      (next value).Accounts g fun result more later =>
        post result (logged ++ more) (said ++ later)) :
    (first >>= next).Accounts g post := by
  intro session chip same clear
  refine leads_bind.mpr
    ((begun session chip same clear).mono fun result left after said reached => ?_)
  cases result with
  | error e => exact nofun
  | ok value =>
    obtain ⟨kept, idle, logged, log, reached⟩ := reached value rfl
    refine (continued value logged said reached left after kept idle).mono ?_
    intro result last final later reachedAfter answer succeeded
    obtain ⟨keptAfter, idleAfter, more, logAfter, ended⟩ := reachedAfter answer succeeded
    exact ⟨keptAfter, idleAfter, logged ++ more, by rw [logAfter, log, List.append_assoc], ended⟩

theorem accounts_throw_bind (e : Error) {next : β → Operation α} :
    ((throw e : Operation β) >>= next).Accounts g post := accounts_throw e

theorem accounts_require_bind {checked : Except Error β} {next : β → Operation α}
    (passed : ∀ value, checked = .ok value → (next value).Accounts g post) :
    (require checked >>= next).Accounts g post := by
  cases checked with
  | error e => exact accounts_throw e
  | ok value => exact passed value rfl

theorem accounts_geometry_bind {next : Geometry → Operation α}
    (continued : (next g).Accounts g post) : (geometry >>= next).Accounts g post := by
  rintro session chip rfl clear
  exact leads_geometry_bind.mpr (continued session chip rfl clear)

theorem accounts_note_bind {notice : Notice} {next : Unit → Operation α}
    (continued : (next ()).Accounts g post) : (note notice >>= next).Accounts g post :=
  fun session chip same clear => leads_note_bind.mpr (continued session chip same clear)

theorem accounts_progress_bind {step : Progress} {next : Unit → Operation α}
    (continued : (next ()).Accounts g fun result logged later =>
      post result logged (step :: later)) :
    (progress step >>= next).Accounts g post :=
  fun session chip same clear => leads_bind.mpr (continued session chip same clear)

/-- What erases nothing adds nothing to the log; the rest is known over any link. -/
theorem Spares.accounts {operation : Operation α} (spares : operation.Spares)
    {known : Except Error α → List Progress → Prop} (reports : operation.Reports g known) :
    operation.Accounts g fun value logged said => logged = [] ∧ known (.ok value) said := by
  rintro session chip same clear value succeeded
  obtain ⟨idle, unerased⟩ := spares chip.erased session chip clear rfl
  obtain ⟨kept, reached⟩ := reports Chip session chip same
  refine ⟨kept, idle, [], ?_, rfl, succeeded ▸ reached⟩
  rw [Chip.eraseLog, unerased, List.append_nil, Chip.eraseLog]

theorem Spares.bind_accounts {first : Operation β} {next : β → Operation α} (spares : first.Spares)
    (tacit : first.Tacit g) (continued : ∀ value, (next value).Accounts g post) :
    (first >>= next).Accounts g post := by
  refine .bind (spares.accounts tacit) ?_
  rintro value _ _ ⟨rfl, rfl⟩
  exact continued value

/-- An erase whose status reports no error has added a block to the log. -/
theorem eraseBlock_accounts (block : Nat) :
    (eraseBlock block).Accounts g fun status logged said =>
      logged.length = (if status.isError then 0 else 1) ∧ said = [] := by
  refine accounts_geometry_bind (accounts_require_bind fun _ _ => ?_)
  intro session chip same clear
  have valid : g.Valid := same ▸ session.valid
  have few := valid.dimensions.rowAddress_le (g.firstPage block)
  rw [leads_enter_bind]
  refine .execute_bind clear ⟨few, Nat.zero_le _⟩ (Chip.handle_eraseSetup _ _) rfl ?_
  refine .execute_bind (by exact clear) (by decide) (Chip.handle_eraseConfirm _) rfl ?_
  generalize Geometry.decodeRow (g.rowAddress (g.firstPage block)) = row
  show (waitReady >>= _).Leads _ (chip.counted.erasing row) _
  have idle : (chip.counted.erasing row).pending = [] := (Chip.pending_erasing _ row).trans clear
  refine .waitReady_bind idle (fun _ => ?_) fun _ => nofun
  obtain ⟨logged, log, length⟩ := Chip.eraseLog_erasing chip.counted row
  rw [← Chip.isError_polled] at length
  have told : ∀ status, status.isError
        = ((chip.counted.erasing row).polled (chip.counted.erasing row).busy).status.isError →
      (pure status : Operation Status).Leads { session with state := .idle }
        ((chip.counted.erasing row).polled ((chip.counted.erasing row).busy + 1))
        fun result left after said => ∀ value, result = .ok value →
          left.geometry = g ∧ after.pending = [] ∧ ∃ logged,
            after.eraseLog = chip.eraseLog ++ logged ∧
            logged.length = (if value.isError then 0 else 1) ∧ said = [] := by
    rintro status reports _ ⟨⟩
    exact ⟨same, idle, logged, log, reports ▸ length, rfl⟩
  dsimp only
  rw [leads_enter_bind]
  split
  · rw [leads_note_bind]
    exact told _ rfl
  · exact told _ rfl

/-- Writing a page erases nothing. -/
theorem writePage_accounts (block page : Nat) (data : List UInt8) (stats : WriteStats) :
    (writePage page data stats).Accounts g fun after logged said =>
      Passage block block stats after [] logged said := by
  have spares : (writePage page data stats).Spares := fun log =>
    (sustains_erased log).writePage sustains_progress page data stats
  refine (spares.accounts (writePage_reports page data stats)).mono ?_
  rintro after _ _ ⟨rfl, causes, rfl, counted⟩
  obtain ⟨tallied, kept⟩ := counted after rfl
  have erased := tallied.erased
  rw [countP_isErasing_retries] at erased
  exact .stay block erased kept (announced_retries page 1 causes)

/-- By induction on the blocks left to search: the search ends with the block that it finds. -/
theorem findBlock_accounts (start count block : Nat) (stats : WriteStats) :
    (findBlock start count block stats).Accounts g fun reached logged said =>
      ∃ fates, Passage block (reached.1 + 1) stats reached.2 fates logged said ∧
        Fate.blocks Fate.isUsed block fates = [reached.1] := by
  induction count generalizing block stats with
  | zero => exact accounts_note_bind (accounts_throw _)
  | succ count ih =>
    have spares : (isKnownBad block).Spares := fun log => (sustains_erased log).isKnownBad block
    refine spares.bind_accounts ((tacit_driving g).isKnownBad block) fun bad => ?_
    split
    · refine accounts_note_bind ((ih (block + 1) _).mono ?_)
      rintro reached logged said ⟨fates, passage, used⟩
      exact ⟨.bad :: fates, (Passage.pass block stats).trans passage, used⟩
    · refine accounts_progress_bind ((eraseBlock_accounts block).bind ?_)
      rintro status logged said ⟨length, rfl⟩
      dsimp only
      split
      · next failed =>
        rw [if_pos failed] at length
        refine accounts_note_bind ((ih (block + 1) _).mono ?_)
        rintro reached more later ⟨fates, passage, used⟩
        exact ⟨.failed :: fates, (Passage.fail block stats length).trans passage, used⟩
      · next erased =>
        rw [if_neg erased] at length
        refine accounts_pure ⟨[.used], ?_, rfl⟩
        rw [List.append_nil]
        exact .take block stats length

section Pieces

variable {cursor mid next : WriteCursor} {fates more : List Fate} {logged rest : List Nat}
  {said later : List Progress}

/-- From one cursor to another the write went through the blocks between them and used some. -/
structure WriteCursor.Proceeds (cursor next : WriteCursor) (fates : List Fate) (logged : List Nat)
    (said : List Progress) : Prop where
  passage : Passage cursor.nextBlock next.nextBlock cursor.stats next.stats fates logged said
  used : next.used = (Fate.blocks Fate.isUsed cursor.nextBlock fates).reverse ++ cursor.used

namespace WriteCursor.Proceeds

theorem refl (cursor : WriteCursor) : cursor.Proceeds cursor [] [] [] :=
  ⟨.stay _ rfl rfl rfl, rfl⟩

theorem trans (begun : cursor.Proceeds mid fates logged said)
    (continued : mid.Proceeds next more rest later) :
    cursor.Proceeds next (fates ++ more) (logged ++ rest) (said ++ later) where
  passage := begun.passage.trans continued.passage
  used := by
    rw [continued.used, begun.used, begun.passage.onward, Fate.blocks_append, List.reverse_append,
      List.append_assoc]

end WriteCursor.Proceeds

theorem advance_accounts (cursor : WriteCursor) :
    cursor.advance.Accounts g fun next logged said =>
      ∃ fates, cursor.Proceeds next fates logged said := by
  refine accounts_geometry_bind ?_
  split
  · dsimp only
    split
    · exact accounts_note_bind (accounts_throw_bind _)
    · refine .bind (accounts_geometry_bind (findBlock_accounts _ _ _ _)) ?_
      rintro ⟨block, stats⟩ logged said ⟨fates, passage, used⟩
      refine accounts_pure ⟨fates, ?_, ?_⟩
      · simpa using passage
      · rw [used]
        rfl
  · exact accounts_pure ⟨[], .refl cursor⟩

/-- By induction on the pieces left. -/
theorem writePieces_accounts (pieces : List (List UInt8)) (cursor : WriteCursor) :
    (writePieces pieces cursor).Accounts g fun last logged said =>
      ∃ fates, cursor.Proceeds last fates logged said := by
  induction pieces generalizing cursor with
  | nil => exact accounts_pure ⟨[], .refl cursor⟩
  | cons piece others ih =>
    refine .bind (advance_accounts cursor) ?_
    rintro next logged said ⟨fates, advanced⟩
    refine accounts_geometry_bind (.bind (writePage_accounts next.nextBlock _ _ _) ?_)
    rintro stats rest later written
    refine accounts_progress_bind ((ih (next.past stats)).mono ?_)
    rintro last remaining final ⟨more, continued⟩
    have reported : Passage next.nextBlock next.nextBlock stats stats [] []
        [.written (next.done + 1)] := .stay _ rfl rfl rfl
    have stored : next.Proceeds (next.past stats) [] (rest ++ [])
        (later ++ [.written (next.done + 1)]) := ⟨written.trans reported, rfl⟩
    refine ⟨fates ++ more, ?_⟩
    simpa using (advanced.trans stored).trans continued

end Pieces

theorem eraseRequired_accounts (block : Nat) (stats : WriteStats) :
    (eraseRequired block stats).Accounts g fun after logged said =>
      Passage block (block + 1) stats after [.used] logged said := by
  refine accounts_progress_bind ((eraseBlock_accounts block).bind ?_)
  rintro status logged said ⟨length, rfl⟩
  dsimp only
  split
  · exact accounts_throw_bind _
  · next erased =>
    rw [if_neg erased] at length
    refine accounts_pure ?_
    rw [List.append_nil]
    exact .take block stats length

/-- The index block is erased and counted as one more block that is used. -/
theorem writeRecord_accounts (indexBlock indexPage : Nat) (contents : List UInt8)
    (stats : WriteStats) (used : List Nat) :
    (writeRecord indexBlock indexPage contents stats used).Accounts g fun listed logged said =>
      listed = used ∧ ∃ after, said.getLast? = some (.complete after) ∧
        Passage indexBlock (indexBlock + 1) stats after [.used] logged said := by
  refine .bind (eraseRequired_accounts indexBlock stats) fun erased logged said begun => ?_
  refine .bind (writePage_accounts (indexBlock + 1) indexPage contents erased)
    fun after rest later written => ?_
  refine accounts_progress_bind (accounts_pure ⟨rfl, after, by simp, ?_⟩)
  have completed : Passage (indexBlock + 1) (indexBlock + 1) after after [] [] [.complete after] :=
    .stay _ rfl rfl rfl
  simpa using (begun.trans written).trans completed

/-- The blocks behind the index block are gone through one by one; the index block is erased last. -/
theorem writeImage_accounts (indexPage : Nat) (data : List UInt8) :
    (writeImage indexPage data).Accounts g fun used logged said =>
      ∃ fates stats, used = Fate.blocks Fate.isUsed (g.blockOf indexPage + 1) fates ∧
        Progress.announced said
          = Fate.blocks Fate.isTried (g.blockOf indexPage + 1) fates ++ [g.blockOf indexPage] ∧
        said.getLast? = some (.complete stats) ∧
        logged.length = fates.countP Fate.isUsed + 1 ∧
        ({} : WriteStats).Counted (fates ++ [.used]) stats := by
  have driving := tacit_driving g
  rw [writeImage_eq]
  refine accounts_geometry_bind (accounts_require_bind fun _ _ => ?_)
  have asked : requireWritable.Spares := fun log => (sustains_erased log).requireWritable
  have read : (readMainArea indexPage).Spares := fun log => (sustains_erased log).readMainArea _
  refine asked.bind_accounts driving.requireWritable fun _ => ?_
  refine read.bind_accounts (driving.readMainArea _) fun old => ?_
  refine accounts_progress_bind (.bind (writePieces_accounts _ _) ?_)
  rintro cursor logged said ⟨fates, proceeds⟩
  refine accounts_require_bind fun record _ => (writeRecord_accounts _ _ _ _ _).mono ?_
  rintro _ rest later ⟨rfl, stats, completed, recorded⟩
  have used : cursor.used.reverse = Fate.blocks Fate.isUsed (g.blockOf indexPage + 1) fates := by
    rw [proceeds.used, List.append_nil, List.reverse_reverse]
  refine ⟨fates, stats, used, ?_, ?_, ?_, proceeds.passage.counted.trans recorded.counted⟩
  · show Progress.announced (said ++ later) = _
    rw [Progress.announced_append, proceeds.passage.announced, recorded.announced]
    rfl
  · rw [← List.cons_append, List.getLast?_append, completed]
    rfl
  · rw [List.length_append, proceeds.passage.logged, recorded.logged]
    rfl

end Operation

namespace Session

/-- Whatever the chip, an image write that succeeds adds one block to the erase log for each block
used and one for the index block. Each block gone through for the image is used, known to be bad, or
one whose erase fails; the first are counted as erased and the second as skipped, but the third as
both, so that the total of erased blocks is that of the log exactly if no erase failed. -/
theorem writeImage_erasures (session : Session) (chip : Chip) (clear : chip.pending = [])
    (indexPage : Nat) (data : List UInt8) {used : List Nat}
    (succeeded :
      (((Operation.writeImage indexPage data).runIn session).run chip).value.1 = .ok used) :
    let written := ((Operation.writeImage indexPage data).runIn session).run chip
    let said := Dialogue.progress written.transcript
    let indexBlock := session.geometry.blockOf indexPage
    ∃ (fates : List Fate) (stats : WriteStats) (logged : List Nat),
      used = Fate.blocks Fate.isUsed (indexBlock + 1) fates ∧
      Progress.announced said = Fate.blocks Fate.isTried (indexBlock + 1) fates ++ [indexBlock] ∧
      said.getLast? = some (.complete stats) ∧
      written.link.eraseLog = chip.eraseLog ++ logged ∧ logged.length = used.length + 1 ∧
      stats.erased = logged.length + fates.count .failed ∧
      stats.skipped = fates.count .bad + fates.count .failed ∧
      (stats.erased = logged.length ↔ .failed ∉ fates) := by
  intro written said indexBlock
  obtain ⟨-, -, logged, log, fates, stats, found, announced, completed, length, counted⟩ :=
    Operation.writeImage_accounts indexPage data session chip rfl clear used succeeded
  have taken : logged.length = used.length + 1 := by rw [length, found, Fate.length_blocks]
  have erased : stats.erased = logged.length + fates.count .failed := by
    rw [counted.erased, List.countP_append, Fate.countP_isTried, length]
    show 0 + (_ + _ + 1) = _
    omega
  have skipped : stats.skipped = fates.count .bad + fates.count .failed := by
    rw [counted.skipped, List.countP_append, Fate.countP_isSkipped]
    exact Nat.zero_add _
  refine ⟨fates, stats, logged, found, announced, completed, log, taken, erased, skipped, ?_⟩
  rw [erased, Nat.add_eq_left]
  exact List.count_eq_zero

end Session

/-- The small chip with a block that is not marked but cannot be erased in place of its bad block. -/
def wornOpening : Opening where
  start := .ofConfig { smallChip.config with badBlocks := [], eraseFailures := [1] }
  opens := by decide +kernel

namespace Session

theorem writeImage_erasures_worn :
    let written := ((Operation.writeImage 0 [1]).runIn wornOpening.session).run wornOpening.chip
    let said := Dialogue.progress written.transcript
    written.value.1 = .ok [2] ∧ ∃ (fates : List Fate) (stats : WriteStats),
      [2] = Fate.blocks Fate.isUsed 1 fates ∧
      Progress.announced said = Fate.blocks Fate.isTried 1 fates ++ [0] ∧
      said.getLast? = some (.complete stats) ∧
      stats.erased = 2 + fates.count .failed ∧
      stats.skipped = fates.count .bad + fates.count .failed := by
  intro written said
  have succeeded : written.value.1 = .ok [2] := by decide +kernel
  have clear : wornOpening.chip.pending = [] := by decide +kernel
  have first : wornOpening.session.geometry.blockOf 0 = 0 := by decide +kernel
  obtain ⟨fates, stats, logged, used, announced, completed, -, length, erased, skipped, -⟩ :=
    writeImage_erasures wornOpening.session wornOpening.chip clear 0 [1] succeeded
  rw [first] at used announced
  rw [length] at erased
  exact ⟨succeeded, fates, stats, used, announced, completed, erased, skipped⟩

/-- Three blocks are counted as erased where two are, and the block that is passed over is among
them. -/
theorem writeImage_miscounts :
    let written := ((Operation.writeImage 0 [1]).runIn wornOpening.session).run wornOpening.chip
    written.value.1 = .ok [2] ∧
      (Dialogue.progress written.transcript).getLast?
        = some (.complete { erased := 3, skipped := 1, written := 2 }) ∧
      wornOpening.chip.eraseLog = [] ∧ written.link.eraseLog = [2, 0] := by
  decide +kernel

end Session
end OnfiFlash
