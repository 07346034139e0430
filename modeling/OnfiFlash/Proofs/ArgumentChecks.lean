import OnfiFlash.Link.Scripted
import OnfiFlash.Proofs.Admission
import OnfiFlash.Proofs.InUse

/-! Calls with bad arguments. A call whose page, block, column or data is out of bounds is refused
before anything is sent, reported or changed; and no other call ever ends in such an error. -/
namespace OnfiFlash

def beyond? (limit number : Nat) : Option Error :=
  if limit ≤ number then some .addressOutOfRange else none

def tooLong? (limit : Nat) (data : List UInt8) : Option Error :=
  if limit < data.length then some .imageTooLarge else none

section

variable {limit number : Nat} {data : List UInt8} {e : Error}

theorem of_beyond (refused : beyond? limit number = some e) :
    limit ≤ number ∧ e = .addressOutOfRange := by
  unfold beyond? at refused
  split at refused
  · next beyond => exact ⟨beyond, (Option.some.inj refused).symm⟩
  · cases refused

theorem of_tooLong (refused : tooLong? limit data = some e) :
    limit < data.length ∧ e = .imageTooLarge := by
  unfold tooLong? at refused
  split at refused
  · next tooLong => exact ⟨tooLong, (Option.some.inj refused).symm⟩
  · cases refused

theorem beyond_eq_none_iff : beyond? limit number = none ↔ number < limit := by
  unfold beyond?
  split <;> simp <;> omega

theorem tooLong_eq_none_iff : tooLong? limit data = none ↔ data.length ≤ limit := by
  unfold tooLong?
  split <;> simp <;> omega

end

namespace Session.Call

/-- Why a call is refused for its arguments, if it is: its page or block is beyond the device, its
column is beyond the page that is loaded, or its data does not fit. -/
def refusal? (session : Session) : Call → Option Error
  | loadPage page | readPage page | readImage page | writeImage page _ =>
    beyond? session.geometry.totalPages page
  | eraseBlock block | isBadBlock block => beyond? session.geometry.totalBlocks block
  | programPage page data | programVerified page data =>
    (beyond? session.geometry.totalPages page).or (tooLong? session.geometry.rawPageSize data)
  | writeBlock block data =>
    (beyond? session.geometry.totalBlocks block).or (tooLong? session.geometry.blockSize data)
  | readData start _ =>
    if session.state = .reading then beyond? (session.geometry.rawPageSize + 1) start else none
  | readStatus | waitReady | scanDevice | badBlockTable => none

end Session.Call

namespace Operation

variable {α β : Type}

/-- In this session the operation is refused at once: it does nothing but end in the error. -/
def Rejects (session : Session) (operation : Operation α) (e : Error) : Prop :=
  operation.runIn session = .done (.error e, session)

variable {session : Session} {e : Error}

theorem Rejects.bind {first : Operation β} (rejects : first.Rejects session e)
    (next : β → Operation α) : (first >>= next).Rejects session e := by
  unfold Rejects
  rw [runIn_bind, rejects]
  rfl

theorem Rejects.map {operation : Operation β} (rejects : operation.Rejects session e)
    (change : β → α) : (change <$> operation).Rejects session e :=
  rejects.bind fun value => pure (change value)

theorem rejects_geometry_bind {next : Geometry → Operation α}
    (rejects : (next session.geometry).Rejects session e) :
    (geometry >>= next).Rejects session e := rejects

theorem rejects_require_bind {checked : Except Error β} {next : β → Operation α}
    (failed : checked = .error e) : (require checked >>= next).Rejects session e := by
  rw [failed]
  rfl

theorem Rejects.ensures {operation : Operation α} (rejects : operation.Rejects session e)
    {σ : Type} [Link σ] {link : σ}
    {post : Except Error α → Session → σ → List Dialogue.Entry → Prop}
    (ended : post (.error e) session link []) : operation.Ensures session link post := by
  unfold Ensures
  rw [rejects]
  exact ended

/-- A page that is checked first. -/
theorem rejects_checkPage {page : Nat} (refused : beyond? session.geometry.totalPages page = some e)
    (next : Geometry → Unit → Operation α) :
    (geometry >>= fun g => require (g.checkPage page) >>= next g).Rejects session e := by
  obtain ⟨beyond, rfl⟩ := of_beyond refused
  exact rejects_geometry_bind (rejects_require_bind (if_neg (Nat.not_lt.mpr beyond)))

/-- A block that is checked first. -/
theorem rejects_checkBlock {block : Nat}
    (refused : beyond? session.geometry.totalBlocks block = some e)
    (next : Geometry → Unit → Operation α) :
    (geometry >>= fun g => require (g.checkBlock block) >>= next g).Rejects session e := by
  obtain ⟨beyond, rfl⟩ := of_beyond refused
  exact rejects_geometry_bind (rejects_require_bind (if_neg (Nat.not_lt.mpr beyond)))

theorem rejects_programPage {page : Nat} {data : List UInt8}
    (refused : (beyond? session.geometry.totalPages page).or
      (tooLong? session.geometry.rawPageSize data) = some e) :
    (programPage page data).Rejects session e := by
  rcases Option.or_eq_some_iff.mp refused with beyond | ⟨inRange, overlong⟩
  · exact rejects_checkPage beyond _
  · obtain ⟨tooLong, rfl⟩ := of_tooLong overlong
    refine rejects_geometry_bind ?_
    rw [Geometry.checkPage_eq (beyond_eq_none_iff.mp inRange), if_pos tooLong]
    rfl

theorem rejects_writeBlock {block : Nat} {data : List UInt8}
    (refused : (beyond? session.geometry.totalBlocks block).or
      (tooLong? session.geometry.blockSize data) = some e) :
    (writeBlock block data).Rejects session e := by
  rcases Option.or_eq_some_iff.mp refused with beyond | ⟨onDevice, overlong⟩
  · exact rejects_checkBlock beyond _
  · obtain ⟨tooLong, rfl⟩ := of_tooLong overlong
    refine rejects_geometry_bind ?_
    rw [Geometry.checkBlock_eq (beyond_eq_none_iff.mp onDevice), if_pos tooLong]
    rfl

theorem rejects_unloaded (start : Nat) (size? : Option Nat) (unloaded : session.state ≠ .reading) :
    (readData start size?).Rejects session .noPageLoaded := by
  unfold Rejects
  rw [readData, runIn_get_bind, if_pos unloaded]
  rfl

theorem rejects_readData {start : Nat} (size? : Option Nat)
    (refused : (if session.state = .reading then beyond? (session.geometry.rawPageSize + 1) start
      else none) = some e) :
    (readData start size?).Rejects session e := by
  split at refused
  · next loaded =>
    obtain ⟨beyond, rfl⟩ := of_beyond refused
    have overrun : session.geometry.rawPageSize < start := beyond
    unfold Rejects
    rw [readData, runIn_get_bind, if_neg (not_not_intro loaded)]
    simp only [if_pos overrun]
    rfl
  · cases refused

end Operation

namespace Session.Call

variable {session : Session} {e : Error}

/-- A call that is to be refused is refused at once. -/
theorem rejects (call : Call) (refused : call.refusal? session = some e) :
    call.answering.Rejects session e := by
  cases call with
  | readStatus | waitReady | scanDevice | badBlockTable => cases refused
  | loadPage page => exact (Operation.rejects_checkPage refused _).map _
  | readData start size? => exact (Operation.rejects_readData size? refused).map _
  | readPage page => exact ((Operation.rejects_checkPage refused _).bind _).map _
  | eraseBlock block => exact (Operation.rejects_checkBlock refused _).map _
  | programPage page data => exact (Operation.rejects_programPage refused).map _
  | programVerified page data => exact ((Operation.rejects_programPage refused).bind _).map _
  | isBadBlock block => exact (Operation.rejects_checkBlock refused _).map _
  | readImage indexPage => exact (Operation.rejects_checkPage refused _).map _
  | writeImage indexPage data => exact (Operation.rejects_checkPage refused _).map _
  | writeBlock block data => exact (Operation.rejects_writeBlock refused).map _

/-- A call that is not to be refused does not fail for its arguments, whatever comes of it. -/
theorem admitted (call : Call) (unrefused : call.refusal? session = none) {σ : Type} [Link σ]
    [LawfulLink σ] (neutral : Link.Neutral σ) (link : σ) :
    call.answering.Ensures session link fun result _ _ _ =>
      ∀ e, result = .error e → ¬ e.OutOfBounds := by
  have ends {α : Type} {operation : Operation α} {wrap : α → Answer} {post : α → Prop}
      (admitted : operation.Admitted session.geometry post) :
      (wrap <$> operation).Ensures session link fun result _ _ _ =>
        ∀ e, result = .error e → ¬ e.OutOfBounds := by
    have wrapped : (wrap <$> operation).Admitted session.geometry fun _ => True :=
      admitted.map fun _ _ => trivial
    refine (wrapped σ neutral session link rfl).mono ?_
    rintro _ _ _ _ ⟨-, other⟩ e rfl
    exact other
  cases call with
  | readStatus => exact ends Operation.admitted_readStatus
  | waitReady => exact ends Operation.admitted_waitReady
  | loadPage page => exact ends (Operation.admitted_loadPage (beyond_eq_none_iff.mp unrefused))
  | readData start size? =>
    by_cases loaded : session.state = .reading
    · have within := beyond_eq_none_iff.mp ((if_pos loaded).symm.trans unrefused)
      exact ends (Operation.admitted_readData (Nat.le_of_lt_succ within) size?)
    · refine ((Operation.rejects_unloaded start size? loaded).map Answer.bytes).ensures ?_
      rintro _ ⟨⟩
      exact nofun
  | readPage page => exact ends (Operation.admitted_readPage (beyond_eq_none_iff.mp unrefused))
  | eraseBlock block => exact ends (Operation.admitted_eraseBlock (beyond_eq_none_iff.mp unrefused))
  | programPage page data =>
    obtain ⟨inRange, fits⟩ := Option.or_eq_none_iff.mp unrefused
    exact ends (Operation.admitted_programPage (beyond_eq_none_iff.mp inRange)
      (tooLong_eq_none_iff.mp fits))
  | programVerified page data =>
    obtain ⟨inRange, fits⟩ := Option.or_eq_none_iff.mp unrefused
    exact ends (Operation.admitted_programVerified (beyond_eq_none_iff.mp inRange)
      (tooLong_eq_none_iff.mp fits))
  | isBadBlock block => exact ends (Operation.admitted_isBadBlock (beyond_eq_none_iff.mp unrefused))
  | scanDevice => exact ends Operation.admitted_scanDevice
  | badBlockTable => exact ends Operation.admitted_badBlockTable
  | readImage indexPage =>
    exact ends (Operation.admitted_readImage (beyond_eq_none_iff.mp unrefused))
  | writeImage indexPage data =>
    exact ends (Operation.admitted_writeImage (beyond_eq_none_iff.mp unrefused) data)
  | writeBlock block data =>
    obtain ⟨onDevice, fits⟩ := Option.or_eq_none_iff.mp unrefused
    exact ends (Operation.admitted_writeBlock (beyond_eq_none_iff.mp onDevice)
      (tooLong_eq_none_iff.mp fits))

/-- A call ends in an error about its arguments exactly if they are out of bounds, and then before
anything is sent, reported or changed. -/
theorem answering_rejects (session : Session) (call : Call) :
    (∀ e, call.refusal? session = some e →
      call.answering.runIn session = .done (.error e, session)) ∧
    (call.refusal? session = none → ∀ (σ : Type) [Link σ] [LawfulLink σ], Link.Neutral σ →
      ∀ (link : σ) (e : Error), ((call.answering.runIn session).run link).value.1 = .error e →
        e ≠ .addressOutOfRange ∧ e ≠ .imageTooLarge) := by
  refine ⟨fun e refused => call.rejects refused, ?_⟩
  intro unrefused σ _ _ neutral link e failed
  have other := call.admitted unrefused neutral link e failed
  exact ⟨fun same => other (same ▸ .address), fun same => other (same ▸ .length)⟩

end Session.Call

/-- A block beyond the device is refused. An image that finds no room on the device fails, but not
for its arguments. -/
theorem Session.Call.answering_rejects_small :
    let beyond := writeBlock 4 [1]
    let homeless := writeImage 0 [1]
    let outcome := (homeless.answering.runIn smallSession).run ({} : Script)
    beyond.refusal? smallSession = some .addressOutOfRange ∧
    beyond.answering.runIn smallSession = .done (.error .addressOutOfRange, smallSession) ∧
    homeless.refusal? smallSession = none ∧ Link.Neutral Script ∧
    outcome.value.1 = .error .outOfSpace ∧
    Error.outOfSpace ≠ .addressOutOfRange ∧ Error.outOfSpace ≠ .imageTooLarge := by
  have beyond : (writeBlock 4 [1]).refusal? smallSession = some .addressOutOfRange := by
    decide +kernel
  have within : (writeImage 0 [1]).refusal? smallSession = none := by decide +kernel
  have failed : (((writeImage 0 [1]).answering.runIn smallSession).run ({} : Script)).value.1
      = .error .outOfSpace := by decide +kernel
  exact ⟨beyond, (answering_rejects _ _).1 _ beyond, within, Script.conforming.neutral, failed,
    (answering_rejects _ _).2 within Script Script.conforming.neutral {} _ failed⟩

end OnfiFlash
