import OnfiFlash.Link.Scripted
import OnfiFlash.Proofs.CommandTraces
import OnfiFlash.Proofs.InUse

/-! When the page register is taken to hold a page. Over whatever link, a session takes it so only
after a load that succeeded; a load that fails takes it back, but for one that fails before anything
is sent, which leaves the page of an earlier load to be read. -/
namespace OnfiFlash

/-- Among the exchanges is a load that succeeded. -/
def Exchange.Loads (said : List Exchange) : Prop :=
  ∃ (address : List UInt8) (wait : Wait), wait.ready.isError = false ∧
    .sent (.withAddress Opcode.readMode address) :: .sent .load :: wait.exchanges <:+: said

theorem Exchange.Loads.append_left {first : List Exchange} (loads : Loads first)
    (second : List Exchange) : Loads (first ++ second) := by
  obtain ⟨address, wait, noError, among⟩ := loads
  exact ⟨address, wait, noError, among.trans (List.infix_append_left ..)⟩

theorem Exchange.Loads.append_right {second : List Exchange} (first : List Exchange)
    (loads : Loads second) : Loads (first ++ second) := by
  obtain ⟨address, wait, noError, among⟩ := loads
  exact ⟨address, wait, noError, among.trans (List.infix_append_right ..)⟩

/-- A page is loaded by the frame that starts the load. -/
theorem Exchange.Loads.sent_load {said : List Exchange} (loads : Loads said) :
    .sent .load ∈ said := by
  obtain ⟨address, wait, -, among⟩ := loads
  exact among.subset (List.mem_cons_of_mem _ List.mem_cons_self)

/-- The failure of a load leaves the register as it was only if nothing was sent. -/
theorem Loading.reading_iff {g : Geometry} {page : Nat} {before after : ChipState} {e : Error}
    {said : List Exchange} (loading : Loading g page before (.error e) after said) :
    after = .reading ↔ before = .reading ∧ said = [⟨.latch g page, .error e⟩] := by
  cases loading with
  | unlatched => exact (and_iff_left rfl).symm
  | unstarted | unsettled | failed => exact ⟨nofun, fun only => absurd only.2 (by simp)⟩

namespace Operation

open Exchange

variable {α β : Type}

/-- The page register is taken to hold a page only where it was before or a page was loaded. -/
def RegistersLoads (operation : Operation α) : Prop :=
  ∀ session : Session, operation.Trades session fun _ left said =>
    left.state = .reading → session.state = .reading ∨ Loads said

theorem RegistersLoads.bind {first : Operation β} {next : β → Operation α}
    (begun : first.RegistersLoads) (continued : ∀ value, (next value).RegistersLoads) :
    (first >>= next).RegistersLoads := by
  intro session
  refine (begun session).bind (fun e left said reached => reached) fun value left said reached => ?_
  refine (continued value left).mono fun result last later reachedAfter reading => ?_
  rcases reachedAfter reading with before | loads
  · exact (reached before).imp_right fun loads => loads.append_left later
  · exact .inr (loads.append_right said)

theorem RegistersLoads.tryCatch {operation : Operation α} {handler : Error → Operation α}
    (begun : operation.RegistersLoads) (caught : ∀ e, (handler e).RegistersLoads) :
    (tryCatch operation handler).RegistersLoads := by
  intro session
  refine (begun session).tryCatch (fun value left said reached => reached)
    fun e left said reached => ?_
  refine (caught e left).mono fun result last later reachedAfter reading => ?_
  rcases reachedAfter reading with before | loads
  · exact (reached before).imp_right fun loads => loads.append_left later
  · exact .inr (loads.append_right said)

theorem registersLoads_ofQuery (query : Query α) : (ofQuery query).RegistersLoads :=
  fun _ _ _ _ _ => ensures_ofQuery.mpr .inl

theorem registersLoads_throw (e : Error) : (throw e : Operation α).RegistersLoads :=
  fun _ _ _ _ _ => .inl

theorem registersLoads_get : (get : Operation Session).RegistersLoads :=
  fun _ _ _ _ _ => .inl

theorem registersLoads_enter {state : ChipState} (other : state ≠ .reading) :
    (enter state).RegistersLoads := fun _ _ _ _ _ reading => absurd reading other

theorem registersLoads_waitReady : waitReady.RegistersLoads :=
  registersLoads_get.bind fun _ => registersLoads_ofQuery _

theorem registersLoads_closed : Closed fun _ operation => operation.RegistersLoads :=
  .of_catching (fun _ _ _ _ _ _ => .inl) registersLoads_throw RegistersLoads.bind
    RegistersLoads.tryCatch registersLoads_get fun _ => registersLoads_ofQuery _

theorem registersLoads_loadPage (page : Nat) : (loadPage page).RegistersLoads := by
  intro session
  by_cases inRange : page < session.geometry.totalPages
  · refine (trades_loadPage inRange).mono fun result left said reached reading => ?_
    obtain ⟨-, loading⟩ := reached
    rw [reading] at loading
    generalize before : session.state = start at loading
    cases loading with
    | unlatched e => exact .inl rfl
    | loaded wait noError =>
      exact .inr ⟨session.geometry.pageAddress page, wait, noError, List.infix_refl _⟩
  · refine trades_geometry_bind ?_
    rw [Geometry.checkPage_eq_error inRange]
    exact trades_throw_bind .inl

theorem registersLoads_readData (start : Nat) (size? : Option Nat) :
    (readData start size?).RegistersLoads :=
  registersLoads_closed.readData (fun _ _ => registersLoads_ofQuery _)
    (fun _ _ _ => registersLoads_ofQuery _) start size? fun _ _ _ => registersLoads_throw _

theorem registersLoads_hereditary : Hereditary fun _ operation => operation.RegistersLoads where
  toClosed := registersLoads_closed
  progress _ := registersLoads_ofQuery _
  keep _ := fun _ _ _ _ _ => .inl
  readStatus := registersLoads_ofQuery _
  waitReady := registersLoads_waitReady
  loadPage := registersLoads_loadPage
  readData start size? _ := registersLoads_readData start size?
  eraseBlock := registersLoads_closed.eraseBlock (fun _ _ _ => registersLoads_ofQuery _)
    (fun _ => registersLoads_enter) registersLoads_waitReady
  programPage := registersLoads_closed.programPage (fun _ _ _ => registersLoads_ofQuery _)
    (fun _ => registersLoads_enter) (registersLoads_ofQuery _) registersLoads_waitReady

/-- What is asked of a register that holds no page is refused before anything is sent. -/
theorem runIn_readData_unloaded {session : Session} (unloaded : session.state ≠ .reading)
    (start : Nat) (size? : Option Nat) :
    (readData start size?).runIn session = .done (.error .noPageLoaded, session) := by
  unfold readData
  rw [runIn_get_bind]
  dsimp only
  rw [if_pos unloaded]
  rfl

end Operation

namespace Session

open Exchange

variable {σ : Type} [Link σ] [LawfulLink σ]

theorem Call.registersLoads (call : Call) : call.answering.RegistersLoads :=
  call.inherits Operation.registersLoads_hereditary fun start size? _ =>
    Operation.registersLoads_readData start size?

/-- By induction on the calls, from each to the session that it leaves. -/
theorem answers_registersLoads (calls : List Call) (session : Session) (link : σ) :
    let reached := (answers calls session).run link
    reached.value.2.state = .reading →
      session.state = .reading ∨ Loads (Dialogue.exchanges reached.transcript) := by
  induction calls generalizing session link with
  | nil => exact .inl
  | cons call rest ih =>
    simp only [answers, Dialogue.run_bind, Dialogue.run_done, List.append_nil,
      Dialogue.exchanges_append]
    intro reading
    rcases ih _ _ reading with before | loads
    · have called := call.registersLoads session σ link before
      exact called.imp_right fun loads => loads.append_left _
    · exact .inr (loads.append_right _)

/-- A load that fails leaves the page register as one that holds no page, unless it was held to hold
one and the first frame is what failed. Where it holds none, none is read from it, and nothing is
sent for it, until a load succeeds. -/
theorem loadPage_failed_unloads {session : Session} {page : Nat}
    (inRange : page < session.geometry.totalPages) (link : σ) :
    (Operation.loadPage page).Ensures session link fun result left after said =>
      ∀ e, result = .error e →
        (left.state = .reading ↔ session.state = .reading ∧
          Dialogue.exchanges said = [⟨.latch session.geometry page, .error e⟩]) ∧
        (left.state ≠ .reading → ∀ calls : List Call,
          let reached := (answers calls left).run after
          ¬ Loads (Dialogue.exchanges reached.transcript) → ∀ start size?,
            (Operation.readData start size?).runIn reached.value.2
              = .done (.error .noPageLoaded, reached.value.2)) := by
  refine (Operation.trades_loadPage inRange σ link).mono fun result left after said traded => ?_
  rintro e rfl
  obtain ⟨-, loading⟩ := traded
  refine ⟨loading.reading_iff, ?_⟩
  intro unloaded calls reached none start size?
  refine Operation.runIn_readData_unloaded (fun reading => ?_) start size?
  exact (answers_registersLoads calls left after reading).elim unloaded none

/-- A device that loads one page but not the next. -/
theorem loadPage_failed_unloads_scripted :
    let device : Script := { cues := [(⟨Opcode.readStatus, false⟩, [.answer [0xC0]]),
      (⟨Opcode.readStart, true⟩, [.answer [], .fail])] }
    let loaded := ((Operation.loadPage 0).runIn smallSession).run device
    let failed := ((Operation.loadPage 1).runIn loaded.value.2).run loaded.link
    let reached := (answers [.readStatus] failed.value.2).run failed.link
    loaded.value.2.state = .reading ∧ failed.value.1 = .error .transport ∧
      (Operation.readData 0 none).runIn reached.value.2
        = .done (.error .noPageLoaded, reached.value.2) := by
  intro device loaded failed reached
  have failure : failed.value.1 = .error .transport := by decide +kernel
  have unloaded : failed.value.2.state ≠ .reading := by decide +kernel
  have others : ∀ exchange ∈ Dialogue.exchanges reached.transcript,
      exchange.frame.opcode ≠ Opcode.readStart := by decide +kernel
  have inRange : 1 < loaded.value.2.geometry.totalPages := by decide +kernel
  have unloads := loadPage_failed_unloads inRange loaded.link .transport failure
  refine ⟨by decide +kernel, failure, unloads.2 unloaded [.readStatus] (fun loads => ?_) 0 none⟩
  exact others _ loads.sent_load rfl

/-- The page of an earlier load is read as if it were the one whose address could not be sent. -/
theorem loadPage_failed_stale :
    let device : Script := { cues := [(⟨Opcode.readStatus, false⟩, [.answer [0xC0]]),
      (⟨Opcode.readMode, true⟩, [.answer [], .fail]),
      (⟨Opcode.readMode, false⟩, [.answer [0xAA, 0xBB]])] }
    let history : List Call := [.loadPage 0, .loadPage 1, .readData 0 (some 2)]
    ((answers history smallSession).run device).value.1
      = [.ok (.status ⟨0xC0⟩), .error .transport, .ok (.bytes [0xAA, 0xBB])] := by
  decide +kernel

end Session
end OnfiFlash
