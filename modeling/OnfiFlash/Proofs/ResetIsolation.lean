import OnfiFlash.Proofs.InUse
import OnfiFlash.Proofs.Polling
import OnfiFlash.Proofs.Simulation

/-! What a reset leaves of the past. It clears everything that is latched or flagged but not the
page register; and the register is read only once a load has filled it. So a session that begins
with a reset cannot tell two chips apart that hold the same. -/
namespace OnfiFlash

namespace Chip

variable {chip twin : Chip}

/-- The chips hold the same and behave the same, whatever their command interfaces are up to. -/
structure SameContents (chip twin : Chip) : Prop where
  config : twin.config = chip.config
  cells : twin.cells = chip.cells
  loadFaults : twin.loadFaults = chip.loadFaults
  programFaults : twin.programFaults = chip.programFaults
  eccEnabled : twin.eccEnabled = chip.eccEnabled
  programmed : twin.programmed = chip.programmed
  protectAfter : twin.protectAfter = chip.protectAfter

/-- The chips differ at most in what the page register holds and in what they count. -/
def Alike (chip twin : Chip) : Prop :=
  ∃ register column frames erased, twin = { chip with register, column, frames, erased }

/-- The page registers are the same and are read from the same column. -/
def SameRegister (chip twin : Chip) : Prop :=
  twin.register = chip.register ∧ twin.column = chip.column

theorem Alike.sameContents (alike : chip.Alike twin) : chip.SameContents twin := by
  obtain ⟨_, _, _, _, rfl⟩ := alike
  exact ⟨rfl, rfl, rfl, rfl, rfl, rfl, rfl⟩

theorem Alike.counted (alike : chip.Alike twin) : chip.counted.Alike twin.counted := by
  obtain ⟨_, _, _, _, rfl⟩ := alike
  exact ⟨_, _, _, _, rfl⟩

theorem Alike.pending (alike : chip.Alike twin) : twin.pending = chip.pending := by
  obtain ⟨_, _, _, _, rfl⟩ := alike
  rfl

/-- What alike chips do with one and the same command: they answer the same and are alike again, and
page registers that were the same stay so. -/
structure Echo (same : Prop) (reply echo : Reply Chip (List UInt8)) : Prop where
  result : echo.result = reply.result
  notices : echo.notices = reply.notices
  alike : reply.state.Alike echo.state
  register : same → reply.state.SameRegister echo.state

/-- A load that succeeds makes the page registers the same. -/
theorem Alike.readStart (alike : chip.Alike twin) :
    twin.readStart.2 = chip.readStart.2 ∧ chip.readStart.1.Alike twin.readStart.1 ∧
      (chip.readStart.1.failed = false → chip.readStart.1.SameRegister twin.readStart.1) ∧
      (chip.SameRegister twin → chip.readStart.1.SameRegister twin.readStart.1) := by
  obtain ⟨register, column, frames, erased, rfl⟩ := alike
  unfold Chip.readStart
  cases chip.latched with
  | none => exact ⟨rfl, ⟨_, _, _, _, rfl⟩, nofun, id⟩
  | some place =>
    dsimp only
    split
    · unfold Chip.loadPage
      dsimp only [start]
      cases chip.loadFaults place.2 with
      | none => exact ⟨rfl, ⟨_, _, _, _, rfl⟩, fun _ => ⟨rfl, rfl⟩, fun _ => ⟨rfl, rfl⟩⟩
      | some injected =>
        dsimp only
        cases injected.fault <;>
          exact ⟨rfl, ⟨_, _, _, _, rfl⟩, fun _ => ⟨rfl, rfl⟩, fun _ => ⟨rfl, rfl⟩⟩
    · exact ⟨rfl, ⟨_, _, _, _, rfl⟩, nofun, id⟩

theorem Alike.eraseConfirm (alike : chip.Alike twin) :
    chip.eraseConfirm.Alike twin.eraseConfirm ∧
      (chip.SameRegister twin → chip.eraseConfirm.SameRegister twin.eraseConfirm) := by
  obtain ⟨register, column, frames, erased, rfl⟩ := alike
  unfold Chip.eraseConfirm
  cases chip.eraseRow with
  | none => exact ⟨⟨_, _, _, _, rfl⟩, id⟩
  | some row =>
    cases refused : chip.refusesErase (row / chip.config.pagesPerBlock)
    all_goals
      rw [refusesErase] at refused
      simp only [refusesErase, refused]
      exact ⟨⟨_, _, _, _, rfl⟩, id⟩

theorem Alike.storeProgram (alike : chip.Alike twin) (program : PendingProgram) :
    (chip.storeProgram program).Alike (twin.storeProgram program) ∧
      (chip.SameRegister twin →
        (chip.storeProgram program).SameRegister (twin.storeProgram program)) := by
  obtain ⟨register, column, frames, erased, rfl⟩ := alike
  unfold Chip.storeProgram
  cases chip.protectAfter with
  | none => exact ⟨⟨_, _, _, _, rfl⟩, id⟩
  | some programs =>
    dsimp only
    split <;> exact ⟨⟨_, _, _, _, rfl⟩, id⟩

theorem Alike.programConfirm (alike : chip.Alike twin) :
    twin.programConfirm.result = chip.programConfirm.result ∧
      twin.programConfirm.notices = chip.programConfirm.notices ∧
      chip.programConfirm.state.Alike twin.programConfirm.state ∧
      (chip.SameRegister twin →
        chip.programConfirm.state.SameRegister twin.programConfirm.state) := by
  obtain ⟨register, column, frames, erased, rfl⟩ := alike
  unfold Chip.programConfirm
  cases chip.program with
  | none => exact ⟨rfl, rfl, ⟨_, _, _, _, rfl⟩, id⟩
  | some program =>
    dsimp only
    cases chip.programFaults program.page with
    | some fault => cases fault <;> exact ⟨rfl, rfl, ⟨_, _, _, _, rfl⟩, id⟩
    | none =>
      dsimp only
      split
      · exact ⟨rfl, rfl, ⟨_, _, _, _, rfl⟩, id⟩
      · have taken : Alike { chip.start with
            program := none
            programmed := program.page :: chip.programmed } _ :=
          ⟨register, column, frames, erased, rfl⟩
        obtain ⟨stored, same⟩ := taken.storeProgram program
        exact ⟨rfl, rfl, stored, same⟩

theorem Alike.setFeatures (alike : chip.Alike twin) (feature mode : Option UInt8) :
    (chip.setFeatures feature mode).Alike (twin.setFeatures feature mode) ∧
      (chip.SameRegister twin →
        (chip.setFeatures feature mode).SameRegister (twin.setFeatures feature mode)) := by
  obtain ⟨register, column, frames, erased, rfl⟩ := alike
  unfold Chip.setFeatures
  split
  · dsimp only
    split <;> exact ⟨⟨_, _, _, _, rfl⟩, id⟩
  · exact ⟨⟨_, _, _, _, rfl⟩, id⟩

/-- Reading the page register gives the same if it holds the same or if nothing is asked for. -/
theorem Alike.readRegister (alike : chip.Alike twin) {length : Nat}
    (same : length = 0 ∨ chip.SameRegister twin) :
    (twin.readRegister length).2 = (chip.readRegister length).2 ∧
      (chip.readRegister length).1.Alike (twin.readRegister length).1 ∧
      (chip.SameRegister twin →
        (chip.readRegister length).1.SameRegister (twin.readRegister length).1) := by
  refine ⟨?_, ?_, fun same => ⟨same.1, congrArg (· + length) same.2⟩⟩
  · rcases same with rfl | ⟨register, column⟩
    · simp [Chip.readRegister, resized]
    · rw [Chip.readRegister, Chip.readRegister, register, column]
  · obtain ⟨register, column, frames, erased, rfl⟩ := alike
    exact ⟨_, _, _, _, rfl⟩

/-- Alike chips echo every frame that does not read from the page register; and if the page
registers are the same, every frame. -/
theorem Alike.handle (alike : chip.Alike twin) (frame : Frame)
    (same : frame.Plain ∨ chip.SameRegister twin) :
    Echo (chip.SameRegister twin) (chip.handle frame) (twin.handle frame) := by
  have asksNothing : ∀ opcode, frame.opcode = opcode → opcode ∉ Opcode.reporting →
      frame.readLength.toNat = 0 ∨ chip.SameRegister twin := by
    rintro opcode rfl other
    exact same.imp_left fun plain => by rw [plain.asks.resolve_right other]; rfl
  refine handle_cases (motive := fun handle =>
      Echo (chip.SameRegister twin) (handle chip) (handle twin)) frame
    ?_ ?_ ?_ ?_ ?register ?_ ?load ?column ?fromColumn ?_ ?erase ?_ ?program ?features ?_
  case register =>
    intro mode _
    obtain ⟨bytes, alike, kept⟩ := alike.readRegister (asksNothing _ mode (by decide))
    exact ⟨congrArg Except.ok bytes, rfl, alike, kept⟩
  case fromColumn =>
    intro start
    obtain ⟨bytes, alike, kept⟩ := alike.readRegister (asksNothing _ start (by decide))
    exact ⟨congrArg Except.ok bytes, rfl, alike, kept⟩
  case load =>
    intro _
    obtain ⟨notices, alike, -, kept⟩ := alike.readStart
    exact ⟨rfl, notices, alike, kept⟩
  case erase =>
    intro _
    obtain ⟨alike, kept⟩ := alike.eraseConfirm
    exact ⟨rfl, rfl, alike, kept⟩
  case program =>
    intro _
    obtain ⟨result, notices, alike, kept⟩ := alike.programConfirm
    exact ⟨congrArg (Except.map fun _ => []) result, notices, alike, kept⟩
  case features =>
    intro _
    obtain ⟨alike, kept⟩ := alike.setFeatures frame.address.head? frame.data.head?
    exact ⟨rfl, rfl, alike, kept⟩
  case column =>
    intro _
    obtain ⟨register, column, frames, erased, rfl⟩ := alike
    exact ⟨rfl, rfl, ⟨_, _, _, _, rfl⟩, fun same => ⟨same.1, rfl⟩⟩
  all_goals
    intros
    obtain ⟨register, column, frames, erased, rfl⟩ := alike
    exact ⟨rfl, rfl, ⟨_, _, _, _, rfl⟩, id⟩

/-- What chips with no response waiting make of a frame is decided by what they make of its
command. -/
theorem agree_execute {related : Chip → Chip → Prop} {frame : Frame} (wellFormed : frame.WellFormed)
    (clear : chip.pending = []) (clearTwin : twin.pending = [])
    (result : (twin.counted.handle frame).result = (chip.counted.handle frame).result)
    (notices : (twin.counted.handle frame).notices = (chip.counted.handle frame).notices)
    (kept : related (chip.counted.handle frame).state (twin.counted.handle frame).state) :
    Link.Agree frame chip twin related := by
  have idle := (pending_handle chip.counted frame).trans clear
  have idleTwin := (pending_handle twin.counted frame).trans clearTwin
  have states := state_execute chip frame clear
  have statesTwin := state_execute twin frame clearTwin
  rw [if_pos wellFormed] at states statesTwin
  refine ⟨?_, ?_, by rw [states, statesTwin]; exact kept⟩
  -- the result and the notices come about in one and the same way
  all_goals
    unfold counted at *
    simp only [Link.execute, Frame.encode_eq frame wellFormed, Link.write, accept,
      Frame.decode_wire frame wellFormed, result, Reply.andThen]
    cases ({ chip with frames := chip.frames + 1 }.handle frame).result with
    | error e => simp [notices]
    | ok response =>
      by_cases silent : frame.readLength = 0
      · simp [silent, notices]
      · by_cases short : response.length < frame.readLength.toNat <;>
          simp [silent, Link.read, take, idle, idleTwin, short, notices]

/-- Alike chips between two commands: no response waits. -/
def Ready (chip twin : Chip) : Prop := chip.Alike twin ∧ chip.pending = []

/-- The same with the same page register. -/
def Loaded (chip twin : Chip) : Prop := chip.Ready twin ∧ chip.SameRegister twin

theorem Ready.clear (ready : chip.Ready twin) : chip.pending = [] ∧ twin.pending = [] :=
  ⟨ready.2, ready.1.pending.trans ready.2⟩

/-- What alike chips come to by a frame that they echo. -/
theorem Ready.agree {related : Chip → Chip → Prop} (ready : chip.Ready twin) {frame : Frame}
    (same : frame.Plain ∨ chip.SameRegister twin) (start : related chip twin)
    (kept : ∀ after afterTwin : Chip, after.Ready afterTwin →
      (chip.SameRegister twin → after.SameRegister afterTwin) → related after afterTwin) :
    Link.Agree frame chip twin related := by
  by_cases wellFormed : frame.WellFormed
  · have echo := ready.1.counted.handle frame same
    refine agree_execute wellFormed ready.clear.1 ready.clear.2 echo.result echo.notices ?_
    refine kept _ _ ⟨echo.alike, ?_⟩ echo.register
    rw [pending_handle]
    exact ready.2
  · constructor <;> simp only [Link.execute, Frame.encode_error frame wellFormed]
    exact start

theorem ready_steady : Query.Steady Ready := fun _ plain _ _ ready =>
  ready.agree (.inl plain) ready fun _ _ after _ => after

theorem Loaded.agree (loaded : chip.Loaded twin) (frame : Frame) :
    Link.Agree frame chip twin Loaded :=
  loaded.1.agree (.inr loaded.2) loaded fun _ _ after kept => ⟨after, kept loaded.2⟩

theorem loaded_steady : Query.Steady Loaded := fun frame _ _ _ loaded => loaded.agree frame

/-- A reset makes chips alike that hold the same. -/
theorem SameContents.agree_reset (same : chip.SameContents twin) (clear : chip.pending = [])
    (clearTwin : twin.pending = []) :
    Link.Agree (.simple Opcode.reset) chip twin Ready := by
  refine agree_execute (by decide) clear clearTwin rfl rfl ⟨?_, clear⟩
  cases chip
  cases twin
  cases same
  subst_vars
  exact ⟨_, _, _, _, rfl⟩

/-- Once a load is begun, the chips are alike; and unless the load has failed, so are the page
registers. -/
theorem Ready.agree_readStart (ready : chip.Ready twin) :
    Link.Agree (.simple Opcode.readStart) chip twin fun after afterTwin =>
      after.Ready afterTwin ∧ (after.failed = false → after.SameRegister afterTwin) := by
  obtain ⟨notices, alike, filled, -⟩ := ready.1.counted.readStart
  refine agree_execute (by decide) ready.clear.1 ready.clear.2 rfl notices ⟨⟨alike, ?_⟩, filled⟩
  rw [pending_handle]
  exact ready.2

end Chip

/-- A wait that ends without the error bit leaves the page registers the same if a load that has not
failed has made them so. -/
theorem Query.matches_pollReady {chip twin : Chip} (ready : chip.Ready twin)
    (filled : chip.failed = false → chip.SameRegister twin) (polling : PollLimit) :
    (pollReady polling).run.Matches chip twin fun result after afterTwin =>
      after.Ready afterTwin ∧
        ∀ status, result = .ok status → status.isError = false → after.SameRegister afterTwin := by
  -- if the page registers still differ, the load has failed, and then so does every status
  by_cases same : chip.SameRegister twin
  · have polled := Chip.loaded_steady.pollReady polling chip twin ⟨ready, same⟩
    exact polled.mono fun _ _ _ loaded => ⟨loaded.1, fun _ _ _ => loaded.2⟩
  · have failed : chip.failed = true := by
      rw [← Bool.not_eq_false]
      exact mt filled same
    have reported : (pollReady polling).Ensures chip fun result _ _ =>
        ∀ status, result = .ok status → status.isError = true := by
      refine Ensures.pollReady polling ready.2 (fun _ _ _ status settled => ?_) fun _ _ _ => nofun
      rw [← Except.ok.inj settled, chip.isError_polled]
      exact failed
    have polled := (Chip.ready_steady.pollReady polling chip twin ready).and_value
      (fun result : Except Error Status => ∀ status, result = .ok status → status.isError = true)
      reported
    refine polled.mono fun result after afterTwin reached => ⟨reached.1, ?_⟩
    intro status settled passed
    exact absurd (reached.2 status settled) (by simp [passed])

namespace Operation

/-- The chips are alike, and while a page is loaded so are their page registers. -/
def Indistinct (state : ChipState) (chip twin : Chip) : Prop :=
  chip.Ready twin ∧ (state = .reading → chip.SameRegister twin)

theorem indistinct_of_elsewhere {state : ChipState} (elsewhere : state ≠ .reading)
    {chip twin : Chip} (ready : chip.Ready twin) : Indistinct state chip twin :=
  ⟨ready, fun reading => absurd reading elsewhere⟩

theorem indistinct_steady (state : ChipState) : Query.Steady (Indistinct state) :=
  fun _ plain _ _ indistinct => indistinct.1.agree (.inl plain) indistinct fun _ _ after kept =>
    ⟨after, fun reading => kept (indistinct.2 reading)⟩

theorem matches_waitReady {chip twin : Chip} {session : Session} (ready : chip.Ready twin)
    (filled : chip.failed = false → chip.SameRegister twin) :
    (waitReady.runIn session).Matches chip twin fun reached after afterTwin =>
      reached.2 = session ∧ after.Ready afterTwin ∧
        ∀ status, reached.1 = .ok status → status.isError = false →
          after.SameRegister afterTwin := by
  rw [waitReady, runIn_get_bind]
  exact matches_ofQuery (Query.matches_pollReady ready filled _)

/-- Loading a page makes the page registers the same, unless it fails. -/
theorem indistinct_loadPage (page : Nat) : Simulates Indistinct (loadPage page) := by
  have closed : Closed fun _ operation => Simulates Indistinct operation := simulates_closed
  refine closed.geometry_bind fun g _ => closed.bind (closed.checkPage g page) fun _ => ?_
  refine closed.bind (simulates_execute indistinct_steady
    (.silent Opcode.readMode rfl (by decide) rfl)) fun _ => ?_
  intro session chip twin start
  rw [runIn_enter_bind]
  have loads : ((execute (.simple Opcode.readStart)).runIn
      { session with state := .addressLoaded }).Matches chip twin fun reached after afterTwin =>
        reached.2 = { session with state := .addressLoaded } ∧ after.Ready afterTwin ∧
          (after.failed = false → after.SameRegister afterTwin) :=
    matches_ofQuery (Query.matches_execute start.1.agree_readStart)
  refine matches_bind loads ?_ ?_
  · rintro e left chip twin ⟨rfl, ready, -⟩
    exact indistinct_of_elsewhere (by simp) ready
  · rintro _ left chip twin ⟨rfl, ready, filled⟩
    rw [runIn_enter_bind]
    refine matches_bind (matches_waitReady ready filled) ?_ ?_
    · rintro e left chip twin ⟨rfl, ready, -⟩
      exact indistinct_of_elsewhere (by simp) ready
    · rintro status left chip twin ⟨rfl, ready, same⟩
      dsimp only
      split
      · exact Dialogue.matches_done (indistinct_of_elsewhere (by simp) ready)
      · next passed =>
        rw [runIn_enter_bind]
        exact Dialogue.matches_done
          ⟨ready, fun _ => same status rfl (Bool.eq_false_iff.mpr passed)⟩

/-- Data is read out of the page register, but only of one that a load has filled. -/
theorem indistinct_readData (start : Nat) (size? : Option Nat) :
    Simulates Indistinct (readData start size?) := by
  have executes (frame : Frame) : Simulates (fun _ => Chip.Loaded) (execute frame) :=
    simulates_ofQuery fun _ _ _ loaded => Query.matches_execute (loaded.agree frame)
  have read : Simulates (fun _ => Chip.Loaded) (readData start size?) :=
    simulates_closed.readData (fun frame _ => executes frame) (fun frame _ _ => executes frame)
      start size? fun _ _ _ => simulates_throw _
  intro session chip twin indistinct
  by_cases reading : session.state = .reading
  · have loaded : chip.Loaded twin := ⟨indistinct.1, indistinct.2 reading⟩
    exact (read session chip twin loaded).mono fun _ _ _ loaded => ⟨loaded.1, fun _ => loaded.2⟩
  · rw [readData, runIn_get_bind]
    dsimp only
    rw [if_pos reading]
    exact Dialogue.matches_done indistinct

theorem indistinct_lockstep : Lockstep Indistinct where
  steady := indistinct_steady
  leaves _ _ _ _ left indistinct := indistinct_of_elsewhere left indistinct.1
  loadPage := indistinct_loadPage
  readData := indistinct_readData

end Operation

/-- If it begins with a reset, opening a session and calling it gives the same answers, session and
transcript on any two chips that hold the same, and leaves them holding the same. -/
theorem Session.converse_isolated {chip twin : Chip} (same : chip.SameContents twin)
    (clear : chip.pending = []) (clearTwin : twin.pending = []) (config : SessionConfig)
    (resets : config.resetFirst = true) (calls : List Call) :
    let ran := (converse config calls).run chip
    let ranTwin := (converse config calls).run twin
    ran.value = ranTwin.value ∧ ran.transcript = ranTwin.transcript ∧
      ran.link.SameContents ranTwin.link := by
  intro ran ranTwin
  have idle {chip twin : Chip} : chip.Ready twin → Operation.Indistinct .idle chip twin :=
    Operation.indistinct_of_elsewhere (by decide)
  have reset : (Query.reset config.polling).run.Matches chip twin fun _ =>
      Operation.Indistinct .idle := by
    refine Query.matches_bind (Query.matches_execute (same.agree_reset clear clearTwin))
      (fun _ _ _ => idle) fun _ chip twin ready => ?_
    exact (Operation.indistinct_steady .idle).pollReady config.polling chip twin (idle ready)
  have matched := matches_converse Operation.indistinct_lockstep config calls (fun _ => reset)
    fun skipped => absurd (skipped.symm.trans resets) (by decide)
  obtain ⟨_, indistinct⟩ := matched.related
  exact ⟨matched.value, matched.transcript, indistinct.1.1.sameContents⟩

/-- Latches, flags and a page register left over from something else do no harm. -/
theorem Session.converse_isolated_small :
    let disturbed : Chip := { smallChip with
      register := [1, 2, 3]
      column := 9
      latched := some (0, 5)
      program := some ⟨0, 3, [0]⟩
      eraseRow := some 2
      failed := true
      refresh := true
      busy := 3 }
    let calls := [.readData 0 none, .writeImage 1 (List.replicate 30 7), .readImage 1]
    ((converse {} calls).run disturbed).value.map Prod.fst = .ok
      [.error .noPageLoaded, .ok (.blocks [2, 3]),
        .ok (.bytes (List.replicate 30 7 ++ List.replicate 6 0))] := by
  intro disturbed calls
  have same : smallChip.SameContents disturbed := ⟨rfl, rfl, rfl, rfl, rfl, rfl, rfl⟩
  obtain ⟨value, -, -⟩ := converse_isolated same rfl rfl {} rfl calls
  rw [← value]
  decide +kernel

end OnfiFlash
