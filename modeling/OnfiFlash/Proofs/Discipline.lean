import OnfiFlash.Proofs.Monitor
import OnfiFlash.Proofs.Polling
import OnfiFlash.Proofs.SessionCalls
import OnfiFlash.Proofs.SessionFrames

/-! The discipline of a session. Whatever a device answers, a session sends it only its own frames;
once the link fails, or a wait is at its limit, it sends nothing more and ends with just that
failure. One walk through the elementary steps shows it for every call and for opening a session. -/
namespace OnfiFlash

/-- The commands that start an operation of the chip, whose end is then polled for. -/
def Opcode.starting : List UInt8 := [reset, setFeatures, readStart, eraseConfirm, programConfirm]

/-- Whether so many busy status reads are all that a wait may take. -/
def PollLimit.spends : PollLimit → (busy : Nat) → Bool
  | atMost polls, busy => busy == max 1 polls
  | unbounded _, _ => false

/-- Where the exchanges of a session stand. -/
inductive Course where
  /-- They go on. From the start of an operation of the chip to its end, the status reads that find
  the chip busy are counted. -/
  | running (busy : Option Nat)
  /-- They have to end with this failure. -/
  | halted (failure : Error)

namespace Course

def polled (busy : Option Nat) (status : Status) : Option Nat :=
  if status.isReady then none else busy.map (· + 1)

def counted (busy : Option Nat) (frame : Frame) (answer : List UInt8) : Option Nat :=
  if frame.opcode ∈ Opcode.starting then
    some 0
  else if frame.opcode = Opcode.readStatus then
    match answer with
    | bits :: _ => polled busy ⟨bits⟩
    | [] => none
  else
    none

/-- Go on with this count, unless it is all that a wait may take. -/
def counting (polling : PollLimit) : (busy : Option Nat) → Course
  | none => running none
  | some reads => if polling.spends reads then halted .timeout else running (some reads)

/-- A failure that may pass is no reason to end. -/
def after (polling : PollLimit) : Course → Frame → Except Error (List UInt8) → Course
  | halted e, _, _ => halted e
  | running _, _, .error e => if e.isRetryable then running none else halted e
  | running busy, frame, .ok answer => counting polling (counted busy frame answer)

/-- The exchanges may end here with this result. -/
def Admits : Course → Except Error α → Prop
  | running none, result => result ≠ .error .frameTooLarge
  | running (some _), result =>
    ∃ e, result = .error e ∧ e.isRetryable = false ∧ e ≠ .frameTooLarge
  | halted e, result => result = .error e ∧ e.isRetryable = false

end Course

/-- Only frames like these, and none once the exchanges are over. -/
def Monitor.course (allowed : Frame → Prop) (polling : PollLimit) : Monitor Course where
  allows place frame := (∃ busy, place = .running busy) ∧ allowed frame
  after := Course.after polling

variable {α β : Type} {allowed : Frame → Prop} {polling : PollLimit}

namespace Course

theorem counting_zero : counting polling (some 0) = running (some 0) := by
  cases polling with
  | atMost polls =>
    have unspent : (PollLimit.atMost polls).spends 0 = false := beq_false_of_ne (by omega)
    simp only [counting, unspent, Bool.false_eq_true, if_false]
  | unbounded horizon => rfl

theorem polled_none (status : Status) : polled none status = none := by
  unfold polled
  split <;> rfl

theorem counting_unspent {busy : Option Nat}
    (unspent : ∀ reads, busy = some reads → polling.spends reads = false) :
    counting polling busy = running busy := by
  cases busy with
  | none => rfl
  | some reads => simp only [counting, unspent reads rfl, Bool.false_eq_true, if_false]

theorem counted_starting {busy : Option Nat} {frame : Frame} {answer : List UInt8}
    (starting : frame.opcode ∈ Opcode.starting) : counted busy frame answer = some 0 :=
  if_pos starting

theorem counted_other {busy : Option Nat} {frame : Frame} {answer : List UInt8}
    (notStarting : frame.opcode ∉ Opcode.starting) (notStatus : frame.opcode ≠ Opcode.readStatus) :
    counted busy frame answer = none := by
  unfold counted
  rw [if_neg notStarting, if_neg notStatus]

theorem after_error_admits (polling : PollLimit) (busy : Option Nat) (frame : Frame) (e : Error) :
    (after polling (running busy) frame (.error e)).Admits (.error e : Except Error α) := by
  show (if e.isRetryable then running none else halted e).Admits (.error e : Except Error α)
  cases passing : e.isRetryable with
  | true =>
    simp only [if_true]
    rintro ⟨⟩
    cases passing
  | false =>
    simp only [Bool.false_eq_true, if_false]
    exact ⟨rfl, passing⟩

/-- Where a result is admitted that is no failure, the exchanges go on and none is awaited. -/
theorem Admits.eq_running {place : Course} {value : α} (admitted : place.Admits (.ok value)) :
    place = running none := by
  cases place with
  | running busy =>
    cases busy with
    | none => rfl
    | some reads => obtain ⟨_, ⟨⟩, _⟩ := admitted
  | halted failure => cases admitted.1

/-- A failure is admitted whatever it is the failure of. -/
theorem Admits.error {place : Course} {e : Error}
    (admitted : place.Admits (.error e : Except Error β)) :
    place.Admits (.error e : Except Error α) := by
  cases place with
  | running busy =>
    cases busy with
    | none => exact fun same => admitted (Except.error.inj same ▸ rfl)
    | some reads =>
      obtain ⟨_, ⟨⟩, final⟩ := admitted
      exact ⟨e, rfl, final⟩
  | halted failure =>
    obtain ⟨⟨⟩, final⟩ := admitted
    exact ⟨rfl, final⟩

/-- After a failure that may pass the exchanges go on. -/
theorem Admits.eq_running_of_passing {place : Course} {e : Error}
    (admitted : place.Admits (.error e : Except Error α)) (passing : e.isRetryable = true) :
    place = running none := by
  cases place with
  | running busy =>
    cases busy with
    | none => rfl
    | some reads =>
      obtain ⟨_, ⟨⟩, final, -⟩ := admitted
      exact absurd (passing.symm.trans final) (by decide)
  | halted failure =>
    obtain ⟨⟨⟩, final⟩ := admitted
    exact absurd (passing.symm.trans final) (by decide)

end Course

namespace PollLimit

theorem eq_polls_of_spends {reads : Nat} (spent : polling.spends reads = true) :
    reads = polling.polls := by
  cases polling with
  | atMost polls => exact eq_of_beq spent
  | unbounded horizon => cases spent

end PollLimit

namespace Query

/-- The query keeps to the discipline: it sends only allowed frames and ends as the course of its
exchanges admits. -/
def Disciplined (allowed : Frame → Prop) (polling : PollLimit) (query : Query α) : Prop :=
  query.run.Obeys (.course allowed polling) (fun result place => place.Admits result)
    (.running none)

theorem disciplined_pure (value : α) : (pure value : Query α).Disciplined allowed polling :=
  .done nofun

theorem disciplined_throw (e : Error) (other : e ≠ .frameTooLarge) :
    (throw e : Query α).Disciplined allowed polling :=
  .done fun same => other (Except.error.inj same)

theorem disciplined_note (notice : Notice) : (note notice).Disciplined allowed polling :=
  .remark (.done nofun)

theorem Disciplined.bind {first : Query β} {next : β → Query α}
    (begun : first.Disciplined allowed polling)
    (continued : ∀ value, (next value).Disciplined allowed polling) :
    (first >>= next).Disciplined allowed polling := by
  refine obeys_bind begun (fun e place admitted => admitted.error) fun value place admitted => ?_
  rw [admitted.eq_running]
  exact continued value

/-- A frame that neither starts an operation of the chip nor asks for its status. -/
theorem disciplined_execute {frame : Frame} (sent : allowed frame) (opcode : UInt8)
    (command : frame.opcode = opcode) (other : opcode ∉ Opcode.readStatus :: Opcode.starting) :
    (execute frame).Disciplined allowed polling := by
  subst command
  refine obeys_execute ⟨⟨_, rfl⟩, sent⟩ fun answer => ?_
  obtain ⟨notStatus, notStarting⟩ := not_or.mp (mt List.mem_cons.mpr other)
  cases answer with
  | error e => exact Course.after_error_admits polling none frame e
  | ok bytes =>
    show (Course.counting polling (Course.counted none frame bytes)).Admits _
    rw [Course.counted_other notStarting notStatus]
    exact nofun

/-- Once an operation of the chip is started, no status read has found it busy yet. -/
theorem obeys_start {frame : Frame} (sent : allowed frame) (opcode : UInt8)
    (command : frame.opcode = opcode) (starting : opcode ∈ Opcode.starting) :
    (execute frame).run.Obeys (.course allowed polling)
      (fun answer place => match answer with
        | .ok _ => place = .running (some 0)
        | .error e => place.Admits (.error e : Except Error (List UInt8))) (.running none) := by
  subst command
  refine obeys_execute ⟨⟨_, rfl⟩, sent⟩ fun answer => ?_
  cases answer with
  | error e => exact Course.after_error_admits polling none frame e
  | ok bytes =>
    show Course.counting polling (Course.counted none frame bytes) = _
    rw [Course.counted_starting starting, Course.counting_zero]

section Polling

variable (asks : ∀ frame, frame.OfQuery → allowed frame)
include asks

theorem obeys_readStatus (busy : Option Nat) :
    readStatus.run.Obeys (.course allowed polling)
      (fun result place => match result with
        | .ok status => place = .counting polling (Course.polled busy status)
        | .error e => place.Admits (.error e : Except Error Status)) (.running busy) := by
  -- the answer is followed up before it is known whether it has the one byte asked for
  have asked : (execute (.read Opcode.readStatus 1)).run.Obeys (.course allowed polling)
      (fun answer place => place = Course.after polling (.running busy)
        (.read Opcode.readStatus 1) answer) (.running busy) :=
    obeys_execute ⟨⟨_, rfl⟩, asks _ .status⟩ fun _ => rfl
  refine obeys_bind asked ?_ ?_
  · rintro e place rfl
    exact Course.after_error_admits polling busy _ e
  · rintro bytes place rfl
    cases bytes with
    | nil => exact .done nofun
    | cons bits rest => exact .done rfl

theorem disciplined_readStatus : readStatus.Disciplined allowed polling := by
  refine (obeys_readStatus asks none).mono fun result place reached => ?_
  cases result with
  | error e => exact reached
  | ok status =>
    rw [reached, Course.polled_none]
    exact nofun

/-- By induction on the polls left, which make up with the busy status reads so far all that the
wait may take. -/
theorem obeys_awaitReady {giveUp : Query Status}
    (gives : ∀ busy, (∀ reads, busy = some reads → reads = polling.polls) →
      giveUp.run.Obeys (.course allowed polling) (fun result place => place.Admits result)
        (.counting polling busy))
    (polls : Nat) {busy : Option Nat}
    (left : ∀ reads, busy = some reads → reads + polls = polling.polls) :
    (awaitReady giveUp polls).run.Obeys (.course allowed polling)
      (fun result place => place.Admits result) (.counting polling busy) := by
  induction polls generalizing busy with
  | zero => exact gives busy left
  | succ polls ih =>
    have unspent : ∀ reads, busy = some reads → polling.spends reads = false := by
      intro reads counted
      rw [← Bool.not_eq_true]
      intro spent
      have total := PollLimit.eq_polls_of_spends spent
      have enough := left reads counted
      omega
    rw [Course.counting_unspent unspent]
    refine obeys_bind (obeys_readStatus asks busy) (fun _ _ failed => failed) ?_
    rintro status place rfl
    unfold Course.polled
    split
    · exact .done nofun
    · refine ih fun reads counted => ?_
      obtain ⟨earlier, before, rfl⟩ := Option.map_eq_some_iff.mp counted
      have enough := left earlier before
      omega

theorem obeys_pollReady {busy : Option Nat} (fresh : ∀ reads, busy = some reads → reads = 0) :
    (pollReady polling).run.Obeys (.course allowed polling)
      (fun result place => place.Admits result) (.running busy) := by
  have start : Course.counting polling busy = .running busy := by
    cases busy with
    | none => rfl
    | some reads => rw [fresh reads rfl, Course.counting_zero]
  have left : ∀ reads, busy = some reads → reads + polling.polls = polling.polls := by
    intro reads counted
    rw [fresh reads counted, Nat.zero_add]
  rw [← start]
  cases polling with
  | atMost polls =>
    refine obeys_awaitReady asks (fun busy spent => .remark (.done ?_)) (max 1 polls) left
    cases busy with
    | none => exact nofun
    | some reads =>
      have spends : (PollLimit.atMost polls).spends reads = true := beq_of_eq (spent reads rfl)
      simp only [Course.counting, spends, if_true]
      exact ⟨rfl, rfl⟩
  | unbounded horizon =>
    refine obeys_awaitReady asks (fun busy _ => .done ?_) horizon left
    cases busy with
    | none => exact nofun
    | some reads => exact ⟨_, rfl, rfl, nofun⟩

theorem disciplined_pollReady : (pollReady polling).Disciplined allowed polling :=
  obeys_pollReady asks nofun

theorem disciplined_launch {frame : Frame} (sent : allowed frame) (opcode : UInt8)
    (command : frame.opcode = opcode) (starting : opcode ∈ Opcode.starting) :
    (execute frame >>= fun _ => pollReady polling).Disciplined allowed polling := by
  refine obeys_bind (obeys_start sent opcode command starting) (fun _ _ failed => failed.error) ?_
  rintro _ place rfl
  exact obeys_pollReady asks fun reads counted => (Option.some.inj counted).symm

theorem disciplined_reset : (reset polling).Disciplined allowed polling :=
  disciplined_launch asks (asks _ .reset) Opcode.reset rfl (by decide)

theorem disciplined_composed :
    Composed polling fun _ query => query.Disciplined allowed polling where
  pure := disciplined_pure
  throw := disciplined_throw
  bind := Disciplined.bind
  note := disciplined_note
  readId address length :=
    disciplined_execute (asks _ (.identifier _ _)) Opcode.readId rfl (by decide)
  readParameterPage length :=
    disciplined_execute (asks _ (.parameterPage _)) Opcode.readParameterPage rfl (by decide)
  setFeatures feature parameters fits :=
    disciplined_launch asks (asks _ (.feature _ _ fits)) Opcode.setFeatures rfl (by decide)

end Polling
end Query

/-- Opening a session keeps to the discipline. -/
theorem Session.identify_disciplined (config : SessionConfig) :
    (identify config).Disciplined Frame.OfQuery config.polling := by
  have examined := examine_composed config
    (Query.disciplined_composed fun frame (asks : frame.OfQuery) => asks)
  rw [identify_eq]
  split
  · exact (Query.disciplined_reset fun _ asks => asks).bind fun _ => examined
  · exact examined

namespace Operation

variable {g : Geometry}

/-- In a session with a device of this layout the operation keeps to the discipline; and it leaves
the geometry and the settings of the session alone. -/
def Disciplined (g : Geometry) (operation : Operation α) : Prop :=
  ∀ session : Session, session.geometry = g →
    (operation.runIn session).Obeys (.course (Frame.OfSession g) session.config.polling)
      (fun reached place => (reached.2.geometry = g ∧ reached.2.config = session.config) ∧
        place.Admits reached.1) (.running none)

theorem Disciplined.bind {first : Operation β} {next : β → Operation α}
    (begun : first.Disciplined g) (continued : ∀ value, (next value).Disciplined g) :
    (first >>= next).Disciplined g := by
  intro session same
  refine obeys_bind (begun session same) (fun e left place reached => ?_) ?_
  · exact ⟨reached.1, reached.2.error⟩
  · rintro value left place ⟨⟨geometry, config⟩, admitted⟩
    rw [admitted.eq_running, ← config]
    exact continued value left geometry

/-- Only failures that may pass are ever handled, and the exchanges go on after those. -/
theorem Disciplined.tryCatch {operation : Operation α} {handler : Error → Operation α}
    (begun : operation.Disciplined g)
    (caught : ∀ e, e.isRetryable = true → (handler e).Disciplined g)
    (others : ∀ e, e.isRetryable = false → handler e = throw e) :
    (tryCatch operation handler).Disciplined g := by
  intro session same
  refine obeys_tryCatch (begun session same) (fun _ _ _ reached => reached) ?_
  rintro e left place ⟨⟨geometry, config⟩, admitted⟩
  cases passing : e.isRetryable with
  | true =>
    rw [admitted.eq_running_of_passing passing, ← config]
    exact caught e passing left geometry
  | false =>
    rw [others e passing]
    exact .done ⟨⟨geometry, config⟩, admitted⟩

theorem disciplined_ofQuery {query : Query α}
    (asked : ∀ polling, query.Disciplined (Frame.OfSession g) polling) :
    (ofQuery query).Disciplined g :=
  fun _ same => obeys_ofQuery ((asked _).mono fun _ _ admitted => ⟨⟨same, rfl⟩, admitted⟩)

theorem disciplined_closed : Closed fun _ operation => operation.Disciplined g where
  pure _ := fun _ same => .done ⟨⟨same, rfl⟩, nofun⟩
  throw _ other := fun _ same => .done ⟨⟨same, rfl⟩, fun raised => other (Except.error.inj raised)⟩
  bind := Disciplined.bind
  tryCatch := Disciplined.tryCatch
  get := fun _ same => .done ⟨⟨same, rfl⟩, nofun⟩
  note notice := disciplined_ofQuery fun _ => Query.disciplined_note notice

theorem disciplined_enter (state : ChipState) : (enter state).Disciplined g :=
  fun _ same => .done ⟨⟨same, rfl⟩, nofun⟩

theorem disciplined_geometry_bind {next : Geometry → Operation α}
    (continued : g.Valid → (next g).Disciplined g) : (geometry >>= next).Disciplined g := by
  intro session same
  show ((next session.geometry).runIn session).Obeys _ _ _
  rw [same]
  exact continued (same ▸ session.valid) session same

/-- What follows the check of a page may rely on it. -/
theorem disciplined_checkPage_bind {page : Nat} {next : Unit → Operation α}
    (continued : page < g.totalPages → (next ()).Disciplined g) :
    (require (g.checkPage page) >>= next).Disciplined g := by
  by_cases inRange : page < g.totalPages
  · rw [Geometry.checkPage_eq inRange]
    exact continued inRange
  · rw [Geometry.checkPage_eq_error inRange]
    exact disciplined_closed.throw_bind _ (by nofun) next

/-- And what follows the check of a block, on its first page. -/
theorem disciplined_checkBlock_bind (valid : g.Valid) {block : Nat} {next : Unit → Operation α}
    (continued : g.firstPage block < g.totalPages → (next ()).Disciplined g) :
    (require (g.checkBlock block) >>= next).Disciplined g := by
  by_cases onDevice : block < g.totalBlocks
  · rw [Geometry.checkBlock_eq onDevice]
    exact continued (valid.dimensions.firstPage_lt onDevice)
  · rw [Geometry.checkBlock_eq_error onDevice]
    exact disciplined_closed.throw_bind _ (by nofun) next

theorem disciplined_execute {frame : Frame} (sent : frame.OfSession g) (opcode : UInt8)
    (command : frame.opcode = opcode) (other : opcode ∉ Opcode.readStatus :: Opcode.starting) :
    (execute frame).Disciplined g :=
  disciplined_ofQuery fun _ => Query.disciplined_execute sent opcode command other

theorem disciplined_readStatus : readStatus.Disciplined g :=
  disciplined_ofQuery fun _ => Query.disciplined_readStatus fun _ => .query

theorem disciplined_waitReady : waitReady.Disciplined g := by
  intro session same
  refine obeys_ofQuery ((Query.disciplined_pollReady fun _ => .query).mono ?_)
  exact fun _ _ admitted => ⟨⟨same, rfl⟩, admitted⟩

/-- What keeps to the discipline once an operation of the chip is started. -/
def Awaits (g : Geometry) (operation : Operation α) : Prop :=
  ∀ session : Session, session.geometry = g →
    (operation.runIn session).Obeys (.course (Frame.OfSession g) session.config.polling)
      (fun reached place => (reached.2.geometry = g ∧ reached.2.config = session.config) ∧
        place.Admits reached.1) (.running (some 0))

theorem awaits_waitReady_bind {next : Status → Operation α}
    (continued : ∀ status, (next status).Disciplined g) : (waitReady >>= next).Awaits g := by
  intro session same
  have asks : ∀ frame : Frame, frame.OfQuery → frame.OfSession g := fun _ => .query
  have polled : (Query.pollReady session.config.polling).run.Obeys
      (.course (Frame.OfSession g) session.config.polling)
      (fun result place => place.Admits result) (.running (some 0)) :=
    Query.obeys_pollReady asks fun reads counted => (Option.some.inj counted).symm
  have waited : (waitReady.runIn session).Obeys
      (.course (Frame.OfSession g) session.config.polling)
      (fun reached place => reached.2 = session ∧ place.Admits reached.1) (.running (some 0)) :=
    obeys_ofQuery (polled.mono fun _ _ admitted => ⟨rfl, admitted⟩)
  refine obeys_bind waited ?_ ?_
  · rintro e _ place ⟨rfl, admitted⟩
    exact ⟨⟨same, rfl⟩, admitted.error⟩
  · rintro status _ place ⟨rfl, admitted⟩
    rw [admitted.eq_running]
    exact continued status _ same

theorem awaits_enter_bind {state : ChipState} {next : Unit → Operation α}
    (continued : (next ()).Awaits g) : (enter state >>= next).Awaits g :=
  fun session same => continued { session with state } same

theorem disciplined_start_bind {frame : Frame} (sent : frame.OfSession g) (opcode : UInt8)
    (command : frame.opcode = opcode) (starting : opcode ∈ Opcode.starting)
    {next : List UInt8 → Operation α} (continued : ∀ answer, (next answer).Awaits g) :
    (execute frame >>= next).Disciplined g := by
  intro session same
  have started : ((execute frame).runIn session).Obeys
      (.course (Frame.OfSession g) session.config.polling)
      (fun reached place => reached.2 = session ∧ match reached.1 with
        | .ok _ => place = .running (some 0)
        | .error e => place.Admits (.error e : Except Error (List UInt8))) (.running none) :=
    obeys_ofQuery ((Query.obeys_start sent opcode command starting).mono
      fun _ _ reached => ⟨rfl, reached⟩)
  refine obeys_bind started ?_ ?_
  · rintro e _ place ⟨rfl, failed⟩
    exact ⟨⟨same, rfl⟩, failed.error⟩
  · rintro answer _ place ⟨rfl, rfl⟩
    exact continued answer _ same

theorem disciplined_loadPage (page : Nat) : (loadPage page).Disciplined g := by
  have law : Closed fun _ operation => operation.Disciplined g := disciplined_closed
  refine disciplined_geometry_bind fun _ => disciplined_checkPage_bind fun inRange => ?_
  refine law.bind (disciplined_execute (.latch page inRange) Opcode.readMode rfl (by decide))
    fun _ => ?_
  refine law.bind (disciplined_enter _) fun _ => ?_
  refine disciplined_start_bind .load Opcode.readStart rfl (by decide) fun _ => ?_
  refine awaits_enter_bind (awaits_waitReady_bind fun status => ?_)
  dsimp only
  split
  · exact law.throw_bind _ (by nofun) _
  · exact law.bind (disciplined_enter _) fun _ => law.pure _

theorem disciplined_readData (start : Nat) (size? : Option Nat)
    (fits : ∀ size, size? = some size → size ≤ maxReadLength) :
    (readData start size?).Disciplined g := by
  have law : Closed fun _ operation => operation.Disciplined g := disciplined_closed
  refine law.bind law.get fun session => ?_
  dsimp only
  split
  · exact law.throw_bind _ (by nofun) _
  · split
    · exact law.throw_bind _ (by nofun) _
    · split
      · next exceeds => exact absurd exceeds (Nat.not_lt.mpr (session.fits_readData fits))
      · split
        · exact disciplined_execute (.fromStart _) Opcode.readMode rfl (by decide)
        · refine law.bind (disciplined_execute .register Opcode.readMode rfl (by decide))
            fun _ => ?_
          refine law.bind (disciplined_execute (.column start) Opcode.changeReadColumn rfl
            (by decide)) fun _ => ?_
          exact disciplined_execute (.fromColumn _) Opcode.changeReadColumnStart rfl (by decide)

theorem disciplined_eraseBlock (block : Nat) : (eraseBlock block).Disciplined g := by
  have law : Closed fun _ operation => operation.Disciplined g := disciplined_closed
  refine disciplined_geometry_bind fun valid => disciplined_checkBlock_bind valid fun inRange => ?_
  refine law.bind (disciplined_enter _) fun _ => ?_
  refine law.bind (disciplined_execute (.eraseSetup _ inRange) Opcode.eraseSetup rfl (by decide))
    fun _ => ?_
  refine disciplined_start_bind .eraseConfirm Opcode.eraseConfirm rfl (by decide) fun _ => ?_
  refine awaits_waitReady_bind fun status => law.bind (disciplined_enter _) fun _ => ?_
  dsimp only
  split
  · exact law.bind (law.note _) fun _ => law.pure _
  · exact law.pure _

theorem disciplined_programPage (page : Nat) (data : List UInt8) :
    (programPage page data).Disciplined g := by
  have law : Closed fun _ operation => operation.Disciplined g := disciplined_closed
  refine disciplined_geometry_bind fun _ => disciplined_checkPage_bind fun inRange => ?_
  dsimp only
  split
  · exact law.throw_bind _ (by nofun) _
  · next fits =>
    refine law.bind disciplined_readStatus fun status => ?_
    split
    · exact law.throw_bind _ (by nofun) _
    · refine law.bind (disciplined_enter _) fun _ => ?_
      refine law.bind (disciplined_execute (.programSetup page data inRange (Nat.le_of_not_lt fits))
        Opcode.programSetup rfl (by decide)) fun _ => ?_
      refine disciplined_start_bind .programConfirm Opcode.programConfirm rfl (by decide)
        fun _ => ?_
      exact awaits_waitReady_bind fun _ => law.bind (disciplined_enter _) fun _ => law.pure _

theorem disciplined_hereditary : Hereditary fun _ operation => operation.Disciplined g where
  toClosed := disciplined_closed
  progress _ := disciplined_ofQuery fun _ => .remark (.done nofun)
  keep _ := fun _ same => .done ⟨⟨same, rfl⟩, nofun⟩
  readStatus := disciplined_readStatus
  waitReady := disciplined_waitReady
  loadPage := disciplined_loadPage
  readData := disciplined_readData
  eraseBlock := disciplined_eraseBlock
  programPage := disciplined_programPage

end Operation

/-- Data of a size that no frame can request is refused, whatever else is wrong. -/
theorem Operation.runIn_readData_tooLarge (start : Nat) {size : Nat}
    (tooLong : maxReadLength < size) (session : Session) :
    ∃ e, (readData start (some size)).runIn session = .done (.error e, session) := by
  rw [readData, runIn_get_bind]
  dsimp only [Option.getD_some]
  by_cases reading : session.state = .reading
  · rw [if_neg (not_not_intro reading)]
    by_cases beyond : session.geometry.rawPageSize < start
    · rw [if_pos beyond]
      exact ⟨_, rfl⟩
    · rw [if_neg beyond, if_pos tooLong]
      exact ⟨_, rfl⟩
  · rw [if_pos reading]
    exact ⟨_, rfl⟩

namespace Session.Call

/-- The call asks for no more bytes than a frame can request. -/
def Fits : Call → Prop
  | readData _ (some size) => size ≤ Operation.maxReadLength
  | _ => True

theorem exists_of_not_fits {call : Call} (exceeds : ¬ call.Fits) :
    ∃ start size, call = .readData start (some size) ∧ Operation.maxReadLength < size := by
  cases call with
  | readData start size? =>
    cases size? with
    | some size => exact ⟨start, size, rfl, Nat.lt_of_not_le exceeds⟩
    | none => exact absurd trivial exceeds
  | _ => exact absurd trivial exceeds

/-- A call that asks for more is refused before anything is sent. -/
theorem runIn_of_not_fits {call : Call} (exceeds : ¬ call.Fits) (session : Session) :
    ∃ e, call.answering.runIn session = .done (.error e, session) := by
  obtain ⟨start, size, rfl, tooLong⟩ := exists_of_not_fits exceeds
  obtain ⟨e, refused⟩ := Operation.runIn_readData_tooLarge start tooLong session
  refine ⟨e, ?_⟩
  show (Operation.readData start (some size) >>= fun bytes =>
    pure (Answer.bytes bytes)).runIn session = .done (.error e, session)
  rw [Operation.runIn_bind, refused]
  rfl

/-- Every call that asks for no more keeps to the discipline. -/
theorem disciplined (g : Geometry) {call : Call} (fits : call.Fits) :
    call.answering.Disciplined g := by
  refine call.inherits Operation.disciplined_hereditary fun start size? asked => ?_
  subst asked
  refine Operation.disciplined_readData start size? ?_
  rintro size rfl
  exact fits

theorem obeys {call : Call} (fits : call.Fits) (session : Session) :
    (call.answering.runIn session).Obeys
      (.course (Frame.OfSession session.geometry) session.config.polling)
      (fun reached place => place.Admits reached.1) (.running none) :=
  (disciplined session.geometry fits session rfl).mono fun _ _ ended => ended.2

end Session.Call
end OnfiFlash
