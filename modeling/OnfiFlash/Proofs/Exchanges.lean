import OnfiFlash.Proofs.Ensures
import OnfiFlash.Proofs.FrameCodec
import OnfiFlash.Session.Page

/-! What is exchanged over a link, frame by frame. Nothing is known of the link but that its reads
are never short: a device may answer with whatever bytes it likes, whenever it likes. -/
namespace OnfiFlash

/-- A frame that went out, with its answer. -/
structure Exchange where
  frame : Frame
  answer : Except Error (List UInt8)

namespace Exchange

/-- A frame that went out and asked for nothing. -/
def sent (frame : Frame) : Exchange := ⟨frame, .ok []⟩

def statusFrame : Frame := .read Opcode.readStatus 1

def status (shown : Status) : Exchange := ⟨statusFrame, .ok [shown.bits]⟩

end Exchange

/-- A wait that the device lets come to its end. -/
structure Wait where
  /-- What the status reads show while the device is busy. -/
  busy : List Status
  /-- What the last one shows. -/
  ready : Status
  unready : ∀ status ∈ busy, status.isReady = false
  isReady : ready.isReady = true

def Wait.exchanges (wait : Wait) : List Exchange :=
  wait.busy.map .status ++ [.status wait.ready]

/-- How a wait ends, and what is exchanged until then. -/
inductive Waits : Except Error Status → List Exchange → Prop where
  | settled (wait : Wait) : Waits (.ok wait.ready) wait.exchanges
  /-- A status read fails. -/
  | lost (busy : List Status) (e : Error) :
      Waits (.error e) (busy.map .status ++ [⟨Exchange.statusFrame, .error e⟩])
  | givenUp (busy : List Status) {e : Error} (spent : e ∈ [Error.timeout, Error.unsettled]) :
      Waits (.error e) (busy.map .status)

/-- One status read more, which finds the device busy, before a wait. -/
theorem Waits.cons {result : Except Error Status} {later : List Exchange} {first : Status}
    (busy : first.isReady = false) (waits : Waits result later) :
    Waits result (.status first :: later) := by
  cases waits with
  | settled wait =>
    have unready : ∀ status ∈ first :: wait.busy, status.isReady = false :=
      List.forall_mem_cons.mpr ⟨busy, wait.unready⟩
    exact .settled ⟨first :: wait.busy, wait.ready, unready, wait.isReady⟩
  | lost others e => exact .lost (first :: others) e
  | givenUp others spent => exact .givenUp (first :: others) spent

/-- Nothing but the status is asked for. -/
theorem Waits.frame_eq {result : Except Error Status} {said : List Exchange}
    (waits : Waits result said) {exchange : Exchange} (among : exchange ∈ said) :
    exchange.frame = Exchange.statusFrame := by
  have polls : ∀ busy : List Status, exchange ∈ busy.map Exchange.status →
      exchange.frame = Exchange.statusFrame := by
    intro busy listed
    obtain ⟨shown, -, rfl⟩ := List.mem_map.mp listed
    rfl
  cases waits with
  | settled wait =>
    rcases List.mem_append.mp among with before | last
    · exact polls _ before
    · exact List.mem_singleton.mp last ▸ rfl
  | lost busy e =>
    rcases List.mem_append.mp among with before | last
    · exact polls _ before
    · exact List.mem_singleton.mp last ▸ rfl
  | givenUp busy => exact polls _ among

namespace Dialogue

def exchanges (transcript : List Entry) : List Exchange :=
  transcript.filterMap fun entry => match entry with
    | .exchanged frame answer => some ⟨frame, answer⟩
    | .remarked _ => none

@[simp] theorem exchanges_append (first second : List Entry) :
    exchanges (first ++ second) = exchanges first ++ exchanges second := by
  simp [exchanges]

theorem exchanges_exchange {σ : Type} {frame : Frame} (wellFormed : frame.WellFormed)
    (reply : Reply σ (List UInt8)) : exchanges (exchange frame reply) = [⟨frame, reply.result⟩] := by
  simp [exchange, exchanges, wellFormed, List.filterMap_map]

end Dialogue

variable {α β : Type}

namespace Query

/-- Over every link whose reads are never short, what the query comes to and what is exchanged are
as `post` says. -/
def Trades (query : Query α) (post : Except Error α → List Exchange → Prop) : Prop :=
  ∀ (σ : Type) [Link σ] [LawfulLink σ] (link : σ),
    query.Ensures link fun result _ said => post result (Dialogue.exchanges said)

variable {post : Except Error α → List Exchange → Prop}

theorem Trades.mono {query : Query α} {strong : Except Error α → List Exchange → Prop}
    (trades : query.Trades strong) (weaker : ∀ result said, strong result said → post result said) :
    query.Trades post :=
  fun σ _ _ link => (trades σ link).mono fun _ _ _ reached => weaker _ _ reached

theorem trades_pure {value : α} (ended : post (.ok value) []) :
    (pure value : Query α).Trades post := fun _ _ _ _ => ended

theorem trades_throw {e : Error} (ended : post (.error e) []) :
    (throw e : Query α).Trades post := fun _ _ _ _ => ended

theorem Trades.bind {first : Query β} {next : β → Query α}
    {mid : Except Error β → List Exchange → Prop} (begun : first.Trades mid)
    (failed : ∀ e said, mid (.error e) said → post (.error e) said)
    (passed : ∀ value said, mid (.ok value) said →
      (next value).Trades fun result later => post result (said ++ later)) :
    (first >>= next).Trades post := by
  intro σ _ _ link
  refine .bind (begun σ link) (fun e _ said reached => failed e _ reached) ?_
  intro value after said reached
  refine (passed value _ reached σ after).mono fun result _ later ended => ?_
  rw [Dialogue.exchanges_append]
  exact ended

theorem trades_note_bind {notice : Notice} {next : Unit → Query α}
    (continued : (next ()).Trades post) : (note notice >>= next).Trades post := by
  intro σ _ _ link
  rw [ensures_bind, ensures_note]
  exact continued σ link

/-- A frame that is sent is answered, with as many bytes as it asks for, or fails. -/
theorem trades_execute {frame : Frame} (wellFormed : frame.WellFormed) :
    (execute frame).Trades fun result said => said = [⟨frame, result⟩] ∧
      ∀ bytes, result = .ok bytes → bytes.length = frame.readLength.toNat := by
  intro σ _ _ link
  refine ensures_execute.mpr ?_
  dsimp only
  rw [Dialogue.exchanges_exchange wellFormed]
  exact ⟨rfl, Link.length_execute frame link⟩

theorem trades_readStatus : readStatus.Trades fun result said => match result with
    | .ok shown => said = [.status shown]
    | .error e => said = [⟨Exchange.statusFrame, .error e⟩] := by
  refine (trades_execute (Frame.wellFormed_read _ _)).bind ?_ ?_
  · rintro e _ ⟨rfl, -⟩
    rfl
  · rintro bytes _ ⟨rfl, length⟩
    obtain ⟨bits, rfl⟩ := List.length_eq_one_iff.mp (length bytes rfl)
    exact trades_pure rfl

/-- By induction on the polls left: each finds the device busy but the last. -/
theorem trades_awaitReady {giveUp : Query Status}
    (final : giveUp.Trades fun result said => Waits result said) (polls : Nat) :
    (awaitReady giveUp polls).Trades Waits := by
  induction polls with
  | zero => exact final
  | succ polls ih =>
    refine trades_readStatus.bind ?_ ?_
    · rintro e _ rfl
      exact .lost [] e
    · rintro shown _ rfl
      split
      · next ready => exact trades_pure (.settled ⟨[], shown, nofun, ready⟩)
      · next unready =>
        intro σ _ _ link
        refine (ih σ link).mono fun result _ later waits => ?_
        exact waits.cons (Bool.eq_false_iff.mpr unready)

theorem trades_pollReady (polling : PollLimit) : (pollReady polling).Trades Waits := by
  cases polling with
  | atMost polls =>
    exact trades_awaitReady (trades_note_bind (trades_throw (.givenUp [] (.head _)))) _
  | unbounded horizon => exact trades_awaitReady (trades_throw (.givenUp [] (by simp))) _

end Query

namespace Operation

/-- In the session and over every link whose reads are never short, what the operation comes to,
what it makes of the session and what is exchanged are as `post` says. -/
def Trades (operation : Operation α) (session : Session)
    (post : Except Error α → Session → List Exchange → Prop) : Prop :=
  ∀ (σ : Type) [Link σ] [LawfulLink σ] (link : σ),
    operation.Ensures session link fun result left _ said =>
      post result left (Dialogue.exchanges said)

variable {session : Session} {post : Except Error α → Session → List Exchange → Prop}

theorem Trades.mono {operation : Operation α}
    {strong : Except Error α → Session → List Exchange → Prop}
    (trades : operation.Trades session strong)
    (weaker : ∀ result left said, strong result left said → post result left said) :
    operation.Trades session post :=
  fun σ _ _ link => (trades σ link).mono fun _ _ _ _ reached => weaker _ _ _ reached

theorem trades_pure {value : α} (ended : post (.ok value) session []) :
    (pure value : Operation α).Trades session post := fun _ _ _ _ => ended

theorem trades_throw {e : Error} (ended : post (.error e) session []) :
    (throw e : Operation α).Trades session post := fun _ _ _ _ => ended

theorem Trades.bind {first : Operation β} {next : β → Operation α}
    {mid : Except Error β → Session → List Exchange → Prop} (begun : first.Trades session mid)
    (failed : ∀ e left said, mid (.error e) left said → post (.error e) left said)
    (passed : ∀ value left said, mid (.ok value) left said →
      (next value).Trades left fun result last later => post result last (said ++ later)) :
    (first >>= next).Trades session post := by
  intro σ _ _ link
  refine .bind (begun σ link) (fun e left _ _ reached => failed e left _ reached) ?_
  intro value left after said reached
  refine (passed value left _ reached σ after).mono fun result last _ later ended => ?_
  rw [Dialogue.exchanges_append]
  exact ended

theorem Trades.tryCatch {operation : Operation α} {handler : Error → Operation α}
    {mid : Except Error α → Session → List Exchange → Prop} (begun : operation.Trades session mid)
    (passed : ∀ value left said, mid (.ok value) left said → post (.ok value) left said)
    (caught : ∀ e left said, mid (.error e) left said →
      (handler e).Trades left fun result last later => post result last (said ++ later)) :
    (tryCatch operation handler).Trades session post := by
  intro σ _ _ link
  refine ensures_tryCatch.mpr ((begun σ link).mono fun result left after said reached => ?_)
  cases result with
  | ok value => exact passed value left _ reached
  | error e =>
    refine (caught e left _ reached σ after).mono fun result last _ later ended => ?_
    rw [Dialogue.exchanges_append]
    exact ended

theorem trades_ofQuery {query : Query α}
    (asked : query.Trades fun result said => post result session said) :
    (ofQuery query).Trades session post := fun σ _ _ link => ensures_ofQuery.mpr (asked σ link)

theorem trades_throw_bind {e : Error} {next : β → Operation α}
    (ended : post (.error e) session []) :
    ((throw e : Operation β) >>= next).Trades session post := fun _ _ _ _ => ended

theorem trades_get_bind {next : Session → Operation α}
    (continued : (next session).Trades session post) : (get >>= next).Trades session post :=
  fun σ _ _ link => continued σ link

theorem trades_geometry_bind {next : Geometry → Operation α}
    (continued : (next session.geometry).Trades session post) :
    (geometry >>= next).Trades session post := fun σ _ _ link => continued σ link

theorem trades_enter_bind {state : ChipState} {next : Unit → Operation α}
    (continued : (next ()).Trades { session with state } post) :
    (enter state >>= next).Trades session post := fun σ _ _ link => continued σ link

theorem trades_require_bind {checked : Except Error β} {value : β} {next : β → Operation α}
    (passes : checked = .ok value) (continued : (next value).Trades session post) :
    (require checked >>= next).Trades session post := by
  subst passes
  exact fun σ _ _ link => continued σ link

theorem trades_execute_bind {frame : Frame} {next : List UInt8 → Operation α}
    (wellFormed : frame.WellFormed) (failed : ∀ e, post (.error e) session [⟨frame, .error e⟩])
    (answered : ∀ bytes, bytes.length = frame.readLength.toNat →
      (next bytes).Trades session fun result left later =>
        post result left (⟨frame, .ok bytes⟩ :: later)) :
    (execute frame >>= next).Trades session post := by
  have asked : (execute frame).Trades session fun result left said =>
      left = session ∧ said = [⟨frame, result⟩] ∧
        ∀ bytes, result = .ok bytes → bytes.length = frame.readLength.toNat := by
    refine trades_ofQuery fun σ _ _ link => ?_
    refine (Query.trades_execute wellFormed σ link).mono fun _ _ _ reached => ?_
    exact ⟨rfl, reached⟩
  refine asked.bind ?_ ?_
  · rintro e _ _ ⟨rfl, rfl, -⟩
    exact failed e
  · rintro bytes _ _ ⟨rfl, rfl, length⟩
    exact answered bytes (length bytes rfl)

/-- A frame that asks for nothing. -/
theorem trades_send_bind {frame : Frame} {next : List UInt8 → Operation α}
    (wellFormed : frame.WellFormed) (silent : frame.readLength = 0)
    (failed : ∀ e, post (.error e) session [⟨frame, .error e⟩])
    (continued : (next []).Trades session fun result left later =>
      post result left (.sent frame :: later)) :
    (execute frame >>= next).Trades session post := by
  refine trades_execute_bind wellFormed failed fun bytes length => ?_
  rw [silent] at length
  rw [List.eq_nil_of_length_eq_zero length]
  exact continued

theorem trades_waitReady_bind {next : Status → Operation α}
    (failed : ∀ e said, Waits (.error e) said → post (.error e) session said)
    (settled : ∀ wait : Wait, (next wait.ready).Trades session fun result left later =>
      post result left (wait.exchanges ++ later)) :
    (waitReady >>= next).Trades session post := by
  have waited : waitReady.Trades session fun result left said =>
      left = session ∧ Waits result said := by
    unfold waitReady
    refine trades_get_bind (trades_ofQuery fun σ _ _ link => ?_)
    exact (Query.trades_pollReady _ σ link).mono fun _ _ _ waits => ⟨rfl, waits⟩
  refine waited.bind ?_ ?_
  · rintro e _ said ⟨rfl, waits⟩
    exact failed e said waits
  · rintro status _ said ⟨rfl, waits⟩
    cases waits with
    | settled wait => exact settled wait

theorem trades_readStatus_bind {next : Status → Operation α}
    (failed : ∀ e, post (.error e) session [⟨Exchange.statusFrame, .error e⟩])
    (shown : ∀ status, (next status).Trades session fun result left later =>
      post result left (.status status :: later)) :
    (readStatus >>= next).Trades session post := by
  have asked : readStatus.Trades session fun result left said =>
      left = session ∧ match result with
        | .ok status => said = [.status status]
        | .error e => said = [⟨Exchange.statusFrame, .error e⟩] :=
    trades_ofQuery fun σ _ _ link =>
      (Query.trades_readStatus σ link).mono fun _ _ _ reached => ⟨rfl, reached⟩
  refine asked.bind ?_ ?_
  · rintro e _ _ ⟨rfl, rfl⟩
    exact failed e
  · rintro status _ _ ⟨rfl, rfl⟩
    exact shown status

end Operation
end OnfiFlash
