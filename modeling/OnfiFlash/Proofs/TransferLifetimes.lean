import OnfiFlash.Proofs.ByteStream

/-! How long the transfers of a USB bridge live. Each call of the link submits transfers and waits
for them, and a wait may end before the transfer does. The moments of a call are followed one by
one: whichever way the events fall out, no transfer is left when the call returns. -/
namespace OnfiFlash.Usb

namespace Endpoint

variable {τ : Type} {endpoint : Endpoint τ}

structure Idle (endpoint : Endpoint τ) : Prop where
  pending : endpoint.pending = []
  cancelled : endpoint.cancelled = 0

/-- All transfers, so many, have been cancelled. -/
structure Doomed (endpoint : Endpoint τ) (count : Nat) : Prop where
  pending : endpoint.pending.length = count
  cancelled : endpoint.cancelled = count

theorem Doomed.idle (doomed : endpoint.Doomed 0) : endpoint.Idle :=
  ⟨List.length_eq_zero_iff.mp doomed.pending, doomed.cancelled⟩

theorem Doomed.ne_nil {count : Nat} (doomed : endpoint.Doomed (count + 1)) :
    endpoint.pending ≠ [] :=
  List.ne_nil_of_length_eq_add_one doomed.pending

/-- A cancelled transfer completes, whatever events are left. -/
theorem Doomed.settle {count : Nat} (doomed : endpoint.Doomed (count + 1)) (silence : Event) :
    ∃ transfer after, endpoint.settle silence = (some (transfer, .fail .cancelled), after) ∧
      after.Doomed count := by
  obtain ⟨transfer, rest, pending⟩ := List.exists_cons_of_ne_nil doomed.ne_nil
  have left : rest.length = count := by
    have all := doomed.pending
    rw [pending, List.length_cons] at all
    omega
  refine ⟨transfer, { endpoint with pending := rest, cancelled := count }, ?_, left, rfl⟩
  simp [Endpoint.settle, pending, doomed.cancelled]

/-- The only transfer of an endpoint completes or stays. -/
theorem Idle.settle_submit (idle : endpoint.Idle) (transfer : τ) (silence : Event) :
    ∃ after, ((endpoint.submit transfer).settle silence = (none, after) ∧
        after.pending = [transfer]) ∨
      ∃ event, (endpoint.submit transfer).settle silence = (some (transfer, event), after) ∧
        after.Idle := by
  simp only [submit, settle, idle.pending, idle.cancelled, List.nil_append, Nat.lt_irrefl, if_false]
  split
  · exact ⟨_, .inl ⟨rfl, rfl⟩⟩
  · exact ⟨_, .inr ⟨_, rfl, rfl, rfl⟩⟩

end Endpoint

/-- Something that happens on the pipes, and what a wait comes back with. -/
inductive Moment where
  | submittedOut (data : List UInt8)
  | submittedIn (request : Nat)
  | waitedOut (milliseconds : Nat) (settled : Option (Except TransferFault Unit))
  | waitedIn (milliseconds : Nat) (settled : Option (Except TransferFault (List UInt8)))
  | cancelledOut (pending : Nat)
  | cancelledIn (pending : Nat)
  /-- What the chip logged is taken note of. -/
  | noted

namespace Moment

def call? : Moment → Option Call
  | submittedOut data => some (.submitOut data)
  | submittedIn request => some (.submitIn request)
  | waitedOut milliseconds _ => some (.wait outEndpoint milliseconds)
  | waitedIn milliseconds _ => some (.wait inEndpoint milliseconds)
  | cancelledOut pending => some (.cancel outEndpoint pending)
  | cancelledIn pending => some (.cancel inEndpoint pending)
  | noted => none

def sent? : Moment → Option (List UInt8)
  | submittedOut data => some data
  | _ => none

def request? : Moment → Option Nat
  | submittedIn request => some request
  | _ => none

/-- A wait is in vain if it ends too early, the transfer fails or no byte comes. -/
def Succeeds : Moment → Prop
  | waitedOut _ settled => settled = some (.ok ())
  | waitedIn _ settled => ∃ first rest, settled = some (.ok (first :: rest))
  | _ => True

end Moment

namespace Pipes

variable {pipes : Pipes}

def cancelOut (pipes : Pipes) : Pipes :=
  { pipes.called (.cancel outEndpoint pipes.outward.pending.length) with
    outward := pipes.outward.cancelAll }

def cancelIn (pipes : Pipes) : Pipes :=
  { pipes.called (.cancel inEndpoint pipes.inward.pending.length) with
    inward := pipes.inward.cancelAll }

/-- What a moment makes of the pipes. A wait needs a transfer to wait for. -/
inductive Passes : Pipes → Moment → Pipes → Prop
  | submitOut (pipes : Pipes) (data : List UInt8) :
    Passes pipes (.submittedOut data) (pipes.submitOut data)
  | submitIn (pipes : Pipes) (request : Nat) :
    Passes pipes (.submittedIn request) (pipes.submitIn request)
  | waitOut (pipes : Pipes) (milliseconds : Nat) (inFlight : pipes.outward.pending ≠ []) :
    Passes pipes (.waitedOut milliseconds (pipes.waitOut milliseconds).1)
      (pipes.waitOut milliseconds).2
  | waitIn (pipes : Pipes) (milliseconds : Nat) (inFlight : pipes.inward.pending ≠ []) :
    Passes pipes (.waitedIn milliseconds (pipes.waitIn milliseconds).1)
      (pipes.waitIn milliseconds).2
  | cancelOut (pipes : Pipes) :
    Passes pipes (.cancelledOut pipes.outward.pending.length) pipes.cancelOut
  | cancelIn (pipes : Pipes) :
    Passes pipes (.cancelledIn pipes.inward.pending.length) pipes.cancelIn
  | note (pipes : Pipes) : Passes pipes .noted { pipes with heard := [] }

/-- The moments that lead from one state of the pipes to another. -/
inductive History : Pipes → List Moment → Pipes → Prop
  | nil (pipes : Pipes) : History pipes [] pipes
  | cons {first next last : Pipes} {moment : Moment} {moments : List Moment} :
    Passes first moment next → History next moments last → History first (moment :: moments) last

theorem History.append {first next last : Pipes} {earlier later : List Moment}
    (start : History first earlier next) (rest : History next later last) :
    History first (earlier ++ later) last := by
  induction start with
  | nil => exact rest
  | cons passes _ ih => exact .cons passes (ih rest)

theorem calls_deliver (pipes : Pipes) (data : List UInt8) :
    (pipes.deliver data).calls = pipes.calls := by
  simp only [deliver]
  split
  · rfl
  · split <;> rfl

theorem Passes.calls {after : Pipes} {moment : Moment} (passes : Passes pipes moment after) :
    after.calls = moment.call?.toList ++ pipes.calls := by
  cases passes with
  | submitOut => rfl
  | submitIn => rfl
  | waitOut milliseconds =>
    simp only [Pipes.waitOut, called]
    split
    · rfl
    · rfl
    · rw [calls_deliver]
      rfl
  | waitIn milliseconds =>
    simp only [Pipes.waitIn, called]
    split
    · rfl
    · rfl
    · split <;> rfl
    · rfl
  | cancelOut => rfl
  | cancelIn => rfl
  | note => rfl

/-- The calls made to the bus, latest first, are those of the moments. -/
theorem History.calls {first last : Pipes} {moments : List Moment}
    (history : History first moments last) :
    last.calls = (moments.filterMap Moment.call?).reverse ++ first.calls := by
  induction history with
  | nil => rfl
  | @cons first next last moment moments passes _ ih =>
    rw [ih, passes.calls]
    cases called : moment.call? <;> simp [called]

theorem maxPacket_deliver (pipes : Pipes) (data : List UInt8) :
    (pipes.deliver data).maxPacket = pipes.maxPacket := by
  simp only [deliver]
  split
  · rfl
  · split <;> rfl

theorem maxPacket_waitIn (pipes : Pipes) (milliseconds : Nat) :
    (pipes.waitIn milliseconds).2.maxPacket = pipes.maxPacket := by
  simp only [waitIn, called]
  split
  · rfl
  · rfl
  · split <;> rfl
  · rfl

theorem Passes.maxPacket {after : Pipes} {moment : Moment} (passes : Passes pipes moment after) :
    after.maxPacket = pipes.maxPacket := by
  cases passes with
  | submitOut => rfl
  | submitIn => rfl
  | waitOut milliseconds =>
    simp only [Pipes.waitOut, called]
    split
    · rfl
    · rfl
    · exact maxPacket_deliver _ _
  | waitIn milliseconds => exact maxPacket_waitIn pipes milliseconds
  | cancelOut => rfl
  | cancelIn => rfl
  | note => rfl

theorem History.maxPacket {first last : Pipes} {moments : List Moment}
    (history : History first moments last) : last.maxPacket = first.maxPacket := by
  induction history with
  | nil => rfl
  | cons passes _ ih => exact ih.trans passes.maxPacket

structure AtRest (pipes : Pipes) : Prop where
  outward : pipes.outward.Idle
  inward : pipes.inward.Idle

theorem cancelOut_doomed (pipes : Pipes) :
    pipes.cancelOut.outward.Doomed pipes.outward.pending.length :=
  ⟨rfl, rfl⟩

theorem cancelIn_doomed (pipes : Pipes) :
    pipes.cancelIn.inward.Doomed pipes.inward.pending.length :=
  ⟨rfl, rfl⟩

/-- A wait for cancelled transfers completes one of them. -/
theorem waitOut_doomed {count : Nat} (doomed : pipes.outward.Doomed (count + 1))
    (milliseconds : Nat) :
    let waited := pipes.waitOut milliseconds
    waited.1 = some (.error .cancelled) ∧ waited.2.outward.Doomed count ∧
      waited.2.inward = pipes.inward := by
  obtain ⟨transfer, after, settled, doomedAfter⟩ := doomed.settle .complete
  simp [waitOut, settled, doomedAfter, called]

theorem waitIn_doomed {count : Nat} (doomed : pipes.inward.Doomed (count + 1))
    (milliseconds : Nat) :
    let waited := pipes.waitIn milliseconds
    waited.1 = some (.error .cancelled) ∧ waited.2.inward.Doomed count ∧
      waited.2.outward = pipes.outward := by
  obtain ⟨transfer, after, settled, doomedAfter⟩ := doomed.settle .timeout
  simp [waitIn, settled, doomedAfter, called]

theorem drainOut_doomed {count : Nat} (doomed : pipes.outward.Doomed count) :
    let drained := drainOut count pipes
    History pipes (List.replicate count (.waitedOut drainTimeout (some (.error .cancelled))))
        drained ∧
      drained.outward.Idle ∧ drained.inward = pipes.inward := by
  induction count generalizing pipes with
  | zero => exact ⟨.nil pipes, doomed.idle, rfl⟩
  | succ count ih =>
    obtain ⟨cancelled, doomedAfter, inward⟩ := waitOut_doomed doomed drainTimeout
    obtain ⟨history, idle, inwardLast⟩ := ih doomedAfter
    have passes := Passes.waitOut pipes drainTimeout doomed.ne_nil
    rw [cancelled] at passes
    exact ⟨.cons passes history, idle, inwardLast.trans inward⟩

theorem drainIn_doomed {count : Nat} (doomed : pipes.inward.Doomed count) :
    let drained := drainIn count pipes
    History pipes (List.replicate count (.waitedIn drainTimeout (some (.error .cancelled))))
        drained ∧
      drained.inward.Idle ∧ drained.outward = pipes.outward := by
  induction count generalizing pipes with
  | zero => exact ⟨.nil pipes, doomed.idle, rfl⟩
  | succ count ih =>
    obtain ⟨cancelled, doomedAfter, outward⟩ := waitIn_doomed doomed drainTimeout
    obtain ⟨history, idle, outwardLast⟩ := ih doomedAfter
    have passes := Passes.waitIn pipes drainTimeout doomed.ne_nil
    rw [cancelled] at passes
    exact ⟨.cons passes history, idle, outwardLast.trans outward⟩

/-- How so many transfers of each direction are cancelled and waited for. -/
def drainMoments (outs ins : Nat) : List Moment :=
  .cancelledOut outs :: List.replicate outs (.waitedOut drainTimeout (some (.error .cancelled))) ++
    .cancelledIn ins :: List.replicate ins (.waitedIn drainTimeout (some (.error .cancelled)))

theorem drainMoments_submit {outs ins : Nat} :
    ∀ moment ∈ drainMoments outs ins, moment.sent? = none ∧ moment.request? = none := by
  intro moment among
  simp only [drainMoments, List.cons_append, List.mem_cons, List.mem_append,
    List.mem_replicate] at among
  obtain rfl | ⟨-, rfl⟩ | rfl | ⟨-, rfl⟩ := among <;> exact ⟨rfl, rfl⟩

/-- Whatever is in flight, nothing is once the pipes are drained. -/
theorem drain_atRest (pipes : Pipes) :
    History pipes (drainMoments pipes.outward.pending.length pipes.inward.pending.length)
        pipes.drain ∧ pipes.drain.AtRest := by
  obtain ⟨historyOut, idleOut, inward⟩ := drainOut_doomed pipes.cancelOut_doomed
  have drained : pipes.drain = drainIn
      (drainOut pipes.outward.pending.length pipes.cancelOut).inward.pending.length
      (drainOut pipes.outward.pending.length pipes.cancelOut).cancelIn := rfl
  generalize drainOut pipes.outward.pending.length pipes.cancelOut = between at *
  obtain ⟨historyIn, idleIn, outward⟩ := drainIn_doomed between.cancelIn_doomed
  have requests : between.inward.pending.length = pipes.inward.pending.length :=
    congrArg (·.pending.length) inward
  rw [drained, ← requests]
  refine ⟨?_, ?_, idleIn⟩
  · exact .append (.cons (.cancelOut pipes) historyOut) (.cons (.cancelIn between) historyIn)
  · rw [outward]
    exact idleOut

/-- The chip behind the pipes has no say in what is in flight. -/
theorem AtRest.deliver (rest : pipes.AtRest) (data : List UInt8) : (pipes.deliver data).AtRest := by
  simp only [Pipes.deliver]
  split
  · exact rest
  · split
    · exact ⟨rest.outward, rest.inward⟩
    · exact ⟨rest.outward, rest.inward⟩
    · exact ⟨rest.outward, ⟨rest.inward.pending, rest.inward.cancelled⟩⟩

/-- The only transfer to the device completes or stays. -/
theorem AtRest.waitOut_submitOut (rest : pipes.AtRest) (data : List UInt8) (milliseconds : Nat) :
    let waited := (pipes.submitOut data).waitOut milliseconds
    (waited.1 = none ∧ waited.2.outward.pending = [data] ∧ waited.2.inward.pending = []) ∨
      ∃ settled, waited.1 = some settled ∧ waited.2.AtRest := by
  obtain ⟨after, ⟨waiting, stays⟩ | ⟨event, completed, idle⟩⟩ :=
    rest.outward.settle_submit data .complete
  · simp [waitOut, submitOut, called, waiting, stays, rest.inward.pending]
  · right
    simp only [waitOut, submitOut, called, completed]
    cases event with
    | fail fault => exact ⟨_, rfl, idle, rest.inward⟩
    | _ =>
      refine ⟨_, rfl, ?_⟩
      apply AtRest.deliver
      exact ⟨idle, rest.inward⟩

/-- The only request for data completes or stays. -/
theorem AtRest.waitIn_submitIn (rest : pipes.AtRest) (request milliseconds : Nat) :
    let waited := (pipes.submitIn request).waitIn milliseconds
    (waited.1 = none ∧ waited.2.outward.pending = [] ∧ waited.2.inward.pending = [request]) ∨
      ∃ settled, waited.1 = some settled ∧ waited.2.AtRest := by
  obtain ⟨after, ⟨waiting, stays⟩ | ⟨event, completed, idle⟩⟩ :=
    rest.inward.settle_submit request .timeout
  · simp [waitIn, submitIn, called, waiting, stays, rest.outward.pending]
  · right
    simp only [waitIn, submitIn, called, completed]
    cases event with
    | complete => exact ⟨_, rfl, rest.outward, idle⟩
    | timeout => exact ⟨_, rfl, rest.outward, idle⟩
    | fail fault => exact ⟨_, rfl, rest.outward, idle⟩
    | data bytes =>
      -- what is over becomes an event; no transfer comes of it
      dsimp only
      cases bytes.drop request with
      | nil => exact ⟨_, rfl, rest.outward, idle⟩
      | cons first excess => exact ⟨_, rfl, rest.outward, idle.pending, idle.cancelled⟩

end Pipes

/-- An account of a call: from the moments one can tell what was transferred and whether all went
well, and in the end nothing is in flight. -/
structure Account (before after : Pipes) (moments : List Moment) (sent : List (List UInt8))
    (requests : List Nat) (success : Prop) : Prop where
  history : Pipes.History before moments after
  sent : moments.filterMap Moment.sent? = sent
  requests : moments.filterMap Moment.request? = requests
  success : success ↔ ∀ moment ∈ moments, moment.Succeeds
  atRest : after.AtRest

namespace Account

variable {before next after : Pipes} {moment : Moment} {moments : List Moment}
  {sent : List (List UInt8)} {requests : List Nat} {success : Prop}

theorem nil {pipes : Pipes} (rest : pipes.AtRest) : Account pipes pipes [] [] [] True :=
  ⟨.nil pipes, rfl, rfl, by simp, rest⟩

/-- One moment more. -/
theorem cons (passes : Pipes.Passes before moment next)
    (account : Account next after moments sent requests success) :
    Account before after (moment :: moments) (moment.sent?.toList ++ sent)
      (moment.request?.toList ++ requests) (moment.Succeeds ∧ success) where
  history := .cons passes account.history
  sent := by
    rw [List.filterMap_cons, account.sent]
    cases moment.sent? <;> rfl
  requests := by
    rw [List.filterMap_cons, account.requests]
    cases moment.request? <;> rfl
  success := by rw [account.success, List.forall_mem_cons]
  atRest := account.atRest

theorem congr {other : Prop} (account : Account before after moments sent requests success)
    (same : other ↔ success) : Account before after moments sent requests other :=
  { account with success := same.trans account.success }

theorem drain (pipes : Pipes) :
    let moments :=
      Pipes.drainMoments pipes.outward.pending.length pipes.inward.pending.length
    Account pipes pipes.drain moments [] [] (∀ moment ∈ moments, moment.Succeeds) := by
  intro moments
  obtain ⟨history, rest⟩ := pipes.drain_atRest
  refine ⟨history, ?_, ?_, Iff.rfl, rest⟩
  · exact List.filterMap_eq_nil_iff.mpr fun moment among =>
      (Pipes.drainMoments_submit moment among).1
  · exact List.filterMap_eq_nil_iff.mpr fun moment among =>
      (Pipes.drainMoments_submit moment among).2

theorem noted (account : Account before after moments sent requests success) :
    Account before { after with heard := [] } (moments ++ [.noted]) sent requests success where
  history := account.history.append (.cons (.note after) (.nil _))
  sent := by
    rw [List.filterMap_append, account.sent]
    exact List.append_nil sent
  requests := by
    rw [List.filterMap_append, account.requests]
    exact List.append_nil requests
  success := by
    rw [account.success, List.forall_mem_append, List.forall_mem_singleton]
    exact (and_iff_left trivial).symm
  atRest := ⟨account.atRest.outward, account.atRest.inward⟩

end Account

namespace Bridge

/-- How a write goes over the pipes. -/
theorem send_account {bridge : Bridge} (rest : bridge.pipes.AtRest) (data : List UInt8) :
    ∃ moments, Account bridge.pipes (bridge.send data).2.pipes moments [data] []
        ((bridge.send data).1 = .ok ()) ∧ moments.length ≤ 5 := by
  have submits := Pipes.Passes.submitOut bridge.pipes data
  have waits := Pipes.Passes.waitOut (bridge.pipes.submitOut data) bridge.timeout
    (by simp [Pipes.submitOut, Endpoint.submit])
  have outcome := rest.waitOut_submitOut data bridge.timeout
  simp only [send]
  generalize (bridge.pipes.submitOut data).waitOut bridge.timeout = waited at *
  obtain ⟨settled, pipes⟩ := waited
  obtain ⟨rfl, outs, ins⟩ | ⟨settled, rfl, restAfter⟩ := outcome
  · have drains := Account.drain pipes
    rw [outs, ins] at drains
    refine ⟨_, ((drains.cons waits).cons submits).congr ?_, Nat.le_refl 5⟩
    simp [Moment.Succeeds]
  · have account := ((Account.nil restAfter).cons waits).cons submits
    cases settled with
    | error fault => exact ⟨_, account.congr (by simp [Moment.Succeeds]), by simp⟩
    | ok _ => exact ⟨_, account.congr (by simp [Moment.Succeeds]), by simp⟩

theorem requestSize_dvd (missing maxPacket : Nat) :
    max 1 maxPacket ∣ requestSize missing maxPacket :=
  Nat.dvd_mul_left _ _

theorem requestSize_lt (missing maxPacket : Nat) :
    requestSize missing maxPacket < missing + max 1 maxPacket := by
  have whole := Nat.div_mul_le_self (missing + max 1 maxPacket - 1) (max 1 maxPacket)
  simp only [requestSize]
  omega

end Bridge

/-- A read that still misses bytes, or has them all. -/
structure Round where
  missing : Nat
  got : List UInt8
  bridge : Bridge

namespace Round

/-- How many bytes are requested next. -/
def request (round : Round) : Nat :=
  Bridge.requestSize round.missing round.bridge.pipes.maxPacket

/-- What the next wait comes back with. -/
def waited (round : Round) : Option (Except TransferFault (List UInt8)) × Pipes :=
  (round.bridge.pipes.submitIn round.request).waitIn round.bridge.timeout

/-- The read with the bytes of one more transfer. -/
def next (round : Round) (received : List UInt8) : Round where
  missing := round.missing - (received.take round.missing).length
  got := round.got ++ received.take round.missing
  bridge := { round.bridge with
    pipes := round.waited.2
    stash := round.bridge.stash ++ received.drop round.missing }

/-- The rest of a read of `want` bytes. -/
def finish (want : Nat) (round : Round) : Except UsbError (List UInt8) × Bridge :=
  Bridge.collect want round.missing round.got round.bridge

/-- This round and those that follow, as long as bytes are missing and some come. -/
def rounds (round : Round) : List Round :=
  if round.missing = 0 then []
  else
    match round.waited.1 with
    | some (.ok (first :: rest)) => round :: (round.next (first :: rest)).rounds
    | _ => [round]
termination_by round.missing
decreasing_by simp only [next, List.length_take, List.length_cons]; omega

variable {round : Round} {want packet : Nat}

theorem rounds_of_stops (left : round.missing ≠ 0)
    (stops : ∀ first rest, round.waited.1 = some (.ok (first :: rest)) → False) :
    round.rounds = [round] := by
  rw [rounds, if_neg left]
  split
  · next first rest settled => exact (stops first rest settled).elim
  · rfl

theorem finish_complete (complete : round.missing = 0) :
    round.finish want = (.ok round.got, round.bridge) := by
  rw [finish, Bridge.collect, if_pos complete]

theorem finish_missing (left : round.missing ≠ 0) :
    round.finish want = match round.waited.1 with
      | none => (.error .timeout, { round.bridge with pipes := round.waited.2.drain })
      | some (.error fault) =>
        (.error (.transferFailed fault), { round.bridge with pipes := round.waited.2 })
      | some (.ok []) =>
        (.error (.shortRead want (want - round.missing)),
          { round.bridge with pipes := round.waited.2 })
      | some (.ok (first :: rest)) => (round.next (first :: rest)).finish want := by
  rw [finish, Bridge.collect, if_neg left]
  rfl

/-- What is true of a read before each request: no transfer is in flight, and as long as bytes are
missing, none are stashed. -/
structure Underway (want packet : Nat) (round : Round) : Prop where
  filled : round.got.length + round.missing = want
  stash : round.missing = 0 ∨ round.bridge.stash = []
  atRest : round.bridge.pipes.AtRest
  maxPacket : round.bridge.pipes.maxPacket = packet

theorem Underway.next (underway : round.Underway want packet) (left : round.missing ≠ 0)
    {received : List UInt8} (settled : round.waited.1 = some (.ok received)) :
    (round.next received).Underway want packet := by
  have rest : round.waited.2.AtRest := by
    obtain ⟨waiting, -⟩ | ⟨-, -, rest⟩ :=
      underway.atRest.waitIn_submitIn round.request round.bridge.timeout
    · cases settled.symm.trans waiting
    · exact rest
  have taken : (received.take round.missing).length ≤ round.missing := List.length_take_le _ _
  refine ⟨?_, ?_, rest, (Pipes.maxPacket_waitIn _ _).trans underway.maxPacket⟩
  · have filled := underway.filled
    simp only [Round.next, List.length_append]
    omega
  · simp only [Round.next, underway.stash.resolve_left left, List.nil_append, List.length_take,
      List.drop_eq_nil_iff]
    omega

/-- How a read of `want` bytes makes a request. -/
structure Fits (want packet : Nat) (round : Round) : Prop where
  filled : round.got.length + round.missing = want
  stash : round.bridge.stash = []
  atRest : round.bridge.pipes.AtRest
  positive : 0 < round.request
  packets : max 1 packet ∣ round.request
  enough : round.missing ≤ round.request
  tight : round.request < round.missing + max 1 packet

theorem Underway.fits (underway : round.Underway want packet) (left : round.missing ≠ 0) :
    round.Fits want packet := by
  have enough := Bridge.le_requestSize round.missing packet
  have packets := Bridge.requestSize_dvd round.missing packet
  have tight := Bridge.requestSize_lt round.missing packet
  rw [← underway.maxPacket] at enough packets tight ⊢
  exact ⟨underway.filled, underway.stash.resolve_left left, underway.atRest,
    Nat.lt_of_lt_of_le (Nat.pos_of_ne_zero left) enough, packets, enough, tight⟩

/-- By induction on the rounds: from each of them the read ends as it does from the first. -/
theorem Underway.fits_of_mem (underway : round.Underway want packet) :
    ∀ later ∈ round.rounds, later.Fits want packet ∧ round.finish want = later.finish want := by
  induction round using rounds.induct with
  | case1 round complete =>
    rw [rounds, if_pos complete]
    intro later among
    cases among
  | case2 round left first rest settled ih =>
    rw [rounds, if_neg left, settled]
    intro later among
    rcases List.mem_cons.mp among with rfl | follows
    · exact ⟨underway.fits left, rfl⟩
    · obtain ⟨fits, same⟩ := ih (underway.next left settled) later follows
      refine ⟨fits, ?_⟩
      rw [finish_missing left, settled]
      exact same
  | case3 round left stops =>
    rw [rounds_of_stops left stops]
    intro later among
    obtain rfl := List.mem_singleton.mp among
    exact ⟨underway.fits left, rfl⟩

/-- How a read goes over the pipes, by induction on the rounds. -/
theorem Underway.account (underway : round.Underway want packet) :
    ∃ moments, Account round.bridge.pipes (round.finish want).2.pipes moments []
        (round.rounds.map request) (∃ bytes, (round.finish want).1 = .ok bytes) ∧
      moments.length ≤ 2 * round.missing + 3 := by
  induction round using rounds.induct with
  | case1 round complete =>
    rw [finish_complete complete, rounds, if_pos complete]
    exact ⟨[], (Account.nil underway.atRest).congr (by simp), Nat.zero_le _⟩
  | case2 round left first rest settled ih =>
    obtain ⟨moments, account, few⟩ := ih (underway.next left settled)
    have waits := Pipes.Passes.waitIn (round.bridge.pipes.submitIn round.request)
      round.bridge.timeout (by simp [Pipes.submitIn, Endpoint.submit])
    rw [finish_missing left, rounds, if_neg left, settled]
    refine ⟨_, ((account.cons waits).cons (.submitIn _ _)).congr ?_, ?_⟩
    · have succeeds : Moment.Succeeds (.waitedIn round.bridge.timeout round.waited.1) :=
        ⟨first, rest, settled⟩
      exact ⟨fun success => ⟨trivial, succeeds, success⟩, fun success => success.2.2⟩
    · have fewer : (round.next (first :: rest)).missing < round.missing := by
        simp only [Round.next, List.length_take, List.length_cons]
        omega
      simp only [List.length_cons]
      omega
  | case3 round left stops =>
    have submits := Pipes.Passes.submitIn round.bridge.pipes round.request
    have waits := Pipes.Passes.waitIn (round.bridge.pipes.submitIn round.request)
      round.bridge.timeout (by simp [Pipes.submitIn, Endpoint.submit])
    have outcome := underway.atRest.waitIn_submitIn round.request round.bridge.timeout
    rw [finish_missing left, rounds_of_stops left stops]
    simp only [waited] at stops ⊢
    generalize (round.bridge.pipes.submitIn round.request).waitIn round.bridge.timeout = waited at *
    obtain ⟨settled, pipes⟩ := waited
    obtain ⟨rfl, outs, ins⟩ | ⟨settled, rfl, restAfter⟩ := outcome
    · have drains := Account.drain pipes
      rw [outs, ins] at drains
      refine ⟨_, ((drains.cons waits).cons submits).congr (by simp [Moment.Succeeds]), ?_⟩
      show 5 ≤ 2 * round.missing + 3
      omega
    · have account := ((Account.nil restAfter).cons waits).cons submits
      cases settled with
      | error fault => exact ⟨_, account.congr (by simp [Moment.Succeeds]), by simp⟩
      | ok bytes =>
        cases bytes with
        | nil => exact ⟨_, account.congr (by simp [Moment.Succeeds]), by simp⟩
        | cons first rest => exact (stops first rest rfl).elim

/-- A read that has taken what was stashed. -/
def first (want : Nat) (bridge : Bridge) : Round where
  missing := want - (bridge.stash.take want).length
  got := bridge.stash.take want
  bridge := { bridge with stash := bridge.stash.drop want }

theorem first_underway {bridge : Bridge} (rest : bridge.pipes.AtRest) (want : Nat) :
    (first want bridge).Underway want bridge.pipes.maxPacket := by
  refine ⟨?_, ?_, rest, rfl⟩
  · simp only [first, List.length_take]
    omega
  · simp only [first, List.length_take, List.drop_eq_nil_iff]
    omega

end Round

/-- How a read goes over the pipes. -/
theorem Bridge.receive_account {bridge : Bridge} (rest : bridge.pipes.AtRest) (want : Nat) :
    ∃ moments, Account bridge.pipes (bridge.receive want).2.pipes moments []
        ((Round.first want bridge).rounds.map Round.request)
        (∃ bytes, (bridge.receive want).1 = .ok bytes) ∧
      moments.length ≤ 2 * want + 3 := by
  have underway := Round.first_underway rest want
  obtain ⟨moments, account, few⟩ := underway.account
  have filled := underway.filled
  exact ⟨moments, account, by omega⟩

/-- A call of the link that a bridge is. -/
inductive Transfer where
  | write (data : List UInt8)
  | read (count : Nat)

namespace Transfer

/-- The bridge when the call has returned. -/
def after : Transfer → Bridge → Bridge
  | write data, bridge => (Link.write data bridge).state
  | read count, bridge => (Link.read count bridge).state

/-- The call returns without an error. -/
def Succeeds : Transfer → Bridge → Prop
  | write data, bridge => ∃ value, (Link.write data bridge).result = .ok value
  | read count, bridge => ∃ bytes, (Link.read count bridge).result = .ok bytes

def sent : Transfer → List (List UInt8)
  | write data => [data]
  | read _ => []

def want : Transfer → Nat
  | write _ => 0
  | read count => count

/-- The rounds in which a call requests bytes. -/
def rounds : Transfer → Bridge → List Round
  | write _, _ => []
  | read count, bridge => (Round.first count bridge).rounds

end Transfer

theorem Bridge.pipes_reply {α : Type} (outcome : Except UsbError α × Bridge)
    (surplus : Bridge → List Notice) :
    (reply outcome surplus).state.pipes = { outcome.2.pipes with heard := [] } := by
  obtain ⟨result, bridge⟩ := outcome
  cases result <;> rfl

theorem Bridge.reply_eq_ok_iff {α : Type} (outcome : Except UsbError α × Bridge)
    (surplus : Bridge → List Notice) (value : α) :
    (reply outcome surplus).result = .ok value ↔ outcome.1 = .ok value := by
  obtain ⟨result, bridge⟩ := outcome
  cases result with
  | error e => exact iff_of_false nofun nofun
  | ok found => simp [reply]

namespace Transfer

variable {bridge : Bridge}

/-- How a call goes over the pipes. -/
theorem account (transfer : Transfer) (rest : bridge.pipes.AtRest) :
    ∃ moments, Account bridge.pipes (transfer.after bridge).pipes moments transfer.sent
        ((transfer.rounds bridge).map Round.request) (transfer.Succeeds bridge) ∧
      moments.length ≤ 2 * transfer.want + 6 := by
  cases transfer with
  | write data =>
    obtain ⟨moments, account, few⟩ := Bridge.send_account rest data
    have noted := account.noted
    rw [← Bridge.pipes_reply (bridge.send data) fun _ => []] at noted
    refine ⟨_, noted.congr ?_, ?_⟩
    · simp only [Succeeds, Link.write, Bridge.reply_eq_ok_iff]
      exact ⟨fun ⟨_, sent⟩ => sent, fun sent => ⟨(), sent⟩⟩
    · rw [List.length_append, List.length_singleton]
      omega
  | read count =>
    obtain ⟨moments, account, few⟩ := Bridge.receive_account rest count
    have noted := account.noted
    rw [← Bridge.pipes_reply (bridge.receive count) Bridge.surplusWarning] at noted
    refine ⟨_, noted.congr ?_, ?_⟩
    · simp only [Succeeds, Link.read, Bridge.reply_eq_ok_iff]
    · rw [List.length_append, List.length_singleton]
      simp only [want]
      omega

theorem fits_of_mem (transfer : Transfer) (rest : bridge.pipes.AtRest) :
    ∀ round ∈ transfer.rounds bridge, round.Fits transfer.want bridge.pipes.maxPacket ∧
      bridge.receive transfer.want = round.finish transfer.want := by
  cases transfer with
  | write data =>
    intro round among
    cases among
  | read count => exact (Round.first_underway rest count).fits_of_mem

end Transfer

/-- The bridge when one call after another has returned. -/
def Transfer.afterAll (transfers : List Transfer) (bridge : Bridge) : Bridge :=
  transfers.foldl (fun bridge transfer => transfer.after bridge) bridge

/-- By induction on the calls: each leaves the pipes at rest for the next. -/
theorem Transfer.afterAll_atRest {bridge : Bridge} (rest : bridge.pipes.AtRest)
    (transfers : List Transfer) :
    (afterAll transfers bridge).pipes.AtRest ∧
      (afterAll transfers bridge).pipes.maxPacket = bridge.pipes.maxPacket := by
  induction transfers generalizing bridge with
  | nil => exact ⟨rest, rfl⟩
  | cons transfer later ih =>
    obtain ⟨moments, account, -⟩ := transfer.account rest
    obtain ⟨restLast, maxPacket⟩ := ih account.atRest
    exact ⟨restLast, maxPacket.trans account.history.maxPacket⟩

/-- Nothing is in flight on the pipes of an interface that has just been claimed. -/
theorem Bus.openBridge_atRest {bus : Bus} {config : Config} {number : Nat} {pipes : Pipes}
    (opens : (bus.openBridge config number).1 = .ok pipes) : pipes.AtRest := by
  unfold openBridge at opens
  split at opens
  · cases opens
  · split at opens
    · cases opens
    · split at opens
      · cases opens
      · dsimp only at opens
        split at opens
        · cases opens
        · split at opens
          · cases opens
            exact ⟨⟨rfl, rfl⟩, ⟨rfl, rfl⟩⟩
          · cases opens

theorem Bridge.openNth_atRest {bus : Bus} {config : Config} {number : Nat} {bridge : Bridge}
    (opens : (openNth bus config number).1 = .ok bridge) : bridge.pipes.AtRest := by
  simp only [openNth] at opens
  cases claimed : (bus.openBridge config number).1 with
  | error e =>
    rw [claimed] at opens
    cases opens
  | ok pipes =>
    rw [claimed] at opens
    cases opens
    exact Bus.openBridge_atRest claimed

/-- No transfer outlives its call. On an open bridge, after any calls, the next one ends after
finitely many moments, and then nothing is in flight. A write submits its bytes as one transfer. A
read makes each request in whole packets, no larger than what is missing demands, with nothing
stashed and nothing else in flight. A call succeeds just if all that it waits for does. -/
theorem Transfer.none_outlives_its_call {bus : Bus} {config : Config} {number : Nat}
    {opened : Bridge} (opens : (Bridge.openNth bus config number).1 = .ok opened)
    (earlier : List Transfer) (transfer : Transfer) :
    let before := afterAll earlier opened
    let after := transfer.after before
    ∃ moments, before.pipes.History moments after.pipes ∧
      after.pipes.calls = (moments.filterMap Moment.call?).reverse ++ before.pipes.calls ∧
      moments.length ≤ 2 * transfer.want + 6 ∧
      after.pipes.outward.pending = [] ∧ after.pipes.inward.pending = [] ∧
      moments.filterMap Moment.sent? = transfer.sent ∧
      moments.filterMap Moment.request? = (transfer.rounds before).map Round.request ∧
      (∀ round ∈ transfer.rounds before, round.Fits transfer.want opened.pipes.maxPacket ∧
        before.receive transfer.want = round.finish transfer.want) ∧
      (transfer.Succeeds before ↔ ∀ moment ∈ moments, moment.Succeeds) := by
  intro before after
  obtain ⟨rest, maxPacket⟩ := afterAll_atRest (Bridge.openNth_atRest opens) earlier
  obtain ⟨moments, account, few⟩ := transfer.account rest
  rw [← maxPacket]
  exact ⟨moments, account.history, account.history.calls, few, account.atRest.outward.pending,
    account.atRest.inward.pending, account.sent, account.requests, transfer.fits_of_mem rest,
    account.success⟩

/-- A write, after a read whose second request was not answered in time; and after both a read that
takes three requests. -/
theorem Transfer.none_outlives_its_call_late :
    let events : List Event :=
      [.data [1, 2, 3], .timeout, .data [4], .data [5, 6], .data [7, 8, 9]]
    let bus : Bus := { devices := [{ maxPacket := 2, inEvents := events }] }
    let opened : Bridge :=
      { timeout := 5000
        pipes := { inward := { events }, maxPacket := 2, calls := [.claim 1, .openDevice 0] } }
    let late := afterAll [.read 5] opened
    let written := (write [7, 8]).after late
    let last := (read 5).after written
    (Bridge.openNth bus {} 0).1 = .ok opened ∧
    (∃ moments, late.pipes.History moments written.pipes ∧ moments.length ≤ 6 ∧
      written.pipes.outward.pending = [] ∧ written.pipes.inward.pending = [] ∧
      moments.filterMap Moment.sent? = [[7, 8]] ∧ moments.filterMap Moment.request? = []) ∧
    ∃ moments, written.pipes.History moments last.pipes ∧ moments.length ≤ 16 ∧
      last.pipes.outward.pending = [] ∧ last.pipes.inward.pending = [] ∧
      moments.filterMap Moment.request? = [6, 4, 2] ∧ ∀ moment ∈ moments, moment.Succeeds := by
  intro events bus opened late written last
  have opens : (Bridge.openNth bus {} 0).1 = .ok opened := rfl
  have requested : ((read 5).rounds written).map Round.request = [6, 4, 2] := by decide +kernel
  have succeeds : (read 5).Succeeds written := ⟨[4, 5, 6, 7, 8], by decide +kernel⟩
  obtain ⟨moments, history, -, few, noneOut, noneIn, sent, requests, -⟩ :=
    none_outlives_its_call opens [.read 5] (.write [7, 8])
  refine ⟨opens, ⟨moments, history, few, noneOut, noneIn, sent, requests⟩, ?_⟩
  obtain ⟨moments, history, -, few, noneOut, noneIn, -, requests, -, success⟩ :=
    none_outlives_its_call opens [.read 5, .write [7, 8]] (.read 5)
  exact ⟨moments, history, few, noneOut, noneIn, requests.trans requested, success.mp succeeds⟩

end OnfiFlash.Usb
