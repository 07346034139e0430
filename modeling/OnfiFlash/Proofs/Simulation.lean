import OnfiFlash.Proofs.SessionCalls

/-! One dialogue over two links. As long as the links answer alike, the dialogue takes the same path
over both; so links that stay related from frame to frame cannot be told apart by anything a session
does. -/
namespace OnfiFlash

variable {σ τ : Type} [Link σ] [Link τ] {α β : Type}

/-- The links answer the frame alike and log the same, and they are related afterwards. -/
structure Link.Agree (frame : Frame) (link : σ) (other : τ) (related : σ → τ → Prop) : Prop where
  result : (execute frame link).result = (execute frame other).result
  notices : (execute frame link).notices = (execute frame other).notices
  related : related (execute frame link).state (execute frame other).state

namespace Dialogue

/-- Over either link the dialogue comes to the same value by the same transcript, and the links are
related afterwards. -/
structure Matches (dialogue : Dialogue α) (link : σ) (other : τ) (related : α → σ → τ → Prop) :
    Prop where
  value : (dialogue.run link).value = (dialogue.run other).value
  transcript : (dialogue.run link).transcript = (dialogue.run other).transcript
  related : related (dialogue.run link).value (dialogue.run link).link (dialogue.run other).link

variable {link : σ} {other : τ} {related : α → σ → τ → Prop}

theorem matches_done {value : α} (kept : related value link other) :
    (done value).Matches link other related := ⟨rfl, rfl, kept⟩

theorem Matches.mono {dialogue : Dialogue α} {closer : α → σ → τ → Prop}
    (matched : dialogue.Matches link other closer)
    (weaker : ∀ value link other, closer value link other → related value link other) :
    dialogue.Matches link other related :=
  ⟨matched.value, matched.transcript, weaker _ _ _ matched.related⟩

theorem Matches.and_value {dialogue : Dialogue α} (property : α → Prop)
    (matched : dialogue.Matches link other related)
    (holds : property (dialogue.run link).value) :
    dialogue.Matches link other fun value link other =>
      related value link other ∧ property value :=
  ⟨matched.value, matched.transcript, matched.related, holds⟩

theorem Matches.bind {first : Dialogue β} {next : β → Dialogue α} {mid : β → σ → τ → Prop}
    (begun : first.Matches link other mid)
    (continued : ∀ value link other, mid value link other →
      (next value).Matches link other related) :
    (first.bind next).Matches link other related := by
  have rest := continued _ _ _ begun.related
  constructor <;> simp only [run_bind, ← begun.value]
  · exact rest.value
  · rw [begun.transcript, rest.transcript]
  · exact rest.related

theorem matches_request {frame : Frame} {next : Except Error (List UInt8) → Dialogue α}
    {between : σ → τ → Prop} (agree : Link.Agree frame link other between)
    (continued : ∀ answer link other, between link other →
      (next answer).Matches link other related) :
    (request frame next).Matches link other related := by
  have exchanged : exchange frame (Link.execute frame link)
      = exchange frame (Link.execute frame other) := by
    rw [exchange, exchange, agree.result, agree.notices]
  have rest := continued (Link.execute frame link).result _ _ agree.related
  constructor <;> simp only [run_request, ← agree.result]
  · exact rest.value
  · rw [exchanged, rest.transcript]
  · exact rest.related

/-- Links that agree on every frame, and still do afterwards, cannot be told apart. -/
theorem matches_of_agree {related : σ → τ → Prop}
    (agree : ∀ frame link other, related link other → Link.Agree frame link other related)
    (dialogue : Dialogue α) {link : σ} {other : τ} (start : related link other) :
    dialogue.Matches link other fun _ => related := by
  induction dialogue generalizing link other with
  | done value => exact matches_done start
  | request frame next ih =>
    exact matches_request (agree frame link other start) fun answer _ _ kept => ih answer kept
  | remark said rest ih =>
    have later := ih start
    constructor <;> simp only [run_remark]
    · exact later.value
    · rw [later.transcript]
    · exact later.related

end Dialogue

namespace Query

theorem matches_execute {frame : Frame} {link : σ} {other : τ} {related : σ → τ → Prop}
    (agree : Link.Agree frame link other related) :
    (execute frame).run.Matches link other fun _ => related := by
  show (Dialogue.request frame .done).Matches link other fun _ => related
  exact Dialogue.matches_request agree fun _ _ _ kept => Dialogue.matches_done kept

theorem matches_bind {first : Query β} {next : β → Query α} {link : σ} {other : τ}
    {mid : Except Error β → σ → τ → Prop} {post : Except Error α → σ → τ → Prop}
    (begun : first.run.Matches link other mid)
    (failed : ∀ e link other, mid (.error e) link other → post (.error e) link other)
    (passed : ∀ value link other, mid (.ok value) link other →
      (next value).run.Matches link other post) :
    (first >>= next).run.Matches link other post := by
  rw [run_bind]
  refine begun.bind fun result link other reached => ?_
  cases result with
  | error e => exact Dialogue.matches_done (failed e link other reached)
  | ok value => exact passed value link other reached

/-- Related links cannot be told apart by the query and are related afterwards. -/
def Simulates (related : σ → τ → Prop) (query : Query α) : Prop :=
  ∀ link other, related link other → query.run.Matches link other fun _ => related

variable {related : σ → τ → Prop}

theorem simulates_pure (value : α) : Simulates related (pure value) :=
  fun _ _ start => Dialogue.matches_done start

theorem simulates_throw (e : Error) : Simulates related (throw e : Query α) :=
  fun _ _ start => Dialogue.matches_done start

theorem simulates_note (notice : Notice) : Simulates related (note notice) :=
  fun _ _ start => ⟨rfl, rfl, start⟩

theorem Simulates.bind {first : Query β} {next : β → Query α} (begun : Simulates related first)
    (continued : ∀ value, Simulates related (next value)) : Simulates related (first >>= next) :=
  fun link other start => matches_bind (begun link other start) (fun _ _ _ kept => kept)
    fun value link other kept => continued value link other kept

/-- Links that agree on plain frames and stay related by them. -/
def Steady (related : σ → τ → Prop) : Prop :=
  ∀ frame : Frame, frame.Plain → ∀ link other, related link other →
    Link.Agree frame link other related

namespace Steady

variable (steady : Steady related)
include steady

theorem execute {frame : Frame} (plain : frame.Plain) :
    Simulates related (execute frame) :=
  fun link other start => matches_execute (steady frame plain link other start)

theorem readStatus : Simulates related readStatus := by
  refine (steady.execute (.reports Opcode.readStatus rfl (by decide))).bind fun bytes => ?_
  cases bytes with
  | nil => exact simulates_throw _
  | cons bits _ => exact simulates_pure _

theorem awaitReady {giveUp : Query Status} (gives : Simulates related giveUp) (polls : Nat) :
    Simulates related (awaitReady giveUp polls) := by
  induction polls with
  | zero => exact gives
  | succ polls ih =>
    refine steady.readStatus.bind fun status => ?_
    split
    · exact simulates_pure _
    · exact ih

theorem pollReady (polling : PollLimit) : Simulates related (pollReady polling) := by
  cases polling with
  | atMost polls =>
    exact steady.awaitReady ((simulates_note _).bind fun _ => simulates_throw _) (max 1 polls)
  | unbounded horizon => exact steady.awaitReady (simulates_throw _) horizon

theorem reset (polling : PollLimit) : Simulates related (reset polling) :=
  (steady.execute (.silent Opcode.reset rfl (by decide) rfl)).bind fun _ => steady.pollReady _

theorem readId (address : UInt8) (length : Nat) : Simulates related (readId address length) :=
  steady.execute (.reports Opcode.readId rfl (by decide))

theorem setFeatures (feature : UInt8) (parameters : List UInt8) (polling : PollLimit) :
    Simulates related (setFeatures feature parameters polling) :=
  (steady.execute (.silent Opcode.setFeatures rfl (by decide) rfl)).bind fun _ =>
    steady.pollReady _

theorem composed (polling : PollLimit) :
    Composed polling fun _ query => Simulates related query where
  pure := simulates_pure
  throw e _ := simulates_throw e
  bind := Simulates.bind
  note := simulates_note
  readId := steady.readId
  readParameterPage _ := steady.execute (.reports Opcode.readParameterPage rfl (by decide))
  setFeatures feature parameters _ := steady.setFeatures feature parameters polling

end Steady
end Query

namespace Query

/-- Whatever the link, what the query yields has the property. -/
def Yields (query : Query α) (property : α → Prop) : Prop :=
  ∀ (σ : Type) [Link σ] (link : σ), query.Ensures link fun result _ _ =>
    ∀ value, result = .ok value → property value

variable {property : α → Prop}

theorem yields_pure {value : α} (holds : property value) :
    (pure value : Query α).Yields property :=
  fun _ _ _ => (ensures_pure value).mpr fun _ found => Except.ok.inj found ▸ holds

theorem Yields.bind {first : Query β} {next : β → Query α} {mid : β → Prop}
    (begun : first.Yields mid) (continued : ∀ value, mid value → (next value).Yields property) :
    (first >>= next).Yields property :=
  fun σ _ link => Ensures.bind (begun σ link) (fun _ _ _ _ _ raised => by cases raised)
    fun value after _ holds => continued value (holds value rfl) σ after

theorem Yields.after {first : Query β} {next : β → Query α}
    (continued : ∀ value, (next value).Yields property) : (first >>= next).Yields property := by
  have begun : first.Yields fun _ => True := fun _ _ _ _ _ => trivial
  exact begun.bind fun value _ => continued value

end Query

namespace Session

theorem ofGeometry_yields (g : Geometry) (config : SessionConfig) :
    (ofGeometry g config).Yields fun session => session.state = .idle := by
  unfold ofGeometry
  split
  · exact fun _ _ _ _ raised => by cases raised
  · exact Query.yields_pure rfl

theorem describe_yields (config : SessionConfig) (id : List UInt8) (internalEcc : Bool) :
    (describe config id internalEcc).Yields fun session => session.state = .idle :=
  .after fun g => (ofGeometry_yields g config).bind fun _ idle => Query.yields_pure idle

/-- No page is loaded in a session just opened. -/
theorem identify_yields (config : SessionConfig) :
    (identify config).Yields fun session => session.state = .idle := by
  have examined : (examine config).Yields fun session => session.state = .idle :=
    examine_cases (motive := fun query => query.Yields _) config
      (fun _ rest => .after fun _ => rest) (fun _ => .after) (fun _ => .after)
      (describe_yields config)
  rw [identify_eq]
  split
  · exact .after fun _ => examined
  · exact examined

variable {related : σ → τ → Prop} {link : σ} {other : τ}

/-- Links that agree on plain frames and are related once the reset is done, if there is one, give
the same session. -/
theorem matches_identify (steady : Query.Steady related) (config : SessionConfig)
    (resets : config.resetFirst = true →
      (Query.reset config.polling).run.Matches link other fun _ => related)
    (start : config.resetFirst = false → related link other) :
    (identify config).run.Matches link other fun _ => related := by
  have examined : Query.Simulates related (examine config) :=
    examine_composed config (steady.composed config.polling)
  rw [identify_eq]
  split
  · next first =>
    exact Query.matches_bind (resets first) (fun _ _ _ kept => kept) fun _ => examined
  · next skipped => exact examined _ _ (start (Bool.eq_false_iff.mpr skipped))

end Session

namespace Operation

theorem matches_bind {first : Operation β} {next : β → Operation α} {session : Session} {link : σ}
    {other : τ} {mid : Except Error β × Session → σ → τ → Prop}
    {post : Except Error α × Session → σ → τ → Prop}
    (begun : (first.runIn session).Matches link other mid)
    (failed : ∀ e left link other, mid (.error e, left) link other →
      post (.error e, left) link other)
    (passed : ∀ value left link other, mid (.ok value, left) link other →
      ((next value).runIn left).Matches link other post) :
    ((first >>= next).runIn session).Matches link other post := by
  rw [runIn_bind]
  refine begun.bind fun reached link other kept => ?_
  rcases reached with ⟨result, left⟩
  cases result with
  | error e => exact Dialogue.matches_done (failed e left link other kept)
  | ok value => exact passed value left link other kept

theorem matches_ofQuery {query : Query α} {session : Session} {link : σ} {other : τ}
    {mid : Except Error α → σ → τ → Prop} (asked : query.run.Matches link other mid) :
    ((ofQuery query).runIn session).Matches link other fun reached link other =>
      reached.2 = session ∧ mid reached.1 link other := by
  rw [runIn_ofQuery]
  exact asked.bind fun _ _ _ kept => Dialogue.matches_done ⟨rfl, kept⟩

/-- Links that are related, given the command state of the session, cannot be told apart by the
operation and are related afterwards. -/
def Simulates (related : ChipState → σ → τ → Prop) (operation : Operation α) : Prop :=
  ∀ session link other, related session.state link other →
    (operation.runIn session).Matches link other fun reached => related reached.2.state

variable {related : ChipState → σ → τ → Prop}

theorem Simulates.bind {first : Operation β} {next : β → Operation α}
    (begun : Simulates related first) (continued : ∀ value, Simulates related (next value)) :
    Simulates related (first >>= next) :=
  fun session link other start => matches_bind (begun session link other start)
    (fun _ _ _ _ kept => kept) fun value => continued value

theorem Simulates.tryCatch {operation : Operation α} {handler : Error → Operation α}
    (begun : Simulates related operation) (caught : ∀ e, Simulates related (handler e)) :
    Simulates related (tryCatch operation handler) := by
  intro session link other start
  rw [runIn_tryCatch]
  refine (begun session link other start).bind fun reached link other kept => ?_
  rcases reached with ⟨result, left⟩
  cases result with
  | error e => exact caught e left link other kept
  | ok value => exact Dialogue.matches_done kept

theorem simulates_ofQuery {query : Query α}
    (asked : ∀ state, Query.Simulates (related state) query) :
    Simulates related (ofQuery query) := by
  intro session link other start
  refine (matches_ofQuery (asked _ link other start)).mono fun reached link other kept => ?_
  exact kept.1 ▸ kept.2

theorem simulates_throw (e : Error) : Simulates related (throw e : Operation α) :=
  fun _ _ _ start => Dialogue.matches_done start

theorem simulates_closed : Closed fun _ operation => Simulates related operation :=
  .of_catching (fun _ _ _ _ start => Dialogue.matches_done start) simulates_throw Simulates.bind
    Simulates.tryCatch (fun _ _ _ start => Dialogue.matches_done start)
    fun notice => simulates_ofQuery fun _ => Query.simulates_note notice

section Steady

variable (steady : ∀ state, Query.Steady (related state))
include steady

theorem simulates_execute {frame : Frame} (plain : frame.Plain) :
    Simulates related (execute frame) :=
  simulates_ofQuery fun state => (steady state).execute plain

theorem simulates_readStatus : Simulates related readStatus :=
  simulates_ofQuery fun state => (steady state).readStatus

theorem simulates_waitReady : Simulates related waitReady :=
  simulates_closed.bind simulates_closed.get fun _ =>
    simulates_ofQuery fun state => (steady state).pollReady _

end Steady

/-- What makes related links run in lockstep: they agree on plain frames, whatever the session takes
the chip to be doing. A relation may ask for more while a page is loaded, but only loading a page
has to provide it and only reading data may use it. -/
structure Lockstep (related : ChipState → σ → τ → Prop) : Prop where
  steady : ∀ state, Query.Steady (related state)
  leaves : ∀ state left link other, left ≠ .reading → related state link other →
    related left link other
  loadPage : ∀ page, Simulates related (loadPage page)
  readData : ∀ start size?, Simulates related (readData start size?)

namespace Lockstep

variable (lockstep : Lockstep related)
include lockstep

theorem enter {state : ChipState} (left : state ≠ .reading) : Simulates related (enter state) :=
  fun _ _ _ start => Dialogue.matches_done (lockstep.leaves _ _ _ _ left start)

theorem hereditary : Hereditary fun _ operation => Simulates related operation where
  toClosed := simulates_closed
  progress _ := fun _ _ _ start => ⟨rfl, rfl, start⟩
  keep _ := fun _ _ _ start => Dialogue.matches_done start
  readStatus := simulates_readStatus lockstep.steady
  waitReady := simulates_waitReady lockstep.steady
  loadPage := lockstep.loadPage
  readData start size? _ := lockstep.readData start size?
  eraseBlock := simulates_closed.eraseBlock
    (fun _ plain _ => simulates_execute lockstep.steady plain) (fun _ left => lockstep.enter left)
    (simulates_waitReady lockstep.steady)
  programPage := simulates_closed.programPage
    (fun _ plain _ => simulates_execute lockstep.steady plain) (fun _ left => lockstep.enter left)
    (simulates_readStatus lockstep.steady) (simulates_waitReady lockstep.steady)

end Lockstep
end Operation

namespace Session

variable {related : ChipState → σ → τ → Prop} {link : σ} {other : τ}

/-- By induction on the calls: each leaves the links related for the next. -/
theorem matches_answers (lockstep : Operation.Lockstep related) (calls : List Call)
    {session : Session} (start : related session.state link other) :
    (answers calls session).Matches link other fun reached => related reached.2.state := by
  induction calls generalizing session link other with
  | nil => exact Dialogue.matches_done start
  | cons call rest ih =>
    have simulated := call.inherits lockstep.hereditary fun start size? _ =>
      lockstep.readData start size?
    refine (simulated session link other start).bind ?_
    intro reached link other kept
    exact (ih kept).bind fun _ _ _ keptAfter => Dialogue.matches_done keptAfter

/-- Links in lockstep cannot be told apart by opening a session and calling it. -/
theorem matches_converse (lockstep : Operation.Lockstep related) (config : SessionConfig)
    (calls : List Call)
    (resets : config.resetFirst = true →
      (Query.reset config.polling).run.Matches link other fun _ => related .idle)
    (start : config.resetFirst = false → related .idle link other) :
    (converse config calls).Matches link other fun _ link other =>
      ∃ state, related state link other := by
  have opens := matches_identify (lockstep.steady .idle) config resets start
  have known := opens.and_value (fun opened : Except Error Session => ∀ session,
    opened = .ok session → session.state = .idle) (identify_yields config σ link)
  refine known.bind ?_
  rintro opened link other ⟨kept, idle⟩
  cases opened with
  | error e => exact Dialogue.matches_done ⟨_, kept⟩
  | ok session =>
    rw [← idle session rfl] at kept
    exact (matches_answers lockstep calls kept).bind fun _ _ _ keptAfter =>
      Dialogue.matches_done ⟨_, keptAfter⟩

end Session
end OnfiFlash
