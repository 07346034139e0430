import OnfiFlash.Proofs.ParameterPage
import OnfiFlash.Proofs.SessionCalls

/-! Sessions in use on a chip. A session opened on a chip has its layout, and keeps it through
whatever is done with the session or past it; so it can drive the chip at any time. -/
namespace OnfiFlash

/-- Results can be compared, so that runs on given inputs can be evaluated. -/
instance decideResults {ε α : Type} [DecidableEq ε] [DecidableEq α] : DecidableEq (Except ε α)
  | .ok value, .ok other => decidable_of_iff (value = other) (Except.ok.injEq _ _).symm.to_iff
  | .error e, .error other => decidable_of_iff (e = other) (Except.error.injEq _ _).symm.to_iff
  | .ok _, .error _ => isFalse fun same => by cases same
  | .error _, .ok _ => isFalse fun same => by cases same

namespace Query

variable {α β : Type} {chip : Chip}

/-- Whatever a query does first, the chip keeps its layout and has no response left. -/
theorem Ensures.following {first : Query α} {next : α → Query β} {post : Except Error β → Prop}
    (clear : chip.pending = []) (failed : ∀ e, post (.error e))
    (continued : ∀ value (after : Chip), chip.Keeps after → after.pending = [] →
      (next value).Ensures after fun result _ _ => post result) :
    (first >>= next).Ensures chip fun result _ _ => post result := by
  have kept : first.Ensures chip fun _ after _ => chip.Keeps after ∧ after.pending = [] :=
    first.run.run_keeps chip clear
  refine .bind kept (fun e _ _ _ => failed e) fun value after _ reached => ?_
  exact continued value after reached.1 reached.2

/-- The geometry that a chip states in its parameter page is taken or refused as a whole. -/
theorem ensures_loadGeometry (clear : chip.pending = []) (fits : chip.config.Fits) :
    loadGeometry.Ensures chip fun result after _ =>
      after = chip.counted ∧
      result = if chip.config.statement.Valid then .ok chip.config.statement
        else .error .protocol := by
  have length := chip.config.length_parameterPage
  have whole : Chip.resized Geometry.parameterPageLength 0 chip.config.parameterPage
      = chip.config.parameterPage := by
    rw [Chip.resized_of_le (Nat.le_of_eq length.symm), ← length, List.take_length]
  have answered : Link.execute ((Frame.withAddress Opcode.readParameterPage [0]).reading
      (UInt16.ofNat Geometry.parameterPageLength)) chip
        = ⟨.ok (Chip.resized Geometry.parameterPageLength 0 chip.config.parameterPage),
          chip.counted, []⟩ :=
    Chip.execute_eq clear (by decide) rfl (Chip.length_resized _ _ _)
  rw [loadGeometry, ensures_bind, ensures_execute, answered, whole]
  refine (ensures_parseGeometry _ _).mono fun result after _ ⟨same, _, found⟩ => ⟨same, ?_⟩
  rw [Geometry.ofParameterPage_parameterPage fits] at found
  refine found.trans (ite_congr (propext ?_) (fun _ => rfl) fun _ => rfl)
  exact and_iff_right (Nat.le_of_eq length.symm)

end Query

namespace Session

variable {start chip : Chip} {session : Session}

theorem ensures_ofGeometry {σ : Type} [Link σ] (g : Geometry) (config : SessionConfig) (link : σ) :
    (ofGeometry g config).Ensures link fun result _ _ =>
      ∀ session, result = .ok session → session.geometry = g ∧ session.config = config := by
  unfold ofGeometry
  split
  · exact fun _ raised => by cases raised
  · exact (Query.ensures_pure _).mpr fun session found => Except.ok.inj found ▸ ⟨rfl, rfl⟩

/-- On a chip with this layout, a session that the query opens has that layout and these
settings. -/
def Identifies (c : Chip.Config) (config : SessionConfig) (query : Query Session) : Prop :=
  ∀ chip : Chip, c.SameLayout chip.config → chip.pending = [] →
    query.Ensures chip fun result _ _ =>
      ∀ session, result = .ok session → session.geometry.Describes c ∧ session.config = config

section Identifies

variable {c : Chip.Config} {config : SessionConfig}

/-- It does not matter what is asked before. -/
theorem Identifies.after {α : Type} {first : Query α} {next : α → Query Session}
    (continued : ∀ value, Identifies c config (next value)) :
    Identifies c config (first >>= next) := by
  intro chip layout clear
  refine .following clear (fun _ _ raised => by cases raised) fun value after kept idle => ?_
  exact continued value after (layout.trans kept.layout) idle

theorem describe_identifies (fits : c.Fits) (id : List UInt8) (internalEcc : Bool) :
    Identifies c config (describe config id internalEcc) := by
  intro chip layout clear
  refine .bind (Query.ensures_loadGeometry clear (layout.fits fits))
    (fun _ _ _ _ _ raised => by cases raised) ?_
  rintro g _ _ ⟨-, stated⟩
  refine .bind (ensures_ofGeometry g config _) (fun _ _ _ _ _ raised => by cases raised) ?_
  intro opened _ _ found
  obtain ⟨rfl, rfl⟩ := found opened rfl
  refine (Query.ensures_pure _).mpr fun session same => Except.ok.inj same ▸ ⟨?_, rfl⟩
  split at stated
  · rw [Except.ok.inj stated, layout.statement]
    exact Geometry.statement_describes c
  · cases stated

/-- A session that is opened has the layout of the chip and the settings asked for. -/
theorem identify_identifies (fits : c.Fits) : Identifies c config (identify config) := by
  have examined : Identifies c config (examine config) :=
    examine_cases config (fun _ rest => .after fun _ => rest) (fun _ => .after) (fun _ => .after)
      (describe_identifies fits)
  rw [identify_eq]
  split
  · exact .after fun _ => examined
  · exact examined

end Identifies

def Call.perform (call : Call) (session : Session) (chip : Chip) : Session × Chip :=
  let outcome := (call.operation.runIn session).run chip
  (outcome.value.2, outcome.link)

/-- A session in use on a chip that was in the state `start` when the session was opened. -/
inductive InUse (start : Chip) : Session → Chip → Prop where
  /-- The session was just opened. -/
  | opened (config : SessionConfig) {session : Session}
    (identified : ((identify config).run.run start).value = .ok session) :
    InUse start session ((identify config).run.run start).link
  /-- The session was called. -/
  | called {session : Session} {chip : Chip} (inUse : InUse start session chip) (call : Call) :
    InUse start (call.perform session chip).1 (call.perform session chip).2
  /-- The link was used past the session. -/
  | bypassed {session : Session} {chip : Chip} (inUse : InUse start session chip) {α : Type}
    (dialogue : Dialogue α) : InUse start session (dialogue.run chip).link

/-- By induction on what was done since the session was opened. -/
theorem InUse.serving (inUse : InUse start session chip) (sound : start.Sound)
    (fits : start.config.Fits) :
    Serving session session chip ∧ start.config.SameLayout chip.config := by
  induction inUse with
  | opened config identified =>
    have opens := identify_identifies fits start (.refl _) sound.clear _ identified
    obtain ⟨kept, idle⟩ := (identify config).run.run_keeps start sound.clear
    exact ⟨⟨rfl, opens.1.of_sameLayout kept.layout, kept.sized sound.sized, idle⟩, kept.layout⟩
  | @called session chip _ call ih =>
    obtain ⟨serving, layout⟩ := ih
    obtain ⟨sameGeometry, -⟩ := Prod.mk.inj (call.preserves Chip session chip)
    obtain ⟨kept, idle⟩ := (call.operation.runIn session).run_keeps chip serving.sound.clear
    refine ⟨⟨rfl, ?_, kept.sized serving.sound.sized, idle⟩, layout.trans kept.layout⟩
    rw [Call.perform, sameGeometry]
    exact serving.describes.of_sameLayout kept.layout
  | bypassed inUse dialogue ih =>
    obtain ⟨serving, layout⟩ := ih
    obtain ⟨kept, idle⟩ := dialogue.run_keeps _ serving.sound.clear
    exact ⟨⟨rfl, serving.describes.of_sameLayout kept.layout, kept.sized serving.sound.sized, idle⟩,
      layout.trans kept.layout⟩

theorem InUse.describes (inUse : session.InUse start chip) (sound : start.Sound)
    (fits : start.config.Fits) : session.geometry.Describes start.config := by
  obtain ⟨serving, layout⟩ := inUse.serving sound fits
  exact serving.describes.of_sameLayout layout.symm

def Opens (config : SessionConfig) (start : Chip) : Prop :=
  ((identify config).run.run start).value.toOption.isSome = true

instance (config : SessionConfig) (start : Chip) : Decidable (Opens config start) :=
  inferInstanceAs (Decidable (_ = _))

def ofOpening {config : SessionConfig} {start : Chip} (opens : Opens config start) : Session :=
  ((identify config).run.run start).value.toOption.get opens

def afterOpening (config : SessionConfig) (start : Chip) : Chip :=
  ((identify config).run.run start).link

theorem InUse.of_opening {config : SessionConfig} (opens : Opens config start) :
    (ofOpening opens).InUse start (afterOpening config start) := by
  refine .opened config ?_
  unfold ofOpening
  unfold Opens at opens
  revert opens
  cases ((identify config).run.run start).value with
  | error e => exact nofun
  | ok session => exact fun _ => rfl

end Session

/-- A chip together with the options of a session that opens on it. -/
structure Opening where
  config : SessionConfig := {}
  start : Chip
  opens : Session.Opens config start

namespace Opening

def session (opening : Opening) : Session := .ofOpening opening.opens

def chip (opening : Opening) : Chip := Session.afterOpening opening.config opening.start

theorem inUse (opening : Opening) : opening.session.InUse opening.start opening.chip :=
  .of_opening opening.opens

end Opening

/-- A chip of four small blocks, one of which is bad. -/
def smallChip : Chip := .ofConfig {
  vendor := ""
  model := ""
  bytesPerPage := 12
  sparePerPage := 3
  pagesPerBlock := 2
  blocksPerUnit := 4
  rowCycles := 1
  columnCycles := 1
  badBlocks := [1] }

theorem smallChip_opens : Session.Opens {} smallChip := by decide +kernel

def smallSession : Session := .ofOpening smallChip_opens

theorem smallSession_inUse : smallSession.InUse smallChip (Session.afterOpening {} smallChip) :=
  .of_opening smallChip_opens

/-- Ask a chip for its identifier and its parameter page, but leave the responses waiting. -/
def Chip.unread (chip : Chip) : Chip :=
  let identifier := (Frame.withAddress Opcode.readId [0]).reading 2
  let parameters := (Frame.withAddress Opcode.readParameterPage [0]).reading 256
  (accept parameters.wire (accept identifier.wire chip).state).state

/-- Open nothing but the session itself. -/
def bareOpening : SessionConfig where
  checkSignature := false
  resetFirst := false
  enableEcc := false

theorem Session.unread_opens : Opens bareOpening smallChip.unread := by decide +kernel

end OnfiFlash
