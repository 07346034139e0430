import OnfiFlash.Proofs.Composition
import OnfiFlash.Proofs.Ensures
import OnfiFlash.Session.Identify

/-! The calls of a session, and how it is opened. Whatever the calls are, with whatever arguments
and over whatever link, the geometry and the settings of the session stay those it was opened
with. -/
namespace OnfiFlash

namespace Operation

variable {α β : Type}

/-- What is viewed of a session stays as it is, whatever comes of the operation. -/
def Fixes {γ : Type} (view : Session → γ) (operation : Operation α) : Prop :=
  ∀ (σ : Type) [Link σ] (session : Session) (link : σ),
    operation.Ensures session link fun _ left _ _ => view left = view session

section Fixes

variable {γ : Type} {view : Session → γ}

theorem Fixes.bind {first : Operation α} {next : α → Operation β} (begun : first.Fixes view)
    (continued : ∀ value, (next value).Fixes view) : (first >>= next).Fixes view := by
  intro σ _ session link
  refine .bind (begun σ session link) (fun _ _ _ _ kept => kept) fun value left after _ kept => ?_
  exact (continued value σ left after).mono fun _ _ _ _ keptAfter => keptAfter.trans kept

theorem Fixes.tryCatch {operation : Operation α} {handler : Error → Operation α}
    (begun : operation.Fixes view) (caught : ∀ e, (handler e).Fixes view) :
    (tryCatch operation handler).Fixes view := by
  intro σ _ session link
  refine ensures_tryCatch.mpr ((begun σ session link).mono fun result left after _ kept => ?_)
  cases result with
  | ok value => exact kept
  | error e => exact (caught e σ left after).mono fun _ _ _ _ keptAfter => keptAfter.trans kept

theorem fixes_ofQuery (query : Query α) : (ofQuery query).Fixes view :=
  fun _ _ _ _ => ensures_ofQuery.mpr rfl

theorem fixes_get : (get : Operation Session).Fixes view := fun _ _ _ _ => rfl

theorem fixes_waitReady : waitReady.Fixes view :=
  fixes_get.bind fun _ => fixes_ofQuery _

theorem fixes_closed (view : Session → γ) : Closed fun _ operation => operation.Fixes view :=
  .of_catching (fun _ _ _ _ _ => rfl) (fun _ _ _ _ _ => rfl) Fixes.bind Fixes.tryCatch fixes_get
    fun _ => fixes_ofQuery _

theorem fixes_readData (start : Nat) (size? : Option Nat) : (readData start size?).Fixes view :=
  (fixes_closed view).readData (fun _ _ => fixes_ofQuery _) (fun _ _ _ => fixes_ofQuery _) start
    size? fun _ _ _ _ _ _ _ => rfl

/-- Of a session nothing but the command state and the table of bad blocks ever changes, and the
table by a scan alone. -/
theorem fixes_working (stateless : ∀ (session : Session) state,
    view { session with state } = view session) :
    Working fun _ operation => operation.Fixes view where
  toClosed := fixes_closed view
  progress _ := fixes_ofQuery _
  readStatus := fixes_ofQuery _
  waitReady := fixes_waitReady
  loadPage := (fixes_closed view).loadPage (fun _ _ _ => fixes_ofQuery _)
    (fun _ _ _ _ _ => stateless _ _) fixes_waitReady
  readData start size? _ := fixes_readData start size?
  eraseBlock := (fixes_closed view).eraseBlock (fun _ _ _ => fixes_ofQuery _)
    (fun _ _ _ _ _ _ => stateless _ _) fixes_waitReady
  programPage := (fixes_closed view).programPage (fun _ _ _ => fixes_ofQuery _)
    (fun _ _ _ _ _ _ => stateless _ _) (fixes_ofQuery _) fixes_waitReady

end Fixes

end Operation

inductive Session.Call where
  | readStatus
  | waitReady
  | loadPage (page : Nat)
  | readData (start : Nat) (size? : Option Nat)
  | readPage (page : Nat)
  | eraseBlock (block : Nat)
  | programPage (page : Nat) (data : List UInt8)
  | programVerified (page : Nat) (data : List UInt8)
  | isBadBlock (block : Nat)
  | scanDevice
  | badBlockTable
  | readImage (indexPage : Nat)
  | writeImage (indexPage : Nat) (data : List UInt8)
  | writeBlock (block : Nat) (data : List UInt8)

inductive Session.Answer where
  | status (status : Status)
  | bytes (bytes : List UInt8)
  | bad (found : Bool)
  | table (table : BadBlockTable)
  | blocks (used : List Nat)
  | totals (stats : WriteStats)
deriving DecidableEq

namespace Session.Call

def operation : Call → Operation Unit
  | readStatus => (fun _ => ()) <$> Operation.readStatus
  | waitReady => (fun _ => ()) <$> Operation.waitReady
  | loadPage page => (fun _ => ()) <$> Operation.loadPage page
  | readData start size? => (fun _ => ()) <$> Operation.readData start size?
  | readPage page => (fun _ => ()) <$> Operation.readPage page
  | eraseBlock block => (fun _ => ()) <$> Operation.eraseBlock block
  | programPage page data => (fun _ => ()) <$> Operation.programPage page data
  | programVerified page data => (fun _ => ()) <$> Operation.programVerified page data
  | isBadBlock block => (fun _ => ()) <$> Operation.isBadBlock block
  | scanDevice => (fun _ => ()) <$> Operation.scanDevice
  | badBlockTable => (fun _ => ()) <$> Operation.badBlockTable
  | readImage indexPage => (fun _ => ()) <$> Operation.readImage indexPage
  | writeImage indexPage data => (fun _ => ()) <$> Operation.writeImage indexPage data
  | writeBlock block data => (fun _ => ()) <$> Operation.writeBlock block data

def answering : Call → Operation Answer
  | readStatus => .status <$> Operation.readStatus
  | waitReady => .status <$> Operation.waitReady
  | loadPage page => .status <$> Operation.loadPage page
  | readData start size? => .bytes <$> Operation.readData start size?
  | readPage page => .bytes <$> Operation.readPage page
  | eraseBlock block => .status <$> Operation.eraseBlock block
  | programPage page data => .status <$> Operation.programPage page data
  | programVerified page data => .status <$> Operation.programVerified page data
  | isBadBlock block => .bad <$> Operation.isBadBlock block
  | scanDevice => .table <$> Operation.scanDevice
  | badBlockTable => .table <$> Operation.badBlockTable
  | readImage indexPage => .bytes <$> Operation.readImage indexPage
  | writeImage indexPage data => .blocks <$> Operation.writeImage indexPage data
  | writeBlock block data => .totals <$> Operation.writeBlock block data

/-- What a call does, whatever it answers. -/
theorem operation_eq (call : Call) : call.operation = (fun _ => ()) <$> call.answering := by
  cases call <;> simp only [operation, answering, Functor.map_map]

/-- What is inherited from the elementary steps of a session is inherited by every call, if it is
had by reading data of the size that the call may ask for and by looking up the bad blocks. -/
theorem inherits_working {property : (α : Type) → Operation α → Prop}
    (law : Operation.Working property) (call : Call)
    (asked : ∀ start size?, call = .readData start size? →
      property (List UInt8) (Operation.readData start size?))
    (scanned : call = .badBlockTable → property BadBlockTable Operation.badBlockTable) :
    property Answer call.answering := by
  cases call with
  | readStatus => exact law.map law.readStatus
  | waitReady => exact law.map law.waitReady
  | loadPage page => exact law.map (law.loadPage page)
  | readData start size? => exact law.map (asked start size? rfl)
  | readPage page => exact law.map (law.readPage page)
  | eraseBlock block => exact law.map (law.eraseBlock block)
  | programPage page data => exact law.map (law.programPage page data)
  | programVerified page data => exact law.map (law.programVerified page data)
  | isBadBlock block => exact law.map (law.isBadBlock block)
  | scanDevice => exact law.map law.scanDevice
  | badBlockTable => exact law.map (scanned rfl)
  | readImage indexPage => exact law.map (law.readImage indexPage)
  | writeImage indexPage data => exact law.map (law.writeImage indexPage data)
  | writeBlock block data => exact law.map (law.writeBlock block data)

/-- The same for what keeping a table of bad blocks has as well. -/
theorem inherits {property : (α : Type) → Operation α → Prop}
    (law : Operation.Hereditary property) (call : Call)
    (asked : ∀ start size?, call = .readData start size? →
      property (List UInt8) (Operation.readData start size?)) :
    property Answer call.answering :=
  call.inherits_working law.toWorking asked fun _ => law.badBlockTable

/-- The geometry and the settings stay those that the session was opened with. -/
theorem preserves (call : Call) :
    call.operation.Fixes fun session => (session.geometry, session.config) := by
  have law : Operation.Hereditary fun _ operation =>
      operation.Fixes fun session => (session.geometry, session.config) :=
    { Operation.fixes_working fun _ _ => rfl with keep := fun _ _ _ _ _ => rfl }
  rw [operation_eq]
  exact law.map (call.inherits law fun start size? _ => Operation.fixes_readData start size?)

end Session.Call

namespace Session

/-- The last steps of identifying a device: reading its layout and opening a session with it. -/
def describe (config : SessionConfig) (id : List UInt8) (internalEcc : Bool) : Query Session := do
  let geometry ← Query.loadGeometry
  let session ← ofGeometry geometry config
  return { session with jedecId := some (jedecPair id), internalEcc }

/-- What identifying a device does once the device is reset. -/
def examine (config : SessionConfig) : Query Session := do
  if config.checkSignature then
    Query.checkSignature
  if config.enableEcc then
    let found ← Query.enableEcc config.polling
    describe config found.1 found.2
  else
    let id ← Query.readId Identification.jedecAddress 2
    describe config id false

theorem identify_eq (config : SessionConfig) :
    identify config = if config.resetFirst = true then
      Query.reset config.polling >>= fun _ => examine config else examine config := by
  unfold identify examine describe
  dsimp only
  split <;> rfl

/-- What holds of the last steps holds of all that follow the reset, if the queries in between hand
it on. -/
theorem examine_cases {motive : Query Session → Prop} (config : SessionConfig)
    (signature : ∀ rest, motive rest → motive (Query.checkSignature >>= fun _ => rest))
    (ecc : ∀ next, (∀ found, motive (next found)) →
      motive (Query.enableEcc config.polling >>= next))
    (id : ∀ next, (∀ id, motive (next id)) →
      motive (Query.readId Identification.jedecAddress 2 >>= next))
    (last : ∀ id internalEcc, motive (describe config id internalEcc)) :
    motive (examine config) := by
  have rest : motive (if config.enableEcc = true then
      Query.enableEcc config.polling >>= fun found => describe config found.1 found.2
      else Query.readId Identification.jedecAddress 2 >>= fun id => describe config id false) := by
    split
    · exact ecc _ fun found => last found.1 found.2
    · exact id _ fun id => last id false
  unfold examine
  dsimp only
  split
  · exact signature _ rest
  · exact rest

end Session

namespace Query

/-- A property that is kept when queries are put together and that the elementary queries have by
which a device is identified. -/
structure Composed (polling : PollLimit) (property : (α : Type) → Query α → Prop) : Prop where
  pure : ∀ {α : Type} (value : α), property α (Pure.pure value)
  throw : ∀ {α : Type} (e : Error), e ≠ .frameTooLarge → property α (MonadExcept.throw e)
  bind : ∀ {α β : Type} {first : Query α} {next : α → Query β},
    property α first → (∀ value, property β (next value)) → property β (first >>= next)
  note : ∀ notice, property Unit (note notice)
  readId : ∀ address length, property (List UInt8) (readId address length)
  readParameterPage : ∀ length, property (List UInt8)
    (execute ((Frame.withAddress Opcode.readParameterPage [0]).reading length))
  setFeatures : ∀ feature parameters, parameters.length ≤ Frame.maxDataLength →
    property Status (setFeatures feature parameters polling)

namespace Composed

variable {polling : PollLimit} {property : (α : Type) → Query α → Prop}
  (law : Composed polling property)
include law

theorem refuse {α : Type} (flaw : Geometry.Flaw) : property α (refuse flaw) :=
  law.bind (law.note _) fun _ => law.throw _ (by nofun)

theorem requestEcc (attempts : Nat) (id : List UInt8) :
    property (List UInt8 × Bool) (requestEcc polling attempts id) := by
  induction attempts generalizing id with
  | zero =>
    unfold Query.requestEcc
    split
    · exact law.pure _
    · exact law.bind (law.note _) fun _ => law.pure _
  | succ attempts ih =>
    unfold Query.requestEcc
    split
    · exact law.pure _
    · refine law.bind (law.setFeatures _ _ (by decide)) fun _ => ?_
      exact law.bind (law.readId _ _) fun id => ih id

theorem enableEcc : property (List UInt8 × Bool) (enableEcc polling) := by
  refine law.bind (law.readId _ _) fun id => ?_
  split
  · exact law.requestEcc _ _
  · exact law.pure _

theorem checkSignature : property Unit checkSignature := by
  refine law.bind (law.readId _ _) fun found => ?_
  split
  · exact law.bind (law.note _) fun _ => law.throw _ (by nofun)
  · exact law.pure _

theorem loadGeometry : property Geometry loadGeometry := by
  refine law.bind (law.readParameterPage _) fun page => ?_
  unfold parseGeometry
  split
  · exact law.pure _
  · exact law.refuse _

theorem ofGeometry (g : Geometry) (config : SessionConfig) :
    property Session (Session.ofGeometry g config) := by
  unfold Session.ofGeometry
  split
  · exact law.refuse _
  · exact law.pure _

end Composed
end Query

namespace Session

/-- What the elementary queries have is had by all that identifies a device once it is reset. -/
theorem examine_composed {property : (α : Type) → Query α → Prop} (config : SessionConfig)
    (law : Query.Composed config.polling property) : property Session (examine config) := by
  have described (id : List UInt8) (internalEcc : Bool) :
      property Session (describe config id internalEcc) :=
    law.bind law.loadGeometry fun g => law.bind (law.ofGeometry g config) fun _ => law.pure _
  exact examine_cases (motive := property Session) config
    (fun _ rest => law.bind law.checkSignature fun _ => rest) (fun _ => law.bind law.enableEcc)
    (fun _ => law.bind (law.readId _ _)) described

/-- Make one call after another in a session: their answers and the session afterwards. -/
def answers : List Call → Session → Dialogue (List (Except Error Answer) × Session)
  | [], session => .done ([], session)
  | call :: rest, session => (call.answering.runIn session).bind fun (answer, session) =>
    (answers rest session).bind fun (later, session) => .done (answer :: later, session)

/-- Open a session and make one call after another in it, if it opens. -/
def converse (config : SessionConfig) (calls : List Call) :
    Dialogue (Except Error (List (Except Error Answer) × Session)) :=
  (identify config).run.bind fun opened => match opened with
    | .error e => .done (.error e)
    | .ok session => (answers calls session).bind fun reached => .done (.ok reached)

end Session
end OnfiFlash
