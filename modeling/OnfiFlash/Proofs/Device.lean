import OnfiFlash.Proofs.GeometryLayout
import OnfiFlash.Proofs.Polling

/-! A session and a chip as one device. What a command sequence does is said about the array, the
faults injected into loads and the page in the register; the state of the command interface in
between does not show. -/
namespace OnfiFlash

/-- The geometry is that of the chip. -/
structure Geometry.Describes (g : Geometry) (c : Chip.Config) : Prop where
  bytesPerPage : c.bytesPerPage = g.bytesPerPage
  sparePerPage : c.sparePerPage = g.sparePerPage
  pagesPerBlock : c.pagesPerBlock = g.pagesPerBlock
  blocksPerUnit : c.blocksPerUnit = g.blocksPerUnit
  unitCount : c.unitCount = g.unitCount
  rowCycles : c.rowCycles = g.rowCycles
  columnCycles : c.columnCycles = g.columnCycles

namespace Geometry.Describes

variable {g : Geometry} {c : Chip.Config} (describes : g.Describes c)
include describes

theorem rawPageSize : c.rawPageSize = g.rawPageSize := by
  rw [Chip.Config.rawPageSize, describes.bytesPerPage, describes.sparePerPage, Geometry.rawPageSize]

theorem totalBlocks : c.totalBlocks = g.totalBlocks := by
  rw [Chip.Config.totalBlocks, describes.blocksPerUnit, describes.unitCount, Geometry.totalBlocks]

theorem totalPages : c.totalPages = g.totalPages := by
  rw [Chip.Config.totalPages, describes.totalBlocks, describes.pagesPerBlock,
    Geometry.totalPages_eq]

theorem of_sameLayout {other : Chip.Config} (layout : c.SameLayout other) : g.Describes other := by
  rw [layout]
  exact { describes with }

end Geometry.Describes

/-- What the commands of a session see of a chip. -/
structure Device where
  flash : Flash
  loadFaults : Nat → Option InjectedFault
  /-- The contents of the page register and the next column, while a page is loaded. -/
  loaded : Option (List UInt8 × Nat)

def Session.device (session : Session) (chip : Chip) : Device where
  flash := chip.flash
  loadFaults := chip.loadFaults
  loaded := if session.state = .reading then some (chip.register, chip.column) else none

theorem Session.loaded_eq_some {session : Session} {chip : Chip} {register : List UInt8}
    {column : Nat} : (session.device chip).loaded = some (register, column) ↔
      session.state = .reading ∧ chip.register = register ∧ chip.column = column := by
  simp [Session.device]

theorem Session.device_polled (session : Session) (chip : Chip) (reads : Nat) :
    session.device (chip.polled reads) = session.device chip := by
  unfold Session.device
  rw [Chip.flash_polled]
  rfl

namespace Device

/-- How the next load of a page misbehaves. -/
def fault? (d : Device) (page : Nat) : Option LoadFault := (d.loadFaults page).map (·.fault)

/-- What the next load of a page puts into the register. -/
def contents (d : Device) (page : Nat) : List UInt8 :=
  if d.fault? page = some .bitFlip then Chip.flipFirstBit (d.flash.cells page)
  else d.flash.cells page

/-- The device after a load of a page that is not available for reading. -/
def afterLoad (d : Device) (page : Nat) : Device :=
  { d with
    loaded := none
    loadFaults := match d.loadFaults page with
      | none => d.loadFaults
      | some injected => Chip.assign d.loadFaults page (Chip.InjectedFault.afterLoad injected) }

/-- The device is ready before a wait is given up. -/
def Settles (d : Device) (polling : PollLimit) : Prop :=
  d.flash.config.busyPolls < polling.polls

theorem Settles.of_layout {d after : Device} {polling : PollLimit} (settles : d.Settles polling)
    (layout : d.flash.config.SameLayout after.flash.config) : after.Settles polling :=
  layout.busyPolls_lt settles

end Device

/-- The session is `base` but for its command state, and the chip is one it can drive. -/
structure Serving (base session : Session) (chip : Chip) : Prop where
  same : session = { base with state := session.state }
  describes : base.geometry.Describes chip.config
  sound : chip.Sound

namespace Serving

variable {base session : Session} {chip : Chip} (serving : Serving base session chip)
include serving

theorem geometry : session.geometry = base.geometry := by rw [serving.same]

theorem config : session.config = base.config := by rw [serving.same]

theorem settles_iff : (session.device chip).Settles base.config.polling ↔
    chip.config.busyPolls < session.config.polling.polls := by
  rw [serving.config]
  exact Iff.rfl

theorem of_keeps {after : Chip} (state : ChipState) (kept : chip.Keeps after)
    (clear : after.pending = []) : Serving base { session with state } after where
  same := by rw [serving.same]
  describes := serving.describes.of_sameLayout kept.layout
  sound := ⟨kept.sized serving.sound.sized, clear⟩

end Serving

namespace Operation

variable {α β : Type}

/-- What an operation does to a device: its result, the device afterwards and the progress
reported, for whatever state of the command interface. -/
def Effects (base : Session) (operation : Operation α) (d : Device)
    (post : Except Error α → Device → List Progress → Prop) : Prop :=
  ∀ session chip, Serving base session chip → session.device chip = d →
    operation.Leads session chip fun result left after said =>
      Serving base left after ∧ post result (left.device after) said

variable {base : Session} {d : Device} {post : Except Error α → Device → List Progress → Prop}

theorem Effects.mono {operation : Operation α}
    {strong : Except Error α → Device → List Progress → Prop}
    (effects : operation.Effects base d strong)
    (weaker : ∀ result after said, strong result after said → post result after said) :
    operation.Effects base d post := fun session chip serving same =>
  (effects session chip serving same).mono fun _ _ _ _ reached =>
    ⟨reached.1, weaker _ _ _ reached.2⟩

/-- What is known of the result on any chip may be used as well. -/
theorem Effects.and_result {operation : Operation α} {property : Except Error α → Prop}
    (effects : operation.Effects base d post)
    (known : ∀ state (chip : Chip), operation.Ensures { base with state } chip
      fun result _ _ _ => property result) :
    operation.Effects base d fun result after said => post result after said ∧ property result := by
  intro session chip serving same
  have reached := effects session chip serving same
  have found := known session.state chip
  rw [← serving.same] at found
  exact ⟨reached.1, reached.2, found⟩

/-- What is known of every device that a session drives. -/
theorem Effects.of_serving {operation : Operation α}
    (effects : base.geometry.Describes d.flash.config → d.flash.Sized →
      operation.Effects base d post) :
    operation.Effects base d post := by
  rintro session chip serving rfl
  exact effects serving.describes serving.sound.sized session chip serving rfl

theorem effects_pure {value : α} (reached : post (.ok value) d []) :
    (pure value : Operation α).Effects base d post := by
  rintro session chip serving rfl
  exact ⟨serving, reached⟩

theorem effects_throw {e : Error} (reached : post (.error e) d []) :
    (throw e : Operation α).Effects base d post := by
  rintro session chip serving rfl
  exact ⟨serving, reached⟩

theorem effects_note {notice : Notice} {post : Except Error Unit → Device → List Progress → Prop}
    (reached : post (.ok ()) d []) : (note notice).Effects base d post := by
  rintro session chip serving rfl
  exact ⟨serving, reached⟩

theorem effects_bind {first : Operation α} {next : α → Operation β}
    {post : Except Error β → Device → List Progress → Prop}
    (begun : first.Effects base d fun result after said => match result with
      | .error e => post (.error e) after said
      | .ok value => (next value).Effects base after fun result after later =>
        post result after (said ++ later)) :
    (first >>= next).Effects base d post := by
  intro session chip serving same
  refine leads_bind.mpr ((begun session chip serving same).mono fun result left after said => ?_)
  cases result with
  | error e => exact id
  | ok value => exact fun reached => reached.2 left after reached.1 rfl

theorem Effects.bind {first : Operation α} {next : α → Operation β}
    {mid : Except Error α → Device → List Progress → Prop}
    {post : Except Error β → Device → List Progress → Prop}
    (begun : first.Effects base d mid)
    (failed : ∀ e after said, mid (.error e) after said → post (.error e) after said)
    (passed : ∀ value after said, mid (.ok value) after said →
      (next value).Effects base after fun result after later => post result after (said ++ later)) :
    (first >>= next).Effects base d post := by
  refine effects_bind (begun.mono fun result after said reached => ?_)
  cases result with
  | error e => exact failed e after said reached
  | ok value => exact passed value after said reached

theorem Effects.map {operation : Operation α} {change : α → β}
    {post : Except Error β → Device → List Progress → Prop}
    (effects : operation.Effects base d fun result after said =>
      post (result.map change) after said) :
    (change <$> operation).Effects base d post :=
  Effects.bind effects (fun _ _ _ reached => reached) fun _ _ said reached =>
    effects_pure (said.append_nil.symm ▸ reached)

theorem effects_throw_bind {e : Error} {next : β → Operation α} (reached : post (.error e) d []) :
    (throw e >>= next).Effects base d post := by
  rintro session chip serving rfl
  exact ⟨serving, reached⟩

theorem Effects.tryCatch {operation : Operation α} {handler : Error → Operation α}
    {mid : Except Error α → Device → List Progress → Prop}
    (begun : operation.Effects base d mid)
    (passed : ∀ value after said, mid (.ok value) after said → post (.ok value) after said)
    (caught : ∀ e after said, mid (.error e) after said →
      (handler e).Effects base after fun result after later => post result after (said ++ later)) :
    (tryCatch operation handler).Effects base d post := by
  intro session chip serving same
  refine leads_tryCatch.mpr
    ((begun session chip serving same).mono fun result left after said => ?_)
  cases result with
  | ok value => exact fun reached => ⟨reached.1, passed value _ _ reached.2⟩
  | error e => exact fun reached => caught e _ _ reached.2 left after reached.1 rfl

theorem effects_note_bind {notice : Notice} {next : Unit → Operation α}
    (effects : (next ()).Effects base d post) : (note notice >>= next).Effects base d post :=
  fun session chip serving same => leads_note_bind.mpr (effects session chip serving same)

theorem effects_progress_bind {step : Progress} {next : Unit → Operation α}
    (effects : (next ()).Effects base d fun result after later =>
      post result after (step :: later)) :
    (progress step >>= next).Effects base d post := fun session chip serving same =>
  leads_bind.mpr (effects session chip serving same)

/-- A session may be read at any time: only its command state differs from `base`. -/
theorem Effects.get_bind {next : Session → Operation α}
    (effects : ∀ state, (next { base with state }).Effects base d post) :
    (get >>= next).Effects base d post := by
  intro session chip serving same
  have continued := effects session.state session chip serving same
  rw [← serving.same] at continued
  exact leads_get_bind.mpr continued

theorem Effects.geometry_bind {next : Geometry → Operation α}
    (effects : (next base.geometry).Effects base d post) :
    (geometry >>= next).Effects base d post := by
  intro session chip serving same
  rw [leads_geometry_bind, serving.geometry]
  exact effects session chip serving same

theorem Effects.require_bind {checked : Except Error β} {value : β} {next : β → Operation α}
    (passes : checked = .ok value) (effects : (next value).Effects base d post) :
    (require checked >>= next).Effects base d post := fun session chip serving same =>
  (leads_require_bind passes).mpr (effects session chip serving same)

theorem effects_require_error {checked : Except Error β} {e : Error} {next : β → Operation α}
    (fails : checked = .error e) (reached : post (.error e) d []) :
    (require checked >>= next).Effects base d post := by
  subst fails
  exact effects_throw_bind reached

/-- The operation succeeds on the device, with a value and a device as stated. -/
def Succeeds (base : Session) (operation : Operation α) (d : Device) (post : α → Device → Prop) :
    Prop :=
  operation.Effects base d fun result after _ => ∃ value, result = .ok value ∧ post value after

theorem succeeds_pure {post : α → Device → Prop} {value : α} (reached : post value d) :
    (pure value : Operation α).Succeeds base d post :=
  effects_pure ⟨value, rfl, reached⟩

/-- After an operation that succeeds only its value counts. -/
theorem Succeeds.bind {first : Operation α} {next : α → Operation β} {mid : α → Device → Prop}
    {post : Except Error β → Device → Prop} (begun : first.Succeeds base d mid)
    (continued : ∀ value after, mid value after →
      (next value).Effects base after fun result last _ => post result last) :
    (first >>= next).Effects base d fun result last _ => post result last := by
  refine Effects.bind begun ?_ ?_
  · rintro e after said ⟨_, raised, -⟩
    cases raised
  · rintro value after said ⟨_, ⟨⟩, reached⟩
    exact continued value after reached

/-- If the operation succeeds on the device, its value and the device afterwards are as stated. -/
def Yields (base : Session) (operation : Operation α) (d : Device) (post : α → Device → Prop) :
    Prop :=
  operation.Effects base d fun result after _ => ∀ value, result = .ok value → post value after

theorem yields_pure {post : α → Device → Prop} {value : α} (reached : post value d) :
    (pure value : Operation α).Yields base d post := by
  apply effects_pure
  rintro _ ⟨⟩
  exact reached

theorem Yields.bind {first : Operation α} {next : α → Operation β} {mid : α → Device → Prop}
    {post : β → Device → Prop} (begun : first.Yields base d mid)
    (continued : ∀ value after, mid value after → (next value).Yields base after post) :
    (first >>= next).Yields base d post := by
  apply Effects.bind begun
  · rintro e after said _ _ ⟨⟩
  · intro value after said reached
    exact continued value after (reached value rfl)

theorem yields_require_error {checked : Except Error β} {e : Error} {next : β → Operation α}
    {post : α → Device → Prop} (fails : checked = .error e) :
    (require checked >>= next).Yields base d post := by
  apply effects_require_error fails
  rintro _ ⟨⟩

end Operation
end OnfiFlash
