import OnfiFlash.Proofs.ChipInvariants
import OnfiFlash.Proofs.ReadOnly

/-! Chips on which no page is latched. Most commands leave it at that; and as a load then finds no
page, what an operation that latches none comes to is decided by the array alone. -/
namespace OnfiFlash

namespace Chip

theorem latched_loadPage (chip : Chip) (column page : Nat) :
    (chip.loadPage column page).latched = chip.latched := by
  unfold loadPage
  split
  · rfl
  · next injected _ => cases injected.fault <;> rfl

/-- What begins to be loaded is not latched any more. -/
theorem latched_readStart (chip : Chip) : chip.readStart.1.latched = none := by
  unfold readStart
  split
  · rfl
  · split
    · exact latched_loadPage _ _ _
    · rfl

theorem latched_eraseConfirm (chip : Chip) : chip.eraseConfirm.latched = chip.latched := by
  unfold eraseConfirm
  split
  · rfl
  · simp only
    split <;> rfl

theorem latched_programConfirm (chip : Chip) :
    chip.programConfirm.state.latched = chip.latched := by
  unfold programConfirm
  split
  · rfl
  · dsimp only
    split
    · rfl
    · rfl
    · split
      · rfl
      · unfold storeProgram
        split
        · split <;> rfl
        · rfl

theorem latched_setFeatures (chip : Chip) (feature mode : Option UInt8) :
    (chip.setFeatures feature mode).latched = chip.latched := by
  unfold setFeatures
  split
  · split <;> rfl
  · rfl

/-- Only an address sent to be read latches a page. -/
theorem latched_handle {chip : Chip} {frame : Frame}
    (silent : frame.opcode = Opcode.readMode → frame.address = []) (unlatched : chip.latched = none) :
    (chip.handle frame).state.latched = none := by
  refine handle_cases (motive := fun handle => (handle chip).state.latched = none) frame
    ?reset ?_ ?_ ?_ ?_ ?latch ?load ?_ ?_ ?_ ?erase ?_ ?program ?features ?_
  case reset => exact fun _ => rfl
  case latch =>
    intro command present
    rw [silent command] at present
    exact absurd rfl present
  case load => exact fun _ => latched_readStart chip
  case erase => exact fun _ => (latched_eraseConfirm chip).trans unlatched
  case program => exact fun _ => (latched_programConfirm chip).trans unlatched
  case features => exact fun _ => (latched_setFeatures chip _ _).trans unlatched
  all_goals intros; exact unlatched

theorem latched_execute {chip : Chip} {frame : Frame} (clear : chip.pending = [])
    (silent : frame.opcode = Opcode.readMode → frame.address = []) (unlatched : chip.latched = none) :
    (Link.execute frame chip).state.latched = none := by
  rw [state_execute chip frame clear]
  split
  · exact latched_handle silent unlatched
  · exact unlatched

end Chip

/-- A chip that serves a session, holds this array and has no page latched. -/
structure Blind (base : Session) (flash : Flash) (session : Session) (chip : Chip) : Prop where
  serving : Serving base session chip
  flash : chip.flash = flash
  unlatched : chip.latched = none

namespace Operation

variable {α β : Type} {base : Session} {flash : Flash}

/-- The operation does not latch a page. -/
def Unlatching (operation : Operation α) : Prop :=
  ∀ (session : Session) (chip : Chip), chip.pending = [] → chip.latched = none →
    operation.Leads session chip fun _ _ after _ => after.pending = [] ∧ after.latched = none

theorem Unlatching.bind {first : Operation α} {next : α → Operation β} (begun : first.Unlatching)
    (continued : ∀ value, (next value).Unlatching) : (first >>= next).Unlatching :=
  Sustains.bind begun continued

theorem unlatching_throw (e : Error) : (throw e : Operation α).Unlatching := sustains_throw e

theorem unlatching_closed : Closed fun _ operation => operation.Unlatching := sustains_closed _

theorem unlatching_execute {frame : Frame}
    (silent : frame.opcode = Opcode.readMode → frame.address = []) :
    (execute frame).Unlatching :=
  sustains_execute fun _ clear unlatched => Chip.latched_execute clear silent unlatched

theorem unlatching_command {frame : Frame} {opcodes : List UInt8} (among : frame.opcode ∈ opcodes)
    (other : Opcode.readMode ∉ opcodes) : (execute frame).Unlatching :=
  unlatching_execute fun reads => absurd (reads ▸ among) other

theorem unlatching_readStatus : readStatus.Unlatching := sustains_readStatus fun _ _ => id

theorem unlatching_waitReady : waitReady.Unlatching := sustains_waitReady fun _ _ => id

theorem unlatching_eraseBlock (block : Nat) : (eraseBlock block).Unlatching :=
  unlatching_closed.eraseBlock (fun _ _ among => unlatching_command among (by decide))
    (fun state _ => sustains_enter state) unlatching_waitReady block

theorem unlatching_eraseRequired (block : Nat) (stats : WriteStats) :
    (eraseRequired block stats).Unlatching := by
  refine Unlatching.bind (sustains_progress _) fun _ => (unlatching_eraseBlock block).bind fun status => ?_
  dsimp only
  split
  · exact unlatching_closed.throw_bind _ (by nofun) _
  · exact unlatching_closed.pure _

theorem unlatching_programPage (page : Nat) (data : List UInt8) :
    (programPage page data).Unlatching :=
  unlatching_closed.programPage (fun _ _ among => unlatching_command among (by decide))
    (fun state _ => sustains_enter state) unlatching_readStatus unlatching_waitReady page data

theorem unlatching_readData (start : Nat) (size? : Option Nat) :
    (readData start size?).Unlatching := by
  refine unlatching_closed.readData (fun frame reads => unlatching_execute fun mode => ?_)
    (fun _ _ among => unlatching_command among (by decide)) start size?
    fun _ _ _ => unlatching_throw _
  rcases reads with ⟨-, silent⟩ | column
  · exact silent
  · exact absurd (mode.symm.trans column) (by decide)

/-- With no page latched, the result of the operation is of this kind and the array afterwards is
this. -/
def ComesTo (base : Session) (operation : Operation α) (flash : Flash)
    (kind : Except Error α → Prop) (last : Flash) : Prop :=
  ∀ session chip, Blind base flash session chip →
    operation.Leads session chip fun result left after _ =>
      kind result ∧ Blind base last left after

theorem ComesTo.of_effects {operation : Operation α} {kind : Except Error α → Prop} {last : Flash}
    (unlatching : operation.Unlatching)
    (effects : ∀ d : Device, d.flash = flash → operation.Effects base d fun result after _ =>
      kind result ∧ after.flash = last) :
    operation.ComesTo base flash kind last := by
  intro session chip blind
  obtain ⟨serving, reached, same⟩ := effects (session.device chip) blind.flash session chip
    blind.serving rfl
  obtain ⟨-, unlatched⟩ := unlatching session chip blind.serving.sound.clear blind.unlatched
  exact ⟨reached, serving, same, unlatched⟩

/-- With no page latched, the array alone decides the result of the operation, which is of this kind,
and the array afterwards. -/
def Fated (base : Session) (operation : Operation α) (flash : Flash)
    (kind : Except Error α → Prop) : Prop :=
  ∃ result last, kind result ∧ operation.ComesTo base flash (· = result) last

variable {kind : Except Error α → Prop}

theorem fated_pure {value : α} (reached : kind (.ok value)) :
    (pure value : Operation α).Fated base flash kind :=
  ⟨_, flash, reached, fun _ _ blind => ⟨rfl, blind⟩⟩

theorem fated_throw {e : Error} (reached : kind (.error e)) :
    (throw e : Operation α).Fated base flash kind :=
  ⟨_, flash, reached, fun _ _ blind => ⟨rfl, blind⟩⟩

theorem fated_throw_bind {e : Error} {next : β → Operation α} (reached : kind (.error e)) :
    (throw e >>= next).Fated base flash kind :=
  ⟨_, flash, reached, fun _ _ blind => ⟨rfl, blind⟩⟩

theorem fated_require (checked : Except Error α) :
    (require checked).Fated base flash (· = checked) :=
  ⟨checked, flash, rfl, fun _ _ blind => ensures_require.mpr ⟨rfl, blind⟩⟩

theorem Fated.bind {first : Operation β} {next : β → Operation α} {mid : Except Error β → Prop}
    (begun : first.Fated base flash mid) (failed : ∀ e, mid (.error e) → kind (.error e))
    (continued : ∀ value flash, mid (.ok value) → (next value).Fated base flash kind) :
    (first >>= next).Fated base flash kind := by
  obtain ⟨result, between, reached, comes⟩ := begun
  cases result with
  | error e =>
    refine ⟨_, between, failed e reached, fun session chip blind => leads_bind.mpr ?_⟩
    apply (comes session chip blind).mono
    rintro _ left after _ ⟨rfl, blindAfter⟩
    exact ⟨rfl, blindAfter⟩
  | ok value =>
    obtain ⟨result, last, ended, goes⟩ := continued value between reached
    refine ⟨result, last, ended, fun session chip blind => leads_bind.mpr ?_⟩
    apply (comes session chip blind).mono
    rintro _ left after _ ⟨rfl, blindAfter⟩
    exact goes left after blindAfter

/-- The same, if of the first part only the error counts. -/
theorem Fated.after {first : Operation β} {next : Operation α} {outline : Except Error Unit}
    {between : Flash}
    (begun : first.ComesTo base flash (fun result => result.map (fun _ => ()) = outline) between)
    (failed : ∀ e, outline = .error e → kind (.error e))
    (continued : outline = .ok () → next.Fated base between kind) :
    (first >>= fun _ => next).Fated base flash kind := by
  cases outline with
  | error e =>
    refine ⟨_, between, failed e rfl, fun session chip blind => leads_bind.mpr ?_⟩
    apply (begun session chip blind).mono
    rintro result left after _ ⟨raised, blindAfter⟩
    cases result with
    | error other =>
      cases raised
      exact ⟨rfl, blindAfter⟩
    | ok value => cases raised
  | ok _ =>
    obtain ⟨ending, last, ended, goes⟩ := continued rfl
    refine ⟨ending, last, ended, fun session chip blind => leads_bind.mpr ?_⟩
    apply (begun session chip blind).mono
    rintro result left after _ ⟨passed, blindAfter⟩
    cases result with
    | error other => cases passed
    | ok value => exact goes left after blindAfter

theorem Fated.tryCatch {operation : Operation α} {handler : Error → Operation α}
    {mid : Except Error α → Prop} (begun : operation.Fated base flash mid)
    (passed : ∀ value, mid (.ok value) → kind (.ok value))
    (caught : ∀ e flash, mid (.error e) → (handler e).Fated base flash kind) :
    (tryCatch operation handler).Fated base flash kind := by
  obtain ⟨result, between, reached, comes⟩ := begun
  cases result with
  | ok value =>
    refine ⟨_, between, passed value reached, fun session chip blind => leads_tryCatch.mpr ?_⟩
    apply (comes session chip blind).mono
    rintro _ left after _ ⟨rfl, blindAfter⟩
    exact ⟨rfl, blindAfter⟩
  | error e =>
    obtain ⟨result, last, ended, goes⟩ := caught e between reached
    refine ⟨result, last, ended, fun session chip blind => leads_tryCatch.mpr ?_⟩
    apply (comes session chip blind).mono
    rintro _ left after _ ⟨rfl, blindAfter⟩
    exact goes left after blindAfter

theorem fated_note_bind {notice : Notice} {next : Unit → Operation α}
    (fated : (next ()).Fated base flash kind) : (note notice >>= next).Fated base flash kind := by
  obtain ⟨result, last, reached, comes⟩ := fated
  exact ⟨result, last, reached, fun session chip blind =>
    leads_note_bind.mpr (comes session chip blind)⟩

theorem fated_progress_bind {step : Progress} {next : Unit → Operation α}
    (fated : (next ()).Fated base flash kind) : (progress step >>= next).Fated base flash kind := by
  obtain ⟨result, last, reached, comes⟩ := fated
  exact ⟨result, last, reached, fun session chip blind => leads_bind.mpr (comes session chip blind)⟩

theorem fated_geometry_bind {next : Geometry → Operation α}
    (fated : (next base.geometry).Fated base flash kind) :
    (geometry >>= next).Fated base flash kind := by
  obtain ⟨result, last, reached, comes⟩ := fated
  refine ⟨result, last, reached, fun session chip blind => ?_⟩
  rw [leads_geometry_bind, blind.serving.geometry]
  exact comes session chip blind

end Operation
end OnfiFlash
