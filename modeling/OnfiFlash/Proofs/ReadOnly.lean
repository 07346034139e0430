import OnfiFlash.BadBlock.Scan
import OnfiFlash.Image.Write
import OnfiFlash.Proofs.Composition
import OnfiFlash.Proofs.DeviceCommands

/-! Operations that only read. Whatever they return and on whatever device, addressed or not, they
leave the array as it was. -/
namespace OnfiFlash.Operation

variable {α β : Type} {base : Session}

/-- The operation leaves the array of every device alone and reports no progress. -/
def Reads (base : Session) (operation : Operation α) : Prop :=
  ∀ d, operation.Effects base d fun _ after said => after.flash = d.flash ∧ said = []

theorem Reads.effects {operation : Operation α} (reads : operation.Reads base) {d : Device}
    {post : Except Error α → Device → List Progress → Prop}
    (reached : ∀ result after, after.flash = d.flash → post result after []) :
    operation.Effects base d post := by
  refine (reads d).mono ?_
  rintro result after said ⟨same, rfl⟩
  exact reached result after same

theorem reads_pure (value : α) : (pure value : Operation α).Reads base :=
  fun _ => effects_pure ⟨rfl, rfl⟩

theorem reads_throw (e : Error) : (throw e : Operation α).Reads base :=
  fun _ => effects_throw ⟨rfl, rfl⟩

theorem reads_note (notice : Notice) : (note notice).Reads base :=
  fun _ => effects_note ⟨rfl, rfl⟩

theorem reads_enter (state : ChipState) : (enter state).Reads base := by
  rintro d session chip serving rfl
  exact ⟨serving.of_keeps state (.of_flash rfl) serving.sound.clear, rfl, rfl⟩

theorem Reads.bind {first : Operation α} {next : α → Operation β} (begun : first.Reads base)
    (continued : ∀ value, (next value).Reads base) : (first >>= next).Reads base := by
  intro d
  refine .bind (begun d) (fun _ _ _ reached => reached) ?_
  rintro value after said ⟨same, rfl⟩
  refine (continued value after).mono ?_
  rintro result last later ⟨sameAfter, rfl⟩
  exact ⟨sameAfter.trans same, rfl⟩

theorem Reads.tryCatch {operation : Operation α} {handler : Error → Operation α}
    (begun : operation.Reads base) (caught : ∀ e, (handler e).Reads base) :
    (tryCatch operation handler).Reads base := by
  intro d
  refine .tryCatch (begun d) (fun _ _ _ reached => reached) ?_
  rintro e after said ⟨same, rfl⟩
  refine (caught e after).mono ?_
  rintro result last later ⟨sameAfter, rfl⟩
  exact ⟨sameAfter.trans same, rfl⟩

/-- Only the frames that confirm an erase or a program reach the array. -/
theorem reads_execute {frame : Frame} {opcodes : List UInt8} (among : frame.opcode ∈ opcodes)
    (others : Opcode.eraseConfirm ∉ opcodes ∧ Opcode.programConfirm ∉ opcodes) :
    (execute frame).Reads base := by
  rintro d session chip serving rfl
  have clear := serving.sound.clear
  have noErase : frame.opcode ≠ Opcode.eraseConfirm := fun confirms =>
    others.1 (confirms ▸ among)
  have noProgram : frame.opcode ≠ Opcode.programConfirm := fun confirms =>
    others.2 (confirms ▸ among)
  obtain ⟨kept, idle⟩ := Chip.keeps_execute chip frame clear
  have same := Chip.flash_execute chip frame clear noErase noProgram
  rw [execute, Leads, ensures_ofQuery, Query.ensures_execute]
  exact ⟨serving.of_keeps session.state kept idle, same, Dialogue.progress_exchange _ _⟩

theorem reads_readStatus : readStatus.Reads base :=
  fun _ => .readStatus fun _ _ => ⟨rfl, rfl⟩

theorem reads_waitReady : waitReady.Reads base := by
  rintro d session chip serving rfl
  have clear := serving.sound.clear
  rw [waitReady, leads_get_bind, Leads, ensures_ofQuery]
  have polled : ∀ reads, Serving base session (chip.polled reads) ∧
      (chip.polled reads).flash = chip.flash := fun reads =>
    ⟨serving.of_keeps session.state (.of_flash (chip.flash_polled reads)) clear,
      chip.flash_polled reads⟩
  exact .pollReady _ clear (fun _ said quiet => ⟨(polled _).1, (polled _).2, quiet⟩)
    fun _ said quiet => ⟨(polled _).1, (polled _).2, quiet⟩

theorem reads_get : (get : Operation Session).Reads base := by
  rintro d session chip serving rfl
  exact ⟨serving, rfl, rfl⟩

theorem reads_closed : Closed fun _ operation => operation.Reads base :=
  .of_catching reads_pure reads_throw Reads.bind Reads.tryCatch reads_get reads_note

theorem reads_reading : Reading fun _ operation => operation.Reads base where
  toClosed := reads_closed
  readStatus := reads_readStatus
  loadPage := reads_closed.loadPage (fun _ _ among => reads_execute among (by decide)) reads_enter
    reads_waitReady
  readData start size? _ := reads_closed.readData
    (fun _ reads => reads_execute reads.opcode (by decide))
    (fun _ _ among => reads_execute among (by decide)) start size? fun _ _ _ => reads_throw _

/-- Over a link whose reads are never short, a read yields as much as was asked for. -/
theorem length_readData {σ : Type} [Link σ] [LawfulLink σ] (start : Nat) (size? : Option Nat)
    (session : Session) (link : σ) :
    (readData start size?).Ensures session link fun result _ _ _ => ∀ bytes, result = .ok bytes →
      bytes.length = size?.getD (session.geometry.rawPageSize - start) := by
  have asked : ∀ opcode size, size ≤ maxReadLength → ∀ (session : Session) (link : σ),
      (execute (.read opcode (UInt16.ofNat size))).Ensures session link fun result _ _ _ =>
        ∀ bytes, result = .ok bytes → bytes.length = size := by
    intro opcode size fits session link
    rw [execute, ensures_ofQuery, Query.ensures_execute]
    intro reply bytes answered
    have length := Link.length_execute _ _ _ answered
    rw [length]
    show (UInt16.ofNat size).toNat = size
    rw [UInt16.toNat_ofNat']
    exact Nat.mod_eq_of_lt (Nat.lt_succ_of_le fits)
  rw [readData, ensures_bind, ensures_get]
  dsimp only
  split
  · exact fun _ raised => by cases raised
  · split
    · exact fun _ raised => by cases raised
    · split
      · exact fun _ raised => by cases raised
      · next fits =>
        split
        · exact asked _ _ (Nat.le_of_not_lt fits) _ _
        · have fails : ∀ e bytes, (.error e : Except Error (List UInt8)) = .ok bytes →
              bytes.length = size?.getD (session.geometry.rawPageSize - start) :=
            fun _ _ raised => by cases raised
          refine .bind (ensures_true _) (fun e _ _ _ _ => fails e) fun _ _ _ _ _ => ?_
          refine .bind (ensures_true _) (fun e _ _ _ _ => fails e) fun _ _ _ _ _ => ?_
          exact asked _ _ (Nat.le_of_not_lt fits) _ _

theorem length_readMainArea {σ : Type} [Link σ] [LawfulLink σ] (page : Nat) (session : Session)
    (link : σ) :
    (readMainArea page).Ensures session link fun result _ _ _ => ∀ bytes, result = .ok bytes →
      bytes.length = session.geometry.bytesPerPage := by
  rw [readMainArea, ensures_bind, ensures_geometry]
  refine .bind (ensures_true _) (fun _ _ _ _ _ _ raised => by cases raised) ?_
  intro loaded left after _ _
  cases loaded with
  | none =>
    rintro bytes ⟨⟩
    exact List.length_replicate
  | some status => exact length_readData 0 (some _) left after

theorem readMainArea_reads (page : Nat) (d : Device) :
    (readMainArea page).Effects base d fun result after said =>
      (after.flash = d.flash ∧ said = []) ∧
        ∀ bytes, result = .ok bytes → bytes.length = base.geometry.bytesPerPage :=
  (reads_reading.readMainArea page d).and_result fun state chip =>
    length_readMainArea page { base with state } chip

end OnfiFlash.Operation
