import OnfiFlash.Proofs.InUse
import OnfiFlash.Proofs.Unaddressed

/-! Reading a loaded page more than once. The next column stays where the last read left it, and only
a read from another column than the first moves it; so a read from the first column returns the front
of the page only if nothing was read before it, or if what comes next happens to be the same. -/
namespace OnfiFlash

structure RegisterRead where
  /-- The column to begin at. -/
  start : Nat
  /-- The number of bytes; without it, the rest of the page. -/
  size? : Option Nat

namespace RegisterRead

def call (read : RegisterRead) : Session.Call := .readData read.start read.size?

variable (g : Geometry)

def size (read : RegisterRead) : Nat := read.size?.getD (g.rawPageSize - read.start)

def refusal? (read : RegisterRead) : Option Error :=
  if g.rawPageSize < read.start then some .addressOutOfRange
  else if Operation.maxReadLength < read.size g then some .frameTooLarge
  else none

/-- The column that is read first if `column` is the next one. -/
def place (read : RegisterRead) (column : Nat) : Nat := if read.start = 0 then column else read.start

/-- What the read returns if the register holds `contents` and `column` is the next column. -/
def answer (contents : List UInt8) (column : Nat) (read : RegisterRead) : Except Error (List UInt8) :=
  match read.refusal? g with
  | some e => .error e
  | none => .ok (Chip.resized (read.size g) 0xFF (contents.drop (read.place column)))

def next (column : Nat) (read : RegisterRead) : Nat :=
  match read.refusal? g with
  | some _ => column
  | none => read.place column + read.size g

def answers (contents : List UInt8) : (column : Nat) → List RegisterRead →
    List (Except Error (List UInt8))
  | _, [] => []
  | column, read :: rest => read.answer g contents column :: answers contents (read.next g column) rest

def columnAfter (column : Nat) (reads : List RegisterRead) : Nat := reads.foldl (next g) column

variable {g} {contents : List UInt8} {column : Nat}

theorem getElem?_answers (before : List RegisterRead) (read : RegisterRead)
    (after : List RegisterRead) :
    (answers g contents column (before ++ read :: after))[before.length]?
      = some (read.answer g contents (columnAfter g column before)) := by
  induction before generalizing column with
  | nil => rfl
  | cons earlier before ih => exact ih

/-- A read within the page returns the bytes asked for exactly if it moves to its first column or the
bytes that come next are the same. -/
theorem answer_eq_iff (dimensions : g.Dimensions) (whole : contents.length = g.rawPageSize)
    {read : RegisterRead} (within : read.start + read.size g ≤ g.rawPageSize) :
    read.answer g contents column = .ok ((contents.drop read.start).take (read.size g)) ↔
      read.start ≠ 0 ∨
        Chip.resized (read.size g) 0xFF (contents.drop column) = contents.take (read.size g) := by
  have onPage : ¬ g.rawPageSize < read.start :=
    Nat.not_lt.mpr (Nat.le_trans (Nat.le_add_right _ _) within)
  have few : ¬ Operation.maxReadLength < read.size g :=
    Nat.not_lt.mpr (Nat.le_trans (Nat.le_trans (Nat.le_add_left _ _) within) dimensions.rawPageSize)
  have accepted : read.refusal? g = none := by
    rw [refusal?, if_neg onPage, if_neg few]
  have enough : read.size g ≤ (contents.drop read.start).length := by
    rw [List.length_drop, whole]
    omega
  rw [answer, accepted, place]
  by_cases front : read.start = 0
  · rw [if_pos front, front, List.drop_zero, Except.ok.injEq]
    exact (or_iff_right (not_not_intro rfl)).symm
  · rw [if_neg front, Chip.resized_of_le enough]
    exact iff_of_true rfl (.inl front)

end RegisterRead

namespace Operation

variable {base session : Session} {d : Device} {chip : Chip} {contents : List UInt8} {column : Nat}

/-- A read that is refused leaves the device as it is. -/
theorem Effects.readData_refused {read : RegisterRead} {e : Error}
    {post : Except Error (List UInt8) → Device → List Progress → Prop}
    (loaded : d.loaded = some (contents, column)) (refused : read.refusal? base.geometry = some e)
    (reached : post (.error e) d []) :
    (Operation.readData read.start read.size?).Effects base d post := by
  rintro session chip serving rfl
  have reading := (Session.loaded_eq_some.mp loaded).1
  rw [Operation.readData, leads_get_bind, serving.geometry]
  dsimp only
  rw [if_neg (not_not_intro reading)]
  unfold RegisterRead.refusal? RegisterRead.size at refused
  split at refused
  · next beyond =>
    cases refused
    rw [if_pos beyond]
    exact ⟨serving, reached⟩
  · next onPage =>
    split at refused
    · next tooLong =>
      cases refused
      rw [if_neg onPage, if_pos tooLong]
      exact ⟨serving, reached⟩
    · cases refused

theorem readData_reads (valid : base.geometry.Valid) (read : RegisterRead)
    (loaded : d.loaded = some (contents, column)) :
    read.call.answering.Effects base d fun result after _ =>
      result = (read.answer base.geometry contents column).map .bytes ∧
        after.loaded = some (contents, read.next base.geometry column) := by
  refine Effects.map ?_
  unfold RegisterRead.answer RegisterRead.next
  cases refused : read.refusal? base.geometry with
  | some e => exact .readData_refused loaded refused ⟨rfl, loaded⟩
  | none =>
    have within : read.start ≤ base.geometry.rawPageSize ∧
        read.size base.geometry ≤ maxReadLength := by
      unfold RegisterRead.refusal? at refused
      split at refused
      · cases refused
      · next onPage =>
        split at refused
        · cases refused
        · next few => exact ⟨Nat.le_of_not_lt onPage, Nat.le_of_not_lt few⟩
    refine .readData valid loaded within.1 rfl within.2 ?_
    rintro place rfl
    exact ⟨rfl, rfl⟩

/-- By induction on the reads: each goes on from the column that the last one left. -/
theorem answers_reads (reads : List RegisterRead) (serving : Serving base session chip)
    (loaded : (session.device chip).loaded = some (contents, column)) :
    ((Session.answers (reads.map RegisterRead.call) session).run chip).value.1
      = (RegisterRead.answers base.geometry contents column reads).map (Except.map .bytes) := by
  induction reads generalizing session chip column with
  | nil => rfl
  | cons read rest ih =>
    obtain ⟨continued, answered, moved⟩ :=
      readData_reads base.valid read loaded session chip serving rfl
    simp only [List.map_cons, Session.answers, Dialogue.run_bind, Dialogue.run_done,
      RegisterRead.answers]
    rw [ih continued moved, ← answered]

/-- What is latched past a session on a device without addresses is its only page. -/
theorem contents_of_stray {page : Nat} (unaddressed : base.geometry.Unaddressed)
    (covers : base.geometry.RowsCover) (inRange : page < base.geometry.totalPages)
    (quiet : chip.loadFaults page = none) (serving : Serving base session chip)
    (strays : chip.stray? (session.device chip) = some (contents, column)) :
    contents = chip.cells page := by
  have single := unaddressed.totalPages_le covers
  unfold Chip.stray? at strays
  split at strays
  · cases strays
  · next latched _ =>
    split at strays
    · next loads =>
      have onDevice := loads.1
      rw [serving.describes.totalPages] at onDevice
      obtain rfl : latched = page := by omega
      cases strays
      exact Device.contents_of_quiet quiet
    · cases strays

/-- A load that succeeds leaves the page in the register, and the next column is the first if the
device can be addressed. -/
theorem loadPage_loads {page : Nat} (covers : base.geometry.RowsCover)
    (quiet : chip.loadFaults page = none) (serving : Serving base session chip) :
    (loadPage page).Leads session chip fun result left after _ =>
      Serving base left after ∧ ∀ status, result = .ok status →
        (left.device after).loaded = some (chip.cells page, after.column) ∧
          (0 < base.geometry.columnCycles + base.geometry.rowCycles → after.column = 0) := by
  by_cases inRange : page < base.geometry.totalPages
  · rcases Nat.eq_zero_or_pos (base.geometry.columnCycles + base.geometry.rowCycles) with
      unaddressed | addressed
    · refine (loadPage_unaddressed unaddressed inRange serving).mono ?_
      rintro result left after _ ⟨blind, ended⟩
      refine ⟨blind.serving, fun status succeeded => ?_⟩
      subst succeeded
      split at ended
      · split at ended
        · cases ended
        · next found strays =>
          obtain ⟨register, column⟩ := found
          obtain rfl := contents_of_stray unaddressed covers inRange quiet serving strays
          have moved := (Session.loaded_eq_some.mp ended.2).2.2
          refine ⟨moved ▸ ended.2, fun addressed => ?_⟩
          exact absurd unaddressed (Nat.ne_of_gt addressed)
      · cases ended
    · have reaches : base.geometry.Reaches := ⟨base.valid, covers, addressed⟩
      have loads : (Operation.loadPage page).Effects base (session.device chip)
          fun result after _ => ∀ status, result = .ok status →
            after.loaded = some (chip.cells page, 0) := by
        refine .loadPage reaches inRange (fun _ => nofun) (fun _ _ => nofun) fun _ _ _ _ _ _ => ?_
        rw [Device.contents_of_quiet quiet]
        rfl
      refine (loads session chip serving rfl).mono fun result left after _ reached => ?_
      refine ⟨reached.1, fun status succeeded => ?_⟩
      have found := reached.2 status succeeded
      have front := (Session.loaded_eq_some.mp found).2.2
      exact ⟨front ▸ found, fun _ => front⟩
  · rw [loadPage, leads_geometry_bind, serving.geometry, Geometry.checkPage_eq_error inRange]
    refine ⟨serving, fun status succeeded => ?_⟩
    cases succeeded

end Operation

namespace Session

variable {start chip : Chip} {session : Session}

/-- A page that is loaded is read as described, whatever was done with the session before: each read
returns the bytes it asks for exactly if it moves to its first column or the bytes that come next are
the same. Where nothing was read since the load, it is the front of the page that comes next. -/
theorem readData_begins (sound : start.Sound) (fits : start.config.Fits)
    (covers : start.config.geometry.RowsCover) (inUse : session.InUse start chip) {page : Nat}
    (quiet : chip.loadFaults page = none) {status : Status}
    (succeeds : (((Operation.loadPage page).runIn session).run chip).value.1 = .ok status)
    (reads : List RegisterRead) :
    let g := session.geometry
    let loaded := ((Operation.loadPage page).runIn session).run chip
    let column := loaded.link.column
    let found := ((answers (reads.map RegisterRead.call) loaded.value.2).run loaded.link).value.1
    (0 < g.columnCycles + g.rowCycles → column = 0) ∧
    found = (RegisterRead.answers g (chip.cells page) column reads).map (Except.map .bytes) ∧
    ∀ before read after, reads = before ++ read :: after →
      read.start + read.size g ≤ g.rawPageSize →
      (found[before.length]?
          = some (.ok (.bytes (((chip.cells page).drop read.start).take (read.size g)))) ↔
        read.start ≠ 0 ∨
          Chip.resized (read.size g) 0xFF
              ((chip.cells page).drop (RegisterRead.columnAfter g column before))
            = (chip.cells page).take (read.size g)) := by
  intro g loaded column found
  obtain ⟨serving, -⟩ := inUse.serving sound fits
  have covered := (inUse.describes sound fits).rowsCover covers
  obtain ⟨servingLoaded, fromLoad⟩ := Operation.loadPage_loads covered quiet serving
  obtain ⟨inRegister, front⟩ := fromLoad status succeeds
  have answered := Operation.answers_reads reads servingLoaded inRegister
  refine ⟨front, answered, ?_⟩
  rintro before read after rfl within
  have whole : (chip.cells page).length = g.rawPageSize :=
    (serving.sound.sized page).trans serving.describes.rawPageSize
  rw [← RegisterRead.answer_eq_iff session.valid.dimensions whole within]
  change found = _ at answered
  rw [answered, List.getElem?_map, RegisterRead.getElem?_answers]
  cases read.answer g (chip.cells page) (RegisterRead.columnAfter g column before) with
  | error e => simp [Except.map]
  | ok bytes => simp [Except.map, g]

/-- The marker of a bad block, read after the main area of its page, is found. -/
theorem readData_begins_marker :
    let loaded := ((Operation.loadPage 2).runIn smallSession).run (afterOpening {} smallChip)
    let found := ((answers [.readData 0 (some 12), .readData 12 (some 1)] loaded.value.2).run
      loaded.link).value.1
    loaded.value.1 = .ok ⟨0xC0⟩ ∧ found[1]? = some (.ok (.bytes [0])) := by
  have fits : smallChip.config.Fits := .of_valid (by decide) (by decide)
  have covers : smallChip.config.geometry.RowsCover := by decide
  have quiet : (afterOpening {} smallChip).loadFaults 2 = none := by decide +kernel
  have succeeds : (((Operation.loadPage 2).runIn smallSession).run
      (afterOpening {} smallChip)).value.1 = .ok ⟨0xC0⟩ := by decide +kernel
  obtain ⟨-, -, begins⟩ := readData_begins (Chip.sound_ofConfig _) fits covers smallSession_inUse
    quiet succeeds [⟨0, some 12⟩, ⟨12, some 1⟩]
  have within : 12 + 1 ≤ smallSession.geometry.rawPageSize := by decide +kernel
  have exact := (begins [⟨0, some 12⟩] ⟨12, some 1⟩ [] rfl within).mpr (.inl (by decide))
  have marker : (((afterOpening {} smallChip).cells 2).drop 12).take
      (RegisterRead.size smallSession.geometry ⟨12, some 1⟩) = [0] := by decide +kernel
  rw [marker] at exact
  exact ⟨succeeds, exact⟩

/-- A read from the first column that follows another one goes on where that one ended: the same
call returns the page first and then what lies behind it. -/
theorem readData_goes_on :
    let loaded := ((Operation.loadPage 2).runIn smallSession).run (afterOpening {} smallChip)
    let found := ((answers [.readData 0 (some 13), .readData 0 (some 13)] loaded.value.2).run
      loaded.link).value.1
    let front := (loaded.link.cells 2).take 13
    found = [.ok (.bytes front), .ok (.bytes (List.replicate 13 0xFF))] ∧
      front ≠ List.replicate 13 0xFF := by
  decide +kernel

end Session
end OnfiFlash
