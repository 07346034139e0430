import OnfiFlash.Proofs.CommandTraces
import OnfiFlash.Proofs.InUse
import OnfiFlash.Proofs.LinkContract

/-! Programming a page and reading it back, against any device: it may show whatever status it
likes, stay busy as long as it likes and answer whatever bytes it likes. What the operation comes
to is borne out by what was exchanged. -/
namespace OnfiFlash

/-- Read so many bytes from the front of the page register. -/
def Frame.readBack (length : Nat) : Frame := .read Opcode.readMode (UInt16.ofNat length)

namespace Exchange

/-- No bytes come in but those of the status register. -/
def Mute (exchange : Exchange) : Prop :=
  ∀ bytes, exchange.answer = .ok bytes → bytes = [] ∨ exchange.frame = statusFrame

@[simp] theorem mute_sent (frame : Frame) : (sent frame).Mute :=
  fun _ answered => .inl (Except.ok.inj answered).symm

@[simp] theorem mute_failed (frame : Frame) (e : Error) : Mute ⟨frame, .error e⟩ := nofun

@[simp] theorem mute_status (shown : Status) : (status shown).Mute := fun _ _ => .inr rfl

/-- No page is set up to be programmed. -/
def Inert (exchange : Exchange) : Prop := exchange.frame.opcode ≠ Opcode.programSetup

theorem inert_of_opcode {exchange : Exchange} (opcode : UInt8)
    (command : exchange.frame.opcode = opcode) (other : opcode ≠ Opcode.programSetup) :
    exchange.Inert := fun setsUp => other (command.symm.trans setsUp)

@[simp] theorem inert_status (answer : Except Error (List UInt8)) : Inert ⟨statusFrame, answer⟩ :=
  inert_of_opcode Opcode.readStatus rfl (by decide)

@[simp] theorem inert_latch (g : Geometry) (page : Nat) (answer : Except Error (List UInt8)) :
    Inert ⟨.latch g page, answer⟩ := inert_of_opcode Opcode.readMode rfl (by decide)

@[simp] theorem inert_load (answer : Except Error (List UInt8)) : Inert ⟨.load, answer⟩ :=
  inert_of_opcode Opcode.readStart rfl (by decide)

@[simp] theorem inert_confirm (answer : Except Error (List UInt8)) : Inert ⟨.confirm, answer⟩ :=
  inert_of_opcode Opcode.programConfirm rfl (by decide)

@[simp] theorem inert_readBack (length : Nat) (answer : Except Error (List UInt8)) :
    Inert ⟨.readBack length, answer⟩ := inert_of_opcode Opcode.readMode rfl (by decide)

/-- A page is set up to be programmed by the second exchange if at all, with just this data, and
the first one showed that the device may be written to. -/
def Permitted (g : Geometry) (page : Nat) (data : List UInt8) (said : List Exchange) : Prop :=
  ∀ place exchange, said[place]? = some exchange → exchange.frame.opcode = Opcode.programSetup →
    place = 1 ∧ exchange.frame = .setup g page data ∧
      ∃ permit : Status, permit.isWriteEnabled = true ∧ said.head? = some (.status permit)

end Exchange

section Traces

open Exchange

variable {g : Geometry} {page : Nat} {data : List UInt8} {before after : ChipState}
  {result : Except Error Status} {said later : List Exchange}

theorem permitted_of_inert (inert : ∀ exchange ∈ said, exchange.Inert) :
    Permitted g page data said := by
  intro place exchange found setsUp
  exact absurd setsUp (inert exchange (List.mem_of_getElem? found))

theorem permitted_setup {shown : Status} (permits : shown.isWriteEnabled = true)
    (answer : Except Error (List UInt8)) (inert : ∀ exchange ∈ said, exchange.Inert) :
    Permitted g page data (.status shown :: ⟨.setup g page data, answer⟩ :: said) := by
  intro place exchange found setsUp
  match place with
  | 0 =>
    obtain rfl := Option.some.inj found
    exact absurd setsUp (inert_status _)
  | 1 =>
    obtain rfl := Option.some.inj found
    exact ⟨rfl, rfl, shown, permits, rfl⟩
  | place + 2 => exact absurd setsUp (inert exchange (List.mem_of_getElem? found))

theorem Exchange.Permitted.append (permitted : Permitted g page data said)
    (inert : ∀ exchange ∈ later, exchange.Inert) : Permitted g page data (said ++ later) := by
  intro place exchange found setsUp
  rcases Nat.lt_or_ge place said.length with inside | behind
  · rw [List.getElem?_append_left inside] at found
    obtain ⟨second, sets, permit, permits, shown⟩ := permitted place exchange found setsUp
    exact ⟨second, sets, permit, permits, by rw [List.head?_append, shown, Option.some_or]⟩
  · rw [List.getElem?_append_right behind] at found
    exact absurd setsUp (inert exchange (List.mem_of_getElem? found))

theorem Waits.mute (waits : Waits result said) : ∀ exchange ∈ said, exchange.Mute :=
  fun _ among _ _ => .inr (waits.frame_eq among)

/-- What a wait does not end with of itself is what a frame failed with. -/
theorem Waits.blamed {e : Error} (waits : Waits (.error e) said)
    (other : e ∉ [.timeout, .unsettled]) : ∃ frame, ⟨frame, .error e⟩ ∈ said := by
  cases waits with
  | lost busy e => exact ⟨statusFrame, List.mem_append_right _ List.mem_cons_self⟩
  | givenUp busy spent => exact absurd spent other

theorem Waits.inert (waits : Waits result said) : ∀ exchange ∈ said, exchange.Inert := by
  intro exchange among
  refine inert_of_opcode Opcode.readStatus ?_ (by decide)
  rw [waits.frame_eq among]
  rfl

theorem Loading.mute (loading : Loading g page before result after said) :
    ∀ exchange ∈ said, exchange.Mute := by
  cases loading with
  | unlatched | unstarted => simp
  | unsettled waits => simpa using waits.mute
  | failed wait | loaded wait => simpa using (Waits.settled wait).mute

theorem Loading.inert (loading : Loading g page before result after said) :
    ∀ exchange ∈ said, exchange.Inert := by
  cases loading with
  | unlatched | unstarted => simp [sent]
  | unsettled waits => simpa [sent] using waits.inert
  | failed wait | loaded wait => simpa [sent] using (Waits.settled wait).inert

theorem Loading.blamed {e : Error} (loading : Loading g page before (.error e) after said)
    (other : e ∉ [.read page, .timeout, .unsettled]) : ∃ frame, ⟨frame, .error e⟩ ∈ said := by
  cases loading with
  | unlatched e => exact ⟨_, List.mem_singleton_self _⟩
  | unstarted e => exact ⟨_, List.mem_cons_of_mem _ (List.mem_singleton_self _)⟩
  | unsettled waits =>
    obtain ⟨frame, among⟩ := waits.blamed fun spent => other (List.mem_cons_of_mem _ spent)
    exact ⟨frame, List.mem_cons_of_mem _ (List.mem_cons_of_mem _ among)⟩
  | failed wait => exact absurd List.mem_cons_self other

/-- Where a page is loaded, the device got ready without the error bit. -/
theorem Loading.of_ok {shown : Status} (loading : Loading g page before (.ok shown) after said) :
    after = .reading ∧ ∃ wait : Wait, shown = wait.ready ∧ wait.ready.isError = false ∧
      said = .sent (.latch g page) :: .sent .load :: wait.exchanges := by
  cases loading with
  | loaded wait noError => exact ⟨rfl, wait, rfl, noError, rfl⟩

/-- Where a page is programmed, the device permitted it. -/
theorem Programming.of_ok {shown : Status} (programming : Programming g page data (.ok shown) said) :
    ∃ (permit : Status) (wait : Wait), permit.isWriteEnabled = true ∧
      said = .status permit :: .sent (.setup g page data) :: .sent .confirm :: wait.exchanges := by
  cases programming with
  | waited permits waits =>
    cases waits with
    | settled wait => exact ⟨_, wait, permits, rfl⟩

theorem Programming.mute (programming : Programming g page data result said) :
    ∀ exchange ∈ said, exchange.Mute := by
  cases programming with
  | unasked | refused | unsent | unconfirmed => simp
  | waited permits waits => simpa using waits.mute

theorem Programming.blamed {e : Error} (programming : Programming g page data (.error e) said)
    (other : e ∉ [.writeProtected, .timeout, .unsettled]) : ∃ frame, ⟨frame, .error e⟩ ∈ said := by
  cases programming with
  | unasked e => exact ⟨_, List.mem_singleton_self _⟩
  | refused => exact absurd List.mem_cons_self other
  | unsent permits e => exact ⟨_, List.mem_cons_of_mem _ (List.mem_singleton_self _)⟩
  | unconfirmed permits e =>
    exact ⟨_, List.mem_cons_of_mem _ (List.mem_cons_of_mem _ (List.mem_singleton_self _))⟩
  | waited permits waits =>
    obtain ⟨frame, among⟩ := waits.blamed fun spent => other (List.mem_cons_of_mem _ spent)
    refine ⟨frame, ?_⟩
    exact List.mem_cons_of_mem _ (List.mem_cons_of_mem _ (List.mem_cons_of_mem _ among))

theorem Programming.permitted (programming : Programming g page data result said) :
    Permitted g page data said := by
  cases programming with
  | unasked | refused => exact permitted_of_inert (by simp [status])
  | unsent permits | unconfirmed permits => exact permitted_setup permits _ (by simp)
  | waited permits waits => exact permitted_setup permits _ (by simpa [sent] using waits.inert)

end Traces

/-- How programming a page and reading it back ends: what it comes to and what was exchanged. -/
inductive Verifying (g : Geometry) (page : Nat) (data : List UInt8) :
    Except Error Status → List Exchange → Prop where
  | unprogrammed {e : Error} {said : List Exchange}
      (programming : Programming g page data (.error e) said) :
      Verifying g page data (.error e) said
  | unloaded {e : Error} {programmed : Status} {said later : List Exchange}
      {before after : ChipState} (programming : Programming g page data (.ok programmed) said)
      (loading : Loading g page before (.error e) after later) :
      Verifying g page data (.error e) (said ++ later)
  /-- The device advises to refresh the page. -/
  | advised {programmed loaded : Status} {said later : List Exchange} {before after : ChipState}
      (programming : Programming g page data (.ok programmed) said)
      (loading : Loading g page before (.ok loaded) after later)
      (advised : loaded.isRefreshAdvised = true) :
      Verifying g page data (.error (.refreshAdvised page)) (said ++ later)
  | unread {programmed loaded : Status} {said later : List Exchange} {before after : ChipState}
      (programming : Programming g page data (.ok programmed) said)
      (loading : Loading g page before (.ok loaded) after later) (e : Error) :
      Verifying g page data (.error e) (said ++ later ++ [⟨.readBack data.length, .error e⟩])
  | differs {programmed loaded : Status} {said later : List Exchange} {before after : ChipState}
      (programming : Programming g page data (.ok programmed) said)
      (loading : Loading g page before (.ok loaded) after later)
      {found : List UInt8} (length : found.length = data.length) {offset : Nat}
      (differs : Operation.firstDifference found data = some offset) :
      Verifying g page data (.error (.verifyMismatch page offset))
        (said ++ later ++ [⟨.readBack data.length, .ok found⟩])
  | verified {programmed loaded : Status} {said later : List Exchange} {before after : ChipState}
      (programming : Programming g page data (.ok programmed) said)
      (loading : Loading g page before (.ok loaded) after later)
      (unadvised : loaded.isRefreshAdvised = false)
      {found : List UInt8} (length : found.length = data.length)
      (same : Operation.firstDifference found data = none) :
      Verifying g page data (.ok loaded) (said ++ later ++ [⟨.readBack data.length, .ok found⟩])

namespace Operation

/-- By induction on the data: where no difference is found, all of it was found. -/
theorem isPrefix_of_firstDifference {found wanted : List UInt8} {offset : Nat}
    (same : firstDifference.go found wanted offset = none) : wanted <+: found := by
  induction wanted generalizing found offset with
  | nil => exact List.nil_prefix
  | cons byte rest ih =>
    cases found with
    | nil => cases same
    | cons other found =>
      rw [firstDifference.go] at same
      split at same
      · next equal => exact List.cons_prefix_cons.mpr ⟨equal.symm, ih same⟩
      · cases same

/-- The difference that is found is the first one. -/
theorem firstDifference_differs {found wanted : List UInt8} {offset place : Nat}
    (differs : firstDifference.go found wanted offset = some place) :
    ∃ agreed, place = offset + agreed ∧ agreed < wanted.length ∧
      found.take agreed = wanted.take agreed ∧ found[agreed]? ≠ wanted[agreed]? := by
  induction wanted generalizing found offset with
  | nil => cases found <;> cases differs
  | cons byte rest ih =>
    cases found with
    | nil =>
      obtain rfl := Option.some.inj differs
      exact ⟨0, rfl, Nat.zero_lt_succ _, rfl, nofun⟩
    | cons other found =>
      rw [firstDifference.go] at differs
      split at differs
      · next equal =>
        obtain ⟨agreed, rfl, inside, alike, differ⟩ := ih differs
        refine ⟨agreed + 1, by omega, Nat.succ_lt_succ inside, ?_, differ⟩
        rw [List.take_succ_cons, List.take_succ_cons, equal, alike]
      · next unequal =>
        obtain rfl := Option.some.inj differs
        exact ⟨0, rfl, Nat.zero_lt_succ _, rfl, fun same => unequal (Option.some.inj same)⟩

variable {session : Session} {page : Nat} {data : List UInt8}

theorem trades_readBack {length : Nat} (loaded : session.state = .reading)
    (fits : length ≤ session.geometry.rawPageSize) :
    (readData 0 (some length)).Trades session fun result _ said =>
      said = [⟨.readBack length, result⟩] ∧ ∀ bytes, result = .ok bytes → bytes.length = length := by
  have short : length ≤ maxReadLength :=
    Nat.le_trans fits session.valid.dimensions.rawPageSize
  refine trades_get_bind ?_
  dsimp only
  rw [if_neg (not_not_intro loaded), if_neg (Nat.not_lt_zero _), Option.getD_some,
    if_neg (Nat.not_lt.mpr short), if_pos rfl]
  refine trades_ofQuery fun σ _ _ link => ?_
  refine (Query.trades_execute (Frame.wellFormed_read _ _) σ link).mono fun _ _ _ reached => ?_
  have asked : (Frame.readBack length).readLength.toNat = length := by
    show (UInt16.ofNat length).toNat = length
    rw [UInt16.toNat_ofNat']
    exact Nat.mod_eq_of_lt (Nat.lt_succ_of_le short)
  exact ⟨reached.1, fun bytes answered => (reached.2 bytes answered).trans asked⟩

theorem trades_programVerified (inRange : page < session.geometry.totalPages)
    (fits : data.length ≤ session.geometry.rawPageSize) :
    (programVerified page data).Trades session fun result _ said =>
      Verifying session.geometry page data result said := by
  refine (trades_programPage inRange fits).bind (fun e left said reached => ?_) ?_
  · exact .unprogrammed reached.2
  · rintro programmed left said ⟨layout, programming⟩
    refine (trades_loadPage (layout ▸ inRange)).bind (fun e last later reached => ?_) ?_
    · exact .unloaded programming (layout ▸ reached.2)
    · rintro status last later ⟨layoutAfter, loading⟩
      obtain ⟨reading, -⟩ := loading.of_ok
      have room : data.length ≤ last.geometry.rawPageSize := by
        rw [layoutAfter, layout]
        exact fits
      rw [layout] at loading
      dsimp only
      split
      · next advised =>
        refine trades_throw_bind ?_
        rw [List.append_nil]
        exact .advised programming loading advised
      · next unadvised =>
        refine (trades_readBack reading room).bind ?_ ?_
        · rintro e _ _ ⟨rfl, -⟩
          rw [← List.append_assoc]
          exact .unread programming loading e
        · rintro found _ _ ⟨rfl, length⟩
          split
          · next offset differs =>
            refine trades_throw ?_
            rw [List.append_nil, ← List.append_assoc]
            exact .differs programming loading (length found rfl) differs
          · next same =>
            refine trades_pure ?_
            rw [List.append_nil, ← List.append_assoc]
            exact .verified programming loading (Bool.eq_false_iff.mpr unadvised)
              (length found rfl) same

end Operation

namespace Verifying

open Exchange

variable {g : Geometry} {page : Nat} {data : List UInt8} {result : Except Error Status}
  {said : List Exchange}

theorem of_ok (verifying : Verifying g page data result said) (status : Status)
    (succeeded : result = .ok status) :
    ∃ (permit : Status) (programmed reloaded : Wait),
      permit.isWriteEnabled = true ∧ status = reloaded.ready ∧
      reloaded.ready.isError = false ∧ reloaded.ready.isRefreshAdvised = false ∧
      said = .status permit :: .sent (.setup g page data) :: .sent .confirm
        :: programmed.exchanges ++ .sent (.latch g page) :: .sent .load
        :: reloaded.exchanges ++ [⟨.readBack data.length, .ok data⟩] := by
  cases verifying with
  | verified programming loading unadvised length same =>
    obtain ⟨permit, programmed, permits, rfl⟩ := programming.of_ok
    obtain ⟨-, reloaded, rfl, noError, rfl⟩ := loading.of_ok
    obtain rfl := Except.ok.inj succeeded
    have equal := (Operation.isPrefix_of_firstDifference same).eq_of_length length.symm
    rw [← equal]
    exact ⟨permit, programmed, reloaded, permits, rfl, noError, unadvised, rfl⟩
  | _ => cases succeeded

/-- A failure for which the device is not to blame by what it shows or answers is what a frame
failed with. -/
theorem blamed {e : Error} (verifying : Verifying g page data (.error e) said)
    (final : e.isRetryable = false) (other : e ∉ [.writeProtected, .timeout, .unsettled]) :
    ∃ frame, ⟨frame, .error e⟩ ∈ said := by
  cases verifying with
  | unprogrammed programming => exact programming.blamed other
  | unloaded programming loading =>
    have elsewhere : e ∉ [.read page, .timeout, .unsettled] := by
      rintro (_ | ⟨_, spent⟩)
      · cases final
      · exact other (List.mem_cons_of_mem _ spent)
    obtain ⟨frame, among⟩ := loading.blamed elsewhere
    exact ⟨frame, List.mem_append_right _ among⟩
  | unread programming loading e =>
    exact ⟨_, List.mem_append_right _ (List.mem_singleton_self _)⟩
  | advised | differs => cases final

theorem of_mismatch (verifying : Verifying g page data result said) (p offset : Nat)
    (mismatch : result = .error (.verifyMismatch p offset))
    (unraised : Link.Unraised (.verifyMismatch p offset) said) :
    p = page ∧ offset < data.length ∧ ∃ found,
      said.getLast? = some ⟨.readBack data.length, .ok found⟩ ∧ found.length = data.length ∧
      found.take offset = data.take offset ∧ found[offset]? ≠ data[offset]? := by
  cases verifying with
  | unprogrammed programming =>
    obtain rfl := Except.error.inj mismatch
    obtain ⟨frame, among⟩ := programming.blamed (by simp)
    exact absurd among (unraised frame)
  | unloaded programming loading =>
    obtain rfl := Except.error.inj mismatch
    obtain ⟨frame, among⟩ := loading.blamed (by simp)
    exact absurd (List.mem_append_right _ among) (unraised frame)
  | unread programming loading e =>
    obtain rfl := Except.error.inj mismatch
    exact absurd (List.mem_append_right _ (List.mem_singleton_self _)) (unraised _)
  | differs programming loading length differs =>
    obtain ⟨rfl, rfl⟩ := Error.verifyMismatch.inj (Except.error.inj mismatch)
    obtain ⟨agreed, rfl, inside, alike, differ⟩ := Operation.firstDifference_differs differs
    rw [Nat.zero_add]
    exact ⟨rfl, inside, _, List.getLast?_concat, length, alike, differ⟩
  | advised | verified => cases mismatch

theorem mute (verifying : Verifying g page data result said) (p : Nat)
    (complaint : result = .error (.refreshAdvised p) ∨ result = .error (.read p)) :
    ∀ exchange ∈ said, exchange.Mute := by
  cases verifying with
  | unprogrammed programming => exact programming.mute
  | unloaded programming loading | advised programming loading =>
    exact List.forall_mem_append.mpr ⟨programming.mute, loading.mute⟩
  | unread programming loading e =>
    refine List.forall_mem_append.mpr
      ⟨List.forall_mem_append.mpr ⟨programming.mute, loading.mute⟩, ?_⟩
    exact List.forall_mem_singleton.mpr (mute_failed _ e)
  | differs | verified => rcases complaint with ⟨⟨⟩⟩ | ⟨⟨⟩⟩

theorem permitted (verifying : Verifying g page data result said) :
    Permitted g page data said := by
  have readBack (answer : Except Error (List UInt8)) :
      ∀ exchange ∈ [(⟨.readBack data.length, answer⟩ : Exchange)], exchange.Inert :=
    List.forall_mem_singleton.mpr (inert_readBack _ _)
  cases verifying with
  | unprogrammed programming => exact programming.permitted
  | unloaded programming loading | advised programming loading =>
    exact programming.permitted.append loading.inert
  | unread programming loading | differs programming loading | verified programming loading =>
    exact (programming.permitted.append loading.inert).append (readBack _)

end Verifying

namespace Operation

variable {session : Session} {page : Nat} {data : List UInt8}

/-- Where the operation succeeds, the device permitted the program, got ready after loading the page
again with neither the error bit nor the advice to refresh it, and answered just the data when read
back at the end. Where it reports a mismatch that the link has not raised of itself, as none that
keeps to its contract ever does, what was read back at the end has all the data up to the offset and
not the byte there. Where it reports a page that cannot be read or should be refreshed, nothing came
in but status registers. A page is set up to be programmed only after the device permitted it, and
only with the data. -/
theorem programVerified_sound (inRange : page < session.geometry.totalPages)
    (fits : data.length ≤ session.geometry.rawPageSize) :
    (programVerified page data).Trades session fun result _ said =>
      (∀ status, result = .ok status → ∃ (permit : Status) (programmed reloaded : Wait),
        permit.isWriteEnabled = true ∧ status = reloaded.ready ∧
        reloaded.ready.isError = false ∧ reloaded.ready.isRefreshAdvised = false ∧
        said = .status permit :: .sent (.setup session.geometry page data) :: .sent .confirm
          :: programmed.exchanges ++ .sent (.latch session.geometry page) :: .sent .load
          :: reloaded.exchanges ++ [⟨.readBack data.length, .ok data⟩]) ∧
      (∀ p offset, result = .error (.verifyMismatch p offset) →
        Link.Unraised (.verifyMismatch p offset) said →
        p = page ∧ offset < data.length ∧ ∃ found,
          said.getLast? = some ⟨.readBack data.length, .ok found⟩ ∧
          found.length = data.length ∧ found.take offset = data.take offset ∧
          found[offset]? ≠ data[offset]?) ∧
      (∀ p, result = .error (.refreshAdvised p) ∨ result = .error (.read p) →
        ∀ exchange ∈ said, ∀ bytes, exchange.answer = .ok bytes →
          bytes = [] ∨ exchange.frame = Exchange.statusFrame) ∧
      ∀ place exchange, said[place]? = some exchange →
        exchange.frame.opcode = Opcode.programSetup →
        place = 1 ∧ exchange.frame = .setup session.geometry page data ∧
          ∃ permit : Status, permit.isWriteEnabled = true ∧
            said.head? = some (.status permit) := by
  refine (trades_programVerified inRange fits).mono fun result _ said verifying => ?_
  exact ⟨verifying.of_ok, verifying.of_mismatch, verifying.mute, verifying.permitted⟩

/-- A device that permits the program and answers the data, and one that answers a wrong byte. -/
theorem programVerified_sound_scripted :
    let answering (found : List UInt8) : Script := { cues :=
      [(⟨Opcode.readStatus, false⟩, [.answer [0xC0]]),
        (⟨Opcode.readMode, false⟩, [.answer found])] }
    let reached (found : List UInt8) :=
      ((programVerified 1 [0xAB, 0xCD]).runIn smallSession).run (answering found)
    ((reached [0xAB, 0xCD]).value.1 = .ok ⟨0xC0⟩ ∧
      ∃ (permit : Status) (programmed reloaded : Wait), permit.isWriteEnabled = true ∧
        reloaded.ready = ⟨0xC0⟩ ∧ Dialogue.exchanges (reached [0xAB, 0xCD]).transcript
          = .status permit :: .sent (.setup smallSession.geometry 1 [0xAB, 0xCD]) :: .sent .confirm
            :: programmed.exchanges ++ .sent (.latch smallSession.geometry 1) :: .sent .load
            :: reloaded.exchanges ++ [⟨.readBack 2, .ok [0xAB, 0xCD]⟩]) ∧
    (reached [0xAB, 0x00]).value.1 = .error (.verifyMismatch 1 1) ∧
      ∃ found, (Dialogue.exchanges (reached [0xAB, 0x00]).transcript).getLast?
          = some ⟨.readBack 2, .ok found⟩ ∧
        found.length = 2 ∧ found.take 1 = [0xAB] ∧ found[1]? ≠ some 0xCD := by
  intro answering reached
  have inRange : 1 < smallSession.geometry.totalPages := by decide +kernel
  have fits : ([0xAB, 0xCD] : List UInt8).length ≤ smallSession.geometry.rawPageSize := by
    decide +kernel
  have sound (found : List UInt8) := programVerified_sound inRange fits Script (answering found)
  have verified : (reached [0xAB, 0xCD]).value.1 = .ok ⟨0xC0⟩ := by decide +kernel
  have mismatch : (reached [0xAB, 0x00]).value.1 = .error (.verifyMismatch 1 1) := by
    decide +kernel
  constructor
  · obtain ⟨permit, programmed, reloaded, permits, shown, -, -, said⟩ := (sound _).1 _ verified
    exact ⟨verified, permit, programmed, reloaded, permits, shown.symm, said⟩
  · have foreign : ¬ (Error.verifyMismatch 1 1).OfLink := nofun
    have unraised := Script.conforming.unraised foreign
      ((programVerified 1 [0xAB, 0xCD]).runIn smallSession) (answering [0xAB, 0x00])
    obtain ⟨-, -, found, last, length, alike, differ⟩ := (sound _).2.1 1 1 mismatch unraised
    exact ⟨mismatch, found, last, length, alike, differ⟩

end Operation
end OnfiFlash
