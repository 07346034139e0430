import OnfiFlash.Proofs.Discipline
import OnfiFlash.Proofs.InUse

/-! What opening a session on a chip comes to. Every step of it finds the chip as it is configured,
but for its on-die ECC; so the configuration decides which step fails first, if one does. -/
namespace OnfiFlash

open Identification

namespace Chip

def Config.IsEccPart (c : Config) : Prop := c.manufacturerId = 0x2C ∧ c.deviceId = 0xDA

instance (c : Config) : Decidable c.IsEccPart := inferInstanceAs (Decidable (_ ∧ _))

def Config.jedecId (c : Config) (ecc : Bool) : List UInt8 :=
  [c.manufacturerId, c.deviceId, 0x90, 0x95, 0x06 ||| (if ecc then eccBit else 0)]

theorem Config.isEccPart_jedecId (c : Config) (ecc : Bool) :
    isEccPart (c.jedecId ecc) = true ↔ c.IsEccPart := by
  simp [isEccPart, jedecId, eccParts, IsEccPart]

theorem Config.reportsEcc_jedecId (c : Config) (ecc : Bool) : reportsEcc (c.jedecId ecc) = ecc := by
  cases ecc <;> rfl

/-- The chip is as it is configured, with its on-die ECC on or off, and no response waits. -/
structure AsConfigured (c : Config) (ecc : Bool) (chip : Chip) : Prop where
  config : chip.config = c
  clear : chip.pending = []
  ecc : chip.eccEnabled = ecc

variable {c : Config} {ecc : Bool} {chip : Chip}

theorem asConfigured_ofConfig (c : Config) : (ofConfig c).AsConfigured c c.internalEcc :=
  ⟨rfl, rfl, rfl⟩

theorem AsConfigured.counted (asConfigured : chip.AsConfigured c ecc) :
    chip.counted.AsConfigured c ecc :=
  ⟨asConfigured.config, asConfigured.clear, asConfigured.ecc⟩

theorem AsConfigured.polled (asConfigured : chip.AsConfigured c ecc) (reads : Nat) :
    (chip.polled reads).AsConfigured c ecc :=
  ⟨asConfigured.config, asConfigured.clear, asConfigured.ecc⟩

theorem AsConfigured.identifier (asConfigured : chip.AsConfigured c ecc) :
    chip.identifier (some jedecAddress) = c.jedecId ecc := by
  obtain ⟨rfl, -, rfl⟩ := asConfigured
  simp [Chip.identifier, Config.jedecId, jedecAddress, signatureAddress]

theorem AsConfigured.signature (asConfigured : chip.AsConfigured c ecc) :
    chip.identifier (some signatureAddress) = if c.onfi then signature else [] := by
  obtain ⟨rfl, -, -⟩ := asConfigured
  simp [Chip.identifier, jedecAddress, signatureAddress]

end Chip

namespace Query

variable {c : Chip.Config} {ecc : Bool} {chip : Chip} {polling : PollLimit}

/-- What comes of an operation that the chip is waited for, with its on-die ECC then on or off. -/
def Awaited (c : Chip.Config) (ecc : Bool) (polling : PollLimit) (result : Except Error Status)
    (after : Chip) : Prop :=
  if polling.Permits c.busyPolls then
    (∃ status, result = .ok status) ∧ after.AsConfigured c ecc
  else
    result = .error .timeout

section Awaited

variable {query : Query Status}

theorem ensures_of_permits
    (awaited : query.Ensures chip fun result after _ => Awaited c ecc polling result after)
    (permitted : polling.Permits c.busyPolls) :
    query.Ensures chip fun result after _ =>
      (∃ status, result = .ok status) ∧ after.AsConfigured c ecc := by
  refine awaited.mono fun _ _ _ ended => ?_
  rwa [Awaited, if_pos permitted] at ended

theorem ensures_of_not_permits
    (awaited : query.Ensures chip fun result after _ => Awaited c ecc polling result after)
    (denied : ¬ polling.Permits c.busyPolls) :
    query.Ensures chip fun result _ _ => result = .error .timeout := by
  refine awaited.mono fun _ _ _ ended => ?_
  rwa [Awaited, if_neg denied] at ended

end Awaited

/-- An operation that is started on the chip, and the wait for it. -/
theorem ensures_started {started : Chip} {frame : Frame} (clear : chip.pending = [])
    (handled : chip.counted.handle frame = ⟨.ok [], started, []⟩) (wellFormed : frame.WellFormed)
    (silent : frame.readLength = 0) (begun : started.AsConfigured c ecc)
    (busy : started.busy = c.busyPolls) (follows : polling.Follows c.busyPolls) :
    (execute frame >>= fun _ => pollReady polling).Ensures chip fun result after _ =>
      Awaited c ecc polling result after := by
  have answered : Link.execute frame chip = ⟨.ok [], started, []⟩ :=
    Chip.execute_eq clear wellFormed handled (by rw [silent]; rfl)
  unfold Awaited
  rw [ensures_bind, ensures_execute, answered]
  rw [← busy] at follows ⊢
  refine (ensures_pollReady_permits begun.clear follows).mono fun result after _ ended => ?_
  split
  · next permitted =>
    rw [if_pos permitted] at ended
    obtain ⟨rfl, rfl⟩ := ended
    exact ⟨⟨_, rfl⟩, begun.polled _⟩
  · next denied =>
    rw [if_neg denied] at ended
    exact ended

theorem ensures_reset (asConfigured : chip.AsConfigured c ecc)
    (follows : polling.Follows c.busyPolls) :
    (reset polling).Ensures chip fun result after _ => Awaited c ecc polling result after := by
  refine ensures_started asConfigured.clear rfl (Frame.wellFormed_simple _) rfl ?_ ?_ follows
  · exact ⟨asConfigured.config, asConfigured.clear, asConfigured.ecc⟩
  · exact congrArg Chip.Config.busyPolls asConfigured.config

/-- Switching on-die ECC on takes effect on a chip that supports it. -/
theorem ensures_setFeatures (asConfigured : chip.AsConfigured c ecc)
    (follows : polling.Follows c.busyPolls) :
    (setFeatures arrayModeFeature [eccMode, 0, 0, 0] polling).Ensures chip fun result after _ =>
      Awaited c (ecc || c.eccSupported) polling result after := by
  obtain ⟨rfl, clear, rfl⟩ := asConfigured
  have requested : chip.counted.handle (.write Opcode.setFeatures [arrayModeFeature]
      [eccMode, 0, 0, 0]) = ⟨.ok [], if chip.config.eccSupported
        then { chip.counted.start with eccEnabled := true } else chip.counted.start, []⟩ := by
    show (⟨.ok [], chip.counted.setFeatures (some arrayModeFeature) (some eccMode), []⟩ :
      Reply Chip (List UInt8)) = _
    rw [Chip.setFeatures]
    cases supported : chip.config.eccSupported <;> simp [Chip.counted, supported, eccMode]
  refine ensures_started clear requested (by decide) rfl ?_ ?_ follows
  · split
    · next supported => exact ⟨rfl, clear, by rw [supported, Bool.or_true]⟩
    · next unsupported =>
      exact ⟨rfl, clear, by rw [Bool.eq_false_iff.mpr unsupported, Bool.or_false]; rfl⟩
  · split <;> rfl

theorem ensures_readId (asConfigured : chip.AsConfigured c ecc) (address : UInt8) (length : Nat)
    (short : length < limit16) :
    (readId address length).Ensures chip fun result after _ =>
      result = .ok (Chip.resized length 0 (chip.identifier (some address))) ∧
      after.AsConfigured c ecc := by
  have asked : (UInt16.ofNat length).toNat = length := UInt16.toNat_ofNat_of_lt' short
  have handled : chip.counted.handle ((Frame.withAddress Opcode.readId [address]).reading
      (UInt16.ofNat length)) = ⟨.ok (Chip.resized (UInt16.ofNat length).toNat 0
        (chip.identifier (some address))), chip.counted, []⟩ := rfl
  rw [asked] at handled
  have fits := (Frame.OfQuery.identifier address (UInt16.ofNat length)).wellFormed
  rw [readId, ensures_execute, Chip.execute_eq asConfigured.clear fits handled
    ((Chip.length_resized _ _ _).trans asked.symm)]
  exact ⟨rfl, asConfigured.counted⟩

theorem ensures_readJedecId (asConfigured : chip.AsConfigured c ecc) :
    (readId jedecAddress jedecLength).Ensures chip fun result after _ =>
      result = .ok (c.jedecId ecc) ∧ after.AsConfigured c ecc := by
  have read := ensures_readId asConfigured jedecAddress jedecLength (by decide)
  rw [asConfigured.identifier] at read
  exact read

theorem ensures_checkSignature (asConfigured : chip.AsConfigured c ecc) :
    checkSignature.Ensures chip fun result after _ =>
      if c.onfi then result = .ok () ∧ after.AsConfigured c ecc
      else result = .error .notOnfi := by
  have read := ensures_readId asConfigured signatureAddress signature.length (by decide)
  rw [asConfigured.signature] at read
  refine .bind read (by rintro e _ _ ⟨⟨⟩, -⟩) ?_
  rintro found after _ ⟨same, kept⟩
  cases onfi : c.onfi with
  | true =>
    rw [onfi] at same
    obtain rfl : found = signature := Except.ok.inj same
    exact ⟨rfl, kept⟩
  | false =>
    rw [onfi] at same
    obtain rfl : found = [0, 0, 0, 0] := Except.ok.inj same
    exact rfl

/-- By induction on the attempts left: on a chip that supports it the first attempt switches ECC on,
on any other it stays as it is. -/
theorem ensures_requestEcc (follows : polling.Follows c.busyPolls)
    (permitted : ecc = false → polling.Permits c.busyPolls) (attempts : Nat)
    (enough : attempts = 0 → ecc = true ∨ c.eccSupported = false)
    (asConfigured : chip.AsConfigured c ecc) :
    let enabled := ecc || c.eccSupported
    (requestEcc polling attempts (c.jedecId ecc)).Ensures chip fun result after _ =>
      result = .ok (c.jedecId enabled, enabled) ∧ after.AsConfigured c enabled := by
  induction attempts generalizing ecc chip with
  | zero =>
    rw [requestEcc, c.reportsEcc_jedecId]
    cases ecc with
    | true => exact ⟨rfl, asConfigured⟩
    | false =>
      rw [(enough rfl).resolve_left nofun]
      exact ⟨rfl, asConfigured⟩
  | succ attempts ih =>
    rw [requestEcc, c.reportsEcc_jedecId]
    cases ecc with
    | true => exact ⟨rfl, asConfigured⟩
    | false =>
      have settled := ensures_of_permits (ensures_setFeatures asConfigured follows) (permitted rfl)
      refine .bind settled (by rintro e _ _ ⟨⟨_, ⟨⟩⟩, -⟩) ?_
      rintro _ switched _ ⟨-, kept⟩
      refine .bind (ensures_readJedecId kept) (by rintro e _ _ ⟨⟨⟩, -⟩) ?_
      rintro _ asked _ ⟨⟨⟩, kept⟩
      have rest := ih (fun _ => permitted rfl)
        (fun _ => Bool.eq_false_or_eq_true c.eccSupported) kept
      rwa [Bool.or_self] at rest

/-- On-die ECC is switched on where the part is listed and the chip supports it, unless the wait for
it is too short. -/
theorem ensures_enableEcc (asConfigured : chip.AsConfigured c ecc)
    (follows : polling.Follows c.busyPolls) :
    let enabled := ecc || decide c.IsEccPart && c.eccSupported
    (enableEcc polling).Ensures chip fun result after _ =>
      if c.IsEccPart ∧ ecc = false ∧ ¬ polling.Permits c.busyPolls then
        result = .error .timeout
      else
        result = .ok (c.jedecId enabled, decide c.IsEccPart && enabled) ∧
        after.AsConfigured c enabled := by
  refine .bind (ensures_readJedecId asConfigured) (by rintro e _ _ ⟨⟨⟩, -⟩) ?_
  rintro _ asked _ ⟨⟨⟩, kept⟩
  by_cases listed : c.IsEccPart
  · rw [if_pos ((c.isEccPart_jedecId ecc).mpr listed)]
    simp only [listed, decide_true, Bool.true_and, true_and]
    by_cases denied : ecc = false ∧ ¬ polling.Permits c.busyPolls
    · obtain ⟨rfl, short⟩ := denied
      simp only [short, not_false_eq_true, and_self, if_true]
      rw [show eccAttempts = 4 + 1 from rfl, requestEcc, c.reportsEcc_jedecId]
      have refused := ensures_of_not_permits (ensures_setFeatures kept follows) short
      refine .bind refused ?_ (by rintro _ _ _ ⟨⟩)
      rintro e _ _ ⟨⟩
      rfl
    · have permitted (off : ecc = false) : polling.Permits c.busyPolls :=
        Decidable.not_not.mp fun short => denied ⟨off, short⟩
      have requested := ensures_requestEcc follows permitted eccAttempts nofun kept
      refine requested.mono fun _ _ _ ended => ?_
      rwa [if_neg denied]
  · rw [if_neg (mt (c.isEccPart_jedecId ecc).mp listed)]
    simp only [listed, decide_false, Bool.false_and, Bool.or_false, false_and, if_false]
    exact ⟨rfl, kept⟩

end Query

namespace Session

/-- A session just opened on a chip: what it knows of the chip is what the chip states, and its
settings are those that were asked for. -/
structure OpenedOn (c : Chip.Config) (settings : SessionConfig) (session : Session) : Prop where
  geometry : session.geometry = c.statement
  config : session.config = settings
  state : session.state = .idle
  jedecId : session.jedecId = some (c.manufacturerId, c.deviceId)
  internalEcc : session.internalEcc = true ↔
    settings.enableEcc = true ∧ c.IsEccPart ∧ (c.internalEcc = true ∨ c.eccSupported = true)
  badBlocks : session.badBlocks = none

variable {c : Chip.Config} {ecc : Bool} {chip : Chip} {config : SessionConfig}

/-- A valid geometry is taken for the session as it is. -/
theorem ofGeometry_eq {g : Geometry} (valid : g.Valid) :
    ofGeometry g config = pure { geometry := g, config, valid } := by
  unfold ofGeometry
  split
  · next flaw found => exact absurd (found.symm.trans valid) (Option.some_ne_none flaw)
  · rfl

/-- The names of a device have no part in whether it can be addressed. -/
theorem valid_statement : c.statement.Valid ↔ c.geometry.Valid := Iff.rfl

theorem ensures_describe (fits : c.Fits) (asConfigured : chip.AsConfigured c ecc) (id : List UInt8)
    (internalEcc : Bool) :
    (describe config id internalEcc).Ensures chip fun result _ _ =>
      if c.geometry.Valid then
        ∃ valid : c.statement.Valid, result = .ok {
          geometry := c.statement, config, jedecId := some (jedecPair id), internalEcc, valid }
      else
        result = .error .protocol := by
  have loaded := Query.ensures_loadGeometry asConfigured.clear (asConfigured.config.symm ▸ fits)
  rw [asConfigured.config] at loaded
  simp only [valid_statement] at loaded
  by_cases valid : c.geometry.Valid
  · simp only [valid, if_true] at loaded ⊢
    refine .bind loaded (by rintro e _ _ ⟨-, ⟨⟩⟩) ?_
    rintro _ after _ ⟨-, ⟨⟩⟩
    rw [ofGeometry_eq (valid_statement.mpr valid)]
    exact ⟨valid_statement.mpr valid, rfl⟩
  · simp only [valid, if_false] at loaded ⊢
    refine .bind loaded ?_ (by rintro _ _ _ ⟨-, ⟨⟩⟩)
    rintro e _ _ ⟨-, ⟨⟩⟩
    rfl

/-- What the last step comes to: the layout that the chip states is taken or refused. -/
def Concludes (c : Chip.Config) (config : SessionConfig) (result : Except Error Session) : Prop :=
  if c.geometry.Valid then ∃ session, result = .ok session ∧ session.OpenedOn c config
  else result = .error .protocol

/-- What the steps from the identifier on come to. -/
def ConcludesEcc (c : Chip.Config) (config : SessionConfig) (result : Except Error Session) :
    Prop :=
  if config.enableEcc ∧ c.IsEccPart ∧ ¬ c.internalEcc ∧
      ¬ config.polling.Permits c.busyPolls then
    result = .error .timeout
  else
    Concludes c config result

theorem ensures_describe_concludes (fits : c.Fits) (asConfigured : chip.AsConfigured c ecc)
    {id : List UInt8} {internalEcc : Bool} (pair : jedecPair id = (c.manufacturerId, c.deviceId))
    (enabled : internalEcc = true ↔
      config.enableEcc = true ∧ c.IsEccPart ∧ (c.internalEcc = true ∨ c.eccSupported = true)) :
    (describe config id internalEcc).Ensures chip fun result _ _ => Concludes c config result := by
  refine (ensures_describe fits asConfigured id internalEcc).mono fun result _ _ ended => ?_
  unfold Concludes
  split at ended
  · next valid =>
    obtain ⟨stated, rfl⟩ := ended
    rw [if_pos valid]
    exact ⟨_, rfl, rfl, rfl, rfl, congrArg some pair, enabled, rfl⟩
  · next invalid =>
    rw [if_neg invalid]
    exact ended

theorem ensures_enableEcc_describe (fits : c.Fits)
    (asConfigured : chip.AsConfigured c c.internalEcc)
    (follows : config.polling.Follows c.busyPolls) (enables : config.enableEcc = true) :
    (Query.enableEcc config.polling >>= fun found => describe config found.1 found.2).Ensures chip
      fun result _ _ => ConcludesEcc c config result := by
  have switched := Query.ensures_enableEcc asConfigured follows
  unfold ConcludesEcc
  by_cases denied : c.IsEccPart ∧ c.internalEcc = false ∧ ¬ config.polling.Permits c.busyPolls
  · simp only [denied, enables, not_false_eq_true, and_self, if_true, Bool.false_eq_true]
      at switched ⊢
    refine .bind switched ?_ (by rintro _ _ _ ⟨⟩)
    rintro e _ _ ⟨⟩
    rfl
  · simp only [denied, enables, Bool.not_eq_true, true_and, if_false] at switched ⊢
    refine .bind switched (by rintro e _ _ ⟨⟨⟩, -⟩) ?_
    rintro _ after _ ⟨⟨⟩, kept⟩
    refine ensures_describe_concludes fits kept rfl ?_
    by_cases listed : c.IsEccPart <;> simp [listed, enables]

/-- What follows the reset. -/
theorem ensures_examine (fits : c.Fits) (asConfigured : chip.AsConfigured c c.internalEcc)
    (follows : config.polling.Follows c.busyPolls) :
    (examine config).Ensures chip fun result _ _ =>
      if config.checkSignature ∧ ¬ c.onfi then result = .error .notOnfi
      else ConcludesEcc c config result := by
  have rest (chip : Chip) (asConfigured : chip.AsConfigured c c.internalEcc) :
      (if config.enableEcc = true then
        Query.enableEcc config.polling >>= fun found => describe config found.1 found.2
      else
        Query.readId jedecAddress 2 >>= fun id => describe config id false).Ensures chip
          fun result _ _ => ConcludesEcc c config result := by
    split
    · next enables => exact ensures_enableEcc_describe fits asConfigured follows enables
    · next disables =>
      have read := Query.ensures_readId asConfigured jedecAddress 2 (by decide)
      rw [asConfigured.identifier] at read
      refine .bind read (by rintro e _ _ ⟨⟨⟩, -⟩) ?_
      rintro _ after _ ⟨⟨⟩, kept⟩
      unfold ConcludesEcc
      simp only [disables, Bool.false_eq_true, false_and, if_false]
      exact ensures_describe_concludes fits kept rfl (by simp [disables])
  unfold examine
  dsimp only
  split
  · next checks =>
    have checked := Query.ensures_checkSignature asConfigured
    cases onfi : c.onfi with
    | true =>
      simp only [onfi, if_true, not_true_eq_false, and_false, if_false] at checked ⊢
      refine .bind checked (by rintro e _ _ ⟨⟨⟩, -⟩) ?_
      rintro _ after _ ⟨-, kept⟩
      exact rest after kept
    | false =>
      simp only [onfi, checks, Bool.false_eq_true, not_false_eq_true, and_self, if_true,
        if_false] at checked ⊢
      refine .bind checked ?_ (by rintro _ _ _ ⟨⟩)
      rintro e _ _ ⟨⟩
      rfl
  · next skips =>
    simp only [skips, Bool.false_eq_true, false_and, if_false]
    exact rest chip asConfigured

/-- Opening a session asks for nothing that could change the array. -/
theorem cells_identify (config : SessionConfig) (clear : chip.pending = []) :
    ((identify config).run.run chip).link.cells = chip.cells := by
  let unchanged (_ : Course) (after : Chip) : Prop :=
    after.pending = [] ∧ after.flash = chip.flash
  have exchange (place : Course) (frame : Frame) (before : Chip)
      (allowed : (Monitor.course Frame.OfQuery config.polling).allows place frame)
      (kept : unchanged place before) :
      unchanged ((Monitor.course Frame.OfQuery config.polling).after place frame
        (Link.execute frame before).result) (Link.execute frame before).state := by
    obtain ⟨idle, same⟩ := kept
    have asked := allowed.2.opcode_mem
    have noErase : frame.opcode ≠ Opcode.eraseConfirm :=
      fun erases => absurd (erases ▸ asked) (by decide)
    have noProgram : frame.opcode ≠ Opcode.programConfirm :=
      fun programs => absurd (programs ▸ asked) (by decide)
    refine ⟨(Chip.keeps_execute before frame idle).2, ?_⟩
    rw [Chip.flash_execute before frame idle noErase noProgram, same]
  obtain ⟨_, _, kept⟩ := (identify_disciplined config).run exchange ⟨clear, rfl⟩
  exact congrArg Flash.cells kept.2

/-- The first step to fail decides what opening a session on a new chip comes to: the wait for the
reset, the signature, the wait for the on-die ECC, or the layout. If none does, the session knows
the chip as it is configured. The cells stay as they are. -/
theorem identify_opens (fits : c.Fits) (follows : config.polling.Follows c.busyPolls) :
    (identify config).Ensures (Chip.ofConfig c) fun result after _ =>
      after.cells = (Chip.ofConfig c).cells ∧
      if config.resetFirst ∧ ¬ config.polling.Permits c.busyPolls then
        result = .error .timeout
      else if config.checkSignature ∧ ¬ c.onfi then
        result = .error .notOnfi
      else if config.enableEcc ∧ c.IsEccPart ∧ ¬ c.internalEcc ∧
          ¬ config.polling.Permits c.busyPolls then
        result = .error .timeout
      else if c.geometry.Valid then
        ∃ session, result = .ok session ∧ session.OpenedOn c config
      else
        result = .error .protocol := by
  have asConfigured := Chip.asConfigured_ofConfig c
  have opened : (identify config).Ensures (Chip.ofConfig c) fun result _ _ =>
      if config.resetFirst ∧ ¬ config.polling.Permits c.busyPolls then result = .error .timeout
      else if config.checkSignature ∧ ¬ c.onfi then result = .error .notOnfi
      else ConcludesEcc c config result := by
    rw [identify_eq]
    split
    · next resets =>
      have reset := Query.ensures_reset asConfigured follows
      by_cases permitted : config.polling.Permits c.busyPolls
      · simp only [permitted, not_true_eq_false, and_false, if_false]
        refine .bind (Query.ensures_of_permits reset permitted) (by rintro e _ _ ⟨⟨_, ⟨⟩⟩, -⟩) ?_
        rintro _ after _ ⟨-, kept⟩
        exact ensures_examine fits kept follows
      · simp only [permitted, resets, not_false_eq_true, and_self, if_true]
        refine .bind (Query.ensures_of_not_permits reset permitted) ?_ (by rintro _ _ _ ⟨⟩)
        rintro e _ _ ⟨⟩
        rfl
    · next skips =>
      simp only [skips, Bool.false_eq_true, false_and, if_false]
      exact ensures_examine fits asConfigured follows
  exact ⟨cells_identify config asConfigured.clear, opened⟩

/-- A chip with a name that is not all ASCII, which is waited for just long enough. -/
theorem identify_opens_patient :
    let c : Chip.Config := { vendor := "Ünit 7 \x00", busyPolls := 2 }
    let config : SessionConfig := { polling := .atMost 3 }
    c.Fits ∧ config.polling.Follows c.busyPolls ∧
    (identify config).Ensures (Chip.ofConfig c) fun result after _ =>
      after.cells = (Chip.ofConfig c).cells ∧
      ∃ session, result = .ok session ∧ session.OpenedOn c config ∧
        session.geometry.vendor = "??nit 7" := by
  intro c config
  have fits : c.Fits := by constructor <;> decide
  have follows : config.polling.Follows c.busyPolls := fun _ => nofun
  refine ⟨fits, follows, (identify_opens fits follows).mono fun result after _ reached => ?_⟩
  rw [if_neg (by decide), if_neg (by decide), if_neg (by decide), if_pos (by decide +kernel)]
    at reached
  obtain ⟨cells, session, rfl, opened⟩ := reached
  have named : c.statement.vendor = "??nit 7" := by decide +kernel
  exact ⟨cells, session, rfl, opened, opened.geometry ▸ named⟩

end Session
end OnfiFlash
