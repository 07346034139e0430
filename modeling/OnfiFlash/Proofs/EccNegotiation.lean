import OnfiFlash.Chip.Step
import OnfiFlash.Proofs.StatusReads

/-! Negotiating on-die ECC. A device may answer every identifier frame with another identifier;
these answers alone decide how often ECC is requested, and the last of them is what the negotiation
ends with. -/
namespace OnfiFlash

open Identification

namespace Exchange

def identifierFrame : Frame :=
  (Frame.withAddress Opcode.readId [jedecAddress]).reading (UInt16.ofNat jedecLength)

def eccFrame : Frame := .write Opcode.setFeatures [arrayModeFeature] [eccMode, 0, 0, 0]

def identified (id : List UInt8) : Exchange := ⟨identifierFrame, .ok id⟩

/-- No status read finds the device busy. -/
def AllReady (said : List Exchange) : Prop := ∀ shown, status shown ∈ said → shown.isReady = true

theorem allReady_append {first second : List Exchange} :
    AllReady (first ++ second) ↔ AllReady first ∧ AllReady second := by
  simp only [AllReady, List.mem_append, or_imp, forall_and]

def AllAnswered (said : List Exchange) : Prop := ∀ exchange ∈ said, exchange.answer.isOk = true

theorem allAnswered_append {first second : List Exchange} :
    AllAnswered (first ++ second) ↔ AllAnswered first ∧ AllAnswered second := by
  simp only [AllAnswered, List.mem_append, or_imp, forall_and]

theorem allAnswered_identified (id : List UInt8) : AllAnswered [.identified id] :=
  List.forall_mem_singleton.mpr rfl

/-- What a frame was answered with, each time it was sent. -/
def answersTo (asked : Frame) (said : List Exchange) : List (List UInt8) :=
  said.filterMap fun exchange =>
    if exchange.frame = asked then exchange.answer.toOption else none

@[simp] theorem answersTo_append (asked : Frame) (first second : List Exchange) :
    answersTo asked (first ++ second) = answersTo asked first ++ answersTo asked second :=
  List.filterMap_append

end Exchange

open Exchange

/-- A request for on-die ECC that is carried out: what the status read after it shows, and the
identifier read then. -/
structure EccRound where
  shown : Status
  id : List UInt8

namespace EccRound

def exchanges (round : EccRound) : List Exchange :=
  [.sent eccFrame, .status round.shown, .identified round.id]

/-- What is exchanged in a round that fails. -/
inductive Cut (e : Error) : List Exchange → Prop where
  | request : Cut e [⟨eccFrame, .error e⟩]
  | status : Cut e [.sent eccFrame, ⟨statusFrame, .error e⟩]
  | identifier (shown : Status) :
      Cut e [.sent eccFrame, .status shown, ⟨identifierFrame, .error e⟩]

def frames (requests : Nat) : List Frame :=
  identifierFrame :: (List.replicate requests [eccFrame, statusFrame, identifierFrame]).flatten

section Rounds

variable (rounds : List EccRound)

theorem map_frame_flatMap : (rounds.flatMap exchanges).map Exchange.frame
    = (List.replicate rounds.length [eccFrame, statusFrame, identifierFrame]).flatten := by
  induction rounds with
  | nil => rfl
  | cons round rest ih =>
    rw [List.flatMap_cons, List.map_append, ih, List.length_cons, List.replicate_succ,
      List.flatten_cons]
    rfl

theorem answersTo_flatMap :
    answersTo identifierFrame (rounds.flatMap exchanges) = rounds.map EccRound.id := by
  induction rounds with
  | nil => rfl
  | cons round rest ih =>
    rw [List.flatMap_cons, answersTo_append, ih, List.map_cons]
    rfl

theorem allAnswered_flatMap : AllAnswered (rounds.flatMap exchanges) := by
  intro exchange among
  obtain ⟨round, -, part⟩ := List.mem_flatMap.mp among
  have whole : AllAnswered round.exchanges := by
    simp [AllAnswered, exchanges, sent, Exchange.status, identified, Except.isOk, Except.toBool]
  exact whole exchange part

end Rounds

/-- A round that fails does so with its last exchange, and reads no identifier. -/
theorem Cut.exists_eq {e : Error} {cut : List Exchange} (broken : Cut e cut) :
    ∃ before frame, cut = before ++ [⟨frame, .error e⟩] ∧ AllAnswered before ∧
      answersTo identifierFrame cut = [] ∧
      cut.map Exchange.frame <+: [eccFrame, statusFrame, identifierFrame] := by
  cases broken with
  | request => exact ⟨[], eccFrame, rfl, nofun, rfl, ⟨_, rfl⟩⟩
  | status =>
    refine ⟨[.sent eccFrame], statusFrame, rfl, ?_, rfl, ⟨_, rfl⟩⟩
    simp [AllAnswered, sent, Except.isOk, Except.toBool]
  | identifier shown =>
    refine ⟨[.sent eccFrame, .status shown], identifierFrame, rfl, ?_, rfl, ⟨[], rfl⟩⟩
    simp [AllAnswered, sent, Exchange.status, Except.isOk, Except.toBool]

theorem frames_succ (requests : Nat) : frames (requests + 1)
    = frames requests ++ [eccFrame, statusFrame, identifierFrame] := by
  rw [frames, frames, List.replicate_succ', List.flatten_append, List.flatten_singleton,
    List.cons_append]

/-- A shorter negotiation is the beginning of a longer one. -/
theorem frames_prefix {requests more : Nat} (le : requests ≤ more) :
    frames requests <+: frames more := by
  induction le with
  | refl => exact List.prefix_refl _
  | step _ ih => exact ih.trans (frames_succ _ ▸ List.prefix_append _ _)

end EccRound

/-- So many requests for on-die ECC are made, at most, as long as the identifiers do not report it:
first `id`, then `later`. -/
structure EccRequested (attempts : Nat) (id : List UInt8) (later : List (List UInt8)) : Prop where
  few : later.length ≤ attempts
  off : ∀ before ∈ (id :: later).dropLast, reportsEcc before = false
  ends : later.length < attempts → reportsEcc (later.getLastD id) = true

/-- How requesting on-die ECC ends, and what is exchanged until then, after an identifier. -/
inductive Negotiation (attempts : Nat) (id : List UInt8) :
    Except Error (List UInt8 × Bool) → List Exchange → Prop where
  | settled (rounds : List EccRound) {last : List UInt8}
      (requested : EccRequested attempts id (rounds.map EccRound.id))
      (isLast : (rounds.map EccRound.id).getLastD id = last) :
      Negotiation attempts id (.ok (last, reportsEcc last)) (rounds.flatMap EccRound.exchanges)
  | lost (rounds : List EccRound) {e : Error} {cut : List Exchange}
      (few : rounds.length < attempts)
      (off : ∀ before ∈ id :: rounds.map EccRound.id, reportsEcc before = false)
      (broken : EccRound.Cut e cut) :
      Negotiation attempts id (.error e) (rounds.flatMap EccRound.exchanges ++ cut)

theorem EccRequested.cons {attempts : Nat} {id next : List UInt8} {later : List (List UInt8)}
    (off : reportsEcc id = false) (requested : EccRequested attempts next later) :
    EccRequested (attempts + 1) id (next :: later) where
  few := Nat.succ_le_succ requested.few
  off := by
    rw [List.dropLast_cons_cons]
    exact List.forall_mem_cons.mpr ⟨off, requested.off⟩
  ends more := by
    rw [List.getLastD_cons]
    exact requested.ends (Nat.lt_of_succ_lt_succ more)

theorem Negotiation.reported {attempts : Nat} {id : List UInt8} (on : reportsEcc id = true) :
    Negotiation attempts id (.ok (id, true)) [] := by
  have requested : EccRequested attempts id [] := ⟨Nat.zero_le _, nofun, fun _ => on⟩
  exact on ▸ .settled [] requested rfl

theorem Negotiation.spent {id : List UInt8} (off : reportsEcc id = false) :
    Negotiation 0 id (.ok (id, false)) [] := by
  have requested : EccRequested 0 id [] := ⟨Nat.le_refl _, nofun, nofun⟩
  exact off ▸ .settled [] requested rfl

/-- One round more before the others. -/
theorem Negotiation.cons {attempts : Nat} {id : List UInt8}
    {result : Except Error (List UInt8 × Bool)} {later : List Exchange} (round : EccRound)
    (off : reportsEcc id = false) (negotiated : Negotiation attempts round.id result later) :
    Negotiation (attempts + 1) id result (round.exchanges ++ later) := by
  cases negotiated with
  | settled rounds requested isLast =>
    refine .settled (round :: rounds) (requested.cons off) ?_
    rw [List.map_cons, List.getLastD_cons]
    exact isLast
  | lost rounds few others broken =>
    have cut := Negotiation.lost (round :: rounds) (Nat.succ_lt_succ few)
      (List.forall_mem_cons.mpr ⟨off, others⟩) broken
    rwa [List.flatMap_cons, List.append_assoc] at cut

namespace Query

variable {polling : PollLimit}

/-- A wait for a device that is ready takes one status read. -/
theorem trades_pollReady_ready (follows : polling.Follows 0) :
    (pollReady polling).Trades fun result said => AllReady said → match result with
      | .ok shown => said = [.status shown]
      | .error e => said = [⟨statusFrame, .error e⟩] := by
  have polled (giveUp : Query Status) (polls : Nat) :
      (awaitReady giveUp (polls + 1)).Trades fun result said => AllReady said → match result with
        | .ok shown => said = [.status shown]
        | .error e => said = [⟨statusFrame, .error e⟩] := by
    refine trades_readStatus.bind ?_ ?_
    · rintro e _ rfl _
      rfl
    · rintro shown _ rfl
      split
      · exact trades_pure fun _ => rfl
      · next unready => exact fun _ _ _ _ ready => absurd (ready shown (.head _)) unready
  cases polling with
  | atMost limit =>
    obtain ⟨polls, most⟩ : ∃ polls, max 1 limit = polls + 1 := ⟨max 1 limit - 1, by omega⟩
    rw [pollReady, most]
    exact polled _ polls
  | unbounded horizon =>
    obtain ⟨polls, rfl⟩ := Nat.exists_eq_succ_of_ne_zero (Nat.ne_of_gt (follows horizon rfl))
    exact polled _ polls

/-- A request, up to the end of the wait for it. -/
theorem trades_setFeatures_ecc (follows : polling.Follows 0) :
    (setFeatures arrayModeFeature [eccMode, 0, 0, 0] polling).Trades fun result said =>
      AllReady said → match result with
        | .ok shown => said = [.sent eccFrame, .status shown]
        | .error e => EccRound.Cut e said := by
  refine (trades_execute (by decide)).bind ?_ ?_
  · rintro e _ ⟨rfl, -⟩ _
    exact .request
  · rintro bytes _ ⟨rfl, silent⟩
    obtain rfl := List.eq_nil_of_length_eq_zero (silent bytes rfl)
    refine (trades_pollReady_ready follows).mono fun result later waited ready => ?_
    have waited := waited (allReady_append.mp ready).2
    cases result with
    | ok shown => exact congrArg _ waited
    | error e => exact waited ▸ .status

theorem trades_readIdentifier :
    (readId jedecAddress jedecLength).Trades fun result said =>
      said = [⟨identifierFrame, result⟩] :=
  (trades_execute (by decide)).mono fun _ _ answered => answered.1

/-- By induction on the attempts left: each is a round before those that the identifier it reads
leads to. -/
theorem trades_requestEcc (follows : polling.Follows 0) (attempts : Nat) (id : List UInt8) :
    (requestEcc polling attempts id).Trades fun result said =>
      AllReady said → Negotiation attempts id result said := by
  induction attempts generalizing id with
  | zero =>
    rw [requestEcc]
    split
    · next on => exact trades_pure fun _ => .reported on
    · next off => exact trades_note_bind (trades_pure fun _ => .spent (Bool.eq_false_iff.mpr off))
  | succ attempts ih =>
    rw [requestEcc]
    split
    · next on => exact trades_pure fun _ => .reported on
    · next off =>
      replace off : reportsEcc id = false := Bool.eq_false_iff.mpr off
      have lost {e : Error} {cut : List Exchange} (broken : EccRound.Cut e cut) :
          Negotiation (attempts + 1) id (.error e) cut :=
        .lost [] (Nat.succ_pos _) (List.forall_mem_singleton.mpr off) broken
      refine (trades_setFeatures_ecc follows).bind (fun e said cut ready => lost (cut ready)) ?_
      intro shown said requested
      refine trades_readIdentifier.bind ?_ ?_
      · rintro e _ rfl ready
        rw [requested (allReady_append.mp ready).1]
        exact lost (.identifier shown)
      · rintro next _ rfl
        refine (ih next).mono fun result later negotiated ready => ?_
        obtain ⟨first, rest⟩ := allReady_append.mp ready
        rw [requested first]
        exact .cons ⟨shown, next⟩ off (negotiated (allReady_append.mp rest).2)

end Query

/-- The negotiation, if no exchange fails: `later` are the identifiers after the requests. -/
def EccSettled (result : Except Error (List UInt8 × Bool)) (said : List Exchange) : Prop :=
  ∃ first later, answersTo identifierFrame said = first :: later ∧
    said.map Exchange.frame = EccRound.frames later.length ∧
    if isEccPart first then
      let last := later.getLastD first
      EccRequested eccAttempts first later ∧ result = .ok (last, reportsEcc last)
    else
      later = [] ∧ result = .ok (first, false)

/-- The negotiation, if an exchange fails: it is the last one, and up to then all is as if it had
not. -/
def EccLost (result : Except Error (List UInt8 × Bool)) (said : List Exchange) : Prop :=
  ∃ before frame e, said = before ++ [⟨frame, .error e⟩] ∧ AllAnswered before ∧
    result = .error e ∧ said.map Exchange.frame <+: EccRound.frames eccAttempts ∧
    (∀ first ∈ (answersTo identifierFrame said).head?, isEccPart first = true) ∧
    ∀ id ∈ answersTo identifierFrame said, reportsEcc id = false

theorem Negotiation.ends {first : List UInt8} {result : Except Error (List UInt8 × Bool)}
    {said : List Exchange} (listed : isEccPart first = true)
    (negotiated : Negotiation eccAttempts first result said) :
    AllAnswered (.identified first :: said) ∧ EccSettled result (.identified first :: said) ∨
      EccLost result (.identified first :: said) := by
  cases negotiated with
  | settled rounds requested isLast =>
    have all : AllAnswered ([.identified first] ++ rounds.flatMap EccRound.exchanges) :=
      allAnswered_append.mpr ⟨allAnswered_identified first, EccRound.allAnswered_flatMap rounds⟩
    refine .inl ⟨all, first, rounds.map EccRound.id, ?_, ?_, ?_⟩
    · exact congrArg (first :: ·) (EccRound.answersTo_flatMap rounds)
    · rw [List.map_cons, EccRound.map_frame_flatMap, List.length_map]
      rfl
    · rw [if_pos listed]
      exact ⟨requested, isLast ▸ rfl⟩
  | @lost rounds e cut few off broken =>
    obtain ⟨before, frame, rfl, passed, unread, begun⟩ := broken.exists_eq
    have ids : answersTo identifierFrame (.identified first ::
        (rounds.flatMap EccRound.exchanges ++ (before ++ [⟨frame, .error e⟩])))
          = first :: rounds.map EccRound.id := by
      show first :: answersTo identifierFrame _ = _
      rw [answersTo_append, EccRound.answersTo_flatMap, unread, List.append_nil]
    refine .inr ⟨.identified first :: (rounds.flatMap EccRound.exchanges ++ before), frame, e,
      ?_, ?_, rfl, ?_, ?_, ?_⟩
    · simp only [List.cons_append, List.append_assoc]
    · have earlier := allAnswered_append.mpr ⟨EccRound.allAnswered_flatMap rounds, passed⟩
      exact allAnswered_append.mpr ⟨allAnswered_identified first, earlier⟩
    · have more := EccRound.frames_prefix (Nat.succ_le_of_lt few)
      refine .trans ?_ more
      rw [EccRound.frames_succ, List.map_cons, List.map_append, EccRound.map_frame_flatMap]
      exact (List.prefix_append_right_inj (EccRound.frames rounds.length)).mpr begun
    · rw [ids]
      rintro _ ⟨⟩
      exact listed
    · rw [ids]
      exact off

namespace Query

variable {polling : PollLimit}

/-- Over any link on which no status read finds the device busy: ECC is requested just as often as
the identifiers ask for, never of a part that is not listed, and the last identifier is what comes
of it; or an exchange fails, and then it is the last one and its failure is what comes of it. -/
theorem enableEcc_negotiates {σ : Type} [Link σ] [LawfulLink σ] (link : σ)
    (follows : polling.Follows 0) :
    (enableEcc polling).Ensures link fun result _ transcript =>
      let said := Dialogue.exchanges transcript
      AllReady said → AllAnswered said ∧ EccSettled result said ∨ EccLost result said := by
  refine (?_ : (enableEcc polling).Trades fun result said =>
    AllReady said → AllAnswered said ∧ EccSettled result said ∨ EccLost result said) σ link
  refine trades_readIdentifier.bind ?_ ?_
  · rintro e _ rfl _
    exact .inr ⟨[], identifierFrame, e, rfl, nofun, rfl, ⟨_, rfl⟩, nofun, nofun⟩
  · rintro first _ rfl
    split
    · next listed =>
      have requests := trades_requestEcc follows eccAttempts first
      refine requests.mono fun result later negotiated ready => ?_
      exact (negotiated (allReady_append.mp ready).2).ends listed
    · next unlisted =>
      refine trades_pure fun _ => .inl ⟨allAnswered_identified first, first, [], rfl, rfl, ?_⟩
      rw [if_neg unlisted]
      exact ⟨rfl, rfl⟩

/-- One request is enough on a chip that can switch its ECC. -/
theorem enableEcc_negotiates_once :
    let outcome := (enableEcc (.atMost 1)).run.run (Chip.ofConfig {})
    let said := Dialogue.exchanges outcome.transcript
    (PollLimit.atMost 1).Follows 0 ∧ AllReady said ∧
    said = [.identified [0x2C, 0xDA, 0x90, 0x95, 0x06], .sent eccFrame, .status ⟨0xC0⟩,
      .identified [0x2C, 0xDA, 0x90, 0x95, 0x86]] ∧
    (AllAnswered said ∧ EccSettled outcome.value said ∨ EccLost outcome.value said) := by
  intro outcome said
  have follows : (PollLimit.atMost 1).Follows 0 := fun _ => nofun
  have exchanged : said = [.identified [0x2C, 0xDA, 0x90, 0x95, 0x06], .sent eccFrame,
      .status ⟨0xC0⟩, .identified [0x2C, 0xDA, 0x90, 0x95, 0x86]] := rfl
  have ready : AllReady said := by
    intro shown among
    have otherwise : statusFrame ≠ identifierFrame ∧ statusFrame ≠ eccFrame := by decide
    have shows : shown.bits = 0xC0 := by
      rw [exchanged] at among
      simpa [Exchange.status, identified, sent, otherwise] using among
    rw [Status.isReady, Status.has, shows]
    rfl
  exact ⟨follows, ready, exchanged, enableEcc_negotiates (Chip.ofConfig {}) follows ready⟩

end Query
end OnfiFlash
