import OnfiFlash.Proofs.Unaddressed

/-! What the array alone decides. Where no load misbehaves, it does not show in what an operation
comes to whether the session keeps a table of bad blocks, nor in which state the command interface
was left: the result, the progress reported and the array afterwards can be told beforehand. -/
namespace OnfiFlash

instance (g : Geometry) : Decidable g.Unaddressed := inferInstanceAs (Decidable (_ = _))

/-- A chip that serves a session and holds this array, which is read as it is: no load is faulty,
and on a device that cannot be addressed none finds a page latched. -/
structure Legible (base : Session) (flash : Flash) (session : Session) (chip : Chip) : Prop where
  serving : Serving base session chip
  flash : chip.flash = flash
  loads : ¬ base.geometry.Unaddressed → ∀ page, page < base.geometry.totalPages →
    chip.loadFaults page = none
  unlatched : base.geometry.Unaddressed → chip.latched = none

namespace Legible

variable {base session : Session} {flash : Flash} {chip : Chip}

theorem blind (legible : Legible base flash session chip)
    (unaddressed : base.geometry.Unaddressed) : Blind base flash session chip :=
  ⟨legible.serving, legible.flash, legible.unlatched unaddressed⟩

theorem of_blind (blind : Blind base flash session chip)
    (unaddressed : base.geometry.Unaddressed) : Legible base flash session chip :=
  ⟨blind.serving, blind.flash, fun addressed => absurd unaddressed addressed,
    fun _ => blind.unlatched⟩

end Legible

namespace Operation

variable {α β : Type} {base : Session} {table : BadBlockTable} {flash : Flash} {page : Nat}

theorem Effects.and {operation : Operation α} {d : Device}
    {first second : Except Error α → Device → List Progress → Prop}
    (effects : operation.Effects base d first) (others : operation.Effects base d second) :
    operation.Effects base d fun result after said =>
      first result after said ∧ second result after said :=
  fun session chip serving same => ⟨(effects session chip serving same).1,
    (effects session chip serving same).2, (others session chip serving same).2⟩

/-- Whether a session like `base` keeps the table or none, and in whatever state the command
interface is, the operation comes to one result, one array and one progress, which are as stated. -/
def Foreseen (base : Session) (table : BadBlockTable) (operation : Operation α) (flash : Flash)
    (post : Except Error α → Flash → List Progress → Prop) : Prop :=
  ∃ result last said, post result last said ∧
    ∀ badBlocks, badBlocks = none ∨ badBlocks = some table → ∀ session chip,
      Legible { base with badBlocks } flash session chip →
      operation.Leads session chip fun ended left after steps =>
        ended = result ∧ steps = said ∧ Legible { base with badBlocks } last left after

section Rules

variable {operation : Operation α} {post : Except Error α → Flash → List Progress → Prop}

theorem Foreseen.mono {strong : Except Error α → Flash → List Progress → Prop}
    (foreseen : operation.Foreseen base table flash strong)
    (weaker : ∀ result last said, strong result last said → post result last said) :
    operation.Foreseen base table flash post := by
  obtain ⟨result, last, said, reached, comes⟩ := foreseen
  exact ⟨result, last, said, weaker _ _ _ reached, comes⟩

theorem foreseen_pure {value : α} (reached : post (.ok value) flash []) :
    (pure value : Operation α).Foreseen base table flash post :=
  ⟨_, flash, [], reached, fun _ _ _ _ legible => ⟨rfl, rfl, legible⟩⟩

theorem foreseen_throw {e : Error} (reached : post (.error e) flash []) :
    (throw e : Operation α).Foreseen base table flash post :=
  ⟨_, flash, [], reached, fun _ _ _ _ legible => ⟨rfl, rfl, legible⟩⟩

theorem foreseen_throw_bind {e : Error} {next : β → Operation α}
    (reached : post (.error e) flash []) :
    (throw e >>= next).Foreseen base table flash post :=
  ⟨_, flash, [], reached, fun _ _ _ _ legible => ⟨rfl, rfl, legible⟩⟩

theorem foreseen_require (checked : Except Error α) :
    (require checked).Foreseen base table flash fun result last said =>
      result = checked ∧ last = flash ∧ said = [] := by
  cases checked with
  | ok value => exact foreseen_pure ⟨rfl, rfl, rfl⟩
  | error e => exact foreseen_throw ⟨rfl, rfl, rfl⟩

/-- An operation that goes on from the result of a first one as `goOn` does. -/
theorem Foreseen.followed {first : Operation β}
    {mid : Except Error β → Flash → List Progress → Prop}
    (begun : first.Foreseen base table flash mid) (goOn : Except Error β → Operation α)
    (follows : ∀ (session : Session) (chip : Chip)
      (ends : Except Error α → Session → Chip → List Progress → Prop),
      (first.Leads session chip fun result left after said =>
        (goOn result).Leads left after fun result left after later =>
          ends result left after (said ++ later)) → operation.Leads session chip ends)
    (goes : ∀ result between said, mid result between said →
      (goOn result).Foreseen base table between fun result last later =>
        post result last (said ++ later)) :
    operation.Foreseen base table flash post := by
  obtain ⟨reached, between, said, shown, comes⟩ := begun
  obtain ⟨result, last, later, ended, continues⟩ := goes reached between said shown
  refine ⟨result, last, said ++ later, ended, fun badBlocks known session chip legible => ?_⟩
  apply follows
  apply (comes badBlocks known session chip legible).mono
  rintro _ left after _ ⟨rfl, rfl, stays⟩
  apply (continues badBlocks known left after stays).mono
  rintro _ _ _ _ ⟨rfl, rfl, staysAfter⟩
  exact ⟨rfl, rfl, staysAfter⟩

theorem Foreseen.bind {first : Operation β} {next : β → Operation α}
    {mid : Except Error β → Flash → List Progress → Prop}
    (begun : first.Foreseen base table flash mid)
    (failed : ∀ e last said, mid (.error e) last said → post (.error e) last said)
    (passed : ∀ value between said, mid (.ok value) between said →
      (next value).Foreseen base table between fun result last later =>
        post result last (said ++ later)) :
    (first >>= next).Foreseen base table flash post := by
  refine begun.followed (fun result => require result >>= next) ?_ ?_
  · intro session chip ends goesOn
    apply leads_bind.mpr
    apply goesOn.mono
    intro result left after said ended
    cases result with
    | error e =>
      have here : ends (.error e) left after (said ++ []) := ended
      rwa [List.append_nil] at here
    | ok value => exact ended
  · intro result between said reached
    cases result with
    | error e => exact foreseen_throw_bind (said.append_nil.symm ▸ failed e between said reached)
    | ok value => exact passed value between said reached

theorem Foreseen.tryCatch {handler : Error → Operation α}
    {mid : Except Error α → Flash → List Progress → Prop}
    (begun : operation.Foreseen base table flash mid)
    (passed : ∀ value last said, mid (.ok value) last said → post (.ok value) last said)
    (caught : ∀ e between said, mid (.error e) between said →
      (handler e).Foreseen base table between fun result last later =>
        post result last (said ++ later)) :
    (tryCatch operation handler).Foreseen base table flash post := by
  refine begun.followed (fun result => MonadExcept.tryCatch (require result) handler) ?_ ?_
  · intro session chip ends goesOn
    apply leads_tryCatch.mpr
    apply goesOn.mono
    intro result left after said ended
    cases result with
    | error e => exact ended
    | ok value =>
      have here : ends (.ok value) left after (said ++ []) := ended
      rwa [List.append_nil] at here
  · intro result between said reached
    cases result with
    | error e => exact caught e between said reached
    | ok value => exact foreseen_pure (said.append_nil.symm ▸ passed value between said reached)

theorem Foreseen.map {change : α → β} {post : Except Error β → Flash → List Progress → Prop}
    (foreseen : operation.Foreseen base table flash fun result last said =>
      post (result.map change) last said) :
    (change <$> operation).Foreseen base table flash post :=
  Foreseen.bind foreseen (fun _ _ _ reached => reached) fun _ _ said reached =>
    foreseen_pure (said.append_nil.symm ▸ reached)

theorem foreseen_note_bind {notice : Notice} {next : Unit → Operation α}
    (foreseen : (next ()).Foreseen base table flash post) :
    (note notice >>= next).Foreseen base table flash post := by
  obtain ⟨result, last, said, reached, comes⟩ := foreseen
  refine ⟨result, last, said, reached, fun badBlocks known session chip legible => ?_⟩
  exact leads_note_bind.mpr (comes badBlocks known session chip legible)

theorem foreseen_progress_bind {step : Progress} {next : Unit → Operation α}
    (foreseen : (next ()).Foreseen base table flash fun result last said =>
      post result last (step :: said)) :
    (progress step >>= next).Foreseen base table flash post := by
  have reported : (progress step).Foreseen base table flash fun result last said =>
      result = .ok () ∧ last = flash ∧ said = [step] :=
    ⟨_, flash, _, ⟨rfl, rfl, rfl⟩, fun _ _ _ _ legible => ⟨rfl, rfl, legible⟩⟩
  apply reported.bind
  · rintro _ _ _ ⟨⟨⟩, -, -⟩
  · rintro _ _ _ ⟨-, rfl, rfl⟩
    exact foreseen

/-- The operation only reads, and this is what it yields. -/
def Shows (base : Session) (table : BadBlockTable) (operation : Operation α) (flash : Flash)
    (value : α) : Prop :=
  operation.Foreseen base table flash fun result last said =>
    result = .ok value ∧ last = flash ∧ said = []

theorem shows_pure (value : α) : (pure value : Operation α).Shows base table flash value :=
  foreseen_pure ⟨rfl, rfl, rfl⟩

theorem Shows.bind {first : Operation β} {next : β → Operation α} {value : β}
    (shown : first.Shows base table flash value)
    (continued : (next value).Foreseen base table flash post) :
    (first >>= next).Foreseen base table flash post := by
  apply Foreseen.bind shown
  · rintro _ _ _ ⟨⟨⟩, -, -⟩
  · rintro _ _ _ ⟨⟨⟩, rfl, rfl⟩
    exact continued

/-- What follows may depend on the geometry and the settings, but not on the rest of the session. -/
theorem foreseen_get_bind {next : Session → Operation α}
    (same : ∀ session, session.geometry = base.geometry → session.config = base.config →
      next session = next base)
    (foreseen : (next base).Foreseen base table flash post) :
    (get >>= next).Foreseen base table flash post := by
  obtain ⟨result, last, said, reached, comes⟩ := foreseen
  refine ⟨result, last, said, reached, fun badBlocks known session chip legible => ?_⟩
  rw [leads_get_bind, same session legible.serving.geometry legible.serving.config]
  exact comes badBlocks known session chip legible

theorem foreseen_geometry_bind {next : Geometry → Operation α}
    (foreseen : (next base.geometry).Foreseen base table flash post) :
    (geometry >>= next).Foreseen base table flash post := by
  show (get >>= fun session => next session.geometry).Foreseen base table flash post
  exact foreseen_get_bind (fun _ same _ => congrArg next same) foreseen

/-- Steps of which it is known what they do to a device, with or without a table. -/
theorem Foreseen.of_effects (result : Except Error α) (said : List Progress) {last : Flash}
    (reached : post result last said)
    (free : base.geometry.Unaddressed → operation.Unlatching)
    (effects : ∀ badBlocks (d : Device), d.flash = flash →
      (¬ base.geometry.Unaddressed → ∀ page, page < base.geometry.totalPages →
        d.loadFaults page = none) →
      operation.Effects { base with badBlocks } d fun ended after steps =>
        ended = result ∧ after.flash = last ∧ steps = said ∧ after.loadFaults = d.loadFaults) :
    operation.Foreseen base table flash post := by
  refine ⟨result, last, said, reached, fun badBlocks _ session chip legible => ?_⟩
  obtain ⟨serving, ended, same, steps, faults⟩ := effects badBlocks (session.device chip)
    legible.flash legible.loads session chip legible.serving rfl
  refine ⟨ended, steps, serving, same, fun addressed page inRange => ?_, fun unaddressed => ?_⟩
  · exact (congrFun faults page).trans (legible.loads addressed page inRange)
  · have clear := legible.serving.sound.clear
    exact (free unaddressed session chip clear (legible.unlatched unaddressed)).2

/-- A device none of whose loads is faulty. -/
theorem Foreseen.of_reads (result : Except Error α) (addressed : ¬ base.geometry.Unaddressed)
    (reads : ∀ badBlocks, operation.Reads { base with badBlocks })
    (shown : ∀ badBlocks (d : Device), d.flash = flash →
      (∀ page, page < base.geometry.totalPages → d.loadFaults page = none) →
      operation.Effects { base with badBlocks } d fun ended after _ =>
        ended = result ∧ after.loadFaults = d.loadFaults) :
    operation.Foreseen base table flash fun ended last said =>
      ended = result ∧ last = flash ∧ said = [] := by
  apply Foreseen.of_effects result [] ⟨rfl, rfl, rfl⟩
    fun unaddressed => absurd unaddressed addressed
  rintro badBlocks d rfl loads
  apply ((shown badBlocks d rfl (loads addressed)).and (reads badBlocks d)).mono
  rintro ended after steps ⟨⟨same, faults⟩, kept, quiet⟩
  exact ⟨same, kept, quiet, faults⟩

end Rules

section Steps

theorem requireWritable_foreseen :
    requireWritable.Foreseen base table flash fun _ last _ => last = flash := by
  apply Foreseen.of_effects
    (if flash.config.writeProtected then .error .writeProtected else .ok ()) [] rfl
  · exact fun _ => unlatching_readStatus.bind fun status => by
      split
      · exact (unlatching_closed.note _).bind fun _ => unlatching_throw _
      · exact unlatching_closed.pure _
  · rintro badBlocks d rfl _
    apply effects_bind
    apply Effects.readStatus
    intro status enabled
    dsimp only
    rw [enabled, Bool.not_not]
    cases d.flash.config.writeProtected with
    | true => exact effects_note_bind (effects_throw ⟨rfl, rfl, rfl, rfl⟩)
    | false => exact effects_pure ⟨rfl, rfl, rfl, rfl⟩

/-- Where no page is latched and none can be addressed, no page loads. -/
theorem loadPage_foreseen (unaddressed : base.geometry.Unaddressed)
    (inRange : page < base.geometry.totalPages)
    (settles : flash.config.busyPolls < base.config.polling.polls) :
    (loadPage page).Foreseen base table flash fun result last said =>
      result = .error (.read page) ∧ last = flash ∧ said = [] := by
  refine ⟨_, _, _, ⟨rfl, rfl, rfl⟩, fun badBlocks _ session chip legible => ?_⟩
  have blind := legible.blind unaddressed
  obtain ⟨-, -, quiet⟩ := reads_reading.loadPage page _ session chip legible.serving rfl
  obtain ⟨blindAfter, ended⟩ := loadPage_unaddressed (by exact unaddressed) (by exact inRange)
    legible.serving
  have inTime : chip.config.busyPolls < base.config.polling.polls := by
    rw [show chip.config = flash.config from congrArg Flash.config legible.flash]
    exact settles
  rw [Chip.stray?, blind.unlatched, if_pos inTime] at ended
  rw [legible.flash] at blindAfter
  exact ⟨ended, quiet, .of_blind blindAfter unaddressed⟩

theorem tryLoad_shows {handler : Error → Operation (Option Status)} {unread : Option Status}
    (unaddressed : base.geometry.Unaddressed) (inRange : page < base.geometry.totalPages)
    (settles : flash.config.busyPolls < base.config.polling.polls) {notice : Notice}
    (handles : handler (.read page) = note notice >>= fun _ => pure unread) :
    (tryCatch (some <$> loadPage page) handler).Shows base table flash unread := by
  have begun : (some <$> loadPage page).Foreseen base table flash fun result last said =>
      result = .error (.read page) ∧ last = flash ∧ said = [] := by
    apply (loadPage_foreseen unaddressed inRange settles).bind
    · rintro _ _ _ ⟨⟨⟩, same, quiet⟩
      exact ⟨rfl, same, quiet⟩
    · rintro _ _ _ ⟨⟨⟩, -, -⟩
  refine Foreseen.tryCatch begun ?_ ?_
  · rintro _ _ _ ⟨⟨⟩, -, -⟩
  · rintro _ _ _ ⟨⟨⟩, rfl, rfl⟩
    rw [handles]
    exact foreseen_note_bind (shows_pure unread)

/-- Of the final statuses of the two commands only the errors count. -/
theorem tryPage_eq (page : Nat) (data : List UInt8) :
    tryPage page data = tryCatch (((fun _ => ()) <$> programPage page data) >>= fun _ =>
      (fun _ => none) <$> ((fun _ => ()) <$> verifyPage page data)) fun e =>
        if e.isRetryable then return some e else throw e := by
  simp only [tryPage, programVerified_eq, map_bind, bind_map_left, Functor.map_map]

variable (valid : base.geometry.Valid) (covers : base.geometry.RowsCover)
include valid covers

theorem reaches_of_addressed (addressed : ¬ base.geometry.Unaddressed) : base.geometry.Reaches :=
  ⟨valid, covers, Nat.pos_of_ne_zero addressed⟩

theorem readMainArea_foreseen (inRange : page < base.geometry.totalPages)
    (settles : flash.config.busyPolls < base.config.polling.polls) :
    (readMainArea page).Foreseen base table flash fun result last _ =>
      last = flash ∧ ∀ old, result = .ok old → old.length ≤ base.geometry.bytesPerPage := by
  by_cases unaddressed : base.geometry.Unaddressed
  · apply foreseen_geometry_bind
    apply (tryLoad_shows unaddressed inRange settles rfl).bind
    apply foreseen_pure
    refine ⟨rfl, ?_⟩
    rintro _ ⟨⟩
    exact Nat.le_of_eq List.length_replicate
  · have reaches := reaches_of_addressed valid covers unaddressed
    have shown : (readMainArea page).Shows base table flash
        ((flash.cells page).take base.geometry.bytesPerPage) := by
      apply Foreseen.of_reads _ unaddressed fun _ => reads_reading.readMainArea page
      rintro badBlocks d rfl loads
      have quiet := loads page inRange
      refine Effects.mono (readMainArea_settled reaches inRange settles) ?_
      rintro _ after _ ⟨_, rfl, rfl, same⟩
      rw [same, Device.mainArea, Device.fault?_eq_none quiet, Device.contents_of_quiet quiet,
        Device.afterLoad_of_quiet quiet]
      exact ⟨rfl, rfl⟩
    apply Foreseen.mono shown
    rintro _ _ _ ⟨rfl, rfl, -⟩
    refine ⟨rfl, ?_⟩
    rintro _ ⟨⟩
    exact List.length_take_le _ _

variable {data : List UInt8}

theorem programPage_foreseen (inRange : page < base.geometry.totalPages)
    (fits : data.length ≤ base.geometry.rawPageSize) :
    ((fun _ => ()) <$> programPage page data).Foreseen base table flash fun _ last _ =>
      flash.Programs page data last := by
  have stored : flash.Programs page data
      (if flash.config.writeProtected then flash else flash.program ⟨0, page, data⟩) := by
    split
    · exact .of_same rfl
    · exact Flash.programs_program
  apply Foreseen.of_effects (programOutline flash base.config.polling page) [] stored
  · exact fun _ => unlatching_closed.map (unlatching_programPage page data)
  · rintro badBlocks d rfl _
    apply Effects.map
    refine Effects.mono (programPage_outline (by exact valid) (by exact covers) (by exact inRange)
      (by exact fits) d) ?_
    rintro result after said ⟨outline, same, faults, quiet⟩
    exact ⟨outline, same, quiet, faults⟩

theorem verifyPage_foreseen (inRange : page < base.geometry.totalPages)
    (fits : data.length ≤ base.geometry.rawPageSize)
    (settles : flash.config.busyPolls < base.config.polling.polls) :
    ((fun _ => ()) <$> verifyPage page data).Foreseen base table flash fun _ last _ =>
      last = flash := by
  by_cases unaddressed : base.geometry.Unaddressed
  · apply Foreseen.map
    apply (loadPage_foreseen unaddressed inRange settles).bind
    · rintro _ _ _ ⟨⟨⟩, same, -⟩
      exact same
    · rintro _ _ _ ⟨⟨⟩, -, -⟩
  · have reaches := reaches_of_addressed valid covers unaddressed
    have short : data.length ≤ maxReadLength := Nat.le_trans fits valid.dimensions.rawPageSize
    let complaint := (firstDifference ((flash.cells page).take data.length) data).map
      (Error.verifyMismatch page)
    have checked : ((fun _ => ()) <$> verifyPage page data).Foreseen base table flash
        fun result last said =>
          result = (complaint.elim (.ok ()) .error) ∧ last = flash ∧ said = [] := by
      apply Foreseen.of_reads _ unaddressed fun _ =>
        reads_closed.map (reads_reading.verifyPage page short)
      rintro badBlocks d rfl loads
      have quiet := loads page inRange
      have shown : d.complaint? page data = complaint := by
        rw [Device.complaint?_of_loaded, Device.contents_of_quiet quiet]
        all_goals rw [Device.fault?_eq_none quiet]; nofun
      apply Effects.map
      refine Effects.mono (verifyPage_checks reaches inRange fits settles) ?_
      rintro result after _ ⟨same, ended⟩
      rw [Device.afterLoad_of_quiet quiet] at same
      rw [shown] at ended
      refine ⟨?_, by rw [same]⟩
      cases found : complaint with
      | some e =>
        rw [found] at ended
        subst ended
        rfl
      | none =>
        rw [found] at ended
        obtain ⟨status, rfl⟩ := ended
        rfl
    apply checked.mono
    rintro _ _ _ ⟨-, same, -⟩
    exact same

theorem tryPage_foreseen (inRange : page < base.geometry.totalPages)
    (fits : data.length ≤ base.geometry.rawPageSize)
    (settles : flash.config.busyPolls < base.config.polling.polls) :
    (tryPage page data).Foreseen base table flash fun _ last _ =>
      flash.Programs page data last := by
  rw [tryPage_eq]
  have once : (((fun _ => ()) <$> programPage page data) >>= fun _ =>
      (fun _ => (none : Option Error)) <$> ((fun _ => ()) <$> verifyPage page data)).Foreseen base
        table flash fun _ last _ => flash.Programs page data last := by
    apply (programPage_foreseen valid covers inRange fits).bind
    · exact fun _ _ _ programs => programs
    · intro _ between _ programs
      have inTime : between.config.busyPolls < base.config.polling.polls :=
        programs.layout.busyPolls_lt settles
      apply Foreseen.map
      apply (verifyPage_foreseen valid covers inRange fits inTime).mono
      rintro _ _ _ rfl
      exact programs
  apply once.tryCatch
  · exact fun _ _ _ programs => programs
  · intro e _ _ programs
    split
    · exact foreseen_pure programs
    · exact foreseen_throw programs

theorem eraseBlock_reports {block : Nat} (onDevice : block < base.geometry.totalBlocks)
    (settles : flash.config.busyPolls < base.config.polling.polls) :
    (Status.isError <$> eraseBlock block).Foreseen base table flash fun result last said =>
      result = .ok (flash.refuses block) ∧ last = flash.erase block ∧ said = [] := by
  apply Foreseen.of_effects (.ok (flash.refuses block)) [] ⟨rfl, rfl, rfl⟩
  · exact fun _ => unlatching_closed.map (unlatching_eraseBlock block)
  · rintro badBlocks d rfl _
    apply Effects.map
    refine Effects.eraseBlock valid covers onDevice ?_ ?_
    · exact fun late => absurd settles late
    · intro _ status reports
      exact ⟨congrArg Except.ok reports, rfl, rfl, rfl⟩

/-- What follows an erase may depend on its final status, but only on whether it failed. -/
theorem eraseBlock_foreseen {α : Type} {next : Status → Operation α}
    {post : Except Error α → Flash → List Progress → Prop} {block : Nat}
    (onDevice : block < base.geometry.totalBlocks)
    (settles : flash.config.busyPolls < base.config.polling.polls)
    (alike : ∀ status other : Status, status.isError = other.isError → next status = next other)
    (continued : ∀ status : Status, status.isError = flash.refuses block →
      (next status).Foreseen base table (flash.erase block) post) :
    (eraseBlock block >>= next).Foreseen base table flash post := by
  let reporting (failed : Bool) : Status := ⟨if failed then 1 else 0⟩
  have reports : ∀ failed, (reporting failed).isError = failed := by decide
  have outlined : eraseBlock block >>= next
      = (Status.isError <$> eraseBlock block) >>= fun failed => next (reporting failed) := by
    rw [bind_map_left]
    exact congrArg _ (funext fun status => alike _ _ (reports _).symm)
  rw [outlined]
  apply (eraseBlock_reports valid covers onDevice settles).bind
  · rintro _ _ _ ⟨⟨⟩, -, -⟩
  · rintro _ _ _ ⟨⟨⟩, rfl, rfl⟩
    exact continued _ (reports _)

end Steps

end Operation
end OnfiFlash
