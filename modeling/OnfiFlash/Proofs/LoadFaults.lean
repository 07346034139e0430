import OnfiFlash.Proofs.PageWriting
import OnfiFlash.Proofs.ReadBack

/-! What an injected fault does to the steps of a session that load a page. A marker and the main
area of a page are read around it; a page just programmed is checked against what the fault lets
through. -/
namespace OnfiFlash

theorem Chip.length_flipFirstBit (bytes : List UInt8) :
    (flipFirstBit bytes).length = bytes.length := by
  cases bytes <;> rfl

/-- Inverting the first byte does not show behind it. -/
theorem Chip.drop_flipFirstBit (bytes : List UInt8) {count : Nat} (some : 0 < count) :
    (flipFirstBit bytes).drop count = bytes.drop count := by
  obtain ⟨fewer, rfl⟩ : ∃ fewer, count = fewer + 1 :=
    Nat.exists_eq_succ_of_ne_zero (Nat.ne_of_gt some)
  cases bytes <;> rfl

namespace Device

variable {d : Device} {page : Nat}

theorem length_contents (d : Device) (page : Nat) :
    (d.contents page).length = (d.flash.cells page).length := by
  unfold contents
  split
  · exact Chip.length_flipFirstBit _
  · rfl

theorem drop_contents (d : Device) (page : Nat) {count : Nat} (some : 0 < count) :
    (d.contents page).drop count = (d.flash.cells page).drop count := by
  unfold contents
  split
  · exact Chip.drop_flipFirstBit _ some
  · rfl

theorem fault?_eq_none (quiet : d.loadFaults page = none) : d.fault? page = none := by
  rw [fault?, quiet]
  rfl

theorem contents_of_quiet (quiet : d.loadFaults page = none) :
    d.contents page = d.flash.cells page := by
  rw [contents, fault?_eq_none quiet]
  rfl

theorem afterLoad_of_quiet (quiet : d.loadFaults page = none) :
    d.afterLoad page = { d with loaded := none } := by
  rw [afterLoad, quiet]

/-- The bad-block marker of a page as a scan reads it: a page that fails to load has none, one
without spare area reads as erased there. -/
def marker? (d : Device) (g : Geometry) (page : Nat) : Option UInt8 :=
  if d.fault? page = some .readError then none
  else some (((d.flash.cells page).drop g.bytesPerPage).headD erasedByte)

/-- The main area of a page as an image write reads it: a page that fails to load counts as
erased. -/
def mainArea (d : Device) (g : Geometry) (page : Nat) : List UInt8 :=
  if d.fault? page = some .readError then List.replicate g.bytesPerPage erasedByte
  else (d.contents page).take g.bytesPerPage

theorem length_mainArea {g : Geometry} (describes : g.Describes d.flash.config)
    (sized : d.flash.Sized) : (d.mainArea g page).length = g.bytesPerPage := by
  unfold mainArea
  split
  · exact List.length_replicate
  · rw [List.length_take, length_contents, sized page, describes.rawPageSize]
    exact Nat.min_eq_left (Nat.le_add_right _ _)

/-- What is wrong with a page that should begin with the data, as its next load shows it. -/
def complaint? (d : Device) (page : Nat) (data : List UInt8) : Option Error :=
  match d.fault? page with
  | some .readError => some (.read page)
  | some .refreshAdvised => some (.refreshAdvised page)
  | _ => (Operation.firstDifference ((d.contents page).take data.length) data).map
    (.verifyMismatch page)

variable {data : List UInt8}

theorem complaint?_of_readError (failed : d.fault? page = some .readError) :
    d.complaint? page data = some (.read page) := by
  rw [complaint?, failed]

theorem complaint?_of_refreshAdvised (advised : d.fault? page = some .refreshAdvised) :
    d.complaint? page data = some (.refreshAdvised page) := by
  rw [complaint?, advised]

theorem complaint?_of_loaded (fine : d.fault? page ≠ some .readError)
    (quiet : d.fault? page ≠ some .refreshAdvised) :
    d.complaint? page data = (Operation.firstDifference ((d.contents page).take data.length)
      data).map (.verifyMismatch page) := by
  unfold complaint?
  split
  · next failed => exact absurd failed fine
  · next advised => exact absurd advised quiet
  · rfl

def program (d : Device) (page : Nat) (data : List UInt8) : Device :=
  { d with flash := d.flash.program ⟨0, page, data⟩ }

/-- All that is ever wrong with a page may pass. -/
theorem isRetryable_complaint {e : Error}
    (complaint : d.complaint? page data = some e) : e.isRetryable = true := by
  unfold complaint? at complaint
  split at complaint
  · cases complaint
    rfl
  · cases complaint
    rfl
  · obtain ⟨offset, -, rfl⟩ := Option.map_eq_some_iff.mp complaint
    rfl

end Device

namespace Operation

variable {α : Type} {base : Session} {d : Device} {page : Nat}

/-- Reading from the front of a page just loaded. -/
theorem readFront (valid : base.geometry.Valid) {register : List UInt8} {size : Nat}
    (loaded : d.loaded = some (register, 0)) (fits : size ≤ maxReadLength)
    (enough : size ≤ register.length) :
    (readData 0 (some size)).Succeeds base d fun data after =>
      data = register.take size ∧ after = { d with loaded := some (register, size) } := by
  have asked : (some size).getD (base.geometry.rawPageSize - 0) = size := rfl
  refine .readData valid loaded (Nat.zero_le _) asked fits fun place front => ?_
  rw [if_pos rfl] at front
  subst front
  rw [Nat.zero_add, List.drop_zero, Chip.resized_of_le enough]
  exact ⟨_, rfl, rfl, rfl⟩

/-- A load whose failures go to a handler. -/
theorem effects_tryLoad {handler : Error → Operation (Option Status)}
    {post : Except Error (Option Status) → Device → Prop}
    (reaches : base.geometry.Reaches) (inRange : page < base.geometry.totalPages)
    (unsettled : ¬ d.Settles base.config.polling →
      (handler base.config.polling.giveUp).Effects base (d.afterLoad page)
        fun result after _ => post result after)
    (refused : d.Settles base.config.polling → d.fault? page = some .readError →
      (handler (.read page)).Effects base (d.afterLoad page) fun result after _ => post result after)
    (loaded : d.Settles base.config.polling → d.fault? page ≠ some .readError → ∀ status,
      post (.ok (some status)) { d.afterLoad page with loaded := some (d.contents page, 0) }) :
    (tryCatch (some <$> loadPage page) handler).Effects base d
      fun result after _ => post result after := by
  have begun : (some <$> loadPage page).Effects base d fun result after _ => match result with
      | .ok found => post (.ok found) after
      | .error e => (handler e).Effects base after fun result last _ => post result last := by
    apply Effects.map
    apply Effects.loadPage reaches inRange
    · exact unsettled
    · exact refused
    · intro settles fine status _
      exact loaded settles fine status
  apply Effects.tryCatch begun
  · intro found after _ reached
    exact reached
  · intro e after _ handled
    exact handled

/-- A wait that is given up is not mistaken for a page that fails to load. -/
theorem giveUp_cases (polling : PollLimit) :
    polling.giveUp = .timeout ∨ polling.giveUp = .unsettled := by
  cases polling with
  | atMost _ => exact .inl rfl
  | unbounded _ => exact .inr rfl

/-- Reading the marker of a page. -/
theorem effects_readMarker {post : Except Error (Option UInt8) → Device → Prop}
    (reaches : base.geometry.Reaches) (inRange : page < base.geometry.totalPages)
    (unsettled : ¬ d.Settles base.config.polling →
      post (.error base.config.polling.giveUp) (d.afterLoad page))
    (settled : d.Settles base.config.polling → ∀ loaded,
      post (.ok (d.marker? base.geometry page)) { d.afterLoad page with loaded }) :
    (readMarker page).Effects base d fun result after _ => post result after := by
  apply effects_bind
  refine effects_tryLoad reaches inRange ?_ ?_ ?_
  · intro late
    have raised := unsettled late
    rcases giveUp_cases base.config.polling with same | same <;>
    · rw [same] at raised ⊢
      exact effects_throw raised
  · intro settles failed
    have reached := settled settles none
    rw [Device.marker?, if_pos failed] at reached
    exact effects_note_bind (effects_pure (effects_pure reached))
  · intro settles fine status
    have positive := reaches.valid.dimensions.bytesPerPage
    have asked : (some 1).getD (base.geometry.rawPageSize - base.geometry.bytesPerPage) = 1 := rfl
    have fits : 1 ≤ maxReadLength := by decide
    apply Effects.geometry_bind
    apply effects_bind
    apply Effects.readData reaches.valid rfl (Nat.le_add_right _ _) asked fits
    intro place aside
    rw [if_neg (Nat.ne_of_gt positive)] at aside
    subst aside
    have shown : (Chip.resized 1 0xFF ((d.contents page).drop base.geometry.bytesPerPage)).head?
        = d.marker? base.geometry page := by
      rw [Device.marker?, if_neg fine, d.drop_contents page positive]
      cases (d.flash.cells page).drop base.geometry.bytesPerPage <;> rfl
    apply effects_pure
    rw [shown]
    exact settled settles _

/-- The marker of a page on a device that settles. -/
theorem readMarker_settled (reaches : base.geometry.Reaches)
    (inRange : page < base.geometry.totalPages) (settles : d.Settles base.config.polling) :
    (readMarker page).Succeeds base d fun marker after =>
      marker = d.marker? base.geometry page ∧
        after = { d.afterLoad page with loaded := after.loaded } := by
  refine effects_readMarker reaches inRange ?_ ?_
  · exact fun late => absurd settles late
  · exact fun _ _ => ⟨_, rfl, rfl, rfl⟩

/-- Reading the main area of a page. -/
theorem effects_readMainArea {post : Except Error (List UInt8) → Device → Prop}
    (reaches : base.geometry.Reaches) (inRange : page < base.geometry.totalPages)
    (unsettled : ¬ d.Settles base.config.polling →
      post (.error base.config.polling.giveUp) (d.afterLoad page))
    (settled : d.Settles base.config.polling → ∀ loaded,
      post (.ok (d.mainArea base.geometry page)) { d.afterLoad page with loaded }) :
    (readMainArea page).Effects base d fun result after _ => post result after := by
  apply Effects.of_serving
  intro describes sized
  apply Effects.geometry_bind
  apply effects_bind
  refine effects_tryLoad reaches inRange ?_ ?_ ?_
  · intro late
    have raised := unsettled late
    rcases giveUp_cases base.config.polling with same | same <;>
    · rw [same] at raised ⊢
      exact effects_throw raised
  · intro settles failed
    have reached := settled settles none
    rw [Device.mainArea, if_pos failed] at reached
    exact effects_note_bind (effects_pure (effects_pure reached))
  · intro settles fine status
    have enough : base.geometry.bytesPerPage ≤ (d.contents page).length := by
      rw [d.length_contents, sized page, describes.rawPageSize]
      exact Nat.le_add_right _ _
    have fits : base.geometry.bytesPerPage ≤ maxReadLength :=
      Nat.le_trans (Nat.le_add_right _ _) reaches.valid.dimensions.rawPageSize
    apply (readFront reaches.valid rfl fits enough).mono
    rintro _ _ _ ⟨_, rfl, rfl, rfl⟩
    have reached := settled settles (some (d.contents page, base.geometry.bytesPerPage))
    rw [Device.mainArea, if_neg fine] at reached
    exact reached

/-- The main area of a page on a device that settles. -/
theorem readMainArea_settled (reaches : base.geometry.Reaches)
    (inRange : page < base.geometry.totalPages) (settles : d.Settles base.config.polling) :
    (readMainArea page).Succeeds base d fun old after =>
      old = d.mainArea base.geometry page ∧
        after = { d.afterLoad page with loaded := after.loaded } := by
  refine effects_readMainArea reaches inRange ?_ ?_
  · exact fun late => absurd settles late
  · exact fun _ _ => ⟨_, rfl, rfl, rfl⟩

theorem firstDifference_self (data : List UInt8) : firstDifference data data = none := by
  have same : ∀ place, firstDifference.go data data place = none := by
    induction data with
    | nil => exact fun _ => rfl
    | cons byte rest ih =>
      intro place
      rw [firstDifference.go, if_pos rfl, ih]
  exact same 0

section Verifying

variable {data : List UInt8}

/-- The check of a page comes out as its next load makes it look. -/
theorem verifyPage_checks (reaches : base.geometry.Reaches)
    (inRange : page < base.geometry.totalPages) (fits : data.length ≤ base.geometry.rawPageSize)
    (settles : d.Settles base.config.polling) :
    (verifyPage page data).Effects base d fun result after _ =>
      after = { d.afterLoad page with loaded := after.loaded } ∧
        match d.complaint? page data with
        | some e => result = .error e
        | none => ∃ status, result = .ok status := by
  apply Effects.of_serving
  intro describes sized
  apply effects_bind
  apply Effects.loadPage reaches inRange
  · intro late
    exact absurd settles late
  · intro _ failed
    rw [Device.complaint?_of_readError failed]
    exact ⟨rfl, rfl⟩
  intro _ fine status advised
  by_cases refresh : d.fault? page = some .refreshAdvised
  · rw [refresh] at advised
    dsimp only
    rw [advised, if_pos (beq_self_eq_true _), Device.complaint?_of_refreshAdvised refresh]
    exact effects_throw_bind ⟨rfl, rfl⟩
  · have quiet : ¬ status.isRefreshAdvised = true := by
      rw [advised]
      exact mt beq_iff_eq.mp refresh
    have enough : data.length ≤ (d.contents page).length := by
      rw [d.length_contents, sized page, describes.rawPageSize]
      exact fits
    have asked : data.length ≤ maxReadLength :=
      Nat.le_trans fits reaches.valid.dimensions.rawPageSize
    dsimp only
    rw [if_neg quiet, Device.complaint?_of_loaded fine refresh]
    apply Succeeds.bind (readFront reaches.valid rfl asked enough)
    rintro _ _ ⟨rfl, rfl⟩
    cases firstDifference ((d.contents page).take data.length) data with
    | some offset => exact effects_throw ⟨rfl, rfl⟩
    | none => exact effects_pure ⟨rfl, status, rfl⟩

/-- Programming a page that nothing keeps from being programmed, and checking it. -/
theorem programVerified_checks (reaches : base.geometry.Reaches)
    (inRange : page < base.geometry.totalPages) (fits : data.length ≤ base.geometry.rawPageSize)
    (settles : d.Settles base.config.polling) (writable : d.flash.config.writeProtected = false)
    (faultless : d.flash.programFaults page = none) :
    (programVerified page data).Effects base d fun result after _ =>
      after = { (d.program page data).afterLoad page with loaded := after.loaded } ∧
        match (d.program page data).complaint? page data with
        | some e => result = .error e
        | none => ∃ status, result = .ok status := by
  have ready : d.flash.busyAfterProgram page < base.config.polling.polls := by
    rw [Flash.busyAfterProgram, faultless, if_neg (Option.some_ne_none _).symm]
    exact settles
  rw [programVerified_eq]
  apply effects_bind
  apply Effects.programPage reaches.valid reaches.covers inRange fits
  · intro shielded
    rw [writable] at shielded
    cases shielded
  · intro _ lost
    rw [faultless] at lost
    cases lost
  · intro _ _ late
    exact absurd ready (Nat.not_lt.mpr late)
  · intro _ _ _ status _
    have inTime : ({ d.program page data with loaded := none } : Device).Settles
        base.config.polling := settles.of_layout (Flash.sameLayout_program _ _)
    exact (verifyPage_checks reaches inRange fits inTime).mono fun _ _ _ checked => checked

/-- A try to write a page hands on what is wrong with it, as all of that may pass. -/
theorem tryPage_checks (reaches : base.geometry.Reaches)
    (inRange : page < base.geometry.totalPages) (fits : data.length ≤ base.geometry.rawPageSize)
    (settles : d.Settles base.config.polling) (writable : d.flash.config.writeProtected = false)
    (faultless : d.flash.programFaults page = none) :
    (tryPage page data).Succeeds base d fun failure after =>
      failure = (d.program page data).complaint? page data ∧
        after = { (d.program page data).afterLoad page with loaded := after.loaded } := by
  have once : ((fun _ => (none : Option Error)) <$> programVerified page data).Effects base d
      fun result after _ =>
        after = { (d.program page data).afterLoad page with loaded := after.loaded } ∧
          match result with
          | .ok failure => failure = none ∧ (d.program page data).complaint? page data = none
          | .error e => (d.program page data).complaint? page data = some e := by
    apply Effects.map
    apply (programVerified_checks reaches inRange fits settles writable faultless).mono
    rintro result after _ ⟨same, checked⟩
    refine ⟨same, ?_⟩
    cases complaint : (d.program page data).complaint? page data with
    | none =>
      rw [complaint] at checked
      obtain ⟨status, rfl⟩ := checked
      exact ⟨rfl, rfl⟩
    | some e =>
      rw [complaint] at checked
      subst checked
      rfl
  apply Effects.tryCatch once
  · rintro failure after _ ⟨same, rfl, complaint⟩
    exact ⟨none, rfl, complaint.symm, same⟩
  · rintro e after _ ⟨same, complaint⟩
    rw [if_pos (Device.isRetryable_complaint complaint)]
    exact effects_pure ⟨some e, rfl, complaint.symm, same⟩

end Verifying

end Operation
end OnfiFlash
