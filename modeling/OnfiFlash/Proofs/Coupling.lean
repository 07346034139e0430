import OnfiFlash.Proofs.Device

/-! Two operations side by side, each in a session on a device of its own. What is said of them is
that they end alike: with values that belong together or with the same error, on devices that are
still related. -/
namespace OnfiFlash.Operation

variable {α α' β β' : Type}

/-- Two results that are alike: values that belong together, or the same error. -/
def Agree (alike : α → β → Prop) : Except Error α → Except Error β → Prop
  | .ok value, .ok other => alike value other
  | .error e, .error other => e = other
  | _, _ => False

theorem Agree.eq {result ended : Except Error α}
    (agree : Agree (fun value other => other = value) result ended) : result = ended := by
  cases result <;> cases ended
  · exact congrArg Except.error agree
  · exact agree.elim
  · exact agree.elim
  · exact congrArg Except.ok agree.symm

/-- On devices that are related as stated, the first operation and the second end with results that
are alike, and the devices are related again. What belongs together may depend on what the first
device has come to. -/
def Couples (base : Session) (related : Device → Device → Prop) (first : Operation α)
    (second : Operation β) (d e : Device) (alike : α → β → Device → Prop) : Prop :=
  ∀ (session : Session) (chip : Chip) (twin : Session) (copy : Chip),
    Serving base session chip → session.device chip = d →
    Serving base twin copy → twin.device copy = e →
    first.Leads session chip fun result left after _ =>
      second.Leads twin copy fun ended leftTwin afterCopy _ =>
        Serving base left after ∧ Serving base leftTwin afterCopy ∧
          related (left.device after) (leftTwin.device afterCopy) ∧
          Agree (fun value other => alike value other (left.device after)) result ended

variable {base : Session} {related : Device → Device → Prop} {first : Operation α}
  {second : Operation β} {d e : Device} {alike : α → β → Device → Prop}

/-- Neither of two runs depends on the other, so it does not matter which comes first. -/
theorem leads_comm {session twin : Session} {chip copy : Chip}
    {post : Except Error α → Session → Chip → Except Error β → Session → Chip → Prop} :
    (first.Leads session chip fun result left after _ =>
        second.Leads twin copy fun ended leftTwin afterCopy _ =>
          post result left after ended leftTwin afterCopy) ↔
      second.Leads twin copy fun ended leftTwin afterCopy _ =>
        first.Leads session chip fun result left after _ =>
          post result left after ended leftTwin afterCopy := Iff.rfl

theorem couples_pure {value : α} {other : β} (kept : related d e) (belong : alike value other d) :
    Couples base related (pure value) (pure other) d e alike := by
  rintro session chip twin copy serving rfl servingTwin rfl
  exact ⟨serving, servingTwin, kept, belong⟩

theorem couples_throw {failure : Error} (kept : related d e) :
    Couples base related (throw failure : Operation α) (throw failure : Operation β) d e alike := by
  rintro session chip twin copy serving rfl servingTwin rfl
  exact ⟨serving, servingTwin, kept, rfl⟩

theorem couples_throw_bind {failure : Error} {next : α → Operation α'} {next' : β → Operation β'}
    {alike : α' → β' → Device → Prop} (kept : related d e) :
    Couples base related (throw failure >>= next) (throw failure >>= next') d e alike := by
  rintro session chip twin copy serving rfl servingTwin rfl
  exact ⟨serving, servingTwin, kept, rfl⟩

/-- What is known of every device that a session drives. -/
theorem Couples.of_serving
    (couples : base.geometry.Describes d.flash.config → d.flash.Sized →
      Couples base related first second d e alike) :
    Couples base related first second d e alike := by
  rintro session chip twin copy serving rfl servingTwin rfl
  exact couples serving.describes serving.sound.sized session chip twin copy serving rfl servingTwin rfl

theorem Couples.mono {strong : α → β → Device → Prop} {closer : Device → Device → Prop}
    (couples : Couples base closer first second d e strong)
    (kept : ∀ after afterCopy, closer after afterCopy → related after afterCopy)
    (weaker : ∀ value other after, strong value other after → alike value other after) :
    Couples base related first second d e alike := by
  intro session chip twin copy serving same servingTwin sameTwin
  apply (couples session chip twin copy serving same servingTwin sameTwin).mono
  intro result left after _ ended
  apply ended.mono
  rintro ending leftTwin afterCopy _ ⟨serves, servesTwin, close, agree⟩
  refine ⟨serves, servesTwin, kept _ _ close, ?_⟩
  cases result with
  | ok value =>
    cases ending with
    | ok other => exact weaker value other _ agree
    | error _ => exact agree
  | error failure => cases ending <;> exact agree

/-- What is known of the first operation alone may be used as well. -/
theorem Couples.and_yields {property : α → Device → Prop}
    (couples : Couples base related first second d e alike)
    (yields : first.Yields base d property) :
    Couples base related first second d e fun value other after =>
      alike value other after ∧ property value after := by
  intro session chip twin copy serving same servingTwin sameTwin
  have coupled := couples session chip twin copy serving same servingTwin sameTwin
  have known : ∀ value,
      ((first.runIn session).run chip).value.1 = .ok value → property value _ :=
    (yields session chip serving same).2
  unfold Leads Ensures at coupled ⊢
  refine ⟨coupled.1, coupled.2.1, coupled.2.2.1, ?_⟩
  have agree := coupled.2.2.2
  dsimp only at agree ⊢
  revert agree known
  cases ((first.runIn session).run chip).value.1 with
  | ok value =>
    cases ((second.runIn twin).run copy).value.1 with
    | ok other => exact fun known agree => ⟨agree, known value rfl⟩
    | error _ => exact fun _ agree => agree
  | error failure =>
    cases ((second.runIn twin).run copy).value.1 <;> exact fun _ agree => agree

/-- Two operations that succeed, whatever the other does. -/
theorem Couples.of_succeeds {property : α → Device → Prop} {property' : β → Device → Prop}
    (succeeds : first.Succeeds base d property) (succeeds' : second.Succeeds base e property')
    (reached : ∀ value after other afterCopy, property value after → property' other afterCopy →
      related after afterCopy ∧ alike value other after) :
    Couples base related first second d e alike := by
  intro session chip twin copy serving same servingTwin sameTwin
  apply (succeeds session chip serving same).mono
  rintro _ left after _ ⟨serves, value, rfl, holds⟩
  apply (succeeds' twin copy servingTwin sameTwin).mono
  rintro _ leftTwin afterCopy _ ⟨servesTwin, other, rfl, holds'⟩
  obtain ⟨kept, belong⟩ := reached value _ other _ holds holds'
  exact ⟨serves, servesTwin, kept, belong⟩

theorem Couples.bind {mid : α → β → Device → Prop} {closer : Device → Device → Prop}
    {next : α → Operation α'} {next' : β → Operation β'} {alike : α' → β' → Device → Prop}
    (begun : Couples base closer first second d e mid)
    (kept : ∀ after afterCopy, closer after afterCopy → related after afterCopy)
    (continued : ∀ value other after afterCopy, closer after afterCopy → mid value other after →
      Couples base related (next value) (next' other) after afterCopy alike) :
    Couples base related (first >>= next) (second >>= next') d e alike := by
  intro session chip twin copy serving same servingTwin sameTwin
  apply leads_bind.mpr
  apply (begun session chip twin copy serving same servingTwin sameTwin).mono
  intro result left after _ reached
  cases result with
  | error failure =>
    apply leads_bind.mpr
    apply reached.mono
    rintro ended leftTwin afterCopy _ ⟨serves, servesTwin, close, agree⟩
    cases ended with
    | error other => exact ⟨serves, servesTwin, kept _ _ close, agree⟩
    | ok _ => exact agree.elim
  | ok value =>
    -- the second run has its own first part, which is followed before the rest of the first run
    apply leads_comm.mpr
    apply leads_bind.mpr
    apply reached.mono
    rintro ended leftTwin afterCopy _ ⟨serves, servesTwin, close, agree⟩
    cases ended with
    | error _ => exact agree.elim
    | ok other =>
      exact continued value other _ _ close agree left after leftTwin afterCopy serves rfl
        servesTwin rfl

/-- What is noted does not matter. -/
theorem couples_note_bind {notice notice' : Notice} {next : Unit → Operation α}
    {next' : Unit → Operation β}
    (couples : Couples base related (next ()) (next' ()) d e alike) :
    Couples base related (note notice >>= next) (note notice' >>= next') d e alike := by
  intro session chip twin copy serving same servingTwin sameTwin
  rw [leads_note_bind]
  simp only [leads_note_bind]
  exact couples session chip twin copy serving same servingTwin sameTwin

theorem succeeds_progress (step : Progress) :
    (progress step).Succeeds base d fun _ after => after = d := by
  rintro session chip serving rfl
  exact ⟨serving, (), rfl, rfl⟩

/-- What is reported does not matter. -/
theorem couples_progress_bind {step step' : Progress} {next : Unit → Operation α}
    {next' : Unit → Operation β} (kept : related d e)
    (couples : Couples base related (next ()) (next' ()) d e alike) :
    Couples base related (progress step >>= next) (progress step' >>= next') d e alike := by
  have begun : Couples base (fun after afterCopy => after = d ∧ afterCopy = e) (progress step)
      (progress step') d e fun _ _ _ => True :=
    .of_succeeds (succeeds_progress step) (succeeds_progress step')
      fun _ _ _ _ same same' => ⟨⟨same, same'⟩, trivial⟩
  apply begun.bind
  · rintro _ _ ⟨rfl, rfl⟩
    exact kept
  · rintro _ _ _ _ ⟨rfl, rfl⟩ _
    exact couples

theorem couples_geometry_bind {next : Geometry → Operation α} {next' : Geometry → Operation β}
    (couples : Couples base related (next base.geometry) (next' base.geometry) d e alike) :
    Couples base related (geometry >>= next) (geometry >>= next') d e alike := by
  intro session chip twin copy serving same servingTwin sameTwin
  rw [leads_geometry_bind, serving.geometry]
  simp only [leads_geometry_bind, servingTwin.geometry]
  exact couples session chip twin copy serving same servingTwin sameTwin

theorem couples_get_bind {next : Session → Operation α} {next' : Session → Operation β}
    (couples : ∀ state state',
      Couples base related (next { base with state }) (next' { base with state := state' }) d e
        alike) :
    Couples base related (get >>= next) (get >>= next') d e alike := by
  intro session chip twin copy serving same servingTwin sameTwin
  have coupled := couples session.state twin.state session chip twin copy serving same servingTwin
    sameTwin
  rw [← serving.same, ← servingTwin.same] at coupled
  rw [leads_get_bind]
  simp only [leads_get_bind]
  exact coupled

theorem couples_require {checked : Except Error α} (kept : related d e) :
    Couples base related (require checked) (require checked) d e fun value other _ =>
      value = other ∧ checked = .ok value := by
  cases checked with
  | ok value => exact couples_pure kept ⟨rfl, rfl⟩
  | error failure => exact couples_throw kept

end OnfiFlash.Operation
