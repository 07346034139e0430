import OnfiFlash.Proofs.Composition
import OnfiFlash.Proofs.Ensures
import OnfiFlash.Session.Identify

/-! What operations report, over whatever link. Nothing is known of the answers, so what an operation
comes to and what it reports are judged together. The steps that drive the device report nothing. -/
namespace OnfiFlash

variable {α β : Type} {g : Geometry}

namespace Query

/-- Over every link, the query reports no progress. -/
def Tacit (query : Query α) : Prop :=
  ∀ (σ : Type) [Link σ] (link : σ), query.Ensures link fun _ _ said => Dialogue.progress said = []

theorem tacit_pure (value : α) : (pure value : Query α).Tacit := fun _ _ _ => rfl

theorem tacit_throw (e : Error) : (throw e : Query α).Tacit := fun _ _ _ => rfl

theorem Tacit.bind {first : Query α} {next : α → Query β} (begun : first.Tacit)
    (continued : ∀ value, (next value).Tacit) : (first >>= next).Tacit := by
  intro σ _ link
  refine .bind (begun σ link) (fun _ _ _ silent => silent) fun value after said silent => ?_
  refine (continued value σ after).mono fun _ _ later silentAfter => ?_
  rw [Dialogue.progress_append, silent, silentAfter]
  rfl

theorem tacit_note (notice : Notice) : (note notice).Tacit := fun _ _ _ => rfl

theorem tacit_execute (frame : Frame) : (execute frame).Tacit :=
  fun _ _ _ => ensures_execute.mpr (Dialogue.progress_exchange _ _)

theorem tacit_readStatus : readStatus.Tacit := by
  refine (tacit_execute _).bind fun bytes => ?_
  cases bytes with
  | nil => exact tacit_throw _
  | cons bits rest => exact tacit_pure _

theorem tacit_awaitReady {giveUp : Query Status} (tacit : giveUp.Tacit) (polls : Nat) :
    (awaitReady giveUp polls).Tacit := by
  induction polls with
  | zero => exact tacit
  | succ polls ih =>
    refine tacit_readStatus.bind fun status => ?_
    split
    · exact tacit_pure _
    · exact ih

theorem tacit_pollReady (limit : PollLimit) : (pollReady limit).Tacit := by
  cases limit with
  | atMost polls => exact tacit_awaitReady ((tacit_note _).bind fun _ => tacit_throw _) _
  | unbounded horizon => exact tacit_awaitReady (tacit_throw _) _

end Query

namespace Operation

/-- In every session with the geometry and over every link, the operation keeps the geometry, and
what it comes to and what it reports are as `post` says. -/
def Reports (g : Geometry) (operation : Operation α)
    (post : Except Error α → List Progress → Prop) : Prop :=
  ∀ (σ : Type) [Link σ] (session : Session) (link : σ), session.geometry = g →
    operation.Leads session link fun result left _ said => left.geometry = g ∧ post result said

variable {post : Except Error α → List Progress → Prop}

theorem Reports.mono {operation : Operation α} {strong : Except Error α → List Progress → Prop}
    (reports : operation.Reports g strong)
    (weaker : ∀ result said, strong result said → post result said) :
    operation.Reports g post := fun σ _ session link same =>
  (reports σ session link same).mono fun result _ _ said reached =>
    ⟨reached.1, weaker result said reached.2⟩

theorem reports_pure {value : α} (ended : post (.ok value) []) :
    (pure value : Operation α).Reports g post := fun _ _ _ _ same => ⟨same, ended⟩

theorem reports_throw {e : Error} (ended : post (.error e) []) :
    (throw e : Operation α).Reports g post := fun _ _ _ _ same => ⟨same, ended⟩

theorem Reports.bind {first : Operation β} {next : β → Operation α}
    {mid : Except Error β → List Progress → Prop} (begun : first.Reports g mid)
    (failed : ∀ e said, mid (.error e) said → post (.error e) said)
    (passed : ∀ value said, mid (.ok value) said →
      (next value).Reports g fun result later => post result (said ++ later)) :
    (first >>= next).Reports g post := by
  intro σ _ session link same
  refine leads_bind.mpr ((begun σ session link same).mono fun result left after said reached => ?_)
  cases result with
  | error e => exact ⟨reached.1, failed e said reached.2⟩
  | ok value => exact passed value said reached.2 σ left after reached.1

theorem reports_throw_bind {e : Error} {next : β → Operation α} (ended : post (.error e) []) :
    ((throw e : Operation β) >>= next).Reports g post := fun _ _ _ _ same => ⟨same, ended⟩

theorem reports_require_bind {checked : Except Error β} {next : β → Operation α}
    (failed : ∀ e, checked = .error e → post (.error e) [])
    (passed : ∀ value, checked = .ok value → (next value).Reports g post) :
    (require checked >>= next).Reports g post := by
  cases checked with
  | error e => exact reports_throw_bind (failed e rfl)
  | ok value => exact passed value rfl

theorem reports_get_bind {next : Session → Operation α}
    (continued : ∀ session : Session, session.geometry = g → (next session).Reports g post) :
    (get >>= next).Reports g post := fun σ _ session link same =>
  leads_get_bind.mpr (continued session same σ session link same)

theorem reports_geometry_bind {next : Geometry → Operation α} (continued : (next g).Reports g post) :
    (geometry >>= next).Reports g post :=
  reports_get_bind fun _ same => same ▸ continued

theorem reports_note_bind {notice : Notice} {next : Unit → Operation α}
    (continued : (next ()).Reports g post) : (note notice >>= next).Reports g post :=
  fun σ _ session link same => leads_note_bind.mpr (continued σ session link same)

theorem reports_progress_bind {step : Progress} {next : Unit → Operation α}
    (continued : (next ()).Reports g fun result later => post result (step :: later)) :
    (progress step >>= next).Reports g post := fun σ _ session link same =>
  leads_bind.mpr (continued σ session link same)

/-- The operation reports nothing, whatever it comes to. -/
def Tacit (g : Geometry) (operation : Operation α) : Prop :=
  operation.Reports g fun _ said => said = []

theorem Tacit.bind_reports {first : Operation β} {next : β → Operation α} (tacit : first.Tacit g)
    (failed : ∀ e, post (.error e) []) (passed : ∀ value, (next value).Reports g post) :
    (first >>= next).Reports g post :=
  .bind tacit (by rintro e said rfl; exact failed e) (by rintro value said rfl; exact passed value)

theorem Tacit.tryCatch {operation : Operation α} {handler : Error → Operation α}
    (begun : operation.Tacit g) (caught : ∀ e, (handler e).Tacit g) :
    (tryCatch operation handler).Tacit g := by
  intro σ _ session link same
  refine leads_tryCatch.mpr ((begun σ session link same).mono ?_)
  rintro result left after said ⟨kept, rfl⟩
  cases result with
  | ok value => exact ⟨kept, rfl⟩
  | error e => exact caught e σ left after kept

theorem tacit_ofQuery {query : Query α} (tacit : query.Tacit) : (ofQuery query).Tacit g :=
  fun σ _ _ link same => ensures_ofQuery.mpr ((tacit σ link).mono fun _ _ _ silent => ⟨same, silent⟩)

theorem tacit_enter (state : ChipState) : (enter state).Tacit g := fun _ _ _ _ same => ⟨same, rfl⟩

theorem tacit_execute (frame : Frame) : (execute frame).Tacit g :=
  tacit_ofQuery (Query.tacit_execute frame)

theorem tacit_readStatus : readStatus.Tacit g := tacit_ofQuery Query.tacit_readStatus

theorem tacit_waitReady : waitReady.Tacit g :=
  reports_get_bind fun _ _ => tacit_ofQuery (Query.tacit_pollReady _)

theorem tacit_closed (g : Geometry) : Closed fun _ operation => operation.Tacit g :=
  .of_catching (fun _ => reports_pure rfl) (fun _ => reports_throw rfl)
    (fun begun continued => begun.bind_reports (fun _ => rfl) continued) Tacit.tryCatch
    (fun _ _ _ _ same => ⟨same, rfl⟩) fun notice => tacit_ofQuery (Query.tacit_note notice)

theorem tacit_driving (g : Geometry) : Driving fun _ operation => operation.Tacit g where
  toClosed := tacit_closed g
  readStatus := tacit_readStatus
  waitReady := tacit_waitReady
  loadPage := (tacit_closed g).loadPage (fun frame _ _ => tacit_execute frame) tacit_enter
    tacit_waitReady
  readData start size? _ := (tacit_closed g).readData (fun frame _ => tacit_execute frame)
    (fun frame _ _ => tacit_execute frame) start size? fun _ _ _ => reports_throw rfl
  eraseBlock := (tacit_closed g).eraseBlock (fun frame _ _ => tacit_execute frame)
    (fun state _ => tacit_enter state) tacit_waitReady
  programPage := (tacit_closed g).programPage (fun frame _ _ => tacit_execute frame)
    (fun state _ => tacit_enter state) tacit_readStatus tacit_waitReady

end Operation
end OnfiFlash
