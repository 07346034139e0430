import OnfiFlash.Session.Basic
import OnfiFlash.Proofs.DialogueRun

/-! What running a query or an operation ensures. The link is any link and its state is given,
so that one and the same rule serves a chip, a script and a link that is only known to be
lawful. A postcondition sees the result, what is left and the transcript. -/
namespace OnfiFlash

variable {σ α β : Type} [Link σ]

namespace Query

theorem run_bind (first : Query α) (next : α → Query β) :
    (first >>= next).run = first.run.bind fun result => match result with
      | .error e => .done (.error e)
      | .ok value => (next value).run := by
  refine congrArg first.run.bind (funext fun result => ?_)
  cases result <;> rfl

/-- Running the query on the link ends in `post`. -/
def Ensures (query : Query α) (link : σ)
    (post : Except Error α → σ → List Dialogue.Entry → Prop) : Prop :=
  let outcome := query.run.run link
  post outcome.value outcome.link outcome.transcript

variable {link : σ} {post : Except Error α → σ → List Dialogue.Entry → Prop}

theorem Ensures.mono {query : Query α} {strong : Except Error α → σ → List Dialogue.Entry → Prop}
    (ensured : query.Ensures link strong)
    (weaker : ∀ result after said, strong result after said → post result after said) :
    query.Ensures link post :=
  weaker _ _ _ ensured

theorem ensures_pure (value : α) :
    (pure value : Query α).Ensures link post ↔ post (.ok value) link [] := Iff.rfl

theorem ensures_throw (e : Error) :
    (throw e : Query α).Ensures link post ↔ post (.error e) link [] := Iff.rfl

theorem ensures_bind {first : Query α} {next : α → Query β}
    {post : Except Error β → σ → List Dialogue.Entry → Prop} :
    (first >>= next).Ensures link post ↔
      first.Ensures link fun result after said => match result with
        | .error e => post (.error e) after said
        | .ok value => (next value).Ensures after fun result after later =>
          post result after (said ++ later) := by
  simp only [Ensures, run_bind, Dialogue.run_bind]
  cases (first.run.run link).value with
  | error e => simp [Dialogue.run_done]
  | ok value => exact Iff.rfl

theorem Ensures.bind {first : Query α} {next : α → Query β}
    {mid : Except Error α → σ → List Dialogue.Entry → Prop}
    {post : Except Error β → σ → List Dialogue.Entry → Prop}
    (begun : first.Ensures link mid)
    (failed : ∀ e after said, mid (.error e) after said → post (.error e) after said)
    (passed : ∀ value after said, mid (.ok value) after said →
      (next value).Ensures after fun result after later => post result after (said ++ later)) :
    (first >>= next).Ensures link post := by
  refine ensures_bind.mpr (begun.mono fun result after said reached => ?_)
  cases result with
  | error e => exact failed e after said reached
  | ok value => exact passed value after said reached

theorem ensures_execute {frame : Frame}
    {post : Except Error (List UInt8) → σ → List Dialogue.Entry → Prop} :
    (execute frame).Ensures link post ↔
      let reply := Link.execute frame link
      post reply.result reply.state (Dialogue.exchange frame reply) := by
  simp [Ensures, execute, ExceptT.run, ExceptT.mk, Dialogue.run_request, Dialogue.run_done]

theorem ensures_note {notice : Notice} {post : Except Error Unit → σ → List Dialogue.Entry → Prop} :
    (note notice).Ensures link post ↔ post (.ok ()) link [.remarked (.notice notice)] := Iff.rfl

end Query

namespace Operation

theorem runIn_bind (first : Operation α) (next : α → Operation β) (session : Session) :
    (first >>= next).runIn session = (first.runIn session).bind fun reached =>
      match reached.1 with
      | .error e => .done (.error e, reached.2)
      | .ok value => (next value).runIn reached.2 := by
  refine congrArg (first.runIn session).bind (funext fun reached => ?_)
  rcases reached with ⟨result, left⟩
  cases result <;> rfl

theorem runIn_tryCatch (operation : Operation α) (handler : Error → Operation α)
    (session : Session) :
    (tryCatch operation handler).runIn session = (operation.runIn session).bind fun reached =>
      match reached.1 with
      | .error e => (handler e).runIn reached.2
      | .ok value => .done (.ok value, reached.2) := by
  refine congrArg (operation.runIn session).bind (funext fun reached => ?_)
  rcases reached with ⟨result, left⟩
  cases result <;> rfl

theorem runIn_get_bind (next : Session → Operation α) (session : Session) :
    (get >>= next).runIn session = (next session).runIn session := rfl

theorem runIn_enter_bind (state : ChipState) (next : Unit → Operation α) (session : Session) :
    (enter state >>= next).runIn session = (next ()).runIn { session with state } := rfl

theorem runIn_ofQuery (query : Query α) (session : Session) :
    (ofQuery query).runIn session = query.run.bind fun result => .done (result, session) := rfl

/-- Running the operation in the session, on the link, ends in `post`. -/
def Ensures (operation : Operation α) (session : Session) (link : σ)
    (post : Except Error α → Session → σ → List Dialogue.Entry → Prop) : Prop :=
  let outcome := (operation.runIn session).run link
  post outcome.value.1 outcome.value.2 outcome.link outcome.transcript

variable {session : Session} {link : σ}
  {post : Except Error α → Session → σ → List Dialogue.Entry → Prop}

theorem Ensures.mono {operation : Operation α}
    {strong : Except Error α → Session → σ → List Dialogue.Entry → Prop}
    (ensured : operation.Ensures session link strong)
    (weaker : ∀ result left after said, strong result left after said →
      post result left after said) :
    operation.Ensures session link post :=
  weaker _ _ _ _ ensured

theorem ensures_true (operation : Operation α) :
    operation.Ensures session link fun _ _ _ _ => True := trivial

theorem ensures_bind {first : Operation α} {next : α → Operation β}
    {post : Except Error β → Session → σ → List Dialogue.Entry → Prop} :
    (first >>= next).Ensures session link post ↔
      first.Ensures session link fun result left after said => match result with
        | .error e => post (.error e) left after said
        | .ok value => (next value).Ensures left after fun result left after later =>
          post result left after (said ++ later) := by
  simp only [Ensures, runIn_bind, Dialogue.run_bind]
  cases ((first.runIn session).run link).value with
  | mk result left =>
    cases result with
    | error e => simp [Dialogue.run_done]
    | ok value => exact Iff.rfl

theorem Ensures.bind {first : Operation α} {next : α → Operation β}
    {mid : Except Error α → Session → σ → List Dialogue.Entry → Prop}
    {post : Except Error β → Session → σ → List Dialogue.Entry → Prop}
    (begun : first.Ensures session link mid)
    (failed : ∀ e left after said, mid (.error e) left after said →
      post (.error e) left after said)
    (passed : ∀ value left after said, mid (.ok value) left after said →
      (next value).Ensures left after fun result left after later =>
        post result left after (said ++ later)) :
    (first >>= next).Ensures session link post := by
  refine ensures_bind.mpr (begun.mono fun result left after said reached => ?_)
  cases result with
  | error e => exact failed e left after said reached
  | ok value => exact passed value left after said reached

theorem ensures_tryCatch {operation : Operation α} {handler : Error → Operation α} :
    (tryCatch operation handler).Ensures session link post ↔
      operation.Ensures session link fun result left after said => match result with
        | .ok value => post (.ok value) left after said
        | .error e => (handler e).Ensures left after fun result left after later =>
          post result left after (said ++ later) := by
  simp only [Ensures, runIn_tryCatch, Dialogue.run_bind]
  cases ((operation.runIn session).run link).value with
  | mk result left =>
    cases result with
    | error e => exact Iff.rfl
    | ok value => simp [Dialogue.run_done]

theorem ensures_ofQuery {query : Query α} :
    (ofQuery query).Ensures session link post ↔
      query.Ensures link fun result after said => post result session after said := by
  simp [Ensures, Query.Ensures, runIn_ofQuery, Dialogue.run_bind, Dialogue.run_done]

theorem ensures_get {post : Except Error Session → Session → σ → List Dialogue.Entry → Prop} :
    (get : Operation Session).Ensures session link post ↔ post (.ok session) session link [] :=
  Iff.rfl

theorem ensures_enter {state : ChipState}
    {post : Except Error Unit → Session → σ → List Dialogue.Entry → Prop} :
    (enter state).Ensures session link post ↔ post (.ok ()) { session with state } link [] :=
  Iff.rfl

theorem ensures_geometry
    {post : Except Error Geometry → Session → σ → List Dialogue.Entry → Prop} :
    geometry.Ensures session link post ↔ post (.ok session.geometry) session link [] := Iff.rfl

theorem ensures_require {checked : Except Error α} :
    (require checked).Ensures session link post ↔ post checked session link [] := by
  cases checked <;> exact Iff.rfl

theorem ensures_note_bind {notice : Notice} {next : Unit → Operation α} :
    (note notice >>= next).Ensures session link post ↔
      (next ()).Ensures session link fun result left after later =>
        post result left after (.remarked (.notice notice) :: later) := ensures_bind

theorem ensures_progress_bind {step : Progress} {next : Unit → Operation α} :
    (progress step >>= next).Ensures session link post ↔
      (next ()).Ensures session link fun result left after later =>
        post result left after (.remarked (.progress step) :: later) := ensures_bind

/-- Like `Ensures`, but of the transcript only the progress counts. -/
def Leads (operation : Operation α) (session : Session) (link : σ)
    (post : Except Error α → Session → σ → List Progress → Prop) : Prop :=
  operation.Ensures session link fun result left after said =>
    post result left after (Dialogue.progress said)

section Leads

variable {next : β → Operation α} {post : Except Error α → Session → σ → List Progress → Prop}

theorem Leads.mono {operation : Operation α}
    {strong : Except Error α → Session → σ → List Progress → Prop}
    (leads : operation.Leads session link strong)
    (weaker : ∀ result left after said, strong result left after said →
      post result left after said) :
    operation.Leads session link post :=
  weaker _ _ _ _ leads

theorem leads_pure {value : α} :
    (pure value : Operation α).Leads session link post ↔ post (.ok value) session link [] := Iff.rfl

theorem leads_throw {e : Error} :
    (throw e : Operation α).Leads session link post ↔ post (.error e) session link [] := Iff.rfl

theorem leads_bind {first : Operation β} :
    (first >>= next).Leads session link post ↔
      first.Leads session link fun result left after said => match result with
        | .error e => post (.error e) left after said
        | .ok value => (next value).Leads left after fun result left after later =>
          post result left after (said ++ later) := by
  refine ensures_bind.trans (iff_of_eq ?_)
  refine congrArg (Ensures first session link) (funext fun result => ?_)
  cases result with
  | error e => rfl
  | ok value =>
    simp only [Leads, Dialogue.progress_append]

theorem leads_tryCatch {operation : Operation α} {handler : Error → Operation α} :
    (tryCatch operation handler).Leads session link post ↔
      operation.Leads session link fun result left after said => match result with
        | .ok value => post (.ok value) left after said
        | .error e => (handler e).Leads left after fun result left after later =>
          post result left after (said ++ later) := by
  refine ensures_tryCatch.trans (iff_of_eq ?_)
  refine congrArg (Ensures operation session link) (funext fun result => ?_)
  cases result with
  | ok value => rfl
  | error e => simp only [Leads, Dialogue.progress_append]

/-- A step that cannot fail and reports nothing. -/
theorem leads_silent_bind {first : Operation β} {value : β} {left : Session}
    (silent : ∀ post : Except Error β → Session → σ → List Progress → Prop,
      first.Leads session link post ↔ post (.ok value) left link []) :
    (first >>= next).Leads session link post ↔ (next value).Leads left link post := by
  rw [leads_bind, silent]
  exact Iff.rfl

theorem leads_note_bind {notice : Notice} {next : Unit → Operation α} :
    (note notice >>= next).Leads session link post ↔ (next ()).Leads session link post :=
  leads_silent_bind fun _ => Iff.rfl

theorem leads_get_bind {next : Session → Operation α} :
    (get >>= next).Leads session link post ↔ (next session).Leads session link post :=
  leads_silent_bind fun _ => ensures_get

theorem leads_enter_bind {state : ChipState} {next : Unit → Operation α} :
    (enter state >>= next).Leads session link post ↔
      (next ()).Leads { session with state } link post :=
  leads_silent_bind fun _ => ensures_enter

theorem leads_geometry_bind {next : Geometry → Operation α} :
    (geometry >>= next).Leads session link post ↔
      (next session.geometry).Leads session link post :=
  leads_silent_bind fun _ => ensures_geometry

theorem leads_require_bind {checked : Except Error β} {value : β} (passes : checked = .ok value) :
    (require checked >>= next).Leads session link post ↔
      (next value).Leads session link post :=
  leads_silent_bind fun _ => by rw [passes]; exact ensures_require

end Leads

end Operation
end OnfiFlash
