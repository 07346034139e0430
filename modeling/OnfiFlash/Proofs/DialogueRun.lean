import OnfiFlash.Dialogue

/-! Running a dialogue in parts: a run splits wherever the dialogue does, and its transcript is
the transcripts of the parts one after the other. -/
namespace OnfiFlash.Dialogue

theorem bind_done (dialogue : Dialogue α) : dialogue.bind done = dialogue := by
  induction dialogue with
  | done value => rfl
  | request frame next ih => exact congrArg (request frame) (funext ih)
  | remark said rest ih => exact congrArg (remark said) ih

theorem bind_bind (first : Dialogue α) (second : α → Dialogue β) (third : β → Dialogue γ) :
    (first.bind second).bind third = first.bind fun value => (second value).bind third := by
  induction first with
  | done value => rfl
  | request frame next ih => exact congrArg (request frame) (funext ih)
  | remark said rest ih => exact congrArg (remark said) ih

instance : LawfulMonad Dialogue := .mk' _ bind_done (fun _ _ => rfl) bind_bind

variable {σ : Type}

/-- What one request leaves in a transcript. -/
def exchange (frame : Frame) (reply : Reply σ (List UInt8)) : List Entry :=
  (if frame.WellFormed then [.exchanged frame reply.result] else [])
    ++ reply.notices.map fun notice => .remarked (.notice notice)

private theorem foldl_notices (notices : List Notice) (past : List Entry) :
    notices.foldl (fun past notice => .remarked (.notice notice) :: past) past
      = (notices.map fun notice => Entry.remarked (.notice notice)).reverse ++ past := by
  induction notices generalizing past with
  | nil => rfl
  | cons notice rest ih => simp [ih]

private theorem past_request (frame : Frame) (reply : Reply σ (List UInt8)) (past : List Entry) :
    reply.notices.foldl (fun past notice => .remarked (.notice notice) :: past)
        (if frame.WellFormed then .exchanged frame reply.result :: past else past)
      = (exchange frame reply).reverse ++ past := by
  rw [foldl_notices, exchange]
  split <;> simp

/-- The transcript so far stays in front; it does not influence the run. -/
theorem runFrom_eq [Link σ] (dialogue : Dialogue α) (link : σ) (past : List Entry) :
    dialogue.runFrom link past
      = { dialogue.run link with
          transcript := past.reverse ++ (dialogue.run link).transcript } := by
  unfold run
  induction dialogue generalizing link past with
  | done value => simp [runFrom]
  | request frame next ih =>
    simp only [runFrom, past_request]
    rw [ih, ih _ _ ((exchange frame (Link.execute frame link)).reverse ++ [])]
    simp
  | remark said rest ih =>
    simp only [runFrom]
    rw [ih, ih _ [_]]
    simp

theorem run_done [Link σ] (value : α) (link : σ) : (done value).run link = ⟨value, link, []⟩ := rfl

theorem run_request [Link σ] (frame : Frame) (next : Except Error (List UInt8) → Dialogue α)
    (link : σ) :
    (request frame next).run link =
      let reply := Link.execute frame link
      let rest := (next reply.result).run reply.state
      { rest with transcript := exchange frame reply ++ rest.transcript } := by
  simp only [run, runFrom, past_request]
  rw [runFrom_eq]
  simp [run]

theorem run_remark [Link σ] (said : Remark) (rest : Dialogue α) (link : σ) :
    (remark said rest).run link
      = { rest.run link with transcript := .remarked said :: (rest.run link).transcript } := by
  simp only [run, runFrom]
  rw [runFrom_eq]
  simp [run]

theorem run_bind [Link σ] (first : Dialogue α) (next : α → Dialogue β) (link : σ) :
    (first.bind next).run link =
      let before := first.run link
      let rest := (next before.value).run before.link
      { rest with transcript := before.transcript ++ rest.transcript } := by
  induction first generalizing link with
  | done value => simp [bind, run_done]
  | request frame answered ih => simp [bind, run_request, ih]
  | remark said rest ih => simp [bind, run_remark, ih]

@[simp] theorem progress_nil : progress [] = [] := rfl

@[simp] theorem progress_exchanged (frame : Frame) (answer : Except Error (List UInt8))
    (rest : List Entry) : progress (.exchanged frame answer :: rest) = progress rest := rfl

@[simp] theorem progress_noticed (notice : Notice) (rest : List Entry) :
    progress (.remarked (.notice notice) :: rest) = progress rest := rfl

@[simp] theorem progress_reported (step : Progress) (rest : List Entry) :
    progress (.remarked (.progress step) :: rest) = step :: progress rest := rfl

@[simp] theorem progress_append (first second : List Entry) :
    progress (first ++ second) = progress first ++ progress second := by
  simp [progress]

@[simp] theorem progress_exchange (frame : Frame) (reply : Reply σ (List UInt8)) :
    progress (exchange frame reply) = [] := by
  unfold exchange progress
  split <;> simp

end OnfiFlash.Dialogue
