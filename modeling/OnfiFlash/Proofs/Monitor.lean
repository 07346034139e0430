import OnfiFlash.Proofs.Ensures

/-! Dialogues under a monitor. A monitor says which frames may be sent where a dialogue stands, and
where it stands after an answer. A dialogue that obeys a monitor does so whatever it is answered;
hence what one allowed exchange keeps on a link is kept by every run. -/
namespace OnfiFlash

/-- A view of the exchanges of a dialogue that decides what may be sent next. -/
structure Monitor (κ : Type) where
  allows : κ → Frame → Prop
  after : κ → Frame → Except Error (List UInt8) → κ

variable {κ α β : Type} {monitor : Monitor κ} {place : κ}

namespace Dialogue

/-- Whatever the answers are, the dialogue sends only what the monitor allows, and where it is done
its value and the place it has come to are as `post` says. -/
inductive Obeys (monitor : Monitor κ) (post : α → κ → Prop) : Dialogue α → κ → Prop where
  | done {value : α} {place : κ} (ended : post value place) : Obeys monitor post (.done value) place
  | request {frame : Frame} {next : Except Error (List UInt8) → Dialogue α} {place : κ}
      (allowed : monitor.allows place frame)
      (later : ∀ answer, Obeys monitor post (next answer) (monitor.after place frame answer)) :
      Obeys monitor post (.request frame next) place
  | remark {said : Remark} {rest : Dialogue α} {place : κ} (later : Obeys monitor post rest place) :
      Obeys monitor post (.remark said rest) place

variable {post : α → κ → Prop}

theorem Obeys.bind {first : Dialogue β} {next : β → Dialogue α} {mid : β → κ → Prop}
    (begun : first.Obeys monitor mid place)
    (continued : ∀ value place, mid value place → (next value).Obeys monitor post place) :
    (first.bind next).Obeys monitor post place := by
  induction begun with
  | done ended => exact continued _ _ ended
  | request allowed _ ih => exact .request allowed ih
  | remark _ ih => exact .remark ih

theorem Obeys.mono {dialogue : Dialogue α} {strong : α → κ → Prop}
    (obeys : dialogue.Obeys monitor strong place)
    (weaker : ∀ value place, strong value place → post value place) :
    dialogue.Obeys monitor post place := by
  induction obeys with
  | done ended => exact .done (weaker _ _ ended)
  | request allowed _ ih => exact .request allowed ih
  | remark _ ih => exact .remark ih

/-- What is kept by every exchange that the monitor allows is kept by a run. -/
theorem Obeys.run {σ : Type} [Link σ] {dialogue : Dialogue α} {holds : κ → σ → Prop}
    (obeys : dialogue.Obeys monitor post place)
    (exchange : ∀ place frame link, monitor.allows place frame → holds place link →
      holds (monitor.after place frame (Link.execute frame link).result)
        (Link.execute frame link).state)
    {link : σ} (start : holds place link) :
    ∃ last, post (dialogue.run link).value last ∧ holds last (dialogue.run link).link := by
  induction obeys generalizing link with
  | done ended => exact ⟨_, ended, start⟩
  | request allowed _ ih =>
    rw [run_request]
    exact ih _ (exchange _ _ _ allowed start)
  | remark _ ih =>
    rw [run_remark]
    exact ih start

end Dialogue

namespace Query

theorem obeys_bind {first : Query β} {next : β → Query α} {mid : Except Error β → κ → Prop}
    {post : Except Error α → κ → Prop} (begun : first.run.Obeys monitor mid place)
    (failed : ∀ e place, mid (.error e) place → post (.error e) place)
    (passed : ∀ value place, mid (.ok value) place → (next value).run.Obeys monitor post place) :
    (first >>= next).run.Obeys monitor post place := by
  rw [run_bind]
  refine begun.bind fun result place reached => ?_
  cases result with
  | error e => exact .done (failed e place reached)
  | ok value => exact passed value place reached

theorem obeys_execute {frame : Frame} {post : Except Error (List UInt8) → κ → Prop}
    (allowed : monitor.allows place frame)
    (answered : ∀ answer, post answer (monitor.after place frame answer)) :
    (execute frame).run.Obeys monitor post place :=
  .request allowed fun answer => .done (answered answer)

end Query

namespace Operation

theorem obeys_bind {first : Operation β} {next : β → Operation α} {session : Session}
    {mid : Except Error β × Session → κ → Prop} {post : Except Error α × Session → κ → Prop}
    (begun : (first.runIn session).Obeys monitor mid place)
    (failed : ∀ e left place, mid (.error e, left) place → post (.error e, left) place)
    (passed : ∀ value left place, mid (.ok value, left) place →
      ((next value).runIn left).Obeys monitor post place) :
    ((first >>= next).runIn session).Obeys monitor post place := by
  rw [runIn_bind]
  refine begun.bind fun reached place kept => ?_
  rcases reached with ⟨result, left⟩
  cases result with
  | error e => exact .done (failed e left place kept)
  | ok value => exact passed value left place kept

theorem obeys_tryCatch {operation : Operation α} {handler : Error → Operation α}
    {session : Session} {mid post : Except Error α × Session → κ → Prop}
    (begun : (operation.runIn session).Obeys monitor mid place)
    (passed : ∀ value left place, mid (.ok value, left) place → post (.ok value, left) place)
    (caught : ∀ e left place, mid (.error e, left) place →
      ((handler e).runIn left).Obeys monitor post place) :
    ((tryCatch operation handler).runIn session).Obeys monitor post place := by
  rw [runIn_tryCatch]
  refine begun.bind fun reached place kept => ?_
  rcases reached with ⟨result, left⟩
  cases result with
  | error e => exact caught e left place kept
  | ok value => exact .done (passed value left place kept)

theorem obeys_ofQuery {query : Query α} {session : Session}
    {post : Except Error α × Session → κ → Prop}
    (asked : query.run.Obeys monitor (fun result place => post (result, session) place) place) :
    ((ofQuery query).runIn session).Obeys monitor post place := by
  rw [runIn_ofQuery]
  exact asked.bind fun _ _ ended => .done ended

end Operation
end OnfiFlash
