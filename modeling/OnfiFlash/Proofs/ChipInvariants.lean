import OnfiFlash.Proofs.Composition
import OnfiFlash.Proofs.Polling

/-! Invariants of a chip under the commands of a session. Whatever the invariant, only the frames that
are executed have to be looked at: reading the status, waiting and all that is put together from steps
that sustain it sustain it as well. -/
namespace OnfiFlash.Operation

variable {α β : Type} {invariant : Chip → Prop}

/-- On a chip with no response waiting, the operation leaves none behind and keeps the invariant. -/
def Sustains (invariant : Chip → Prop) (operation : Operation α) : Prop :=
  ∀ (session : Session) (chip : Chip), chip.pending = [] → invariant chip →
    operation.Leads session chip fun _ _ after _ => after.pending = [] ∧ invariant after

theorem sustains_pure (value : α) : (pure value : Operation α).Sustains invariant :=
  fun _ _ clear holds => ⟨clear, holds⟩

theorem sustains_throw (e : Error) : (throw e : Operation α).Sustains invariant :=
  fun _ _ clear holds => ⟨clear, holds⟩

theorem sustains_get : (get : Operation Session).Sustains invariant :=
  fun _ _ clear holds => ⟨clear, holds⟩

theorem sustains_enter (state : ChipState) : (enter state).Sustains invariant :=
  fun _ _ clear holds => ⟨clear, holds⟩

theorem sustains_note (notice : Notice) : (note notice).Sustains invariant :=
  fun _ _ clear holds => ⟨clear, holds⟩

theorem sustains_progress (step : Progress) : (progress step).Sustains invariant :=
  fun _ _ clear holds => ⟨clear, holds⟩

theorem Sustains.bind {first : Operation β} {next : β → Operation α}
    (begun : first.Sustains invariant) (continued : ∀ value, (next value).Sustains invariant) :
    (first >>= next).Sustains invariant := by
  intro session chip clear holds
  refine leads_bind.mpr ((begun session chip clear holds).mono fun result left after _ => ?_)
  rintro ⟨idle, kept⟩
  cases result with
  | error e => exact ⟨idle, kept⟩
  | ok value => exact continued value left after idle kept

theorem Sustains.tryCatch {operation : Operation α} {handler : Error → Operation α}
    (begun : operation.Sustains invariant) (caught : ∀ e, (handler e).Sustains invariant) :
    (tryCatch operation handler).Sustains invariant := by
  intro session chip clear holds
  refine leads_tryCatch.mpr ((begun session chip clear holds).mono fun result left after _ => ?_)
  rintro ⟨idle, kept⟩
  cases result with
  | ok value => exact ⟨idle, kept⟩
  | error e => exact caught e left after idle kept

theorem sustains_closed (invariant : Chip → Prop) :
    Closed fun _ operation => operation.Sustains invariant :=
  .of_catching sustains_pure sustains_throw Sustains.bind Sustains.tryCatch sustains_get sustains_note

theorem sustains_execute {frame : Frame}
    (kept : ∀ chip : Chip, chip.pending = [] → invariant chip →
      invariant (Link.execute frame chip).state) :
    (execute frame).Sustains invariant := by
  intro session chip clear holds
  rw [execute, Leads, ensures_ofQuery, Query.ensures_execute]
  exact ⟨(Chip.keeps_execute chip frame clear).2, kept chip clear holds⟩

section Polled

variable (polled : ∀ (chip : Chip) reads, invariant chip → invariant (chip.polled reads))
include polled

theorem sustains_readStatus : readStatus.Sustains invariant := by
  intro session chip clear holds
  rw [readStatus, Leads, ensures_ofQuery, Query.ensures_readStatus clear]
  exact ⟨clear, polled chip 1 holds⟩

theorem sustains_waitReady : waitReady.Sustains invariant := by
  intro session chip clear holds
  rw [waitReady, leads_get_bind, Leads, ensures_ofQuery]
  apply Query.Ensures.pollReady _ clear
  · exact fun _ _ _ => ⟨clear, polled chip _ holds⟩
  · exact fun _ _ _ => ⟨clear, polled chip _ holds⟩

end Polled

end OnfiFlash.Operation
