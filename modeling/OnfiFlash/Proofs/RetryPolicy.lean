import OnfiFlash.Proofs.Exchanges
import OnfiFlash.Proofs.WriteTrace

/-! How often a page is written. Nothing is known of the link: whatever the successive attempts to
program and verify a page come to, they decide how many are made, what is reported between them,
what the totals are and what the page comes to in the end. -/
namespace OnfiFlash

/-- The failures after which a page is written again. -/
inductive Error.Passing : Error → Prop where
  | read (page : Nat) : Passing (.read page)
  | refreshAdvised (page : Nat) : Passing (.refreshAdvised page)
  | verifyMismatch (page offset : Nat) : Passing (.verifyMismatch page offset)

theorem Error.isRetryable_iff {e : Error} : e.isRetryable = true ↔ e.Passing := by
  constructor
  · intro retryable
    cases e with
    | read page => exact .read page
    | refreshAdvised page => exact .refreshAdvised page
    | verifyMismatch page offset => exact .verifyMismatch page offset
    | _ => cases retryable
  · rintro (_ | _ | _) <;> rfl

namespace Operation

variable {σ α : Type} [Link σ]

def outcome (operation : Operation α) : Operation (Except Error α) :=
  tryCatch (.ok <$> operation) fun e => return .error e

theorem runIn_outcome (operation : Operation α) (session : Session) :
    operation.outcome.runIn session
      = (operation.runIn session).bind fun reached => .done (.ok reached.1, reached.2) := by
  rw [outcome, runIn_tryCatch, map_eq_pure_bind, runIn_bind, Dialogue.bind_bind]
  refine congrArg (operation.runIn session).bind (funext fun reached => ?_)
  rcases reached with ⟨result, left⟩
  cases result <;> rfl

theorem ensures_outcome {operation : Operation α} {session : Session} {link : σ}
    {post : Except Error (Except Error α) → Session → σ → List Dialogue.Entry → Prop} :
    operation.outcome.Ensures session link post ↔
      operation.Ensures session link fun result left after said =>
        post (.ok result) left after said := by
  simp [Ensures, runIn_outcome, Dialogue.run_bind, Dialogue.run_done]

theorem tryPage_outcome (page : Nat) (data : List UInt8) :
    tryPage page data = (programVerified page data).outcome >>= fun result => match result with
      | .ok _ => pure none
      | .error e => if e.isRetryable then pure (some e) else throw e := by
  refine funext fun session => ?_
  show (tryPage page data).runIn session = runIn (_ >>= _) session
  rw [tryPage, runIn_tryCatch, map_eq_pure_bind, runIn_bind, Dialogue.bind_bind, runIn_bind,
    runIn_outcome, Dialogue.bind_bind]
  refine congrArg ((programVerified page data).runIn session).bind (funext fun reached => ?_)
  rcases reached with ⟨result, left⟩
  cases result with
  | ok status => rfl
  | error e => rfl

/-- Like `writeAttempt`, but the totals are there even if the page is given up. -/
def tallyAttempt (page : Nat) (data : List UInt8) (maxAttempts : Nat) :
    (left attempt : Nat) → WriteStats → Operation (WriteStats × Except Error Unit)
  | 0, attempt, stats => do
    match ← (programVerified page data).outcome with
    | .ok _ => return ({ stats with written := stats.written + 1 }, .ok ())
    | .error e =>
      if e.isRetryable then
        let cause := e.message
        note (.error s!"page {page}: {cause} after {attempt} attempts")
        return (stats, .error (.writeExhausted page attempt))
      else
        return (stats, .error e)
  | left + 1, attempt, stats => do
    match ← (programVerified page data).outcome with
    | .ok _ => return ({ stats with written := stats.written + 1 }, .ok ())
    | .error e =>
      if e.isRetryable then
        let cause := e.message
        note (.warning s!"page {page}: {cause}, retrying ({attempt}/{maxAttempts})")
        progress (.retry page attempt e)
        tallyAttempt page data maxAttempts left (attempt + 1)
          { stats with retries := stats.retries + 1 }
      else
        return (stats, .error e)

/-- Like `writePage`, but the totals are there even if the page is given up. -/
def tallyPage (page : Nat) (data : List UInt8) (stats : WriteStats) :
    Operation (WriteStats × Except Error Unit) := do
  let maxAttempts := max 1 (← get).config.maxWriteRetries
  tallyAttempt page data maxAttempts (maxAttempts - 1) 1 stats

/-- Go on with the totals, or stop with the error beside them. -/
def settle (tally : WriteStats × Except Error Unit) : Operation WriteStats :=
  require (tally.2.map fun _ => tally.1)

theorem writeAttempt_eq (page : Nat) (data : List UInt8) (maxAttempts left attempt : Nat)
    (stats : WriteStats) :
    writeAttempt page data maxAttempts left attempt stats
      = tallyAttempt page data maxAttempts left attempt stats >>= settle := by
  induction left generalizing attempt stats with
  | zero =>
    rw [writeAttempt, tallyAttempt, tryPage_outcome, bind_assoc, bind_assoc]
    refine congrArg (bind _) (funext fun result => ?_)
    cases result with
    | ok status => rfl
    | error e =>
      dsimp only
      split
      · rfl
      · rfl
  | succ left ih =>
    rw [writeAttempt, tallyAttempt, tryPage_outcome, bind_assoc, bind_assoc]
    refine congrArg (bind _) (funext fun result => ?_)
    cases result with
    | ok status => rfl
    | error e =>
      dsimp only
      split
      · simp only [pure_bind, bind_assoc, ih]
      · rfl

/-- Runs of an operation, each in what the one before it left. -/
def successive (operation : Operation α) :
    Nat → Session → σ → Dialogue.Outcome σ (Except Error α × Session)
  | 0, session, link => (operation.runIn session).run link
  | n + 1, session, link =>
    let before := (operation.runIn session).run link
    operation.successive n before.value.2 before.link

end Operation

/-- What a page comes to whose last attempt out of at most `budget` comes to this. -/
def verdict (page budget : Nat) : Except Error Status → Except Error Unit
  | .ok _ => .ok ()
  | .error e => if e.isRetryable then .error (.writeExhausted page budget) else .error e

/-- The totals after a page whose attempts failed with `causes` before the last came to its
result. -/
def WriteStats.after (stats : WriteStats) (causes : List Error) (last : Except Error Status) :
    WriteStats :=
  { stats with
    written := stats.written + if last.isOk then 1 else 0
    retries := stats.retries + causes.length }

/-- Of the attempts that can be made within the budget, those before the last fail with `causes` in
turn, which may pass. The last does not, or it exhausts the budget. -/
structure Persists (attempts : Nat → Except Error Status) (budget : Nat) (causes : List Error) :
    Prop where
  within : causes.length < budget
  failed : ∀ n (early : n < causes.length), attempts n = .error causes[n] ∧ causes[n].Passing
  final : causes.length + 1 = budget ∨ ∀ e, attempts causes.length = .error e → ¬ e.Passing

namespace Persists

variable {attempts : Nat → Except Error Status} {budget : Nat} {causes : List Error}

theorem once (within : 0 < budget)
    (final : 1 = budget ∨ ∀ e, attempts 0 = .error e → ¬ e.Passing) :
    Persists attempts budget [] where
  within := within
  failed := nofun
  final := final

/-- An attempt that may be followed by another, before all others. -/
theorem cons {e : Error} (begun : attempts 0 = .error e) (passing : e.Passing)
    (persists : Persists (fun n => attempts (n + 1)) budget causes) :
    Persists attempts (budget + 1) (e :: causes) where
  within := Nat.succ_lt_succ persists.within
  failed
    | 0, _ => ⟨begun, passing⟩
    | n + 1, early => persists.failed n (Nat.lt_of_succ_lt_succ early)
  final := persists.final.imp_left (congrArg (· + 1))

end Persists

namespace Operation

variable {σ : Type} [Link σ]

/-- Programming and verifying a page reports nothing. -/
theorem progress_programVerified (page : Nat) (data : List UInt8) (session : Session) (link : σ) :
    Dialogue.progress (((programVerified page data).runIn session).run link).transcript = [] :=
  ((tacit_driving session.geometry).programVerified page data σ session link rfl).2

/-- What is left and what was said when as many of the attempts as `causes` and one more were made,
the first of them with the number `number`. -/
structure Tries (attempts : Nat → Dialogue.Outcome σ (Except Error Status × Session))
    (page budget number : Nat) (causes : List Error) (left : Session) (after : σ)
    (said : List Dialogue.Entry) : Prop where
  persists : Persists (fun n => (attempts n).value.1) budget causes
  left_eq : left = (attempts causes.length).value.2
  after_eq : after = (attempts causes.length).link
  reported : Dialogue.progress said = retries page number causes
  exchanged : Dialogue.exchanges said = (List.range (causes.length + 1)).flatMap fun n =>
    Dialogue.exchanges (attempts n).transcript

namespace Tries

variable {page number budget : Nat} {data : List UInt8} {session : Session} {link : σ}
  {causes : List Error}

/-- An attempt that is the last. -/
theorem once {result : Except Error Status} {left : Session} {after : σ}
    {said : List Dialogue.Entry}
    (ran : ((programVerified page data).runIn session).run link = ⟨(result, left), after, said⟩)
    (within : 0 < budget) (final : 1 = budget ∨ ∀ e, result = .error e → ¬ e.Passing)
    {notes : List Dialogue.Entry} (tacit : Dialogue.progress notes = [])
    (mute : Dialogue.exchanges notes = []) :
    Tries (fun n => successive (programVerified page data) n session link) page budget number []
      left after (said ++ notes) where
  persists := .once within (by simpa [successive, ran] using final)
  left_eq := by simp [successive, ran]
  after_eq := by simp [successive, ran]
  reported := by
    have silent := progress_programVerified page data session link
    rw [ran] at silent
    simp [silent, tacit, retries]
  exchanged := by simp [successive, ran, mute]

/-- An attempt more, before all others. -/
theorem cons {e : Error} {left last : Session} {after ended : σ} {said later : List Dialogue.Entry}
    (ran : ((programVerified page data).runIn session).run link = ⟨(.error e, left), after, said⟩)
    (passing : e.Passing) (notes : List Dialogue.Entry)
    (noted : Dialogue.progress notes = [.retry page number e])
    (mute : Dialogue.exchanges notes = [])
    (tries : Tries (fun n => successive (programVerified page data) n left after) page budget
      (number + 1) causes last ended later) :
    Tries (fun n => successive (programVerified page data) n session link) page (budget + 1) number
      (e :: causes) last ended (said ++ (notes ++ later)) where
  persists := by
    refine .cons (by simp [successive, ran]) passing ?_
    simpa [successive, ran] using tries.persists
  left_eq := by simpa [successive, ran] using tries.left_eq
  after_eq := by simpa [successive, ran] using tries.after_eq
  reported := by
    have silent := progress_programVerified page data session link
    rw [ran] at silent
    simp [silent, noted, tries.reported, retries]
  exchanged := by
    have first : List.range ((e :: causes).length + 1)
        = 0 :: (List.range (causes.length + 1)).map Nat.succ := List.range_succ_eq_map
    rw [Dialogue.exchanges_append, Dialogue.exchanges_append, mute, tries.exchanged, first,
      List.flatMap_cons, List.flatMap_map]
    simp [successive, ran]

/-- The page comes to what its last attempt comes to. -/
theorem ends {result : Except Error Status} {left : Session} {after : σ} {stats : WriteStats}
    {said notes : List Dialogue.Entry} {told : Except Error (WriteStats × Except Error Unit)}
    (ran : ((programVerified page data).runIn session).run link = ⟨(result, left), after, said⟩)
    (within : 0 < budget) (final : 1 = budget ∨ ∀ e, result = .error e → ¬ e.Passing)
    (tacit : Dialogue.progress notes = []) (mute : Dialogue.exchanges notes = [])
    {most : Nat} (counted : told = .ok (stats.after [] result, verdict page most result)) :
    let attempts := fun n => successive (programVerified page data) n session link
    ∃ causes, Tries attempts page budget number causes left after (said ++ notes) ∧
      told = .ok (stats.after causes (attempts causes.length).value.1,
        verdict page most (attempts causes.length).value.1) :=
  ⟨[], .once ran within final tacit mute, by simpa [successive, ran] using counted⟩

end Tries

/-- By induction on the attempts left, of which each begins where the one before it ended. -/
theorem tallyAttempt_tries (page : Nat) (data : List UInt8) (maxAttempts left attempt : Nat)
    (stats : WriteStats) (session : Session) (link : σ) :
    let attempts := fun n => successive (programVerified page data) n session link
    (tallyAttempt page data maxAttempts left attempt stats).Ensures session link
      fun result last after said => ∃ causes,
        Tries attempts page (left + 1) attempt causes last after said ∧
        result = .ok (stats.after causes (attempts causes.length).value.1,
          verdict page (attempt + left) (attempts causes.length).value.1) := by
  have verified (session : Session) (link : σ) :
      (programVerified page data).Ensures session link fun result last after said =>
        ((programVerified page data).runIn session).run link = ⟨(result, last), after, said⟩ := rfl
  induction left generalizing attempt stats session link with
  | zero =>
    refine ensures_bind.mpr (ensures_outcome.mpr ((verified session link).mono ?_))
    intro result last after said ran
    cases result with
    | ok status => exact Tries.ends ran Nat.one_pos (.inl rfl) rfl rfl rfl
    | error e =>
      dsimp only
      split
      · next retryable =>
        refine Tries.ends ran Nat.one_pos (.inl rfl) rfl rfl ?_
        rw [verdict, if_pos retryable]
        rfl
      · next final =>
        refine Tries.ends ran Nat.one_pos (.inl rfl) rfl rfl ?_
        rw [verdict, if_neg final]
        rfl
  | succ left ih =>
    refine ensures_bind.mpr (ensures_outcome.mpr ((verified session link).mono ?_))
    intro result last after said ran
    cases result with
    | ok status => exact Tries.ends ran (Nat.succ_pos _) (.inr nofun) rfl rfl rfl
    | error e =>
      dsimp only
      split
      · next retryable =>
        have passing := Error.isRetryable_iff.mp retryable
        refine ensures_note_bind.mpr (ensures_progress_bind.mpr ((ih _ _ last after).mono ?_))
        rintro told left ended later ⟨causes, tries, rfl⟩
        refine ⟨e :: causes, tries.cons ran passing [_, _] rfl rfl, ?_⟩
        simp [successive, ran, WriteStats.after, Nat.add_assoc, Nat.add_comm 1]
      · next final =>
        have stops : ∀ other, (.error e : Except Error Status) = .error other →
            ¬ other.Passing := by
          rintro _ ⟨⟩ passing
          exact final (Error.isRetryable_iff.mpr passing)
        refine Tries.ends ran (Nat.succ_pos _) (.inr stops) rfl rfl ?_
        rw [verdict, if_neg final]
        rfl

theorem ensures_settle {tally : Operation (WriteStats × Except Error Unit)} {session : Session}
    {link : σ} {post : Except Error WriteStats → Session → σ → List Dialogue.Entry → Prop} :
    (tally >>= settle).Ensures session link post ↔
      tally.Ensures session link fun told left after said =>
        post (told.bind fun told => told.2.map fun _ => told.1) left after said := by
  refine ensures_bind.trans (iff_of_eq ?_)
  refine congrArg (Ensures tally session link) (funext fun told => ?_)
  cases told with
  | error e => rfl
  | ok told =>
    funext left after said
    refine (propext ensures_require).trans ?_
    rw [List.append_nil]
    rfl

theorem writePage_eq (page : Nat) (data : List UInt8) (stats : WriteStats) :
    writePage page data stats = tallyPage page data stats >>= settle := by
  rw [writePage, tallyPage, bind_assoc]
  exact congrArg (bind get) (funext fun session => writeAttempt_eq ..)

theorem tallyPage_tries (page : Nat) (data : List UInt8) (stats : WriteStats) (session : Session)
    (link : σ) :
    let budget := max 1 session.config.maxWriteRetries
    let attempts := fun n => successive (programVerified page data) n session link
    (tallyPage page data stats).Ensures session link fun result last after said => ∃ causes,
      Tries attempts page budget 1 causes last after said ∧
      result = .ok (stats.after causes (attempts causes.length).value.1,
        verdict page budget (attempts causes.length).value.1) := by
  have tries := tallyAttempt_tries page data (max 1 session.config.maxWriteRetries)
    (max 1 session.config.maxWriteRetries - 1) 1 stats session link
  rw [Nat.add_comm 1, Nat.sub_add_cancel (Nat.le_max_left 1 _)] at tries
  exact ensures_bind.mpr (ensures_get.mpr tries)

/-- Program and verify a page over any link, within the session's budget of attempts. Every attempt
but the last fails with a cause that may pass, and is reported as a retry with that cause. The last
does not, or it exhausts the budget, and the page comes to what it comes to. The totals count each
attempt after the first as a retry, even if the page is given up, and the page if it is written. -/
theorem writePage_tries (page : Nat) (data : List UInt8) (stats : WriteStats) (session : Session)
    (link : σ) :
    let budget := max 1 session.config.maxWriteRetries
    let attempts := fun n => successive (programVerified page data) n session link
    let written := ((writePage page data stats).runIn session).run link
    let tallied := ((tallyPage page data stats).runIn session).run link
    writePage page data stats = tallyPage page data stats >>= settle ∧
    ∃ causes, let last := (attempts causes.length).value.1
      Tries attempts page budget 1 causes written.value.2 written.link written.transcript ∧
      written.value.1 = (verdict page budget last).map (fun _ => stats.after causes last) ∧
      tallied.value.1 = .ok (stats.after causes last, verdict page budget last) := by
  obtain ⟨causes, tries, counted⟩ := tallyPage_tries page data stats session link
  have settled : (writePage page data stats).Ensures session link fun result last after said =>
      let tallied := ((tallyPage page data stats).runIn session).run link
      result = (tallied.value.1.bind fun told => told.2.map fun _ => told.1) ∧
        last = tallied.value.2 ∧ after = tallied.link ∧ said = tallied.transcript := by
    rw [writePage_eq]
    exact ensures_settle.mpr ⟨rfl, rfl, rfl, rfl⟩
  obtain ⟨result_eq, left_eq, after_eq, said_eq⟩ := settled
  refine ⟨writePage_eq page data stats, causes, ?_, ?_, counted⟩
  · rw [left_eq, after_eq, said_eq]
    exact tries
  · rw [result_eq, counted]
    rfl

end Operation
end OnfiFlash
