import OnfiFlash.Proofs.ImageStorage
import OnfiFlash.Proofs.InUse
import OnfiFlash.Proofs.Reporting

/-! What is reported while an image is written. Over whatever link, the reports follow one order from
which they break off at the first failure: page after page the blocks that are erased to make room
for it, the attempts that failed and the page itself, then the index block and the index page. The
totals at the end agree with what was reported. -/
namespace OnfiFlash

def Progress.isErasing : Progress → Bool
  | .erasing _ => true
  | _ => false

def Progress.isRetry : Progress → Bool
  | .retry .. => true
  | _ => false

/-- The reports of failed attempts to write a page, numbered from `attempt` on. -/
def retries (page : Nat) : (attempt : Nat) → (causes : List Error) → List Progress
  | _, [] => []
  | attempt, cause :: rest => .retry page attempt cause :: retries page (attempt + 1) rest

/-- What is reported about a page of an image. -/
structure PageReport where
  /-- The blocks that were erased, or should have been, before the page was written. -/
  erased : List Nat
  page : Nat
  /-- What the attempts before the last failed with. -/
  causes : List Error

namespace PageReport

/-- The reports about a page, with `done` pages before it. -/
def steps (done : Nat) (report : PageReport) : List Progress :=
  report.erased.map .erasing ++ retries report.page 1 report.causes ++ [.written (done + 1)]

/-- The reports about pages, with `done` pages before them. -/
def stepsAfter : (done : Nat) → List PageReport → List Progress
  | _, [] => []
  | done, report :: rest => report.steps done ++ stepsAfter (done + 1) rest

/-- The blocks that were erased, or should have been, in order. -/
def erasedBy (reports : List PageReport) : List Nat := reports.flatMap (·.erased)

/-- Blocks are erased where a block is full and nowhere else, and pages are written on from the
first of the block erased last; `page` is where the next page is written if no block is due. -/
def Orderly (g : Geometry) : (done page : Nat) → List PageReport → Prop
  | _, _, [] => True
  | done, page, report :: rest =>
    (report.erased ≠ [] ↔ done % g.pagesPerBlock = 0) ∧
      report.page = report.erased.getLast?.elim page g.firstPage ∧
      Orderly g (done + 1) (report.page + 1) rest

/-- The reports about `count` pages that follow `done` others and use blocks from `first` on. -/
structure Continues (g : Geometry) (done page first count : Nat) (reports : List PageReport) :
    Prop where
  length : reports.length = count
  orderly : Orderly g done page reports
  behind : ∀ block ∈ erasedBy reports, first ≤ block
  ascending : (erasedBy reports).Pairwise (· < ·)

/-- How the place of the next page is come to by erasing blocks: they lie from `first` on and
before `next`. -/
structure Comes (g : Geometry) (done page first : Nat) (erased : List Nat) (place next : Nat) :
    Prop where
  due : erased ≠ [] ↔ done % g.pagesPerBlock = 0
  place : place = erased.getLast?.elim page g.firstPage
  behind : ∀ block ∈ erased, first ≤ block ∧ block < next
  ascending : erased.Pairwise (· < ·)
  onward : first ≤ next

variable {g : Geometry} {done page first next place count : Nat} {erased : List Nat}
  {reports : List PageReport}

theorem Continues.cons (comes : Comes g done page first erased place next) (causes : List Error)
    (rest : Continues g (done + 1) (place + 1) next count reports) :
    Continues g done page first (count + 1) (⟨erased, place, causes⟩ :: reports) where
  length := congrArg (· + 1) rest.length
  orderly := ⟨comes.due, comes.place, rest.orderly⟩
  behind block listed := by
    rcases List.mem_append.mp listed with here | later
    · exact (comes.behind block here).1
    · exact Nat.le_trans comes.onward (rest.behind block later)
  ascending := by
    refine List.pairwise_append.mpr ⟨comes.ascending, rest.ascending, ?_⟩
    exact fun block here other later =>
      Nat.lt_of_lt_of_le (comes.behind block here).2 (rest.behind other later)

/-- Whatever the place, it can be gone on from. -/
theorem exists_continues (g : Geometry) (done page first count : Nat) :
    ∃ reports, Continues g done page first count reports := by
  induction count generalizing done page first with
  | zero => exact ⟨[], rfl, trivial, nofun, .nil⟩
  | succ count ih =>
    by_cases due : done % g.pagesPerBlock = 0
    · obtain ⟨reports, rest⟩ := ih (done + 1) (g.firstPage first + 1) (first + 1)
      have comes : Comes g done page first [first] (g.firstPage first) (first + 1) :=
        ⟨iff_of_true nofun due, rfl, by simp, List.pairwise_singleton _ _, Nat.le_succ _⟩
      exact ⟨_, rest.cons comes []⟩
    · obtain ⟨reports, rest⟩ := ih (done + 1) (page + 1) first
      have comes : Comes g done page first [] page first :=
        ⟨iff_of_false (fun some => some rfl) due, rfl, nofun, .nil, Nat.le_refl _⟩
      exact ⟨_, rest.cons comes []⟩

/-- If a page is not written in the end, its reports are the beginning of what would follow. -/
theorem Comes.breaks_off (comes : Comes g done page first erased place next) (causes : List Error)
    (count : Nat) :
    ∃ reports, Continues g done page first (count + 1) reports ∧
      erased.map .erasing ++ retries place 1 causes <+: stepsAfter done reports := by
  obtain ⟨rest, continues⟩ := exists_continues g (done + 1) (place + 1) next count
  refine ⟨_, continues.cons comes causes, ?_⟩
  rw [stepsAfter, steps, List.append_assoc (_ ++ _)]
  exact List.prefix_append _ _

end PageReport

/-- What is reported about an image. -/
structure ImageReport where
  pages : List PageReport
  /-- What the attempts to write the index page failed with before the last. -/
  causes : List Error
  stats : WriteStats

namespace ImageReport

/-- The reports before the last. -/
def begun (g : Geometry) (indexPage : Nat) (report : ImageReport) : List Progress :=
  .writing report.pages.length :: (PageReport.stepsAfter 0 report.pages
    ++ .erasing (g.blockOf indexPage) :: retries indexPage 1 report.causes)

/-- All reports. -/
def steps (g : Geometry) (indexPage : Nat) (report : ImageReport) : List Progress :=
  report.begun g indexPage ++ [.complete report.stats]

end ImageReport

theorem countP_isErasing_retries (page attempt : Nat) (causes : List Error) :
    (retries page attempt causes).countP Progress.isErasing = 0 := by
  induction causes generalizing attempt with
  | nil => rfl
  | cons cause rest ih => exact ih (attempt + 1)

theorem complete_not_mem_retries (stats : WriteStats) (page attempt : Nat) (causes : List Error) :
    .complete stats ∉ retries page attempt causes := by
  induction causes generalizing attempt with
  | nil => exact nofun
  | cons cause rest ih => simp [retries, ih]

theorem complete_not_mem_stepsAfter (stats : WriteStats) (done : Nat) (reports : List PageReport) :
    .complete stats ∉ PageReport.stepsAfter done reports := by
  induction reports generalizing done with
  | nil => exact nofun
  | cons report rest ih =>
    simp [PageReport.stepsAfter, PageReport.steps, complete_not_mem_retries, ih]

/-- Only the last report says that the write is complete. -/
theorem ImageReport.complete_not_mem_begun (g : Geometry) (indexPage : Nat) (report : ImageReport)
    (stats : WriteStats) : .complete stats ∉ report.begun g indexPage := by
  simp [begun, complete_not_mem_retries, complete_not_mem_stepsAfter]

/-- Everything said between two totals was counted, and `pages` pages were written. -/
structure WriteStats.Tallied (before : WriteStats) (said : List Progress) (pages : Nat)
    (after : WriteStats) : Prop where
  erased : after.erased = before.erased + said.countP Progress.isErasing
  retries : after.retries = before.retries + said.countP Progress.isRetry
  written : after.written = before.written + pages

namespace WriteStats.Tallied

variable {before mid after : WriteStats} {said later : List Progress} {pages more : Nat}

theorem refl (stats : WriteStats) : stats.Tallied [] 0 stats := ⟨rfl, rfl, rfl⟩

theorem trans (first : before.Tallied said pages mid) (second : mid.Tallied later more after) :
    before.Tallied (said ++ later) (pages + more) after where
  erased := by rw [second.erased, first.erased, List.countP_append, Nat.add_assoc]
  retries := by rw [second.retries, first.retries, List.countP_append, Nat.add_assoc]
  written := by rw [second.written, first.written, Nat.add_assoc]

end WriteStats.Tallied

/-- How the reports end: they break off, or all was said and the totals agree with it. -/
def ImageReport.Ends (g : Geometry) (indexPage : Nat) (data : List UInt8) (report : ImageReport)
    (said : List Progress) : Except Error (List Nat) → Prop
  | .ok used => said = report.steps g indexPage ∧
    ({} : WriteStats).Tallied said (chunkCount g.bytesPerPage data.length + 1) report.stats ∧
    (data = [] → report.stats.skipped = 0) ∧
    (data ≠ [] → ∃ last, used.getLast? = some last ∧
      last = g.blockOf indexPage + used.length + report.stats.skipped)
  | .error _ => said <+: report.begun g indexPage

namespace Operation

variable {g : Geometry}

/-- By induction on the attempts left: each failed attempt but the last is reported and counted. -/
theorem writeAttempt_reports (page : Nat) (data : List UInt8) (maxAttempts left attempt : Nat)
    (stats : WriteStats) :
    (writeAttempt page data maxAttempts left attempt stats).Reports g fun result said =>
      ∃ causes, said = retries page attempt causes ∧ ∀ after, result = .ok after →
        stats.Tallied said 1 after ∧ after.skipped = stats.skipped := by
  have wrote : ∀ stats after : WriteStats,
      (.ok { stats with written := stats.written + 1 } : Except Error WriteStats) = .ok after →
        stats.Tallied [] 1 after ∧ after.skipped = stats.skipped := by
    rintro stats _ ⟨⟩
    exact ⟨⟨rfl, rfl, rfl⟩, rfl⟩
  induction left generalizing attempt stats with
  | zero =>
    refine ((tacit_driving g).tryPage page data).bind_reports (fun e => ⟨[], rfl, nofun⟩) ?_
    intro failed
    cases failed with
    | none => exact reports_pure ⟨[], rfl, wrote stats⟩
    | some e => exact reports_note_bind (reports_throw ⟨[], rfl, nofun⟩)
  | succ left ih =>
    refine ((tacit_driving g).tryPage page data).bind_reports (fun e => ⟨[], rfl, nofun⟩) ?_
    intro failed
    cases failed with
    | none => exact reports_pure ⟨[], rfl, wrote stats⟩
    | some e =>
      refine reports_note_bind (reports_progress_bind ((ih _ _).mono ?_))
      rintro result later ⟨causes, rfl, counted⟩
      refine ⟨e :: causes, rfl, fun after succeeded => ?_⟩
      obtain ⟨tallied, kept⟩ := counted after succeeded
      have once : stats.Tallied [.retry page attempt e] 0
          { stats with retries := stats.retries + 1 } := ⟨rfl, rfl, rfl⟩
      exact ⟨once.trans tallied, kept⟩

theorem writePage_reports (page : Nat) (data : List UInt8) (stats : WriteStats) :
    (writePage page data stats).Reports g fun result said =>
      ∃ causes, said = retries page 1 causes ∧ ∀ after, result = .ok after →
        stats.Tallied said 1 after ∧ after.skipped = stats.skipped :=
  reports_get_bind fun _ _ => writeAttempt_reports page data _ _ 1 stats

theorem eraseRequired_reports (block : Nat) (stats : WriteStats) :
    (eraseRequired block stats).Reports g fun result said =>
      said = [.erasing block] ∧ ∀ after, result = .ok after →
        stats.Tallied said 0 after ∧ after.skipped = stats.skipped := by
  refine reports_progress_bind (((tacit_driving g).eraseBlock block).bind_reports
    (fun e => ⟨rfl, nofun⟩) fun status => ?_)
  dsimp only
  split
  · exact reports_throw_bind ⟨rfl, nofun⟩
  · refine reports_pure ⟨rfl, ?_⟩
    rintro _ ⟨⟩
    exact ⟨⟨rfl, rfl, rfl⟩, rfl⟩

/-- What a search through `count` blocks from `block` on reports and comes to: the blocks it erases
ascend, and the block found is the last of them. Each block before it was passed over. -/
structure Search (block count : Nat) (stats : WriteStats) (erased : List Nat)
    (result : Except Error (Nat × WriteStats)) : Prop where
  ascending : erased.Pairwise (· < ·)
  behind : ∀ other ∈ erased, block ≤ other ∧ other < block + count
  found : ∀ found after, result = .ok (found, after) → erased.getLast? = some found ∧
    stats.Tallied (erased.map .erasing) 0 after ∧ found + stats.skipped = block + after.skipped

namespace Search

variable {block count : Nat} {stats : WriteStats} {erased : List Nat}
  {result : Except Error (Nat × WriteStats)}

theorem failed (e : Error) : Search block count stats [] (.error e) := ⟨.nil, nofun, nofun⟩

theorem here : Search block (count + 1) stats [block]
    (.ok (block, { stats with erased := stats.erased + 1 })) where
  ascending := List.pairwise_singleton _ _
  behind := by simp
  found := by
    rintro _ _ ⟨⟩
    exact ⟨rfl, ⟨rfl, rfl, rfl⟩, rfl⟩

/-- Behind a block that is known to be bad. -/
theorem pass (search : Search (block + 1) count { stats with skipped := stats.skipped + 1 } erased
    result) : Search block (count + 1) stats erased result where
  ascending := search.ascending
  behind other listed := by
    have bounds := search.behind other listed
    omega
  found place after succeeded := by
    obtain ⟨last, tallied, passed⟩ := search.found place after succeeded
    refine ⟨last, ⟨tallied.erased, tallied.retries, tallied.written⟩, ?_⟩
    dsimp only at passed
    omega

/-- Behind a block that cannot be erased. -/
theorem passErased (search : Search (block + 1) count
    { stats with erased := stats.erased + 1, skipped := stats.skipped + 1 } erased result) :
    Search block (count + 1) stats (block :: erased) result where
  ascending :=
    List.pairwise_cons.mpr ⟨fun other listed => (search.behind other listed).1, search.ascending⟩
  behind := by
    refine List.forall_mem_cons.mpr ⟨by omega, fun other listed => ?_⟩
    have bounds := search.behind other listed
    omega
  found place after succeeded := by
    obtain ⟨last, tallied, passed⟩ := search.found place after succeeded
    have first : stats.Tallied [.erasing block] 0 { stats with
        erased := stats.erased + 1, skipped := stats.skipped + 1 } := ⟨rfl, rfl, rfl⟩
    refine ⟨?_, first.trans tallied, ?_⟩
    · rw [List.getLast?_cons, last]
      rfl
    · dsimp only at passed
      omega

/-- A search that finds a block goes on behind it. -/
theorem comes {g : Geometry} {done found : Nat} {after : WriteStats} (page : Nat)
    (search : Search block count stats erased (.ok (found, after)))
    (due : done % g.pagesPerBlock = 0) :
    PageReport.Comes g done page block erased (g.firstPage found) (found + 1) := by
  obtain ⟨last, -, -⟩ := search.found found after rfl
  obtain ⟨earlier, rfl⟩ := List.getLast?_eq_some_iff.mp last
  have before := (List.pairwise_append.mp search.ascending).2.2
  have onward := (search.behind found (List.mem_append_right _ (.head _))).1
  refine ⟨iff_of_true (by simp) due, ?_, fun other listed => ⟨(search.behind other listed).1, ?_⟩,
    search.ascending, Nat.le_succ_of_le onward⟩
  · rw [last]
    rfl
  · rcases List.mem_append.mp listed with sooner | latest
    · exact Nat.lt_succ_of_lt (before other sooner found (.head _))
    · exact Nat.lt_succ_of_le (Nat.le_of_eq (List.mem_singleton.mp latest))

/-- A search that finds nothing may have erased blocks before. -/
theorem comes_of_ne_nil {g : Geometry} {done : Nat} (page : Nat)
    (search : Search block count stats erased result) (some : erased ≠ [])
    (due : done % g.pagesPerBlock = 0) :
    PageReport.Comes g done page block erased (erased.getLast?.elim page g.firstPage)
      (block + count) :=
  ⟨iff_of_true some due, rfl, search.behind, search.ascending, Nat.le_add_right _ _⟩

end Search

/-- By induction on the blocks left to search. -/
theorem findBlock_reports (start count block : Nat) (stats : WriteStats) :
    (findBlock start count block stats).Reports g fun result said =>
      ∃ erased : List Nat, said = erased.map .erasing ∧ Search block count stats erased result := by
  induction count generalizing block stats with
  | zero => exact reports_note_bind (reports_throw ⟨[], rfl, .failed _⟩)
  | succ count ih =>
    refine ((tacit_driving g).isKnownBad block).bind_reports (fun e => ⟨[], rfl, .failed e⟩) ?_
    intro bad
    split
    · refine reports_note_bind ((ih (block + 1) _).mono ?_)
      rintro result said ⟨erased, rfl, search⟩
      exact ⟨erased, rfl, search.pass⟩
    · refine reports_progress_bind (((tacit_driving g).eraseBlock block).bind_reports ?_ ?_)
      · exact fun e => ⟨[block], rfl, (Search.failed e).passErased⟩
      · intro status
        dsimp only
        split
        · refine reports_note_bind ((ih (block + 1) _).mono ?_)
          rintro result said ⟨erased, rfl, search⟩
          exact ⟨block :: erased, rfl, search.passErased⟩
        · exact reports_pure ⟨[block], rfl, .here⟩

/-- Where a cursor stands among the blocks: each block behind the index block was used or passed
over. -/
structure WriteCursor.Accounted (g : Geometry) (indexBlock : Nat) (cursor : WriteCursor)
    (room : Nat) : Prop where
  placed : cursor.Placed g indexBlock cursor.used room
  passed : cursor.nextBlock = indexBlock + 1 + cursor.used.length + cursor.stats.skipped
  fresh : cursor.used = [] → cursor.stats.skipped = 0

section Pieces

variable {indexBlock room : Nat} {cursor : WriteCursor}

/-- No room is left exactly when whole blocks are written. -/
theorem WriteCursor.Placed.full_iff {fresh : List Nat}
    (placed : cursor.Placed g indexBlock fresh room) (spent : room < g.pagesPerBlock) :
    cursor.done % g.pagesPerBlock = 0 ↔ room = 0 := by
  have whole : g.pagesPerBlock ∣ cursor.done + room := placed.count ▸ Nat.dvd_mul_left _ _
  rw [← Nat.dvd_iff_mod_eq_zero]
  constructor
  · exact fun full => Nat.eq_zero_of_dvd_of_lt ((Nat.dvd_add_right full).mp whole) spent
  · rintro rfl
    exact whole

/-- Before the first page, no block was passed over. -/
theorem WriteCursor.Accounted.none (accounted : cursor.Accounted g indexBlock room)
    (spent : room < g.pagesPerBlock) (blank : cursor.done = 0) : cursor.stats.skipped = 0 := by
  refine accounted.fresh (List.eq_nil_of_length_eq_zero ?_)
  have count := accounted.placed.count
  rw [blank, Nat.zero_add] at count
  have few : cursor.used.length * g.pagesPerBlock < 1 * g.pagesPerBlock := by
    rw [count, Nat.one_mul]
    exact spent
  exact Nat.lt_one_iff.mp (Nat.lt_of_mul_lt_mul_right few)

/-- Behind the first page, the block used last tells how many were passed over. -/
theorem WriteCursor.Accounted.latest (accounted : cursor.Accounted g indexBlock room)
    (begun : 0 < cursor.done) :
    ∃ last, cursor.used.reverse.getLast? = some last ∧
      last = indexBlock + cursor.used.reverse.length + cursor.stats.skipped := by
  have count := accounted.placed.count
  have passed := accounted.passed
  cases listed : cursor.used with
  | nil =>
    rw [listed, List.length_nil, Nat.zero_mul] at count
    omega
  | cons last earlier =>
    have next := (accounted.placed.latest last earlier listed).1
    refine ⟨last, by rw [List.getLast?_reverse]; rfl, ?_⟩
    rw [listed] at passed
    rw [List.length_reverse]
    omega

/-- How many blocks were passed over for an image. -/
theorem WriteCursor.Accounted.skipped {data : List UInt8} (dimensions : g.Dimensions)
    (accounted : cursor.Accounted g indexBlock room) (spent : room < g.pagesPerBlock)
    (count : cursor.done = chunkCount g.bytesPerPage data.length) :
    (data = [] → cursor.stats.skipped = 0) ∧
      (data ≠ [] → ∃ last, cursor.used.reverse.getLast? = some last ∧
        last = indexBlock + cursor.used.reverse.length + cursor.stats.skipped) := by
  constructor
  · rintro rfl
    exact accounted.none spent (count.trans (chunkCount_zero dimensions.bytesPerPage))
  · intro nonempty
    refine accounted.latest (count ▸ lt_chunkCount dimensions.bytesPerPage ?_)
    rw [Nat.zero_mul]
    exact List.length_pos_iff.mpr nonempty

/-- Going on to a block that was searched for. -/
theorem WriteCursor.Accounted.onto {found : Nat} {stats : WriteStats} {erased : List Nat}
    (accounted : cursor.Accounted g indexBlock 0)
    (search : Search cursor.nextBlock (g.totalBlocks - cursor.nextBlock) cursor.stats erased
      (.ok (found, stats))) :
    (cursor.onto g found stats).Accounted g indexBlock g.pagesPerBlock := by
  obtain ⟨last, -, passed⟩ := search.found found stats rfl
  obtain ⟨onward, inRange⟩ := search.behind found (List.mem_of_getLast? last)
  rw [Nat.add_sub_of_le accounted.placed.next.2] at inRange
  refine ⟨accounted.placed.onto stats onward inRange, ?_, nofun⟩
  have account := accounted.passed
  show found + 1 = indexBlock + 1 + (cursor.used.length + 1) + stats.skipped
  omega

/-- Going on to the next page. -/
theorem WriteCursor.Accounted.past {stats : WriteStats}
    (accounted : cursor.Accounted g indexBlock (room + 1))
    (kept : stats.skipped = cursor.stats.skipped) :
    (cursor.past stats).Accounted g indexBlock room := by
  refine ⟨accounted.placed.past stats, ?_, fun unused => kept.trans (accounted.fresh unused)⟩
  show cursor.nextBlock = indexBlock + 1 + cursor.used.length + stats.skipped
  rw [kept, accounted.passed]

theorem advance_reports (dimensions : g.Dimensions)
    (accounted : cursor.Accounted g indexBlock room) (spent : room < g.pagesPerBlock) :
    cursor.advance.Reports g fun result said =>
      ∃ erased : List Nat, said = erased.map .erasing ∧ match result with
        | .ok next => ∃ room, next.Accounted g indexBlock (room + 1) ∧ next.done = cursor.done ∧
          cursor.stats.Tallied said 0 next.stats ∧
          PageReport.Comes g cursor.done cursor.page cursor.nextBlock erased next.page next.nextBlock
        | .error _ => erased = [] ∨ ∃ place next,
          PageReport.Comes g cursor.done cursor.page cursor.nextBlock erased place next := by
  have placed := accounted.placed
  have full := placed.full_iff spent
  refine reports_geometry_bind ?_
  split
  · next due =>
    obtain rfl := (placed.due_iff dimensions spent).mp due
    have whole := full.mpr rfl
    dsimp only
    split
    · exact reports_note_bind (reports_throw_bind ⟨[], rfl, .inl rfl⟩)
    · refine .bind (reports_geometry_bind (findBlock_reports _ _ _ _)) ?_ ?_
      · rintro e said ⟨erased, rfl, search⟩
        refine ⟨erased, rfl, ?_⟩
        by_cases none : erased = []
        · exact .inl none
        · exact .inr ⟨_, _, search.comes_of_ne_nil _ none whole⟩
      · rintro ⟨block, stats⟩ said ⟨erased, rfl, search⟩
        obtain ⟨-, tallied, -⟩ := search.found block stats rfl
        obtain ⟨room, pages⟩ : ∃ room, g.pagesPerBlock = room + 1 :=
          Nat.exists_eq_succ_of_ne_zero (Nat.ne_of_gt dimensions.pagesPerBlock)
        have continued := accounted.onto search
        rw [pages] at continued
        refine reports_pure ⟨erased, List.append_nil _, room, continued, rfl, ?_,
          search.comes _ whole⟩
        rw [List.append_nil]
        exact tallied
  · next notDue =>
    cases room with
    | zero => exact absurd ((placed.due_iff dimensions spent).mpr rfl) notDue
    | succ room =>
      refine reports_pure ⟨[], rfl, room, accounted, rfl, .refl _, ?_, rfl, nofun, .nil, Nat.le_refl _⟩
      exact iff_of_false (fun some => some rfl) fun whole => nomatch full.mp whole

/-- By induction on the pieces left: the reports about their pages follow on those so far, and break
off where the write ends. -/
theorem writePieces_reports (dimensions : g.Dimensions) (pieces : List (List UInt8))
    (accounted : cursor.Accounted g indexBlock room) (spent : room < g.pagesPerBlock) :
    (writePieces pieces cursor).Reports g fun result said =>
      ∃ reports, PageReport.Continues g cursor.done cursor.page cursor.nextBlock pieces.length
          reports ∧ match result with
        | .ok last => said = PageReport.stepsAfter cursor.done reports ∧
          cursor.stats.Tallied said pieces.length last.stats ∧
          last.done = cursor.done + pieces.length ∧
          ∃ room, room < g.pagesPerBlock ∧ last.Accounted g indexBlock room
        | .error _ => said <+: PageReport.stepsAfter cursor.done reports := by
  induction pieces generalizing cursor room with
  | nil =>
    exact reports_pure ⟨[], ⟨rfl, trivial, nofun, .nil⟩, rfl, .refl _, rfl, room, spent, accounted⟩
  | cons piece rest ih =>
    refine .bind (advance_reports dimensions accounted spent) ?_ ?_
    · rintro e said ⟨erased, rfl, rfl | ⟨place, next, comes⟩⟩
      · obtain ⟨reports, continues⟩ := PageReport.exists_continues g cursor.done cursor.page
          cursor.nextBlock (rest.length + 1)
        exact ⟨reports, continues, List.nil_prefix⟩
      · obtain ⟨reports, continues, broken⟩ := comes.breaks_off [] rest.length
        rw [retries, List.append_nil] at broken
        exact ⟨reports, continues, broken⟩
    · rintro next said ⟨erased, rfl, room, begun, same, tallied, comes⟩
      refine reports_geometry_bind (.bind (writePage_reports _ _ _) ?_ ?_)
      · rintro e said ⟨causes, rfl, -⟩
        exact comes.breaks_off causes rest.length
      · rintro stats later ⟨causes, rfl, counted⟩
        obtain ⟨talliedPage, kept⟩ := counted stats rfl
        refine reports_progress_bind ((ih (begun.past kept) begun.placed.fits).mono ?_)
        rintro result final ⟨reports, continues, ended⟩
        have done : (next.past stats).done = cursor.done + 1 := congrArg (· + 1) same
        rw [done] at continues
        refine ⟨_, continues.cons comes causes, ?_⟩
        have joined : erased.map .erasing ++ (retries next.page 1 causes
            ++ .written (next.done + 1) :: final)
            = (⟨erased, next.page, causes⟩ : PageReport).steps cursor.done ++ final := by
          rw [same, PageReport.steps]
          simp
        rw [joined, PageReport.stepsAfter]
        cases result with
        | error e =>
          rw [done] at ended
          exact List.prefix_append_right_inj _ |>.mpr ended
        | ok last =>
          obtain ⟨told, talliedRest, count, room, spent, left⟩ := ended
          rw [done] at told count
          have reported : stats.Tallied [.written (cursor.done + 1)] 0 stats := ⟨rfl, rfl, rfl⟩
          have all := ((tallied.trans talliedPage).trans reported).trans talliedRest
          rw [Nat.add_comm _ rest.length] at all
          refine ⟨by rw [told], all, ?_, room, spent, left⟩
          rw [count, List.length_cons]
          omega

end Pieces

theorem writeRecord_reports (indexBlock indexPage : Nat) (contents : List UInt8) (stats : WriteStats)
    (used : List Nat) :
    (writeRecord indexBlock indexPage contents stats used).Reports g fun result said =>
      ∃ causes, match result with
        | .ok listed => listed = used ∧ ∃ after : WriteStats,
          said = .erasing indexBlock :: retries indexPage 1 causes ++ [.complete after] ∧
          stats.Tallied said 1 after ∧ after.skipped = stats.skipped
        | .error _ => said <+: .erasing indexBlock :: retries indexPage 1 causes := by
  refine .bind (eraseRequired_reports indexBlock stats) ?_ ?_
  · rintro e said ⟨rfl, -⟩
    exact ⟨[], List.prefix_refl _⟩
  · rintro erased said ⟨rfl, counted⟩
    obtain ⟨tallied, kept⟩ := counted erased rfl
    refine .bind (writePage_reports indexPage contents erased) ?_ ?_
    · rintro e later ⟨causes, rfl, -⟩
      exact ⟨causes, List.prefix_refl _⟩
    · rintro after later ⟨causes, rfl, countedPage⟩
      obtain ⟨talliedPage, keptPage⟩ := countedPage after rfl
      have completed : after.Tallied [.complete after] 0 after := ⟨rfl, rfl, rfl⟩
      refine reports_progress_bind (reports_pure ⟨causes, rfl, after, rfl, ?_, ?_⟩)
      · exact tallied.trans (talliedPage.trans completed)
      · rw [keptPage, kept]

theorem accounted_start {indexPage : Nat} (inRange : indexPage < g.totalPages) :
    ({ nextBlock := g.blockOf indexPage + 1 } : WriteCursor).Accounted g
      (g.blockOf indexPage) 0 :=
  ⟨WriteCursor.placed_start inRange, rfl, fun _ => rfl⟩

theorem prefix_begun {pages indexPage : Nat} {report : ImageReport} {said : List Progress}
    (count : report.pages.length = pages)
    (broken : said <+: PageReport.stepsAfter 0 report.pages
      ++ .erasing (g.blockOf indexPage) :: retries indexPage 1 report.causes) :
    .writing pages :: said <+: report.begun g indexPage := by
  subst count
  exact List.cons_prefix_cons.mpr ⟨rfl, broken⟩

/-- What is reported about an image once its index page is read. -/
theorem storeImage_reports (dimensions : g.Dimensions) {indexPage : Nat}
    (inRange : indexPage < g.totalPages) (data old : List UInt8) :
    (storeImage g indexPage data old).Reports g fun result said =>
      ∃ report : ImageReport, PageReport.Continues g 0 0 (g.blockOf indexPage + 1)
          (chunkCount g.bytesPerPage data.length) report.pages ∧
        report.Ends g indexPage data said result := by
  have length := length_chunks dimensions.bytesPerPage data
  have start := accounted_start inRange
  refine reports_progress_bind (.bind (writePieces_reports dimensions _ start
    dimensions.pagesPerBlock) ?_ ?_)
  · rintro e said ⟨reports, continues, broken⟩
    rw [length] at continues
    refine ⟨⟨reports, [], {}⟩, continues, prefix_begun continues.length ?_⟩
    exact broken.trans (List.prefix_append _ _)
  · rintro cursor said ⟨reports, continues, rfl, tallied, count, room, spent, left⟩
    rw [length] at continues tallied count
    refine reports_require_bind ?_ fun record _ => (writeRecord_reports _ _ _ _ _).mono ?_
    · intro e _
      rw [List.append_nil]
      refine ⟨⟨reports, [], {}⟩, continues, prefix_begun continues.length ?_⟩
      exact List.prefix_append _ _
    rintro result later ⟨causes, ended⟩
    cases result with
    | error e =>
      refine ⟨⟨reports, causes, {}⟩, continues, prefix_begun continues.length ?_⟩
      exact (List.prefix_append_right_inj _).mpr ended
    | ok used =>
      obtain ⟨rfl, after, rfl, talliedRecord, kept⟩ := ended
      have announced : ({} : WriteStats).Tallied
          [.writing (chunkCount g.bytesPerPage data.length)] 0 {} := ⟨rfl, rfl, rfl⟩
      have all := announced.trans (tallied.trans talliedRecord)
      have skipped := left.skipped dimensions spent (count.trans (Nat.zero_add _))
      rw [Nat.zero_add] at all
      rw [← kept] at skipped
      refine ⟨⟨reports, causes, after⟩, continues, ?_, all, skipped⟩
      rw [ImageReport.steps, ImageReport.begun, continues.length]
      simp

/-- What is reported about an image, and what its totals are if all of it is written. -/
theorem writeImage_reports (valid : g.Valid) (indexPage : Nat) (data : List UInt8) :
    (writeImage indexPage data).Reports g fun result said =>
      ∃ report : ImageReport, PageReport.Continues g 0 0 (g.blockOf indexPage + 1)
          (chunkCount g.bytesPerPage data.length) report.pages ∧
        report.Ends g indexPage data said result := by
  have driving := tacit_driving g
  obtain ⟨pages, planned⟩ := PageReport.exists_continues g 0 0 (g.blockOf indexPage + 1)
    (chunkCount g.bytesPerPage data.length)
  have silent : ∃ report : ImageReport, PageReport.Continues g 0 0 (g.blockOf indexPage + 1)
      (chunkCount g.bytesPerPage data.length) report.pages ∧ [] <+: report.begun g indexPage :=
    ⟨⟨pages, [], {}⟩, planned, List.nil_prefix⟩
  rw [writeImage_eq]
  refine reports_geometry_bind (reports_require_bind (fun e _ => silent) fun _ passes => ?_)
  have inRange := Geometry.lt_of_checkPage passes
  refine driving.requireWritable.bind_reports (fun e => silent) fun _ => ?_
  refine (driving.readMainArea _).bind_reports (fun e => silent) fun old => ?_
  exact storeImage_reports valid.dimensions inRange data old

end Operation

namespace Session

/-- Over whatever link an image is written, what is reported is the beginning of the reports about an
image of as many pages; they are complete exactly if the write succeeds, and the totals then agree
with what was reported. -/
theorem writeImage_trace {σ : Type} [Link σ] (session : Session) (link : σ) (indexPage : Nat)
    (data : List UInt8) :
    let g := session.geometry
    let pages := chunkCount g.bytesPerPage data.length
    let outcome := ((Operation.writeImage indexPage data).runIn session).run link
    let said := Dialogue.progress outcome.transcript
    ∃ report : ImageReport,
      PageReport.Continues g 0 0 (g.blockOf indexPage + 1) pages report.pages ∧
      said <+: report.steps g indexPage ∧
      ((∃ stats, .complete stats ∈ said) ↔ ∃ used, outcome.value.1 = .ok used) ∧
      ∀ used, outcome.value.1 = .ok used →
        said = report.steps g indexPage ∧
        report.stats.erased = said.countP Progress.isErasing ∧
        report.stats.retries = said.countP Progress.isRetry ∧
        report.stats.written = pages + 1 ∧
        (data = [] → report.stats.skipped = 0) ∧
        (data ≠ [] → ∃ last, used.getLast? = some last ∧
          last = g.blockOf indexPage + used.length + report.stats.skipped) := by
  intro g pages outcome said
  obtain ⟨-, report, continues, ended⟩ :=
    Operation.writeImage_reports session.valid indexPage data σ session link rfl
  change report.Ends g indexPage data said outcome.value.1 at ended
  refine ⟨report, continues, ?_⟩
  cases result : outcome.value.1 with
  | error e =>
    rw [result] at ended
    refine ⟨ended.trans (List.prefix_append _ _), ⟨?_, nofun⟩, nofun⟩
    rintro ⟨stats, reported⟩
    exact absurd (ended.subset reported) (report.complete_not_mem_begun g indexPage stats)
  | ok used =>
    rw [result] at ended
    obtain ⟨told, tallied, none, latest⟩ := ended
    have completed : .complete report.stats ∈ said := by
      rw [told]
      exact List.mem_append_right _ (List.mem_singleton_self _)
    refine ⟨told ▸ List.prefix_refl _, iff_of_true ⟨_, completed⟩ ⟨used, rfl⟩, ?_⟩
    rintro _ ⟨⟩
    have erased := tallied.erased
    have retried := tallied.retries
    have written := tallied.written
    rw [Nat.zero_add] at erased retried written
    exact ⟨told, erased, retried, written, none, latest⟩

example :
    let outcome := ((Operation.writeImage 1 (List.replicate 30 7)).runIn smallSession).run
      (afterOpening {} smallChip)
    Dialogue.progress outcome.transcript
      = [.writing 3, .erasing 2, .written 1, .written 2, .erasing 3, .written 3, .erasing 0,
        .complete { erased := 3, skipped := 1, written := 4 }] := by
  decide +kernel

end Session
end OnfiFlash
