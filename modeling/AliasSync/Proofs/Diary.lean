import AliasSync.Proofs.Turn

/-! A world that keeps a diary: after every call it writes down the state that it is in. Nothing that is run notices
the diary, so what holds of its pages holds of the world after every single call. -/

namespace AliasSync.Sync

variable {σ : Type}

/-- A state of the world, and the states that it was in after each call so far. -/
structure Diary (σ : Type) where
  now : σ
  visited : List σ

namespace World

def diary (world : World σ) : World (Diary σ) where
  wait page request := world.wait page.now request
  answer page request :=
    let (reply, after) := world.answer page.now request
    (reply, ⟨after, page.visited ++ [after]⟩)
  elapse first last page := { page with now := world.elapse first last page.now }

@[simp] theorem diary_visited (world : World σ) (page : Diary σ) (request : Request) :
    (world.diary.answer page request).2.visited = page.visited ++ [(world.answer page.now request).2] := rfl

end World

def Run.forget (run : Run (Diary σ) α) : Run σ α := ⟨run.result, run.ended, run.state.now, run.steps⟩

/-- A run with a diary is the run without it, and there is a page for each of its calls. -/
structure Run.Records (before : Diary σ) (recorded : Run (Diary σ) α) (run : Run σ α) : Prop where
  same : recorded.forget = run
  pages : recorded.state.visited.length = before.visited.length + recorded.calls.length

namespace Run.Records

variable {before middle : Diary σ} {recorded : Run (Diary σ) α} {run : Run σ α}

private theorem result (records : recorded.Records before run) : recorded.result = run.result :=
  congrArg Run.result records.same

private theorem ended (records : recorded.Records before run) : recorded.ended = run.ended :=
  congrArg Run.ended records.same

theorem state (records : recorded.Records before run) : recorded.state.now = run.state :=
  congrArg Run.state records.same

theorem steps (records : recorded.Records before run) : recorded.steps = run.steps :=
  congrArg Run.steps records.same

private theorem continuing {first : Run (Diary σ) β} {plain : Run σ β} (earlier : first.Records before plain)
    (records : recorded.Records first.state run) :
    (recorded.continuing first.steps).Records before (run.continuing plain.steps) := by
  constructor
  · rw [← records.same, ← earlier.steps]
    rfl
  · have pages := records.pages
    rw [earlier.pages] at pages
    rw [Run.calls_continuing, List.length_append]
    simp only [Run.continuing, Run.calls, Run.trace] at pages ⊢
    omega

private theorem conclude (records : recorded.Records before run) (ending : Ending) (notes : List Log.Record) :
    (recorded.conclude ending notes).Records before (run.conclude ending notes) := by
  constructor
  · rw [← records.same]
    rfl
  · rw [Run.calls_conclude]
    exact records.pages

end Run.Records

namespace World

variable {world : World σ} {stop : Option Nat}

private theorem cutOff_records (world : World σ) (stop now : Nat) (page : Diary σ) :
    (world.diary.cutOff (α := α) stop now page).Records page (world.cutOff stop now page.now) :=
  ⟨rfl, rfl⟩

private theorem call_records {request : Request} {due now : Nat} {page : Diary σ}
    {next : request.Reply → Nat → Diary σ → Run (Diary σ) α} {plain : request.Reply → Nat → σ → Run σ α}
    (each : ∀ reply moment later, (next reply moment later).Records later (plain reply moment later.now)) :
    (world.diary.call stop request due now page next).Records page
      (world.call stop request due now page.now plain) := by
  unfold call
  cases stop.filter (· < due) with
  | some shutdown => exact world.cutOff_records shutdown now page
  | none =>
    cases answered : world.answer (world.elapse now due page.now) request with
    | mk reply middle =>
      have written : world.diary.answer (world.diary.elapse now due page) request =
          (reply, ⟨middle, page.visited ++ [middle]⟩) := by simp only [diary, answered]
      obtain ⟨same, pages⟩ := each reply due ⟨middle, page.visited ++ [middle]⟩
      simp only [written]
      constructor
      · exact congrArg (Run.after due _) same
      · rw [Run.after_state, pages, Run.calls_after_call]
        simp only [List.length_append, List.length_cons, List.length_nil]
        omega

private theorem callSnapshots_records {parent : String} {now : Nat} {page : Diary σ}
    {next : Except CycleError Snapshots → Nat → Diary σ → Run (Diary σ) α}
    {plain : Except CycleError Snapshots → Nat → σ → Run σ α}
    (each : ∀ reply moment later, (next reply moment later).Records later (plain reply moment later.now)) :
    (world.diary.callSnapshots stop parent now page next).Records page
      (world.callSnapshots stop parent now page.now plain) := by
  unfold callSnapshots
  by_cases order : now + world.wait page.now (.aliases parent) ≤ now + world.wait page.now .routers
  · simp only [diary, order, ↓reduceIte]
    refine call_records fun reply moment later => ?_
    cases reply with
    | error cause => exact each _ _ _
    | ok listed => exact call_records fun reply moment later => by cases reply <;> exact each _ _ _
  · simp only [diary, order, ↓reduceIte]
    refine call_records fun reply moment later => ?_
    cases reply with
    | error cause => exact each _ _ _
    | ok served => exact call_records fun reply moment later => by cases reply <;> exact each _ _ _

/-- Keeping a diary changes nothing about a run. -/
theorem run_records (world : World σ) (stop : Option Nat) (program : Program α) (now : Nat) (page : Diary σ) :
    (world.diary.run stop program now page).Records page (world.run stop program now page.now) := by
  induction program generalizing now page with
  | done value => exact ⟨rfl, rfl⟩
  | note note rest ih =>
    obtain ⟨same, pages⟩ := ih now page
    constructor
    · exact congrArg (Run.after now _) same
    · rw [run, Run.after_state, Run.calls_after_note]
      exact pages
  | ask request next ih => exact call_records fun reply moment later => ih reply moment later
  | snapshots parent next ih => exact callSnapshots_records fun reply moment later => ih reply moment later

end World

/-- The moment from which a diary is kept does not matter. -/
theorem Run.Records.elapse {world : World σ} {first last : Nat} {page : Diary σ} {recorded : Run (Diary σ) α}
    {run : Run σ α} (records : recorded.Records (world.diary.elapse first last page) run) :
    recorded.Records page run := ⟨records.same, records.pages⟩

private theorem syncLoop_records (world : World σ) (stop : Nat) (ticker : Ticker) (syncer : Syncer) (now : Nat)
    (page : Diary σ) :
    (syncLoop world.diary stop ticker syncer now page).Records page
      (syncLoop world stop ticker syncer now page.now) := by
  fun_induction syncLoop world.diary stop ticker syncer now page with
  | case1 ticker syncer now page tick tooLate =>
    rw [syncLoop_late world syncer page.now tooLate]
    exact (world.cutOff_records stop now page).conclude ..
  | case2 ticker syncer now page tick inTime run cut =>
    have records := world.run_records (some stop) (reportedCycle syncer) tick (world.diary.elapse now tick page)
    replace records := records.elapse
    rw [syncLoop_abandoned inTime rfl (records.result.symm.trans cut)]
    exact records.conclude ..
  | case3 ticker syncer now page tick inTime run reply later finished ih =>
    have records := world.run_records (some stop) (reportedCycle syncer) tick (world.diary.elapse now tick page)
    replace records := records.elapse
    generalize plain : world.run (some stop) (reportedCycle syncer) tick _ = alone at records
    rw [syncLoop_continued inTime plain (records.result.symm.trans finished), ← records.ended, ← records.state]
    exact records.continuing ih

/-- Keeping a diary changes nothing about what the reconciler does. -/
theorem Reconciler.run_records (reconciler : Reconciler) (world : World σ) (stop : Option Nat) (once : Bool)
    (now : Nat) (page : Diary σ) :
    (reconciler.run world.diary stop once now page).Records page (reconciler.run world stop once now page.now) := by
  have records := world.run_records stop
    (Program.log (.info .scheduler "Running initial sync" []) >>= fun _ => reportedCycle reconciler.syncer) now page
  simp only [Reconciler.run]
  generalize world.diary.run stop _ now page = recorded at records ⊢
  generalize world.run stop _ now page.now = plain at records ⊢
  simp only [records.result, records.ended]
  cases plain.result with
  | none => exact records.conclude ..
  | some reply =>
    dsimp only
    split
    case isTrue => exact records.conclude ..
    split
    case isTrue => exact records.conclude ..
    cases Ticker.start plain.ended reconciler.interval with
    | error fault => exact records.conclude ..
    | ok ticker =>
      cases stop with
      | none => exact records.conclude ..
      | some shutdown =>
        have opened := records.conclude .endless
          [.info .scheduler "Initial sync complete, starting sync loop"
            [("interval_secs", .number (reconciler.interval / 1000))],
           .info .scheduler "No more output will be shown until changes are detected" []]
        have looping := syncLoop_records world shutdown ticker reply.2 plain.ended recorded.state
        rw [records.state] at looping
        exact opened.continuing looping

end AliasSync.Sync
