import AliasSync.Deployment.World
import AliasSync.Proofs.RunEffects
import AliasSync.Proofs.SettingChecks

/-! The clock of the sync loop under accepted settings. Its period is never zero, but the checks set no upper limit, and
an interval that leads beyond the last moment of the clock ends the program. -/

namespace AliasSync

namespace Sync

variable {σ : Type} {world : World σ} {now period shutdown : Nat} {ticker : Ticker} {fault : TickerFault}

private theorem Ticker.start_eq_ok (positive : 0 < period) :
    Ticker.start now period = .ok ticker ↔ now + period ≤ lastMoment ∧ ticker = ⟨period, now + period, positive⟩ := by
  rw [Ticker.start, dif_pos positive]
  split
  next inRange =>
    constructor
    · exact fun started => ⟨inRange, (Except.ok.inj started).symm⟩
    · rintro ⟨-, rfl⟩
      rfl
  next beyond =>
    constructor
    · intro impossible
      cases impossible
    · rintro ⟨inRange, -⟩
      exact absurd inRange beyond

private theorem Ticker.start_eq_error (positive : 0 < period) :
    Ticker.start now period = .error fault ↔ lastMoment < now + period ∧ fault = .unrepresentableDeadline := by
  rw [Ticker.start, dif_pos positive]
  split
  next inRange =>
    constructor
    · intro impossible
      cases impossible
    · rintro ⟨beyond, -⟩
      exact absurd inRange (Nat.not_le_of_lt beyond)
  next beyond =>
    constructor
    · exact fun failed => ⟨Nat.lt_of_not_le beyond, (Except.error.inj failed).symm⟩
    · rintro ⟨-, rfl⟩
      rfl

namespace Reconciler

variable {reconciler : Reconciler} {stop : Option Nat} {once : Bool} {state : σ}

private theorem run_unstopped {reply : Except CycleError Summary} {later : Syncer}
    (finished : (reconciler.opening world none now state).result = some (reply, later))
    (looping : reconciler.isSingle once = false)
    (started : Ticker.start (reconciler.opening world none now state).ended reconciler.interval = .ok ticker) :
    reconciler.run world none once now state =
      (reconciler.opening world none now state).conclude .endless reconciler.loopRecords := by
  rw [opening] at finished started
  obtain ⟨notOnce, live⟩ := Bool.or_eq_false_iff.mp looping
  simp only [run, finished, started, live, notOnce, Bool.false_eq_true, ↓reduceIte]
  rfl

/-- A run ends in a crash if and only if a first cycle has been finished, a loop is to follow, and its first deadline
lies beyond the last moment. -/
theorem crashed_iff (positive : 0 < reconciler.interval) :
    (reconciler.run world stop once now state).result = some (.crashed fault) ↔
      reconciler.isSingle once = false ∧ (reconciler.opening world stop now state).result.isSome = true ∧
        lastMoment < (reconciler.opening world stop now state).ended + reconciler.interval ∧
        fault = .unrepresentableDeadline := by
  -- The run is over before its loop, or the clock of the loop decides.
  cases finished : (reconciler.opening world stop now state).result with
  | none =>
    rw [run_interrupted finished]
    simp [Run.conclude]
  | some answer =>
    obtain ⟨reply, later⟩ := answer
    cases single : reconciler.isSingle once with
    | true =>
      rw [run_single finished single]
      cases reply <;> simp [Run.conclude, Ending.ofResult]
    | false =>
      cases started : Ticker.start (reconciler.opening world stop now state).ended reconciler.interval with
      | error cause =>
        obtain ⟨beyond, rfl⟩ := (Ticker.start_eq_error positive).mp started
        rw [run_crashed finished single started]
        simp [Run.conclude, beyond, eq_comm]
      | ok ticker =>
        have inRange := ((Ticker.start_eq_ok positive).mp started).1
        have unharmed : (reconciler.run world stop once now state).result ≠ some (.crashed fault) := by
          cases stop with
          | none =>
            rw [run_unstopped finished single started]
            intro impossible
            cases impossible
          | some shutdown =>
            rw [run_looping finished single started]
            intro crashed
            cases (syncLoop_ends ..).1.symm.trans crashed
        simp [unharmed, inRange]

end Reconciler

end Sync

namespace Deployment

open Sync

/-- What is built of accepted settings has an interval above zero. Its run ends in a crash if and only if it is a loop
whose first deadline, the interval after the first cycle, lies beyond the last moment; up to that moment the clock of
the loop starts with this deadline. -/
theorem loop_crashes_iff_deadline_beyond (settings : Config.Settings) (accepted : Config.validate settings = .ok ())
    (dryRun : Bool) :
    ∃ deployment, ofSettings settings dryRun = .ok deployment ∧
      ∃ positive : 0 < deployment.reconciler.interval,
        ∀ (σ : Type) (world : World σ) (stop : Option Nat) (once : Bool) (now : Nat) (state : σ),
          let first := deployment.reconciler.opening world stop now state
          let deadline := first.ended + settings.reconcile.intervalSecs.toNat * 1000
          (∀ fault, (deployment.reconciler.run world stop once now state).result = some (.crashed fault) ↔
            (once = false ∧ dryRun = false) ∧ first.result.isSome = true ∧ lastMoment < deadline ∧
              fault = .unrepresentableDeadline) ∧
          (deadline ≤ lastMoment → Ticker.start first.ended deployment.reconciler.interval =
            .ok ⟨deployment.reconciler.interval, deadline, positive⟩) := by
  have acceptable := Config.validate_eq_ok_iff.mp accepted
  obtain ⟨proxy, resolver, -, -, built⟩ := ofSettings_eq_ok acceptable dryRun
  have some : settings.reconcile.intervalSecs.toNat ≠ 0 := fun zero =>
    acceptable.positive.2.2 (UInt64.toNat_inj.mp zero)
  have positive : 0 < (reconcilerOf settings dryRun).interval := by
    simp only [reconcilerOf]
    omega
  refine ⟨_, built, positive, fun σ world stop once now state => ⟨fun fault => ?_, fun inRange => ?_⟩⟩
  · rw [Reconciler.crashed_iff positive]
    refine and_congr_left fun _ => ?_
    exact Bool.or_eq_false_iff
  · exact (Ticker.start_eq_ok positive).mpr ⟨inRange, rfl⟩

def patient (interval : UInt64) : Config.Settings :=
  { Config.Settings.default with
    traefik := { Config.Settings.default.traefik with baseUrl := "http://[::1]" }
    opnsense := ⟨"http://[::2]", "key", "secret", "proxy.lan", true, 10⟩
    reconcile := ⟨interval, "managed"⟩ }

def deserted : Outside Unit where
  network := Http.Network.silent
  machine _ := ⟨fun _ => false, none, none, fun _ _ => .notStarted ""⟩
  wait _ _ := 0
  elapse _ _ state := state

private theorem run_of_built {settings : Config.Settings} {ending : Ending}
    (ends : ((ofSettings settings false).toOption.bind fun built => (built.run deserted none false ()).result) =
      some ending) :
    ∃ deployment, ofSettings settings false = .ok deployment ∧
      (deployment.run deserted none false ()).result = some ending := by
  cases built : ofSettings settings false with
  | error fault =>
    rw [built] at ends
    cases ends
  | ok deployment =>
    rw [built] at ends
    exact ⟨deployment, rfl, ends⟩

/-- With the longest interval that can lead to a moment at all, the loop starts after a first cycle that takes no time,
and the program ends after one that takes a second. -/
theorem loop_crashes_iff_deadline_beyond_rehearsed :
    let settings := patient 9223372036854775807
    let scene := Rehearsal.Scene.calm "proxy.lan" [] [] []
    let slow := { scene with waits := ⟨1000, 0, 0, 0, 0⟩ }
    Config.validate settings = .ok () ∧ ∃ deployment, ofSettings settings false = .ok deployment ∧
      (∃ ticker, Ticker.start 0 deployment.reconciler.interval = .ok ticker ∧
        ticker.deadline = 9223372036854775807000) ∧
      (deployment.reconciler.run Rehearsal.world none false 0 slow).result =
        some (.crashed .unrepresentableDeadline) := by
  intro settings scene slow
  have accepted : Config.validate settings = .ok () := by decide +kernel
  obtain ⟨deployment, built, positive, course⟩ := loop_crashes_iff_deadline_beyond settings accepted false
  obtain ⟨_, _, -, -, explicit⟩ := ofSettings_eq_ok (Config.validate_eq_ok_iff.mp accepted) false
  cases Except.ok.inj (built.symm.trans explicit)
  refine ⟨accepted, _, built, ?_, ?_⟩
  · have ended : ((reconcilerOf settings false).opening Rehearsal.world none 0 scene).ended = 0 := by decide +kernel
    have started := (course _ Rehearsal.world none false 0 scene).2
    simp only [ended] at started
    exact ⟨_, started (by decide), (Nat.zero_add _).trans (by decide +kernel)⟩
  · have finished : ((reconcilerOf settings false).opening Rehearsal.world none 0 slow).result.isSome = true := by
      decide +kernel
    have ended : ((reconcilerOf settings false).opening Rehearsal.world none 0 slow).ended = 1000 := by decide +kernel
    refine ((course _ Rehearsal.world none false 0 slow).1 _).mpr ⟨⟨rfl, rfl⟩, finished, ?_, rfl⟩
    simp only [ended]
    decide

/-- An interval that passes the checks ends the program as soon as the first cycle is over. -/
theorem accepted_interval_crashes_loop :
    Config.validate (patient 18446744073709551615) = .ok () ∧
      ∃ deployment, ofSettings (patient 18446744073709551615) false = .ok deployment ∧
        (deployment.run deserted none false ()).result = some (.crashed .unrepresentableDeadline) :=
  ⟨by decide +kernel, run_of_built (by decide +kernel)⟩

end Deployment

end AliasSync
