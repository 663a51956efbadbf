import AliasSync.Shutdown
import Mathlib.Algebra.GroupWithZero.Nat

/-! Every trigger is accounted for. What a subscriber has heard, together with what is still pending for it, are the
triggers since it subscribed, in whatever order it asks and others subscribe, trigger and ask. -/

namespace AliasSync

def Signal.missed : Signal → Nat
  | .signal => 0
  | .empty => 0
  | .lagged missed => missed

namespace Shutdown

/-- What is done with the signal. All clones of its handle are one: whoever has a handle triggers it for every
subscriber. -/
inductive Operation where
  | subscribe
  | trigger
  | receive (subscriber : Nat)
  deriving DecidableEq, Repr

def perform (shutdown : Shutdown) : Operation → Shutdown
  | .subscribe => shutdown.subscribe.2
  | .trigger => shutdown.trigger
  | .receive subscriber => ((shutdown.receive? subscriber).map (·.2)).getD shutdown

def after (shutdown : Shutdown) (operations : List Operation) : Shutdown := operations.foldl perform shutdown

def hearing (shutdown : Shutdown) (subscriber : Nat) : Operation → Option Signal
  | .receive asking => if asking = subscriber then (shutdown.receive? subscriber).map (·.1) else none
  | _ => none

def heard (subscriber : Nat) (shutdown : Shutdown) : List Operation → List Signal
  | [] => []
  | operation :: later =>
    (shutdown.hearing subscriber operation).toList ++ heard subscriber (shutdown.perform operation) later

def pending (shutdown : Shutdown) (subscriber : Nat) : Nat :=
  shutdown.positions[subscriber]?.elim 0 (shutdown.triggered - ·)

variable {shutdown other : Shutdown} {subscriber position triggered : Nat} {operation : Operation}
  {operations : List Operation}

/-- A subscriber has been told of the first triggers, of which there are no more than there are at all. -/
structure StandsAt (shutdown : Shutdown) (subscriber position : Nat) : Prop where
  place : shutdown.positions[subscriber]? = some position
  reached : position ≤ shutdown.triggered

private theorem hear_cases (reached : position ≤ triggered) :
    triggered = position ∧ hear triggered position = (.empty, position) ∨
      triggered = position + 1 ∧ hear triggered position = (.signal, position + 1) ∨
      ∃ missed, triggered = position + 1 + missed ∧ 1 ≤ missed ∧
        hear triggered position = (.lagged missed, position + missed) := by
  obtain ⟨waiting, rfl⟩ := Nat.exists_eq_add_of_le reached
  rw [hear, Nat.add_sub_cancel_left]
  match waiting with
  | 0 => exact .inl ⟨rfl, rfl⟩
  | 1 => exact .inr (.inl ⟨rfl, rfl⟩)
  | missed + 2 => exact .inr (.inr ⟨missed + 1, by omega, by omega, rfl⟩)

private theorem hear_empty_iff (reached : position ≤ triggered) :
    (hear triggered position).1 = .empty ↔ triggered - position = 0 := by
  obtain ⟨same, heard⟩ | ⟨next, heard⟩ | ⟨missed, behind, some, heard⟩ := hear_cases reached
  · rw [heard]
    exact iff_of_true rfl (by omega)
  · rw [heard]
    exact iff_of_false nofun (by omega)
  · rw [heard]
    exact iff_of_false nofun (by omega)

private theorem hear_next (position : Nat) : hear (position + 1) position = (.signal, position + 1) := by
  rw [hear, Nat.add_sub_cancel_left]
  rfl

private theorem hear_twice (reached : position ≤ triggered) :
    (hear triggered (hear triggered position).2).2 = triggered := by
  obtain ⟨rfl, heard⟩ | ⟨rfl, heard⟩ | ⟨missed, rfl, -, heard⟩ := hear_cases reached
  · rw [heard, heard]
  · rw [heard, hear, Nat.sub_self]
    rfl
  · rw [heard, Nat.add_right_comm, hear_next]

def accounted (answers : List Signal) : Nat := answers.count .signal + (answers.map Signal.missed).sum

private theorem accounted_append (answers later : List Signal) :
    accounted (answers ++ later) = accounted answers + accounted later := by
  simp only [accounted, List.count_append, List.map_append, List.sum_append]
  omega

private theorem accounted_lagged (missed : Nat) : accounted [.lagged missed] = missed := by
  simp [accounted, Signal.missed]

private theorem hear_moves (reached : position ≤ triggered) :
    (hear triggered position).2 = position + accounted [(hear triggered position).1] ∧
      (hear triggered position).2 ≤ triggered := by
  obtain ⟨-, heard⟩ | ⟨next, heard⟩ | ⟨missed, behind, -, heard⟩ := hear_cases reached
  · rw [heard]
    exact ⟨rfl, reached⟩
  · rw [heard]
    exact ⟨rfl, Nat.le_of_eq next.symm⟩
  · rw [heard, accounted_lagged]
    exact ⟨rfl, by omega⟩

namespace StandsAt

private theorem pending_eq (stands : shutdown.StandsAt subscriber position) :
    shutdown.pending subscriber = shutdown.triggered - position := by
  rw [pending, stands.place]
  rfl

private theorem receive? (stands : shutdown.StandsAt subscriber position) :
    shutdown.receive? subscriber = some ((hear shutdown.triggered position).1,
      shutdown.perform (.receive subscriber)) := by
  rw [Shutdown.perform, Shutdown.receive?, stands.place]
  rfl

end StandsAt

private theorem stands_subscribed (shutdown : Shutdown) :
    shutdown.subscribe.2.StandsAt shutdown.subscribe.1 shutdown.triggered :=
  ⟨by simp [subscribe], Nat.le_refl _⟩

private theorem perform_receive (place : shutdown.positions[subscriber]? = some position) :
    shutdown.perform (.receive subscriber) =
      { shutdown with positions := shutdown.positions.set subscriber (hear shutdown.triggered position).2 } := by
  rw [perform, receive?, place]
  rfl

/-- One that asks changes nothing but its own position. -/
theorem perform_receive_other (shutdown : Shutdown) (asking : Nat) :
    (shutdown.perform (.receive asking)).triggered = shutdown.triggered ∧
      ∀ other, asking ≠ other →
        (shutdown.perform (.receive asking)).positions[other]? = shutdown.positions[other]? := by
  cases place : shutdown.positions[asking]? with
  | none =>
    rw [perform, receive?, place]
    exact ⟨rfl, fun _ _ => rfl⟩
  | some position =>
    rw [perform_receive place]
    exact ⟨rfl, fun other apart => List.getElem?_set_ne apart⟩

private theorem StandsAt.receive (stands : shutdown.StandsAt subscriber position) :
    (shutdown.perform (.receive subscriber)).StandsAt subscriber (hear shutdown.triggered position).2 := by
  have present := (List.getElem?_eq_some_iff.mp stands.place).1
  rw [perform_receive stands.place]
  exact ⟨List.getElem?_set_self present, (hear_moves stands.reached).2⟩

/-- In every operation a subscriber moves on by as many triggers as it is told of. -/
theorem StandsAt.perform (stands : shutdown.StandsAt subscriber position) (operation : Operation) :
    (shutdown.perform operation).StandsAt subscriber
      (position + accounted (shutdown.hearing subscriber operation).toList) ∧
    (shutdown.perform operation).triggered = shutdown.triggered + [operation].count .trigger := by
  cases operation with
  | subscribe =>
    have present := (List.getElem?_eq_some_iff.mp stands.place).1
    exact ⟨⟨(List.getElem?_append_left present).trans stands.place, stands.reached⟩, rfl⟩
  | trigger => exact ⟨⟨stands.place, Nat.le_succ_of_le stands.reached⟩, rfl⟩
  | receive asking =>
    obtain ⟨triggered, others⟩ := perform_receive_other shutdown asking
    refine ⟨?_, triggered⟩
    rcases Decidable.eq_or_ne asking subscriber with rfl | apart
    · rw [hearing, if_pos rfl, stands.receive?, Option.map_some, Option.toList_some, ← (hear_moves stands.reached).1]
      exact stands.receive
    · rw [hearing, if_neg apart]
      exact ⟨(others subscriber apart).trans stands.place, triggered ▸ stands.reached⟩

private theorem StandsAt.after (stands : shutdown.StandsAt subscriber position) (operations : List Operation) :
    (shutdown.after operations).StandsAt subscriber (position + accounted (heard subscriber shutdown operations)) ∧
    (shutdown.after operations).triggered = shutdown.triggered + operations.count .trigger := by
  induction operations generalizing shutdown position with
  | nil => exact ⟨stands, rfl⟩
  | cons operation later ih =>
    obtain ⟨moved, counted⟩ := stands.perform operation
    obtain ⟨stands, total⟩ := ih moved
    rw [heard, accounted_append, ← Nat.add_assoc]
    refine ⟨stands, total.trans ?_⟩
    rw [counted, Nat.add_assoc, ← List.count_append, List.singleton_append]

private theorem hearing_silent (silent : .receive subscriber ≠ operation) (shutdown : Shutdown) :
    shutdown.hearing subscriber operation = none := by
  cases operation with
  | subscribe | trigger => rfl
  | receive asking => exact if_neg fun same : asking = subscriber => silent (same ▸ rfl)

private theorem heard_silent (silent : .receive subscriber ∉ operations) (shutdown : Shutdown) :
    heard subscriber shutdown operations = [] := by
  induction operations generalizing shutdown with
  | nil => rfl
  | cons operation later ih =>
    obtain ⟨first, rest⟩ := not_or.mp (mt List.mem_cons.mpr silent)
    rw [heard, hearing_silent first, ih rest]
    rfl

/-- Where one trigger is left to be told of, it is heard as a signal, unless another one comes before. -/
theorem StandsAt.signal_after (stands : shutdown.StandsAt subscriber position)
    (next : shutdown.triggered = position + 1) (quiet : .trigger ∉ operations)
    (silent : .receive subscriber ∉ operations) :
    ∃ last, (shutdown.after operations).receive? subscriber = some (.signal, last) := by
  obtain ⟨still, total⟩ := stands.after operations
  rw [heard_silent silent] at still
  rw [List.count_eq_zero.mpr quiet, next] at total
  have waiting : hear (shutdown.after operations).triggered (position + accounted []) = (.signal, position + 1) := by
    rw [total]
    exact hear_next position
  exact ⟨_, still.receive?.trans (by rw [waiting])⟩

def concerns (subscriber : Nat) : Operation → Bool
  | .subscribe => false
  | .trigger => true
  | .receive asking => asking == subscriber

private theorem StandsAt.hearing_eq (stands : shutdown.StandsAt subscriber position)
    (also : other.StandsAt subscriber position) (same : shutdown.triggered = other.triggered) (operation : Operation) :
    shutdown.hearing subscriber operation = other.hearing subscriber operation := by
  cases operation with
  | subscribe | trigger => rfl
  | receive asking =>
    rw [hearing, hearing, stands.receive?, also.receive?, same]
    rfl

/-- What others do is not heard. -/
theorem StandsAt.heard_concerns (stands : shutdown.StandsAt subscriber position)
    (also : other.StandsAt subscriber position) (same : shutdown.triggered = other.triggered)
    (operations : List Operation) :
    heard subscriber shutdown (operations.filter (concerns subscriber)) = heard subscriber other operations := by
  -- The two states come to differ in the positions of others. The subscriber stands alike in both all along.
  induction operations generalizing shutdown other position with
  | nil => rfl
  | cons operation later ih =>
    obtain ⟨moved, total⟩ := also.perform operation
    cases concerned : concerns subscriber operation with
    | true =>
      obtain ⟨follows, count⟩ := stands.perform operation
      rw [stands.hearing_eq also same] at follows
      rw [List.filter_cons_of_pos concerned, heard, heard, stands.hearing_eq also same,
        ih follows moved (by rw [count, total, same])]
    | false =>
      have silent : .receive subscriber ≠ operation := by
        rintro rfl
        simp [concerns] at concerned
      have quiet : [operation].count .trigger = 0 := by
        cases operation <;> first | rfl | cases concerned
      rw [hearing_silent silent] at moved
      rw [List.filter_cons_of_neg (ne_true_of_eq_false concerned), heard, hearing_silent silent,
        ih stands moved (by rw [total, quiet, same]; rfl)]
      rfl

/-- One that is told of a lag has missed at least one trigger and still has the latest to be told of. -/
theorem StandsAt.lag_cases {missed : Nat} (stands : shutdown.StandsAt subscriber position)
    (lag : (hear shutdown.triggered position).1 = .lagged missed) :
    2 ≤ shutdown.pending subscriber ∧
      ∃ later, (shutdown.perform (.receive subscriber)).StandsAt subscriber later ∧
        (shutdown.perform (.receive subscriber)).triggered = later + 1 := by
  have moved := stands.receive
  have same := (perform_receive_other shutdown subscriber).1
  obtain ⟨-, heard⟩ | ⟨-, heard⟩ | ⟨missed, behind, some, heard⟩ := hear_cases stands.reached
  · rw [heard] at lag
    cases lag
  · rw [heard] at lag
    cases lag
  · rw [heard] at moved
    rw [stands.pending_eq]
    exact ⟨by omega, _, moved, by omega⟩

private theorem StandsAt.pending_asked_twice (stands : shutdown.StandsAt subscriber position) :
    (shutdown.after [.receive subscriber, .receive subscriber]).pending subscriber = 0 := by
  have once := stands.receive
  have twice := once.receive
  have same := (perform_receive_other shutdown subscriber).1
  have again := (perform_receive_other (shutdown.perform (.receive subscriber)) subscriber).1
  rw [same, hear_twice stands.reached] at twice
  change ((shutdown.perform (.receive subscriber)).perform (.receive subscriber)).pending subscriber = 0
  rw [twice.pending_eq, again, same, Nat.sub_self]

/-- Someone subscribes at any time, and any operations follow. The signals that it has heard, the triggers that it has
been told it missed and those still pending are all triggers since then. It always gets an answer: nothing if and only
if nothing is pending, and a lag only if two triggers or more are, of which the latest is then heard as a signal unless
another one comes before. Asking twice leaves nothing pending. What it hears is the same without all that others do but
trigger. -/
theorem every_trigger_accounted_for (earlier later : List Operation) :
    let joined := (start.after earlier).subscribe
    let subscriber := joined.1
    let answers := heard subscriber joined.2 later
    let now := joined.2.after later
    answers.count .signal + (answers.map Signal.missed).sum + now.pending subscriber = later.count .trigger ∧
    (∃ answer next, now.receive? subscriber = some (answer, next) ∧
      (answer = .empty ↔ now.pending subscriber = 0) ∧
      ∀ missed, answer = .lagged missed → 2 ≤ now.pending subscriber ∧
        ∀ between, .trigger ∉ between → .receive subscriber ∉ between →
          ∃ last, (next.after between).receive? subscriber = some (.signal, last)) ∧
    (now.after [.receive subscriber, .receive subscriber]).pending subscriber = 0 ∧
    heard subscriber joined.2 (later.filter (concerns subscriber)) = answers := by
  intro joined subscriber answers now
  have joins : joined.2.StandsAt subscriber joined.2.triggered := stands_subscribed (start.after earlier)
  obtain ⟨stands, total⟩ := joins.after later
  change now.StandsAt subscriber (joined.2.triggered + accounted answers) at stands
  change now.triggered = joined.2.triggered + later.count .trigger at total
  have behind := stands.pending_eq
  have reached := stands.reached
  refine ⟨?_, ⟨_, _, stands.receive?, ?_, fun missed lag => ?_⟩, stands.pending_asked_twice,
    joins.heard_concerns joins rfl later⟩
  · change accounted answers + now.pending subscriber = later.count .trigger
    omega
  · rw [behind]
    exact hear_empty_iff reached
  · obtain ⟨some, place, moved, next⟩ := stands.lag_cases lag
    exact ⟨some, fun between quiet silent => moved.signal_after next quiet silent⟩

example : heard 0 start.subscribe.2 [.trigger, .trigger, .trigger, .receive 0, .receive 0, .receive 0] =
    [.lagged 2, .signal, .empty] := by decide

end Shutdown

end AliasSync
