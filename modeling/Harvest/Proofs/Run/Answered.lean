import Harvest.Proofs.Run.Trail
import Harvest.Run.World

/-!
Contract: the trail that a run leaves behind.

A run takes its job along one of the trails of the job, and each request on it is answered as some
world attends to it. So what holds of a job on all trails whose requests are answered in worlds, each
perhaps in another one, holds of it in every run, whatever happens in between.
-/

namespace Harvest

open World

/-- An exchange is one that can happen in a world with these surroundings. -/
def Surroundings.Answers {σ : Type} (surroundings : Surroundings σ) (exchange : Exchange) : Prop :=
  ∃ (records : Records) (race : Option Nat) (hold : Option Hold) (world later : World σ),
    world.attend surroundings records race hold exchange.request = (later, .answer exchange.answer)

/-- What remains of a job when it has run until it must wait or has ended. -/
def Progress.rest? {α : Type} : Progress α → Option (Job α)
  | .ended outcome => outcome.map .done
  | .waiting process => some process.job

namespace World

variable {σ α : Type} {surroundings : Surroundings σ}

theorem trail_of_runJob {records : Records} {race : Option Nat} {job rest : Job α} {hold : Option Hold} {world : World σ}
    (remains : (runJob surroundings records race job hold world).2.rest? = some rest) :
    ∃ trail, Job.Trail job trail rest ∧ ∀ exchange ∈ trail, surroundings.Answers exchange := by
  induction job generalizing hold world with
  | done outcome =>
    cases remains
    exact ⟨[], .stay _, List.forall_mem_nil _⟩
  | request request next inductionHypothesis =>
    rw [runJob] at remains
    split at remains
    case h_1 later answer attended =>
      obtain ⟨trail, way, answered⟩ := inductionHypothesis answer remains
      refine ⟨⟨request, answer⟩ :: trail, .step way, List.forall_mem_cons.mpr ⟨?_, answered⟩⟩
      exact ⟨records, race, hold, world, later, attended⟩
    case h_2 later waiting attended =>
      cases remains
      exact ⟨[], .stay _, List.forall_mem_nil _⟩
    case h_3 later attended => cases remains

theorem trail_of_runInFront {limit : Nat} {world : World σ} {front : Process α} {value : α}
    (ended : (world.runInFront surroundings limit front).2 = some value) :
    ∃ trail, Job.Trail front.job trail (.done value) ∧ ∀ exchange ∈ trail, surroundings.Answers exchange := by
  induction limit generalizing world front with
  | zero => cases ended
  | succ limit inductionHypothesis =>
    rw [runInFront] at ended
    split at ended
    case h_1 later outcome ran =>
      cases ended
      exact trail_of_runJob (show (world.runUntilWait surroundings front).2.rest? = some (.done value) by rw [ran]; rfl)
    case h_2 later waiting ran =>
      obtain ⟨ahead, way, answered⟩ :=
        trail_of_runJob (show (world.runUntilWait surroundings front).2.rest? = some waiting.job by rw [ran]; rfl)
      have goesOn : ∀ {world : World σ}, (world.runInFront surroundings limit waiting).2 = some value →
          ∃ trail, Job.Trail front.job trail (.done value) ∧ ∀ exchange ∈ trail, surroundings.Answers exchange := by
        intro world ended
        obtain ⟨behind, wayOn, answeredOn⟩ := inductionHypothesis ended
        exact ⟨ahead ++ behind, way.append wayOn, List.forall_mem_append.mpr ⟨answered, answeredOn⟩⟩
      dsimp only at ended
      split at ended
      · exact goesOn ended
      · split at ended
        · cases ended
        · exact goesOn ended

/-- A run that comes to a value takes the script along a trail to it. -/
theorem trail_of_run {world : World σ} {records : Records} {script : Script α} {value : α}
    (ran : (world.run surroundings records script).2 = .ok value) :
    ∃ trail, Job.Trail script.run trail (.done (.ok value)) ∧ ∀ exchange ∈ trail, surroundings.Answers exchange := by
  unfold run at ran
  split at ran
  case h_1 later outcome ended =>
    have same : outcome = .ok value := ran
    rw [same] at ended
    exact @trail_of_runInFront σ _ surroundings bound world ⟨script.run, records, none, none⟩ _ (by rw [ended])
  case h_2 => cases ran

end World

end Harvest
