import Harvest.Proofs.Run.Requests
import Harvest.Proofs.Run.Scroll
import Harvest.Proofs.Transform.Footprint

/-!
Contract: jobs as functions of what is stored.

In front of a page without fixed answers, a job that queries, counts, converts and keeps has an
effect on nothing but the storage. `Job.settle?` is that effect, and `runJob_of_settle?` says that it is
what a run does. `Job.AsksOnly.settles` bounds it: the job reads under some names and keeps under
some, and where the same is stored under the former it comes to the same and keeps the same.
-/

namespace Harvest

open World

/-! ### What a job makes of a storage -/

/-- The answer to a request in front of a page that shows a view, and what is stored then. None for a request that may
change anything else, or may have to wait. -/
def Request.settle? (transforms : Registry Transform) (view : View) :
    (request : Request) → Storage → Option (request.Answer × Storage)
  | .ask (.call (.query selector attr property)), storage =>
    some (.ok ((Page.ofView view).query selector attr property), storage)
  | .ask (.call (.count selector)), storage => some (Run.countOn view selector, storage)
  | .convert steps value, storage => some (Transform.produce transforms steps storage value)
  | .keep name value, storage => some ((), storage.insert name value)
  | _, _ => none

namespace Job

variable {α β : Type}

/-- What a job comes to in front of a page that shows a view, and what is stored then. -/
def settle? (transforms : Registry Transform) (view : View) : Job α → Storage → Option (α × Storage)
  | .done value, storage => some (value, storage)
  | .request asked next, storage =>
    match asked.settle? transforms view storage with
    | some (answer, storage) => settle? transforms view (next answer) storage
    | none => none

theorem settle?_andThen (transforms : Registry Transform) (view : View) (job : Job α) (next : α → Job β)
    (storage : Storage) : (job.andThen next).settle? transforms view storage =
      (job.settle? transforms view storage).bind fun result => (next result.1).settle? transforms view result.2 := by
  induction job generalizing storage with
  | done value => rfl
  | request asked following inductionHypothesis =>
    rw [andThen, settle?, settle?]
    cases asked.settle? transforms view storage with
    | none => rfl
    | some answered => exact inductionHypothesis answered.1 answered.2

end Job

/-! ### Runs -/

section

variable {surroundings : Surroundings Stage} (serves : surroundings.serve = Stage.serve) {records : Records}
  {world : World Stage} (unfixed : world.state.fixed = []) (known : records.storage < world.storages.size)

include known in
theorem storage_withStorage (storage : Storage) : (world.withStorage records storage).storage records = storage := by
  unfold World.storage withStorage
  rw [Array.getElem?_setIfInBounds_self_of_lt known]
  rfl

theorem withStorage_withStorage (former latter : Storage) :
    (world.withStorage records former).withStorage records latter = world.withStorage records latter := by
  unfold withStorage
  simp

theorem withStorage_self : world.withStorage records (world.storage records) = world := by
  have same : world.storages.setIfInBounds records.storage (world.storage records) = world.storages := by
    by_cases known : records.storage < world.storages.size
    · simp [World.storage, Array.setIfInBounds, known]
    · exact Array.setIfInBounds_eq_of_size_le (Nat.le_of_not_lt known)
  rw [withStorage, same]

include serves unfixed in
/-- A request that can be settled is answered at once, and nothing but the storage changes. -/
theorem attend_of_settle? {race : Option Nat} {request : Request} {answer : request.Answer} {stored : Storage}
    (settles : request.settle? surroundings.transforms world.state.page.view (world.storage records) =
      some (answer, stored)) :
    world.attend surroundings records race none request = (world.withStorage records stored, .answer answer) := by
  match request, answer, settles with
  | .ask (.call (.query selector attr property)), _, settles =>
    cases settles
    rw [withStorage_self]
    exact attend_of_reply serves unfixed rfl
  | .ask (.call (.count selector)), _, settles =>
    cases settles
    rw [withStorage_self]
    exact attend_of_reply serves unfixed rfl
  | .convert steps value, _, settles =>
    have produced := Option.some.inj settles
    simp only [attend, produced]
  | .keep name value, _, settles =>
    cases settles
    rfl

include serves in
theorem runJob_of_settle? {α : Type} {race : Option Nat} {job : Job α} {value : α} {stored : Storage}
    (unfixed : world.state.fixed = []) (known : records.storage < world.storages.size)
    (settles : job.settle? surroundings.transforms world.state.page.view (world.storage records) =
      some (value, stored)) :
    runJob surroundings records race job none world = (world.withStorage records stored, .ended (some value)) := by
  induction job generalizing world with
  | done reached =>
    cases settles
    rw [withStorage_self]
    rfl
  | request asked next inductionHypothesis =>
    rw [Job.settle?] at settles
    split at settles
    case h_1 answer between answered =>
      rw [runJob, attend_of_settle? serves unfixed answered]
      have later := @inductionHypothesis answer (world.withStorage records between) unfixed
        (by simpa [withStorage] using known)
      rw [storage_withStorage known] at later
      exact (later settles).trans (by rw [withStorage_withStorage])
    case h_2 => cases settles

end

/-- A script that ends without a wait has been run when it ends. -/
theorem run_of_runJob {σ α : Type} {surroundings : Surroundings σ} {records : Records} {world later : World σ}
    {script : Script α} {outcome : Except Failure α}
    (ends : runJob surroundings records none script.run none world = (later, .ended (some outcome))) :
    world.run surroundings records script = (later, outcome) := by
  have front : world.runInFront surroundings bound ⟨script.run, records, none, none⟩ = (later, some outcome) := by
    rw [show bound = bound - 1 + 1 from rfl, runInFront, runUntilWait, ends]
  unfold run
  rw [front]

/-! ### What a job reads and keeps -/

namespace Storage

/-- The storage with some fields kept, one after the other. -/
def keepAll (storage : Storage) (fields : Fields) : Storage :=
  fields.foldl (fun storage field => storage.insert field.1 field.2) storage

theorem Agree.refl (names : String → Prop) (storage : Storage) : Agree names storage storage :=
  fun _ _ => rfl

/-- Fields of other names make no difference. -/
theorem agree_keepAll {names : String → Prop} {fields : Fields} (others : ∀ field ∈ fields, ¬ names field.1)
    (storage : Storage) : Agree names storage (storage.keepAll fields) := by
  induction fields generalizing storage with
  | nil => exact .refl names storage
  | cons field fields inductionHypothesis =>
    obtain ⟨here, later⟩ := List.forall_mem_cons.mp others
    intro name among
    have other : name ≠ field.1 := fun same => here (same ▸ among)
    have before : storage.get? name = (storage.insert field.1 field.2).get? name :=
      (Fields.find?_insert_other other _ _).symm
    exact before.trans (inductionHypothesis later _ name among)

end Storage

/-- The names under which something is read of what is stored, and those under which something is kept. -/
structure Footprint where
  reads : String → Prop
  keeps : String → Prop

/-- Neither keeps what the other one reads or keeps. -/
structure Footprint.Apart (first second : Footprint) : Prop where
  keeps : ∀ name, first.keeps name → ¬ second.keeps name
  firstReads : ∀ name, first.reads name → ¬ second.keeps name
  secondReads : ∀ name, second.reads name → ¬ first.keeps name

theorem Footprint.Apart.symm {first second : Footprint} (apart : first.Apart second) : second.Apart first where
  keeps name here there := apart.keeps name there here
  firstReads := apart.secondReads
  secondReads := apart.firstReads

/-- A request queries or counts, converts by built-in steps that read within a footprint, or keeps within it. -/
def Request.StaysWithin (transforms : Registry Transform) (footprint : Footprint) : Request → Prop
  | .ask (.call (.query _ _ _)) => True
  | .ask (.call (.count _)) => True
  | .convert steps _ => ∀ step ∈ steps, step.ReadsOnly transforms footprint.reads
  | .keep name _ => footprint.keeps name
  | _ => False

/-- A job that stays within a footprint comes to a value and keeps fields, and it comes to the same and keeps the same
where the same is stored under the names that it reads. -/
theorem Job.AsksOnly.settles {α : Type} {transforms : Registry Transform} {footprint : Footprint} {job : Job α}
    (asks : job.AsksOnly (Request.StaysWithin transforms footprint)) (view : View) (storage : Storage) :
    ∃ value kept, (∀ field ∈ kept, footprint.keeps field.1) ∧ ∀ other, storage.Agree footprint.reads other →
      job.settle? transforms view other = some (value, other.keepAll kept) := by
  induction job generalizing storage with
  | done value => exact ⟨value, [], List.forall_mem_nil _, fun _ _ => rfl⟩
  | request asked next inductionHypothesis =>
    obtain ⟨within, later⟩ := asks
    match asked, next, inductionHypothesis, within, later with
    | .ask (.call (.query selector attr property)), next, inductionHypothesis, _, later =>
      exact inductionHypothesis _ (later _) storage
    | .ask (.call (.count selector)), next, inductionHypothesis, _, later =>
      exact inductionHypothesis _ (later _) storage
    | .convert steps value, next, inductionHypothesis, within, later =>
      obtain ⟨reached, kept, named, same⟩ :=
        inductionHypothesis (Transform.produce transforms steps storage value).1 (later _) storage
      refine ⟨reached, kept, named, fun other agree => ?_⟩
      have produced := Transform.produce_congr within agree value
      rw [settle?, Request.settle?, produced]
      exact same other agree
    | .keep name value, next, inductionHypothesis, within, later =>
      obtain ⟨reached, kept, named, same⟩ := inductionHypothesis () (later ()) (storage.insert name value)
      refine ⟨reached, (name, value) :: kept, List.forall_mem_cons.mpr ⟨within, named⟩, fun other agree => ?_⟩
      exact same _ (agree.insert name value)

end Harvest
