import Harvest.Proofs.Run.Alone
import Harvest.Proofs.Run.Answered
import Harvest.Proofs.Run.Frame

/-!
Contract: what a run leaves in the storage that it works on.

`Storage.Along` reads off a trail what is stored behind it. A storage is reserved for a process if nothing in the
background works on it; then nothing else that happens meanwhile changes it (`World.Respects`). So a run without races
goes along a trail to what is stored in the end: `World.trail_of_storing_run`.
-/

namespace Harvest

/-! ### Storages along trails -/

def Request.isStoring : Request → Bool
  | .convert _ _ => true
  | .keep _ _ => true
  | _ => false

/-- What is stored behind a trail: what is kept on it, and what the transforms on it store. -/
inductive Storage.Along (transforms : Registry Transform) : Storage → List Exchange → Storage → Prop where
  | stay (storage : Storage) : Along transforms storage [] storage
  | keeps {storage later : Storage} {name : String} {value : Json} {answer : Unit} {trail : List Exchange}
      (behind : Along transforms (storage.insert name value) trail later) :
      Along transforms storage (⟨.keep name value, answer⟩ :: trail) later
  | converts {storage middle later : Storage} {steps : List Transform.Step} {value : Json}
      {outcome : Except Failure Json} {trail : List Exchange}
      (produced : Transform.produce transforms steps storage value = (outcome, middle))
      (behind : Along transforms middle trail later) :
      Along transforms storage (⟨.convert steps value, outcome⟩ :: trail) later
  | rests {storage later : Storage} {exchange : Exchange} {trail : List Exchange}
      (unstoring : exchange.request.isStoring = false) (behind : Along transforms storage trail later) :
      Along transforms storage (exchange :: trail) later

namespace Storage.Along

variable {transforms : Registry Transform} {storage middle later : Storage} {front back : List Exchange}

theorem append (first : storage.Along transforms front middle) (last : middle.Along transforms back later) :
    storage.Along transforms (front ++ back) later := by
  induction first with
  | stay => exact last
  | keeps _ inductionHypothesis => exact .keeps (inductionHypothesis last)
  | converts produced _ inductionHypothesis => exact .converts produced (inductionHypothesis last)
  | rests unstoring _ inductionHypothesis => exact .rests unstoring (inductionHypothesis last)

theorem split (whole : storage.Along transforms (front ++ back) later) :
    ∃ middle, storage.Along transforms front middle ∧ middle.Along transforms back later := by
  induction front generalizing storage with
  | nil => exact ⟨storage, .stay storage, whole⟩
  | cons exchange front inductionHypothesis =>
    cases whole with
    | keeps behind =>
      obtain ⟨middle, first, last⟩ := inductionHypothesis behind
      exact ⟨middle, .keeps first, last⟩
    | converts produced behind =>
      obtain ⟨middle, first, last⟩ := inductionHypothesis behind
      exact ⟨middle, .converts produced first, last⟩
    | rests unstoring behind =>
      obtain ⟨middle, first, last⟩ := inductionHypothesis behind
      exact ⟨middle, .rests unstoring first, last⟩

end Storage.Along

namespace World

variable {σ α : Type} {surroundings : Surroundings σ} {storage : Nat} {world middle later : World σ}

/-! ### Storages that are left alone -/

/-- A storage is as it was, and if nothing in the background worked on it, nothing does. -/
structure Respects (storage : Nat) (world later : World σ) : Prop where
  stored : later.storages[storage]? = world.storages[storage]?
  elsewhere : (∀ runner ∈ world.background, runner.records.storage ≠ storage) →
    ∀ runner ∈ later.background, runner.records.storage ≠ storage

namespace Respects

theorem of_same (storages : later.storages = world.storages) (background : later.background = world.background) :
    Respects storage world later where
  stored := by rw [storages]
  elsewhere free := by rwa [background]

theorem refl (world : World σ) : Respects storage world world :=
  .of_same rfl rfl

theorem trans (first : Respects storage world middle) (last : Respects storage middle later) :
    Respects storage world later where
  stored := last.stored.trans first.stored
  elsewhere free := last.elsewhere (first.elsewhere free)

end Respects

/-- A request that has nothing to do with what is stored leaves it. -/
theorem attend_storages (world : World σ) (records : Records) (race : Option Nat) (hold : Option Hold)
    {request : Request} (unstoring : request.isStoring = false) :
    (world.attend surroundings records race hold request).1.storages = world.storages := by
  have worked : ∀ work, (world.attendWork surroundings hold work).1.storages = world.storages := by
    intro work
    unfold attendWork
    split <;> rfl
  cases request with
  | ask work => exact worked work
  | askBy deadline work =>
    simp only [attend, attendWorkBy_world]
    exact worked work
  | convert steps value => cases unstoring
  | keep name value => cases unstoring
  | listen subscription limit awaited =>
    simp only [attend]
    split <;> rfl
  | race cases selector previous =>
    simp only [attend]
    unfold attendRace
    split
    · split <;> rfl
    · rfl
  | win value => cases race <;> rfl
  | _ => rfl

/-- Whoever works on another storage leaves a storage alone. -/
theorem attend_respects {records : Records} (apart : records.storage ≠ storage) (world : World σ) (race : Option Nat)
    (hold : Option Hold) (request : Request) :
    Respects storage world (world.attend surroundings records race hold request).1 where
  stored := by
    by_cases stores : request.isStoring = true
    · cases request with
      | convert steps value => exact Array.getElem?_setIfInBounds_ne apart
      | keep name value => exact Array.getElem?_setIfInBounds_ne apart
      | _ => cases stores
    · rw [attend_storages world records race hold (Bool.not_eq_true _ ▸ stores)]
  elsewhere free runner member := by
    rcases mem_attend_background _ _ _ _ member with old | ⟨cases, selector, previous, _, started⟩
    · exact free runner old
    · obtain ⟨steps, _, rfl⟩ := List.mem_map.mp started
      exact apart

/-- A process that waits works on the same records as before. -/
theorem records_of_waiting {records : Records} {race : Option Nat} {job : Job α} {hold : Option Hold} {world : World σ}
    {process : Process α} (waits : (runJob surroundings records race job hold world).2 = .waiting process) :
    process.records = records := by
  induction job generalizing hold world with
  | done value => cases waits
  | request request next inductionHypothesis =>
    unfold runJob at waits
    rcases attended : world.attend surroundings records race hold request with ⟨later, reply⟩
    rw [attended] at waits
    cases reply with
    | answer answer => exact inductionHypothesis answer waits
    | wait hold =>
      cases waits
      rfl
    | gone => cases waits

theorem runJob_respects {records : Records} (apart : records.storage ≠ storage) (race : Option Nat) {job : Job α}
    {hold : Option Hold} (world : World σ) :
    Respects storage world (runJob surroundings records race job hold world).1 := by
  induction job generalizing hold world with
  | done value => exact .refl world
  | request request next inductionHypothesis =>
    have here := @attend_respects _ surroundings _ _ apart world race hold request
    unfold runJob
    rcases attended : world.attend surroundings records race hold request with ⟨later, reply⟩
    rw [attended] at here
    cases reply with
    | answer answer => exact here.trans (inductionHypothesis answer later)
    | wait hold => exact here
    | gone => exact here

theorem runInBackground_respects {runner : Runner} (apart : runner.records.storage ≠ storage) (world : World σ) :
    Respects storage world (world.runInBackground surroundings runner).1 ∧
      ∀ left ∈ (world.runInBackground surroundings runner).2, left.records = runner.records := by
  have here := @runJob_respects _ _ surroundings _ _ apart runner.race runner.job runner.hold world
  unfold runInBackground
  rcases ran : world.runUntilWait surroundings runner with ⟨later, progress⟩
  rw [show runJob surroundings runner.records runner.race runner.job runner.hold world = _ from ran] at here
  cases progress with
  | waiting process =>
    refine ⟨here, fun left kept => ?_⟩
    cases kept
    exact records_of_waiting (congrArg Prod.snd ran)
  | ended outcome =>
    have nothing : ∀ left ∈ (none : Option Runner), left.records = runner.records := by
      intro left kept
      cases kept
    dsimp only
    split
    · refine ⟨here.trans (.of_same ?_ (leaveRace_background _ _ _)), nothing⟩
      cases outcome <;> rfl
    · exact ⟨here, nothing⟩

theorem passOver_respects {pending kept : List Runner} {moved : Bool} (world : World σ)
    (waiting : ∀ runner ∈ pending, runner.records.storage ≠ storage)
    (passed : ∀ runner ∈ kept, runner.records.storage ≠ storage) :
    Respects storage world (passOver surroundings pending kept moved world).1 := by
  induction pending generalizing kept moved world with
  | nil =>
    refine ⟨rfl, fun free runner member => ?_⟩
    rcases List.mem_append.mp member with old | new
    · exact passed runner (List.mem_reverse.mp old)
    · exact free runner new
  | cons runner pending inductionHypothesis =>
    obtain ⟨apart, others⟩ := List.forall_mem_cons.mp waiting
    unfold passOver
    split
    · obtain ⟨here, same⟩ := @runInBackground_respects _ surroundings _ runner apart world
      rcases ran : world.runInBackground surroundings runner with ⟨later, left⟩
      rw [ran] at here same
      cases left with
      | none => exact here.trans (inductionHypothesis later others passed)
      | some left =>
        have stays : left.records.storage ≠ storage := by
          rw [same left rfl]
          exact apart
        exact here.trans (inductionHypothesis later others (List.forall_mem_cons.mpr ⟨stays, passed⟩))
    · exact inductionHypothesis world others (List.forall_mem_cons.mpr ⟨apart, passed⟩)

/-- A storage is there, and nothing in the background works on it. -/
structure IsReserved (storage : Nat) (world : World σ) : Prop where
  known : storage < world.storages.size
  elsewhere : ∀ runner ∈ world.background, runner.records.storage ≠ storage

theorem IsReserved.of_respects (reserved : world.IsReserved storage) (respects : Respects storage world later) :
    later.IsReserved storage where
  known := by
    have stored := respects.stored
    rw [Array.getElem?_eq_getElem reserved.known] at stored
    exact (Array.getElem?_eq_some_iff.mp stored).1
  elsewhere := respects.elsewhere reserved.elsewhere

theorem settle_respects (limit : Nat) {world : World σ} (reserved : world.IsReserved storage) :
    Respects storage world (settle surroundings limit world) := by
  induction limit generalizing world with
  | zero => exact .refl world
  | succ limit inductionHypothesis =>
    have round := @passOver_respects _ surroundings storage world.background [] false { world with background := [] }
      reserved.elsewhere (List.forall_mem_nil _)
    have here : Respects storage world (passOver surroundings world.background [] false
        { world with background := [] }).1 :=
      ⟨round.stored, fun _ => round.elsewhere (List.forall_mem_nil _)⟩
    unfold settle
    rcases passed : passOver surroundings world.background [] false { world with background := [] } with ⟨later, moved⟩
    rw [passed] at here
    cases moved with
    | true => exact here.trans (inductionHypothesis (reserved.of_respects here))
    | false => exact here

theorem undergoDue_respects (world : World σ) : Respects storage world world.undergoDue := by
  have one : ∀ (world : World σ) (incident : Incident σ), Respects storage world (world.undergo incident) := by
    intro world incident
    refine .of_same ?_ (undergo_background world incident)
    unfold undergo
    cases incident.closesChannel <;> rfl
  have all : ∀ (incidents : List (Incident σ)) (world : World σ),
      Respects storage world (incidents.foldl undergo world) := by
    intro incidents
    induction incidents with
    | nil => exact fun world => .refl world
    | cons incident incidents inductionHypothesis =>
      exact fun world => (one world incident).trans (inductionHypothesis (world.undergo incident))
  have begun : Respects storage world
      { world with incidents := world.incidents.dropWhile fun incident => decide (incident.time ≤ world.now) } :=
    .of_same rfl rfl
  exact begun.trans (all _ _)

/-! ### The process in front -/

variable {records : Records}

theorem storage_of_respects (respects : Respects records.storage world later) :
    later.storage records = world.storage records := by
  unfold World.storage
  rw [respects.stored]

/-- A request without a race that must wait, or ends the process, leaves the storage. -/
theorem attend_unanswered {race : Option Nat} {hold : Option Hold} {request : Request} (raceless : request.IsRaceless)
    (unanswered : ∀ answer, (world.attend surroundings records race hold request).2 ≠ .answer answer) :
    Respects records.storage world (world.attend surroundings records race hold request).1 := by
  have unstoring : request.isStoring = false := by
    cases request with
    | convert steps value => exact absurd rfl (unanswered _)
    | keep name value => exact absurd rfl (unanswered _)
    | _ => rfl
  refine .of_same (attend_storages world records race hold unstoring) (attend_background world records race hold ?_)
  rintro cases selector previous rfl
  exact raceless

/-- A request that is answered stores what its exchange does. -/
theorem attend_along {race : Option Nat} {hold : Option Hold} {request : Request} {answer : request.Answer}
    (reserved : world.IsReserved records.storage)
    (attended : world.attend surroundings records race hold request = (later, .answer answer)) :
    (world.storage records).Along surroundings.transforms [⟨request, answer⟩] (later.storage records) ∧
      later.IsReserved records.storage := by
  have background := attend_answered_background attended
  have stored : ∀ storage : Storage, (world.withStorage records storage).storage records = storage := by
    intro storage
    unfold World.storage withStorage
    rw [Array.getElem?_setIfInBounds_self_of_lt reserved.known]
    rfl
  have size : ∀ storage : Storage, (world.withStorage records storage).IsReserved records.storage := fun storage =>
    ⟨by simpa [withStorage] using reserved.known, reserved.elsewhere⟩
  by_cases stores : request.isStoring = true
  · cases request with
    | convert steps value =>
      cases attended
      rw [stored]
      exact ⟨.converts rfl (.stay _), size _⟩
    | keep name value =>
      cases attended
      rw [stored]
      exact ⟨.keeps (.stay _), size _⟩
    | _ => cases stores
  · rw [Bool.not_eq_true] at stores
    have storages := @attend_storages _ surroundings world records race hold _ stores
    rw [attended] at storages
    have respects : Respects records.storage world later := .of_same storages background
    rw [storage_of_respects respects]
    exact ⟨.rests stores (.stay _), reserved.of_respects respects⟩

/-- A process without races goes along a trail to what is stored, until it must wait or has ended. -/
theorem runJob_along {race : Option Nat} {job rest : Job α} {hold : Option Hold} {world : World σ}
    (reserved : world.IsReserved records.storage) (raceless : job.AsksOnly Request.IsRaceless)
    (remains : (runJob surroundings records race job hold world).2.rest? = some rest) :
    ∃ trail, Job.Trail job trail rest ∧ (∀ exchange ∈ trail, surroundings.Answers exchange) ∧
      (world.storage records).Along surroundings.transforms trail
        ((runJob surroundings records race job hold world).1.storage records) ∧
      (runJob surroundings records race job hold world).1.IsReserved records.storage := by
  induction job generalizing hold world with
  | done value =>
    cases remains
    exact ⟨[], .stay _, List.forall_mem_nil _, .stay _, reserved⟩
  | request request next inductionHypothesis =>
    have unanswered := @attend_unanswered _ surroundings world records race hold request raceless.1
    rw [runJob] at remains ⊢
    rcases attended : world.attend surroundings records race hold request with ⟨later, reply⟩
    rw [attended] at remains unanswered
    cases reply with
    | answer answer =>
      obtain ⟨along, stays⟩ := attend_along reserved attended
      obtain ⟨trail, way, answered, further, last⟩ := inductionHypothesis answer stays (raceless.2 answer) remains
      refine ⟨⟨request, answer⟩ :: trail, .step way, List.forall_mem_cons.mpr ⟨?_, answered⟩, along.append further, last⟩
      exact ⟨records, race, hold, world, later, attended⟩
    | wait hold =>
      cases remains
      have respects := unanswered fun answer answered => by cases answered
      refine ⟨[], .stay _, List.forall_mem_nil _, ?_, reserved.of_respects respects⟩
      rw [storage_of_respects respects]
      exact .stay _
    | gone => cases remains

/-- A process in front goes along a trail to what is stored in the end. -/
theorem runInFront_along {limit : Nat} {world : World σ} {front : Process α} {value : α}
    (reserved : world.IsReserved front.records.storage) (raceless : front.job.AsksOnly Request.IsRaceless)
    (ended : world.runInFront surroundings limit front = (later, some value)) :
    ∃ trail, Job.Trail front.job trail (.done value) ∧ (∀ exchange ∈ trail, surroundings.Answers exchange) ∧
      (world.storage front.records).Along surroundings.transforms trail (later.storage front.records) := by
  induction limit generalizing world front with
  | zero => cases ended
  | succ limit inductionHypothesis =>
    have here := @runJob_along _ _ surroundings front.records front.race front.job
    rw [runInFront] at ended
    rcases ran : world.runUntilWait surroundings front with ⟨between, progress⟩
    have once : runJob surroundings front.records front.race front.job front.hold world = (between, progress) := ran
    rw [ran] at ended
    cases progress with
    | ended outcome =>
      cases ended
      obtain ⟨trail, way, answered, along, _⟩ := here reserved raceless (by rw [once]; rfl)
      rw [once] at along
      exact ⟨trail, way, answered, along⟩
    | waiting process =>
      have same : process.records = front.records := records_of_waiting (congrArg Prod.snd once)
      obtain ⟨ahead, way, answered, along, stays⟩ := here reserved raceless (by rw [once]; rfl)
      rw [once, ← same] at along stays
      have due := @undergoDue_respects _ process.records.storage between
      have settled := due.trans (@settle_respects _ surroundings _ bound _ (stays.of_respects due))
      have goesOn : ∀ {moment : World σ}, Respects process.records.storage between moment →
          moment.runInFront surroundings limit process = (later, some value) →
          ∃ trail, Job.Trail front.job trail (.done value) ∧ (∀ exchange ∈ trail, surroundings.Answers exchange) ∧
            (world.storage front.records).Along surroundings.transforms trail (later.storage front.records) := by
        intro moment respects ended
        obtain ⟨behind, wayOn, answeredOn, further⟩ :=
          inductionHypothesis (stays.of_respects respects) (raceless.trail way).2 ended
        rw [storage_of_respects respects] at further
        refine ⟨ahead ++ behind, way.append wayOn, List.forall_mem_append.mpr ⟨answered, answeredOn⟩, ?_⟩
        rw [← same]
        exact along.append further
      dsimp only at ended
      split at ended
      · exact goesOn settled ended
      · split at ended
        · cases ended
        · refine goesOn (settled.trans ?_) ended
          exact .of_same rfl rfl

/-- A run without races that comes to a value goes along a trail of its script to that value and to what is stored in the
end, if nothing in the background works on the storage. -/
theorem trail_of_storing_run {world : World σ} {script : Script α} {value : α}
    (reserved : world.IsReserved records.storage) (raceless : script.AsksOnly Request.IsRaceless)
    (ran : world.run surroundings records script = (later, .ok value)) :
    ∃ trail, Job.Trail script.run trail (.done (.ok value)) ∧ (∀ exchange ∈ trail, surroundings.Answers exchange) ∧
      (world.storage records).Along surroundings.transforms trail (later.storage records) := by
  unfold run at ran
  split at ran
  case h_1 last outcome ended =>
    cases ran
    exact @runInFront_along _ _ surroundings _ _ _ ⟨script.run, records, none, none⟩ _ reserved raceless ended
  case h_2 => cases ran

end World

end Harvest
