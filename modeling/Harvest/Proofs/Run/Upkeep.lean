import Harvest.Proofs.Run.Composition
import Harvest.Proofs.Run.Trail
import Harvest.Run.Parse
import Mathlib.Data.List.Forall2

/-!
Contract: how a parse prepares its page and tears it down.

`Job.Confined` is the law of all that goes on in between: it neither prepares the page nor tears
it down. `Job.Heedless` is the law of what makes nothing of how a capture or a tear-down has gone;
a whole parse obeys it. `Run.upkeep_of_trail` gives the trails of a parse: it prepares the page, then
confines itself, then tears the page down, and then there is nothing left to do.
-/

namespace Harvest

/-! ### Calls and upkeep -/

/-- A request that the surroundings of the page get. -/
def Request.isCall : Request → Bool
  | .ask _ => true
  | .askBy _ _ => true
  | .subscribe => true
  | _ => false

def Request.tearsDown : Request → Bool
  | .ask .tearDown => true
  | .askBy _ .tearDown => true
  | _ => false

def Request.prepares : Request → Bool
  | .ask .prepare => true
  | .askBy _ .prepare => true
  | _ => false

def Request.isUpkeep (request : Request) : Bool :=
  request.prepares || request.tearsDown

/-- A request of which a job may make nothing, however it is answered: a capture or a tear-down. -/
def Request.isIgnored : Request → Bool
  | .ask (.snapshot _) => true
  | .ask .tearDown => true
  | _ => false

/-- All that a plain request asks of the page are calls. -/
theorem Request.of_isPlain {request : Request} (plain : request.IsPlain) :
    request.isUpkeep = false ∧ request.isIgnored = false := by
  cases request with
  | ask work =>
    cases work with
    | call pageCall => exact ⟨rfl, rfl⟩
    | _ => exact plain.elim
  | askBy deadline work =>
    cases work with
    | call pageCall => exact ⟨rfl, rfl⟩
    | _ => exact plain.elim
  | _ => exact ⟨rfl, rfl⟩

/-- On all its ways, a job neither prepares the page nor tears it down. -/
def Job.Confined {α : Type} (job : Job α) : Prop :=
  ∀ (trail : List Exchange) (rest : Job α), Trail job trail rest → ∀ exchange ∈ trail, exchange.request.isUpkeep = false

namespace Job

variable {α β : Type}

theorem confined_done (value : α) : (Job.done value).Confined :=
  leaves_done (List.forall_mem_nil _) value

theorem Confined.andThen {job : Job α} {next : α → Job β} (first : job.Confined)
    (last : ∀ value, (next value).Confined) : (job.andThen next).Confined :=
  Leaves.andThen (fun old recent => List.forall_mem_append.mpr ⟨old, recent⟩) first last

theorem confined_perform {request : Request} (other : request.isUpkeep = false) : (perform request).Confined :=
  leaves_perform (List.forall_mem_nil _) fun _ => List.forall_mem_singleton.mpr other

theorem Confined.request {request : Request} {next : request.Answer → Job α} (other : request.isUpkeep = false)
    (last : ∀ answer, (next answer).Confined) : (Job.request request next).Confined :=
  (confined_perform other).andThen last

theorem confined_composes : Job.Composes Confined where
  done := confined_done
  andThen := Confined.andThen
  plain := fun _ plain => confined_perform (Request.of_isPlain plain).1
  capture := fun _ => .request rfl fun _ => confined_done _
  subscribed := fun obeys => .request rfl fun subscription => obeys subscription fun _ _ => confined_perform rfl
  timed := fun obeys => .request rfl fun time => obeys (fun _ => confined_perform rfl) time

end Job

/-! ### What makes no difference -/

/-- Exchanges that are the same, unless a capture or a tear-down has been answered differently. -/
inductive Exchange.Alike : Exchange → Exchange → Prop where
  | same (exchange : Exchange) : Alike exchange exchange
  | captured (label : String) (one other : Except Failure Json) :
      Alike ⟨.ask (.snapshot label), one⟩ ⟨.ask (.snapshot label), other⟩
  | tornDown (one other : Except Failure Json) : Alike ⟨.ask .tearDown, one⟩ ⟨.ask .tearDown, other⟩

/-- On all its ways, a job comes to the same whatever captures and tear-downs are answered. -/
def Job.Heedless {α : Type} (job : Job α) : Prop :=
  ∀ (trail other : List Exchange) (rest : Job α), Trail job trail rest → List.Forall₂ Exchange.Alike other trail →
    Trail job other rest

namespace Job

variable {α β : Type}

theorem heedless_done (value : α) : (Job.done value).Heedless := by
  intro trail other rest way alike
  obtain ⟨rfl, rfl⟩ := way.eq_of_done
  cases alike
  exact way

theorem Heedless.andThen {job : Job α} {next : α → Job β} (first : job.Heedless)
    (last : ∀ value, (next value).Heedless) : (job.andThen next).Heedless := by
  intro trail other rest way alike
  rcases trail_andThen way with ⟨inner, inside, rfl⟩ | ⟨front, back, value, rfl, ahead, behind⟩
  · exact (first _ _ _ inside alike).inside next
  · have begins := first _ _ _ ahead (List.forall₂_take_append _ _ _ alike)
    have goesOn := last value _ _ _ behind (List.forall₂_drop_append _ _ _ alike)
    rw [← List.take_append_drop front.length other]
    exact begins.andThen goesOn

/-- A request of whose answer nothing is made. -/
theorem Heedless.ignored {request : Request} {rest : Job α} (heedless : rest.Heedless) :
    (Job.request request fun _ => rest).Heedless := by
  intro trail other stays way alike
  cases way with
  | stay =>
    cases alike
    exact .stay _
  | step later =>
    cases alike with
    | cons one others =>
      cases one with
      | same => exact .step (heedless _ _ _ later others)
      | captured => exact .step (heedless _ _ _ later others)
      | tornDown => exact .step (heedless _ _ _ later others)

theorem heedless_perform {request : Request} (heard : request.isIgnored = false) : (perform request).Heedless := by
  intro trail other rest way alike
  cases way with
  | stay =>
    cases alike
    exact .stay _
  | step later =>
    cases alike with
    | cons one others =>
      cases one with
      | same => exact .step (heedless_done _ _ _ _ later others)
      | captured => cases heard
      | tornDown => cases heard

theorem heedless_composes : Job.Composes Heedless where
  done := heedless_done
  andThen := Heedless.andThen
  plain := fun _ plain => heedless_perform (Request.of_isPlain plain).2
  capture := fun _ => .ignored (heedless_done _)
  subscribed := fun obeys => (@heedless_perform .subscribe rfl).andThen fun subscription =>
    obeys subscription fun _ _ => heedless_perform rfl
  timed := fun obeys => (@heedless_perform .now rfl).andThen fun time => obeys (fun _ => heedless_perform rfl) time

end Job

/-! ### Parses -/

/-- What is registered besides the built-in actions leaves preparing and tearing down to the parse, and makes nothing
of how a capture has gone. -/
def Setup.CustomLeavesUpkeep (setup : Setup) : Prop :=
  ∀ (kind name : String) (run : ActionHead → String → Json → Script Json),
    setup.performers.find? kind = some (.custom name run) →
    ∀ head selector previous, (run head selector previous).run.Confined ∧ (run head selector previous).run.Heedless

section Parse

variable {setup : Setup}

theorem confined_practice (custom : setup.CustomLeavesUpkeep) : Practice (fun job => job.Confined) setup where
  toComposes := Job.confined_composes
  once := Job.confined_composes.performOnce (fun _ => Job.confined_perform rfl) fun _ =>
    Job.confined_perform rfl
  custom := fun kind name run registered head selector previous =>
    (custom kind name run registered head selector previous).1
  race := fun _ _ _ => Job.confined_perform rfl

theorem heedless_conduct (custom : setup.CustomLeavesUpkeep) : Conduct (fun job => job.Heedless) setup where
  toComposes := Job.heedless_composes
  once := Job.heedless_composes.performOnce (fun _ => Job.heedless_perform rfl) fun _ =>
    Job.heedless_perform rfl
  custom := fun kind name run registered head selector previous =>
    (custom kind name run registered head selector previous).2
  race := fun _ _ _ => Job.heedless_perform rfl
  prepares := Job.heedless_perform rfl
  tearsDown := fun _ => .ignored (Job.heedless_done _)

namespace Run

/-- What a parse does when its result is known: it captures a failure, if it is to, and tears the page down. -/
def closing (setup : Setup) (result : Except Failure Json) : Script Json := do
  match result with
  | .error _ => if setup.settings.snapshotOnError then Script.capture "error"
  | .ok _ => pure ()
  let _ ← Script.outcome (Script.work .tearDown)
  Script.settled result

theorem parse_run_eq (setup : Setup) (config : ParseConfig) :
    (parse setup config).run =
      (do let _ ← Script.work .prepare; evaluateAll setup config : Script Json).run.andThen fun result =>
        (closing setup result).run :=
  Job.andThen_assoc _ _ _

/-- The job that tears the page down and then ends. -/
def tearingDown (result : Except Failure Json) : Job (Except Failure Json) :=
  .request (.ask .tearDown) fun _ => .done result

theorem run_closing (setup : Setup) (result : Except Failure Json) :
    (closing setup result).run = tearingDown result ∨
      (closing setup result).run = .request (.ask (.snapshot "error")) fun _ => tearingDown result := by
  unfold closing
  cases result with
  | ok value => exact .inl rfl
  | error failure =>
    dsimp only
    split
    · exact .inr rfl
    · exact .inl rfl

/-- What a parse has done for its page by a point of its way, which leaves the rest of it to be done. -/
inductive Upkeep (rest : Job (Except Failure Json)) : List Exchange → Prop where
  | untouched (goesOn : ∀ result, rest ≠ .done result) : Upkeep rest []
  | held {prepared : Except Failure Json} {body : List Exchange} (goesOn : ∀ result, rest ≠ .done result)
      (confined : ∀ exchange ∈ body, exchange.request.isUpkeep = false) :
      Upkeep rest (⟨.ask .prepare, prepared⟩ :: body)
  | released {prepared tornDown result : Except Failure Json} {body : List Exchange} (ended : rest = .done result)
      (confined : ∀ exchange ∈ body, exchange.request.isUpkeep = false) :
      Upkeep rest (⟨.ask .prepare, prepared⟩ :: (body ++ [⟨.ask .tearDown, tornDown⟩]))

/-- A trail of preparing and evaluating begins with the preparation, and is confined behind it. -/
theorem trail_prepared (custom : setup.CustomLeavesUpkeep) {config : ParseConfig} {trail : List Exchange}
    {rest : Job (Except Failure Json)}
    (way : Job.Trail (do let _ ← Script.work .prepare; evaluateAll setup config : Script Json).run trail rest) :
    (trail = [] ∧ ∀ result, rest ≠ .done result) ∨ ∃ prepared body, trail = ⟨.ask .prepare, prepared⟩ :: body ∧
      ∀ exchange ∈ body, exchange.request.isUpkeep = false := by
  cases way with
  | stay => exact .inl ⟨rfl, fun value same => by cases same⟩
  | @step _ _ prepared body _ later =>
    refine .inr ⟨prepared, body, rfl, ?_⟩
    have practice := confined_practice custom
    cases prepared with
    | ok answer => exact practice.evaluateAll config _ _ later
    | error failure => exact Job.confined_done _ _ _ later

theorem trail_tearingDown {result : Except Failure Json} {trail : List Exchange} {rest : Job (Except Failure Json)}
    (way : Job.Trail (tearingDown result) trail rest) :
    (trail = [] ∧ ∀ other, rest ≠ .done other) ∨
      ∃ tornDown, trail = [⟨.ask .tearDown, tornDown⟩] ∧ rest = .done result := by
  cases way with
  | stay => exact .inl ⟨rfl, fun other same => by cases same⟩
  | @step _ _ tornDown _ _ later =>
    obtain ⟨rfl, ended⟩ := later.eq_of_done
    exact .inr ⟨tornDown, rfl, ended⟩

/-- A trail of the closing is confined up to the tear-down, and ends with it. -/
theorem trail_closing {result : Except Failure Json} {trail : List Exchange} {rest : Job (Except Failure Json)}
    (way : Job.Trail (closing setup result).run trail rest) :
    ∃ body, (∀ exchange ∈ body, exchange.request.isUpkeep = false) ∧
      ((trail = body ∧ ∀ other, rest ≠ .done other) ∨
        ∃ tornDown, trail = body ++ [⟨.ask .tearDown, tornDown⟩] ∧ rest = .done result) := by
  rcases run_closing setup result with quiet | captures
  · rw [quiet] at way
    exact ⟨[], List.forall_mem_nil _, trail_tearingDown way⟩
  · rw [captures] at way
    cases way with
    | stay => exact ⟨[], List.forall_mem_nil _, .inl ⟨rfl, fun other same => by cases same⟩⟩
    | @step _ _ captured _ _ later =>
      refine ⟨[⟨.ask (.snapshot "error"), captured⟩], ?_, ?_⟩
      · intro exchange member
        rw [List.mem_singleton.mp member]
        rfl
      · rcases trail_tearingDown later with ⟨rfl, goesOn⟩ | ⟨tornDown, rfl, ended⟩
        · exact .inl ⟨rfl, goesOn⟩
        · exact .inr ⟨tornDown, rfl, ended⟩

/-- The trails of a parse keep up the page. -/
theorem upkeep_of_trail (custom : setup.CustomLeavesUpkeep) {config : ParseConfig} {trail : List Exchange}
    {rest : Job (Except Failure Json)} (way : Job.Trail (parse setup config).run trail rest) : Upkeep rest trail := by
  rw [parse_run_eq] at way
  rcases Job.trail_andThen way with ⟨inner, inside, rfl⟩ | ⟨front, back, result, rfl, ahead, behind⟩
  · -- The closing is still to come, so the parse cannot be done.
    have goesOn : ∀ result, inner.andThen (fun result => (closing setup result).run) ≠ .done result := by
      intro result ended
      obtain ⟨reached, _, closed⟩ := Job.eq_done_of_andThen_eq_done ended
      rcases run_closing setup reached with quiet | captures
      · rw [quiet] at closed
        cases closed
      · rw [captures] at closed
        cases closed
    rcases trail_prepared custom inside with ⟨rfl, _⟩ | ⟨prepared, body, rfl, confined⟩
    · exact .untouched goesOn
    · exact .held goesOn confined
  · rcases trail_prepared custom ahead with ⟨_, goesOn⟩ | ⟨prepared, body, rfl, confined⟩
    · exact absurd rfl (goesOn result)
    obtain ⟨closingBody, closingConfined, closes⟩ := trail_closing behind
    have both : ∀ exchange ∈ body ++ closingBody, exchange.request.isUpkeep = false :=
      List.forall_mem_append.mpr ⟨confined, closingConfined⟩
    rcases closes with ⟨rfl, goesOn⟩ | ⟨tornDown, rfl, ended⟩
    · exact .held goesOn both
    · rw [List.cons_append, ← List.append_assoc]
      exact .released ended both

/-- A parse that has called nothing asks for the preparation of its page. -/
theorem asks_prepare_of_uncalled {config : ParseConfig} {trail : List Exchange} {rest : Job (Except Failure Json)}
    (way : Job.Trail (parse setup config).run trail rest)
    (uncalled : ∀ exchange ∈ trail, exchange.request.isCall = false) :
    ∃ next, rest = .request (.ask .prepare) next := by
  cases way with
  | stay => exact ⟨_, rfl⟩
  | step later => exact absurd (uncalled _ List.mem_cons_self) Bool.noConfusion

namespace Upkeep

variable {rest : Job (Except Failure Json)} {trail : List Exchange}

theorem countP_tearsDown_of_confined {body : List Exchange}
    (confined : ∀ exchange ∈ body, exchange.request.isUpkeep = false) :
    body.countP (fun exchange => exchange.request.tearsDown) = 0 := by
  refine List.countP_eq_zero.mpr fun exchange member tearsDown => ?_
  have other := confined exchange member
  simp [Request.isUpkeep, tearsDown] at other

/-- The page is torn down once when a parse is done, and not before. -/
theorem countP_tearsDown (upkeep : Upkeep rest trail) :
    trail.countP (fun exchange => exchange.request.tearsDown) = 0 ∧ (∀ result, rest ≠ .done result) ∨
      trail.countP (fun exchange => exchange.request.tearsDown) = 1 ∧ ∃ result, rest = .done result := by
  cases upkeep with
  | untouched goesOn => exact .inl ⟨rfl, goesOn⟩
  | held goesOn confined =>
    refine .inl ⟨?_, goesOn⟩
    rw [List.countP_cons_of_neg Bool.false_ne_true]
    exact countP_tearsDown_of_confined confined
  | released ended confined =>
    refine .inr ⟨?_, _, ended⟩
    rw [List.countP_cons_of_neg Bool.false_ne_true, List.countP_append, countP_tearsDown_of_confined confined]
    rfl

end Upkeep

end Run

end Parse

end Harvest
