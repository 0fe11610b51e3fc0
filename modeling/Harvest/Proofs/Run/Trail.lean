import Harvest.Run.Job

/-!
Contract: the trails of a job.

A trail is what a job has exchanged with its surroundings on one of its ways: its requests in
order, each with the answer that it got. Whatever the surroundings are, a run of a job
leaves a trail of it behind, so a law of all trails holds in all surroundings.
`trail_andThen` cuts the trail of a sequence where its first part ends. `Leaves` is a law of
all trails of a job, and `Leaves.andThen` gives it for a sequence.
-/

namespace Harvest

/-- A request and the answer that it got. -/
structure Exchange where
  request : Request
  answer : request.Answer

namespace Job

variable {α β γ : Type}

/-- What remains of a job behind a trail of it. -/
inductive Trail : Job α → List Exchange → Job α → Prop where
  | stay (job : Job α) : Trail job [] job
  | step {request : Request} {next : request.Answer → Job α} {answer : request.Answer} {trail : List Exchange}
      {rest : Job α} (later : Trail (next answer) trail rest) :
      Trail (.request request next) (⟨request, answer⟩ :: trail) rest

namespace Trail

theorem append {job middle rest : Job α} {front back : List Exchange} (first : Trail job front middle)
    (last : Trail middle back rest) : Trail job (front ++ back) rest := by
  induction first with
  | stay => exact last
  | step _ inductionHypothesis => exact .step (inductionHypothesis last)

/-- A trail goes on with the next request of what remains. -/
theorem snoc {job : Job α} {trail : List Exchange} {request : Request} {next : request.Answer → Job α}
    (so_far : Trail job trail (.request request next)) (answer : request.Answer) :
    Trail job (trail ++ [⟨request, answer⟩]) (next answer) :=
  so_far.append (.step (.stay _))

theorem split {job rest : Job α} {front back : List Exchange} (whole : Trail job (front ++ back) rest) :
    ∃ middle, Trail job front middle ∧ Trail middle back rest := by
  induction front generalizing job with
  | nil => exact ⟨job, .stay job, whole⟩
  | cons exchange front inductionHypothesis =>
    cases whole with
    | step later =>
      obtain ⟨middle, first, last⟩ := inductionHypothesis later
      exact ⟨middle, .step first, last⟩

/-- What remains behind a trail is one job. -/
theorem unique {job rest other : Job α} {trail : List Exchange} (way : Trail job trail rest)
    (also : Trail job trail other) : rest = other := by
  induction way with
  | stay =>
    cases also
    rfl
  | step _ inductionHypothesis =>
    cases also with
    | step later => exact inductionHypothesis later

theorem eq_of_done {value : α} {trail : List Exchange} {rest : Job α} (whole : Trail (.done value) trail rest) :
    trail = [] ∧ rest = .done value := by
  cases whole
  exact ⟨rfl, rfl⟩

end Trail

/-- A trail of a sequence lies inside its first part, or passes through the end of that part. -/
theorem trail_andThen {job : Job α} {next : α → Job β} {trail : List Exchange} {rest : Job β}
    (whole : Trail (job.andThen next) trail rest) :
    (∃ inner, Trail job trail inner ∧ rest = inner.andThen next) ∨
      ∃ front back value, trail = front ++ back ∧ Trail job front (.done value) ∧ Trail (next value) back rest := by
  induction job generalizing trail with
  | done value => exact .inr ⟨[], trail, value, rfl, .stay _, whole⟩
  | request request following inductionHypothesis =>
    cases whole with
    | stay => exact .inl ⟨_, .stay _, rfl⟩
    | step later =>
      rcases inductionHypothesis _ later with ⟨inner, inside, rfl⟩ | ⟨front, back, value, rfl, first, last⟩
      · exact .inl ⟨inner, .step inside, rfl⟩
      · exact .inr ⟨_ :: front, back, value, rfl, .step first, last⟩

/-- A sequence is done when both its parts are. -/
theorem eq_done_of_andThen_eq_done {job : Job α} {next : α → Job β} {value : β}
    (done : job.andThen next = .done value) : ∃ reached, job = .done reached ∧ next reached = .done value := by
  cases job with
  | done reached => exact ⟨reached, rfl, done⟩
  | request request following => exact nomatch done

/-- A trail to the end of a sequence passes through the end of its first part. -/
theorem trail_of_andThen_done {job : Job α} {next : α → Job β} {trail : List Exchange} {value : β}
    (whole : Trail (job.andThen next) trail (.done value)) : ∃ front back reached, trail = front ++ back ∧
      Trail job front (.done reached) ∧ Trail (next reached) back (.done value) := by
  rcases trail_andThen whole with ⟨inner, inside, ended⟩ | passed
  · obtain ⟨reached, rfl, done⟩ := eq_done_of_andThen_eq_done ended.symm
    exact ⟨trail, [], reached, (List.append_nil trail).symm, inside, done ▸ .stay _⟩
  · exact passed

/-- The trails of a sequence are those of its parts, one behind the other. -/
theorem Trail.andThen {job : Job α} {next : α → Job β} {front back : List Exchange} {value : α} {rest : Job β}
    (first : Trail job front (.done value)) (last : Trail (next value) back rest) :
    Trail (job.andThen next) (front ++ back) rest := by
  generalize finished : Job.done value = ending at first
  induction first with
  | stay =>
    subst finished
    exact last
  | step _ inductionHypothesis => exact .step (inductionHypothesis finished)

/-- A trail of the first part of a sequence is one of the sequence. -/
theorem Trail.inside {job rest : Job α} {trail : List Exchange} (way : Trail job trail rest) (next : α → Job β) :
    Trail (job.andThen next) trail (rest.andThen next) := by
  induction way with
  | stay => exact .stay _
  | step _ inductionHypothesis => exact .step inductionHypothesis

theorem Trail.bind {script : Script α} {next : α → Script β} {front back : List Exchange} {value : α}
    {rest : Job (Except Failure β)} (first : Trail script.run front (.done (.ok value)))
    (last : Trail (next value).run back rest) : Trail (script >>= next).run (front ++ back) rest :=
  first.andThen last

/-- A trail to the value of a sequence of scripts passes through the value of the first one. -/
theorem trail_of_bind_done {script : Script α} {next : α → Script β} {trail : List Exchange} {value : β}
    (whole : Trail (script >>= next).run trail (.done (.ok value))) : ∃ front back reached, trail = front ++ back ∧
      Trail script.run front (.done (.ok reached)) ∧ Trail (next reached).run back (.done (.ok value)) := by
  obtain ⟨front, back, outcome, same, first, last⟩ := trail_of_andThen_done whole
  cases outcome with
  | ok reached => exact ⟨front, back, reached, same, first, last⟩
  | error failure => cases last.eq_of_done.2

/-- The trail of one request holds at most the exchange of it. -/
theorem trail_perform {request : Request} {trail : List Exchange} {rest : Job request.Answer}
    (way : Trail (perform request) trail rest) : trail = [] ∨ ∃ answer, trail = [⟨request, answer⟩] := by
  cases way with
  | stay => exact .inl rfl
  | step later => exact .inr ⟨_, by rw [later.eq_of_done.1]⟩

theorem eq_of_perform_done {request : Request} {trail : List Exchange} {answer : request.Answer}
    (way : Trail (perform request) trail (.done answer)) : trail = [⟨request, answer⟩] := by
  cases way with
  | step later =>
    obtain ⟨rfl, same⟩ := later.eq_of_done
    cases same
    rfl

/-! ### Laws of all trails -/

/-- Whatever a job exchanges on any of its ways obeys a law. -/
def Leaves (law : List Exchange → Prop) (job : Job α) : Prop :=
  ∀ (trail : List Exchange) (rest : Job α), Trail job trail rest → law trail

section Leaves

variable {law : List Exchange → Prop}

theorem leaves_done (nothing : law []) (value : α) : (Job.done value).Leaves law := by
  intro trail rest way
  rw [way.eq_of_done.1]
  exact nothing

theorem leaves_perform {request : Request} (nothing : law []) (once : ∀ answer, law [⟨request, answer⟩]) :
    (perform request).Leaves law := by
  intro trail rest way
  rcases trail_perform way with rfl | ⟨answer, rfl⟩
  · exact nothing
  · exact once answer

/-- A law that trails obey together if they obey it each is one of sequences. -/
theorem Leaves.andThen {job : Job α} {next : α → Job β}
    (together : ∀ {front back}, law front → law back → law (front ++ back)) (first : job.Leaves law)
    (last : ∀ value, (next value).Leaves law) : (job.andThen next).Leaves law := by
  intro trail rest way
  rcases trail_andThen way with ⟨inner, inside, rfl⟩ | ⟨front, back, value, rfl, ahead, behind⟩
  · exact first _ _ inside
  · exact together (first _ _ ahead) (last value _ _ behind)

end Leaves

/-! ### Sequences of sequences -/

theorem andThen_assoc (job : Job α) (next : α → Job β) (last : β → Job γ) :
    (job.andThen next).andThen last = job.andThen fun value => (next value).andThen last := by
  induction job with
  | done => rfl
  | request request following inductionHypothesis =>
    simp only [andThen]
    congr 1
    funext answer
    exact inductionHypothesis answer

@[simp]
theorem andThen_done (job : Job α) : job.andThen .done = job := by
  induction job with
  | done => rfl
  | request request following inductionHypothesis =>
    simp only [andThen]
    congr 1
    funext answer
    exact inductionHypothesis answer

instance : LawfulMonad Job :=
  .mk' Job andThen_done (fun _ _ => rfl) andThen_assoc

end Job

end Harvest
