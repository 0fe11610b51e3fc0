import Harvest.Proofs.Run.Trail

/-!
Contract: scripts in stages, and how many of the stages that count have begun.

A staged script is a script with its stages set apart; without them it is a plain script. Each trail of that begins
one number of the stages that count (`Staged.exists_begun`, `Staged.Begun.unique`), so what is proved of the number
is proved of how often the script has come to those stages.
-/

namespace Harvest

/-! ### Trails to an end -/

namespace Job

variable {α β : Type}

/-- Nothing is exchanged behind the end of a job. -/
theorem Trail.eq_nil_of_done {job rest : Job α} {value : α} {trail more : List Exchange}
    (ended : Trail job trail (.done value)) (way : Trail job (trail ++ more) rest) : more = [] ∧ rest = .done value := by
  obtain ⟨middle, first, last⟩ := way.split
  cases first.unique ended
  exact last.eq_of_done

/-- A job has ended at one point of a trail, if at any. -/
theorem Trail.eq_of_append {job : Job α} {value other : α} {front back front' back' : List Exchange}
    (ended : Trail job front (.done value)) (endedAlso : Trail job front' (.done other))
    (same : front ++ back = front' ++ back') : front = front' ∧ back = back' ∧ value = other := by
  rcases List.append_eq_append_iff.mp same with ⟨more, longer, rest⟩ | ⟨more, longer, rest⟩
  · subst longer
    obtain ⟨rfl, done⟩ := ended.eq_nil_of_done endedAlso
    exact ⟨(List.append_nil _).symm, rest, (Job.done.inj done).symm⟩
  · subst longer
    obtain ⟨rfl, done⟩ := endedAlso.eq_nil_of_done ended
    exact ⟨List.append_nil _, rest.symm, Job.done.inj done⟩

/-- A trail of a sequence of scripts lies inside the first one, which has come to no value, or goes on behind its
value. -/
theorem trail_bind {script : Script α} {next : α → Script β} {trail : List Exchange} {rest : Job (Except Failure β)}
    (way : Trail (script >>= next).run trail rest) :
    (∃ inner, Trail script.run trail inner ∧ ∀ value, inner ≠ .done (.ok value)) ∨
      ∃ front back value, trail = front ++ back ∧ Trail script.run front (.done (.ok value)) ∧
        Trail (next value).run back rest := by
  rcases trail_andThen way with ⟨inner, inside, same⟩ | ⟨front, back, outcome, same, first, last⟩
  · match inner with
    | .request asked following => exact .inl ⟨_, inside, nofun⟩
    | .done (.error failure) => exact .inl ⟨_, inside, nofun⟩
    | .done (.ok value) =>
      subst same
      exact .inr ⟨trail, [], value, (List.append_nil trail).symm, inside, .stay _⟩
  · subst same
    cases outcome with
    | ok value => exact .inr ⟨front, back, value, rfl, first, last⟩
    | error failure =>
      obtain ⟨rfl, _⟩ := last.eq_of_done
      rw [List.append_nil]
      exact .inl ⟨_, first, nofun⟩

/-- A trail of a guarded script and what is behind it lies inside the script, or goes on behind its outcome. -/
theorem trail_outcome {script : Script α} {next : Except Failure α → Script β} {trail : List Exchange}
    {rest : Job (Except Failure β)} (way : Trail (Script.outcome script >>= next).run trail rest) :
    (∃ inner, Trail script.run trail inner ∧ ∀ outcome, inner ≠ .done outcome) ∨
      ∃ front back outcome, trail = front ++ back ∧ Trail script.run front (.done outcome) ∧
        Trail (next outcome).run back rest := by
  have sequence : (Script.outcome script >>= next).run = script.run.andThen fun outcome => (next outcome).run :=
    Job.andThen_assoc _ _ _
  rw [sequence] at way
  rcases trail_andThen way with ⟨inner, inside, same⟩ | passed
  · match inner with
    | .request asked following => exact .inl ⟨_, inside, nofun⟩
    | .done outcome =>
      subst same
      exact .inr ⟨trail, [], outcome, (List.append_nil trail).symm, inside, .stay _⟩
  · exact .inr passed

end Job

/-- Nothing is left to do with the value of a script but to end with it. -/
theorem Script.bind_pure {α : Type} (script : Script α) : (script >>= fun value => pure value) = script := by
  have ends : (ExceptT.bindCont fun value => (pure value : Script α)) = Job.done := by
    funext outcome
    cases outcome <;> rfl
  show script.run.andThen (ExceptT.bindCont _) = script.run
  rw [ends]
  exact Job.andThen_done script.run

/-! ### Stages -/

/-- A script in stages, each with a weight. A part of it may be guarded: what is behind that part goes on with its
outcome, also where it fails. -/
inductive Staged : Type → Type 1 where
  | done {α : Type} (value : α) : Staged α
  | stage {α β : Type} (weight : Nat) (script : Script β) (next : β → Staged α) : Staged α
  | guarded {α β : Type} (body : Staged β) (next : Except Failure β → Staged α) : Staged α

namespace Staged

variable {α β : Type}

def script {α : Type} : Staged α → Script α
  | .done value => pure value
  | .stage _ script next => script >>= fun value => (next value).script
  | .guarded body next => Script.outcome body.script >>= fun outcome => (next outcome).script

/-- Along a trail, stages of this weight in all have begun. -/
inductive Begun : {α : Type} → Staged α → List Exchange → (weight : Nat) → Prop where
  | done {α : Type} (value : α) : Begun (.done value) [] 0
  | within {α β : Type} {weight : Nat} {script : Script β} {next : β → Staged α} {trail : List Exchange}
      {inner : Job (Except Failure β)} (way : Job.Trail script.run trail inner)
      (unfinished : ∀ value, inner ≠ .done (.ok value)) : Begun (.stage weight script next) trail weight
  | through {α β : Type} {weight more : Nat} {script : Script β} {next : β → Staged α} {front back : List Exchange}
      {value : β} (way : Job.Trail script.run front (.done (.ok value))) (behind : Begun (next value) back more) :
      Begun (.stage weight script next) (front ++ back) (weight + more)
  | inside {α β : Type} {weight : Nat} {body : Staged β} {next : Except Failure β → Staged α} {trail : List Exchange}
      {inner : Job (Except Failure β)} (way : Job.Trail body.script.run trail inner)
      (unfinished : ∀ outcome, inner ≠ .done outcome) (begun : Begun body trail weight) :
      Begun (.guarded body next) trail weight
  | beyond {α β : Type} {weight more : Nat} {body : Staged β} {next : Except Failure β → Staged α}
      {front back : List Exchange} {outcome : Except Failure β}
      (way : Job.Trail body.script.run front (.done outcome)) (begun : Begun body front weight)
      (behind : Begun (next outcome) back more) : Begun (.guarded body next) (front ++ back) (weight + more)

/-- Along each trail of the script, stages of some weight have begun. -/
theorem exists_begun (staged : Staged α) {trail : List Exchange} {rest : Job (Except Failure α)}
    (way : Job.Trail staged.script.run trail rest) : ∃ weight, staged.Begun trail weight := by
  induction staged generalizing trail with
  | done value =>
    obtain ⟨rfl, _⟩ := way.eq_of_done
    exact ⟨0, .done value⟩
  | stage weight script next inductionHypothesis =>
    rcases Job.trail_bind way with ⟨inner, first, unfinished⟩ | ⟨front, back, value, rfl, first, last⟩
    · exact ⟨weight, .within first unfinished⟩
    · obtain ⟨more, behind⟩ := inductionHypothesis value last
      exact ⟨weight + more, .through first behind⟩
  | guarded body next ahead behind =>
    rcases Job.trail_outcome way with ⟨inner, first, unfinished⟩ | ⟨front, back, outcome, rfl, first, last⟩
    · obtain ⟨weight, begun⟩ := ahead first
      exact ⟨weight, .inside first unfinished begun⟩
    · obtain ⟨weight, begun⟩ := ahead first
      obtain ⟨more, later⟩ := behind outcome last
      exact ⟨weight + more, .beyond first begun later⟩

/-- Along each trail, stages of one weight have begun. -/
theorem Begun.unique {staged : Staged α} {trail : List Exchange} {weight other : Nat} (begun : staged.Begun trail weight)
    (also : staged.Begun trail other) : weight = other := by
  -- the stage in which a trail ends is one, and so is the value or the outcome at which each one before it ended
  induction begun generalizing other with
  | done value =>
    cases also
    rfl
  | within way unfinished =>
    cases also with
    | within _ _ => rfl
    | through ended behind =>
      exact absurd (ended.eq_nil_of_done way).2 (unfinished _)
  | @through _ _ _ _ _ _ front back _ way behind inductionHypothesis =>
    generalize shape : front ++ back = trail at also
    cases also with
    | within inside unfinished =>
      subst shape
      exact absurd (way.eq_nil_of_done inside).2 (unfinished _)
    | through ended behindAlso =>
      obtain ⟨rfl, rfl, same⟩ := way.eq_of_append ended shape
      cases same
      rw [inductionHypothesis behindAlso]
  | inside way unfinished begun inductionHypothesis =>
    cases also with
    | inside _ _ begunAlso => exact inductionHypothesis begunAlso
    | beyond ended _ _ => exact absurd (ended.eq_nil_of_done way).2 (unfinished _)
  | @beyond _ _ _ _ _ _ front back _ way begun behind first second =>
    generalize shape : front ++ back = trail at also
    cases also with
    | inside inside unfinished _ =>
      subst shape
      exact absurd (way.eq_nil_of_done inside).2 (unfinished _)
    | beyond ended begunAlso behindAlso =>
      obtain ⟨rfl, rfl, same⟩ := way.eq_of_append ended shape
      cases same
      rw [first begunAlso, second behindAlso]

end Staged

end Harvest
