import Harvest.Proofs.Rule.Outline
import Harvest.Proofs.Run.Answered
import Harvest.Proofs.Run.History
import Harvest.Proofs.Run.Tour

/-!
Contract: evaluated values look as the rule tree declares.

A tree without transforms whose members have distinct names is evaluated to values that fit its outline,
whatever actions are in it and whatever the page answers. What a page answers to a query is turned into texts,
what it answers to a count only says how many rows there are, and what actions come to is let go.
`Script.Yields` says of a script what its values are like when all requests are answered in worlds; it composes
as scripts do, and `Tour.yields_rule` is the induction over the tree.
-/

namespace Harvest

variable {σ α β : Type} {surroundings : Surroundings σ}

/-- The values that a script comes to, its requests being answered in worlds with these surroundings, are like this. -/
def Script.Yields (surroundings : Surroundings σ) (script : Script α) (holds : α → Prop) : Prop :=
  ∀ (trail : List Exchange) (value : α), Job.Trail script.run trail (.done (.ok value)) →
    (∀ exchange ∈ trail, surroundings.Answers exchange) → holds value

namespace Script

variable {holds : α → Prop} {holdsThen : β → Prop}

theorem yields_anything (script : Script α) : script.Yields surroundings fun _ => True :=
  fun _ _ _ _ => trivial

theorem yields_pure {value : α} (here : holds value) : (pure value : Script α).Yields surroundings holds := by
  intro trail reached way _
  have same := way.eq_of_done.2
  cases same
  exact here

theorem yields_fail (failure : Failure) : (throw failure : Script α).Yields surroundings holds := by
  intro trail reached way _
  have same := way.eq_of_done.2
  cases same

theorem Yields.bind {script : Script α} {next : α → Script β} (first : script.Yields surroundings holds)
    (last : ∀ value, holds value → (next value).Yields surroundings holdsThen) :
    (script >>= next).Yields surroundings holdsThen := by
  intro trail reached way answered
  obtain ⟨front, back, value, rfl, ahead, behind⟩ := Job.trail_of_bind_done way
  obtain ⟨before, later⟩ := List.forall_mem_append.mp answered
  exact last value (first front value ahead before) back reached behind later

theorem Yields.imp {script : Script α} {weaker : α → Prop} (yields : script.Yields surroundings holds)
    (more : ∀ value, holds value → weaker value) : script.Yields surroundings weaker :=
  fun trail value way answered => more value (yields trail value way answered)

theorem Yields.outcome {script : Script α} (yields : script.Yields surroundings holds) :
    (Script.outcome script).Yields surroundings fun outcome => ∀ value, outcome = .ok value → holds value := by
  intro trail reached way answered value same
  obtain ⟨front, back, outcome, rfl, ahead, behind⟩ := Job.trail_of_andThen_done way
  obtain ⟨none, ended⟩ := behind.eq_of_done
  cases ended
  cases same
  exact yields front value ahead (List.forall_mem_append.mp answered).1

/-- A text is converted by no steps into itself. -/
theorem yields_convert (text : String) :
    (Script.convert [] (.string text)).Yields surroundings fun value => value = .string text := by
  intro trail reached way answered
  cases way with
  | step later =>
    obtain ⟨_, _, _, world, _, attended⟩ := answered _ List.mem_cons_self
    have same := later.eq_of_done.2
    cases same
    cases attended
    rfl

end Script

namespace Run

open Script

theorem yields_convertEach (texts : List String) :
    (convertEach [] texts).Yields surroundings fun values => values = texts.map .string := by
  induction texts with
  | nil => exact yields_pure rfl
  | cons text texts inductionHypothesis =>
    rw [convertEach]
    refine (yields_convert text).bind fun value same => inductionHypothesis.bind fun values others => ?_
    exact yields_pure (by rw [same, others, List.map_cons])

/-- A simple rule without transforms gives a text, or an array of texts. -/
theorem yields_readSimple {head : RuleHead} (untransformed : head.transforms = []) (selector : String) :
    (readSimple head selector).Yields surroundings fun value => head.outline.fits value = true := by
  unfold readSimple RuleHead.outline
  rw [untransformed]
  refine (yields_anything _).bind fun answer _ => (yields_anything _).bind fun texts _ => ?_
  cases head.shape with
  | array =>
    refine (yields_convertEach texts).bind fun values same => yields_pure ?_
    rw [same]
    exact Outline.fits_texts texts
  | text =>
    refine (yields_convert _).imp fun value same => ?_
    rw [same]
    rfl

end Run

namespace Tour

open Script Outline

variable {workers : Workers}

/-- A named rule adds what it declares. -/
theorem yields_field {head : RuleHead} {outline : Outline} {value : Script Json} {declared : List (String × Outline)}
    {fields : Fields} (fits : value.Yields surroundings fun value => outline.fits value = true)
    (fit : fitsFields declared fields = true)
    (distinct : (declared.map Prod.fst ++ head.name.toList).Nodup) :
    (field head value fields).Yields surroundings fun later =>
      fitsFields (declared ++ head.declares outline) later = true := by
  unfold field RuleHead.declares
  cases named : head.name with
  | none => exact yields_fail _
  | some name =>
    refine fits.bind fun value looks => (yields_anything _).bind fun _ _ => yields_pure ?_
    cases head.isVirtual with
    | true => simpa using fit
    | false =>
      rw [named] at distinct
      exact fitsFields_insert fit (fun known => List.disjoint_of_nodup_append distinct known (List.mem_singleton_self _)) looks

/-- What a named rule declares stands among the names where it has stood itself. -/
theorem nodup_declares {head : RuleHead} {declared : List (String × Outline)} {others : List String}
    (distinct : (declared.map Prod.fst ++ (head.name.toList ++ others)).Nodup) (outline : Outline) :
    ((declared ++ head.declares outline).map Prod.fst ++ others).Nodup := by
  rw [List.map_append, List.append_assoc]
  exact distinct.sublist ((List.Sublist.refl _).append ((head.names_declares outline).append (.refl _)))

theorem yields_members {members : List Member} {path : Path} {declared : List (String × Outline)} {fields : Fields}
    (each : ∀ member, Member.rule member ∈ members → ∀ path,
      (Tour.rule workers member path 0).Yields surroundings fun value => member.outline.fits value = true)
    (fit : fitsFields declared fields = true) (distinct : (declared.map Prod.fst ++ Member.names members).Nodup) :
    (Tour.members workers members path fields).Yields surroundings fun value =>
      (mapping (declared ++ Member.outlines members)).fits value = true := by
  induction members generalizing declared fields with
  | nil =>
    rw [Tour.members, Member.outlines, List.append_nil]
    exact yields_pure (fits_mapping.trans fit)
  | cons member members inductionHypothesis =>
    have eachOther := fun other (among : Member.rule other ∈ members) => each other (List.mem_cons_of_mem _ among)
    cases member with
    | rule member =>
      rw [Member.names] at distinct
      rw [Tour.members, Member.outlines, ← List.append_assoc]
      have here : (declared.map Prod.fst ++ member.head.name.toList).Nodup :=
        distinct.sublist ((List.Sublist.refl _).append (List.sublist_append_left _ _))
      refine (yields_field (each member List.mem_cons_self path) fit here).bind fun later fitLater => ?_
      exact inductionHypothesis eachOther fitLater (nodup_declares distinct _)
    | row rules => exact inductionHypothesis eachOther fit distinct

theorem yields_rules {template : List Rule} {path : Path} {declared : List (String × Outline)} {fields : Fields}
    (each : ∀ member ∈ template, ∀ path,
      (Tour.rule workers member path 0).Yields surroundings fun value => member.outline.fits value = true)
    (fit : fitsFields declared fields = true) (distinct : (declared.map Prod.fst ++ Rule.names template).Nodup) :
    (Tour.rules workers template path fields).Yields surroundings fun value =>
      (mapping (declared ++ Rule.outlines template)).fits value = true := by
  induction template generalizing declared fields with
  | nil =>
    rw [Tour.rules, Rule.outlines, List.append_nil]
    exact yields_pure (fits_mapping.trans fit)
  | cons member template inductionHypothesis =>
    rw [Rule.names] at distinct
    rw [Tour.rules, Rule.outlines, ← List.append_assoc]
    have here : (declared.map Prod.fst ++ member.head.name.toList).Nodup :=
      distinct.sublist ((List.Sublist.refl _).append (List.sublist_append_left _ _))
    refine (yields_field (each member List.mem_cons_self path) fit here).bind fun later fitLater => ?_
    exact inductionHypothesis (fun other among => each other (List.mem_cons_of_mem _ among)) fitLater
      (nodup_declares distinct _)

/-- The rows that are kept are like each of them. -/
theorem yields_rows {row : Nat → Script Json} {holds : Json → Prop} (each : ∀ index, (row index).Yields surroundings holds)
    (index remaining : Nat) :
    (rows row index remaining).Yields surroundings fun values => ∀ value ∈ values, holds value := by
  induction remaining generalizing index with
  | zero => exact yields_pure (List.forall_mem_nil _)
  | succ remaining inductionHypothesis =>
    rw [rows]
    refine (each index).outcome.bind fun outcome fits => ?_
    cases outcome with
    | ok value =>
      refine (inductionHypothesis (index + 1)).bind fun values others => yields_pure ?_
      exact List.forall_mem_cons.mpr ⟨fits value rfl, others⟩
    | error failure =>
      dsimp only
      split
      · exact yields_fail _
      · exact yields_pure (List.forall_mem_nil _)

theorem yields_grid {head : RuleHead} {path : Path} {row : Path → Script Json} {declared : List (String × Outline)}
    (each : ∀ path, (row path).Yields surroundings fun value => (mapping declared).fits value = true) (offset : Nat) :
    (grid workers head path offset row).Yields surroundings fun value => (table declared).fits value = true := by
  unfold grid
  cases head.scope with
  | none => exact yields_fail _
  | some scope =>
    refine (yields_anything _).bind fun answer _ => (yields_rows (fun index => each _) _ _).bind fun values fit => ?_
    exact yields_pure (fits_table fit)

theorem yields_whole {head : RuleHead} (untransformed : head.transforms = []) {script : Script Json} {outline : Outline}
    (yields : script.Yields surroundings fun value => outline.fits value = true) :
    (script >>= whole head).Yields surroundings fun value => outline.fits value = true := by
  refine yields.bind fun value fits => ?_
  unfold whole
  rw [untransformed]
  exact yields_pure fits

/-- A plain rule yields what it declares, whoever counts rows and performs actions, if what is read for a simple rule is
as that declares. -/
theorem yields_rule (reads : ∀ path head, head.transforms = [] →
      (workers.read path head).Yields surroundings fun value => head.outline.fits value = true)
    {rule : Rule} (plain : rule.IsPlain) (path : Path) (offset : Nat) :
    (Tour.rule workers rule path offset).Yields surroundings fun value => rule.outline.fits value = true := by
  induction plain generalizing path offset with
  | @simple head actions untransformed =>
    unfold Tour.rule
    exact (yields_anything _).bind fun _ _ => (yields_anything _).bind fun _ _ => reads path head untransformed
  | @composed head members actions untransformed distinct rowsDistinct _ _ rules rows =>
    unfold Tour.rule
    refine (yields_anything _).bind fun _ _ => (yields_anything _).bind fun _ _ => ?_
    have collection := @yields_members σ surroundings workers members (.collection head :: path) [] []
      (fun member among path => rules member among path 0) rfl distinct
    cases members with
    | nil => exact yields_whole untransformed collection
    | cons member others =>
      cases member with
      | rule member => exact yields_whole untransformed collection
      | row template =>
        have eachRow := fun path => @yields_rules σ surroundings workers template path [] []
          (fun member among path => rows template List.mem_cons_self member among path 0) rfl
          (rowsDistinct template List.mem_cons_self)
        exact yields_whole untransformed (yields_grid eachRow offset)

end Tour

namespace Run

/-- However the requests of an evaluation are answered, each in some world, a plain rule comes to what it declares. -/
theorem yields_evaluateWithin (setup : Setup) {rule : Rule} (plain : rule.IsPlain) (stack : ScopeStack) (offset : Nat) :
    (evaluateWithin setup rule stack offset).Yields surroundings fun value => rule.outline.fits value = true := by
  rw [evaluateWithin_eq]
  refine Tour.yields_rule (fun path head untransformed => ?_) plain [] offset
  rw [read_inside]
  exact yields_readSimple untransformed _

/-- Whatever the surroundings do, if a rule tree without transforms in which the members of each collection and row have
distinct names is evaluated to a value, then the value looks as the tree declares. -/
theorem evaluated_value_fits (surroundings : Surroundings σ) (world : World σ) (records : Records) {rule : Rule}
    (plain : rule.IsPlain) (stack : ScopeStack) (offset : Nat) {value : Json}
    (evaluates : (world.run surroundings records (evaluateWithin surroundings.setup rule stack offset)).2 = .ok value) :
    rule.outline.fits value = true := by
  obtain ⟨trail, way, answered⟩ := World.trail_of_run evaluates
  exact yields_evaluateWithin surroundings.setup plain stack offset trail value way answered

/-- A rule with a text, texts, and a virtual rule, which is evaluated behind an action. -/
def profile : Rule :=
  .mk {} (some [
    .rule (.mk { name := some "title", scope := some "h1" } none []),
    .rule (.mk { name := some "tags", scope := some "li", shape := .array } none []),
    .rule (.mk { name := some "link", isVirtual := true } none [.ofKind "url"])]) []

theorem isPlain_profile : profile.IsPlain := by
  refine .composed rfl (by decide) ?_ ?_ ?_
  · simp
  · intro rule member
    simp only [List.mem_cons, Member.rule.injEq, List.not_mem_nil, or_false] at member
    rcases member with rfl | rfl | rfl <;> exact .simple rfl
  · simp

/-- Where all answers are names of calls, the two fields that are not virtual hold such a name, and such names. -/
theorem profile_fits : ∃ value, profile.IsPlain ∧
    (World.blank.run .echo ⟨0, 0⟩ (evaluateWithin Surroundings.echo.setup profile [] 0)).2 = .ok value ∧
    profile.outline.fits value = true := by
  have evaluates : (World.blank.run .echo ⟨0, 0⟩ (evaluateWithin Surroundings.echo.setup profile [] 0)).2 =
      .ok (.object [("tags", .texts ["query"]), ("title", .string "query")]) := rfl
  exact ⟨_, isPlain_profile, evaluates, evaluated_value_fits .echo World.blank ⟨0, 0⟩ isPlain_profile [] 0 evaluates⟩

end Run

namespace Crowd

/-- All that tasks have exchanged was answered in worlds. -/
def Answered (surroundings : Surroundings σ) (crowd : Crowd σ) : Prop :=
  ∀ event ∈ crowd.trace, ∀ exchange ∈ event.deed.exchange?, surroundings.Answers exchange

theorem Answered.step {crowd later : Crowd σ} (answered : Answered surroundings crowd)
    (taken : crowd.Step surroundings later) : Answered surroundings later := by
  cases taken with
  | outside _ _ _ _ => exact answered
  | accepted _ _ _ => exact answered
  | answered _ _ attended =>
    refine List.forall_mem_append.mpr ⟨answered, List.forall_mem_singleton.mpr fun exchange same => ?_⟩
    cases same
    exact ⟨_, _, _, _, _, attended⟩
  | waited _ _ _ => exact List.forall_mem_append.mpr ⟨answered, List.forall_mem_nil _⟩
  | left _ _ _ =>
    exact List.forall_mem_append.mpr ⟨answered, List.forall_mem_singleton.mpr fun exchange same => (by cases same)⟩

theorem Answered.play (world : World σ) (schedule : List (Turn σ)) :
    Answered surroundings ((start world).play surroundings schedule) :=
  play_preserves schedule (List.forall_mem_nil _) Answered.step

/-- In any order of the steps of all tasks, if a plain rule is evaluated to a value, then the value looks as the rule
declares. -/
theorem evaluation_fits (world : World σ) (schedule : List (Turn σ)) {rule : Rule} (plain : rule.IsPlain)
    {stack : ScopeStack} {offset index : Nat} {task : Task} {value : Json}
    (begun : ((start world).play surroundings schedule).tasks[index]? = some task)
    (evaluates : task.origin.job = (Run.evaluateWithin surroundings.setup rule stack offset).run)
    (finished : task.standing = .finished (some (.ok value))) : rule.outline.fits value = true := by
  have follows := (Traced.play world schedule).follows begun
  obtain ⟨rest, way, ended⟩ := follows.trail
  rw [ended _ finished, evaluates] at way
  have yields := @Run.yields_evaluateWithin σ surroundings surroundings.setup rule plain stack offset
  refine yields _ value way fun exchange member => ?_
  obtain ⟨deed, done, same⟩ := List.mem_filterMap.mp member
  obtain ⟨event, among, rfl⟩ := List.mem_map.mp done
  exact Answered.play world schedule event (List.mem_of_mem_filter among) exchange same

end Crowd

end Harvest
