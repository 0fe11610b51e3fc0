import Harvest.Proofs.Json.Path
import Harvest.Proofs.Rule.Way
import Harvest.Proofs.Run.Siblings
import Harvest.Proofs.Run.Stored

/-!
Contract: what is stored mirrors what an evaluation comes to.

A member of a collection is kept as soon as it has been evaluated, while the members behind it are still to come.
`Tour.exists_fields` and `Tour.exists_stretch` find the stretch of a trail on which a member is evaluated; where all
names in the tree are distinct, nothing behind that stretch keeps anything under a name inside the member. So in the
end its value is stored under its name, and the mapping around it holds that value, too. `IsConverted` says how the
transforms of the member take part in that value.
-/

namespace Harvest

/-! ### What stays stored -/

/-- The footprint of whatever keeps nothing under a name. -/
def Footprint.besides (name : String) : Footprint where
  reads _ := True
  keeps other := other ≠ name

/-- Nothing on a trail keeps anything under a name. -/
def Passes (transforms : Registry Transform) (name : String) (trail : List Exchange) : Prop :=
  ∀ exchange ∈ trail, exchange.request.StaysWithin transforms (.besides name)

variable {transforms : Registry Transform}

theorem Passes.append {name : String} {front back : List Exchange} (first : Passes transforms name front)
    (last : Passes transforms name back) : Passes transforms name (front ++ back) :=
  List.forall_mem_append.mpr ⟨first, last⟩

/-- What is stored under a name stays there where nothing else is kept under that name. -/
theorem Storage.Along.get?_eq {storage later : Storage} {trail : List Exchange} {name : String}
    (along : storage.Along transforms trail later) (passes : Passes transforms name trail) :
    later.get? name = storage.get? name := by
  induction along with
  | stay => rfl
  | keeps _ inductionHypothesis =>
    obtain ⟨other, further⟩ := List.forall_mem_cons.mp passes
    exact (inductionHypothesis further).trans (Fields.find?_insert_other (Ne.symm other) _ _)
  | @converts storage middle later steps value outcome trail produced _ inductionHypothesis =>
    obtain ⟨reads, further⟩ := List.forall_mem_cons.mp passes
    -- chains of built-in transforms leave what is stored as it is
    have same := Transform.produce_congr reads (.refl _ storage) value
    rw [produced] at same
    cases congrArg Prod.snd same
    exact inductionHypothesis further
  | rests _ _ inductionHypothesis => exact inductionHypothesis (List.forall_mem_cons.mp passes).2

/-- What is kept under a name is stored there in the end where nothing behind it is kept under that name. -/
theorem Storage.Along.get?_of_kept {storage later : Storage} {front back : List Exchange} {name : String} {value : Json}
    (along : storage.Along transforms (front ++ ⟨.keep name value, ()⟩ :: back) later)
    (passes : Passes transforms name back) : later.get? name = some value := by
  obtain ⟨middle, _, onward⟩ := along.split
  cases onward with
  | keeps behind => exact (behind.get?_eq passes).trans (Fields.find?_insert_same _ _ _)
  | rests unstoring _ => cases unstoring

namespace Rule

theorem IsBuiltIn.readsOnly {rule : Rule} (builtIn : rule.IsBuiltIn transforms) {step : Transform.Step}
    (has : rule.HasStep step) : step.ReadsOnly transforms fun _ => True := by
  intro transform known
  cases transform with
  | builtIn kind => exact ⟨kind, rfl, fun _ _ => trivial⟩
  | custom run => exact absurd known (builtIn step has run)

/-- A rule without actions and custom transforms keeps nothing under a name that is not given inside it. -/
theorem mayAsk_besides {rule : Rule} (idle : rule.IsIdle) (builtIn : rule.IsBuiltIn transforms) {name : String}
    (foreign : name ∉ rule.namesInside) : rule.MayAsk (Request.StaysWithin transforms (.besides name)) where
  idle := idle
  query _ _ _ := trivial
  count _ := trivial
  convert inner inside _ _ member := builtIn.readsOnly ⟨inner, inside, member⟩
  keep _ named _ := fun same => foreign (same ▸ named.mem_namesInside)

end Rule

namespace RuleHead

variable {head : RuleHead} {name : String}

theorem find?_put_same (named : head.name = some name) (value : Json) (fields : Fields) :
    Fields.find? name (head.put value fields) = if head.isVirtual then Fields.find? name fields else some value := by
  unfold put
  rw [named]
  dsimp only
  split
  · rfl
  · exact Fields.find?_insert_same _ _ _

theorem find?_put_other (other : head.name ≠ some name) (value : Json) (fields : Fields) :
    Fields.find? name (head.put value fields) = Fields.find? name fields := by
  unfold put
  split
  · rfl
  · next given named =>
    split
    · rfl
    · refine Fields.find?_insert_other (fun same => other ?_) _ _
      rw [named, same]

end RuleHead

/-! ### The stretches of a trail -/

namespace Tour

variable {setup : Setup} {start : ScopeStack} {path : Path} {trail : List Exchange} {value : Json}

/-- A value that is kept has been visited, and is kept last. -/
theorem trail_kept {head : RuleHead} {script : Script Json}
    (whole : Job.Trail (kept head script).run trail (.done (.ok value))) :
    ∃ name own, head.name = some name ∧ trail = own ++ [⟨.keep name value, ()⟩] ∧
      Job.Trail script.run own (.done (.ok value)) := by
  unfold kept at whole
  cases named : head.name with
  | none =>
    rw [named] at whole
    cases whole.eq_of_done.2
  | some name =>
    rw [named] at whole
    obtain ⟨own, _, found, rfl, visited, keeps⟩ := Job.trail_of_bind_done whole
    cases keeps with
    | step returns =>
      obtain ⟨rfl, same⟩ := returns.eq_of_done
      cases same
      exact ⟨name, own, rfl, rfl, visited⟩

/-- A collection is visited member by member, and then converted as a whole. -/
theorem trail_collection {head : RuleHead} {first : Rule} {others : List Member} {actions : List Action} {offset : Nat}
    (idle : Rule.IsIdle (.mk head (some (.rule first :: others)) actions))
    (whole : Job.Trail (rule (.inside setup start) (.mk head (some (.rule first :: others)) actions) path offset).run
      trail (.done (.ok value))) :
    ∃ visits converts reached, trail = visits ++ converts ∧
      Job.Trail (members (.inside setup start) (.rule first :: others) (.collection head :: path) []).run visits
        (.done (.ok reached)) ∧
      Job.Trail (Tour.whole head reached).run converts (.done (.ok value)) := by
  have none : actions = [] := idle _ .self
  subst none
  unfold rule at whole
  obtain ⟨_, _, _, rfl, classified, acts⟩ := Job.trail_of_bind_done whole
  obtain ⟨_, _, _, rfl, performed, visits⟩ := Job.trail_of_bind_done acts
  obtain ⟨rfl, _⟩ := classified.eq_of_done
  obtain ⟨rfl, _⟩ := performed.eq_of_done
  exact Job.trail_of_bind_done visits

/-- Converting a whole mapping keeps nothing. -/
theorem passes_whole {head : RuleHead}
    (reads : ∀ step ∈ head.transforms, step.ReadsOnly transforms fun _ => True) {reached : Json}
    {rest : Job (Except Failure Json)} (converts : Job.Trail (Tour.whole head reached).run trail rest)
    (name : String) : Passes transforms name trail :=
  (Job.AsksOnly.trail (asksOnly_whole (fun _ => reads) reached) converts).1

theorem eq_of_untransformed {head : RuleHead} (untransformed : head.transforms = []) {reached : Json}
    (converts : Job.Trail (Tour.whole head reached).run trail (.done (.ok value))) : value = reached := by
  unfold Tour.whole at converts
  rw [untransformed] at converts
  cases converts.eq_of_done.2
  rfl

/-- The members of a collection are visited one behind the other. -/
theorem trail_members_cons {first : Rule} {others : List Member} {fields : Fields}
    (whole : Job.Trail (members (.inside setup start) (.rule first :: others) path fields).run trail
      (.done (.ok value))) :
    ∃ name own found behind, first.head.name = some name ∧ trail = own ++ ⟨.keep name found, ()⟩ :: behind ∧
      Job.Trail (rule (.inside setup start) first path 0).run own (.done (.ok found)) ∧
      Job.Trail (members (.inside setup start) others path (first.head.put found fields)).run behind
        (.done (.ok value)) := by
  rw [members_cons] at whole
  obtain ⟨_, behind, found, rfl, here, later⟩ := Job.trail_of_bind_done whole
  obtain ⟨name, own, named, rfl, visited⟩ := trail_kept here
  exact ⟨name, own, found, behind, named, by simp, visited, later⟩

/-- A named member has been visited on a stretch of a trail, and is kept right behind it. Nothing further on keeps
anything under a name inside it. -/
structure Visited (transforms : Registry Transform) (workers : Workers) (path : Path) (trail : List Exchange)
    (member : Rule) (name : String) (found : Json) (ahead own behind : List Exchange) : Prop where
  named : member.head.name = some name
  split : trail = ahead ++ (own ++ ⟨.keep name found, ()⟩ :: behind)
  visited : Job.Trail (rule workers member path 0).run own (.done (.ok found))
  passes : ∀ hidden ∈ member.namesInside, Passes transforms hidden behind

theorem Visited.later {workers : Workers} {member : Rule} {name : String} {found : Json}
    {ahead own behind : List Exchange}
    (visited : Visited transforms workers path trail member name found ahead own behind) (front : List Exchange) :
    Visited transforms workers path (front ++ trail) member name found (front ++ ahead) own behind where
  named := visited.named
  split := by rw [visited.split, List.append_assoc]
  visited := visited.visited
  passes := visited.passes

section

variable {members : List Member} (idle : ∀ rule, Member.rule rule ∈ members → rule.IsIdle)
  (builtIn : ∀ rule, Member.rule rule ∈ members → rule.IsBuiltIn transforms)

include idle builtIn

/-- The visits of members keep nothing under a name that is not given inside one of them. -/
theorem passes_members {fields : Fields} {rest : Job (Except Failure Json)}
    (visits : Job.Trail (Tour.members (.inside setup start) members path fields).run trail rest) {name : String}
    (foreign : name ∉ Member.allNames members) : Passes transforms name trail := by
  have may : ∀ rule, Member.rule rule ∈ members → rule.MayAsk (Request.StaysWithin transforms (.besides name)) := by
    intro rule among
    refine Rule.mayAsk_besides (idle rule among) (builtIn rule among) fun inside => foreign ?_
    exact (Member.sublist_allNames among).subset inside
  exact (Job.AsksOnly.trail (asksOnly_members setup start members may path fields) visits).1

/-- The visits of members with distinct names come to a mapping. Each member has been visited, and a new name has its
value in the mapping unless the member is virtual. -/
theorem exists_fields (distinct : (Member.allNames members).Nodup) {fields : Fields}
    (visits : Job.Trail (Tour.members (.inside setup start) members path fields).run trail (.done (.ok value))) :
    ∃ result, value = .object result ∧
      (∀ name ∉ Member.allNames members, Fields.find? name result = Fields.find? name fields) ∧
      ∀ member, Member.rule member ∈ members → ∃ name found ahead own behind,
        Visited transforms (.inside setup start) path trail member name found ahead own behind ∧
        (Fields.find? name fields = none →
          Fields.find? name result = if member.head.isVirtual then none else some found) := by
  induction members generalizing fields trail with
  | nil =>
    unfold Tour.members at visits
    cases visits.eq_of_done.2
    exact ⟨fields, rfl, fun _ _ => rfl, fun _ among => by cases among⟩
  | cons first others inductionHypothesis =>
    rw [Member.allNames_cons] at distinct ⊢
    obtain ⟨_, later, apart⟩ := List.nodup_append'.mp distinct
    have idleLater : ∀ rule, Member.rule rule ∈ others → rule.IsIdle :=
      fun rule among => idle rule (List.mem_cons_of_mem _ among)
    have builtInLater : ∀ rule, Member.rule rule ∈ others → rule.IsBuiltIn transforms :=
      fun rule among => builtIn rule (List.mem_cons_of_mem _ among)
    cases first with
    | row template =>
      unfold Tour.members at visits
      obtain ⟨result, shape, kept, each⟩ := inductionHypothesis idleLater builtInLater later visits
      refine ⟨result, shape, fun name foreign => ?_, fun member among => ?_⟩
      · exact kept name fun among => foreign (List.mem_append_right _ among)
      · rcases List.mem_cons.mp among with same | among
        · cases same
        · exact each member among
    | rule first =>
      obtain ⟨given, own, found, behind, named, rfl, visited, onward⟩ := trail_members_cons visits
      obtain ⟨result, shape, kept, each⟩ := inductionHypothesis idleLater builtInLater later onward
      have put : ∀ {name}, name ∉ first.namesInside →
          Fields.find? name (first.head.put found fields) = Fields.find? name fields :=
        fun foreign => RuleHead.find?_put_other (fun same => foreign (Rule.mem_namesInside same)) found fields
      refine ⟨result, shape, fun name foreign => ?_, fun member among => ?_⟩
      · rw [List.mem_append, not_or] at foreign
        exact (kept name foreign.2).trans (put foreign.1)
      · rcases List.mem_cons.mp among with same | among
        · -- the members behind the first one have other names, so its field stays as it has been put
          cases same
          refine ⟨given, found, [], own, behind, ⟨named, rfl, visited, fun hidden inside => ?_⟩, fun fresh => ?_⟩
          · exact passes_members idleLater builtInLater onward (apart inside)
          · rw [kept given (apart (Rule.mem_namesInside named)), RuleHead.find?_put_same named, fresh]
        · obtain ⟨name, value, ahead, theirs, rest, stretch, shown⟩ := each member among
          have inOthers := (Member.sublist_allNames among).subset (Rule.mem_namesInside stretch.named)
          have later := stretch.later (own ++ [⟨.keep given found, ()⟩])
          rw [List.append_assoc] at later
          have untouched := put fun inside => apart inside inOthers
          exact ⟨name, value, _, theirs, rest, later, fun fresh => shown (untouched.trans fresh)⟩

end

/-- What is at the end of a way has been visited on a stretch of the trail, and nothing behind it keeps anything under a
name below it. The names along the way lead to its value, unless something on the way is virtual or converted. -/
theorem exists_stretch {root inner : Rule} {heads : List RuleHead} (way : root.Way heads inner) (idle : root.IsIdle)
    (builtIn : root.IsBuiltIn transforms) (distinct : root.namesBelow.Nodup) {offset : Nat}
    (visits : Job.Trail (rule (.inside setup start) root path offset).run trail (.done (.ok value))) :
    ∃ offset before own after found, trail = before ++ (own ++ after) ∧
      Job.Trail (rule (.inside setup start) inner ((heads.map Level.collection).reverse ++ path) offset).run own
        (.done (.ok found)) ∧
      (∀ hidden ∈ inner.namesBelow, Passes transforms hidden after) ∧
      ∃ names : List String, (heads ++ [inner.head]).tail.map RuleHead.name = names.map some ∧
        ((∀ head ∈ heads, head.isVirtual = false ∧ head.transforms = []) → inner.head.isVirtual = false →
          value.descend? names = some found) := by
  induction way generalizing path offset trail value with
  | here root =>
    exact ⟨offset, [], trail, [], value, (List.append_nil trail).symm, visits, fun _ _ => List.forall_mem_nil _,
      [], rfl, fun _ _ => rfl⟩
  | @member head first between inner others actions heads among further inductionHypothesis =>
    have builtInBelow : ∀ rule, Member.rule rule ∈ Member.rule first :: others → rule.IsBuiltIn transforms :=
      fun rule among step has => builtIn step (has.member among)
    obtain ⟨onMembers, converts, reached, rfl, membersVisited, converted⟩ := trail_collection idle visits
    obtain ⟨result, rfl, _, each⟩ :=
      exists_fields (fun rule among => idle.member among) builtInBelow distinct membersVisited
    obtain ⟨name, held, ahead, stretch, behind, visited, shown⟩ := each between among
    have distinctInside : between.namesInside.Nodup := distinct.sublist (Member.sublist_allNames among)
    obtain ⟨offset, before, own, after, found, cut, innerVisited, passes, names, along, descends⟩ :=
      inductionHypothesis (idle.member among) (builtInBelow between among)
        (distinctInside.sublist (List.sublist_append_right _ _)) visited.visited
    refine ⟨offset, ahead ++ before, own, after ++ ⟨.keep name held, ()⟩ :: (behind ++ converts), found, ?_, ?_,
      fun hidden below => ?_, name :: names, ?_, fun plain shownInner => ?_⟩
    · rw [visited.split, cut]
      simp
    · simpa using innerVisited
    · -- behind the stretch come the member around it, which is kept, the members behind that one, and the conversion
      have inside : hidden ∈ between.namesBelow := further.sublist_namesBelow.subset below
      have other : name ≠ hidden := by
        rintro rfl
        exact (List.nodup_append'.mp distinctInside).2.2 (Option.mem_toList.mpr visited.named) inside
      have onward := visited.passes hidden (List.mem_append_right _ inside)
      have reads : ∀ step ∈ head.transforms, step.ReadsOnly transforms fun _ => True :=
        fun step member => builtIn.readsOnly ⟨_, .self, member⟩
      exact (passes hidden below).append
        (List.forall_mem_cons.mpr ⟨other, onward.append (passes_whole reads converted hidden)⟩)
    · rw [List.cons_append, List.tail_cons, further.heads_eq, List.map_cons, along, visited.named]
      rfl
    · obtain ⟨⟨_, untransformed⟩, plainBelow⟩ := List.forall_mem_cons.mp plain
      have firstAlong : between.head ∈ heads ++ [inner.head] := by
        rw [further.heads_eq]
        exact List.mem_cons_self
      have visible : between.head.isVirtual = false := by
        rcases List.mem_append.mp firstAlong with above | last
        · exact (plainBelow _ above).1
        · rw [List.mem_singleton.mp last, shownInner]
      have held : Fields.find? name result = some held := by
        rw [shown rfl, visible]
        rfl
      rw [eq_of_untransformed untransformed converted, Json.descend?, Json.child?, held]
      exact descends plainBelow shownInner

end Tour

/-! ### What transforms make of a value -/

def RuleHead.bare (head : RuleHead) : RuleHead :=
  { head with transforms := [] }

namespace Scoped

/-- What is done behind a script on stacks may as well be done behind its run on a stack of its own. -/
theorem within_bind_ofScript {α β : Type} (nested : Scoped α) (next : α → Script β) (stack : ScopeStack) :
    (nested >>= fun value => ofScript (next value)).within stack = nested.within stack >>= next := by
  show ((nested.run.run stack).andThen _).andThen _ = ((nested.run.run stack).andThen _).andThen _
  rw [Job.andThen_assoc, Job.andThen_assoc]
  congr 1
  funext ⟨outcome, later⟩
  cases outcome with
  | error failure => rfl
  | ok value =>
    show ((next value).run.andThen _).andThen _ = _
    rw [Job.andThen_assoc]
    exact Job.andThen_done _

end Scoped

namespace Run

/-- How the value of a rule came about on a trail. A simple rule queried, and converted the texts that it read, each for
itself or all of them joined. A collection or a grid with transforms collected first, like the rule without
them, and converted the whole of that in the end. -/
inductive IsConverted (setup : Setup) (stack : ScopeStack) : Rule → List Exchange → Json → Prop where
  | text {head : RuleHead} {actions : List Action} {selector : String} {answer found : Json} {texts : List String}
      (shape : head.shape = .text) (read : textsOf selector answer = .ok texts) :
      IsConverted setup stack (.mk head none actions)
        [⟨.ask (.call (.query selector head.attr head.property)), .ok answer⟩,
          ⟨.convert head.transforms (.string (head.separatorText.intercalate texts)), .ok found⟩] found
  | array {head : RuleHead} {actions : List Action} {selector : String} {answer : Json} {texts : List String}
      {values : List Json} (shape : head.shape = .array) (read : textsOf selector answer = .ok texts)
      (each : values.length = texts.length) :
      IsConverted setup stack (.mk head none actions)
        (⟨.ask (.call (.query selector head.attr head.property)), .ok answer⟩ ::
          List.zipWith (fun text value => ⟨.convert head.transforms (.string text), .ok value⟩) texts values)
        (.array values)
  | whole {head : RuleHead} {members : List Member} {actions : List Action} {raw found : Json}
      {collects : List Exchange} (transformed : head.transforms ≠ [])
      (collected : Job.Trail (evaluateWithin setup (.mk head.bare (some members) actions) stack 0).run collects
        (.done (.ok raw))) :
      IsConverted setup stack (.mk head (some members) actions)
        (collects ++ [⟨.convert head.transforms raw, .ok found⟩]) found
  | plain {head : RuleHead} {members : List Member} {actions : List Action} {found : Json} {collects : List Exchange}
      (untransformed : head.transforms = []) :
      IsConverted setup stack (.mk head (some members) actions) collects found

variable {setup : Setup} {stack : ScopeStack} {head : RuleHead} {trail : List Exchange} {found : Json}

/-- A collection or a grid is evaluated like the rule without its transforms, and converted behind that. -/
theorem evaluateRule_bare (setup : Setup) (head : RuleHead) (members : List Member) (actions : List Action)
    (offset : Nat) :
    evaluateRule setup (.mk head (some members) actions) offset =
      (evaluateRule setup (.mk head.bare (some members) actions) offset >>= fun raw =>
        Scoped.ofScript (convertWhole head raw)) := by
  have untransformed : ∀ value, Scoped.ofScript (convertWhole head.bare value) = pure value := fun _ => rfl
  have classified : RuleKind.ofMembers head.bare (some members) = RuleKind.ofMembers head (some members) := rfl
  unfold evaluateRule
  rcases members with _ | ⟨_ | _, _⟩ <;> simp only [bind_assoc, untransformed, pure_bind, classified] <;> rfl

theorem trail_convertEach {steps : List Transform.Step} {texts : List String} {values : List Json}
    (way : Job.Trail (convertEach steps texts).run trail (.done (.ok values))) : values.length = texts.length ∧
      trail = List.zipWith (fun text value => ⟨.convert steps (.string text), .ok value⟩) texts values := by
  induction texts generalizing trail values with
  | nil =>
    obtain ⟨rfl, same⟩ := way.eq_of_done
    cases same
    exact ⟨rfl, rfl⟩
  | cons text texts inductionHypothesis =>
    rw [convertEach] at way
    obtain ⟨first, _, value, rfl, here, further⟩ := Job.trail_of_bind_done way
    obtain ⟨others, _, later, rfl, behind, ends⟩ := Job.trail_of_bind_done further
    obtain ⟨rfl, same⟩ := ends.eq_of_done
    cases same
    obtain ⟨length, shape⟩ := inductionHypothesis behind
    rw [Job.eq_of_perform_done here, shape]
    simp [length]

theorem isConverted_of_readSimple {selector : String} {actions : List Action}
    (reads : Job.Trail (readSimple head selector).run trail (.done (.ok found))) :
    IsConverted setup stack (.mk head none actions) trail found := by
  unfold readSimple at reads
  obtain ⟨_, _, answer, rfl, queried, later⟩ := Job.trail_of_bind_done reads
  obtain ⟨_, converts, texts, rfl, settled, converted⟩ := Job.trail_of_bind_done later
  obtain ⟨rfl, same⟩ := settled.eq_of_done
  injection same with read
  rw [Job.eq_of_perform_done queried, List.nil_append]
  cases shape : head.shape with
  | text =>
    rw [shape] at converted
    rw [Job.eq_of_perform_done converted]
    exact .text shape read.symm
  | array =>
    rw [shape] at converted
    obtain ⟨_, _, values, rfl, each, ends⟩ := Job.trail_of_bind_done converted
    obtain ⟨rfl, same⟩ := ends.eq_of_done
    cases same
    obtain ⟨length, rfl⟩ := trail_convertEach each
    rw [List.append_nil]
    exact .array shape read.symm length

theorem isConverted_of_trail {member : Rule} (idle : member.IsIdle)
    (ran : Job.Trail (evaluateWithin setup member stack 0).run trail (.done (.ok found))) :
    IsConverted setup stack member trail found := by
  obtain ⟨head, _ | members, actions⟩ := member
  · have nothing : actions = [] := idle _ .self
    subst nothing
    rw [evaluateWithin_eq, Tour.rule] at ran
    obtain ⟨_, _, _, rfl, classified, acts⟩ := Job.trail_of_bind_done ran
    obtain ⟨_, _, _, rfl, performed, reads⟩ := Job.trail_of_bind_done acts
    rw [classified.eq_of_done.1, performed.eq_of_done.1]
    rw [read_inside] at reads
    exact isConverted_of_readSimple reads
  · rw [evaluateWithin, evaluateRule_bare, Scoped.within_bind_ofScript] at ran
    obtain ⟨collects, converts, raw, rfl, collected, converted⟩ := Job.trail_of_bind_done ran
    by_cases untransformed : head.transforms = []
    · exact .plain untransformed
    · rw [convertWhole, if_neg (by simpa using untransformed)] at converted
      rw [Job.eq_of_perform_done converted]
      exact .whole untransformed collected

end Run

/-! ### Evaluations -/

namespace Run

/-- The stack inside nested collections with these heads, the outermost first. -/
def through (stack : ScopeStack) (heads : List RuleHead) : ScopeStack :=
  Path.frames stack (heads.map Level.collection).reverse

/-- What an evaluation leaves of a named member of a collection: on a stretch of the trail of the members it is
evaluated to a value, which comes about by its own transforms and is kept right behind. That value is stored in the end,
and the fields of the collection hold it, too, unless the member is virtual. -/
structure IsMirrored (setup : Setup) (stack : ScopeStack) (trail : List Exchange) (fields : Fields) (stored : Storage)
    (member : Rule) (name : String) (found : Json) : Prop where
  evaluated : ∃ ahead own behind, trail = ahead ++ (own ++ ⟨.keep name found, ()⟩ :: behind) ∧
    Job.Trail (evaluateWithin setup member stack 0).run own (.done (.ok found)) ∧
    IsConverted setup stack member own found
  stored : stored.get? name = some found
  shown : Fields.find? name fields = if member.head.isVirtual then none else some found

variable {σ : Type} {surroundings : Surroundings σ} {records : Records} {world later : World σ}

/-- A member that has been visited is mirrored if nothing behind its collection keeps anything under its name. -/
theorem IsMirrored.of_visited {setup : Setup} {stack : ScopeStack} {path : Path} {member : Rule} (idle : member.IsIdle)
    {name : String} {found : Json} {before trail after ahead own behind : List Exchange} {fields : Fields} {storage stored : Storage}
    (visited : Tour.Visited transforms (.inside setup stack) path trail member name found ahead own behind)
    (along : storage.Along transforms (before ++ (trail ++ after)) stored) (passes : Passes transforms name after)
    (shown : Fields.find? name fields = if member.head.isVirtual then none else some found) :
    IsMirrored setup (path.frames stack) trail fields stored member name found where
  evaluated := by
    have whole := visited.visited
    rw [← evaluateWithin_frames] at whole
    exact ⟨ahead, own, behind, visited.split, whole, isConverted_of_trail idle whole⟩
  stored := by
    have kept : storage.Along transforms
        ((before ++ (ahead ++ own)) ++ ⟨.keep name found, ()⟩ :: (behind ++ after)) stored := by
      simpa [visited.split] using along
    exact kept.get?_of_kept ((visited.passes name (Rule.mem_namesInside visited.named)).append passes)
  shown := shown

/-- Where a tree without actions and custom transforms has distinct names, and nothing in the background works on the
same storage, what is stored mirrors what the evaluation of the tree comes to, whatever the surroundings are and
whatever is stored to begin with: if the evaluation succeeds, then each named member of a collection that stands outside
of rows is mirrored. If the member and all rules around it are not virtual, and none of the latter is converted, then
the names from the root to the member lead to its value. -/
theorem storage_mirrors_output {root : Rule} (idle : root.IsIdle) (builtIn : root.IsBuiltIn surroundings.transforms)
    (distinct : root.namesInside.Nodup) (reserved : world.IsReserved records.storage) {stack : ScopeStack}
    {offset : Nat} {value : Json}
    (ran : world.run surroundings records (evaluateWithin surroundings.setup root stack offset) = (later, .ok value)) :
    ∃ trail, Job.Trail (evaluateWithin surroundings.setup root stack offset).run trail (.done (.ok value)) ∧
      (∀ exchange ∈ trail, surroundings.Answers exchange) ∧
      (world.storage records).Along surroundings.transforms trail (later.storage records) ∧
      ∀ heads head first others actions, root.Way heads (.mk head (some (.rule first :: others)) actions) →
        ∃ before whole after fields, trail = before ++ (whole ++ after) ∧
          Job.Trail ((evaluateMembers surroundings.setup (.rule first :: others) []).within
            (through stack (heads ++ [head]))).run whole (.done (.ok (.object fields))) ∧
          ∀ member name, Member.rule member ∈ Member.rule first :: others → member.head.name = some name →
            ∃ found, IsMirrored surroundings.setup (through stack (heads ++ [head])) whole fields
                (later.storage records) member name found ∧
              ∃ names : List String, (heads ++ [head, member.head]).tail.map RuleHead.name = names.map some ∧
                ((∀ outer ∈ heads ++ [head], outer.isVirtual = false ∧ outer.transforms = []) →
                  member.head.isVirtual = false → value.descend? names = some found) := by
  have raceless : (evaluateWithin surroundings.setup root stack offset).AsksOnly Request.IsRaceless :=
    asksOnly_evaluateWithin _ ⟨idle, fun _ _ _ => trivial, fun _ => trivial, fun _ _ _ => trivial, fun _ _ _ => trivial⟩
      stack offset
  obtain ⟨trail, way, answered, along⟩ := World.trail_of_storing_run reserved raceless ran
  refine ⟨trail, way, answered, along, fun heads head first others actions leads => ?_⟩
  rw [evaluateWithin_eq] at way
  obtain ⟨place, before, own, after, result, rfl, collectionVisited, passes, names, upTo, descends⟩ :=
    Tour.exists_stretch leads idle builtIn (distinct.sublist (List.sublist_append_right _ _)) way
  have upToHere : (heads ++ [head]).tail.map RuleHead.name = names.map some := upTo
  have builtInHere : Rule.IsBuiltIn surroundings.transforms (.mk head (some (.rule first :: others)) actions) :=
    fun step has => builtIn step (leads.hasStep has)
  have distinctHere : (Member.allNames (.rule first :: others)).Nodup :=
    distinct.sublist (leads.sublist_namesBelow.trans (List.sublist_append_right _ _))
  obtain ⟨whole, converts, reached, rfl, membersVisited, converted⟩ :=
    Tour.trail_collection (leads.isIdle idle) collectionVisited
  obtain ⟨fields, rfl, _, each⟩ := Tour.exists_fields (fun rule among => (leads.isIdle idle).member among)
    (fun rule among step has => builtInHere step (has.member among)) distinctHere membersVisited
  have reads : ∀ step ∈ head.transforms, step.ReadsOnly surroundings.transforms fun _ => True :=
    fun step member => builtInHere.readsOnly ⟨_, .self, member⟩
  have path : through stack (heads ++ [head]) =
      Path.frames stack (.collection head :: ((heads.map Level.collection).reverse ++ [])) := by simp [through]
  rw [path]
  rw [List.append_assoc] at along ⊢
  refine ⟨before, whole, converts ++ after, fields, rfl, ?_, fun member name among named => ?_⟩
  · rw [(actsAs_evaluateMembers surroundings.setup stack _ _ []).within_eq]
    exact membersVisited
  · obtain ⟨given, found, ahead, stretch, behind, visited, shown⟩ := each member among
    cases visited.named.symm.trans named
    have below : name ∈ Rule.namesBelow (.mk head (some (.rule first :: others)) actions) :=
      (Member.sublist_allNames among).subset (Rule.mem_namesInside named)
    have onward := (Tour.passes_whole reads converted name).append (passes name below)
    refine ⟨found, .of_visited ((leads.isIdle idle).member among) visited along onward (shown rfl), names ++ [name], ?_, fun plain visible => ?_⟩
    · rw [List.append_cons heads, List.tail_append_of_ne_nil (by simp), List.map_append, upToHere, List.map_append]
      simp [named]
    · obtain ⟨plainAbove, plainHere⟩ := List.forall_mem_append.mp plain
      obtain ⟨visibleHere, untransformed⟩ := List.forall_mem_singleton.mp plainHere
      rw [Json.descend?_append, descends plainAbove visibleHere, Tour.eq_of_untransformed untransformed converted]
      have held : Fields.find? name fields = some found := by
        rw [shown rfl, visible]
        rfl
      rw [Option.bind_some, Json.descend?, Json.child?, held]
      rfl

def hiddenPriceRule : Rule :=
  .mk { name := some "price", scope := some "p", isVirtual := true } none []

def labelRule : Rule :=
  .mk { name := some "label", transforms := [
    { kind := "combine", options := [("fields", .texts ["title", "price"])] }] } none []

def productRule : Rule :=
  .mk { name := some "product" } (some [.rule titleRule, .rule hiddenPriceRule]) []

/-- A rule that collects an amount, of which its transforms leave the text. -/
def costRule : Rule :=
  .mk { name := some "cost", transforms := [{ kind := "get", options := [("path", .string "amount")] }] }
    (some [.rule (.mk { name := some "amount", scope := some "p" } none [])]) []

def productTree : Rule :=
  .mk {} (some [.rule productRule, .rule costRule, .rule labelRule]) []

theorem isIdle_productTree : productTree.IsIdle := by
  have product : productRule.IsIdle := by
    refine @Rule.isIdle_collection _ [titleRule, hiddenPriceRule] fun rule member => ?_
    simp only [List.mem_cons, List.not_mem_nil, or_false] at member
    rcases member with rfl | rfl <;> exact Rule.isIdle_simple _
  have cost : costRule.IsIdle :=
    @Rule.isIdle_collection _ [_] fun rule member => List.mem_singleton.mp member ▸ Rule.isIdle_simple _
  refine @Rule.isIdle_collection _ [productRule, costRule, labelRule] fun rule member => ?_
  simp only [List.mem_cons, List.not_mem_nil, or_false] at member
  rcases member with rfl | rfl | rfl
  · exact product
  · exact cost
  · exact Rule.isIdle_simple _

def productRun : World Stage × Except Failure Json :=
  offer.run plainSurroundings ⟨0, 0⟩ (evaluateWithin plainSurroundings.setup productTree [] 0)

/-- Of the cost, the text is stored and shown. The title is stored, and shown inside the product, and the price is stored
only. -/
theorem product_mirrored : ∃ later value, productRun = (later, .ok value) ∧
    (["title", "price", "cost"].map fun name => ((later.storage ⟨0, 0⟩).get? name).bind Json.text?) =
      [some "Cup", some "5", some "5"] ∧
    value.descend? ["product", "title"] = (later.storage ⟨0, 0⟩).get? "title" ∧
    value.descend? ["cost"] = (later.storage ⟨0, 0⟩).get? "cost" ∧
    value.descend? ["product", "price"] = none := by
  obtain ⟨succeeds, stored, hidden⟩ : Except.isOk productRun.2 = true ∧
      (["title", "price", "cost"].map fun name => ((productRun.1.storage ⟨0, 0⟩).get? name).bind Json.text?) =
        [some "Cup", some "5", some "5"] ∧
      (productRun.2.toOption.bind (·.descend? ["product", "price"])).isNone = true := by
    decide +kernel
  rcases ran : productRun with ⟨later, failure | value⟩
  · rw [ran] at succeeds
    cases succeeds
  · rw [ran] at stored hidden
    have distinct : productTree.namesInside = ["product", "title", "price", "cost", "amount", "label"] := by rfl
    have reserved : World.IsReserved 0 offer := ⟨by decide, List.forall_mem_nil _⟩
    obtain ⟨_, _, _, _, each⟩ := @storage_mirrors_output Stage plainSurroundings ⟨0, 0⟩ offer later productTree
      isIdle_productTree (fun _ _ run => Transform.find?_standard _ run) (by rw [distinct]; decide) reserved [] 0 value
      ran
    have leads : productTree.Way [{}] productRule := .member List.mem_cons_self (.here _)
    obtain ⟨_, _, _, _, _, _, inProduct⟩ := each _ _ _ _ _ leads
    obtain ⟨_, _, _, _, _, _, atTop⟩ := each _ _ _ _ _ (.here productTree)
    obtain ⟨title, titleKept, names, upTo, toTitle⟩ := inProduct titleRule "title" List.mem_cons_self rfl
    obtain ⟨cost, costKept, single, upToCost, toCost⟩ := atTop costRule "cost" (by simp) rfl
    have led : ["product", "title"] = names := (List.map_inj_right fun _ _ => Option.some.inj).mp upTo
    have ledToCost : ["cost"] = single := (List.map_inj_right fun _ _ => Option.some.inj).mp upToCost
    subst led ledToCost
    refine ⟨later, value, rfl, stored, ?_, ?_, Option.isNone_iff_eq_none.mp hidden⟩
    · rw [titleKept.stored]
      exact toTitle (by simp) rfl
    · rw [costKept.stored]
      exact toCost (by simp) rfl

end Run

end Harvest
