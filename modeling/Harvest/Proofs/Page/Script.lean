import Harvest.Page.Script
import Harvest.Proofs.Json.Written

/-!
Contract: a page is sent each call as it is.

The script of a call is the helpers and one application of them, to the text of the call. Whatever texts and mappings a call
holds, that text is read up to the parenthesis behind it and no further, and it is the text of this call.
-/

namespace Harvest

namespace PageCall

open Description

def mappings : PageCall → List Fields
  | .changeElement _ style attributes => [style, attributes]
  | _ => []

/-- The mappings of a call are sorted, as are those inside of them. -/
def IsNormal (call : PageCall) : Prop :=
  ∀ mapping ∈ call.mappings, (Json.object mapping).normal = .object mapping

/-- All numbers in the mappings of a call are integers. -/
def IsIntegral (call : PageCall) : Prop :=
  ∀ mapping ∈ call.mappings, (Json.object mapping).isIntegral = true

instance (call : PageCall) : Decidable call.IsIntegral :=
  inferInstanceAs (Decidable (∀ _ ∈ _, _))

def argument (call : PageCall) : String :=
  (Json.object call.fields).compact

/-- How deep arrays and mappings are nested in what a page is told. -/
def nesting (call : PageCall) : Nat :=
  (Json.object call.fields).nesting

/-- The call that a text describes, to a reader of values that are nested at most so deep. -/
def readWithin? (depth : Nat) (text : String) : Option PageCall :=
  (Json.readWithin? depth text).bind fun value => (read value).toOption

theorem script_eq (call : PageCall) :
    call.script = helperScript ++ "\n" ++ "JSON.stringify(window.__pageParser.run(" ++ call.argument ++ "))" := by
  unfold script expression
  -- nothing here depends on what the helpers are
  generalize helperScript = helpers
  have opening : "\nJSON.stringify(window.__pageParser.run(" = "\n" ++ "JSON.stringify(window.__pageParser.run(" := by
    decide
  rw [opening, argument]
  simp only [String.append_assoc]

example : (textOf ".title").argument =
    "\x7b\"call\":\"query\",\"selector\":\".title\",\"attr\":null,\"prop\":null\x7d" := by
  decide

theorem isIntegral_fields {call : PageCall} (integral : call.IsIntegral) : (Json.object call.fields).isIntegral = true := by
  cases call with
  | changeElement selector style attributes =>
    have inStyle : Json.haveIntegral style = true := integral style List.mem_cons_self
    have inAttributes : Json.haveIntegral attributes = true :=
      integral attributes (List.mem_cons_of_mem _ List.mem_cons_self)
    show (true && (true && (Json.haveIntegral style && (Json.haveIntegral attributes && true)))) = true
    rw [inStyle, inAttributes]
    rfl
  | query selector attr property => cases attr <;> cases property <;> rfl
  | scroll selector => cases selector <;> rfl
  | scrollHeight selector => cases selector <;> rfl
  | _ => rfl

/-- A call is read back from its fields; free mappings come back in normal form, which theirs is. -/
theorem read_fields {call : PageCall} (normal : call.IsNormal) : read (.object call.fields) = .ok call := by
  cases call with
  | changeElement selector style attributes =>
    have ofStyle : Fields.ofList (Json.normalFields style) = style :=
      Json.object.inj (normal style List.mem_cons_self)
    have ofAttributes : Fields.ofList (Json.normalFields attributes) = attributes :=
      Json.object.inj (normal attributes (List.mem_cons_of_mem _ List.mem_cons_self))
    have inNormalForm : read (.object (changeElement selector style attributes).fields) =
        .ok (.changeElement selector (Fields.ofList (Json.normalFields style))
          (Fields.ofList (Json.normalFields attributes))) := rfl
    rw [inNormalForm, ofStyle, ofAttributes]
  | query selector attr property => cases attr <;> cases property <;> rfl
  | scroll selector => cases selector <;> rfl
  | scrollHeight selector => cases selector <;> rfl
  | _ => rfl

theorem read_argument {call : PageCall} (integral : call.IsIntegral) (depth : Nat) (behind : List Char) :
    Json.readValue? (call.argument.length + 1) depth (call.argument.toList ++ behind) =
      if call.nesting ≤ depth then some (.object call.fields, behind) else none := by
  have reads := Json.readsBack_of_mem_fields (isIntegral_fields integral)
  have text : call.argument.toList = (Json.object call.fields).write := String.toList_ofList
  have long : (Json.object call.fields).write.length ≤ call.argument.length + 1 := by
    rw [← text, String.length_toList]
    exact Nat.le_succ _
  rw [text]
  exact Json.readValue?_writeObject reads depth behind long

theorem readWithin?_argument {call : PageCall} (normal : call.IsNormal) (integral : call.IsIntegral) (depth : Nat) :
    readWithin? depth call.argument = if call.nesting ≤ depth then some call else none := by
  have value := Json.readWithin?_compact (isIntegral_fields integral) depth
  rw [readWithin?, argument, value]
  change (if call.nesting ≤ depth then some _ else none).bind _ = _
  by_cases allowed : call.nesting ≤ depth
  · rw [if_pos allowed, if_pos allowed, Option.bind_some, read_fields normal]
    rfl
  · rw [if_neg allowed, if_neg allowed]
    rfl

/-- The script of a call applies the helpers to one text. That text describes this call to every reader that allows for
its nesting, and no reader of values goes on behind it, whatever it ends with. -/
theorem script_carries_call {call : PageCall} (normal : call.IsNormal) (integral : call.IsIntegral) :
    ∃ text : String,
      call.script = helperScript ++ "\n" ++ "JSON.stringify(window.__pageParser.run(" ++ text ++ "))" ∧
      (∀ depth, readWithin? depth text = if call.nesting ≤ depth then some call else none) ∧
      ∀ depth behind, call.nesting ≤ depth →
        Json.readValue? (text.length + 1) depth (text.toList ++ behind) = some (.object call.fields, behind) := by
  refine ⟨call.argument, call.script_eq, readWithin?_argument normal integral, fun depth behind allowed => ?_⟩
  rw [read_argument integral, if_pos allowed]

/-- A call whose texts try to end the text that they stand in. -/
def escaping : PageCall :=
  .changeElement "a\"))\n\\" [("display", .string "\"\x7d))//"), ("z\u2028", .array [.int (-3), .object [("", .null)]])]
    [("\t", .bool true)]

theorem script_carries_escaping :
    escaping.IsNormal ∧ escaping.IsIntegral ∧
      ∃ text : String,
        escaping.script = helperScript ++ "\n" ++ "JSON.stringify(window.__pageParser.run(" ++ text ++ "))" ∧
        (∀ depth, readWithin? depth text = if escaping.nesting ≤ depth then some escaping else none) ∧
        ∀ depth behind, escaping.nesting ≤ depth →
          Json.readValue? (text.length + 1) depth (text.toList ++ behind) = some (.object escaping.fields, behind) := by
  have integral : escaping.IsIntegral := by decide
  have order : "display" < "z\u2028" := by decide
  have normal : escaping.IsNormal := by
    rintro mapping (_ | ⟨_, _ | ⟨_, _ | _⟩⟩)
    · simp [Json.normal, Json.normalFields, Json.normalItems, Fields.ofList, Fields.insert, order.not_gt]
    · rfl
  exact ⟨normal, integral, script_carries_call normal integral⟩

end PageCall

end Harvest
