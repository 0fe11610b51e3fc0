import Harvest.Proofs.Text.Occurrence
import Harvest.Proofs.Uri.Percent
import Harvest.Transform.Chain

/-!
Contract: chains of transforms that give back what they were given.

Texts joined by a glue, and split where the glue is, come out again, trimmed, if none of them shares a
character with the glue. A text escaped for an address comes out again when the escapes are decoded, and
between the two it is made of what an address may hold.
-/

namespace Harvest.Transform

/-! ### Steps of a chain -/

/-- A built-in transform that makes something of a value hands it to the steps behind it. -/
theorem applyAll_builtIn {registry : Registry Transform} {step : Step} {kind : BuiltIn} {storage : Storage}
    {value result : Json} (known : registry.find? step.kind = some (.builtIn kind))
    (made : kind.rule step storage value = .ok result) (steps : List Step) :
    applyAll registry (step :: steps) storage value = applyAll registry steps storage result := by
  rw [applyAll, known]
  simp only [apply, made]

theorem option?_of_text? {step : Step} {name text : String} (given : step.text? name = some text) :
    step.option? name = some (.string text) := by
  obtain ⟨value, found, isText⟩ := Option.bind_eq_some_iff.mp given
  cases value with
  | string _ => rw [found, Option.some.inj isText]
  | _ => exact nomatch isText

/-! ### Joining and splitting -/

theorem asText_texts (texts : List String) : (texts.map Json.string).map Json.asText = texts := by
  rw [List.map_map]
  exact List.map_id texts

theorem join_texts {step : Step} {glue : String} (glued : step.text? "glue" = some glue) (storage : Storage)
    (texts : List String) :
    BuiltIn.join.rule step storage (Json.texts texts) = .ok (.string (glue.intercalate texts)) := by
  show join step storage (Json.texts texts) = .ok (.string (glue.intercalate texts))
  unfold join Json.texts
  dsimp only
  rw [glued, asText_texts]
  rfl

theorem split_whole {step : Step} {separator : String} (cut : step.text? "separator" = some separator)
    (filled : separator ≠ "") (whole : step.text? "dataType" = some "array") (storage : Storage) (text : String) :
    BuiltIn.split.rule step storage (.string text) =
      .ok (.array ((Harvest.Text.splitOn separator.toList text.toList).map trimmedPiece)) := by
  show split step storage (.string text) = _
  unfold split piecesOf
  rw [option?_of_text? cut]
  dsimp only
  rw [if_neg filled, whole]
  rfl

/-- Splitting where the glue is gives the texts that were joined, trimmed. The glue may be longer than a
character and overlap itself; the texts may be empty or blank. -/
theorem split_gives_back_joined {glue : String} {texts : List String} (some_texts : texts ≠ []) (filled : glue ≠ "")
    (apart : ∀ text ∈ texts, ∀ character ∈ text.toList, character ∉ glue.toList) {joining splitting : Step}
    (joins : joining.kind = "join") (glued : joining.text? "glue" = some glue) (splits : splitting.kind = "split")
    (cut : splitting.text? "separator" = some glue) (whole : splitting.text? "dataType" = some "array")
    (storage : Storage) :
    produce standard [joining, splitting] storage (Json.texts texts) =
      (.ok (Json.texts (texts.map Harvest.Text.trim)), storage) := by
  have joinKnown : standard.find? joining.kind = some (.builtIn .join) := by rw [joins]; rfl
  have splitKnown : standard.find? splitting.kind = some (.builtIn .split) := by rw [splits]; rfl
  obtain ⟨first, others, shape⟩ : ∃ first others, glue.toList = first :: others :=
    List.exists_cons_of_ne_nil fun empty => filled (String.toList_eq_nil_iff.mp empty)
  have absent : ∀ piece ∈ texts.map String.toList, first ∉ piece := by
    intro piece member inside
    obtain ⟨text, among, rfl⟩ := List.mem_map.mp member
    exact apart text among first inside (by rw [shape]; exact List.mem_cons_self)
  have pieces : Harvest.Text.splitOn glue.toList (glue.intercalate texts).toList = texts.map String.toList := by
    rw [String.toList_intercalate, shape]
    exact Harvest.Text.splitOn_intercalate (mt List.map_eq_nil_iff.mp some_texts) absent
  calc produce standard [joining, splitting] storage (Json.texts texts)
      = applyAll standard [splitting] storage (.string (glue.intercalate texts)) :=
        applyAll_builtIn joinKnown (join_texts glued storage texts) [splitting]
    _ = applyAll standard [] storage
          (.array ((Harvest.Text.splitOn glue.toList (glue.intercalate texts).toList).map trimmedPiece)) :=
        applyAll_builtIn splitKnown (split_whole cut filled whole storage _) []
    _ = (.ok (Json.texts (texts.map Harvest.Text.trim)), storage) := by
        rw [pieces, List.map_map, Json.texts, List.map_map]
        rfl

/-- A glue that overlaps itself, and texts of which one is empty, one blank, and one begins with a blank that is not
ASCII. -/
theorem dashes_give_back_texts :
    (∀ text ∈ [" a ", "", "\t", "\u00a0b c"], ∀ character ∈ text.toList, character ∉ "--".toList) ∧
      produce standard [⟨"join", [("glue", .string "--")]⟩,
          ⟨"split", [("dataType", .string "array"), ("separator", .string "--")]⟩] {}
        (Json.texts [" a ", "", "\t", "\u00a0b c"]) = (.ok (Json.texts ["a", "", "", "b c"]), {}) := by
  have apart : ∀ text ∈ [" a ", "", "\t", "\u00a0b c"], ∀ character ∈ text.toList, character ∉ "--".toList := by simp
  refine ⟨apart, ?_⟩
  exact split_gives_back_joined (by decide) (by decide) apart rfl rfl rfl rfl rfl {}

/-! ### Escapes -/

/-- Decoding the escapes of an address gives the text that was escaped, whatever it holds; escaped, it is made of
characters that an address holds and of escapes. -/
theorem decoding_gives_back_escaped (text : String) (options others : Fields) (storage : Storage) :
    ∃ escaped : String,
      produce standard [⟨"encodeURI", options⟩] storage (.string text) = (.ok (.string escaped), storage) ∧
      Uri.Percent.Escaped Uri.Percent.IsAddressCharacter escaped.toList ∧
      produce standard [⟨"decodeURI", others⟩] storage (.string escaped) = (.ok (.string text), storage) := by
  have encodeKnown : standard.find? "encodeURI" = some (.builtIn .encodeAddress) := rfl
  have decodeKnown : standard.find? "decodeURI" = some (.builtIn .decodeAddress) := rfl
  obtain ⟨escaped, shape⟩ : ∃ escaped : String, escaped = String.ofList (Uri.Percent.encodeAddress text.toList) :=
    ⟨_, rfl⟩
  have encoded : BuiltIn.encodeAddress.rule ⟨"encodeURI", options⟩ storage (.string text) = .ok (.string escaped) := by
    rw [shape]
    rfl
  have decoded : BuiltIn.decodeAddress.rule ⟨"decodeURI", others⟩ storage (.string escaped) = .ok (.string text) := by
    show Except.ok (Json.string (String.ofList (Uri.Percent.decode escaped.toList))) = _
    rw [shape, String.toList_ofList, Uri.Percent.decode_encodeAddress, String.ofList_toList]
  refine ⟨escaped, applyAll_builtIn encodeKnown encoded [], ?_, applyAll_builtIn decodeKnown decoded []⟩
  rw [shape, String.toList_ofList]
  exact Uri.Percent.escaped_encodeAddress text.toList

end Harvest.Transform
