import Harvest.Text.Utf8

/-!
Contract: UTF-8 gives every text back.

The first octet of a character says how many follow, and the range of the second excludes the spellings that
are too long and the surrogates, which no character has. So what is decoded from the octets of a character is
that character, whatever follows them, and what is decoded from the octets of a text is that text.
-/

namespace Harvest.Text.Utf8

/-- The code of a character is no surrogate and has at most 21 bits. -/
theorem toNat_scalar (character : Char) :
    character.toNat < 0xD800 ∨ 0xDFFF < character.toNat ∧ character.toNat < 0x110000 :=
  character.valid

theorem encodeChar_lt (character : Char) : ∀ octet ∈ encodeChar character, octet < 256 := by
  have scalar := toNat_scalar character
  intro octet member
  unfold encodeChar at member
  dsimp only at member
  repeat' split at member
  all_goals
    simp only [List.mem_cons, List.not_mem_nil, or_false] at member
    omega

theorem encode_lt (text : List Char) : ∀ octet ∈ encode text, octet < 256 := by
  intro octet member
  obtain ⟨character, _, inside⟩ := List.mem_flatMap.mp member
  exact encodeChar_lt character octet inside

/-! ### What follows a first octet -/

variable {lead : Lead} {octet : Nat}

theorem decodeFrom_of_lead (begins : Lead.of? octet = some lead) (rest : List Nat) :
    decodeFrom none (octet :: rest) = decodeFrom (some lead) rest := by
  have high : ¬ octet < 0x80 := by
    intro low
    have none_begins : Lead.of? octet = none := by grind [Lead.of?]
    rw [none_begins] at begins
    contradiction
  rw [decodeFrom, if_neg high, begins]

theorem decodeFrom_of_last (owed : lead.owed = 1) (low : lead.low ≤ octet) (high : octet ≤ lead.high)
    (rest : List Nat) :
    decodeFrom (some lead) (octet :: rest) = Char.ofNat (lead.bits * 64 + (octet - 0x80)) :: decodeFrom none rest := by
  rw [decodeFrom, if_pos (by simp [low, high])]
  exact if_pos (by omega)

theorem decodeFrom_of_tail {owed : Nat} (more : lead.owed = owed + 2) (low : lead.low ≤ octet)
    (high : octet ≤ lead.high) (rest : List Nat) :
    decodeFrom (some lead) (octet :: rest) =
      decodeFrom (some ⟨owed + 1, 0x80, 0xBF, lead.bits * 64 + (octet - 0x80)⟩) rest := by
  rw [decodeFrom, if_pos (by simp [low, high])]
  have count : lead.owed - 1 = owed + 1 := by omega
  rw [← count]
  exact if_neg (by omega)

/-! ### The first octet of a character, by the number of octets -/

variable {code : Nat}

theorem Lead.of?_two (least : 0x80 ≤ code) (most : code < 0x800) :
    Lead.of? (0xC0 + code / 64) = some ⟨1, 0x80, 0xBF, code / 64⟩ := by
  unfold Lead.of?
  rw [if_pos (by simp; omega), Nat.add_sub_cancel_left]

theorem Lead.of?_three (least : 0x800 ≤ code) (most : code < 0x10000) (scalar : code < 0xD800 ∨ 0xDFFF < code) :
    ∃ low high, Lead.of? (0xE0 + code / 4096) = some ⟨2, low, high, code / 4096⟩ ∧
      low ≤ 0x80 + code / 64 % 64 ∧ 0x80 + code / 64 % 64 ≤ high := by
  unfold Lead.of?
  rw [if_neg (by simp; omega)]
  by_cases first : code / 4096 = 0
  · refine ⟨0xA0, 0xBF, ?_, by omega, by omega⟩
    rw [if_pos (by simp [first]), first]
  · rw [if_neg (by simp [first])]
    by_cases surrogates : code / 4096 = 13
    · refine ⟨0x80, 0x9F, ?_, by omega, by omega⟩
      rw [if_pos (by simp [surrogates]), surrogates]
    · refine ⟨0x80, 0xBF, ?_, by omega, by omega⟩
      rw [if_neg (by simp; omega), if_pos (by simp; omega), Nat.add_sub_cancel_left]

theorem Lead.of?_four (least : 0x10000 ≤ code) (most : code < 0x110000) :
    ∃ low high, Lead.of? (0xF0 + code / 262144) = some ⟨3, low, high, code / 262144⟩ ∧
      low ≤ 0x80 + code / 4096 % 64 ∧ 0x80 + code / 4096 % 64 ≤ high := by
  unfold Lead.of?
  rw [if_neg (by simp; omega), if_neg (by simp; omega), if_neg (by simp; omega), if_neg (by simp; omega)]
  by_cases first : code / 262144 = 0
  · refine ⟨0x90, 0xBF, ?_, by omega, by omega⟩
    rw [if_pos (by simp [first]), first]
  · rw [if_neg (by simp [first])]
    by_cases last : code / 262144 = 4
    · refine ⟨0x80, 0x8F, ?_, by omega, by omega⟩
      rw [if_pos (by simp [last]), last]
    · refine ⟨0x80, 0xBF, ?_, by omega, by omega⟩
      rw [if_neg (by simp; omega), if_pos (by simp; omega), Nat.add_sub_cancel_left]

/-! ### Whole characters and texts -/

theorem decodeFrom_encodeChar (character : Char) (rest : List Nat) :
    decodeFrom none (encodeChar character ++ rest) = character :: decodeFrom none rest := by
  have spelled : Char.ofNat character.toNat = character := Char.ofNat_toNat character
  have scalar := toNat_scalar character
  unfold encodeChar
  dsimp only
  generalize character.toNat = code at spelled scalar
  by_cases one : code < 0x80
  · rw [if_pos one, List.singleton_append, decodeFrom, if_pos one, spelled]
  rw [if_neg one]
  by_cases two : code < 0x800
  · rw [if_pos two, List.cons_append, List.singleton_append, decodeFrom_of_lead (Lead.of?_two (by omega) two),
      decodeFrom_of_last rfl (by simp) (by simp; omega), Nat.add_sub_cancel_left, Nat.div_add_mod', spelled]
  rw [if_neg two]
  by_cases three : code < 0x10000
  · obtain ⟨low, high, begins, above, below⟩ := Lead.of?_three (by omega) three (by omega)
    have sum : (code / 4096 * 64 + code / 64 % 64) * 64 + code % 64 = code := by omega
    rw [if_pos three, List.cons_append, List.cons_append, List.singleton_append, decodeFrom_of_lead begins,
      decodeFrom_of_tail rfl above below, decodeFrom_of_last rfl (by simp) (by simp; omega), Nat.add_sub_cancel_left,
      Nat.add_sub_cancel_left, sum, spelled]
  rw [if_neg three]
  obtain ⟨low, high, begins, above, below⟩ := @Lead.of?_four code (by omega) (by omega)
  have sum : ((code / 262144 * 64 + code / 4096 % 64) * 64 + code / 64 % 64) * 64 + code % 64 = code := by omega
  rw [List.cons_append, List.cons_append, List.cons_append, List.singleton_append, decodeFrom_of_lead begins,
    decodeFrom_of_tail rfl above below, decodeFrom_of_tail rfl (by simp) (by simp; omega),
    decodeFrom_of_last rfl (by simp) (by simp; omega), Nat.add_sub_cancel_left, Nat.add_sub_cancel_left,
    Nat.add_sub_cancel_left, sum, spelled]

/-- The octets of a text spell that text and nothing else. -/
theorem decodeLossy_encode (text : List Char) : decodeLossy (encode text) = text := by
  unfold decodeLossy encode
  induction text with
  | nil => rfl
  | cons character text inductionHypothesis =>
    rw [List.flatMap_cons, decodeFrom_encodeChar, inductionHypothesis]

end Harvest.Text.Utf8
