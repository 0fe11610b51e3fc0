import Harvest.Proofs.Text.Utf8
import Harvest.Uri.Percent

/-!
Contract: percent escapes give every text back.

What is escaped is ASCII, so its octets are its characters. No percent sign is exempt, hence each one in an
escaped text begins an escape, and decoding gives the octets that were escaped, whatever stands next to them:
those of the text, which spell the text.
-/

namespace Harvest.Uri.Percent

def hexDigits : List Char := "0123456789ABCDEF".toList

/-- A text of plain characters and escapes, read from its beginning. -/
inductive Escaped (plain : Char → Prop) : List Char → Prop
  | nil : Escaped plain []
  | character {character : Char} {rest : List Char} (allowed : plain character) (later : Escaped plain rest) :
    Escaped plain (character :: rest)
  | octet {high low : Char} {rest : List Char} (upper : high ∈ hexDigits) (lower : low ∈ hexDigits)
    (later : Escaped plain rest) : Escaped plain ('%' :: high :: low :: rest)

/-! ### Digits -/

theorem hexDigit_mem : ∀ value < 16, hexDigit value ∈ hexDigits := by decide

theorem hexValue?_hexDigit : ∀ value < 16, hexValue? (hexDigit value).toNat = some value := by decide

theorem hexDigit_lt : ∀ value < 16, (hexDigit value).toNat < 0x80 := by decide

/-! ### Octets of what is escaped -/

theorem encode_ascii {text : List Char} (ascii : ∀ character ∈ text, character.toNat < 0x80) :
    Text.Utf8.encode text = text.map Char.toNat := by
  induction text with
  | nil => rfl
  | cons character text inductionHypothesis =>
    have here : Text.Utf8.encodeChar character = [character.toNat] := if_pos (ascii character List.mem_cons_self)
    have later := inductionHypothesis fun other member => ascii other (List.mem_cons_of_mem _ member)
    rw [Text.Utf8.encode, List.flatMap_cons, here, ← Text.Utf8.encode, later]
    rfl

theorem toNat_ofNat_ascii {octet : Nat} (ascii : octet < 0x80) : (Char.ofNat octet).toNat = octet := by
  rw [Char.ofNat, dif_pos (Or.inl (by omega))]
  rfl

theorem encodeOctet_ascii {exempt : Nat → Bool} (ascii : ∀ octet, exempt octet = true → octet < 0x80) {octet : Nat}
    (small : octet < 256) : ∀ character ∈ encodeOctet exempt octet, character.toNat < 0x80 := by
  intro character member
  unfold encodeOctet at member
  split at member
  next plain =>
    rw [List.mem_singleton.mp member, toNat_ofNat_ascii (ascii octet plain)]
    exact ascii octet plain
  next =>
    simp only [escape, List.mem_cons, List.not_mem_nil, or_false] at member
    rcases member with rfl | rfl | rfl
    · decide
    · exact hexDigit_lt _ (by omega)
    · exact hexDigit_lt _ (by omega)

/-! ### Decoding what is escaped -/

theorem decodeOctets_cons_of_ne {octet : Nat} (other : octet ≠ 37) (rest : List Nat) :
    decodeOctets (octet :: rest) = octet :: decodeOctets rest := by
  rw [decodeOctets]
  intro high low later percent
  exact absurd percent other

theorem decodeOctets_escape {octet : Nat} (small : octet < 256) (rest : List Nat) :
    decodeOctets ((escape octet).map Char.toNat ++ rest) = octet :: decodeOctets rest := by
  have upper : hexValue? (hexDigit (octet / 16)).toNat = some (octet / 16) := hexValue?_hexDigit _ (by omega)
  have lower : hexValue? (hexDigit (octet % 16)).toNat = some (octet % 16) := hexValue?_hexDigit _ (by omega)
  show decodeOctets (37 :: (hexDigit (octet / 16)).toNat :: (hexDigit (octet % 16)).toNat :: rest) = _
  rw [decodeOctets, upper, lower]
  simp only [Nat.div_add_mod]

section Exempt

variable {exempt : Nat → Bool} (ascii : ∀ octet, exempt octet = true → octet < 0x80) (percent : exempt 37 = false)

include ascii percent

theorem decodeOctets_encodeOctet {octet : Nat} (small : octet < 256) (rest : List Nat) :
    decodeOctets ((encodeOctet exempt octet).map Char.toNat ++ rest) = octet :: decodeOctets rest := by
  unfold encodeOctet
  split
  next plain =>
    have other : octet ≠ 37 := by
      rintro rfl
      rw [percent] at plain
      contradiction
    rw [List.map_singleton, toNat_ofNat_ascii (ascii octet plain), List.singleton_append, decodeOctets_cons_of_ne other]
  next => exact decodeOctets_escape small rest

theorem decodeOctets_flatMap {octets : List Nat} (small : ∀ octet ∈ octets, octet < 256) :
    decodeOctets ((octets.flatMap (encodeOctet exempt)).map Char.toNat) = octets := by
  induction octets with
  | nil => rfl
  | cons octet octets inductionHypothesis =>
    have here : octet < 256 := small octet List.mem_cons_self
    have later := inductionHypothesis fun other member => small other (List.mem_cons_of_mem _ member)
    rw [List.flatMap_cons, List.map_append, decodeOctets_encodeOctet ascii percent here, later]

/-- Decoding undoes escaping, if only ASCII is exempt and the percent sign is not. -/
theorem decode_encodeWith (text : List Char) : decode (encodeWith exempt text) = text := by
  have small := Text.Utf8.encode_lt text
  have plain : ∀ character ∈ encodeWith exempt text, character.toNat < 0x80 := by
    intro character member
    obtain ⟨octet, among, inside⟩ := List.mem_flatMap.mp member
    exact encodeOctet_ascii ascii (small octet among) character inside
  unfold decode
  rw [encode_ascii plain, encodeWith, decodeOctets_flatMap ascii percent small, Text.Utf8.decodeLossy_encode]

end Exempt

/-! ### Whole addresses -/

def IsAddressCharacter (character : Char) : Prop :=
  character.isAlphanum = true ∨ character ∈ addressMarks

theorem isAddressOctet_lt (octet : Nat) (plain : isAddressOctet octet = true) : octet < 0x80 := by
  unfold isAddressOctet isAlphanumeric at plain
  simp [addressMarks] at plain
  omega

theorem isAddressCharacter_ofNat : ∀ octet < 0x80, isAddressOctet octet = true → IsAddressCharacter (Char.ofNat octet) := by
  unfold IsAddressCharacter
  decide

/-- What is escaped for an address is made of characters that an address holds, and of escapes. -/
theorem escaped_encodeAddress (text : List Char) : Escaped IsAddressCharacter (encodeAddress text) := by
  unfold encodeAddress encodeWith
  have small := Text.Utf8.encode_lt text
  generalize Text.Utf8.encode text = octets at small
  induction octets with
  | nil => exact .nil
  | cons octet octets inductionHypothesis =>
    have here : octet < 256 := small octet List.mem_cons_self
    have later := inductionHypothesis fun other member => small other (List.mem_cons_of_mem _ member)
    rw [List.flatMap_cons]
    unfold encodeOctet
    split
    next plain =>
      exact .character (isAddressCharacter_ofNat octet (isAddressOctet_lt octet plain) plain) later
    next => exact .octet (hexDigit_mem _ (by omega)) (hexDigit_mem _ (by omega)) later

theorem decode_encodeAddress (text : List Char) : decode (encodeAddress text) = text :=
  decode_encodeWith isAddressOctet_lt (by decide) text

end Harvest.Uri.Percent
