import MmlScan.Text
import Mathlib.Data.List.Basic
import Mathlib.Data.UInt

/-!
# Bytes of a text

Sizes and positions are counted in bytes of the UTF-8 form, but texts are compared character by
character.  Both agree: the encoding of a character has as many bytes as its width says, and the
forms of two texts compare byte by byte as the texts themselves do.
-/

namespace MmlScan
namespace Text

/-- The UTF-8 form of a text. -/
def bytes (text : Text) : List UInt8 :=
  text.flatMap String.utf8EncodeChar

theorem bytes_cons (c : Char) (rest : Text) :
    bytes (c :: rest) = String.utf8EncodeChar c ++ bytes rest :=
  List.flatMap_cons

@[simp]
theorem length_bytes (text : Text) : (bytes text).length = size text := by
  induction text with
  | nil => rfl
  | cons c rest ih =>
      rw [bytes_cons, List.length_append, String.length_utf8EncodeChar, ih, size_cons]

/-- The first byte decides, unless it is the same. -/
theorem cons_ofNat_lt_iff {first other : Nat} {bytes others : List UInt8}
    (first_lt : first < 256) (other_lt : other < 256) :
    UInt8.ofNat first :: bytes < UInt8.ofNat other :: others ↔
      first < other ∨ first = other ∧ bytes < others := by
  have same : UInt8.ofNat first = UInt8.ofNat other ↔ first = other := by
    rw [← UInt8.toNat_inj, UInt8.toNat_ofNat_of_lt' first_lt, UInt8.toNat_ofNat_of_lt' other_lt]
  rw [List.cons_lt_cons_iff, UInt8.ofNat_lt_iff_lt first_lt other_lt, same]

/-- A smaller character has the smaller encoding, whatever follows. -/
theorem utf8EncodeChar_lt {c d : Char} (smaller : c < d) (behind others : List UInt8) :
    String.utf8EncodeChar c ++ behind < String.utf8EncodeChar d ++ others := by
  have code_lt : c.val.toNat < d.val.toNat := smaller
  have code_bound : d.val.toNat < 0x110000 := by
    have valid : Nat.isValidChar d.val.toNat := d.valid
    rw [Nat.isValidChar] at valid
    omega
  -- the payloads of the bytes are the digits of the code to base 64
  have digits (code : Nat) :
      code / 4096 = code / 64 / 64 ∧ code / 262144 = code / 64 / 64 / 64 := by
    omega
  simp only [String.utf8EncodeChar, digits]
  -- a wider encoding begins with a greater byte; of one width, the first different digit decides
  split_ifs <;> simp only [List.cons_append, List.nil_append] <;> try omega
  all_goals
    simp (disch := omega) only [cons_ofNat_lt_iff]
    omega

theorem bytes_lt_of_lt {left right : Text} (smaller : left < right) : bytes left < bytes right := by
  induction smaller with
  | @nil c rest =>
      have width_pos : 0 < (bytes (c :: rest)).length := by
        rw [length_bytes, size_cons]
        exact Nat.add_pos_left c.utf8Size_pos _
      obtain ⟨first, others, shape⟩ := List.exists_cons_of_length_pos width_pos
      rw [shape]
      exact List.nil_lt_cons first others
  | rel smaller =>
      rw [bytes_cons, bytes_cons]
      exact utf8EncodeChar_lt smaller _ _
  | cons _ ih =>
      rw [bytes_cons, bytes_cons]
      exact List.append_left_lt ih

/-- Texts compare as their UTF-8 forms do. -/
theorem bytes_lt_iff {left right : Text} : bytes left < bytes right ↔ left < right := by
  constructor
  · intro smaller
    rcases Std.lt_trichotomy left right with before | same | behind
    · exact before
    · rw [same] at smaller
      exact absurd smaller (List.lt_irrefl _)
    · exact absurd (List.lt_trans smaller (bytes_lt_of_lt behind)) (List.lt_irrefl _)
  · exact bytes_lt_of_lt

end Text
end MmlScan
