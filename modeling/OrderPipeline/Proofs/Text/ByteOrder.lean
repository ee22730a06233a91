import OrderPipeline.Text.Utf8
import Mathlib.Data.String.Basic

/-!
# The order of bytes

Texts are compared character by character, and their bytes in UTF-8 compare in the same way
(`Utf8.encode_le_encode_iff`): of two characters the later one begins with a larger byte, or has as
many bytes and is larger in the first one that differs.
-/

namespace OrderPipeline.Utf8

/-- The bytes of a character come before those of a later one, whatever follows them. -/
theorem utf8EncodeChar_append_lt {c d : Char} (before : c < d) (cs ds : List UInt8) :
    String.utf8EncodeChar c ++ cs < String.utf8EncodeChar d ++ ds := by
  have order : c.val.toNat < d.val.toNat := before
  have limit : d.val.toNat < 0x110000 := by
    have valid := d.valid
    simp only [UInt32.isValidChar, Nat.isValidChar] at valid
    omega
  -- the bits of the bytes are digits to the base 64, of which the first ones count most
  have twice : ∀ code, code / 4096 = code / 64 / 64 := fun code => by omega
  have thrice : ∀ code, code / 262144 = code / 64 / 64 / 64 := fun code => by omega
  simp only [String.utf8EncodeChar, twice, thrice]
  split_ifs <;>
    simp only [List.cons_append, List.nil_append, List.cons_lt_cons_iff,
      UInt8.lt_iff_toNat_lt, ← UInt8.toNat_inj, UInt8.toNat_ofNat'] <;>
    omega

/-- The bytes of a text come before those of a later one. -/
theorem flatMap_utf8EncodeChar_lt {cs ds : List Char} (before : cs < ds) :
    cs.flatMap String.utf8EncodeChar < ds.flatMap String.utf8EncodeChar := by
  induction cs generalizing ds with
  | nil =>
    cases ds with
    | nil => exact absurd before (List.lt_irrefl [])
    | cons d ds =>
      have nonempty : String.utf8EncodeChar d ≠ [] := String.utf8EncodeChar_ne_nil
      obtain ⟨byte, rest, split⟩ := List.exists_cons_of_ne_nil nonempty
      rw [List.flatMap_nil, List.flatMap_cons, split, List.cons_append]
      exact List.nil_lt_cons byte _
  | cons c cs ih =>
    cases ds with
    | nil => exact absurd before (List.not_lt_nil _)
    | cons d ds =>
      rw [List.flatMap_cons, List.flatMap_cons]
      rcases List.cons_lt_cons_iff.1 before with first | ⟨rfl, rest⟩
      · exact utf8EncodeChar_append_lt first _ _
      · exact List.append_left_lt (ih rest)

/-- Bytes are compared as the texts that they spell. -/
theorem encode_lt_encode_iff {left right : String} : encode left < encode right ↔ left < right := by
  constructor
  · intro before
    rcases lt_trichotomy left right with less | rfl | greater
    · exact less
    · exact absurd before (List.lt_irrefl _)
    · have after := flatMap_utf8EncodeChar_lt (String.lt_iff_toList_lt.1 greater)
      exact absurd (List.lt_trans before after) (List.lt_irrefl _)
  · intro before
    exact flatMap_utf8EncodeChar_lt (String.lt_iff_toList_lt.1 before)

/-- Bytes are compared as the texts that they spell. -/
theorem encode_le_encode_iff {left right : String} : encode left ≤ encode right ↔ left ≤ right := by
  rw [← not_lt, ← encode_lt_encode_iff]
  exact List.not_lt.symm

end OrderPipeline.Utf8
