import Schemata.Proofs.NameMap
import Mathlib.Data.List.Lex
import Mathlib.Data.String.Basic
import Mathlib.Tactic.SplitIfs

/-!
# Texts in the order of their bytes

Names are compared character by character. That is the order of their bytes in UTF-8: of two
characters, the one with the smaller code point has the smaller bytes, whatever follows them. So a
list of names that is in order is in order for every program that compares bytes.

## Main definitions

* `utf8`: the bytes of a text.

## Main statements

* `lt_iff_utf8_lt`, `le_iff_utf8_le`: texts are in the order of their bytes.
* `NameMap.pairwise_utf8_names`: so are the names of a map.
-/

namespace Schemata.Text

/-- The bytes of a text in UTF-8. -/
def utf8 (s : String) : List UInt8 := s.toUTF8.data.toList

theorem utf8_eq_flatMap (s : String) : utf8 s = s.toList.flatMap String.utf8EncodeChar := by
  have hencode : s.toUTF8 = s.toList.utf8Encode := by
    conv_lhs => rw [← String.ofList_toList (s := s)]
    exact String.toByteArray_ofList
  rw [utf8, hencode, List.utf8Encode, List.data_toByteArray]

/-- A smaller character has smaller bytes, whatever follows. -/
theorem utf8EncodeChar_append_lt {c d : Char} (h : c < d) (as bs : List UInt8) :
    String.utf8EncodeChar c ++ as < String.utf8EncodeChar d ++ bs := by
  have hlt : c.val.toNat < d.val.toNat := h
  have hbound : d.val.toNat < 0x110000 := by
    rcases d.valid with h | h <;> omega
  unfold String.utf8EncodeChar
  generalize c.val.toNat = m at hlt
  generalize d.val.toNat = n at hlt hbound
  -- every byte but the first carries six bits, and the highest that differ decide
  have hlow : m / 64 < n / 64 ∨ (m / 64 = n / 64 ∧ m % 64 < n % 64) := by omega
  have hmiddle : m / 64 < n / 64 →
      m / 4096 < n / 4096 ∨ (m / 4096 = n / 4096 ∧ m / 64 % 64 < n / 64 % 64) := by omega
  have hhigh : m / 4096 < n / 4096 →
      m / 262144 < n / 262144 ∨ (m / 262144 = n / 262144 ∧ m / 4096 % 64 < n / 4096 % 64) := by
    omega
  simp only
  -- for each number of bytes of either character
  split_ifs <;>
    simp (disch := omega) only [List.cons_append, List.nil_append, List.cons_lt_cons_iff,
      UInt8.lt_iff_toNat_lt, ← UInt8.toNat_inj, UInt8.toNat_ofNat', Nat.mod_eq_of_lt] <;>
    omega

theorem flatMap_utf8EncodeChar_lt {cs ds : List Char} (h : cs < ds) :
    cs.flatMap String.utf8EncodeChar < ds.flatMap String.utf8EncodeChar := by
  induction cs generalizing ds with
  | nil =>
    cases ds with
    | nil => exact absurd h (List.lt_irrefl _)
    | cons d ds =>
      obtain ⟨b, bs, hb⟩ := List.exists_cons_of_ne_nil (String.utf8EncodeChar_ne_nil (c := d))
      rw [List.flatMap_nil, List.flatMap_cons, hb, List.cons_append]
      exact List.nil_lt_cons _ _
  | cons c cs ih =>
    cases ds with
    | nil => exact absurd h (List.not_lt_nil _)
    | cons d ds =>
      rw [List.flatMap_cons, List.flatMap_cons]
      rcases List.cons_lt_cons_iff.1 h with hlt | ⟨rfl, hlt⟩
      · exact utf8EncodeChar_append_lt hlt _ _
      · exact List.append_left_lt (ih hlt)

/-- Texts are in the order of their bytes. -/
theorem lt_iff_utf8_lt {a b : String} : a < b ↔ utf8 a < utf8 b := by
  rw [utf8_eq_flatMap, utf8_eq_flatMap, String.lt_iff_toList_lt]
  refine ⟨flatMap_utf8EncodeChar_lt, fun h => ?_⟩
  rcases lt_trichotomy a.toList b.toList with hlt | heq | hgt
  · exact hlt
  · exact absurd h (heq ▸ List.lt_irrefl _)
  · exact absurd h (List.lt_asymm (flatMap_utf8EncodeChar_lt hgt))

theorem utf8_inj {a b : String} : utf8 a = utf8 b ↔ a = b := by
  refine ⟨fun h => ?_, congrArg utf8⟩
  refine le_antisymm (not_lt.1 fun hlt => ?_) (not_lt.1 fun hlt => ?_) <;>
    exact List.lt_irrefl _ (h ▸ lt_iff_utf8_lt.1 hlt)

theorem le_iff_utf8_le {a b : String} : a ≤ b ↔ utf8 a ≤ utf8 b := by
  rw [← String.not_lt, ← List.not_lt, lt_iff_utf8_lt]

end Schemata.Text

namespace Schemata

/-- The names of a map are in the order of their bytes. -/
theorem NameMap.pairwise_utf8_names {α : Type} (m : NameMap α) :
    m.names.Pairwise fun a b => Text.utf8 a < Text.utf8 b :=
  List.pairwise_map.2 (m.sorted.imp Text.lt_iff_utf8_lt.1)

end Schemata
