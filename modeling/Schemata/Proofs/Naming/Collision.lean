import Schemata.Proofs.Naming.Abbreviation

/-!
# Which long identifiers coincide

An identifier that is too long is told from others by its digest, but it gets one only where cutting
its segments is not enough. Where it is enough, identifiers whose segments begin alike come out the
same. No identifier that is only cut is mistaken for one with a digest: its segments are too short
to be a digest.

## Main statements

* `cut_ne_marked`: what is only cut does not end in a digest.
* `abbreviateChars_eq_iff`: when long identifiers have the same abbreviation.
* `abbreviate_eq_iff_cut`: with different digests, exactly if they are only cut, and cut to the
  same.
* `not_abbreviate_ne_of_digests`: two names of constraints for which this happens.
-/

namespace Schemata.Naming

open Text

/-- A segment that was cut has two characters, or is a role. -/
theorem length_le_of_mem_cutSegments {parts : List (List Char)} {part : List Char}
    (h : part ∈ cutSegments parts) : part.length ≤ 3 := by
  have hrole : ∀ role ∈ roles, role.length ≤ 3 := by decide
  have hcut (whole : List Char) : (cutSegment whole).length ≤ 3 := by
    rw [cutSegment, List.length_take]
    omega
  cases parts with
  | nil => cases h
  | cons first rest =>
    rcases List.mem_cons.1 h with rfl | h
    · split
      · rename_i hfirst
        exact hrole first (by simpa using hfirst)
      · exact hcut first
    · obtain ⟨whole, -, rfl⟩ := List.mem_map.1 h
      exact hcut whole

/-- What is only cut does not end in a digest. -/
theorem cut_ne_marked (ident stem text : List Char) :
    cut ident ≠ stem ++ '_' :: Digest.short text := by
  intro h
  have hmem : Digest.short text ∈ segments (cut ident) := by
    rw [h, segments_append_line, segments_of_notMem (Digest.line_notMem_short text)]
    simp
  rw [segments_cut] at hmem
  have hlength := length_le_of_mem_cutSegments hmem
  rw [Digest.length_short] at hlength
  omega

/-- Texts that end in a digest agree in what stands before it and in the digest. -/
theorem marked_inj {stem stem' a b : List Char} :
    stem ++ '_' :: Digest.short a = stem' ++ '_' :: Digest.short b
      ↔ stem = stem' ∧ Digest.short a = Digest.short b := by
  constructor
  · intro h
    obtain ⟨hstem, hdigest⟩ := List.append_inj' h (by simp)
    exact ⟨hstem, (List.cons.inj hdigest).2⟩
  · rintro ⟨rfl, hdigest⟩
    rw [hdigest]

/-- Long identifiers have the same abbreviation if they are cut to the same and that is enough, or
if it is not and both the stems and the digests agree. -/
theorem abbreviateChars_eq_iff {how : Abbreviation} (hmarked : how.marked = true) {a b : List Char}
    (ha : how.limit < byteLength a) (hb : how.limit < byteLength b) :
    abbreviateChars how a = abbreviateChars how b ↔
      (cut a = cut b ∧ byteLength (cut a) ≤ how.limit)
      ∨ (how.limit < byteLength (cut a) ∧ how.limit < byteLength (cut b)
        ∧ markedStem how.limit (cut a) = markedStem how.limit (cut b)
        ∧ Digest.short a = Digest.short b) := by
  by_cases hcuta : byteLength (cut a) ≤ how.limit
  · rw [abbreviateChars_of_cut_le ha hcuta]
    by_cases hcutb : byteLength (cut b) ≤ how.limit
    · rw [abbreviateChars_of_cut_le hb hcutb]
      simp [hcuta, Nat.not_lt.2 hcuta]
    · rw [abbreviateChars_of_lt_cut (Nat.not_le.1 hcutb), if_pos hmarked]
      have hcut : cut a ≠ cut b := fun heq => hcutb (heq ▸ hcuta)
      simp [cut_ne_marked, hcut, Nat.not_lt.2 hcuta]
  · rw [abbreviateChars_of_lt_cut (Nat.not_le.1 hcuta), if_pos hmarked]
    by_cases hcutb : byteLength (cut b) ≤ how.limit
    · rw [abbreviateChars_of_cut_le hb hcutb]
      simp [(cut_ne_marked b _ a).symm, hcuta, Nat.not_lt.2 hcutb]
    · rw [abbreviateChars_of_lt_cut (Nat.not_le.1 hcutb), if_pos hmarked, marked_inj]
      simp [hcuta, Nat.not_le.1 hcuta, Nat.not_le.1 hcutb]

/-- Two identifiers beyond the limit of the database, with different digests, have the same
abbreviation exactly if their segments are cut to the same text and that is within the limit. The
same holds of the names that are built from them. -/
theorem abbreviate_eq_iff_cut {a b : String} (ha : 63 < a.utf8ByteSize) (hb : 63 < b.utf8ByteSize)
    (hne : Digest.short a.toList ≠ Digest.short b.toList) :
    (abbreviate {} a = abbreviate {} b
      ↔ cut a.toList = cut b.toList ∧ byteLength (cut a.toList) ≤ 63)
    ∧ (bounded a.toList = bounded b.toList
      ↔ cut a.toList = cut b.toList ∧ byteLength (cut a.toList) ≤ 63) := by
  have hiff : abbreviateChars {} a.toList = abbreviateChars {} b.toList
      ↔ cut a.toList = cut b.toList ∧ byteLength (cut a.toList) ≤ 63 := by
    rw [utf8ByteSize_eq] at ha hb
    rw [abbreviateChars_eq_iff rfl ha hb]
    simp [hne, identifierLimit]
  have hsame : bounded a.toList = bounded b.toList
      ↔ abbreviateChars {} a.toList = abbreviateChars {} b.toList :=
    ⟨String.ofList_injective, congrArg String.ofList⟩
  exact ⟨hsame.trans hiff, hsame.trans hiff⟩

namespace Alike

/-- A text of twenty-one segments, which cutting does not make shorter. -/
def stem : String := "ab_cd_ef_gh_ij_kl_mn_op_qr_st_uv_wx_yz_ab_cd_ef_gh_ij_kl_mn_op"

/-- Two identifiers that differ in the last segment, behind its first two characters. -/
def identifiers : String × String := (stem ++ "_queen", stem ++ "_quiet")

/-- The names of unique constraints over two columns of one table. -/
def constraints : String × String :=
  ("uk_organizational_responsibility_assignments_administrative_department",
    "uk_organizational_responsibility_assignments_administrator_deputy")

end Alike

/-- Two identifiers that are cut to the same, and told apart by their digests. -/
theorem abbreviate_ne_alike :
    cut Alike.identifiers.1.toList = cut Alike.identifiers.2.toList
    ∧ abbreviate {} Alike.identifiers.1 ≠ abbreviate {} Alike.identifiers.2 := by
  have hcut : cut Alike.identifiers.1.toList = cut Alike.identifiers.2.toList
      ∧ ¬byteLength (cut Alike.identifiers.1.toList) ≤ 63 := by decide +kernel
  obtain ⟨hiff, -⟩ := @abbreviate_eq_iff_cut Alike.identifiers.1 Alike.identifiers.2
    (by decide +kernel) (by decide +kernel) (by decide +kernel)
  exact ⟨hcut.1, fun hsame => hcut.2 (hiff.1 hsame).2⟩

/-- Different digests do not make different names: two constraints of one table are both named
`uk_or_re_as_ad_de`. -/
theorem not_abbreviate_ne_of_digests : ¬∀ a b : String, a ≠ b → 63 < a.utf8ByteSize →
    63 < b.utf8ByteSize → Digest.short a.toList ≠ Digest.short b.toList →
    abbreviate {} a ≠ abbreviate {} b := by
  intro h
  exact h Alike.constraints.1 Alike.constraints.2 (by decide +kernel) (by decide +kernel)
    (by decide +kernel) (by decide +kernel) (by decide +kernel)

end Schemata.Naming
