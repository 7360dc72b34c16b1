import Schemata.Naming
import Mathlib.Data.List.Basic

/-!
# Segments and sizes of abbreviated identifiers

An identifier is its segments with low lines between them, so the number of its low lines and the
number of its bytes can be read off its segments. With both it follows that an abbreviation fits
the limit, and that a name with a word put before it is never cut down to the name itself.

## Main statements

* `abbreviateChars_cases`: the three forms of an identifier within its limit.
* `byteLength_bounded_le`: names fit the limit of the database.
* `abbreviateChars_append_ne`, `abbreviateChars_related_ne`: a name with more behind it, or with a
  word before it, stays another name.
-/

namespace Schemata.Text

/-! ## Bytes -/

@[simp] theorem byteLength_nil : byteLength [] = 0 := rfl

@[simp] theorem byteLength_cons (c : Char) (cs : List Char) :
    byteLength (c :: cs) = c.utf8Size + byteLength cs := rfl

@[simp] theorem byteLength_append (as bs : List Char) :
    byteLength (as ++ bs) = byteLength as + byteLength bs := by
  induction as with
  | nil => simp
  | cons a as ih => simp [ih, Nat.add_assoc]

theorem utf8ByteSize_ofList (cs : List Char) : (String.ofList cs).utf8ByteSize = byteLength cs := by
  induction cs with
  | nil => rfl
  | cons c cs ih =>
    rw [String.ofList_cons, String.utf8ByteSize_append, String.utf8ByteSize_singleton, ih,
      byteLength_cons]

theorem utf8ByteSize_eq (s : String) : s.utf8ByteSize = byteLength s.toList := by
  rw [← utf8ByteSize_ofList, String.ofList_toList]

theorem byteLength_le_of_begins {as bs : List Char} (h : as <+: bs) :
    byteLength as ≤ byteLength bs := by
  obtain ⟨rest, rfl⟩ := h
  rw [byteLength_append]
  exact Nat.le_add_right _ _

theorem takeBytes_begins (budget : Nat) (cs : List Char) : takeBytes budget cs <+: cs := by
  induction cs generalizing budget with
  | nil => exact List.nil_prefix
  | cons c rest ih =>
    unfold takeBytes
    split
    · exact (List.prefix_cons_inj c).2 (ih _)
    · exact List.nil_prefix

theorem dropTrailing_begins (p : Char → Bool) (cs : List Char) : dropTrailing p cs <+: cs := by
  have h : (cs.reverse.dropWhile p).reverse <+: cs.reverse.reverse :=
    List.reverse_prefix.2 (List.dropWhile_suffix p)
  rwa [List.reverse_reverse] at h

theorem byteLength_takeBytes_le (budget : Nat) (cs : List Char) :
    byteLength (takeBytes budget cs) ≤ budget := by
  induction cs generalizing budget with
  | nil => simp [takeBytes]
  | cons c rest ih =>
    unfold takeBytes
    split
    · have := ih (budget - c.utf8Size)
      rw [byteLength_cons]
      omega
    · simp

/-! ## Digests -/

theorem Digest.exists_hexDigit {text : List Char} {c : Char} (h : c ∈ Digest.short text) :
    ∃ n < 16, c = hexDigit n := by
  obtain ⟨w, -, hw⟩ := List.mem_flatMap.1 (List.mem_of_mem_take h)
  obtain ⟨shift, -, rfl⟩ := List.mem_map.1 hw
  exact ⟨_, Nat.mod_lt _ (by decide), rfl⟩

/-- A hexadecimal digit takes one byte and is not a low line. -/
theorem hexDigit_plain : ∀ n < 16, (hexDigit n).utf8Size = 1 ∧ hexDigit n ≠ '_' := by decide

theorem Digest.short_plain (text : List Char) :
    ∀ c ∈ Digest.short text, c.utf8Size = 1 ∧ c ≠ '_' := by
  intro c hc
  obtain ⟨n, hn, rfl⟩ := Digest.exists_hexDigit hc
  exact hexDigit_plain n hn

theorem Digest.line_notMem_short (text : List Char) : '_' ∉ Digest.short text :=
  fun hmem => (Digest.short_plain text '_' hmem).2 rfl

@[simp] theorem Digest.length_short (text : List Char) : (Digest.short text).length = 8 := by
  simp [Digest.short, Digest.State.hex, Digest.hexWord]

theorem byteLength_of_plain {cs : List Char} (h : ∀ c ∈ cs, c.utf8Size = 1) :
    byteLength cs = cs.length := by
  induction cs with
  | nil => rfl
  | cons c rest ih =>
    rw [byteLength_cons, h c List.mem_cons_self, ih fun d hd => h d (List.mem_cons_of_mem _ hd),
      List.length_cons, Nat.add_comm]

@[simp] theorem Digest.byteLength_short (text : List Char) :
    byteLength (Digest.short text) = 8 := by
  rw [byteLength_of_plain fun c hc => (Digest.short_plain text c hc).1, Digest.length_short]

end Schemata.Text

namespace Schemata.Naming

open Text

/-! ## Segments -/

@[simp] theorem joinSegments_singleton (part : List Char) : joinSegments [part] = part :=
  List.intercalate_singleton

theorem joinSegments_cons {parts : List (List Char)} (part : List Char) (h : parts ≠ []) :
    joinSegments (part :: parts) = part ++ '_' :: joinSegments parts := by
  rw [joinSegments, List.intercalate_cons_of_ne_nil h, List.append_assoc]
  rfl

theorem joinSegments_append {as bs : List (List Char)} (ha : as ≠ []) (hb : bs ≠ []) :
    joinSegments (as ++ bs) = joinSegments as ++ '_' :: joinSegments bs := by
  induction as with
  | nil => exact absurd rfl ha
  | cons a as ih =>
    cases as with
    | nil => simpa using joinSegments_cons a hb
    | cons a' as =>
      rw [List.cons_append, joinSegments_cons a (by simp), ih (by simp),
        joinSegments_cons a (by simp), List.append_assoc, List.cons_append]

@[simp] theorem joinSegments_segments (ident : List Char) :
    joinSegments (segments ident) = ident :=
  List.intercalate_splitOn '_'

/-- What is joined has the characters of its segments, and low lines where there are two. -/
theorem mem_joinSegments_iff {parts : List (List Char)} {c : Char} :
    c ∈ joinSegments parts ↔ (c = '_' ∧ 2 ≤ parts.length) ∨ ∃ part ∈ parts, c ∈ part := by
  induction parts with
  | nil => simp [joinSegments]
  | cons part parts ih =>
    cases parts with
    | nil => simp
    | cons next parts =>
      rw [joinSegments_cons part (by simp), List.mem_append, List.mem_cons, ih]
      simp only [List.length_cons, List.mem_cons, exists_eq_or_imp]
      grind

theorem segments_ne_nil (ident : List Char) : segments ident ≠ [] := List.splitOn_ne_nil _ _

theorem segments_append_line (as bs : List Char) :
    segments (as ++ '_' :: bs) = segments as ++ segments bs :=
  List.splitOn_append_cons_self as bs

theorem segments_of_notMem {ident : List Char} (h : '_' ∉ ident) : segments ident = [ident] :=
  List.splitOn_eq_singleton h

/-- There is one segment more than there are low lines. -/
theorem length_segments (ident : List Char) :
    (segments ident).length = ident.count '_' + 1 := by
  induction ident with
  | nil => rfl
  | cons c rest ih =>
    rw [segments, List.splitOn_cons_eq_if_modifyHead]
    by_cases h : c = '_'
    · subst h
      simpa [segments] using ih
    · simpa [h, segments] using ih

theorem notMem_of_mem_segments {ident part : List Char} (h : part ∈ segments ident) :
    '_' ∉ part := by
  induction ident generalizing part with
  | nil =>
    rw [List.mem_singleton.1 h]
    simp
  | cons c rest ih =>
    rw [segments, List.splitOn_cons_eq_if_modifyHead] at h
    by_cases hc : c = '_'
    · subst hc
      rcases List.mem_cons.1 (by simpa using h) with rfl | h
      · simp
      · exact ih h
    · obtain ⟨head, tail, hs⟩ := List.exists_cons_of_ne_nil (segments_ne_nil rest)
      rw [segments] at hs
      rcases List.mem_cons.1 (by simpa [hc, hs] using h) with rfl | h
      · have hhead : '_' ∉ head := ih (by simp [segments, hs])
        simpa [Ne.symm hc] using hhead
      · exact ih (by simp [segments, hs, h])

/-! ## Cutting -/

theorem byteLength_joinSegments_cut_le (parts : List (List Char)) :
    byteLength (joinSegments (parts.map cutSegment)) ≤ byteLength (joinSegments parts) := by
  induction parts with
  | nil => exact Nat.le_refl _
  | cons part parts ih =>
    have hpart : byteLength (cutSegment part) ≤ byteLength part :=
      byteLength_le_of_begins (List.take_prefix 2 part)
    by_cases hne : parts = []
    · simpa [hne] using hpart
    · rw [List.map_cons, joinSegments_cons _ (by simpa using hne), joinSegments_cons _ hne]
      simp only [byteLength_append, byteLength_cons]
      omega

/-- What is left of a first segment: all of a role, or two characters. -/
def cutFirst (first : List Char) : List Char :=
  if roles.contains first then first else cutSegment first

theorem byteLength_cutFirst_le (first : List Char) :
    byteLength (cutFirst first) ≤ byteLength first := by
  unfold cutFirst
  split
  · exact Nat.le_refl _
  · exact byteLength_le_of_begins (List.take_prefix 2 first)

/-- Cutting segments never makes an identifier longer. -/
theorem byteLength_cut_le (ident : List Char) : byteLength (cut ident) ≤ byteLength ident := by
  have hparts (parts : List (List Char)) :
      byteLength (joinSegments (cutSegments parts)) ≤ byteLength (joinSegments parts) := by
    cases parts with
    | nil => exact Nat.le_refl _
    | cons first rest =>
      have hfirst := byteLength_cutFirst_le first
      have hrest := byteLength_joinSegments_cut_le rest
      change byteLength (joinSegments (cutFirst first :: rest.map cutSegment)) ≤ _
      by_cases hne : rest = []
      · simpa [hne] using hfirst
      · rw [joinSegments_cons _ (by simpa using hne), joinSegments_cons _ hne]
        simp only [byteLength_append, byteLength_cons]
        omega
  have hident := hparts (segments ident)
  rw [joinSegments_segments] at hident
  exact hident

/-- Behind the first segment, every segment is cut. -/
theorem cut_append_line {first : List Char} (rest : List Char) (hline : '_' ∉ first) :
    cut (first ++ '_' :: rest)
      = cutFirst first ++ '_' :: joinSegments ((segments rest).map cutSegment) := by
  rw [cut, segments_append_line, segments_of_notMem hline, List.singleton_append, cutSegments,
    joinSegments_cons _ (by simpa using segments_ne_nil rest)]
  rfl

theorem notMem_cutSegment {part : List Char} (h : '_' ∉ part) : '_' ∉ cutSegment part :=
  fun hmem => h (List.mem_of_mem_take hmem)

theorem length_cutSegments (parts : List (List Char)) :
    (cutSegments parts).length = parts.length := by
  cases parts <;> simp [cutSegments]

theorem line_mem_cut {ident : List Char} (h : '_' ∈ ident) : '_' ∈ cut ident := by
  have hcount : 0 < ident.count '_' := List.count_pos_iff.2 h
  refine mem_joinSegments_iff.2 (.inl ⟨rfl, ?_⟩)
  rw [length_cutSegments, length_segments]
  omega

/-- A character of a cut identifier was there before. -/
theorem mem_of_mem_cut {ident : List Char} {c : Char} (h : c ∈ cut ident) : c ∈ ident := by
  have hcut : ∀ part ∈ cutSegments (segments ident), ∃ whole ∈ segments ident, part ⊆ whole := by
    cases segments ident with
    | nil => simp [cutSegments]
    | cons first rest =>
      simp only [cutSegments, List.mem_cons, List.mem_map, forall_eq_or_imp]
      constructor
      · refine ⟨first, .inl rfl, ?_⟩
        split
        · exact List.Subset.refl _
        · exact List.take_subset 2 first
      · rintro _ ⟨part, hpart, rfl⟩
        exact ⟨part, .inr hpart, List.take_subset 2 part⟩
  rw [← joinSegments_segments ident]
  rcases mem_joinSegments_iff.1 h with ⟨rfl, htwo⟩ | ⟨part, hpart, hc⟩
  · rw [length_cutSegments] at htwo
    exact mem_joinSegments_iff.2 (.inl ⟨rfl, htwo⟩)
  · obtain ⟨whole, hwhole, hsub⟩ := hcut part hpart
    exact mem_joinSegments_iff.2 (.inr ⟨whole, hwhole, hsub hc⟩)

theorem notMem_of_mem_cutSegments {parts : List (List Char)} (h : ∀ part ∈ parts, '_' ∉ part) :
    ∀ part ∈ cutSegments parts, '_' ∉ part := by
  cases parts with
  | nil => simp [cutSegments]
  | cons first rest =>
    simp only [cutSegments, List.forall_mem_cons, List.forall_mem_map] at h ⊢
    constructor
    · split
      · exact h.1
      · exact notMem_cutSegment h.1
    · exact fun part hpart => notMem_cutSegment (h.2 part hpart)

/-- The segments of a cut identifier are those of the identifier, cut. -/
theorem segments_cut (ident : List Char) : segments (cut ident) = cutSegments (segments ident) := by
  have hne : cutSegments (segments ident) ≠ [] := by
    rw [ne_eq, ← List.length_eq_zero_iff, length_cutSegments, length_segments]
    omega
  exact List.splitOn_intercalate '_'
    (notMem_of_mem_cutSegments fun _ => notMem_of_mem_segments) hne

/-- Low lines are neither lost nor added when segments are cut. -/
theorem count_line_cut (ident : List Char) : (cut ident).count '_' = ident.count '_' := by
  have hlength := length_cutSegments (segments ident)
  rw [← segments_cut, length_segments, length_segments] at hlength
  omega

/-! ## Abbreviations -/

theorem abbreviateChars_of_le {how : Abbreviation} {ident : List Char}
    (h : byteLength ident ≤ how.limit) : abbreviateChars how ident = ident := by
  simp [abbreviateChars, h]

theorem abbreviateChars_of_cut_le {how : Abbreviation} {ident : List Char}
    (h : how.limit < byteLength ident) (hcut : byteLength (cut ident) ≤ how.limit) :
    abbreviateChars how ident = cut ident := by
  simp [abbreviateChars, Nat.not_le.2 h, hcut]

theorem abbreviateChars_of_lt_cut {how : Abbreviation} {ident : List Char}
    (h : how.limit < byteLength (cut ident)) : abbreviateChars how ident
      = if how.marked then markedStem how.limit (cut ident) ++ '_' :: Digest.short ident
        else takeBytes how.limit (cut ident) := by
  have hident := Nat.lt_of_lt_of_le h (byteLength_cut_le ident)
  simp [abbreviateChars, Nat.not_le.2 h, Nat.not_le.2 hident]

/-- Whether a digest takes the place of what is cut off: where neither the identifier nor its cut
segments are short enough. -/
def isMarked (ident : List Char) : Bool :=
  identifierLimit < byteLength ident && identifierLimit < byteLength (cut ident)

/-- The forms of an abbreviation: the identifier, its cut segments, or a stem of them with a
digest. -/
theorem abbreviateChars_cases (ident : List Char) :
    (byteLength ident ≤ identifierLimit ∧ abbreviateChars {} ident = ident)
    ∨ (byteLength (cut ident) ≤ identifierLimit ∧ abbreviateChars {} ident = cut ident)
    ∨ (isMarked ident = true ∧ abbreviateChars {} ident
        = markedStem identifierLimit (cut ident) ++ '_' :: Digest.short ident) := by
  by_cases hfits : byteLength ident ≤ identifierLimit
  · exact .inl ⟨hfits, abbreviateChars_of_le hfits⟩
  · rw [Nat.not_le] at hfits
    by_cases hcut : byteLength (cut ident) ≤ identifierLimit
    · exact .inr (.inl ⟨hcut, abbreviateChars_of_cut_le hfits hcut⟩)
    · rw [Nat.not_le] at hcut
      exact .inr (.inr ⟨by simp [isMarked, hfits, hcut], abbreviateChars_of_lt_cut hcut⟩)

theorem byteLength_markedStem_le (limit : Nat) (short : List Char) :
    byteLength (markedStem limit short) ≤ limit - markSize :=
  Nat.le_trans (byteLength_le_of_begins (dropTrailing_begins _ _)) (byteLength_takeBytes_le _ _)

/-- An abbreviation fits its limit, where that leaves room for a digest. -/
theorem byteLength_abbreviateChars_le_limit (how : Abbreviation) (ident : List Char) :
    byteLength (abbreviateChars how ident)
      ≤ if how.marked then max how.limit markSize else how.limit := by
  by_cases hcut : byteLength (cut ident) ≤ how.limit
  · have hle : byteLength (abbreviateChars how ident) ≤ how.limit := by
      by_cases hfits : byteLength ident ≤ how.limit
      · rw [abbreviateChars_of_le hfits]
        exact hfits
      · rw [abbreviateChars_of_cut_le (Nat.not_le.1 hfits) hcut]
        exact hcut
    split <;> omega
  · rw [abbreviateChars_of_lt_cut (Nat.not_le.1 hcut)]
    split
    · have hstem := byteLength_markedStem_le how.limit (cut ident)
      have hline : Char.utf8Size '_' = 1 := rfl
      rw [byteLength_append, byteLength_cons, Digest.byteLength_short, hline]
      simp only [markSize] at hstem ⊢
      omega
    · exact byteLength_takeBytes_le _ _

/-- An abbreviation fits the limit of the database. -/
theorem byteLength_abbreviateChars_le (ident : List Char) :
    byteLength (abbreviateChars {} ident) ≤ identifierLimit :=
  byteLength_abbreviateChars_le_limit {} ident

/-- Low lines do not vanish altogether. -/
theorem line_mem_abbreviateChars {ident : List Char} (h : '_' ∈ ident) :
    '_' ∈ abbreviateChars {} ident := by
  rcases abbreviateChars_cases ident with ⟨-, heq⟩ | ⟨-, heq⟩ | ⟨-, heq⟩
  · rw [heq]
    exact h
  · rw [heq]
    exact line_mem_cut h
  · rw [heq]
    simp

theorem byteLength_bounded_le (ident : List Char) :
    byteLength (bounded ident).toList ≤ identifierLimit := by
  rw [bounded, String.toList_ofList]
  exact byteLength_abbreviateChars_le ident

/-! ## Names with more behind or before them -/

/-- An abbreviation loses low lines only where a digest takes their place. -/
theorem marked_of_count_ne {ident : List Char}
    (h : (abbreviateChars {} ident).count '_' ≠ ident.count '_') :
    isMarked ident = true ∧ abbreviateChars {} ident
      = markedStem identifierLimit (cut ident) ++ '_' :: Digest.short ident := by
  rcases abbreviateChars_cases ident with ⟨-, heq⟩ | ⟨-, heq⟩ | hmarked
  · rw [heq] at h
    exact absurd rfl h
  · rw [heq, count_line_cut] at h
    exact absurd rfl h
  · exact hmarked

/-- A name is never the abbreviation of itself with more behind it, unless that ends in a digest
with which the name ends already. -/
theorem abbreviateChars_append_ne {ident : List Char} (rest : List Char)
    (h : isMarked (ident ++ '_' :: rest) = true →
      (segments ident).getLast? ≠ some (Digest.short (ident ++ '_' :: rest))) :
    abbreviateChars {} (ident ++ '_' :: rest) ≠ ident := by
  intro hsame
  have hcount : (abbreviateChars {} (ident ++ '_' :: rest)).count '_'
      ≠ (ident ++ '_' :: rest).count '_' := by
    rw [hsame, List.count_append, List.count_cons_self]
    omega
  obtain ⟨hmarked, heq⟩ := marked_of_count_ne hcount
  refine h hmarked ?_
  have hsegments := congrArg segments (heq.symm.trans hsame)
  rw [segments_append_line, segments_of_notMem (Digest.line_notMem_short _)] at hsegments
  rw [← hsegments, List.getLast?_concat]

/-! ## The second column of a joining table -/

/-- The word that stands before the name of a second column. -/
def relatedWord : List Char := ['r', 'e', 'l', 'a', 't', 'e', 'd']

theorem cut_related (column : List Char) : cut (relatedWord ++ '_' :: column)
    = ['r', 'e', '_'] ++ joinSegments ((segments column).map cutSegment) :=
  cut_append_line column (by decide)

/-- Of a name that ends in a digest, two characters of the digest are left when it is cut. -/
theorem byteLength_cut_marked_le (stem text : List Char) :
    byteLength (joinSegments ((segments (stem ++ '_' :: Digest.short text)).map cutSegment))
      ≤ byteLength stem + 3 := by
  have hdigest : byteLength (cutSegment (Digest.short text)) = 2 := by
    rw [cutSegment, byteLength_of_plain fun c hc =>
      (Digest.short_plain text c (List.mem_of_mem_take hc)).1, List.length_take,
      Digest.length_short]
    rfl
  have hstem := byteLength_joinSegments_cut_le (segments stem)
  rw [joinSegments_segments] at hstem
  rw [segments_append_line, segments_of_notMem (Digest.line_notMem_short text), List.map_append,
    joinSegments_append (by simpa using segments_ne_nil stem) (by simp)]
  simp only [List.map_cons, List.map_nil, joinSegments_singleton, byteLength_append,
    byteLength_cons, hdigest, show Char.utf8Size '_' = 1 from rfl]
  omega

/-- A name that fits the limit never equals the abbreviation of itself behind a word. Whole or only
cut, that has one low line more; and where a digest would end it, the digest of the name itself was
cut to two characters, so there was no need for another. -/
theorem abbreviateChars_related_ne {column : List Char}
    (hfits : byteLength column ≤ identifierLimit) :
    abbreviateChars {} (relatedWord ++ '_' :: column) ≠ column := by
  intro h
  have hcount : (abbreviateChars {} (relatedWord ++ '_' :: column)).count '_'
      ≠ (relatedWord ++ '_' :: column).count '_' := by
    rw [h, List.count_append, List.count_cons_self]
    omega
  obtain ⟨hmarked, heq⟩ := marked_of_count_ne hcount
  -- The name would end in its own digest.
  have hcolumn := heq.symm.trans h
  have hcut := byteLength_cut_marked_le (markedStem identifierLimit
    (cut (relatedWord ++ '_' :: column))) (relatedWord ++ '_' :: column)
  have hsize := congrArg byteLength hcolumn
  have hlt : identifierLimit < byteLength (cut (relatedWord ++ '_' :: column)) := by
    simp only [isMarked, Bool.and_eq_true, decide_eq_true_eq] at hmarked
    exact hmarked.2
  rw [hcolumn] at hcut
  rw [byteLength_append, byteLength_cons, Digest.byteLength_short] at hsize
  rw [cut_related, byteLength_append] at hlt
  simp only [show Char.utf8Size '_' = 1 from rfl, show byteLength ['r', 'e', '_'] = 3 from rfl,
    identifierLimit] at hsize hlt hfits hcut
  omega

end Schemata.Naming
