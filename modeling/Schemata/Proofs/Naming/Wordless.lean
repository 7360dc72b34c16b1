import Schemata.Proofs.Naming.Separator
import Mathlib.Data.List.DropRight

/-!
# Names of which nothing is left

Snake case keeps letters and digits and turns everything else into low lines between them. Of a name
without letters and digits nothing is left, be it blank or not: `!!!` is not blank, and its snake
case is empty. Nothing else makes a name empty. Inflection leaves a stem or an ending of every word,
abbreviation a character of every segment, and a name made of two has a low line between them.

## Main definitions

* `Text.isWordless`: a text without letters and digits.

## Main statements

* `plural_eq_nil_iff`, `abbreviateChars_eq_nil_iff`: neither makes an identifier empty.
* `tableName_eq_empty_iff`, `columnName_eq_empty_iff`: the names that become empty.
* `junctionTableName_ne_empty`, `referenceColumnName_ne_empty`: those that never do.
-/

namespace Schemata.Text

/-- A text without letters and digits. -/
def isWordless (s : String) : Bool := s.toList.all fun c => !isAlphanumeric c

/-! ## Snake case and lower case -/

/-- Before a word has begun, everything but letters and digits is left out. -/
theorem snakeFrom_eq_nil_iff {name cs : List Char} {offset : Nat} :
    snakeFrom name offset true cs = [] ↔ ∀ c ∈ cs, isAlphanumeric c = false := by
  induction cs generalizing offset with
  | nil => simp [snakeFrom]
  | cons c rest ih =>
    by_cases hc : isAlphanumeric c = true
    · simp [snakeFrom, hc]
    · simp [snakeFrom, hc, ih]

/-- What satisfies a condition at the end of a text is left out, and nothing else. -/
theorem forall_mem_dropTrailing_iff {p : Char → Bool} {cs : List Char} :
    (∀ c ∈ dropTrailing p cs, p c = true) ↔ ∀ c ∈ cs, p c = true := by
  constructor
  · intro h
    rw [← List.rdropWhile_eq_nil_iff]
    by_contra hne
    exact List.rdropWhile_last_not p cs hne (h _ (List.getLast_mem hne))
  · intro h c hc
    exact h c ((dropTrailing_begins p cs).subset hc)

theorem snakeChars_eq_nil_iff {name : List Char} :
    snakeChars name = [] ↔ ∀ c ∈ name, isAlphanumeric c = false := by
  have hdrop := @forall_mem_dropTrailing_iff (fun c => !isAlphanumeric c) name
  simp only [Bool.not_eq_true'] at hdrop
  rw [snakeChars, snakeFrom_eq_nil_iff, hdrop]

theorem lowerChar_ne_nil (c : Char) : lowerChar c ≠ [] := by
  unfold lowerChar
  split
  · simp
  · split <;> simp

theorem lower_eq_nil_iff {cs : List Char} : lower cs = [] ↔ cs = [] := by
  cases cs with
  | nil => simp [lower, lowerFrom]
  | cons c rest =>
    simp only [lower, lowerFrom, List.append_eq_nil_iff, reduceCtorEq, iff_false, not_and]
    intro himage
    split at himage
    · cases himage
    · exact absurd himage (lowerChar_ne_nil c)

end Schemata.Text

namespace Schemata.Inflection

open Text

/-! ## Inflection -/

theorem Pattern.length_of_accepts {p : Pattern} {cs : List Char} (h : p.accepts cs = true) :
    p.length = cs.length := by
  induction p generalizing cs with
  | nil =>
    cases cs with
    | nil => rfl
    | cons c cs => cases h
  | cons l ls ih =>
    cases cs with
    | nil => cases h
    | cons c cs =>
      simp only [accepts, Bool.and_eq_true] at h
      simp [ih h.2]

/-- Where a stem fits, it is kept. -/
theorem Rule.length_stem_le {rule : Rule} {word : List Char} {stem ending : Pattern} {fit : Fit}
    (h : rule.fit? word stem ending = some fit) : stem.length ≤ fit.kept.length := by
  have hend (h : rule.fitAtEnd? word stem ending = some fit) : stem.length ≤ fit.kept.length := by
    simp only [Rule.fitAtEnd?] at h
    split at h
    · cases h
    · split at h
      · cases h
        simp only [List.length_append, List.length_take, List.length_drop]
        omega
      · cases h
  unfold Rule.fit? at h
  split at h
  · exact hend h
  · split at h
    · exact hend h
    · cases h
  · unfold fitAtBeginning? at h
    split at h
    · rename_i haccepts
      cases h
      have hlength := Pattern.length_of_accepts haccepts
      simp only [List.length_append, List.length_take] at hlength ⊢
      omega
    · cases h

/-- A rule that puts something in place of the ending, or asks for a stem, leaves something. -/
theorem Rule.apply?_ne_nil {rule : Rule} {word out : List Char}
    (hrule : rule.replacement.toList ≠ [] ∨ ∀ stem ∈ rule.stems, stem ≠ [])
    (h : rule.apply? word = some out) : out ≠ [] := by
  obtain ⟨fit, hfit, rfl⟩ := Option.map_eq_some_iff.1 h
  rcases mem_of_foldl_leftmost hfit with hnone | hmem
  · cases hnone
  · obtain ⟨stem, hstem, hmem⟩ := List.mem_flatMap.1 hmem
    obtain ⟨ending, -, hfit⟩ := List.mem_filterMap.1 hmem
    rcases hrule with hreplacement | hstems
    · simp [hreplacement]
    · have hpos : 0 < stem.length := List.length_pos_iff.2 (hstems stem hstem)
      have hkept : fit.kept ≠ [] :=
        List.length_pos_iff.1 (Nat.lt_of_lt_of_le hpos (Rule.length_stem_le hfit))
      simp [hkept]

theorem pluralRules_leave : ∀ rule ∈ pluralRules,
    rule.replacement.toList ≠ [] ∨ ∀ stem ∈ rule.stems, stem ≠ [] := by
  decide

theorem specialPlurals_ne_nil : ∀ noun ∈ specialPlurals, noun.2.toList ≠ [] := by decide

theorem irregular_ne_nil : ∀ noun ∈ irregular, noun.2.toList ≠ [] := by decide

theorem regularPlural_ne_nil {word : List Char} (h : word ≠ []) : regularPlural word ≠ [] := by
  unfold regularPlural
  split
  · exact h
  · split
    · rename_i plural hp
      obtain ⟨l₁, l₂, hl, -⟩ := List.lookup_eq_some_iff.1 hp
      exact specialPlurals_ne_nil (String.ofList word, plural) (by simp [hl])
    · cases hrule : applyFirst? pluralRules word with
      | none => simp
      | some out =>
        obtain ⟨rule, hmem, hout⟩ := List.exists_of_findSome?_eq_some hrule
        exact Rule.apply?_ne_nil (pluralRules_leave rule hmem) hout

theorem pluralNoun_eq_nil_iff {word : List Char} : pluralNoun word = [] ↔ word = [] := by
  cases word with
  | nil => simp [pluralNoun]
  | cons c rest =>
    have hlower : lower (c :: rest) ≠ [] := by simp [lower_eq_nil_iff]
    simp only [pluralNoun, List.isEmpty_cons, Bool.false_eq_true, if_false, reduceCtorEq, iff_false]
    split
    · rename_i noun hn
      exact irregular_ne_nil noun (List.mem_of_find?_eq_some hn)
    · exact regularPlural_ne_nil hlower

/-- The plural of an identifier is not empty. -/
theorem plural_eq_nil_iff {ident : List Char} : plural ident = [] ↔ ident = [] := by
  simp only [plural, inflectLast]
  split
  · exact pluralNoun_eq_nil_iff
  · rename_i hlast
    have hsegment : lastSegment ident ≠ [] := by simpa using hlast
    have hident : ident ≠ [] := by
      rintro rfl
      exact hsegment rfl
    simp [pluralNoun_eq_nil_iff, hsegment, hident]

end Schemata.Inflection

namespace Schemata.Naming

open Text Inflection

/-! ## Abbreviation -/

/-- Cutting segments leaves a low line, or the first character of the only segment. -/
theorem cut_eq_nil_iff {ident : List Char} : cut ident = [] ↔ ident = [] := by
  by_cases hline : '_' ∈ ident
  · simp [List.ne_nil_of_mem hline, List.ne_nil_of_mem (line_mem_cut hline)]
  · simp only [cut, segments_of_notMem hline, cutSegments, List.map_nil, joinSegments_singleton]
    split
    · exact Iff.rfl
    · simp [cutSegment]

theorem abbreviateChars_eq_nil_iff {ident : List Char} :
    abbreviateChars {} ident = [] ↔ ident = [] := by
  rcases abbreviateChars_cases ident with ⟨-, heq⟩ | ⟨-, heq⟩ | ⟨hmarked, heq⟩
  · rw [heq]
  · rw [heq, cut_eq_nil_iff]
  · have hident : ident ≠ [] := by
      rintro rfl
      exact absurd hmarked (by decide)
    simp [heq, hident]

theorem bounded_eq_empty_iff {ident : List Char} : bounded ident = "" ↔ ident = [] := by
  rw [bounded, ← String.toList_eq_nil_iff, String.toList_ofList, abbreviateChars_eq_nil_iff]

/-! ## Names of database objects -/

theorem words_eq_nil_iff {name : String} : words name = [] ↔ isWordless name = true := by
  simp [words, snakeChars_eq_nil_iff, isWordless]

/-- A table has no name exactly if nothing of the model's name is left. -/
theorem tableName_eq_empty_iff {name : String} : tableName name = "" ↔ isWordless name = true := by
  rw [tableName, bounded_eq_empty_iff, plural_eq_nil_iff, words_eq_nil_iff]

theorem columnName_eq_empty_iff {field : String} :
    columnName field = "" ↔ isWordless field = true := by
  rw [columnName, bounded_eq_empty_iff, words_eq_nil_iff]

theorem junctionTableName_ne_empty (source target : String) :
    junctionTableName source target ≠ "" := by
  simp [junctionTableName, bounded_eq_empty_iff, plural_eq_nil_iff]

theorem referenceColumnName_ne_empty (model field : String) :
    referenceColumnName model field ≠ "" := by
  simp [referenceColumnName, bounded_eq_empty_iff]

end Schemata.Naming
