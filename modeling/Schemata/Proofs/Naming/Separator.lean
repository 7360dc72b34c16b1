import Schemata.Sql.Table
import Schemata.Sql.View
import Schemata.Proofs.Naming.Abbreviation

/-!
# Names without separators

A dot separates a schema from a table, and an alias from a column; a slash separates a directory
from a file. No name that is built from a specification holds one: snake case turns it into a low
line, and neither inflection nor abbreviation brings it back. Names with a dot in between can
therefore be taken apart again.

## Main definitions

* `Text.separators`: the dot and the slash.

## Main statements

* `notMem_tableName`, `notMem_junctionTableName`, `notMem_columnName`.
* `append_dot_inj`: what stands before and after the last dot is determined.
-/

namespace Schemata.Text

/-- The characters that separate names. -/
def separators : List Char := ['.', '/']

theorem eq_or_eq_of_separator {m : Char} (hm : m ∈ separators) : m = '.' ∨ m = '/' := by
  simpa [separators] using hm

/-- Separators come before the digits. -/
theorem toNat_separator {m : Char} (hm : m ∈ separators) : 0 < m.toNat ∧ m.toNat < 48 := by
  rcases eq_or_eq_of_separator hm with rfl | rfl <;> decide

theorem ne_of_separator {m c : Char} (hm : m ∈ separators) (hc : c ∉ separators) : m ≠ c :=
  fun heq => hc (heq ▸ hm)

/-! ## Snake case and lower case -/

/-- A code point from that of the first digit on is no separator, whether it stands for a character
or not. -/
theorem ofNat_ne_separator {m : Char} (hm : m ∈ separators) {n : Nat} (h : 48 ≤ n) :
    Char.ofNat n ≠ m := by
  rintro rfl
  obtain ⟨hpos, hlt⟩ := toNat_separator hm
  by_cases hv : n.isValidChar
  · rw [Char.ofNat, dif_pos hv] at hlt
    change n < 48 at hlt
    omega
  · rw [Char.ofNat, dif_neg hv] at hpos
    exact absurd hpos (by decide)

theorem asciiLower_ne_separator {m : Char} (hm : m ∈ separators) {c : Char} (h : c ≠ m) :
    asciiLower c ≠ m := by
  unfold asciiLower
  split
  · rename_i hupper
    have hle : 65 ≤ c.toNat := by
      simp only [isAsciiUpper, Bool.and_eq_true, decide_eq_true_eq, Char.le_def,
        UInt32.le_iff_toNat_le] at hupper
      exact hupper.1
    exact ofNat_ne_separator hm (by omega)
  · exact h

theorem notMem_snakeFrom {m : Char} (hm : m ∈ separators) (name : List Char) (offset : Nat)
    (fresh : Bool) (cs : List Char) : m ∉ snakeFrom name offset fresh cs := by
  have hother : isAlphanumeric m = false := by
    rcases eq_or_eq_of_separator hm with rfl | rfl <;> decide
  have hline : m ≠ '_' := ne_of_separator hm (by decide)
  induction cs generalizing offset fresh with
  | nil => simp [snakeFrom]
  | cons c rest ih =>
    simp only [snakeFrom]
    by_cases hc : isAlphanumeric c = true
    · have hlower : m ≠ asciiLower c := by
        refine (asciiLower_ne_separator hm fun heq => ?_).symm
        rw [heq, hother] at hc
        cases hc
      simp only [hc, Bool.not_true, Bool.false_eq_true, if_false]
      split <;> simp [hlower, hline, ih]
    · cases fresh <;> simp [hc, hline, ih]

theorem notMem_snakeChars {m : Char} (hm : m ∈ separators) (name : List Char) :
    m ∉ snakeChars name :=
  notMem_snakeFrom hm _ _ _ _

theorem lowerMapping_above_separators : ∀ e ∈ lowerMapping, 48 ≤ e.2 := by decide +kernel

theorem notMem_lowerChar {m : Char} (hm : m ∈ separators) {c : Char} (h : c ≠ m) :
    m ∉ lowerChar c := by
  unfold lowerChar
  split
  · simpa using (asciiLower_ne_separator hm h).symm
  · split
    · simp only [List.mem_cons, List.not_mem_nil, or_false, not_or]
      exact ⟨ne_of_separator hm (by decide), ne_of_separator hm (by decide)⟩
    · rw [List.mem_singleton]
      intro heq
      cases hmap : mapRuns lowerMapping c.toNat with
      | none => exact h (by simpa [hmap] using heq.symm)
      | some n =>
        obtain ⟨e, he, rfl⟩ := Option.map_eq_some_iff.1 hmap
        have habove := lowerMapping_above_separators e (List.mem_of_find?_eq_some he)
        rw [hmap, Option.map_some, Option.getD_some] at heq
        exact ofNat_ne_separator hm (Nat.le_add_right_of_le habove) heq.symm

theorem notMem_lowerFrom {m : Char} (hm : m ∈ separators) (before cs : List Char) (h : m ∉ cs) :
    m ∉ lowerFrom before cs := by
  induction cs generalizing before with
  | nil => simp [lowerFrom]
  | cons c rest ih =>
    obtain ⟨hc, hrest⟩ : m ≠ c ∧ m ∉ rest := by simpa using h
    rw [lowerFrom, List.mem_append, not_or]
    refine ⟨?_, ih _ hrest⟩
    split
    · split <;> exact List.mem_singleton.not.2 (ne_of_separator hm (by decide))
    · exact notMem_lowerChar hm hc.symm

end Schemata.Text

namespace Schemata.Inflection

open Text

/-! ## Inflection -/

theorem trailingRun_subset (cs : List Char) : trailingRun cs ⊆ cs := by
  intro c hc
  have hmem : c ∈ cs.reverse.takeWhile Text.isWordChar := by simpa [trailingRun] using hc
  simpa using (List.takeWhile_sublist _).subset hmem

/-- Where a stem fits, only characters of the word are kept. -/
theorem Rule.fitAtEnd?_kept {rule : Rule} {word : List Char} {stem ending : Pattern} {fit : Fit}
    (h : rule.fitAtEnd? word stem ending = some fit) : fit.kept ⊆ word := by
  simp only [Rule.fitAtEnd?] at h
  split at h
  · cases h
  · split at h
    · cases h
      refine List.append_subset.2 ⟨?_, fun c hc => List.mem_of_mem_drop (List.mem_of_mem_take hc)⟩
      split
      · exact fun c hc => List.mem_of_mem_take (trailingRun_subset _ hc)
      · exact List.nil_subset _
    · cases h

theorem Rule.fit?_kept {rule : Rule} {word : List Char} {stem ending : Pattern} {fit : Fit}
    (h : rule.fit? word stem ending = some fit) : fit.kept ⊆ word := by
  unfold Rule.fit? at h
  split at h
  · exact Rule.fitAtEnd?_kept h
  · split at h
    · exact Rule.fitAtEnd?_kept h
    · cases h
  · unfold fitAtBeginning? at h
    split at h
    · cases h
      exact fun c hc => List.mem_of_mem_take hc
    · cases h

/-- Of several fits one is chosen. -/
theorem mem_of_foldl_leftmost {fits : List Fit} {start : Option Fit} {fit : Fit}
    (h : fits.foldl Fit.leftmost start = some fit) : start = some fit ∨ fit ∈ fits := by
  induction fits generalizing start with
  | nil => exact .inl h
  | cons f rest ih =>
    rcases ih h with hstart | hmem
    · cases start with
      | none =>
        rw [Fit.leftmost, Option.some.injEq] at hstart
        exact .inr (hstart ▸ List.mem_cons_self)
      | some g =>
        rw [Fit.leftmost] at hstart
        split at hstart
        · exact .inr (by simpa using Or.inl (Option.some.inj hstart).symm)
        · exact .inl hstart
    · exact .inr (List.mem_cons_of_mem _ hmem)

/-- A rule leaves characters of the word and of its replacement. -/
theorem Rule.apply?_subset {rule : Rule} {word out : List Char} (h : rule.apply? word = some out) :
    out ⊆ word ++ rule.replacement.toList := by
  obtain ⟨fit, hfit, rfl⟩ := Option.map_eq_some_iff.1 h
  rcases mem_of_foldl_leftmost hfit with hnone | hmem
  · cases hnone
  · obtain ⟨stem, -, hmem⟩ := List.mem_flatMap.1 hmem
    obtain ⟨ending, -, hfit⟩ := List.mem_filterMap.1 hmem
    have hkept : fit.kept ⊆ word := Rule.fit?_kept hfit
    exact List.append_subset.2 ⟨fun c hc => List.mem_append_left _ (hkept hc),
      List.subset_append_right _ _⟩

theorem notMem_pluralRules {m : Char} (hm : m ∈ separators) :
    ∀ rule ∈ pluralRules, m ∉ rule.replacement.toList := by
  rcases eq_or_eq_of_separator hm with rfl | rfl <;> decide

theorem notMem_specialPlurals {m : Char} (hm : m ∈ separators) :
    ∀ noun ∈ specialPlurals, m ∉ noun.2.toList := by
  rcases eq_or_eq_of_separator hm with rfl | rfl <;> decide

theorem notMem_irregular {m : Char} (hm : m ∈ separators) :
    ∀ noun ∈ irregular, m ∉ noun.2.toList := by
  rcases eq_or_eq_of_separator hm with rfl | rfl <;> decide

theorem notMem_regularPlural {m : Char} (hm : m ∈ separators) {word : List Char} (h : m ∉ word) :
    m ∉ regularPlural word := by
  unfold regularPlural
  split
  · exact h
  · split
    · rename_i plural hp
      obtain ⟨l₁, l₂, hl, -⟩ := List.lookup_eq_some_iff.1 hp
      exact notMem_specialPlurals hm (String.ofList word, plural) (by simp [hl])
    · cases hrule : applyFirst? pluralRules word with
      | none => simpa using ⟨h, ne_of_separator hm (by decide)⟩
      | some out =>
        obtain ⟨rule, hmem, hout⟩ := List.exists_of_findSome?_eq_some hrule
        intro hin
        rcases List.mem_append.1 (Rule.apply?_subset hout hin) with hin | hin
        · exact h hin
        · exact notMem_pluralRules hm rule hmem hin

theorem notMem_pluralNoun {m : Char} (hm : m ∈ separators) {word : List Char} (h : m ∉ word) :
    m ∉ pluralNoun word := by
  unfold pluralNoun
  split
  · simp
  · have hlower : m ∉ lower word := notMem_lowerFrom hm [] word h
    simp only
    split
    · rename_i noun hn
      exact notMem_irregular hm noun (List.mem_of_find?_eq_some hn)
    · exact notMem_regularPlural hm hlower

/-- The plural of an identifier without separators has none. -/
theorem notMem_plural {m : Char} (hm : m ∈ separators) {ident : List Char} (h : m ∉ ident) :
    m ∉ plural ident := by
  have hlast : m ∉ lastSegment ident := by
    intro hin
    have hmem : m ∈ ident.reverse.takeWhile (· != '_') := by simpa [lastSegment] using hin
    exact h (by simpa using (List.takeWhile_sublist _).subset hmem)
  simp only [plural, inflectLast]
  split
  · exact notMem_pluralNoun hm h
  · rw [List.mem_append, not_or]
    exact ⟨fun hin => h (List.mem_of_mem_take hin), notMem_pluralNoun hm hlast⟩

end Schemata.Inflection

namespace Schemata.Naming

open Text Inflection

/-! ## Abbreviation -/

theorem hexDigit_ne_separator {m : Char} (hm : m ∈ separators) (n : Nat) : hexDigit n ≠ m := by
  unfold hexDigit
  split <;> exact ofNat_ne_separator hm (by omega)

theorem notMem_short {m : Char} (hm : m ∈ separators) (text : List Char) :
    m ∉ Digest.short text := by
  intro hin
  obtain ⟨n, -, heq⟩ := Digest.exists_hexDigit hin
  exact hexDigit_ne_separator hm n heq.symm

theorem mem_of_mem_markedStem {limit : Nat} {short : List Char} {c : Char}
    (h : c ∈ markedStem limit short) : c ∈ short :=
  ((dropTrailing_begins _ _).trans (takeBytes_begins _ _)).subset h

/-- An identifier without separators has none when it is abbreviated. -/
theorem notMem_bounded {m : Char} (hm : m ∈ separators) {ident : List Char} (h : m ∉ ident) :
    m ∉ (bounded ident).toList := by
  have hcut : m ∉ cut ident := fun hin => h (mem_of_mem_cut hin)
  rw [bounded, String.toList_ofList]
  rcases abbreviateChars_cases ident with ⟨-, heq⟩ | ⟨-, heq⟩ | ⟨-, heq⟩
  · rw [heq]
    exact h
  · rw [heq]
    exact hcut
  · rw [heq]
    simp only [List.mem_append, List.mem_cons, not_or]
    exact ⟨fun hin => hcut (mem_of_mem_markedStem hin), ne_of_separator hm (by decide),
      notMem_short hm ident⟩

/-! ## Names of database objects -/

theorem notMem_words {m : Char} (hm : m ∈ separators) (name : String) : m ∉ words name :=
  notMem_snakeChars hm _

theorem notMem_tableName {m : Char} (hm : m ∈ separators) (name : String) :
    m ∉ (tableName name).toList :=
  notMem_bounded hm (notMem_plural hm (notMem_words hm name))

theorem notMem_columnName {m : Char} (hm : m ∈ separators) (field : String) :
    m ∉ (columnName field).toList :=
  notMem_bounded hm (notMem_words hm field)

theorem notMem_join {m : Char} (hm : m ∈ separators) {cs : List Char} (h : m ∉ cs) (name : String) :
    m ∉ cs ++ '_' :: words name := by
  simp only [List.mem_append, List.mem_cons, not_or]
  exact ⟨h, ne_of_separator hm (by decide), notMem_words hm name⟩

theorem notMem_junctionTableName {m : Char} (hm : m ∈ separators) (source target : String) :
    m ∉ (junctionTableName source target).toList :=
  notMem_bounded hm (notMem_plural hm (notMem_join hm (notMem_words hm source) target))

/-- The view of an entity may have a separator in its suffix alone. -/
theorem notMem_viewName {m : Char} (hm : m ∈ separators) (entity : String) {suffix : String}
    (h : m ∉ suffix.toList) : m ∉ (viewName entity suffix).toList := by
  refine notMem_bounded hm ?_
  rw [List.mem_append, not_or]
  exact ⟨notMem_plural hm (notMem_words hm entity), h⟩

theorem append_cons_dot_inj {as bs cs ds : List Char} (hb : '.' ∉ bs) (hd : '.' ∉ ds)
    (h : as ++ '.' :: bs = cs ++ '.' :: ds) : as = cs ∧ bs = ds := by
  rcases List.append_eq_append_iff.1 h with ⟨xs, hcs, hxs⟩ | ⟨xs, has, hxs⟩
  all_goals
    cases xs with
    | nil => simp_all
    | cons x xs =>
      obtain ⟨-, hrest⟩ := List.cons_eq_cons.1 hxs
      simp [hrest] at hb hd

/-- Where no dot follows it, a dot shows where a text is to be cut. -/
theorem append_dot_inj {a b c d : String} (hb : '.' ∉ b.toList) (hd : '.' ∉ d.toList)
    (h : a ++ "." ++ b = c ++ "." ++ d) : a = c ∧ b = d := by
  have hlist : a.toList ++ '.' :: b.toList = c.toList ++ '.' :: d.toList := by
    simpa using congrArg String.toList h
  obtain ⟨hac, hbd⟩ := append_cons_dot_inj hb hd hlist
  exact ⟨String.toList_inj.1 hac, String.toList_inj.1 hbd⟩

end Schemata.Naming
