import Schemata.Proofs.Naming.Abbreviation
import Mathlib.Data.List.DropRight

/-!
# The shape of abbreviated identifiers

What an abbreviation looks like, for every limit and with or without a digest. Texts are cut between
characters, never inside one, so that some of the bytes that are allowed may stay unused; low lines
at the end of what is left go as well, and may go all the way back to the role in front. The role
itself stays: twelve bytes have room for it beside a digest.

## Main definitions

* `LongestWithin`: the longest beginning of whole characters within a number of bytes.
* `StemOf`: such a beginning without the low lines at its end.
* `CutOf`: an identifier whose segments are cut.
* `Shaped`: what holds of an identifier and its abbreviation.

## Main statements

* `longestWithin_takeBytes`, `stemOf_markedStem`: texts are cut in this way.
* `byteLength_cut_le`: cutting segments never makes an identifier longer.
* `begins_abbreviateChars`: a role in front is kept.
* `abbreviation_shape`: abbreviations have their shape, keep roles apart, and stay as they are.
-/

namespace Schemata.Text

/-! ## Cutting at a number of bytes -/

/-- The longest beginning of whole characters within a number of bytes. -/
structure LongestWithin (budget : Nat) (text start : List Char) : Prop where
  begins : start <+: text
  fits : byteLength start ≤ budget
  longest : ∀ other, other <+: text → byteLength other ≤ budget → other.length ≤ start.length

theorem longestWithin_takeBytes (budget : Nat) (text : List Char) :
    LongestWithin budget text (takeBytes budget text) := by
  refine ⟨takeBytes_begins budget text, byteLength_takeBytes_le budget text, ?_⟩
  intro other hother hfits
  induction text generalizing budget other with
  | nil => simp [List.prefix_nil.1 hother]
  | cons c rest ih =>
    cases other with
    | nil => exact Nat.zero_le _
    | cons d other =>
      obtain ⟨rfl, htail⟩ := List.cons_prefix_cons.1 hother
      rw [byteLength_cons] at hfits
      have hlength := ih (budget - d.utf8Size) other htail (by omega)
      rw [takeBytes, if_pos (by omega), List.length_cons, List.length_cons]
      omega

/-- A text that fits is kept in front of what is cut. -/
theorem takeBytes_append {budget : Nat} {as : List Char} (bs : List Char)
    (h : byteLength as ≤ budget) :
    takeBytes budget (as ++ bs) = as ++ takeBytes (budget - byteLength as) bs := by
  induction as generalizing budget with
  | nil => simp
  | cons a as ih =>
    rw [byteLength_cons] at h
    rw [List.cons_append, takeBytes, if_pos (by omega), ih (by omega), byteLength_cons,
      Nat.sub_add_eq, List.cons_append]

/-- A beginning of whole characters within a number of bytes, as long as possible, without the low
lines at its end. -/
structure StemOf (budget : Nat) (text stem : List Char) : Prop where
  longest : ∃ lines, LongestWithin budget text (stem ++ List.replicate lines '_')
  bare : stem.getLast? ≠ some '_'

theorem dropTrailing_append {p : Char → Bool} {as : List Char}
    (h : ∀ hne : as ≠ [], p (as.getLast hne) = false) (bs : List Char) :
    dropTrailing p (as ++ bs) = as ++ dropTrailing p bs := by
  have has : (as.reverse.dropWhile p).reverse = as :=
    List.rdropWhile_eq_self_iff.2 fun hne => by simp [h hne]
  rw [dropTrailing, List.reverse_append, List.dropWhile_append]
  split
  · rename_i hempty
    rw [has, dropTrailing, List.isEmpty_iff.1 hempty, List.reverse_nil, List.append_nil]
  · rw [List.reverse_append, List.reverse_reverse, dropTrailing]

/-- A digest is written in hexadecimal digits, in lower case. -/
theorem Digest.mem_hexDigits {text : List Char} {c : Char} (h : c ∈ Digest.short text) :
    c ∈ "0123456789abcdef".toList := by
  have hdigit : ∀ n < 16, hexDigit n ∈ "0123456789abcdef".toList := by decide
  obtain ⟨n, hn, rfl⟩ := Digest.exists_hexDigit h
  exact hdigit n hn

end Schemata.Text

namespace Schemata.Naming

open Text

theorem stemOf_markedStem (limit : Nat) (short : List Char) :
    StemOf (limit - 9) short (markedStem limit short) := by
  have hstem : markedStem limit short = (takeBytes (limit - 9) short).rdropWhile (· == '_') := rfl
  rw [hstem]
  constructor
  · have hlines : ∀ c ∈ (takeBytes (limit - 9) short).rtakeWhile (· == '_'), c = '_' :=
      fun c hc => by simpa using List.mem_rtakeWhile_imp hc
    refine ⟨((takeBytes (limit - 9) short).rtakeWhile (· == '_')).length, ?_⟩
    rw [← List.eq_replicate_of_mem hlines, List.rdropWhile_append_rtakeWhile]
    exact longestWithin_takeBytes _ _
  · intro hlast
    have hne : (takeBytes (limit - 9) short).rdropWhile (· == '_') ≠ [] := by
      intro hnil
      rw [hnil] at hlast
      cases hlast
    rw [List.getLast?_eq_some_getLast hne, Option.some.injEq] at hlast
    exact List.rdropWhile_last_not _ _ hne (by simp [hlast])

/-! ## Roles -/

/-- The beginnings of names that say what a name is for. -/
def roleStarts : List String := ["fk_", "uk_", "idx_"]

theorem exists_role : ∀ start ∈ roleStarts, ∃ role ∈ roles, start.toList = role ++ ['_'] := by
  decide

/-- A role is short and has no low line. -/
theorem role_plain : ∀ role ∈ roles, byteLength role ≤ 3 ∧ '_' ∉ role := by
  decide

/-- No role begins with another one. -/
theorem eq_of_begins_roleStart : ∀ start ∈ roleStarts, ∀ other ∈ roleStarts,
    start.toList <+: other.toList → start = other := by
  decide

theorem cut_role_append {role : List Char} (hrole : role ∈ roles) (rest : List Char) :
    cut (role ++ '_' :: rest) = role ++ '_' :: joinSegments ((segments rest).map cutSegment) := by
  have hkept : cutFirst role = role := by simp [cutFirst, hrole]
  rw [cut_append_line rest (role_plain role hrole).2, hkept]

/-- Of a role and what follows it, the role is left when low lines at the end go. -/
theorem markedStem_role_append {role : List Char} (hrole : role ∈ roles) {limit : Nat}
    (hlimit : 12 ≤ limit) (rest : List Char) :
    ∃ kept, kept <+: rest ∧ markedStem limit (role ++ rest) = role ++ kept := by
  obtain ⟨hsize, hline⟩ := role_plain role hrole
  have hlast : ∀ hne : role ≠ [], (role.getLast hne == '_') = false := by
    intro hne
    refine beq_false_of_ne fun heq => hline ?_
    rw [← heq]
    exact List.getLast_mem hne
  refine ⟨dropTrailing (· == '_') (takeBytes (limit - markSize - byteLength role) rest), ?_, ?_⟩
  · exact (dropTrailing_begins _ _).trans (takeBytes_begins _ rest)
  · have hroom : byteLength role ≤ limit - markSize := by
      simp only [markSize]
      omega
    rw [markedStem, takeBytes_append rest hroom, dropTrailing_append hlast]

/-- A role in front is kept, with the low line behind it. -/
theorem begins_abbreviateChars {how : Abbreviation} (hlimit : 12 ≤ how.limit)
    {role ident : List Char} (hrole : role ∈ roles) (h : role ++ ['_'] <+: ident) :
    role ++ ['_'] <+: abbreviateChars how ident := by
  obtain ⟨rest, hident⟩ := h
  rw [List.append_assoc, List.singleton_append] at hident
  obtain ⟨tail, hshort⟩ : ∃ tail, cut ident = role ++ '_' :: tail :=
    ⟨_, hident ▸ cut_role_append hrole rest⟩
  have hbegins (bs : List Char) : role ++ ['_'] <+: role ++ '_' :: bs := ⟨bs, by simp⟩
  by_cases hcut : byteLength (cut ident) ≤ how.limit
  · by_cases hfits : byteLength ident ≤ how.limit
    · rw [abbreviateChars_of_le hfits, ← hident]
      exact hbegins rest
    · rw [abbreviateChars_of_cut_le (Nat.not_le.1 hfits) hcut, hshort]
      exact hbegins tail
  · rw [abbreviateChars_of_lt_cut (Nat.not_le.1 hcut), hshort]
    split
    · -- the stem is the role alone, or goes on with a low line
      obtain ⟨kept, hkept, hstem⟩ := markedStem_role_append hrole hlimit ('_' :: tail)
      rw [hstem, List.append_assoc, List.prefix_append_right_inj]
      cases kept with
      | nil => exact ⟨_, rfl⟩
      | cons c kept =>
        obtain ⟨rfl, -⟩ := List.cons_prefix_cons.1 hkept
        exact ⟨_, rfl⟩
    · have hroom : byteLength (role ++ ['_']) ≤ how.limit := by
        have hsize := (role_plain role hrole).1
        rw [byteLength_append, show byteLength ['_'] = 1 from rfl]
        omega
      rw [List.append_cons role '_' tail, takeBytes_append tail hroom]
      exact List.prefix_append _ _

/-- Identifiers with different roles have different abbreviations. -/
theorem abbreviateChars_ne_of_roles {how : Abbreviation} (hlimit : 12 ≤ how.limit)
    {start other : String} (hstart : start ∈ roleStarts) (hother : other ∈ roleStarts)
    (hne : start ≠ other) {a b : List Char} (ha : start.toList <+: a) (hb : other.toList <+: b) :
    abbreviateChars how a ≠ abbreviateChars how b := by
  obtain ⟨role, hrole, heq⟩ := exists_role start hstart
  obtain ⟨role', hrole', heq'⟩ := exists_role other hother
  have hbegins : start.toList <+: abbreviateChars how a :=
    heq ▸ begins_abbreviateChars hlimit hrole (heq ▸ ha)
  have hbegins' : other.toList <+: abbreviateChars how b :=
    heq' ▸ begins_abbreviateChars hlimit hrole' (heq' ▸ hb)
  intro hsame
  rw [hsame] at hbegins
  rcases List.prefix_or_prefix_of_prefix hbegins hbegins' with h | h
  · exact hne (eq_of_begins_roleStart start hstart other hother h)
  · exact hne (eq_of_begins_roleStart other hother start hstart h).symm

theorem roleName_ne {role other : String} (hrole : role ++ "_" ∈ roleStarts)
    (hother : other ++ "_" ∈ roleStarts) (hne : role ++ "_" ≠ other ++ "_")
    (table table' : String) (columns columns' : List String) :
    roleName role table columns ≠ roleName other table' columns' := by
  have hbegins (role table : String) (columns : List String) : (role ++ "_").toList
      <+: joinSegments ((role :: table :: columns).map String.toList) := by
    rw [List.map_cons, joinSegments_cons _ (by simp)]
    exact ⟨joinSegments ((table :: columns).map String.toList), by simp⟩
  have hlimit : 12 ≤ ({} : Abbreviation).limit := by decide
  intro hsame
  exact abbreviateChars_ne_of_roles hlimit hrole hother hne (hbegins role table columns)
    (hbegins other table' columns') (String.ofList_injective hsame)

/-! ## Shapes -/

/-- Each of the segments between low lines keeps its first two characters. A role in front stays
whole. -/
def CutOf (ident short : List Char) : Prop :=
  ∃ first rest, (∀ segment ∈ first :: rest, '_' ∉ segment)
    ∧ ident = ['_'].intercalate (first :: rest)
    ∧ short = ['_'].intercalate
      ((if String.ofList first ∈ ["fk", "uk", "idx"] then first else first.take 2)
        :: rest.map (·.take 2))

theorem contains_roles_iff (first : List Char) :
    roles.contains first = true ↔ String.ofList first ∈ ["fk", "uk", "idx"] := by
  have hroles : roles.map String.ofList = ["fk", "uk", "idx"] := by decide
  have hinjective : Function.Injective String.ofList := fun _ _ => String.ofList_injective
  rw [List.contains_iff_mem, ← hroles, List.mem_map_of_injective hinjective]

/-- Cutting an identifier cuts its segments. -/
theorem cutOf_cut (ident : List Char) : CutOf ident (cut ident) := by
  obtain ⟨first, rest, hsegments⟩ := List.exists_cons_of_ne_nil (segments_ne_nil ident)
  refine ⟨first, rest, fun segment hmem => ?_, ?_, ?_⟩
  · exact notMem_of_mem_segments (hsegments ▸ hmem)
  · rw [← hsegments]
    exact (joinSegments_segments ident).symm
  · simp only [cut, hsegments, cutSegments, contains_roles_iff]
    rfl

/-- What holds of an identifier and its abbreviation. -/
structure Shaped (how : Abbreviation) (ident short : String) : Prop where
  /-- What fits is left as it is. -/
  whole : ident.utf8ByteSize ≤ how.limit → short = ident
  /-- Nothing exceeds the limit, but for a digest where the limit has no room for one. -/
  within : short.utf8ByteSize ≤ if how.marked then max how.limit 9 else how.limit
  /-- A role in front is kept. -/
  role : 12 ≤ how.limit → ∀ start ∈ roleStarts,
    start.toList <+: ident.toList → start.toList <+: short.toList
  /-- Segments are cut to two characters, but for the role. -/
  cutOf : CutOf ident.toList (cut ident.toList)
  /-- Where it is enough, segments are cut and nothing else is done. -/
  segmented : how.limit < ident.utf8ByteSize → byteLength (cut ident.toList) ≤ how.limit →
    short.toList = cut ident.toList
  /-- Where it is not, a stem is left of them, and a digest marks the identifier. -/
  stem : how.marked = true → how.limit < byteLength (cut ident.toList) →
    ∃ stem, StemOf (how.limit - 9) (cut ident.toList) stem
      ∧ short.toList = stem ++ '_' :: Digest.short ident.toList
  /-- Without a digest, as much is left of them as fits. -/
  start : how.marked = false → how.limit < byteLength (cut ident.toList) →
    LongestWithin how.limit (cut ident.toList) short.toList
  /-- A digest is eight hexadecimal digits. -/
  digest : (Digest.short ident.toList).length = 8
    ∧ ∀ c ∈ Digest.short ident.toList, c ∈ "0123456789abcdef".toList

theorem shaped_abbreviate (how : Abbreviation) (ident : String) :
    Shaped how ident (abbreviate how ident) := by
  have hchars : (abbreviate how ident).toList = abbreviateChars how ident.toList :=
    String.toList_ofList
  constructor
  case whole =>
    intro hfits
    rw [utf8ByteSize_eq] at hfits
    rw [abbreviate, abbreviateChars_of_le hfits, String.ofList_toList]
  case within =>
    rw [utf8ByteSize_eq, hchars]
    exact byteLength_abbreviateChars_le_limit how ident.toList
  case role =>
    intro hlimit start hstart hbegins
    obtain ⟨role, hrole, heq⟩ := exists_role start hstart
    rw [heq] at hbegins ⊢
    rw [hchars]
    exact begins_abbreviateChars hlimit hrole hbegins
  case cutOf => exact cutOf_cut ident.toList
  case segmented =>
    intro hlong hcut
    rw [utf8ByteSize_eq] at hlong
    rw [hchars, abbreviateChars_of_cut_le hlong hcut]
  case stem =>
    intro hmarked hcut
    refine ⟨markedStem how.limit (cut ident.toList), stemOf_markedStem _ _, ?_⟩
    rw [hchars, abbreviateChars_of_lt_cut hcut, if_pos hmarked]
  case start =>
    intro hmarked hcut
    rw [hchars, abbreviateChars_of_lt_cut hcut, if_neg (by simp [hmarked])]
    exact longestWithin_takeBytes _ _
  case digest =>
    exact ⟨Digest.length_short _, fun c hc => Digest.mem_hexDigits hc⟩

/-- Every abbreviation has its shape. So an abbreviation stays as it is when it is abbreviated
again, where the limit has room for a digest; and names of different roles are different, where it
has room for a role and a digest. -/
theorem abbreviation_shape (how : Abbreviation) :
    (∀ ident, Shaped how ident (abbreviate how ident))
    ∧ (9 ≤ how.limit → ∀ ident, abbreviate how (abbreviate how ident) = abbreviate how ident)
    ∧ (12 ≤ how.limit → ∀ start ∈ roleStarts, ∀ other ∈ roleStarts, start ≠ other →
        ∀ a b : String, start.toList <+: a.toList → other.toList <+: b.toList →
          abbreviate how a ≠ abbreviate how b)
    ∧ ∀ table table' columns columns',
        foreignKeyName table columns ≠ uniqueName table' columns'
        ∧ foreignKeyName table columns ≠ indexName table' columns'
        ∧ uniqueName table columns ≠ indexName table' columns' := by
  refine ⟨shaped_abbreviate how, fun hlimit ident => ?_, ?_,
    fun table table' columns columns' => ?_⟩
  · have hwithin := (shaped_abbreviate how ident).within
    refine (shaped_abbreviate how (abbreviate how ident)).whole ?_
    split at hwithin <;> omega
  · intro hlimit start hstart other hother hne a b ha hb hsame
    exact abbreviateChars_ne_of_roles hlimit hstart hother hne ha hb (String.ofList_injective hsame)
  · exact ⟨roleName_ne (by decide) (by decide) (by decide) _ _ _ _,
      roleName_ne (by decide) (by decide) (by decide) _ _ _ _,
      roleName_ne (by decide) (by decide) (by decide) _ _ _ _⟩

/-- With twelve bytes, only the role is left before the digest: the low lines behind it are gone. -/
theorem abbreviation_shape_tight :
    abbreviate ⟨12, true⟩ "idx__élan_vital_force" = "idx_ae05e6df"
    ∧ "idx_".toList <+: (abbreviate ⟨12, true⟩ "idx__élan_vital_force").toList
    ∧ abbreviate ⟨12, true⟩ (abbreviate ⟨12, true⟩ "idx__élan_vital_force")
      = abbreviate ⟨12, true⟩ "idx__élan_vital_force" := by
  obtain ⟨hshaped, hagain, -, -⟩ := abbreviation_shape ⟨12, true⟩
  exact ⟨by decide +kernel, (hshaped _).role (by decide) "idx_" (by decide) (by decide),
    hagain (by decide) _⟩

end Schemata.Naming
