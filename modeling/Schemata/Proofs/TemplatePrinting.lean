import Schemata.Settings.Basic

/-!
# Templates as they are written down

A template is written down fragment by fragment: plain text, variables with and without braces, and
dollar signs that stand for themselves. It is read one character at a time, and what is read are the
fragments again, provided that none of them runs into the text behind it: no name goes on there, and
a dollar sign does not find one. The expansion of a template is then that of its fragments.

## Main definitions

* `Fragment`: what a template is made of; `print`: its text.
* `Separate`: no fragment runs into what follows it.

## Main statements

* `piecesFrom_fragment`: a fragment is read back, and reading goes on behind it.
* `piecesFrom_printed`: a template is read as its fragments.
* `expandSchema_print`: the expansion of a template, or the first variable that is not set.
-/

namespace Schemata.Settings

/-! ## Characters of names -/

/-- The characters of names without braces: letters and digits, the low line, and beyond ASCII what
the tables list as letters and numbers. -/
def NameChar (c : Char) : Prop :=
  ('a' ≤ c ∧ c ≤ 'z') ∨ ('A' ≤ c ∧ c ≤ 'Z') ∨ ('0' ≤ c ∧ c ≤ '9') ∨ c = '_'
    ∨ (128 ≤ c.toNat ∧ ∃ run ∈ Text.alphabetic ++ Text.decimalDigit ++ Text.otherNumber,
      run.first ≤ c.toNat ∧ c.toNat ≤ run.last ∧ (c.toNat - run.first) % run.step = 0)

theorem inRuns_iff {runs : List Text.Run} {c : Char} : Text.inRuns runs c = true ↔
    ∃ run ∈ runs, run.first ≤ c.toNat ∧ c.toNat ≤ run.last
      ∧ (c.toNat - run.first) % run.step = 0 := by
  simp [Text.inRuns, Text.Run.contains, and_assoc]

/-- What is not above an ASCII character is ASCII. -/
theorem toNat_lt_of_le {c d : Char} (hd : d.toNat < 128) (h : c ≤ d) : c.toNat < 128 :=
  Nat.lt_of_le_of_lt h hd

/-- The characters that are taken for those of a name. -/
theorem isNameChar_iff {c : Char} : isNameChar c = true ↔ NameChar c := by
  have hlower (h : c ≤ 'z') : c.toNat < 128 := toNat_lt_of_le (by decide) h
  have hupper (h : c ≤ 'Z') : c.toNat < 128 := toNat_lt_of_le (by decide) h
  have hdigit (h : c ≤ '9') : c.toNat < 128 := toNat_lt_of_le (by decide) h
  by_cases hascii : c.toNat < 128
  · have hbeyond : ¬ 128 ≤ c.toNat := Nat.not_le.2 hascii
    simp only [isNameChar, Text.isAlphanumeric, Text.isAscii, hascii, decide_true, if_true,
      Text.isAsciiLetter, Text.isAsciiLower, Text.isAsciiUpper, Text.isAsciiDigit,
      Bool.or_eq_true, Bool.and_eq_true, decide_eq_true_eq, beq_iff_eq, NameChar, hbeyond,
      false_and, or_false, or_assoc]
  · have hlow : c ≠ '_' := by
      rintro rfl
      exact hascii (by decide)
    simp only [isNameChar, Text.isAlphanumeric, Text.isAscii, hascii, decide_false,
      Bool.false_eq_true, if_false, Bool.or_eq_true, inRuns_iff, beq_iff_eq, hlow, or_false,
      NameChar, List.mem_append, or_and_right, exists_or, Nat.not_lt.1 hascii, true_and,
      mt hlower hascii, mt hupper hascii, mt hdigit hascii, and_false, false_or]

instance : DecidablePred NameChar := fun _ => decidable_of_iff _ isNameChar_iff

theorem isNameChar_eq_false {c : Char} (h : ¬ NameChar c) : isNameChar c = false :=
  Bool.eq_false_iff.2 (mt isNameChar_iff.1 h)

/-! ## Fragments -/

/-- What a template is made of. -/
inductive Fragment where
  /-- Plain text. -/
  | literal (text : String) (plain : '$' ∉ text.toList)
  /-- A variable in braces, which may have any name that does not close them. -/
  | braced (name : String) (unclosed : '\x7d' ∉ name.toList)
  /-- A variable without braces. -/
  | bare (name : String) (nonempty : name ≠ "") (chars : name.toList.all (NameChar ·) = true)
  /-- A dollar sign that stands for itself. -/
  | dollar

namespace Fragment

/-- The text of a fragment in a template. -/
def chars : Fragment → List Char
  | literal text _ => text.toList
  | braced name _ => '$' :: '\x7b' :: (name.toList ++ ['\x7d'])
  | bare name _ _ => '$' :: name.toList
  | dollar => ['$']

/-- The variable that a fragment refers to. -/
def refersTo? : Fragment → Option String
  | braced name _ | bare name _ _ => some name
  | literal _ _ | dollar => none

/-- What a fragment stands for where its variable is set. -/
def value (env : Environment) : Fragment → String
  | literal text _ => text
  | braced name _ | bare name _ _ => (env name).getD ""
  | dollar => "$"

/-- The pieces that a fragment is read as. -/
def pieces : Fragment → List Piece
  | literal text _ => text.toList.map .text
  | braced name _ | bare name _ _ => [.reference name.toList]
  | dollar => [.text '$']

/-- A fragment does not run into the text that follows it. -/
def EndsBefore (rest : List Char) : Fragment → Prop
  | literal _ _ | braced _ _ => True
  | bare _ _ _ => rest.head?.all (¬ NameChar ·) = true
  | dollar => rest.head?.all (fun c => c ≠ '\x7b' ∧ ¬ NameChar c) = true

instance (rest : List Char) : (f : Fragment) → Decidable (f.EndsBefore rest)
  | literal _ _ | braced _ _ => instDecidableTrue
  | bare _ _ _ | dollar => inferInstanceAs (Decidable (_ = true))

end Fragment

/-- The characters of a template. -/
def printed (fragments : List Fragment) : List Char := fragments.flatMap Fragment.chars

/-- The text of a template. -/
def print (fragments : List Fragment) : String := String.ofList (printed fragments)

/-- No fragment runs into what follows it. -/
def Separate : List Fragment → Prop
  | [] => True
  | f :: rest => f.EndsBefore (printed rest) ∧ Separate rest

instance decidableSeparate : (fragments : List Fragment) → Decidable (Separate fragments)
  | [] => instDecidableTrue
  | _ :: rest =>
    have := decidableSeparate rest
    inferInstanceAs (Decidable (_ ∧ _))

/-- The variables of a template, from left to right. -/
def mentioned (fragments : List Fragment) : List String := fragments.filterMap Fragment.refersTo?

/-! ## Reading -/

theorem isNameChar_dollar : isNameChar '$' = false := by decide

/-- Plain text is read character by character. -/
theorem piecesFrom_plain {text : List Char} (h : '$' ∉ text) (rest : List Char) :
    piecesFrom .plain (text ++ rest) = text.map .text ++ piecesFrom .plain rest := by
  induction text with
  | nil => rfl
  | cons c text ih =>
    obtain ⟨hc, htext⟩ : '$' ≠ c ∧ '$' ∉ text := by simpa using h
    simp [piecesFrom, Reading.next, hc.symm, ih htext]

/-- A name in braces ends at the first brace that closes. -/
theorem piecesFrom_braced {name : List Char} (h : '\x7d' ∉ name) (seen rest : List Char) :
    piecesFrom (.braced seen) (name ++ '\x7d' :: rest)
      = .reference (seen.reverse ++ name) :: piecesFrom .plain rest := by
  induction name generalizing seen with
  | nil => simp [piecesFrom, Reading.next]
  | cons c name ih =>
    obtain ⟨hc, hname⟩ : '\x7d' ≠ c ∧ '\x7d' ∉ name := by simpa using h
    simp [piecesFrom, Reading.next, hc.symm, ih hname]

/-- A bare name ends where no character of a name follows. -/
theorem piecesFrom_bare {name rest : List Char} (h : name.all (NameChar ·) = true)
    (hrest : rest.head?.all (¬ NameChar ·) = true) (seen : List Char) :
    piecesFrom (.bare seen) (name ++ rest)
      = .reference (seen.reverse ++ name) :: piecesFrom .plain rest := by
  induction name generalizing seen with
  | nil =>
    cases rest with
    | nil => simp [piecesFrom, Reading.finish]
    | cons c rest =>
      have hc := isNameChar_eq_false (of_decide_eq_true hrest)
      by_cases hdollar : c = '$'
      · simp [piecesFrom, Reading.next, hdollar, isNameChar_dollar]
      · simp [piecesFrom, Reading.next, hc, hdollar]
  | cons c name ih =>
    rw [List.all_cons, Bool.and_eq_true, decide_eq_true_eq] at h
    simp [piecesFrom, Reading.next, isNameChar_iff.2 h.1, ih h.2]

/-- A dollar sign stands for itself where neither a brace nor a name follows. -/
theorem piecesFrom_dollar {rest : List Char}
    (h : rest.head?.all (fun c => c ≠ '\x7b' ∧ ¬ NameChar c) = true) :
    piecesFrom .dollar rest = .text '$' :: piecesFrom .plain rest := by
  cases rest with
  | nil => rfl
  | cons c rest =>
    obtain ⟨hbrace, hname⟩ := of_decide_eq_true h
    by_cases hdollar : c = '$'
    · simp [piecesFrom, Reading.next, hdollar, isNameChar_dollar]
    · simp [piecesFrom, Reading.next, hbrace, isNameChar_eq_false hname, hdollar]

/-- A fragment is read back, and reading goes on behind it. -/
theorem piecesFrom_fragment {f : Fragment} {rest : List Char} (h : f.EndsBefore rest) :
    piecesFrom .plain (f.chars ++ rest) = f.pieces ++ piecesFrom .plain rest := by
  have hopen (cs : List Char) : piecesFrom .plain ('$' :: cs) = piecesFrom .dollar cs := by
    simp [piecesFrom, Reading.next]
  cases f with
  | literal text plain => exact piecesFrom_plain plain rest
  | braced name unclosed =>
    have hbrace (cs : List Char) :
        piecesFrom .dollar ('\x7b' :: cs) = piecesFrom (.braced []) cs := by
      simp [piecesFrom, Reading.next]
    simp only [Fragment.chars, Fragment.pieces, List.cons_append, List.append_assoc,
      List.nil_append, hopen, hbrace, piecesFrom_braced unclosed, List.reverse_nil]
  | bare name nonempty chars =>
    -- the first character of the name decides that it is one
    cases hname : name.toList with
    | nil => exact absurd (String.toList_eq_nil_iff.1 hname) nonempty
    | cons c cs =>
      rw [hname, List.all_cons, Bool.and_eq_true, decide_eq_true_eq] at chars
      obtain ⟨hc, hcs⟩ := chars
      have hbrace : c ≠ '\x7b' := by
        rintro rfl
        exact absurd hc (by decide)
      have hstart : piecesFrom .dollar (c :: (cs ++ rest))
          = piecesFrom (.bare [c]) (cs ++ rest) := by
        simp [piecesFrom, Reading.next, hbrace, isNameChar_iff.2 hc]
      simp only [Fragment.chars, Fragment.pieces, hname, List.cons_append, hopen, hstart,
        piecesFrom_bare hcs h, List.reverse_singleton, List.nil_append]
  | dollar =>
    simp only [Fragment.chars, Fragment.pieces, List.cons_append, List.nil_append, hopen,
      piecesFrom_dollar h]

/-- A template is read as its fragments. -/
theorem piecesFrom_printed {fragments : List Fragment} (h : Separate fragments) :
    piecesFrom .plain (printed fragments) = fragments.flatMap Fragment.pieces := by
  induction fragments with
  | nil => rfl
  | cons f rest ih =>
    obtain ⟨hend, hrest⟩ := h
    have hprinted : printed (f :: rest) = f.chars ++ printed rest := by simp [printed]
    rw [hprinted, piecesFrom_fragment hend, ih hrest, List.flatMap_cons]

/-! ## Putting in values -/

theorem fill_text (env : Environment) (text : List Char) (rest : List Piece) :
    fill env (text.map .text ++ rest) = (fill env rest).map (text ++ ·) := by
  induction text with
  | nil => cases h : fill env rest <;> simp [h, Except.map]
  | cons c text ih =>
    cases h : fill env rest <;> simp [fill, ih, h, Except.map]

theorem fill_reference {env : Environment} {name value : String} (h : env name = some value)
    (rest : List Piece) :
    fill env (.reference name.toList :: rest) = (fill env rest).map (value.toList ++ ·) := by
  simp [fill, h]

theorem fill_reference_of_unset {env : Environment} {name : String} (h : env name = none)
    (rest : List Piece) : fill env (.reference name.toList :: rest) = .error name := by
  simp [fill, h]

/-- Where its variable is set, a fragment is filled with what it stands for. -/
theorem fill_fragment {env : Environment} {f : Fragment}
    (h : ∀ name, f.refersTo? = some name → (env name).isSome) (rest : List Piece) :
    fill env (f.pieces ++ rest) = (fill env rest).map ((f.value env).toList ++ ·) := by
  have hset (name : String) (hname : f.refersTo? = some name) :
      env name = some ((env name).getD "") := by
    obtain ⟨value, hvalue⟩ := Option.isSome_iff_exists.1 (h name hname)
    simp [hvalue]
  cases f with
  | literal text plain => exact fill_text env text.toList rest
  | braced name unclosed => exact fill_reference (hset name rfl) rest
  | bare name nonempty chars => exact fill_reference (hset name rfl) rest
  | dollar => simpa [Fragment.pieces, Fragment.value] using fill_text env ['$'] rest

theorem fill_fragment_of_unset {env : Environment} {f : Fragment} {name : String}
    (hname : f.refersTo? = some name) (h : env name = none) (rest : List Piece) :
    fill env (f.pieces ++ rest) = .error name := by
  cases f with
  | literal text plain => cases hname
  | braced name unclosed =>
    cases hname
    exact fill_reference_of_unset h rest
  | bare name nonempty chars =>
    cases hname
    exact fill_reference_of_unset h rest
  | dollar => cases hname

/-- Where all variables are set, each fragment is filled with what it stands for. -/
theorem fill_of_set {env : Environment} {fragments : List Fragment}
    (h : ∀ name ∈ mentioned fragments, (env name).isSome) :
    fill env (fragments.flatMap Fragment.pieces)
      = .ok (fragments.flatMap fun f => (f.value env).toList) := by
  induction fragments with
  | nil => rfl
  | cons f rest ih =>
    have hf : ∀ name, f.refersTo? = some name → (env name).isSome := by
      intro name hname
      exact h name (List.mem_filterMap.2 ⟨f, List.mem_cons_self, hname⟩)
    have hrest : ∀ name ∈ mentioned rest, (env name).isSome := by
      intro name hname
      obtain ⟨g, hg, hvariable⟩ := List.mem_filterMap.1 hname
      exact h name (List.mem_filterMap.2 ⟨g, List.mem_cons_of_mem _ hg, hvariable⟩)
    rw [List.flatMap_cons, fill_fragment hf, ih hrest, List.flatMap_cons]
    rfl

/-- The leftmost variable that is not set is reported. -/
theorem fill_of_unset {env : Environment} {fragments : List Fragment} {name : String}
    (h : (mentioned fragments).find? (fun n => (env n).isNone) = some name) :
    fill env (fragments.flatMap Fragment.pieces) = .error name := by
  induction fragments with
  | nil => cases h
  | cons f rest ih =>
    rw [List.flatMap_cons]
    cases hvariable : f.refersTo? with
    | none =>
      have hrest : (mentioned rest).find? (fun n => (env n).isNone) = some name := by
        simpa [mentioned, hvariable] using h
      rw [fill_fragment (by simp [hvariable]), ih hrest]
      rfl
    | some n =>
      have hmentioned : mentioned (f :: rest) = n :: mentioned rest := by
        simp [mentioned, hvariable]
      rw [hmentioned, List.find?_cons] at h
      cases hn : env n with
      | none =>
        obtain rfl : n = name := by simpa [hn] using h
        exact fill_fragment_of_unset hvariable hn _
      | some value =>
        have hrest : (mentioned rest).find? (fun n => (env n).isNone) = some name := by
          simpa [hn] using h
        rw [fill_fragment (by simp [hvariable, hn]), ih hrest]
        rfl

/-! ## Expansion -/

/-- A template whose fragments do not run into each other is expanded to what its fragments stand
for, one after the other, if all its variables are set. Values are put in as they are, whatever they
hold. Otherwise the leftmost variable that is not set is reported. -/
theorem expandSchema_print (env : Environment) {fragments : List Fragment}
    (h : Separate fragments) :
    ((∀ name ∈ mentioned fragments, (env name).isSome) →
      expandSchema env (print fragments) = .ok (String.join (fragments.map (·.value env))))
    ∧ ∀ name, (mentioned fragments).find? (fun n => (env n).isNone) = some name →
      expandSchema env (print fragments) = .error (.missingVariable name) := by
  have hpieces : pieces (print fragments) = fragments.flatMap Fragment.pieces := by
    rw [pieces, print, String.toList_ofList, piecesFrom_printed h]
  refine ⟨fun hset => ?_, fun name hname => ?_⟩
  · have hvalue : String.ofList (fragments.flatMap fun f => (f.value env).toList)
        = String.join (fragments.map (·.value env)) := by
      rw [← String.toList_inj, String.toList_ofList, String.toList_join, List.flatMap_map]
    rw [expandSchema, expand, hpieces, fill_of_set hset, ← hvalue]
    rfl
  · rw [expandSchema, expand, hpieces, fill_of_unset hname]
    rfl

namespace Adjacent

/-- One variable is set to a text that looks like another, which is set too. -/
def env : Environment := Environment.ofEntries [("x", "$a"), ("a", "1"), ("DB_Url2", "db")]

/-- Fragments without blanks between them. -/
def fragments : List Fragment := [
  .dollar, .bare "x" (by decide) (by decide), .braced "a" (by decide), .literal "b" (by decide),
  .bare "DB_Url2" (by decide) (by decide), .literal "-" (by decide),
  .bare "a" (by decide) (by decide), .literal "\x7b" (by decide),
  .bare "a" (by decide) (by decide), .bare "x" (by decide) (by decide), .dollar]

/-- The same with a variable behind them that is not set. -/
def unset : List Fragment := fragments ++ [.braced "b" (by decide), .braced "c" (by decide)]

end Adjacent

/-- Fragments that touch each other are told apart, a name has capitals, digits and a low line, a
value with a dollar sign is put in as it is, and of two variables that are not set the first is
reported. -/
theorem expandSchema_print_adjacent :
    Separate Adjacent.fragments ∧ Separate Adjacent.unset
    ∧ print Adjacent.fragments = "$$x$\x7ba\x7db$DB_Url2-$a\x7b$a$x$"
    ∧ expandSchema Adjacent.env (print Adjacent.fragments) = .ok "$$a1bdb-1\x7b1$a$"
    ∧ expandSchema Adjacent.env (print Adjacent.unset) = .error (.missingVariable "b") := by
  have hseparate : Separate Adjacent.fragments ∧ Separate Adjacent.unset := by decide +kernel
  have hset := (expandSchema_print Adjacent.env hseparate.1).1 (by decide +kernel)
  have hunset := (expandSchema_print Adjacent.env hseparate.2).2 "b" (by decide +kernel)
  have hvalue : String.join (Adjacent.fragments.map (·.value Adjacent.env))
      = "$$a1bdb-1\x7b1$a$" := by decide +kernel
  rw [hvalue] at hset
  exact ⟨hseparate.1, hseparate.2, by decide +kernel, hset, hunset⟩

end Schemata.Settings
