import Schemata.Sql.Quote
import Mathlib.Data.List.Basic

/-!
# Reading names and values back

How the database reads a name or a value at the beginning of a text. After an opening quote it reads
up to the first quote that is not followed by another one, and takes two quotes for one; a name
without a quote is as long a run of the characters of bare names as there is. What was quoted is
read back whatever it consists of, and reading stops exactly where it ends. That holds in front of
every text that does not go on as the name or the value itself could.

## Main definitions

* `readQuoted`: the rest of a quoted text, after the opening quote.
* `continuesName`: the characters of names without quotes.
* `readName`, `readLiteral`: a name and a value at the beginning of a text.

## Main statements

* `readQuoted_doubled`: the quote that ends a text is the first that is not written twice.
* `isBareChar_eq`, `isBare_iff`: which characters and which names are written bare.
* `read_quoted`: names and values are read back, and bare names are none that have to be quoted.
-/

namespace Schemata.Sql

/-! ## Readers -/

/-- The text up to the first quote that is not followed by another, with two quotes read as one, and
what comes after it. Nothing is read where no such quote comes. -/
def readQuoted (quote : Char) : List Char → Option (List Char × List Char)
  | [] => none
  | [c] => if c = quote then some ([], []) else none
  | c :: d :: rest =>
    if c = quote then
      if d = quote then (readQuoted quote rest).map fun x => (quote :: x.1, x.2)
      else some ([], d :: rest)
    else (readQuoted quote (d :: rest)).map fun x => (c :: x.1, x.2)

/-- The characters of names without quotes: small letters, digits and the low line. -/
def continuesName (c : Char) : Bool := ('a' ≤ c && c ≤ 'z') || ('0' ≤ c && c ≤ '9') || c == '_'

/-- A name at the beginning of a text, and what comes after it. -/
def readName (text : List Char) : Option (String × List Char) :=
  if text.head? = some doubleQuote then
    (readQuoted doubleQuote text.tail).map fun x => (String.ofList x.1, x.2)
  else some (String.ofList (text.takeWhile continuesName), text.dropWhile continuesName)

/-- A value at the beginning of a text, and what comes after it. -/
def readLiteral (text : List Char) : Option (String × List Char) :=
  if text.head? = some singleQuote then
    (readQuoted singleQuote text.tail).map fun x => (String.ofList x.1, x.2)
  else none

/-! ## Quoted texts -/

theorem readQuoted_cons_of_ne {q c : Char} (h : c ≠ q) (rest : List Char) :
    readQuoted q (c :: rest) = (readQuoted q rest).map fun x => (c :: x.1, x.2) := by
  cases rest with
  | nil => simp [readQuoted, h]
  | cons d rest => simp [readQuoted, h]

theorem readQuoted_quote {q : Char} {r : List Char} (h : r.head? ≠ some q) :
    readQuoted q (q :: r) = some ([], r) := by
  cases r with
  | nil => simp [readQuoted]
  | cons d rest =>
    have hd : d ≠ q := by simpa using h
    simp [readQuoted, hd]

/-- The quote that ends a text is the first that is not written twice. -/
theorem readQuoted_doubled {q : Char} {r : List Char} (h : r.head? ≠ some q) (cs : List Char) :
    readQuoted q (doubled q cs ++ q :: r) = some (cs, r) := by
  induction cs with
  | nil => exact readQuoted_quote h
  | cons c cs ih =>
    by_cases hc : c = q
    · simp [doubled, hc, readQuoted, ih]
    · simp [doubled, hc, readQuoted_cons_of_ne hc, ih]

theorem quoted_append (q : Char) (cs r : List Char) :
    quoted q cs ++ r = q :: (doubled q cs ++ q :: r) := by
  simp [quoted]

/-- A value is read back in front of everything but a quote. -/
theorem readLiteral_quoteLiteral (value : String) {r : List Char}
    (h : r.head? ≠ some singleQuote) :
    readLiteral (quoteLiteral value ++ r) = some (value, r) := by
  rw [quoteLiteral, quoted_append, readLiteral, List.head?_cons, if_pos rfl, List.tail_cons,
    readQuoted_doubled h, Option.map_some, String.ofList_toList]

/-! ## Bare names -/

/-- Which characters may stand in a bare name. -/
theorem isBareChar_eq (c : Char) : isBareChar c = continuesName c := rfl

/-- The names that are written bare. -/
theorem isBare_iff {cs : List Char} : isBare cs = true ↔
    cs ≠ [] ∧ (∀ c ∈ cs, continuesName c = true) ∧ (∀ c ∈ cs.head?, ¬ ('0' ≤ c ∧ c ≤ '9'))
      ∧ String.ofList cs ∉ reserved := by
  cases cs with
  | nil => simp [isBare]
  | cons c rest =>
    have hdigit : Text.isAsciiDigit c = false ↔ ¬ ('0' ≤ c ∧ c ≤ '9') := by
      simp [Text.isAsciiDigit]
    simp [isBare, isBareChar_eq, hdigit, and_assoc]

/-- No bare name begins with a quote. -/
theorem head?_ne_doubleQuote {cs : List Char} (h : ∀ c ∈ cs, continuesName c = true)
    (r : List Char) (hne : cs ≠ []) : (cs ++ r).head? ≠ some doubleQuote := by
  obtain ⟨c, rest, rfl⟩ := List.exists_cons_of_ne_nil hne
  have hc := h c List.mem_cons_self
  rintro heq
  rw [List.cons_append, List.head?_cons, Option.some.injEq] at heq
  rw [heq] at hc
  exact absurd hc (by decide)

/-- A name is read back in front of everything but a quote or a character of bare names. -/
theorem readName_quoteIdentifier (name : String) {r : List Char}
    (hquote : r.head? ≠ some doubleQuote) (hbare : ∀ c ∈ r.head?, continuesName c = false) :
    readName (quoteIdentifier name ++ r) = some (name, r) := by
  unfold quoteIdentifier readName
  split
  · rename_i hname
    obtain ⟨hne, hchars, -⟩ := isBare_iff.1 hname
    have hstop : r.takeWhile continuesName = [] ∧ r.dropWhile continuesName = r := by
      cases r with
      | nil => exact ⟨rfl, rfl⟩
      | cons c rest => simp [hbare c rfl]
    rw [if_neg (head?_ne_doubleQuote hchars r hne), List.takeWhile_append_of_pos hchars,
      List.dropWhile_append_of_pos hchars, hstop.1, hstop.2, List.append_nil, String.ofList_toList]
  · rw [quoted_append, List.head?_cons, if_pos rfl, List.tail_cons, readQuoted_doubled hquote,
      Option.map_some, String.ofList_toList]

/-- Quotes are left out exactly for names made of small letters, digits and low lines that begin
with no digit and are no reserved words. -/
theorem head?_quoteIdentifier_ne_iff (name : String) :
    (quoteIdentifier name).head? ≠ some doubleQuote ↔
      name ≠ "" ∧ (∀ c ∈ name.toList, continuesName c = true)
        ∧ (∀ c ∈ name.toList.head?, ¬ ('0' ≤ c ∧ c ≤ '9')) ∧ name ∉ reserved := by
  have hiff := @isBare_iff name.toList
  rw [String.ofList_toList, ne_eq, String.toList_eq_nil_iff] at hiff
  rw [← hiff]
  unfold quoteIdentifier
  split
  · rename_i hname
    obtain ⟨hne, hchars, -⟩ := isBare_iff.1 hname
    have hhead := head?_ne_doubleQuote hchars [] hne
    rw [List.append_nil] at hhead
    simp [hname, hhead]
  · rename_i hname
    simp [hname, quoted]

/-! ## Both together -/

/-- What is quoted is read back, in front of every text that goes on with no character that would
belong to it. A name stands without quotes only if it is not empty, begins with no digit and is no
reserved word. -/
theorem read_quoted :
    (∀ (name : String) (r : List Char), r.head? ≠ some doubleQuote →
      (∀ c ∈ r.head?, continuesName c = false) →
      readName (quoteIdentifier name ++ r) = some (name, r))
    ∧ (∀ name : String, (quoteIdentifier name).head? ≠ some doubleQuote ↔
      name ≠ "" ∧ (∀ c ∈ name.toList, continuesName c = true)
        ∧ (∀ c ∈ name.toList.head?, ¬ ('0' ≤ c ∧ c ≤ '9')) ∧ name ∉ reserved)
    ∧ ∀ (value : String) (r : List Char), r.head? ≠ some singleQuote →
      readLiteral (quoteLiteral value ++ r) = some (value, r) :=
  ⟨fun name _ hquote hbare => readName_quoteIdentifier name hquote hbare,
    head?_quoteIdentifier_ne_iff, fun value _ h => readLiteral_quoteLiteral value h⟩

/-- A name made of quotes, a reserved word and a bare name before a dot; a value that ends in a
quote before a parenthesis. -/
theorem read_quoted_quotes :
    readName (quoteIdentifier "\"\"" ++ ['.', 'x']) = some ("\"\"", ['.', 'x'])
    ∧ readName (quoteIdentifier "user" ++ ['.', 'x']) = some ("user", ['.', 'x'])
    ∧ readName (quoteIdentifier "users" ++ ['.', 'x']) = some ("users", ['.', 'x'])
    ∧ (quoteIdentifier "user").head? = some doubleQuote
    ∧ readLiteral (quoteLiteral "it's '" ++ [')', ';']) = some ("it's '", [')', ';']) := by
  obtain ⟨hnames, hbare, hvalues⟩ := read_quoted
  have huser : ¬(quoteIdentifier "user").head? ≠ some doubleQuote := by
    intro hne
    obtain ⟨-, -, -, hfree⟩ := (hbare "user").1 hne
    exact absurd hfree (by decide)
  have hdot : ∀ c ∈ ['.', 'x'].head?, continuesName c = false := by
    intro c hc
    obtain rfl : '.' = c := by simpa using hc
    decide
  exact ⟨hnames _ _ (by decide) hdot, hnames _ _ (by decide) hdot, hnames _ _ (by decide) hdot,
    not_not.1 huser, hvalues _ _ (by decide)⟩

end Schemata.Sql
