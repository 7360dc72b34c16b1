import Schemata.Sql.Token
import Schemata.Proofs.Rendering.Lexing
import Mathlib.Data.List.Basic
import Mathlib.Logic.Function.Basic

/-!
# Legible texts

A statement is one text, made of names, values and words without any mark between them but those
that they bring along. It can be taken apart again when each of its parts shows where it ends. A
name or a value does so in front of a blank or a mark, since it can be read back there. What is put
together from parts that show their ends, with every choice told apart by how it begins, shows its
own.

## Main definitions

* `Legible`: values whose texts show which value they stand for and where they end.
* `Begins`: what a text may go on with.

## Main statements

* `Legible.append`, `Legible.option`, `Legible.flatMap`, `Legible.intercalate`: sequences, choices
  and lists of legible parts are legible.
* `legible_quoteIdentifier`, `legible_quoteLiteral`: names and values are legible.
* `legible_nameList`: so are lists of names.
-/

namespace Schemata.Sql

variable {α β : Type}

/-! ## Parts of a text -/

/-- A text that begins with a value written by `f`, and goes on as `P` allows, tells which value it
is and where it ends. -/
def Legible (P : List Char → Prop) (f : α → List Char) : Prop :=
  ∀ ⦃a b : α⦄ ⦃r s : List Char⦄, P r → P s → f a ++ r = f b ++ s → a = b ∧ r = s

/-- A text begins with one of the given ones. -/
def Begins (starts : List String) (r : List Char) : Prop := ∃ p ∈ starts, p.toList <+: r

instance (starts : List String) (r : List Char) : Decidable (Begins starts r) :=
  inferInstanceAs (Decidable (∃ p ∈ starts, p.toList <+: r))

theorem Begins.append {starts : List String} {cs : List Char} (h : Begins starts cs)
    (r : List Char) : Begins starts (cs ++ r) := by
  obtain ⟨p, hp, hpre⟩ := h
  exact ⟨p, hp, hpre.trans (List.prefix_append cs r)⟩

theorem Begins.mono {starts starts' : List String} {r : List Char} (h : Begins starts r)
    (hsub : ∀ p ∈ starts, Begins starts' p.toList) : Begins starts' r := by
  obtain ⟨p, hp, t, rfl⟩ := h
  exact (hsub p hp).append t

theorem begins_words (words : String) (r : List Char) : Begins [words] (words.toList ++ r) :=
  ⟨words, List.mem_singleton_self words, List.prefix_append _ r⟩

/-- No word of one list begins a word of the other. -/
abbrev Apart (starts starts' : List String) : Prop :=
  ∀ p ∈ starts, ∀ q ∈ starts', ¬p.toList <+: q.toList ∧ ¬q.toList <+: p.toList

/-- Texts differ when they begin with words of which neither begins the other. -/
theorem Begins.ne {starts starts' : List String} {r s : List Char} (hr : Begins starts r)
    (hs : Begins starts' s) (h : Apart starts starts') : r ≠ s := by
  rintro rfl
  obtain ⟨p, hp, hpre⟩ := hr
  obtain ⟨q, hq, hqre⟩ := hs
  rcases List.prefix_or_prefix_of_prefix hpre hqre with hleft | hright
  · exact (h p hp q hq).1 hleft
  · exact (h p hp q hq).2 hright

namespace Legible

variable {P Q : List Char → Prop} {f : α → List Char} {g : β → List Char}

theorem mono (hf : Legible Q f) (h : ∀ r, P r → Q r) : Legible P f :=
  fun _ _ _ _ hr hs heq => hf (h _ hr) (h _ hs) heq

/-- What can be read back is legible. -/
theorem of_read (read : List Char → Option (α × List Char))
    (h : ∀ a r, P r → read (f a ++ r) = some (a, r)) : Legible P f := by
  intro a b r s hr hs heq
  have hread := h a r hr
  rw [heq, h b s hs] at hread
  exact ⟨(Prod.mk.inj (Option.some.inj hread)).1.symm, (Prod.mk.inj (Option.some.inj hread)).2.symm⟩

/-- A text that says the same in other words is as legible. -/
theorem of_eq (hf : Legible P f) (v : β → α) (hv : v.Injective) (h : ∀ b, g b = f (v b)) :
    Legible P g := by
  intro a b r s hr hs heq
  rw [h, h] at heq
  obtain ⟨hab, hrest⟩ := hf hr hs heq
  exact ⟨hv hab, hrest⟩

/-- Words in front do not matter. -/
theorem after (hf : Legible P f) (words : String) :
    Legible P fun a => words.toList ++ f a := by
  intro a b r s hr hs heq
  rw [List.append_assoc, List.append_assoc] at heq
  exact hf hr hs (List.append_cancel_left heq)

/-- Words behind may show where a text ends. -/
theorem before (hf : Legible Q f) (words : String) (h : ∀ r, P r → Q (words.toList ++ r)) :
    Legible P fun a => f a ++ words.toList := by
  intro a b r s hr hs heq
  rw [List.append_assoc, List.append_assoc] at heq
  obtain ⟨rfl, hrest⟩ := hf (h r hr) (h s hs) heq
  exact ⟨rfl, List.append_cancel_left hrest⟩

/-- One part after the other. -/
theorem append (hf : Legible Q f) (hg : Legible P g) (h : ∀ b r, P r → Q (g b ++ r)) :
    Legible P fun x : α × β => f x.1 ++ g x.2 := by
  rintro ⟨a, b⟩ ⟨a', b'⟩ r s hr hs heq
  simp only [List.append_assoc] at heq
  obtain ⟨rfl, htail⟩ := hf (h b r hr) (h b' s hs) heq
  obtain ⟨rfl, hrest⟩ := hg hr hs htail
  exact ⟨rfl, hrest⟩

/-- One part after the other, with words in between that show where the first ends. -/
theorem followedBy {ends : List String} (hf : Legible (Begins ends) f) (words : String)
    (hg : Legible P g) (h : Begins ends words.toList) :
    Legible P fun x : α × β => f x.1 ++ (words.toList ++ g x.2) :=
  hf.append (hg.after words) fun _ r _ => (h.append _).append r

/-- Words that stand there or do not. -/
theorem flag (words : String) (h : ∀ r s, P r → r ≠ words.toList ++ s) :
    Legible P fun b : Bool => if b then words.toList else [] := by
  rintro (_ | _) (_ | _) r s hr hs heq
  · exact ⟨rfl, heq⟩
  · exact absurd heq (h r s hr)
  · exact absurd heq.symm (h s r hs)
  · exact ⟨rfl, List.append_cancel_left heq⟩

/-- A part that stands there or does not. -/
theorem option (hf : Legible P f) (h : ∀ a r s, P r → r ≠ f a ++ s) :
    Legible P fun o : Option α => o.elim [] f := by
  rintro (_ | a) (_ | b) r s hr hs heq
  · exact ⟨rfl, heq⟩
  · exact absurd heq (h b r s hr)
  · exact absurd heq.symm (h a s r hs)
  · obtain ⟨rfl, hrest⟩ := hf hr hs heq
    exact ⟨rfl, hrest⟩

/-- A part after words of its own that stands there or does not. -/
theorem optional {ends : List String} (hf : Legible (Begins ends) f) (words : String)
    (h : Apart ends [words]) :
    Legible (Begins ends) fun o : Option α => o.elim [] fun a => words.toList ++ f a :=
  (hf.after words).option fun _ _ s hr => hr.ne ((begins_words words _).append s) h

/-- Parts one after the other, when what follows them begins as none of them does. -/
theorem flatMap (hf : Legible Q f) (hitem : ∀ a r, Q (f a ++ r)) (hend : ∀ r, P r → Q r)
    (h : ∀ a r s, P r → r ≠ f a ++ s) : Legible P fun as : List α => as.flatMap f := by
  have hrest (as : List α) {r : List Char} (hr : P r) : Q (as.flatMap f ++ r) := by
    cases as with
    | nil => exact hend r hr
    | cons a as => simpa using hitem a _
  intro as
  induction as with
  | nil =>
    rintro (_ | ⟨b, bs⟩) r s hr hs heq
    · exact ⟨rfl, heq⟩
    · exact absurd (by simpa using heq) (h b r (bs.flatMap f ++ s) hr)
  | cons a as ih =>
    rintro (_ | ⟨b, bs⟩) r s hr hs heq
    · exact absurd (by simpa using heq.symm) (h a s (as.flatMap f ++ r) hs)
    · simp only [List.flatMap_cons, List.append_assoc] at heq
      obtain ⟨rfl, htail⟩ := hf (hrest as hr) (hrest bs hs) heq
      obtain ⟨rfl, hsame⟩ := ih hr hs htail
      exact ⟨rfl, hsame⟩

end Legible

theorem intercalate_cons (sep x : List α) (xs : List (List α)) :
    sep.intercalate (x :: xs) = x ++ xs.flatMap (sep ++ ·) := by
  induction xs generalizing x with
  | nil => simp
  | cons y ys ih => simp [List.intercalate_cons_cons, ih]

/-- Parts with a separator between them, when what follows them begins neither as a separator nor as
a part. -/
theorem Legible.intercalate {P Q : List Char → Prop} {f : α → List Char} {sep : List Char}
    (hf : Legible Q f) (hsep : ∀ r, Q (sep ++ r)) (hend : ∀ r, P r → Q r)
    (hmore : ∀ r s, P r → r ≠ sep ++ s) (h : ∀ a r s, P r → r ≠ f a ++ s) :
    Legible P fun as : List α => sep.intercalate (as.map f) := by
  have hparts : Legible P fun as : List α => as.flatMap (sep ++ f ·) := by
    refine Legible.flatMap (Q := Q) ?_ (fun a r => ?_) hend fun a r s hr => ?_
    · intro a b r s hr hs heq
      simp only [List.append_assoc] at heq
      exact hf hr hs (List.append_cancel_left heq)
    · rw [List.append_assoc]
      exact hsep _
    · rw [List.append_assoc]
      exact hmore r _ hr
  have hrest (as : List α) {r : List Char} (hr : P r) : Q (as.flatMap (sep ++ f ·) ++ r) := by
    cases as with
    | nil => exact hend r hr
    | cons a as => simpa using hsep _
  rintro (_ | ⟨a, as⟩) (_ | ⟨b, bs⟩) r s hr hs heq
  · exact ⟨rfl, heq⟩
  · simp only [List.map_cons, intercalate_cons, List.append_assoc] at heq
    exact absurd heq (h b r _ hr)
  · simp only [List.map_cons, intercalate_cons, List.append_assoc] at heq
    exact absurd heq.symm (h a s _ hs)
  · simp only [List.map_cons, intercalate_cons, List.append_assoc, List.flatMap_map] at heq
    obtain ⟨rfl, htail⟩ := hf (hrest as hr) (hrest bs hs) heq
    obtain ⟨rfl, hsame⟩ := hparts hr hs htail
    exact ⟨rfl, hsame⟩

/-- Words of which none begins another need nothing to show their ends. -/
theorem legible_words {P : List Char → Prop} {f : α → List Char}
    (h : ∀ a b, f a <+: f b → a = b) : Legible P f := by
  intro a b r s _ _ heq
  have hab : a = b := by
    rcases List.prefix_or_prefix_of_prefix (List.prefix_append (f a) r)
        (heq ▸ List.prefix_append (f b) s) with hpre | hpre
    · exact h a b hpre
    · exact (h b a hpre).symm
  subst hab
  exact ⟨rfl, List.append_cancel_left heq⟩

/-! ## Names and values -/

/-- What stands next to a name or a value. -/
def marks : List String := [" ", ",", ".", "(", ")", ";", "\n"]

/-- A mark is neither a quote nor a character of bare names. -/
theorem Begins.exists_mark {r : List Char} (h : Begins marks r) :
    ∃ c t, r = c :: t ∧ continuesName c = false ∧ c ≠ doubleQuote ∧ c ≠ singleQuote := by
  obtain ⟨p, hp, t, rfl⟩ := h
  have hmarks : ∀ p ∈ marks, ∃ c, p.toList = [c] ∧ continuesName c = false ∧ c ≠ doubleQuote
      ∧ c ≠ singleQuote := by
    simp only [marks, List.forall_mem_cons, List.not_mem_nil, false_implies, implies_true, and_true]
    refine ⟨⟨' ', ?_⟩, ⟨',', ?_⟩, ⟨'.', ?_⟩, ⟨'(', ?_⟩, ⟨')', ?_⟩, ⟨';', ?_⟩, ⟨'\n', ?_⟩⟩ <;> decide
  obtain ⟨c, hc, hmark⟩ := hmarks p hp
  exact ⟨c, t, by rw [hc]; rfl, hmark⟩

/-- A name begins with a quote or a character of bare names. -/
theorem quoteIdentifier_cons (name : String) : ∃ c t, quoteIdentifier name = c :: t
    ∧ (c = doubleQuote ∨ continuesName c = true) := by
  unfold quoteIdentifier
  split
  · rename_i hbare
    obtain ⟨hne, hchars, -⟩ := isBare_iff.1 hbare
    obtain ⟨c, t, hname⟩ := List.exists_cons_of_ne_nil hne
    exact ⟨c, t, hname, .inr (hchars c (hname ▸ List.mem_cons_self))⟩
  · exact ⟨doubleQuote, _, rfl, .inl rfl⟩

/-- A text that begins with a name does not begin with a mark or a capital. -/
theorem Begins.ne_name {starts : List String} {name : String} {r s : List Char}
    (hs : Begins starts s) (hr : quoteIdentifier name <+: r)
    (h : ∀ p ∈ starts, p.toList.head?.any (fun c => !continuesName c && c != doubleQuote) = true) :
    s ≠ r := by
  rintro rfl
  obtain ⟨c, t, hname, hc⟩ := quoteIdentifier_cons name
  obtain ⟨p, hp, hpre⟩ := hs
  have hfirst := h p hp
  rw [hname] at hr
  cases hchars : p.toList with
  | nil => simp [hchars] at hfirst
  | cons d ds =>
    rw [hchars] at hpre hfirst
    obtain ⟨u, hu⟩ := hpre
    obtain ⟨v, hv⟩ := hr
    obtain rfl : c = d := (List.cons.inj (hv.trans hu.symm)).1
    simp_all

theorem legible_quoteIdentifier : Legible (Begins marks) quoteIdentifier := by
  refine Legible.of_read readName fun name r hr => ?_
  obtain ⟨c, t, rfl, hbare, hquote, -⟩ := hr.exists_mark
  exact readName_quoteIdentifier name (by simpa using hquote) (by simpa using hbare)

theorem legible_quoteLiteral : Legible (Begins marks) quoteLiteral := by
  refine Legible.of_read readLiteral fun value r hr => ?_
  obtain ⟨c, t, rfl, -, -, hquote⟩ := hr.exists_mark
  exact readLiteral_quoteLiteral value (by simpa using hquote)

/-! ## Texts of tokens -/

@[simp] theorem renderChars_nil : renderChars [] = [] := rfl

@[simp] theorem renderChars_cons (t : Token) (ts : List Token) :
    renderChars (t :: ts) = t.chars ++ renderChars ts := rfl

@[simp] theorem renderChars_append (ts us : List Token) :
    renderChars (ts ++ us) = renderChars ts ++ renderChars us :=
  List.flatMap_append

@[simp] theorem renderChars_flatMap (f : α → List Token) (as : List α) :
    renderChars (as.flatMap f) = as.flatMap fun a => renderChars (f a) :=
  List.flatMap_assoc

/-- Every group but the first comes after a space. -/
@[simp] theorem renderChars_spaced (g : List Token) (gs : List (List Token)) :
    renderChars (spaced (g :: gs)) = renderChars g ++ gs.flatMap fun g => ' ' :: renderChars g := by
  simp [spaced, intercalate_cons, Token.chars]

theorem renderChars_intercalate (sep : List Token) (groups : List (List Token)) :
    renderChars (sep.intercalate groups)
      = (renderChars sep).intercalate (groups.map renderChars) := by
  cases groups with
  | nil => rfl
  | cons g gs => simp [intercalate_cons, List.flatMap_map]

theorem renderChars_lines (groups : List (List Token)) : renderChars (lines groups)
    = ",".toList.intercalate (groups.map fun g => "\n  ".toList ++ renderChars g) := by
  simp [lines, renderChars_intercalate, Token.chars, Function.comp_def, List.replicate]

/-- What follows a group on a line of its own, in a list of such lines. -/
def lineEnds : List String := [",", "\n"]

/-- Groups on lines of their own, when what follows them is on a line that is not indented. -/
theorem Legible.lines {f : α → List Char} (hf : Legible (Begins lineEnds) f) (stops : List String)
    (h : ∀ p ∈ stops, "\n".toList <+: p.toList ∧ ¬p.toList <+: "\n  ".toList
      ∧ ¬"\n  ".toList <+: p.toList) :
    Legible (Begins stops)
      fun as : List α => ",".toList.intercalate (as.map fun a => "\n  ".toList ++ f a) := by
  have hline {r : List Char} (hr : Begins stops r) : Begins ["\n"] r :=
    hr.mono fun p hp => ⟨"\n", List.mem_singleton_self _, (h p hp).1⟩
  refine (hf.after "\n  ").intercalate (fun r => .append (by decide) r)
    (fun r hr => (hline hr).mono (by decide))
    (fun r s hr => (hline hr).ne (begins_words _ s) (by decide)) fun a r s hr => ?_
  refine hr.ne ((begins_words "\n  " _).append s) fun p hp q hq => ?_
  rw [List.mem_singleton.1 hq]
  exact (h p hp).2

/-- Nothing need follow to show where a text ends. -/
abbrev anything : List Char → Prop := fun _ => True

/-- Parts in parentheses end with the parenthesis that follows no comma. -/
theorem Legible.parenthesized {f : α → List Token}
    (hf : Legible (Begins marks) fun a => renderChars (f a))
    (h : ∀ a r s, Begins [")"] r → r ≠ renderChars (f a) ++ s) :
    Legible anything fun as : List α => renderChars (parenthesized (as.map f)) := by
  have hparts : Legible (Begins [")"])
      fun as : List α => ", ".toList.intercalate (as.map fun a => renderChars (f a)) := by
    exact hf.intercalate (fun r => .append (by decide) r) (fun r hr => hr.mono (by decide))
      (fun _ s hr => hr.ne (begins_words _ s) (by decide)) h
  refine ((hparts.before ")" fun r _ => ?_).after "(").of_eq id Function.injective_id fun as => ?_
  · exact .append (by decide) r
  · simp [Sql.parenthesized, renderChars_intercalate, Token.chars, Function.comp_def]

theorem legible_nameList : Legible anything fun names => renderChars (nameList names) := by
  refine Legible.parenthesized (f := fun n => [Token.ident n]) ?_ fun n r s hr => ?_
  · simpa [Token.chars] using legible_quoteIdentifier
  · have hname : quoteIdentifier n <+: renderChars [Token.ident n] ++ s := by simp [Token.chars]
    exact hr.ne_name hname (by decide)

theorem legible_inSchema :
    Legible (Begins marks) fun x : String × String => renderChars (inSchema x.1 x.2) := by
  refine (legible_quoteIdentifier.followedBy "." legible_quoteIdentifier (by decide)).of_eq id
    Function.injective_id fun x => ?_
  simp [inSchema, Token.chars]

end Schemata.Sql
