import Schemata.NameMap
import Mathlib.Data.List.Nodup
import Mathlib.Data.List.Forall2
import Mathlib.Data.Option.Basic

/-!
# Look-ups in maps from names

What a map holds under a name, in terms of its entries and of the operations that made it. After
this module a map is only ever asked through `get?`, and gone through by its `entries`. Its listing
is not looked at any more: what look-ups find determines the entries.

## Main definitions

* `NameMap.Agree`: two maps hold related values under the same names.

## Main statements

* `sortByName_perm`, `pairwise_sortByName`: sorting moves entries, and leaves them in order.
* `mem_entries_iff`: the entries are exactly what look-ups find.
* `get?_insert`, `get?_erase_ne`, `get?_ofList`: look-ups after each operation.
* `Agree.forall₂_entries`: maps that agree are gone through in step, however they are listed.
-/

namespace Schemata

variable {α β : Type}

/-! ## Sorting by name -/

theorem placeByName_perm (entry : String × α) (l : List (String × α)) :
    (placeByName entry l).Perm (entry :: l) := by
  induction l with
  | nil => exact .refl _
  | cons e rest ih =>
    unfold placeByName
    split
    · exact (ih.cons e).trans (.swap entry e rest)
    · exact .refl _

/-- Sorting loses and adds nothing. -/
theorem sortByName_perm (l : List (String × α)) : (sortByName l).Perm l := by
  induction l with
  | nil => exact .refl _
  | cons entry rest ih => exact (placeByName_perm entry _).trans (ih.cons entry)

/-- An entry of a new name is put where names keep increasing. -/
theorem pairwise_placeByName {entry : String × α} {l : List (String × α)}
    (hl : l.Pairwise fun a b => a.1 < b.1) (hnew : ∀ e ∈ l, entry.1 ≠ e.1) :
    (placeByName entry l).Pairwise fun a b => a.1 < b.1 := by
  induction l with
  | nil => simp [placeByName]
  | cons e rest ih =>
    obtain ⟨he, hrest⟩ := List.pairwise_cons.1 hl
    obtain ⟨hne, hnew⟩ := List.forall_mem_cons.1 hnew
    unfold placeByName
    split
    · rename_i hlt
      refine List.pairwise_cons.2 ⟨fun x hx => ?_, ih hrest hnew⟩
      rcases List.mem_cons.1 ((placeByName_perm entry rest).mem_iff.1 hx) with rfl | hx
      · exact hlt
      · exact he x hx
    · rename_i hle
      have hlt : entry.1 < e.1 := Std.lt_of_le_of_ne (String.not_lt.1 hle) hne
      refine List.pairwise_cons.2 ⟨List.forall_mem_cons.2 ⟨hlt, fun x hx => ?_⟩, hl⟩
      exact String.lt_trans hlt (he x hx)

/-- Sorted, distinct names increase. -/
theorem pairwise_sortByName {l : List (String × α)} (h : l.Pairwise fun a b => a.1 ≠ b.1) :
    (sortByName l).Pairwise fun a b => a.1 < b.1 := by
  induction l with
  | nil => exact .nil
  | cons entry rest ih =>
    obtain ⟨hnew, hrest⟩ := List.pairwise_cons.1 h
    exact pairwise_placeByName (ih hrest) fun e he => hnew e ((sortByName_perm rest).mem_iff.1 he)

/-! ## Look-ups in lists of entries -/

/-- A look-up compares with the first name, or goes on. -/
theorem lookup_cons_eq (e : String × α) (l : List (String × α)) (key : String) :
    (e :: l).lookup key = if key = e.1 then some e.2 else l.lookup key := by
  rw [List.lookup_cons]
  by_cases h : key = e.1
  · rw [if_pos h, h, beq_self_eq_true]
  · rw [if_neg h, beq_false_of_ne h]

/-- Among distinct names an entry is found under its own. -/
theorem lookup_of_mem {l : List (String × α)} {name : String} {a : α}
    (hd : l.Pairwise fun a b => a.1 ≠ b.1) (h : (name, a) ∈ l) : l.lookup name = some a := by
  induction l with
  | nil => simp at h
  | cons e rest ih =>
    obtain ⟨hne, hrest⟩ := List.pairwise_cons.1 hd
    rcases List.mem_cons.1 h with rfl | h
    · exact List.lookup_cons_self
    · rw [lookup_cons_eq, if_neg (hne _ h).symm]
      exact ih hrest h

theorem mem_of_lookup {l : List (String × α)} {name : String} {a : α}
    (h : l.lookup name = some a) : (name, a) ∈ l := by
  obtain ⟨l₁, l₂, rfl, _⟩ := List.lookup_eq_some_iff.1 h
  simp

namespace NameMap

/-! ## The entries -/

/-- The entries are those that are listed. -/
theorem entries_perm (m : NameMap α) : m.entries.Perm m.listing := sortByName_perm m.listing

/-- The names of the entries increase. -/
theorem sorted (m : NameMap α) : m.entries.Pairwise fun a b => a.1 < b.1 :=
  pairwise_sortByName m.distinct

/-- The entries of a map are exactly what look-ups find. -/
theorem mem_entries_iff {m : NameMap α} {name : String} {a : α} :
    (name, a) ∈ m.entries ↔ m.get? name = some a :=
  m.entries_perm.mem_iff.trans ⟨lookup_of_mem m.distinct, mem_of_lookup⟩

/-- Names do not repeat. -/
theorem nodup_names (m : NameMap α) : m.names.Nodup := by
  refine List.pairwise_map.2 (m.sorted.imp fun hlt heq => ?_)
  exact String.lt_irrefl _ (heq ▸ hlt)

theorem mem_names_iff {m : NameMap α} {name : String} :
    name ∈ m.names ↔ ∃ a, m.get? name = some a := by
  simp only [names, List.mem_map, Prod.exists, exists_and_right, exists_eq_right,
    mem_entries_iff]

@[simp] theorem contains_iff {m : NameMap α} {name : String} :
    m.contains name = true ↔ ∃ a, m.get? name = some a := by
  simp [contains, Option.isSome_iff_exists]

/-- A map is empty where going through it meets nothing. -/
theorem isEmpty_eq (m : NameMap α) : m.isEmpty = m.entries.isEmpty := by
  rw [isEmpty, Bool.eq_iff_iff, List.isEmpty_iff, List.isEmpty_iff]
  exact ⟨fun h => (h ▸ m.entries_perm).eq_nil, fun h => (h ▸ m.entries_perm.symm).eq_nil⟩

theorem isEmpty_of_get? {m : NameMap α} {name : String} {a : α} (h : m.get? name = some a) :
    m.isEmpty = false := by
  have hmem := mem_entries_iff.2 h
  rw [isEmpty_eq, List.isEmpty_eq_false_iff]
  exact List.ne_nil_of_mem hmem

/-- Two lists of names in increasing order with the same members are one list. -/
theorem eq_of_mem_iff {l l' : List String} (hl : l.Pairwise (· < ·)) (hl' : l'.Pairwise (· < ·))
    (h : ∀ name, name ∈ l ↔ name ∈ l') : l = l' := by
  have hnodup {l : List String} (hl : l.Pairwise (· < ·)) : l.Nodup := by
    refine List.Pairwise.imp ?_ hl
    rintro name _ hlt rfl
    exact String.lt_irrefl name hlt
  have hperm : l.Perm l' := (List.perm_ext_iff_of_nodup (hnodup hl) (hnodup hl')).2 h
  exact hperm.eq_of_pairwise
    (fun _ _ _ _ hlt hgt => absurd (String.lt_trans hlt hgt) (String.lt_irrefl _)) hl hl'

theorem pairwise_names (m : NameMap α) : m.names.Pairwise (· < ·) :=
  List.pairwise_map.2 m.sorted

/-! ## Look-ups after an operation -/

@[simp] theorem get?_empty (name : String) : (∅ : NameMap α).get? name = none := rfl

theorem lookup_set (name key : String) (a : α) (l : List (String × α)) :
    (set name a l).lookup key = if key = name then some a else l.lookup key := by
  induction l with
  | nil => rw [set, lookup_cons_eq]
  | cons e rest ih =>
    unfold set
    split
    · rename_i heq
      by_cases h : key = name <;> simp [lookup_cons_eq, h, heq]
    · rename_i hne
      rw [lookup_cons_eq, ih, lookup_cons_eq]
      by_cases h : key = name
      · simp [h, Ne.symm hne]
      · simp only [h, if_false]

/-- An insertion changes what is found under its own name only. -/
theorem get?_insert (m : NameMap α) (name key : String) (a : α) :
    (m.insert name a).get? key = if key = name then some a else m.get? key :=
  lookup_set name key a m.listing

@[simp] theorem get?_insert_self (m : NameMap α) (name : String) (a : α) :
    (m.insert name a).get? name = some a := by
  simp [get?_insert]

/-- An erasure changes nothing under other names. -/
theorem get?_erase_ne (m : NameMap α) {name key : String} (h : key ≠ name) :
    (m.erase name).get? key = m.get? key := by
  simp only [get?, erase]
  induction m.listing with
  | nil => rfl
  | cons e rest ih =>
    rw [List.filter_cons, lookup_cons_eq]
    by_cases he : e.1 = name
    · have hne : key ≠ e.1 := fun heq => h (heq.trans he)
      rw [if_neg hne, if_neg (by simp [he]), ih]
    · rw [if_pos (by simp [he]), lookup_cons_eq, ih]

/-- Without the new name, the names are those from before an insertion. -/
theorem filter_names_insert {m : NameMap α} {name : String} (a : α) (h : m.get? name = none) :
    (m.insert name a).names.filter (· != name) = m.names := by
  refine eq_of_mem_iff ((pairwise_names _).filter _) m.pairwise_names fun key => ?_
  rw [List.mem_filter, mem_names_iff, mem_names_iff, get?_insert]
  by_cases hkey : key = name <;> simp [hkey, h]

/-! ## Maps of lists -/

theorem get?_foldl_insert_of_notMem (l : List (String × α)) (m : NameMap α) {name : String}
    (h : name ∉ l.map (·.1)) :
    (l.foldl (fun m e => m.insert e.1 e.2) m).get? name = m.get? name := by
  induction l generalizing m with
  | nil => rfl
  | cons e rest ih =>
    obtain ⟨hne, hrest⟩ : name ≠ e.1 ∧ name ∉ rest.map (·.1) := by simpa using h
    rw [List.foldl_cons, ih _ hrest, get?_insert, if_neg hne]

theorem get?_foldl_insert_of_mem {l : List (String × α)} (m : NameMap α)
    (hn : (l.map (·.1)).Nodup) {name : String} {a : α} (h : (name, a) ∈ l) :
    (l.foldl (fun m e => m.insert e.1 e.2) m).get? name = some a := by
  induction l generalizing m with
  | nil => simp at h
  | cons e rest ih =>
    obtain ⟨hnot, hrest⟩ := List.nodup_cons.1 hn
    rcases List.mem_cons.1 h with rfl | h
    · rw [List.foldl_cons, get?_foldl_insert_of_notMem rest _ hnot, get?_insert_self]
    · exact ih _ hrest h

/-- Where names do not repeat, the map of a list holds every entry of it. -/
theorem get?_ofList {l : List (String × α)} (hn : (l.map (·.1)).Nodup) {name : String} {a : α}
    (h : (name, a) ∈ l) : (ofList l).get? name = some a :=
  get?_foldl_insert_of_mem empty hn h

/-- Where names do not repeat, the map of a list holds the entries of it and nothing else. -/
theorem get?_ofList_iff {l : List (String × α)} (hn : (l.map (·.1)).Nodup) {name : String}
    {a : α} : (ofList l).get? name = some a ↔ (name, a) ∈ l := by
  refine ⟨fun hget => ?_, get?_ofList hn⟩
  by_cases hname : name ∈ l.map (·.1)
  · obtain ⟨⟨_, a'⟩, hmem, rfl⟩ := List.mem_map.1 hname
    obtain rfl : a' = a := Option.some.inj ((get?_ofList hn hmem).symm.trans hget)
    exact hmem
  · have hnone : (ofList l).get? name = none := get?_foldl_insert_of_notMem l empty hname
    rw [hnone] at hget
    cases hget

/-! ## Maps that agree

Two maps can list the same entries in different orders. What they agree on is what they hold. -/

/-- The maps have the same names, and under each of them related values. -/
def Agree (R : α → β → Prop) (m : NameMap α) (n : NameMap β) : Prop :=
  ∀ name, Option.Rel R (m.get? name) (n.get? name)

variable {R : α → β → Prop} {m : NameMap α} {n : NameMap β}

/-- Maps agree on equal values where every look-up gives the same. -/
theorem agree_eq {m n : NameMap α} : Agree (· = ·) m n ↔ ∀ name, m.get? name = n.get? name := by
  refine forall_congr' fun name => ?_
  cases m.get? name <;> cases n.get? name <;> simp

theorem Agree.names_eq (h : Agree R m n) : m.names = n.names := by
  refine eq_of_mem_iff m.pairwise_names n.pairwise_names fun name => ?_
  rw [mem_names_iff, mem_names_iff, ← Option.isSome_iff_exists, ← Option.isSome_iff_exists]
  have hname := h name
  generalize m.get? name = a, n.get? name = b at hname
  cases hname <;> rfl

/-- Maps that agree are gone through in step, in whatever order they are listed. -/
theorem Agree.forall₂_entries (h : Agree R m n) :
    List.Forall₂ (fun x y => x.1 = y.1 ∧ R x.2 y.2) m.entries n.entries := by
  have hnames : List.Forall₂ (fun x y : String × _ => x.1 = y.1) m.entries n.entries := by
    have heq := h.names_eq
    rwa [names, names, ← List.forall₂_eq_eq_eq, List.forall₂_map_left_iff,
      List.forall₂_map_right_iff] at heq
  obtain ⟨hlength, hzip⟩ := List.forall₂_iff_zip.1 hnames
  refine List.forall₂_iff_zip.2 ⟨hlength, fun {x y} hxy => ⟨hzip hxy, ?_⟩⟩
  obtain ⟨hx, hy⟩ := List.of_mem_zip hxy
  have hrel := h x.1
  rw [mem_entries_iff.1 hx, hzip hxy, mem_entries_iff.1 hy] at hrel
  exact Option.rel_some_some.1 hrel

/-- Maps of equal values that agree have the same entries. -/
theorem Agree.entries_eq {m n : NameMap α} (h : Agree (· = ·) m n) : m.entries = n.entries := by
  rw [← List.forall₂_eq_eq_eq]
  exact h.forall₂_entries.imp fun _ _ hxy => Prod.ext hxy.1 hxy.2

theorem Agree.isEmpty_eq (h : Agree R m n) : m.isEmpty = n.isEmpty := by
  have hlength := h.forall₂_entries.length_eq
  rw [NameMap.isEmpty_eq, NameMap.isEmpty_eq, Bool.eq_iff_iff, List.isEmpty_iff_length_eq_zero,
    List.isEmpty_iff_length_eq_zero, hlength]

theorem Agree.contains_eq (h : Agree R m n) (name : String) :
    m.contains name = n.contains name := by
  have hname := h name
  unfold contains
  generalize m.get? name = a, n.get? name = b at hname
  cases hname <;> rfl

end NameMap

end Schemata
