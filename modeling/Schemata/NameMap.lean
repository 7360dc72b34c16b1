/-!
# Maps from names

Everything that a specification collects is kept by name. A map lists its entries in whatever order
they have come to stand in, with no name twice. The order of that listing carries no meaning:
whoever goes through a map sorts its entries by name first, each time anew.

## Main definitions

* `NameMap`: a listing of entries under distinct names.
* `sortByName`: the entries of a listing, in increasing order of names.
* `NameMap.entries`, `NameMap.names`: what going through a map meets, sorted.
* `NameMap.insert`, `NameMap.get?`, `NameMap.map`.
-/

namespace Schemata

variable {α β : Type}

/-! ## Sorting by name -/

/-- Put an entry before the first one that has not a lesser name. -/
def placeByName (entry : String × α) : List (String × α) → List (String × α)
  | [] => [entry]
  | e :: rest => if e.1 < entry.1 then e :: placeByName entry rest else entry :: e :: rest

/-- The entries of a listing in increasing order of names, by insertion. -/
def sortByName : List (String × α) → List (String × α)
  | [] => []
  | entry :: rest => placeByName entry (sortByName rest)

/-! ## Maps -/

/-- A map from names, as a listing of its entries. -/
structure NameMap (α : Type) where
  /-- The entries, in no particular order. -/
  listing : List (String × α)
  /-- No name is listed twice. -/
  distinct : listing.Pairwise fun a b => a.1 ≠ b.1

namespace NameMap

/-- The map without entries. -/
def empty : NameMap α := ⟨[], .nil⟩

instance : Inhabited (NameMap α) := ⟨empty⟩

instance : EmptyCollection (NameMap α) := ⟨empty⟩

/-- Maps are compared as listings. -/
instance [DecidableEq α] : DecidableEq (NameMap α) := fun m n =>
  decidable_of_iff (m.listing = n.listing)
    ⟨fun h => by cases m; cases n; cases h; rfl, fun h => by rw [h]⟩

/-- Set the value of a name: where the name is listed, or else at the end. -/
def set (name : String) (a : α) : List (String × α) → List (String × α)
  | [] => [(name, a)]
  | e :: rest => if e.1 = name then (name, a) :: rest else e :: set name a rest

/-- An entry of the result is the new one or was there before. -/
theorem mem_set {name : String} {a : α} {l : List (String × α)} {e : String × α}
    (h : e ∈ set name a l) : e = (name, a) ∨ e ∈ l := by
  induction l with
  | nil => simpa [set] using h
  | cons x rest ih =>
    unfold set at h
    split at h
    · rcases List.mem_cons.1 h with h | h
      · exact .inl h
      · exact .inr (List.mem_cons_of_mem _ h)
    · rcases List.mem_cons.1 h with h | h
      · exact .inr (h ▸ List.mem_cons_self)
      · exact (ih h).imp id (List.mem_cons_of_mem _)

/-- Setting a value keeps names distinct. -/
theorem pairwise_set (name : String) (a : α) {l : List (String × α)}
    (h : l.Pairwise fun a b => a.1 ≠ b.1) : (set name a l).Pairwise fun a b => a.1 ≠ b.1 := by
  induction l with
  | nil => simp [set]
  | cons x rest ih =>
    obtain ⟨hx, hrest⟩ := List.pairwise_cons.1 h
    unfold set
    split
    · rename_i heq
      exact List.pairwise_cons.2 ⟨fun e he => heq ▸ hx e he, hrest⟩
    · rename_i hne
      refine List.pairwise_cons.2 ⟨fun e he => ?_, ih hrest⟩
      rcases mem_set he with rfl | he
      · exact hne
      · exact hx e he

/-- The map with one more entry; it replaces an entry of the same name. -/
def insert (m : NameMap α) (name : String) (a : α) : NameMap α :=
  ⟨set name a m.listing, pairwise_set name a m.distinct⟩

/-- The map of a list of entries; later ones replace earlier ones. -/
def ofList (entries : List (String × α)) : NameMap α :=
  entries.foldl (fun m e => m.insert e.1 e.2) empty

/-- The map without the entry of a name. -/
def erase (m : NameMap α) (name : String) : NameMap α :=
  ⟨m.listing.filter (·.1 != name), m.distinct.filter _⟩

/-- What the map holds under a name. -/
def get? (m : NameMap α) (name : String) : Option α := m.listing.lookup name

/-- Whether the map has a name. -/
def contains (m : NameMap α) (name : String) : Bool := (m.get? name).isSome

/-- The entries, in increasing order of names. -/
def entries (m : NameMap α) : List (String × α) := sortByName m.listing

/-- The names, in increasing order. -/
def names (m : NameMap α) : List String := m.entries.map (·.1)

/-- Whether the map has no entries. -/
def isEmpty (m : NameMap α) : Bool := m.listing.isEmpty

/-- The map with every value changed, in the light of its name. -/
def map (f : String → α → β) (m : NameMap α) : NameMap β :=
  ⟨m.listing.map fun e => (e.1, f e.1 e.2), List.pairwise_map.2 m.distinct⟩

end NameMap

end Schemata
