/-!
# Maps from names

Finite maps whose keys are texts, held as the list of their entries in ascending order.
Two maps with the same value at every name are equal.
-/
namespace GatewayPlane

/-- Entries in strictly ascending order of their names. -/
structure NameMap (α : Type) where
  entries : List (String × α)
  sorted : entries.Pairwise fun a b => a.1 < b.1

namespace NameMap
variable {α : Type}

def empty : NameMap α := ⟨[], .nil⟩

instance : Inhabited (NameMap α) := ⟨empty⟩
instance : EmptyCollection (NameMap α) := ⟨empty⟩

def lookup (name : String) : List (String × α) → Option α
  | [] => none
  | (k, v) :: rest => if k = name then some v else lookup name rest

def get? (m : NameMap α) (name : String) : Option α := lookup name m.entries

def contains (m : NameMap α) (name : String) : Bool := (m.get? name).isSome

def keys (m : NameMap α) : List String := m.entries.map (·.1)

def values (m : NameMap α) : List α := m.entries.map (·.2)

def size (m : NameMap α) : Nat := m.entries.length

def isEmpty (m : NameMap α) : Bool := m.entries.isEmpty

/-- Puts an entry at its place, or in place of the entry of its name. -/
def insertEntry (name : String) (value : α) : List (String × α) → List (String × α)
  | [] => [(name, value)]
  | (k, v) :: rest =>
    if name < k then (name, value) :: (k, v) :: rest
    else if k < name then (k, v) :: insertEntry name value rest
    else (name, value) :: rest

theorem not_lt_antisymm {a b : String} (h : ¬a < b) (h' : ¬b < a) : a = b :=
  String.le_antisymm h' h

theorem fst_of_mem_insertEntry {name : String} {value : α} {l : List (String × α)}
    {e : String × α} (h : e ∈ insertEntry name value l) : e.1 = name ∨ e ∈ l := by
  induction l with
  | nil => simp_all [insertEntry]
  | cons hd tl ih =>
    obtain ⟨k, v⟩ := hd
    unfold insertEntry at h
    split at h
    · simp at h ⊢
      grind
    · split at h
      · simp at h ⊢
        grind
      · simp at h ⊢
        grind

theorem pairwise_insertEntry {name : String} {value : α} {l : List (String × α)}
    (h : l.Pairwise fun a b => a.1 < b.1) :
    (insertEntry name value l).Pairwise fun a b => a.1 < b.1 := by
  induction l with
  | nil => simp [insertEntry]
  | cons hd tl ih =>
    obtain ⟨k, v⟩ := hd
    rw [List.pairwise_cons] at h
    unfold insertEntry
    split
    · next hlt =>
      refine List.pairwise_cons.2 ⟨?_, List.pairwise_cons.2 h⟩
      intro e he
      rcases List.mem_cons.1 he with rfl | he
      · exact hlt
      · exact String.lt_trans hlt (h.1 e he)
    · next hnlt =>
      split
      · next hlt =>
        refine List.pairwise_cons.2 ⟨?_, ih h.2⟩
        intro e he
        rcases fst_of_mem_insertEntry he with heq | he
        · simpa [heq] using hlt
        · exact h.1 e he
      · next hnlt' =>
        cases not_lt_antisymm hnlt hnlt'
        exact List.pairwise_cons.2 ⟨fun e he => h.1 e he, h.2⟩

def insert (m : NameMap α) (name : String) (value : α) : NameMap α :=
  ⟨insertEntry name value m.entries, pairwise_insertEntry m.sorted⟩

def erase (m : NameMap α) (name : String) : NameMap α :=
  ⟨m.entries.filter fun e => e.1 ≠ name, m.sorted.filter _⟩

/-- The entries of a list, the last of each name. -/
def ofList (l : List (String × α)) : NameMap α := l.foldl (fun m e => m.insert e.1 e.2) empty

def map {β : Type} (f : α → β) (m : NameMap α) : NameMap β :=
  ⟨m.entries.map fun e => (e.1, f e.2), by
    rw [List.pairwise_map]
    exact m.sorted⟩

/-- Each value named by itself, the last of each name. -/
def ofNamed (name : α → String) (l : List α) : NameMap α := ofList (l.map fun a => (name a, a))

end NameMap

end GatewayPlane
