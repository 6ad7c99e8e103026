import GatewayPlane.NameMap

/-!
# Maps from names: the view by name

What each operation does to the value at a name, and that these values determine a map.
-/
namespace GatewayPlane.NameMap
variable {α β : Type}

theorem lookup_eq_none_of_forall_ne {name : String} {l : List (String × α)}
    (h : ∀ e ∈ l, e.1 ≠ name) : lookup name l = none := by
  induction l with
  | nil => rfl
  | cons e rest ih =>
    rw [lookup, if_neg (h e List.mem_cons_self)]
    exact ih fun e he => h e (List.mem_cons_of_mem _ he)

theorem mem_of_lookup_eq_some {name : String} {value : α} {l : List (String × α)}
    (h : lookup name l = some value) : (name, value) ∈ l := by
  induction l with
  | nil => simp [lookup] at h
  | cons e rest ih =>
    rw [lookup] at h
    split at h
    · next heq =>
      cases h
      cases heq
      exact List.mem_cons_self
    · exact List.mem_cons_of_mem _ (ih h)

theorem lookup_insertEntry (name name' : String) (value : α) (l : List (String × α)) :
    lookup name' (insertEntry name value l) =
      if name = name' then some value else lookup name' l := by
  induction l with
  | nil => rfl
  | cons e rest ih =>
    obtain ⟨k, v⟩ := e
    unfold insertEntry
    split
    · rfl
    · next hnlt =>
      split
      · next hlt =>
        rw [lookup, lookup, ih]
        split
        · next hk =>
          cases hk
          rw [if_neg]
          rintro rfl
          exact hnlt hlt
        · rfl
      · next hnlt' =>
        cases not_lt_antisymm hnlt hnlt'
        rw [lookup, lookup]
        split <;> rfl

theorem lookup_filter_ne (name name' : String) (l : List (String × α)) :
    lookup name' (l.filter fun e => e.1 ≠ name) =
      if name = name' then none else lookup name' l := by
  induction l with
  | nil => simp [lookup]
  | cons e rest ih =>
    obtain ⟨k, v⟩ := e
    rw [List.filter_cons]
    split
    · next hk =>
      rw [lookup, lookup, ih]
      grind
    · next hk =>
      rw [ih, lookup]
      grind

theorem lookup_map (f : α → β) (name : String) (l : List (String × α)) :
    lookup name (l.map fun e => (e.1, f e.2)) = (lookup name l).map f := by
  induction l with
  | nil => rfl
  | cons e rest ih =>
    rw [List.map_cons, lookup, lookup, ih]
    split <;> rfl

@[simp] theorem get?_empty (name : String) : (∅ : NameMap α).get? name = none := rfl

theorem get?_insert (m : NameMap α) (name name' : String) (value : α) :
    (m.insert name value).get? name' = if name = name' then some value else m.get? name' :=
  lookup_insertEntry name name' value m.entries

@[simp] theorem get?_insert_self (m : NameMap α) (name : String) (value : α) :
    (m.insert name value).get? name = some value := by
  rw [get?_insert, if_pos rfl]

theorem get?_insert_of_ne (m : NameMap α) {name name' : String} (value : α)
    (h : name ≠ name') : (m.insert name value).get? name' = m.get? name' := by
  rw [get?_insert, if_neg h]

theorem get?_erase (m : NameMap α) (name name' : String) :
    (m.erase name).get? name' = if name = name' then none else m.get? name' :=
  lookup_filter_ne name name' m.entries

@[simp] theorem get?_map (f : α → β) (m : NameMap α) (name : String) :
    (m.map f).get? name = (m.get? name).map f :=
  lookup_map f name m.entries

/-- Strictly ascending entries are determined by what is found among them. -/
theorem entries_eq_of_lookup_eq {l l' : List (String × α)}
    (hl : l.Pairwise fun a b => a.1 < b.1) (hl' : l'.Pairwise fun a b => a.1 < b.1)
    (h : ∀ name, lookup name l = lookup name l') : l = l' := by
  induction l generalizing l' with
  | nil =>
    cases l' with
    | nil => rfl
    | cons e rest => simpa [lookup] using h e.1
  | cons e rest ih =>
    cases l' with
    | nil => simpa [lookup] using h e.1
    | cons e' rest' =>
      rw [List.pairwise_cons] at hl hl'
      have hname : e.1 = e'.1 := by
        refine not_lt_antisymm (fun hlt => ?_) (fun hlt => ?_)
        · have hfound := h e.1
          rw [lookup, if_pos rfl, lookup_eq_none_of_forall_ne] at hfound
          · cases hfound
          · intro d hd heq
            rcases List.mem_cons.1 hd with rfl | hd
            · exact String.lt_irrefl _ (heq ▸ hlt)
            · exact String.lt_irrefl _ (String.lt_trans hlt (heq ▸ hl'.1 d hd))
        · have hfound := h e'.1
          rw [lookup.eq_2 _ _ _ rest', if_pos rfl, lookup_eq_none_of_forall_ne] at hfound
          · cases hfound
          · intro d hd heq
            rcases List.mem_cons.1 hd with rfl | hd
            · exact String.lt_irrefl _ (heq ▸ hlt)
            · exact String.lt_irrefl _ (String.lt_trans hlt (heq ▸ hl.1 d hd))
      have hvalue : e.2 = e'.2 := by
        have hfound := h e.1
        rw [lookup, lookup, if_pos rfl, if_pos hname.symm] at hfound
        exact Option.some.inj hfound
      have hrest : rest = rest' := by
        refine ih hl.2 hl'.2 fun name => ?_
        have hfound := h name
        rw [lookup, lookup, ← hname] at hfound
        split at hfound
        · next heq =>
          rw [lookup_eq_none_of_forall_ne, lookup_eq_none_of_forall_ne]
          · intro d hd hd'
            exact String.lt_irrefl d.1 (by simpa [hd', ← heq, hname] using hl'.1 d hd)
          · intro d hd hd'
            exact String.lt_irrefl d.1 (by simpa [hd', ← heq] using hl.1 d hd)
        · exact hfound
      rw [Prod.ext hname hvalue, hrest]

theorem ext {m m' : NameMap α} (h : ∀ name, m.get? name = m'.get? name) : m = m' := by
  obtain ⟨l, hl⟩ := m
  obtain ⟨l', hl'⟩ := m'
  have hentries : l = l' := entries_eq_of_lookup_eq hl hl' h
  subst hentries
  rfl

theorem insert_get?_self (m : NameMap α) {name : String} {value : α}
    (h : m.get? name = some value) : m.insert name value = m := by
  apply ext
  intro name'
  rw [get?_insert]
  split
  · next heq => rw [← heq, h]
  · rfl

theorem erase_eq_self (m : NameMap α) {name : String} (h : m.get? name = none) :
    m.erase name = m := by
  apply ext
  intro name'
  rw [get?_erase]
  split
  · next heq => rw [← heq, h]
  · rfl

theorem insert_insert (m : NameMap α) (name : String) (a b : α) :
    (m.insert name a).insert name b = m.insert name b := by
  refine ext fun other => ?_
  rw [get?_insert, get?_insert, get?_insert]
  split <;> rfl

theorem erase_insert (m : NameMap α) (name : String) (a : α) :
    (m.insert name a).erase name = m.erase name := by
  refine ext fun other => ?_
  rw [get?_erase, get?_erase, get?_insert]
  split <;> rfl

theorem lookup_eq_some_iff {l : List (String × α)} (hl : l.Pairwise fun a b => a.1 < b.1)
    {name : String} {value : α} : lookup name l = some value ↔ (name, value) ∈ l := by
  refine ⟨mem_of_lookup_eq_some, fun h => ?_⟩
  induction l with
  | nil => cases h
  | cons e rest ih =>
    rw [List.pairwise_cons] at hl
    rw [lookup]
    rcases List.mem_cons.1 h with rfl | hmem
    · rw [if_pos rfl]
    · rw [if_neg, ih hl.2 hmem]
      intro heq
      have hlt := hl.1 _ hmem
      rw [heq] at hlt
      exact String.lt_irrefl name hlt

theorem mem_entries_iff {m : NameMap α} {name : String} {value : α} :
    (name, value) ∈ m.entries ↔ m.get? name = some value :=
  (lookup_eq_some_iff m.sorted).symm

theorem mem_values_iff {m : NameMap α} {value : α} :
    value ∈ m.values ↔ ∃ name, m.get? name = some value := by
  simp only [values, List.mem_map, Prod.exists, mem_entries_iff, exists_eq_right]

theorem contains_eq_true_iff {m : NameMap α} {name : String} :
    m.contains name = true ↔ ∃ value, m.get? name = some value := by
  rw [contains, Option.isSome_iff_exists]

theorem mem_keys_iff {m : NameMap α} {name : String} :
    name ∈ m.keys ↔ ∃ value, m.get? name = some value := by
  simp only [keys, List.mem_map, Prod.exists, mem_entries_iff, exists_and_right, exists_eq_right]

/-- An entry after all others is put at the end. -/
theorem insertEntry_of_lt {name : String} {value : α} {l : List (String × α)}
    (h : ∀ e ∈ l, e.1 < name) : insertEntry name value l = l ++ [(name, value)] := by
  induction l with
  | nil => rfl
  | cons e rest ih =>
    rw [List.forall_mem_cons] at h
    rw [insertEntry, if_neg fun hlt => String.lt_irrefl _ (String.lt_trans hlt h.1), if_pos h.1,
      ih h.2, List.cons_append]

theorem entries_foldl_insert {l : List (String × α)} {m : NameMap α}
    (h : (m.entries ++ l).Pairwise fun a b => a.1 < b.1) :
    (l.foldl (fun m e => m.insert e.1 e.2) m).entries = m.entries ++ l := by
  induction l generalizing m with
  | nil => rw [List.foldl_nil, List.append_nil]
  | cons e rest ih =>
    have hlt : ∀ d ∈ m.entries, d.1 < e.1 := fun d hd =>
      (List.pairwise_append.1 h).2.2 d hd e List.mem_cons_self
    have hentries : (m.insert e.1 e.2).entries = m.entries ++ [e] := insertEntry_of_lt hlt
    rw [List.append_cons] at h
    rw [List.foldl_cons, ih (by rwa [hentries]), hentries, ← List.append_cons]

theorem ofList_entries (m : NameMap α) : ofList m.entries = m := by
  obtain ⟨l, hl⟩ := m
  have hentries : (ofList l).entries = l := entries_foldl_insert (m := empty) hl
  cases hm : ofList l with
  | mk l' hl' =>
    rw [hm] at hentries
    subst hentries
    rfl

theorem mem_of_mem_entries_insert {m : NameMap α} {name : String} {value : α} {e : String × α}
    (h : e ∈ (m.insert name value).entries) : e = (name, value) ∨ e ∈ m.entries := by
  rw [mem_entries_iff, get?_insert] at h
  split at h
  · next hname =>
    cases h
    exact .inl (Prod.ext hname.symm rfl)
  · exact .inr (mem_entries_iff.2 h)

theorem mem_of_mem_entries_ofList {l : List (String × α)} {e : String × α}
    (h : e ∈ (ofList l).entries) : e ∈ l := by
  have hfold (l : List (String × α)) (m : NameMap α)
      (h : e ∈ (l.foldl (fun m e => m.insert e.1 e.2) m).entries) : e ∈ m.entries ∨ e ∈ l := by
    induction l generalizing m with
    | nil => exact .inl h
    | cons first rest ih =>
      rcases ih (m.insert first.1 first.2) h with h | h
      · exact (mem_of_mem_entries_insert h).symm.imp id fun heq =>
          List.mem_cons.2 (.inl heq)
      · exact .inr (List.mem_cons_of_mem first h)
  exact (hfold l empty h).resolve_left List.not_mem_nil

end GatewayPlane.NameMap
