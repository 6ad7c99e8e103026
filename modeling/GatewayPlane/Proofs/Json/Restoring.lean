import GatewayPlane.Json.Reader
import GatewayPlane.NameMap.Lemmas
import GatewayPlane.Proofs.Json.RoundTrip

/-!
# Reading back what was written

When a reader takes back what a writer wrote. Of structures this is shown member by member:
what stands under each name, and that a member that was left out is read as none.
-/
namespace GatewayPlane.Json
variable {α : Type} {read : Reader α} {write : α → Json}

/-! ## Members -/

@[simp] theorem member?_nil (name : String) : member? [] name = none := rfl

@[simp] theorem member?_cons (m : String × Json) (members : List (String × Json)) (name : String) :
    member? (m :: members) name = if m.1 = name then some m.2 else member? members name := by
  rw [member?, member?, List.find?_cons]
  by_cases h : m.1 = name
  · rw [if_pos h, beq_iff_eq.2 h, Option.map_some]
  · rw [if_neg h, beq_eq_false_iff_ne.2 h]

@[simp] theorem member?_append (members others : List (String × Json)) (name : String) :
    member? (members ++ others) name = (member? members name).or (member? others name) := by
  rw [member?, List.find?_append, Option.map_or]
  rfl

@[simp] theorem member?_memberOf (write : α → Json) (name other : String) (o : Option α) :
    member? (memberOf write name o) other = if name = other then o.map write else none := by
  cases o with
  | none => simp [memberOf]
  | some a => simp [memberOf]

@[simp] theorem members?_object (names : List String) (members : List (String × Json)) :
    members? names (.object members) = some members := rfl

/-- What a member that may be absent is read as, by what stands under its name. -/
def maybe? (read : Reader α) : Option Json → Option (Option α)
  | none | some .null => some none
  | some value => (read value).map some

@[simp] theorem fieldMaybe_eq (read : Reader α) (members : List (String × Json)) (name : String) :
    fieldMaybe read members name = maybe? read (member? members name) := rfl

@[simp] theorem field_eq (read : Reader α) (members : List (String × Json)) (name : String) :
    field read members name = (member? members name).bind read := rfl

@[simp] theorem fieldOr_eq (read : Reader α) (default : α) (members : List (String × Json))
    (name : String) :
    fieldOr read default members name = (member? members name).elim (some default) read := by
  rw [fieldOr]
  cases member? members name <;> rfl

@[simp] theorem string?_string (s : String) : string? (.string s) = some s := rfl

@[simp] theorem bool?_bool (b : Bool) : bool? (.bool b) = some b := rfl

@[simp] theorem float?_float (x : Float) : float? (.float x) = some x := rfl

/-! ## Readers and writers -/

/-- Whether a reader takes back all that a writer writes, which is well-formed, and takes null
for nothing of it. -/
structure Restores (read : Reader α) (write : α → Json) : Prop where
  read_write (a : α) : read (write a) = some a
  null : read .null = none
  wellFormed (a : α) : (write a).WellFormed

theorem Restores.maybe (h : Restores read write) (o : Option α) :
    maybe? read (o.map write) = some o := by
  cases o with
  | none => rfl
  | some a =>
    have hread := h.read_write a
    rw [Option.map_some]
    cases hwritten : write a with
    | null =>
      rw [hwritten, h.null] at hread
      cases hread
    | _ =>
      rw [hwritten] at hread
      rw [maybe?, hread, Option.map_some]
      nofun

theorem list?_map {l : List α} (h : ∀ a ∈ l, read (write a) = some a) :
    list? read (.array (l.map write)) = some l := by
  rw [list?]
  induction l with
  | nil => rfl
  | cons a rest ih =>
    rw [List.forall_mem_cons] at h
    rw [List.map_cons, List.mapM_cons, h.1, ih h.2]
    rfl

theorem Restores.list (h : Restores read write) (l : List α) :
    list? read (.array (l.map write)) = some l :=
  list?_map fun a _ => h.read_write a

theorem restores_string : Restores string? .string := ⟨fun _ => rfl, rfl, .string⟩

theorem restores_float : Restores float? .float := ⟨fun _ => rfl, rfl, .float⟩

theorem natBelow?_ofNat {bound n : Nat} (h : n < bound) : natBelow? bound (ofNat n) = some n := by
  have hnat : nat? (ofNat n) = some n := by simp [nat?, ofNat]
  rw [natBelow?, hnat]
  exact if_pos h

theorem wellFormed_ofNat {n : Nat} (h : n < UInt64.size) : (ofNat n).WellFormed :=
  .integer ⟨by omega, by omega⟩

theorem restores_uint16 : Restores uint16? fun n => ofNat n.toNat where
  read_write n := by
    rw [uint16?, natBelow?_ofNat n.toNat_lt_size, Option.map_some]
    simp
  null := rfl
  wellFormed n := wellFormed_ofNat (Nat.lt_trans n.toNat_lt_size (by decide))

theorem restores_uint32 : Restores uint32? fun n => ofNat n.toNat where
  read_write n := by
    rw [uint32?, natBelow?_ofNat n.toNat_lt_size, Option.map_some]
    simp
  null := rfl
  wellFormed n := wellFormed_ofNat (Nat.lt_trans n.toNat_lt_size (by decide))

/-- A choice is restored when each has a name of its own. -/
theorem restores_choice {choices : List α} {name : α → String}
    (h : ∀ a, choices.find? (fun b => name b == name a) = some a) :
    Restores (choice? choices name) fun a => .string (name a) :=
  ⟨h, rfl, fun a => .string (name a)⟩

/-! ## Well-formed structures -/

/-- Whether members stand under some of these names, in their order, and are well-formed. -/
def Listed (names : List String) (members : List (String × Json)) : Prop :=
  (members.map (·.1)).Sublist names ∧ ∀ m ∈ members, m.2.WellFormed

section
variable {name : String} {names : List String} {value : Json} {members : List (String × Json)}

theorem Listed.nil : Listed names [] := ⟨List.nil_sublist names, nofun⟩

theorem Listed.cons (h : value.WellFormed) (hrest : Listed names members) :
    Listed (name :: names) ((name, value) :: members) :=
  ⟨hrest.1.cons_cons name, List.forall_mem_cons.2 ⟨h, hrest.2⟩⟩

theorem Listed.skip (h : Listed names members) : Listed (name :: names) members :=
  ⟨h.1.cons name, h.2⟩

theorem Listed.memberOf {o : Option α} (h : ∀ a ∈ o, (write a).WellFormed)
    (hrest : Listed names members) :
    Listed (name :: names) (Json.memberOf write name o ++ members) := by
  cases o with
  | none => exact hrest.skip
  | some a => exact hrest.cons (h a rfl)

theorem Listed.maybe {o : Option α} (h : Restores read write) (hrest : Listed names members) :
    Listed (name :: names) (Json.memberOf write name o ++ members) :=
  .memberOf (fun a _ => h.wellFormed a) hrest

theorem Listed.last {o : Option α} (h : Restores read write) :
    Listed (name :: names) (Json.memberOf write name o) := by
  rw [← List.append_nil (Json.memberOf write name o)]
  exact .maybe h .nil

theorem wellFormed_members (names : List String) (hnames : names.Nodup)
    (h : Listed names members) : (Json.object members).WellFormed :=
  .object (h.1.nodup hnames) h.2

end

theorem wellFormed_array {l : List α} (h : ∀ a ∈ l, (write a).WellFormed) :
    (Json.array (l.map write)).WellFormed := by
  refine .array fun item hitem => ?_
  obtain ⟨a, ha, rfl⟩ := List.mem_map.1 hitem
  exact h a ha

theorem Restores.wellFormed_list (h : Restores read write) (l : List α) :
    (Json.array (l.map write)).WellFormed :=
  wellFormed_array fun a _ => h.wellFormed a

theorem restores_strings : Restores (list? string?) ofStrings :=
  ⟨restores_string.list, rfl, restores_string.wellFormed_list⟩

/-! ## Maps -/

theorem mapM_entries {l : List (String × α)} (h : ∀ e ∈ l, read (write e.2) = some e.2) :
    (l.map fun e => (e.1, write e.2)).mapM (fun m => (read m.2).map fun value => (m.1, value)) =
      some l := by
  induction l with
  | nil => rfl
  | cons e rest ih =>
    rw [List.forall_mem_cons] at h
    rw [List.map_cons, List.mapM_cons, ih h.2, h.1]
    rfl

theorem nameMap?_entries {m : NameMap α} (h : ∀ e ∈ m.entries, read (write e.2) = some e.2) :
    nameMap? read (.object (m.map write).entries) = some m := by
  change ((m.entries.map fun e => (e.1, write e.2)).mapM
    (fun m => (read m.2).map fun value => (m.1, value))).map NameMap.ofList = some m
  rw [mapM_entries h, Option.map_some, NameMap.ofList_entries]

theorem nameMap?_anything (m : NameMap Json) : nameMap? anything (.object m.entries) = some m := by
  have hread : nameMap? anything (.object (m.map id).entries) = some m :=
    nameMap?_entries fun _ _ => rfl
  have hentries : (m.map id).entries = m.entries := List.map_id m.entries
  rwa [hentries] at hread

theorem wellFormed_entries {m : NameMap Json} (h : ∀ e ∈ m.entries, e.2.WellFormed) :
    (Json.object m.entries).WellFormed := by
  refine .object ((m.sorted.imp ?_).map Prod.fst fun _ _ hne => hne) h
  exact fun hlt heq => String.lt_irrefl _ (heq ▸ hlt)

end GatewayPlane.Json
