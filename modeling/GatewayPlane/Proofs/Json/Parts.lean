import GatewayPlane.NameMap.Lemmas
import GatewayPlane.Proofs.Json.Parsing
import GatewayPlane.Json.Reader

/-!
# What the parts of a value share

Readers take a value apart. A property that a value shares with its items and members is one
of all that a reader comes upon, and so of the values that it keeps as they are.
-/
namespace GatewayPlane.Json
variable {α : Type} {Q : Json → Prop} {P : α → Prop} {read : Reader α}
  {members : List (String × Json)} {name : String}

/-- Whether the items and the members of a value with this property have it as well. -/
structure Hereditary (Q : Json → Prop) : Prop where
  items {items : List Json} (h : Q (.array items)) : ∀ item ∈ items, Q item
  members {members : List (String × Json)} (h : Q (.object members)) : ∀ m ∈ members, Q m.2

theorem hereditary_true : Hereditary fun _ => True := ⟨fun _ _ _ => trivial, fun _ _ _ => trivial⟩

theorem hereditary_wellFormed : Hereditary WellFormed where
  items h := by
    cases h with
    | array hitems => exact hitems
  members h := by
    cases h with
    | object _ hmembers => exact hmembers

/-- Whether all that is read of values with the one property has the other. -/
def Yields (Q : Json → Prop) (read : Reader α) (P : α → Prop) : Prop :=
  ∀ value a, Q value → read value = some a → P a

theorem yields_anything : Yields Q anything Q := by
  rintro value _ hv ⟨⟩
  exact hv

theorem Hereditary.members? (hQ : Hereditary Q) {names : List String} {value : Json} (hv : Q value)
    (h : members? names value = some members) : ∀ m ∈ members, Q m.2 := by
  unfold Json.members? at h
  split at h
  · cases h
    exact hQ.members hv
  · split at h
    · cases h
      exact fun m hm => hQ.items hv m.2 (List.of_mem_zip hm).2
    · cases h
  · cases h

theorem property_of_member? (hmembers : ∀ m ∈ members, Q m.2) {value : Json}
    (h : member? members name = some value) : Q value := by
  obtain ⟨m, hm, rfl⟩ := Option.map_eq_some_iff.1 h
  exact hmembers m (List.mem_of_find?_eq_some hm)

theorem Yields.field (hread : Yields Q read P) (hmembers : ∀ m ∈ members, Q m.2) {a : α}
    (h : field read members name = some a) : P a := by
  obtain ⟨value, hvalue, ha⟩ := Option.bind_eq_some_iff.1 h
  exact hread value a (property_of_member? hmembers hvalue) ha

theorem Yields.fieldOr (hread : Yields Q read P) (hmembers : ∀ m ∈ members, Q m.2)
    {default a : α} (hdefault : P default) (h : fieldOr read default members name = some a) :
    P a := by
  unfold Json.fieldOr at h
  split at h
  · cases h
    exact hdefault
  · next value hvalue => exact hread value a (property_of_member? hmembers hvalue) h

theorem Yields.fieldMaybe (hread : Yields (fun v => v ≠ .null ∧ Q v) read P)
    (hmembers : ∀ m ∈ members, Q m.2) {o : Option α} (h : fieldMaybe read members name = some o) :
    ∀ a ∈ o, P a := by
  unfold Json.fieldMaybe at h
  split at h
  · cases h
    exact nofun
  · cases h
    exact nofun
  · next value hnull hvalue =>
    obtain ⟨a, ha, rfl⟩ := Option.map_eq_some_iff.1 h
    rintro _ ⟨⟩
    refine hread value a ⟨?_, property_of_member? hmembers hvalue⟩ ha
    rintro rfl
    exact hnull rfl

theorem mem_of_mapM_eq_some {β : Type} {f : α → Option β} {l : List α} {l' : List β}
    (h : l.mapM f = some l') {b : β} (hb : b ∈ l') : ∃ a ∈ l, f a = some b := by
  induction l generalizing l' with
  | nil =>
    cases h
    cases hb
  | cons a rest ih =>
    rw [List.mapM_cons] at h
    obtain ⟨b', hb', h⟩ := Option.bind_eq_some_iff.1 h
    obtain ⟨later, hlater, heq⟩ := Option.bind_eq_some_iff.1 h
    cases heq
    rcases List.mem_cons.1 hb with rfl | hb
    · exact ⟨a, List.mem_cons_self, hb'⟩
    · obtain ⟨a', ha', heq⟩ := ih hlater hb
      exact ⟨a', List.mem_cons_of_mem a ha', heq⟩

theorem Yields.list? (hQ : Hereditary Q) (hread : Yields Q read P) :
    Yields Q (list? read) fun l => ∀ a ∈ l, P a := by
  intro value l hv h
  cases value with
  | array items =>
    refine fun a ha => ?_
    obtain ⟨item, hitem, heq⟩ := mem_of_mapM_eq_some h ha
    exact hread item a (hQ.items hv item hitem) heq
  | _ => cases h

/-- A member whose items may be left out yields what its items do. -/
theorem Yields.fieldList (hQ : Hereditary Q) (hread : Yields Q read P)
    (hmembers : ∀ m ∈ members, Q m.2) {l : List α}
    (h : Json.fieldOr (Json.list? read) [] members name = some l) : ∀ a ∈ l, P a :=
  (hread.list? hQ).fieldOr hmembers (List.forall_mem_nil P) h

theorem Yields.nameMap? (hQ : Hereditary Q) (hread : Yields Q read P) :
    Yields Q (nameMap? read) fun m => ∀ e ∈ m.entries, P e.2 := by
  intro value m hv h
  cases value with
  | object members =>
    obtain ⟨l, hl, rfl⟩ := Option.map_eq_some_iff.1 h
    refine fun e he => ?_
    obtain ⟨member, hmember, heq⟩ := mem_of_mapM_eq_some hl (NameMap.mem_of_mem_entries_ofList he)
    obtain ⟨a, ha, rfl⟩ := Option.map_eq_some_iff.1 heq
    exact hread member.2 a (hQ.members hv member hmember) ha
  | _ => cases h

end GatewayPlane.Json
