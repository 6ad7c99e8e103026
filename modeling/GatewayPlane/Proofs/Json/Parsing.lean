import GatewayPlane.Proofs.Json.RoundTrip

/-!
# What is parsed is well-formed

Whatever text is read, the value that it is read as repeats no name in an object and has
integers that fit a word.
-/
namespace GatewayPlane.Json
variable {s t : List Char} {w : Json}

theorem wellFormed_of_integer? {negative : Bool} {n : Nat} (h : integer? negative n = some w) :
    w.WellFormed := by
  cases negative with
  | true =>
    by_cases hrange : n = 0 ∨ UInt64.size < 2 * n
    · rw [integer?, if_pos rfl, if_pos hrange] at h
      cases h
    · rw [integer?, if_pos rfl, if_neg hrange] at h
      cases h
      exact .integer ⟨by omega, by omega⟩
  | false =>
    by_cases hrange : n < UInt64.size
    · rw [integer?, if_neg Bool.false_ne_true, if_pos hrange] at h
      cases h
      exact .integer ⟨by omega, by omega⟩
    · rw [integer?, if_neg Bool.false_ne_true, if_neg hrange] at h
      cases h

theorem wellFormed_of_double? {negative : Bool} {numeral : Decimal.Numeral}
    (h : double? negative numeral = some w) : w.WellFormed := by
  obtain ⟨x, -, rfl⟩ := Option.map_eq_some_iff.1 h
  exact .float _

theorem wellFormed_of_numberOf? {negative : Bool} {whole : List Char}
    {fraction : Option (List Char)} {exponent : Option Int}
    (h : numberOf? negative whole fraction exponent = some w) : w.WellFormed := by
  unfold numberOf? at h
  dsimp only at h
  split at h
  · next n hkept =>
    cases h
    split at hkept
    · exact wellFormed_of_integer? hkept
    · cases hkept
  · exact wellFormed_of_double? h

theorem wellFormed_of_readNumber (h : readNumber s = some (w, t)) : w.WellFormed := by
  rw [readNumber_eq] at h
  obtain ⟨whole, -, h⟩ := Option.bind_eq_some_iff.1 h
  split at h
  · cases h
  obtain ⟨fraction, -, h⟩ := Option.bind_eq_some_iff.1 h
  obtain ⟨exponent, -, h⟩ := Option.bind_eq_some_iff.1 h
  obtain ⟨n, hn, heq⟩ := Option.map_eq_some_iff.1 h
  cases heq
  exact wellFormed_of_numberOf? hn

theorem wellFormed_of_literal? {word : List Char} {value : Json} (hvalue : value.WellFormed)
    (h : literal? word value s = some (w, t)) : w.WellFormed := by
  rw [literal?] at h
  split at h
  · cases h
    exact hvalue
  · cases h

/-! ## Objects -/

theorem wellFormed_object_nil : (Json.object []).WellFormed := .object List.nodup_nil nofun

/-- A member that is there already keeps its name when it is set. -/
theorem map_fst_replaced (members : List (String × Json)) (name : String) (value : Json) :
    (members.map fun m => if (m.1 == name) = true then (name, value) else m).map (·.1) =
      members.map (·.1) := by
  rw [List.map_map]
  refine List.map_congr_left fun m _ => ?_
  by_cases hname : (m.1 == name) = true
  · rw [Function.comp_apply, if_pos hname, beq_iff_eq.1 hname]
  · rw [Function.comp_apply, if_neg hname]

theorem nodup_setMember {members : List (String × Json)} (h : (members.map (·.1)).Nodup)
    (name : String) (value : Json) : ((setMember members name value).map (·.1)).Nodup := by
  by_cases hmem : name ∈ members.map (·.1)
  · obtain ⟨m, hm, rfl⟩ := List.mem_map.1 hmem
    have hany : members.any (·.1 == m.1) = true :=
      List.any_eq_true.2 ⟨m, hm, beq_self_eq_true m.1⟩
    rwa [setMember, if_pos hany, map_fst_replaced]
  · rw [setMember_of_notMem hmem, List.map_append, List.nodup_append]
    refine ⟨h, List.pairwise_singleton _ _, fun a ha b hb hab => ?_⟩
    have hname : a = name := hab.trans (List.mem_singleton.1 hb)
    exact hmem (hname ▸ ha)

theorem mem_setMember {members : List (String × Json)} {name : String} {value : Json}
    {m : String × Json} (h : m ∈ setMember members name value) :
    m = (name, value) ∨ m ∈ members := by
  rw [setMember] at h
  split at h
  · obtain ⟨m', hm', rfl⟩ := List.mem_map.1 h
    split
    · exact .inl rfl
    · exact .inr hm'
  · exact (List.mem_append.1 h).symm.imp List.mem_singleton.1 id

theorem WellFormed.setMember {members : List (String × Json)}
    (h : (Json.object members).WellFormed) (name : String) (hw : w.WellFormed) :
    (Json.object (setMember members name w)).WellFormed := by
  cases h with
  | object hnames hmembers =>
    refine .object (nodup_setMember hnames name w) fun m hm => ?_
    rcases mem_setMember hm with rfl | hm
    · exact hw
    · exact hmembers m hm

/-! ## Values -/

mutual

theorem wellFormed_of_readValue {fuel : Nat} {s : List Char} {w : Json} {t : List Char}
    (h : readValue fuel s = some (w, t)) : w.WellFormed := by
  match fuel with
  | 0 => cases h
  | fuel + 1 =>
    rw [readValue] at h
    split at h
    case h_1 => cases h
    case h_2 =>
      obtain ⟨text, -, heq⟩ := Option.map_eq_some_iff.1 h
      cases heq
      exact .string text.1
    case h_3 =>
      split at h
      · cases h
        exact .array nofun
      · obtain ⟨items, hitems, heq⟩ := Option.map_eq_some_iff.1 h
        cases heq
        exact .array (wellFormed_of_readItems hitems)
    case h_4 =>
      split at h
      · cases h
        exact wellFormed_object_nil
      · obtain ⟨members, hmembers, heq⟩ := Option.map_eq_some_iff.1 h
        cases heq
        exact wellFormed_of_readMembers wellFormed_object_nil hmembers
    case h_5 => exact wellFormed_of_literal? .null h
    case h_6 => exact wellFormed_of_literal? (.bool true) h
    case h_7 => exact wellFormed_of_literal? (.bool false) h
    case h_8 => exact wellFormed_of_readNumber h

theorem wellFormed_of_readItems {fuel : Nat} {s : List Char} {items : List Json} {t : List Char}
    (h : readItems fuel s = some (items, t)) : ∀ item ∈ items, item.WellFormed := by
  match fuel with
  | 0 => cases h
  | fuel + 1 =>
    rw [readItems] at h
    obtain ⟨⟨item, rest⟩, hitem, h⟩ := Option.bind_eq_some_iff.1 h
    have hwell := wellFormed_of_readValue hitem
    dsimp only at h
    split at h
    · obtain ⟨⟨later, rest'⟩, hlater, heq⟩ := Option.bind_eq_some_iff.1 h
      cases heq
      exact List.forall_mem_cons.2 ⟨hwell, wellFormed_of_readItems hlater⟩
    · cases h
      exact List.forall_mem_singleton.2 hwell
    · cases h

theorem wellFormed_of_readMembers {fuel : Nat} {seen : List (String × Json)} {s : List Char}
    {members : List (String × Json)} {t : List Char} (hseen : (Json.object seen).WellFormed)
    (h : readMembers fuel seen s = some (members, t)) : (Json.object members).WellFormed := by
  match fuel with
  | 0 => cases h
  | fuel + 1 =>
    rw [readMembers] at h
    split at h
    next =>
      obtain ⟨⟨name, rest⟩, -, h⟩ := Option.bind_eq_some_iff.1 h
      dsimp only at h
      split at h
      next =>
        obtain ⟨⟨value, rest'⟩, hvalue, h⟩ := Option.bind_eq_some_iff.1 h
        have hset := hseen.setMember name (wellFormed_of_readValue hvalue)
        dsimp only at h
        split at h
        · exact wellFormed_of_readMembers hset h
        · cases h
          exact hset
        · cases h
      next => cases h
    next => cases h

end

theorem wellFormed_of_parse? {text : String} (h : parse? text = some w) : w.WellFormed := by
  rw [parse?] at h
  split at h
  · next value rest hread =>
    split at h
    · cases h
      exact wellFormed_of_readValue hread
    · cases h
  · cases h

end GatewayPlane.Json
