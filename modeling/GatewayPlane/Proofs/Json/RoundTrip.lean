import GatewayPlane.Proofs.Json.Scalars

/-!
# JSON text is read back

A value whose objects do not repeat a name and whose integers fit a word is read back from its
text, if its doubles are: what is written of a value says where it ends, whatever closes or
continues the list that it stands in.
-/
namespace GatewayPlane.Json

/-- A value as text can hold it: no object repeats a name, and integers fit a word of 64 bits,
signed or not. -/
inductive WellFormed : Json → Prop
  | null : WellFormed .null
  | bool (b : Bool) : WellFormed (.bool b)
  | integer {n : Int} (h : -UInt64.size ≤ 2 * n ∧ n < UInt64.size) : WellFormed (.integer n)
  | float (x : Float) : WellFormed (.float x)
  | string (s : String) : WellFormed (.string s)
  | array {items : List Json} (h : ∀ item ∈ items, WellFormed item) : WellFormed (.array items)
  | object {members : List (String × Json)} (hnames : (members.map (·.1)).Nodup)
      (h : ∀ m ∈ members, WellFormed m.2) : WellFormed (.object members)

mutual

/-- The doubles in a value. -/
def floats : Json → List Float
  | .float x => [x]
  | .array items => floatsOfItems items
  | .object members => floatsOfMembers members
  | .null | .bool _ | .integer _ | .string _ => []

def floatsOfItems : List Json → List Float
  | [] => []
  | item :: items => item.floats ++ floatsOfItems items

def floatsOfMembers : List (String × Json) → List Float
  | [] => []
  | (_, value) :: members => value.floats ++ floatsOfMembers members

end

/-- Whether a double is what its text is read as. -/
def Survives (x : Float) : Prop := readNumber (writeFloat x) = some (.float x, [])

variable {s t rest : List Char}

/-! ## Values -/

theorem readNumber_head {value : Json} (h : readNumber s = some (value, t)) :
    ∃ c later, s = c :: later ∧ (c = '-' ∨ c.isDigit = true) := by
  obtain ⟨c, later, rfl⟩ := List.exists_cons_of_ne_nil (ne_nil_of_readNumber h)
  refine ⟨c, later, rfl, or_iff_not_imp_left.2 fun hminus => ?_⟩
  have hsign : signOf (c :: later) = (false, c :: later) := by
    unfold signOf
    split
    · next heq => exact absurd (List.cons.inj heq).1 hminus
    · rfl
  rw [readNumber_eq, hsign] at h
  obtain ⟨digits, hdigits, -⟩ := Option.bind_eq_some_iff.1 h
  by_contra hdigit
  rw [readDigits, List.takeWhile_cons_of_neg hdigit] at hdigits
  cases hdigits

/-- The signs that no value begins with. -/
def isGap (c : Char) : Bool := c == ' ' || c == '\t' || c == '\n' || c == '\r' || c == ']'

theorem isGap_of_number {c : Char} (h : c = '-' ∨ c.isDigit = true) : isGap c = false := by
  rcases h with rfl | hdigit
  · rfl
  · rw [← Bool.not_eq_true, isGap]
    simp only [Bool.or_eq_true, beq_iff_eq]
    rintro ((((rfl | rfl) | rfl) | rfl) | rfl) <;> cases hdigit

theorem skipSpace_cons {c : Char} (h : isGap c = false) (s : List Char) :
    skipSpace (c :: s) = c :: s := by
  refine List.dropWhile_cons_of_neg ?_
  rw [isGap, Bool.or_eq_false_iff] at h
  rw [h.1]
  decide

theorem readValue_number {value : Json} (h : readNumber s = some (value, t)) (fuel : Nat) :
    readValue (fuel + 1) s = some (value, t) := by
  obtain ⟨c, later, rfl, hc⟩ := readNumber_head h
  rw [readValue, skipSpace_cons (isGap_of_number hc)]
  split
  case h_8 => exact h
  case h_1 heq => cases heq
  all_goals
    next heq =>
    cases heq
    rcases hc with hc | hc <;> cases hc

/-- What is written of a value begins with none of the signs that stand between values. -/
theorem write_head {w : Json} (hw : w.WellFormed) (hfloats : ∀ x ∈ w.floats, Survives x) :
    ∃ c later, w.write = c :: later ∧ isGap c = false := by
  have hnumber {s : List Char} {value : Json} (h : readNumber s = some (value, [])) :
      ∃ c later, s = c :: later ∧ isGap c = false := by
    obtain ⟨c, later, hs, hc⟩ := readNumber_head h
    exact ⟨c, later, hs, isGap_of_number hc⟩
  cases hw with
  | integer h => exact hnumber (readNumber_writeInt h)
  | float x => exact hnumber (hfloats x (List.mem_singleton_self x))
  | null => exact ⟨_, _, rfl, rfl⟩
  | bool b => cases b <;> exact ⟨_, _, rfl, rfl⟩
  | string s => exact ⟨_, _, rfl, rfl⟩
  | array h => exact ⟨_, _, rfl, rfl⟩
  | object hnames h => exact ⟨_, _, rfl, rfl⟩

theorem readValue_string (s : String) (fuel : Nat) (rest : List Char) :
    readValue (fuel + 1) (writeString s ++ rest) = some (.string s, rest) := by
  have hread := readString_writeString s rest
  rw [List.append_cons] at hread
  change (readString (s.toList.flatMap escapeChar ++ ['"'] ++ rest)).map _ = _
  rw [hread]
  rfl

/-- Members with names of their own are put at the end one by one. -/
theorem setMember_of_notMem {members : List (String × Json)} {name : String}
    (h : name ∉ members.map (·.1)) (value : Json) :
    setMember members name value = members ++ [(name, value)] := by
  refine if_neg fun hany => h ?_
  obtain ⟨m, hm, hname⟩ := List.any_eq_true.1 hany
  exact List.mem_map.2 ⟨m, hm, beq_iff_eq.1 hname⟩

/-! ## Lists -/

theorem writeItems_cons (item next : Json) (items : List Json) :
    writeItems (item :: next :: items) = item.write ++ ',' :: writeItems (next :: items) := rfl

theorem writeMembers_cons (m next : String × Json) (members : List (String × Json)) :
    writeMembers (m :: next :: members) =
      writeString m.1 ++ ':' :: m.2.write ++ ',' :: writeMembers (next :: members) := rfl

/-- A list that does not end at once has items. -/
theorem readValue_bracket {c : Char} (h : isGap c = false) (fuel : Nat) :
    readValue (fuel + 1) ('[' :: c :: s) =
      (readItems fuel (c :: s)).map fun t => (.array t.1, t.2) := by
  rw [readValue, skipSpace_cons rfl]
  split
  case h_3 rest heq =>
    cases heq
    rw [skipSpace_cons h]
    split
    · next heq =>
      cases heq
      cases h
    · rfl
  case h_8 _ _ hbracket _ _ _ _ => exact (hbracket _ rfl).elim
  all_goals
    next heq => cases heq

theorem readValue_brace (fuel : Nat) (rest : List Char) :
    readValue (fuel + 1) ('\x7b' :: '"' :: rest) =
      (readMembers fuel [] ('"' :: rest)).map fun t => (.object t.1, t.2) := rfl

theorem readItems_last {fuel : Nat} {item : Json}
    (h : readValue fuel s = some (item, ']' :: rest)) :
    readItems (fuel + 1) s = some ([item], rest) := by
  rw [readItems, h]
  rfl

theorem readItems_next {fuel : Nat} {item : Json}
    (h : readValue fuel s = some (item, ',' :: t)) :
    readItems (fuel + 1) s = (readItems fuel t).map fun l => (item :: l.1, l.2) := by
  rw [readItems, h, Option.map_eq_bind]
  rfl

theorem readMembers_member {fuel : Nat} {seen : List (String × Json)} {name : String} {value : Json}
    (h : readValue fuel s = some (value, t)) :
    readMembers (fuel + 1) seen (writeString name ++ ':' :: s) =
      match skipSpace t with
      | ',' :: rest => readMembers fuel (setMember seen name value) rest
      | '\x7d' :: rest => some (setMember seen name value, rest)
      | _ => none := by
  have hname := readString_writeString name (':' :: s)
  have htext : writeString name ++ ':' :: s =
      '"' :: (name.toList.flatMap escapeChar ++ '"' :: ':' :: s) := by
    rw [writeString, List.cons_append, List.cons_append, List.append_assoc]
    rfl
  rw [htext, readMembers]
  change (readString (name.toList.flatMap escapeChar ++ '"' :: ':' :: s)).bind _ = _
  rw [hname]
  change (readValue fuel s).bind _ = _
  rw [h]
  rfl

theorem readMembers_last {fuel : Nat} {seen : List (String × Json)} {name : String} {value : Json}
    (h : readValue fuel s = some (value, '\x7d' :: rest)) :
    readMembers (fuel + 1) seen (writeString name ++ ':' :: s) =
      some (setMember seen name value, rest) :=
  readMembers_member h

theorem readMembers_next {fuel : Nat} {seen : List (String × Json)} {name : String} {value : Json}
    (h : readValue fuel s = some (value, ',' :: t)) :
    readMembers (fuel + 1) seen (writeString name ++ ':' :: s) =
      readMembers fuel (setMember seen name value) t :=
  readMembers_member h

/-! ## Whole values -/

theorem closes_cons {c : Char} (h : c = ',' ∨ c = ']' ∨ c = '\x7d') (rest : List Char) :
    Closes (c :: rest) := by
  intro c' hc'
  cases hc'
  exact h

theorem head_writeItems {items : List Json} (hne : items ≠ []) (hitems : ∀ i ∈ items, i.WellFormed)
    (hfloats : ∀ x ∈ floatsOfItems items, Survives x) :
    ∃ c later, writeItems items = c :: later ∧ isGap c = false := by
  obtain ⟨item, items, rfl⟩ := List.exists_cons_of_ne_nil hne
  obtain ⟨c, later, hwritten, hgap⟩ := write_head (hitems item List.mem_cons_self)
    fun x hx => hfloats x (List.mem_append_left _ hx)
  cases items with
  | nil => exact ⟨c, later, hwritten, hgap⟩
  | cons next items =>
    rw [writeItems_cons, hwritten]
    exact ⟨c, _, rfl, hgap⟩

theorem head_writeMembers {members : List (String × Json)} (hne : members ≠ []) :
    ∃ later, writeMembers members = '"' :: later := by
  match members with
  | [] => exact absurd rfl hne
  | [m] => exact ⟨_, rfl⟩
  | m :: next :: members => exact ⟨_, rfl⟩

theorem notMem_of_nodup {seen members : List (String × Json)} {m : String × Json}
    (h : ((seen ++ m :: members).map (·.1)).Nodup) : m.1 ∉ seen.map (·.1) := by
  rw [List.map_append, List.nodup_append] at h
  exact fun hm => h.2.2 m.1 hm m.1 List.mem_cons_self rfl

mutual

/-- A value is read back before whatever closes it. Each level of it takes two steps for a
character of its text at most. -/
theorem readValue_write (w : Json) (hw : w.WellFormed) (hfloats : ∀ x ∈ w.floats, Survives x)
    (fuel : Nat) (hfuel : 2 * w.write.length ≤ fuel) {rest : List Char} (hrest : Closes rest) :
    readValue fuel (w.write ++ rest) = some (w, rest) := by
  obtain ⟨fuel, rfl⟩ : ∃ fuel', fuel = fuel' + 1 := by
    obtain ⟨c, later, hwritten, -⟩ := write_head hw hfloats
    rw [hwritten, List.length_cons] at hfuel
    exact Nat.exists_eq_add_one.2 (by omega)
  match w, hw with
  | .null, _ => rfl
  | .bool true, _ => rfl
  | .bool false, _ => rfl
  | .integer n, .integer h =>
    exact readValue_number (readNumber_append (readNumber_writeInt h) hrest) fuel
  | .float x, _ =>
    exact readValue_number (readNumber_append (hfloats x (List.mem_singleton_self x)) hrest) fuel
  | .string s, _ => exact readValue_string s fuel rest
  | .array [], _ => rfl
  | .array (item :: items), .array h =>
    have hread := readItems_write (item :: items) (List.cons_ne_nil _ _) h hfloats fuel
      (by rw [write, List.length_append, List.length_cons] at hfuel; omega) rest
    obtain ⟨c, later, hwritten, hgap⟩ := head_writeItems (List.cons_ne_nil _ _) h hfloats
    rw [hwritten] at hread
    rw [write, hwritten, List.append_assoc, List.cons_append, List.cons_append,
      readValue_bracket hgap]
    exact (congrArg (Option.map _) hread).trans rfl
  | .object [], _ => rfl
  | .object (m :: members), .object hnames h =>
    have hread := readMembers_write (m :: members) (List.cons_ne_nil _ _) [] h hnames hfloats
      fuel (by rw [write, List.length_append, List.length_cons] at hfuel; omega) rest
    obtain ⟨later, hwritten⟩ := head_writeMembers (List.cons_ne_nil m members)
    rw [hwritten] at hread
    rw [write, hwritten, List.append_assoc, List.cons_append, List.cons_append, readValue_brace]
    exact (congrArg (Option.map _) hread).trans rfl

theorem readItems_write (items : List Json) (hne : items ≠ []) (hitems : ∀ i ∈ items, i.WellFormed)
    (hfloats : ∀ x ∈ floatsOfItems items, Survives x) (fuel : Nat)
    (hfuel : 2 * (writeItems items).length + 1 ≤ fuel) (rest : List Char) :
    readItems fuel (writeItems items ++ ']' :: rest) = some (items, rest) := by
  obtain ⟨fuel, rfl⟩ : ∃ fuel', fuel = fuel' + 1 := Nat.exists_eq_add_one.2 (by omega)
  match items with
  | [] => exact absurd rfl hne
  | [item] =>
    exact readItems_last (readValue_write item (hitems item List.mem_cons_self)
      (fun x hx => hfloats x (List.mem_append_left _ hx)) fuel (Nat.le_of_succ_le_succ hfuel)
      (closes_cons (.inr (.inl rfl)) rest))
  | item :: next :: items =>
    rw [writeItems_cons, List.length_append, List.length_cons] at hfuel
    have hitem := readValue_write item (hitems item List.mem_cons_self)
      (fun x hx => hfloats x (List.mem_append_left _ hx)) fuel (by omega)
      (closes_cons (.inl rfl) (writeItems (next :: items) ++ ']' :: rest))
    have hlater := readItems_write (next :: items) (List.cons_ne_nil _ _)
      (fun i hi => hitems i (List.mem_cons_of_mem _ hi))
      (fun x hx => hfloats x (List.mem_append_right _ hx)) fuel (by omega) rest
    rw [writeItems_cons, List.append_assoc, List.cons_append, readItems_next hitem, hlater]
    rfl

theorem readMembers_write (members : List (String × Json)) (hne : members ≠ [])
    (seen : List (String × Json)) (hmembers : ∀ m ∈ members, m.2.WellFormed)
    (hnames : ((seen ++ members).map (·.1)).Nodup)
    (hfloats : ∀ x ∈ floatsOfMembers members, Survives x) (fuel : Nat)
    (hfuel : 2 * (writeMembers members).length + 1 ≤ fuel) (rest : List Char) :
    readMembers fuel seen (writeMembers members ++ '\x7d' :: rest) =
      some (seen ++ members, rest) := by
  obtain ⟨fuel, rfl⟩ : ∃ fuel', fuel = fuel' + 1 := Nat.exists_eq_add_one.2 (by omega)
  match members with
  | [] => exact absurd rfl hne
  | [(name, value)] =>
    have hlength : (writeMembers [(name, value)]).length =
        (writeString name).length + value.write.length + 1 := by
      rw [writeMembers, List.length_append, List.length_cons]
      omega
    have hvalue := readValue_write value (hmembers (name, value) List.mem_cons_self)
      (fun x hx => hfloats x (List.mem_append_left _ hx)) fuel (by omega)
      (closes_cons (.inr (.inr rfl)) rest)
    have hnew : name ∉ seen.map (·.1) := notMem_of_nodup hnames
    rw [writeMembers, List.append_assoc, List.cons_append, readMembers_last hvalue,
      setMember_of_notMem hnew]
  | (name, value) :: next :: members =>
    have hlength : (writeMembers ((name, value) :: next :: members)).length =
        (writeString name).length + value.write.length +
          (writeMembers (next :: members)).length + 2 := by
      rw [writeMembers_cons]
      simp only [List.length_append, List.length_cons]
      omega
    have hvalue := readValue_write value (hmembers (name, value) List.mem_cons_self)
      (fun x hx => hfloats x (List.mem_append_left _ hx)) fuel (by omega)
      (closes_cons (.inl rfl) (writeMembers (next :: members) ++ '\x7d' :: rest))
    have hnew : name ∉ seen.map (·.1) := notMem_of_nodup hnames
    have hlater := readMembers_write (next :: members) (List.cons_ne_nil _ _)
      (seen ++ [(name, value)]) (fun m hm => hmembers m (List.mem_cons_of_mem _ hm))
      (by rwa [List.append_assoc]) (fun x hx => hfloats x (List.mem_append_right _ hx))
      fuel (by omega) rest
    rw [writeMembers_cons, List.append_assoc, List.append_assoc, List.cons_append,
      List.cons_append, readMembers_next hvalue, setMember_of_notMem hnew, hlater,
      List.append_assoc]
    rfl

end

/-- A value is read back from its text, if its doubles are. -/
theorem parse?_render {w : Json} (hw : w.WellFormed) (hfloats : ∀ x ∈ w.floats, Survives x) :
    parse? (render w) = some w := by
  have hread := readValue_write w hw hfloats (2 * w.write.length + 2) (by omega) closes_nil
  rw [List.append_nil] at hread
  rw [parse?, render, String.toList_ofList, hread]
  rfl

end GatewayPlane.Json
