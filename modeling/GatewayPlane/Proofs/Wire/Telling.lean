import GatewayPlane.Proofs.Wire.RoundTrip

/-!
# What the bytes of a message show

Each part of a message says where it ends. So its bytes show of each field the number, the form
and the content, whatever the message is: neither a schema nor a bound on sizes is needed.
-/
namespace GatewayPlane.Wire

/-! ## Parts that say where they end -/

theorem writeVarint_append_inj {m n : Nat} {r s : Bytes}
    (h : writeVarint m ++ r = writeVarint n ++ s) : m = n ∧ r = s := by
  induction m using Nat.strongRecOn generalizing n with
  | _ m ih =>
    rw [writeVarint.eq_def m, writeVarint.eq_def n] at h
    have hlow (k : Nat) : (k % 128 + 128).toUInt8.toNat = k % 128 + 128 :=
      toNat_toUInt8_of_lt (by omega)
    by_cases hm : m < 128 <;> by_cases hn : n < 128
    · rw [if_pos hm, if_pos hn] at h
      obtain ⟨hbyte, hrest⟩ := List.cons.inj h
      have hvalue := congrArg UInt8.toNat hbyte
      rw [toNat_toUInt8_of_lt (by omega), toNat_toUInt8_of_lt (by omega)] at hvalue
      exact ⟨hvalue, hrest⟩
    · rw [if_pos hm, if_neg hn] at h
      have hvalue := congrArg UInt8.toNat (List.cons.inj h).1
      rw [toNat_toUInt8_of_lt (by omega), hlow] at hvalue
      omega
    · rw [if_neg hm, if_pos hn] at h
      have hvalue := congrArg UInt8.toNat (List.cons.inj h).1
      rw [toNat_toUInt8_of_lt (n := n) (by omega), hlow] at hvalue
      omega
    · rw [if_neg hm, if_neg hn] at h
      obtain ⟨hbyte, hrest⟩ := List.cons.inj h
      have hvalue := congrArg UInt8.toNat hbyte
      rw [hlow, hlow] at hvalue
      obtain ⟨hhigh, hrest⟩ := ih (m / 128) (by omega) hrest
      exact ⟨by omega, hrest⟩

theorem writeKey_append_inj {m n : Nat} {f g : Form} {r s : Bytes}
    (h : writeKey m f ++ r = writeKey n g ++ s) : m = n ∧ f = g ∧ r = s := by
  obtain ⟨hkey, hrest⟩ := writeVarint_append_inj h
  have hf := f.code_lt
  have hg := g.code_lt
  have hcode : f.code = g.code := by omega
  refine ⟨by omega, Option.some.inj ?_, hrest⟩
  rw [← f.ofCode?_code, ← g.ofCode?_code, hcode]

theorem delimited_append_inj {a b r s : Bytes} (h : delimited a ++ r = delimited b ++ s) :
    a = b ∧ r = s := by
  rw [delimited, delimited, List.append_assoc, List.append_assoc] at h
  obtain ⟨hlength, hrest⟩ := writeVarint_append_inj h
  exact List.append_inj hrest hlength

theorem ofText_injective {s t : String} (h : ofText s = ofText t) : s = t := by
  rw [← Option.some_inj, ← toText?_ofText s, ← toText?_ofText t, h]

theorem flatMap_writeVarint_inj {l l' : List Nat}
    (h : l.flatMap writeVarint = l'.flatMap writeVarint) : l = l' := by
  induction l generalizing l' with
  | nil =>
    cases l' with
    | nil => rfl
    | cons n rest =>
      rw [List.flatMap_nil, List.flatMap_cons] at h
      exact absurd (List.append_eq_nil_iff.1 h.symm).1 (writeVarint_ne_nil n)
  | cons m rest ih =>
    cases l' with
    | nil =>
      rw [List.flatMap_nil, List.flatMap_cons] at h
      exact absurd (List.append_eq_nil_iff.1 h).1 (writeVarint_ne_nil m)
    | cons n rest' =>
      rw [List.flatMap_cons, List.flatMap_cons] at h
      obtain ⟨rfl, hrest⟩ := writeVarint_append_inj h
      rw [ih hrest]

/-! ## What the bytes of a message show -/

/-- Whether a payload says where it ends. -/
def Payload.Ends : Payload → Prop
  | fixed32 _ | fixed64 _ => False
  | _ => True

theorem Payload.body_append_inj {p q : Payload} (hp : p.Ends) (hq : q.Ends)
    (hform : p.form = q.form) {r s : Bytes} (h : p.body ++ r = q.body ++ s) :
    p.content = q.content ∧ r = s := by
  unfold body at h
  rw [hform] at h
  by_cases hdelimited : q.form = .delimited
  · rw [if_pos hdelimited, if_pos hdelimited] at h
    exact delimited_append_inj h
  · rw [if_neg hdelimited, if_neg hdelimited] at h
    cases q with
    | number n =>
      cases p with
      | number m =>
        obtain ⟨rfl, hrest⟩ := writeVarint_append_inj h
        exact ⟨rfl, hrest⟩
      | fixed32 | fixed64 => exact hp.elim
      | numbers | text | bytes | message => exact nomatch hform
    | fixed32 | fixed64 => exact hq.elim
    | numbers | text | bytes | message => exact absurd rfl hdelimited

/-- The number, the form and the content of each field. -/
def outline (fields : List Field) : List (Nat × Form × Bytes) :=
  fields.map fun f => (f.1, f.2.form, f.2.content)

theorem encode_eq_flatMap (fields : List Field) : encode fields =
    (outline fields).flatMap fun part => writeKey part.1 part.2.1 ++
      if part.2.1 = .delimited then delimited part.2.2 else part.2.2 := by
  induction fields with
  | nil => rfl
  | cons f rest ih =>
    obtain ⟨n, p⟩ := f
    rw [encode, p.encode_eq, ih]
    rfl

theorem eq_nil_of_encode_eq_nil {fields : List Field} (h : encode fields = []) : fields = [] := by
  have hlength := length_le_encode fields
  rw [h] at hlength
  exact List.eq_nil_of_length_eq_zero (Nat.le_zero.1 hlength)

/-- Bytes show the outline of the fields that they were written of. -/
theorem outline_eq_of_encode_eq {fs gs : List Field} (hfs : ∀ f ∈ fs, f.2.Ends)
    (hgs : ∀ g ∈ gs, g.2.Ends) (h : encode fs = encode gs) : outline fs = outline gs := by
  induction fs generalizing gs with
  | nil => rw [eq_nil_of_encode_eq_nil h.symm]
  | cons f rest ih =>
    cases gs with
    | nil => cases eq_nil_of_encode_eq_nil h
    | cons g rest' =>
      obtain ⟨m, p⟩ := f
      obtain ⟨n, q⟩ := g
      obtain ⟨hp, hrest⟩ := List.forall_mem_cons.1 hfs
      obtain ⟨hq, hrest'⟩ := List.forall_mem_cons.1 hgs
      rw [encode, encode, p.encode_eq, q.encode_eq, List.append_assoc, List.append_assoc] at h
      obtain ⟨rfl, hform, hbody⟩ := writeKey_append_inj h
      obtain ⟨hcontent, hbytes⟩ := Payload.body_append_inj hp hq hform hbody
      change (m, p.form, p.content) :: outline rest = (m, q.form, q.content) :: outline rest'
      rw [hform, hcontent, ih hrest hrest' hbytes]

theorem number_eq_of_encode_eq {m n : Nat} {p q : Payload} {fs gs : List Field}
    (h : encode ((m, p) :: fs) = encode ((n, q) :: gs)) : m = n := by
  rw [encode, encode, p.encode_eq, q.encode_eq, List.append_assoc, List.append_assoc] at h
  exact (writeKey_append_inj h).1

end GatewayPlane.Wire
