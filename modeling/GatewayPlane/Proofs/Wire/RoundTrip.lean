import GatewayPlane.Wire.Schema

/-!
# Reading what was written

A reader that goes by a schema takes back from the bytes of a message exactly the fields
that were written, when these are fields that the schema knows, of the types that it
gives them, nested no deeper than it allows.
-/
namespace GatewayPlane.Wire

/-! ## Varints -/

theorem toNat_toUInt8_of_lt {n : Nat} (h : n < 256) : n.toUInt8.toNat = n := by
  simp [Nat.mod_eq_of_lt h]

theorem writeVarint_ne_nil (n : Nat) : writeVarint n ≠ [] := by
  unfold writeVarint
  split <;> exact List.cons_ne_nil _ _

/-- Each byte that may be read makes room for seven more bits. -/
theorem readGroups_writeVarint {count n : Nat} (h : n < Nat.pow 128 (count + 1)) (rest : Bytes) :
    readGroups (count + 1) (writeVarint n ++ rest) = some (n, rest) := by
  induction count generalizing n with
  | zero =>
    have hsmall : n < 128 := h
    rw [writeVarint, if_pos hsmall, List.singleton_append, readGroups,
      toNat_toUInt8_of_lt (by omega), if_pos hsmall]
  | succ count ih =>
    rw [writeVarint]
    by_cases hsmall : n < 128
    · rw [if_pos hsmall, List.singleton_append, readGroups, toNat_toUInt8_of_lt (by omega),
        if_pos hsmall]
    · have hhigh : n / 128 < Nat.pow 128 (count + 1) := by
        rw [Nat.div_lt_iff_lt_mul (by decide)]
        exact h
      have hbyte := toNat_toUInt8_of_lt (n := n % 128 + 128) (by omega)
      rw [if_neg hsmall, List.cons_append, readGroups, hbyte, if_neg (by omega), ih hhigh,
        Option.map_some]
      have hn : n % 128 + 128 - 128 + 128 * (n / 128) = n := by omega
      exact congrArg (fun n => some (n, rest)) hn

theorem readVarint_writeVarint {n : Nat} (h : n < UInt64.size) (rest : Bytes) :
    readVarint (writeVarint n ++ rest) = some (n, rest) := by
  have hgroups : n < Nat.pow 128 10 := Nat.lt_trans h (by decide)
  rw [readVarint, readGroups_writeVarint hgroups]
  exact if_pos h

/-! ## Parts of fields -/

/-- Numbers of fields take 29 bits of a key. -/
def fieldNumberLimit : Nat := 536870912

theorem Form.ofCode?_code (f : Form) : ofCode? f.code = some f := by cases f <;> rfl

theorem Form.code_lt (f : Form) : f.code < 8 := by cases f <;> decide

theorem readKey_writeKey {number : Nat} (h : 0 < number) (hlimit : number < fieldNumberLimit)
    (form : Form) (rest : Bytes) :
    readKey (writeKey number form ++ rest) = some (number, form, rest) := by
  have hcode := form.code_lt
  have hkey : 8 * number + form.code < UInt32.size := by
    unfold fieldNumberLimit at hlimit
    unfold UInt32.size
    omega
  have hword : 8 * number + form.code < UInt64.size := Nat.lt_trans hkey (by decide)
  rw [readKey, writeKey, readVarint_writeVarint hword]
  change (if _ then _ else _) = _
  rw [if_pos ⟨hkey, by omega⟩, show (8 * number + form.code) % 8 = form.code by omega,
    show (8 * number + form.code) / 8 = number by omega, form.ofCode?_code]
  rfl

theorem readBytes_append (bytes rest : Bytes) :
    readBytes bytes.length (bytes ++ rest) = some (bytes, rest) := by
  rw [readBytes, if_pos (by simp), List.take_left, List.drop_left]

/-- A count of bytes and that many bytes. -/
def delimited (bytes : Bytes) : Bytes := writeVarint bytes.length ++ bytes

theorem readDelimited_delimited {bytes : Bytes} (h : bytes.length < UInt64.size) (rest : Bytes) :
    readDelimited (delimited bytes ++ rest) = some (bytes, rest) := by
  rw [readDelimited, delimited, List.append_assoc, readVarint_writeVarint h]
  exact readBytes_append bytes rest

/-! ## Texts -/

theorem byteArray_toList_loop (b : ByteArray) (i : Nat) (h : i ≤ b.size) (acc : Bytes) :
    ByteArray.toList.loop b i acc = acc.reverse ++ b.data.toList.drop i := by
  -- on how many bytes there are left to move to the accumulator
  induction hk : b.size - i generalizing i acc with
  | zero =>
    have hend : b.size ≤ i := Nat.sub_eq_zero_iff_le.1 hk
    rw [ByteArray.toList.loop, if_neg (Nat.not_lt.2 hend), List.drop_of_length_le hend,
      List.append_nil]
  | succ k ih =>
    have hi : i < b.size := Nat.lt_of_sub_eq_succ hk
    have hbyte : b.get! i = b.data.toList[i] := by
      cases b
      exact getElem!_pos _ i hi
    rw [ByteArray.toList.loop, if_pos hi, ih (i + 1) hi _ (by omega), List.reverse_cons,
      List.append_assoc, List.drop_eq_getElem_cons hi, hbyte]
    rfl

theorem toText?_ofText (s : String) : toText? (ofText s) = some s := by
  have hbytes : (⟨(ofText s).toArray⟩ : ByteArray) = s.toByteArray := by
    rw [ofText, String.toUTF8, ByteArray.toList, byteArray_toList_loop _ 0 (Nat.zero_le _)]
    rfl
  rw [toText?, hbytes, String.fromUTF8?, dif_pos s.isValidUTF8]
  rfl

/-! ## Payloads -/

theorem readPacked_flatMap {l : List Nat} (h : ∀ n ∈ l, n < UInt64.size) {fuel : Nat}
    (hfuel : l.length ≤ fuel) : readPacked fuel (l.flatMap writeVarint) = some l := by
  induction l generalizing fuel with
  | nil => cases fuel <;> rfl
  | cons n rest ih =>
    obtain ⟨hn, hrest⟩ := List.forall_mem_cons.1 h
    obtain ⟨fuel, rfl⟩ := Nat.exists_eq_add_one_of_ne_zero (Nat.ne_zero_of_lt hfuel)
    rw [List.flatMap_cons, readPacked, readVarint_writeVarint hn]
    · simp [ih hrest (Nat.le_of_succ_le_succ hfuel)]
    · simp [writeVarint_ne_nil]

theorem length_le_flatMap_writeVarint (l : List Nat) :
    l.length ≤ (l.flatMap writeVarint).length := by
  induction l with
  | nil => exact Nat.le_refl 0
  | cons n rest ih =>
    have hn := List.length_pos_iff.2 (writeVarint_ne_nil n)
    rw [List.flatMap_cons, List.length_append, List.length_cons]
    omega

namespace Payload

/-- The form in which a payload is written. -/
def form : Payload → Form
  | number _ => .varint
  | fixed32 _ => .fixed32
  | fixed64 _ => .fixed64
  | numbers _ | text _ | bytes _ | message _ => .delimited

/-- What a payload says, without the count of its bytes. -/
def content : Payload → Bytes
  | number n => writeVarint n
  | numbers l => l.flatMap writeVarint
  | fixed32 content | fixed64 content | bytes content => content
  | text s => ofText s
  | message fields => Wire.encode fields

/-- What follows the key of a payload. -/
def body (p : Payload) : Bytes :=
  if p.form = .delimited then delimited p.content else p.content

theorem encode_eq (number : Nat) (p : Payload) :
    p.encode number = writeKey number p.form ++ p.body := by
  cases p <;> simp [encode, writeDelimited, body, form, content, delimited]

theorem length_content_le (p : Payload) : p.content.length ≤ p.body.length := by
  unfold body
  split
  · simp [delimited]
  · exact Nat.le_refl _

end Payload

/-- As many bytes as fields, or more. -/
theorem length_le_encode (fields : List Field) : fields.length ≤ (encode fields).length := by
  induction fields with
  | nil => exact Nat.le_refl 0
  | cons f rest ih =>
    obtain ⟨number, p⟩ := f
    have hkey := List.length_pos_iff.2 (writeVarint_ne_nil (8 * number + p.form.code))
    rw [encode, p.encode_eq, writeKey, List.length_append, List.length_append, List.length_cons]
    omega

/-! ## Messages -/

variable {σ : Type} {schema : Schema σ}

/-- Whether a payload is of a type, when the messages in it are `below`. -/
def FieldType.Admits (schema : Schema σ) (below : Shape σ → List Field → Prop) :
    FieldType σ → Payload → Prop
  | number, .number n => n < UInt64.size
  | numbers, .numbers l => ∀ n ∈ l, n < UInt64.size
  | fixed32, .fixed32 word => word.length = 4
  | fixed64, .fixed64 word => word.length = 8
  | text, .text _ => True
  | bytes, .bytes _ => True
  | message type, .message fields => below (schema type) fields
  | entries value, .message fields => below [(1, text), (2, value)] fields
  | _, _ => False

namespace Shape

/-- Whether a message is of a shape, when the messages in it are `below`. -/
def Fits (schema : Schema σ) (below : Shape σ → List Field → Prop) (shape : Shape σ)
    (fields : List Field) : Prop :=
  ∀ f ∈ fields, 0 < f.1 ∧ f.1 < fieldNumberLimit ∧
    ∃ type, shape.lookup f.1 = some type ∧ type.Admits schema below f.2

theorem Fits.nil {below : Shape σ → List Field → Prop} {shape : Shape σ} :
    shape.Fits schema below [] := nofun

theorem Fits.cons {below : Shape σ → List Field → Prop} {shape : Shape σ} {type : FieldType σ}
    {number : Nat} {p : Payload} {rest : List Field} (hnumber : 0 < number)
    (hlimit : number < fieldNumberLimit) (htype : shape.lookup number = some type)
    (hp : type.Admits schema below p) (hrest : shape.Fits schema below rest) :
    shape.Fits schema below ((number, p) :: rest) :=
  List.forall_mem_cons.2 ⟨⟨hnumber, hlimit, type, htype, hp⟩, hrest⟩

theorem Fits.append {below : Shape σ → List Field → Prop} {shape : Shape σ}
    {fields fields' : List Field} (h : shape.Fits schema below fields)
    (h' : shape.Fits schema below fields') : shape.Fits schema below (fields ++ fields') :=
  List.forall_mem_append.2 ⟨h, h'⟩

/-- Whether a message is of a shape, with at most `limit` levels of messages in it. -/
def Conforms (schema : Schema σ) : Nat → Shape σ → List Field → Prop
  | 0 => Fits schema fun _ _ => False
  | limit + 1 => Fits schema (Conforms schema limit)

end Shape

/-- Whether a reader takes back messages from what was written of them. -/
def Below.TakesBack (below : Below σ) (P : Shape σ → List Field → Prop) : Prop :=
  ∀ shape fields, P shape fields → (encode fields).length < UInt64.size →
    ∃ read, below = some read ∧ read shape (encode fields) = some fields

variable {below : Below σ} {P : Shape σ → List Field → Prop}

/-- A payload is taken back from its form and what follows its key. -/
theorem FieldType.read_body (hbelow : below.TakesBack P) {type : FieldType σ} {p : Payload}
    (h : type.Admits schema P p) (hlength : p.body.length < UInt64.size) (rest : Bytes) :
    type.read schema below p.form (p.body ++ rest) = some (p, rest) := by
  have hcontent : p.content.length < UInt64.size :=
    Nat.lt_of_le_of_lt p.length_content_le hlength
  have hdelimited := readDelimited_delimited hcontent rest
  unfold Admits at h
  split at h
  · simp [read, Payload.form, Payload.body, Payload.content, readVarint_writeVarint h]
  · next l =>
    have hpacked : readPacked (Payload.numbers l).content.length (Payload.numbers l).content =
        some l := readPacked_flatMap h (length_le_flatMap_writeVarint l)
    simp [read, Payload.form, Payload.body, hdelimited, hpacked]
  · next word =>
    have hword := readBytes_append word rest
    rw [h] at hword
    simp [read, Payload.form, Payload.body, Payload.content, hword]
  · next word =>
    have hword := readBytes_append word rest
    rw [h] at hword
    simp [read, Payload.form, Payload.body, Payload.content, hword]
  · next s =>
    have htext : toText? (Payload.text s).content = some s := toText?_ofText s
    simp [read, Payload.form, Payload.body, hdelimited, htext]
  · simp [read, Payload.form, Payload.body, hdelimited]
    rfl
  · next fields =>
    obtain ⟨readBelow, rfl, hread⟩ := hbelow _ _ h hcontent
    have hfields : readBelow _ (Payload.message fields).content = some fields := hread
    simp [read, Payload.form, Payload.body, hdelimited, hfields]
  · next fields =>
    obtain ⟨readBelow, rfl, hread⟩ := hbelow _ _ h hcontent
    have hfields : readBelow _ (Payload.message fields).content = some fields := hread
    simp [read, Payload.form, Payload.body, hdelimited, hfields]
  · exact h.elim

namespace Shape

theorem readFields_encode (hbelow : below.TakesBack P) {shape : Shape σ} {fields : List Field}
    (h : shape.Fits schema P fields) (hlength : (encode fields).length < UInt64.size)
    {limit fuel : Nat} (hfuel : fields.length ≤ fuel) :
    shape.readFields schema below limit fuel (encode fields) = some fields := by
  induction fields generalizing fuel with
  | nil => cases fuel <;> rfl
  | cons f rest ih =>
    obtain ⟨number, p⟩ := f
    obtain ⟨⟨hnumber, hlimit, type, htype, hp⟩, hrest⟩ := List.forall_mem_cons.1 h
    obtain ⟨fuel, rfl⟩ := Nat.exists_eq_add_one_of_ne_zero (Nat.ne_zero_of_lt hfuel)
    rw [encode, p.encode_eq, List.append_assoc] at hlength ⊢
    rw [List.length_append, List.length_append] at hlength
    rw [readFields, readKey_writeKey hnumber hlimit]
    · have hbody := type.read_body (p := p) hbelow hp (by omega) (encode rest)
      have hlater := ih hrest (by omega) (Nat.le_of_succ_le_succ hfuel)
      simp [htype, hbody, hlater]
    · simp [writeKey, writeVarint_ne_nil]

/-- What is written of a message that a schema knows is read as that message. -/
theorem read_encode {limit : Nat} {shape : Shape σ} {fields : List Field}
    (h : shape.Conforms schema limit fields) (hlength : (encode fields).length < UInt64.size) :
    shape.read schema limit (encode fields) = some fields := by
  induction limit generalizing shape fields with
  | zero => exact readFields_encode nofun h hlength (length_le_encode fields)
  | succ limit ih =>
    refine readFields_encode (fun inner fs hinner hshort => ?_) h hlength (length_le_encode fields)
    exact ⟨_, rfl, ih hinner hshort⟩

end Shape

end GatewayPlane.Wire
