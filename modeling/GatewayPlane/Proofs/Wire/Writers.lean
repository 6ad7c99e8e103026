import GatewayPlane.Proofs.Wire.Telling
import GatewayPlane.Wire.Message

/-!
# What writers tell

Parts of a message whose numbers differ are told apart, and what a writer tells by its bytes
follows from what its parts tell: from texts and numbers, which are left out when they have
their default value, to messages within messages.
-/
namespace GatewayPlane.Wire

variable {α β γ δ : Type} {ns ms : List Nat} {write : α → List Field} {view : α → β} {n : Nat}

/-- Whether a writer that uses only some numbers tells something of what it writes. -/
structure Tells (ns : List Nat) (write : α → List Field) (view : α → β) : Prop where
  fits : ∀ a, ∀ f ∈ write a, f.1 ∈ ns ∧ f.2.Ends
  told : ∀ a b, encode (write a) = encode (write b) → view a = view b

namespace Tells

theorem imp {view' : α → δ} (h : Tells ns write view)
    (hview : ∀ a b, view a = view b → view' a = view' b) : Tells ns write view' where
  fits := h.fits
  told a b heq := hview a b (h.told a b heq)

theorem comap (h : Tells ns write view) (g : γ → α) :
    Tells ns (fun c => write (g c)) (fun c => view (g c)) where
  fits c := h.fits (g c)
  told c d := h.told (g c) (g d)

/-- Parts with numbers of their own tell what each of them tells. -/
theorem append {write' : α → List Field} {view' : α → δ} (h : Tells ns write view)
    (h' : Tells ms write' view') (hapart : ∀ n ∈ ns, n ∉ ms) :
    Tells (ns ++ ms) (fun a => write a ++ write' a) (fun a => (view a, view' a)) where
  fits a f hf := by
    rcases List.mem_append.1 hf with hf | hf
    · exact (h.fits a f hf).imp (List.mem_append_left ms) id
    · exact (h'.fits a f hf).imp (List.mem_append_right ns) id
  told a b heq := by
    have hends (c : α) : ∀ f ∈ write c ++ write' c, f.2.Ends :=
      List.forall_mem_append.2 ⟨fun f hf => (h.fits c f hf).2, fun f hf => (h'.fits c f hf).2⟩
    have houtline := outline_eq_of_encode_eq (hends a) (hends b) heq
    -- the numbers tell which part a field belongs to
    have hfirst (c : α) : (outline (write c ++ write' c)).filter (fun part => part.1 ∈ ns) =
        outline (write c) := by
      rw [outline, outline, List.map_append, List.filter_append, List.filter_eq_self.2,
        List.filter_eq_nil_iff.2, List.append_nil]
      · simp only [List.forall_mem_map, decide_eq_true_eq]
        exact fun f hf hn => hapart f.1 hn (h'.fits c f hf).1
      · simp only [List.forall_mem_map, decide_eq_true_eq]
        exact fun f hf => (h.fits c f hf).1
    have hsecond (c : α) : (outline (write c ++ write' c)).filter (fun part => part.1 ∉ ns) =
        outline (write' c) := by
      rw [outline, outline, List.map_append, List.filter_append, List.filter_eq_nil_iff.2,
        List.filter_eq_self.2, List.nil_append]
      · simp only [List.forall_mem_map, decide_eq_true_eq]
        exact fun f hf hn => hapart f.1 hn (h'.fits c f hf).1
      · simp only [List.forall_mem_map, decide_eq_true_eq]
        exact fun f hf hn => hn (h.fits c f hf).1
    refine Prod.ext (h.told a b ?_) (h'.told a b ?_)
    · rw [encode_eq_flatMap, encode_eq_flatMap, ← hfirst a, ← hfirst b, houtline]
    · rw [encode_eq_flatMap, encode_eq_flatMap, ← hsecond a, ← hsecond b, houtline]

/-- A list of payloads under one number tells what each of them tells. -/
theorem payloads (payload : α → Payload) (hends : ∀ a, (payload a).Ends)
    (htold : ∀ a b, (payload a).content = (payload b).content → view a = view b) :
    Tells [n] (fun l : List α => l.map fun a => (n, payload a)) (List.map view) where
  fits l := List.forall_mem_map.2 fun a _ => ⟨List.mem_singleton_self n, hends a⟩
  told l l' heq := by
    have hall (l : List α) : ∀ f ∈ l.map fun a => (n, payload a), f.2.Ends :=
      List.forall_mem_map.2 fun a _ => hends a
    have houtline := outline_eq_of_encode_eq (hall l) (hall l') heq
    clear heq
    induction l generalizing l' with
    | nil =>
      cases l' with
      | nil => rfl
      | cons => cases houtline
    | cons a rest ih =>
      cases l' with
      | nil => cases houtline
      | cons b rest' =>
        obtain ⟨hfirst, hrest⟩ := List.cons.inj houtline
        obtain ⟨-, hpart⟩ := Prod.mk.inj hfirst
        obtain ⟨-, hcontent⟩ := Prod.mk.inj hpart
        rw [List.map_cons, List.map_cons, htold a b hcontent, ih rest' hrest]

theorem payload (payload : α → Payload) (hends : ∀ a, (payload a).Ends)
    (htold : ∀ a b, (payload a).content = (payload b).content → view a = view b) :
    Tells [n] (fun a => [(n, payload a)]) view :=
  ((payloads payload hends htold).comap fun a => [a]).imp fun _ _ heq => (List.cons.inj heq).1

/-- Nothing is written for one value, which is so told from all others. -/
theorem orDefault [DecidableEq α] (h : Tells ns write view) (hwritten : ∀ a, write a ≠ [])
    (default : α) : Tells ns (fun a => if a = default then [] else write a) view where
  fits a f hf := by
    split at hf
    · cases hf
    · exact h.fits a f hf
  told a b heq := by
    by_cases ha : a = default <;> by_cases hb : b = default
    · rw [ha, hb]
    · rw [if_pos ha, if_neg hb] at heq
      exact absurd (eq_nil_of_encode_eq_nil heq.symm) (hwritten b)
    · rw [if_neg ha, if_pos hb] at heq
      exact absurd (eq_nil_of_encode_eq_nil heq) (hwritten a)
    · rw [if_neg ha, if_neg hb] at heq
      exact h.told a b heq

theorem optional (h : Tells ns write view) (hwritten : ∀ a, write a ≠ []) :
    Tells ns (Wire.optional write) (Option.map view) where
  fits
    | none => List.forall_mem_nil _
    | some a => h.fits a
  told
    | none, none => fun _ => rfl
    | none, some b => fun heq => absurd (eq_nil_of_encode_eq_nil heq.symm) (hwritten b)
    | some a, none => fun heq => absurd (eq_nil_of_encode_eq_nil heq) (hwritten a)
    | some a, some b => fun heq => congrArg some (h.told a b heq)

/-! ## Single fields -/

theorem number : Tells [n] (Wire.number n) id :=
  payload .number (fun _ => trivial) fun _ _ heq =>
    (writeVarint_append_inj (congrArg (· ++ []) heq)).1

theorem numberOrDefault : Tells [n] (Wire.numberOrDefault n) id :=
  number.orDefault (fun _ => List.cons_ne_nil _ _) 0

theorem text : Tells [n] (Wire.text n) id :=
  payload .text (fun _ => trivial) fun _ _ => ofText_injective

theorem textOrDefault : Tells [n] (Wire.textOrDefault n) id :=
  text.orDefault (fun _ => List.cons_ne_nil _ _) ""

theorem bytesOrDefault : Tells [n] (Wire.bytesOrDefault n) id :=
  orDefault (payload .bytes (fun _ => trivial) fun _ _ => id) (fun _ => List.cons_ne_nil _ _) []

theorem packedNumbers : Tells [n] (Wire.packedNumbers n) id :=
  orDefault (payload .numbers (fun _ => trivial) fun _ _ => flatMap_writeVarint_inj)
    (fun _ => List.cons_ne_nil _ _) []

/-- A field that is there or not. -/
theorem flag {p : Payload} (hends : p.Ends) :
    Tells [n] (fun there : Bool => if there then [(n, p)] else []) id where
  fits
    | true => List.forall_mem_singleton.2 ⟨List.mem_singleton_self n, hends⟩
    | false => List.forall_mem_nil _
  told
    | true, true | false, false => fun _ => rfl
    | true, false => fun heq => nomatch eq_nil_of_encode_eq_nil heq
    | false, true => fun heq => nomatch eq_nil_of_encode_eq_nil heq.symm

/-! ## Messages within -/

theorem message (h : Tells ns write view) : Tells [n] (fun a => Wire.message n (write a)) view :=
  payload (fun a => .message (write a)) (fun _ => trivial) h.told

theorem optionalMessage (h : Tells ns write view) :
    Tells [n] (Wire.optional fun a => Wire.message n (write a)) (Option.map view) :=
  h.message.optional fun _ => List.cons_ne_nil _ _

theorem messages (h : Tells ns write view) : Tells [n] (Wire.messages n write) (List.map view) := by
  have hlist := payloads (n := n) (fun a => .message (write a)) (fun _ => trivial) h.told
  rwa [show Wire.messages n write = fun l => l.map fun a => (n, .message (write a)) from
    funext fun _ => List.map_eq_flatMap.symm]

theorem texts : Tells [n] (Wire.texts n) id := by
  have hlist := payloads (n := n) .text (fun _ => trivial) fun _ _ => ofText_injective
  rw [show Wire.texts n = fun l => l.map fun s => (n, .text s) from
    funext fun _ => List.map_eq_flatMap.symm]
  exact hlist.imp fun _ _ heq => by simpa using heq

theorem boxedNumber : Tells [n] (Wire.boxedNumber n) id := numberOrDefault.message

theorem optionalBoxedWord :
    Tells [n] (Wire.optional fun w : UInt32 => Wire.boxedNumber n w.toNat) id := by
  have hword : Tells [n] (fun w : UInt32 => Wire.boxedNumber n w.toNat) id :=
    (boxedNumber.comap UInt32.toNat).imp fun _ _ => UInt32.toNat_inj.1
  exact (hword.optional fun _ => List.cons_ne_nil _ _).imp fun _ _ heq => by simpa using heq

theorem boxedFlag : Tells [n] (Wire.boxedFlag n) id :=
  (boxedNumber.comap Bool.toNat).imp fun a b heq => by cases a <;> cases b <;> cases heq <;> rfl

theorem optionalBoxedFlag : Tells [n] (Wire.optional (Wire.boxedFlag n)) id :=
  (boxedFlag.optional fun _ => List.cons_ne_nil _ _).imp fun _ _ heq => by simpa using heq

end Tells

end GatewayPlane.Wire
