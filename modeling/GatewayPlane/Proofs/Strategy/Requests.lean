import GatewayPlane.Proofs.Path.Samples
import GatewayPlane.Resource.Schema

/-!
# The requests that matches take

What a route match says about requests, and when two matches that a strategy makes take the
same requests: when they are the same but for the spelling that they do not look at.
-/
namespace GatewayPlane

/-- A request, as far as routes look at it. -/
structure Request where
  path : String
  method : String
  headers : String → Option String := fun _ => none

/-- The value of a header; the method is one under a name of its own. -/
def Request.header? (r : Request) (name : String) : Option String :=
  if name = ":method" then some r.method else r.headers name

def HeaderMatch.Accepts (h : HeaderMatch) (r : Request) : Prop :=
  ∃ value, r.header? h.name = some value ∧ ∀ exact, h.exact = some exact → value = exact

/-- Whether a match takes a request: its path meets the criterion, and its headers all do. -/
def RouteMatch.Accepts (m : RouteMatch) (r : Request) : Prop :=
  m.AcceptsPath r.path ∧ ∀ h ∈ m.headers, h.Accepts r

/-- The bytes by which matches are told apart. -/
def RouteMatch.key (m : RouteMatch) : Wire.Bytes := Wire.encode m.folded.fields

theorem HeaderMatch.equals_accepts_iff {name value : String} {r : Request} :
    (HeaderMatch.equals name value).Accepts r ↔ r.header? name = some value := by
  constructor
  · rintro ⟨v, hv, hexact⟩
    exact hexact value rfl ▸ hv
  · intro h
    exact ⟨value, h, fun exact hexact => Option.some.inj hexact⟩

/-! ## Paths -/

namespace PathMatch

/-- A criterion without the spelling that it does not look at. -/
def folded (caseSensitive : Bool) : PathMatch → PathMatch
  | startsWith path => startsWith (if caseSensitive then path else path.toLower)
  | exact path => exact (if caseSensitive then path else path.toLower)
  | regex pattern => regex pattern

@[simp] theorem folded_true (p : PathMatch) : p.folded true = p := by
  cases p <;> rfl

theorem startsWith_folded_eq_iff {caseSensitive : Bool} {path path' : String} :
    (startsWith path).folded caseSensitive = (startsWith path').folded caseSensitive ↔
      ∀ text, (startsWith path).Accepts caseSensitive text ↔
        (startsWith path').Accepts caseSensitive text := by
  -- each of them takes itself, and so is a beginning of the other
  have hsame {f : String → String}
      (h : ∀ text, (f path).toList <+: (f text).toList ↔ (f path').toList <+: (f text).toList) :
      f path = f path' := by
    have hle := (h path').2 (List.prefix_refl _)
    have hle' := (h path).1 (List.prefix_refl _)
    exact String.toList_inj.1 (hle.eq_of_length (Nat.le_antisymm hle.length_le hle'.length_le))
  cases caseSensitive with
  | true =>
    simp only [folded, Accepts, if_true, startsWith.injEq]
    refine ⟨?_, fun h => hsame (f := id) h⟩
    rintro rfl text
    rfl
  | false =>
    simp only [folded, Accepts, Bool.false_eq_true, if_false, startsWith.injEq]
    exact ⟨fun h text => by rw [h], fun h => hsame h⟩

theorem ofTemplate_accepts_iff {path text : String} :
    (ofTemplate path).Accepts true text ↔ Path.Matches (Path.pattern path) text := by
  rw [ofTemplate]
  cases hparameters : Path.hasParameters path with
  | true => rfl
  | false =>
    rw [Path.matches_of_not_hasParameters hparameters]
    rfl

/-- Templates are matched in the same way when they say the same. -/
theorem ofTemplate_eq_iff {path path' : String} :
    ofTemplate path = ofTemplate path' ↔ Path.elements path = Path.elements path' := by
  constructor
  · intro h
    rw [Path.elements_eq_iff]
    intro text
    rw [← ofTemplate_accepts_iff, ← ofTemplate_accepts_iff, h]
  · intro h
    have hparameters : Path.hasParameters path = Path.hasParameters path' := by
      rw [Path.hasParameters_eq, Path.hasParameters_eq, h]
    rw [ofTemplate, ofTemplate, ← hparameters]
    cases hcase : Path.hasParameters path with
    | true => rw [if_pos rfl, if_pos rfl, Path.pattern_eq_iff.2 h]
    | false =>
      have hself := (Path.elements_eq_iff.1 h path).1
        ((Path.matches_of_not_hasParameters hcase).2 rfl)
      rw [(Path.matches_of_not_hasParameters (hparameters ▸ hcase)).1 hself]

end PathMatch

/-! ## Matches of a strategy -/

namespace Matching
variable {m : Matching} {path path' method method' : String}

/-- Whether letters in upper and lower case are told apart in a path. -/
def isCaseSensitive : Matching → Bool
  | startsWith caseSensitive | headerVersioned _ _ caseSensitive => caseSensitive
  | exact | regex => true

def pathMatch (m : Matching) (path : String) : PathMatch :=
  match m with
  | startsWith _ | headerVersioned .. => .startsWith path
  | exact => .ofTemplate path
  | regex => .regex (Path.pattern path)

/-- The header that tells versions apart, and the version that it has to have. -/
def version? : Matching → Option (String × String)
  | headerVersioned header version _ => some (header, version)
  | startsWith _ | exact | regex => none

theorem criteria_eq (m : Matching) (path method : String) : m.criteria path method = {
    path := some (m.pathMatch path)
    caseSensitive := if m.isCaseSensitive then none else some false
    headers := .method method :: (m.version?.map fun v => .equals v.1 v.2).toList } := by
  cases m <;> rfl

theorem folded_criteria (m : Matching) (path method : String) :
    (m.criteria path method).folded =
      { m.criteria path method with
        path := some ((m.pathMatch path).folded m.isCaseSensitive) } := by
  rw [criteria_eq]
  cases m.isCaseSensitive with
  | true =>
    rw [PathMatch.folded_true]
    rfl
  | false => cases m.pathMatch path <;> rfl

theorem folded_criteria_eq_iff :
    (m.criteria path method).folded = (m.criteria path' method').folded ↔
      (m.pathMatch path).folded m.isCaseSensitive =
        (m.pathMatch path').folded m.isCaseSensitive ∧ method.toUpper = method'.toUpper := by
  rw [folded_criteria, folded_criteria, criteria_eq, criteria_eq]
  simp [HeaderMatch.method, HeaderMatch.equals]

theorem accepts_criteria_iff {r : Request} : (m.criteria path method).Accepts r ↔
    (m.pathMatch path).Accepts m.isCaseSensitive r.path ∧ r.method = method.toUpper ∧
      ∀ v, m.version? = some v → r.header? v.1 = some v.2 := by
  have hpath : (m.criteria path method).path = some (m.pathMatch path) := by rw [criteria_eq]
  have hsensitive : (m.criteria path method).caseSensitive.getD true = m.isCaseSensitive := by
    rw [criteria_eq]
    cases m.isCaseSensitive <;> rfl
  have hmethod : r.header? ":method" = some r.method := if_pos rfl
  rw [RouteMatch.Accepts, RouteMatch.acceptsPath_iff hpath, hsensitive, criteria_eq]
  refine and_congr_right fun _ => ?_
  rw [List.forall_mem_cons, HeaderMatch.method, HeaderMatch.equals_accepts_iff, hmethod,
    Option.some.injEq]
  refine and_congr_right fun _ => ?_
  cases m.version? <;> simp [HeaderMatch.equals_accepts_iff]

theorem exists_accepts_pathMatch (m : Matching) (path : String) :
    ∃ text, (m.pathMatch path).Accepts m.isCaseSensitive text := by
  have hstarts (caseSensitive : Bool) :
      ∃ text, (PathMatch.startsWith path).Accepts caseSensitive text := by
    refine ⟨path, ?_⟩
    rw [PathMatch.Accepts]
    split <;> exact List.prefix_refl _
  have hpattern : ∃ text, Path.Matches (Path.pattern path) text := by
    refine ⟨String.ofList ((Path.elements path).map (Path.Element.filled 'a')), ?_⟩
    rw [Path.matches_pattern_iff_take, String.toList_ofList]
    exact Path.Element.take_map_filled Path.isPiece_of_mem_elements (by decide)
  cases m with
  | startsWith caseSensitive | headerVersioned _ _ caseSensitive => exact hstarts caseSensitive
  | exact =>
    obtain ⟨text, htext⟩ := hpattern
    exact ⟨text, PathMatch.ofTemplate_accepts_iff.2 htext⟩
  | regex => exact hpattern

theorem pathMatch_folded_eq_iff :
    (m.pathMatch path).folded m.isCaseSensitive = (m.pathMatch path').folded m.isCaseSensitive ↔
      ∀ text, (m.pathMatch path).Accepts m.isCaseSensitive text ↔
        (m.pathMatch path').Accepts m.isCaseSensitive text := by
  cases m with
  | startsWith caseSensitive | headerVersioned _ _ caseSensitive =>
    exact PathMatch.startsWith_folded_eq_iff
  | exact =>
    simp only [pathMatch, isCaseSensitive, PathMatch.folded_true, PathMatch.ofTemplate_eq_iff,
      PathMatch.ofTemplate_accepts_iff, Path.elements_eq_iff]
  | regex =>
    simp only [pathMatch, isCaseSensitive, PathMatch.folded_true, PathMatch.regex.injEq,
      PathMatch.Accepts, Path.pattern_eq_iff, Path.elements_eq_iff]

/-- A request with a path and a method that shows the version that is asked for. -/
def request (m : Matching) (path method : String) : Request where
  path := path
  method := method
  headers := fun _ => m.version?.map (·.2)

theorem header?_request (hversion : ∀ v, m.version? = some v → v.1 ≠ ":method") :
    ∀ v, m.version? = some v → (m.request path method).header? v.1 = some v.2 := by
  intro v hv
  rw [Request.header?, if_neg (hversion v hv), request, hv, Option.map_some]

/-- Two matches of a strategy take the same requests when they are the same but for the spelling
that they do not look at. -/
theorem folded_criteria_eq_iff_accepts (hversion : ∀ v, m.version? = some v → v.1 ≠ ":method") :
    (m.criteria path method).folded = (m.criteria path' method').folded ↔
      ∀ r, (m.criteria path method).Accepts r ↔ (m.criteria path' method').Accepts r := by
  rw [folded_criteria_eq_iff, pathMatch_folded_eq_iff]
  simp only [accepts_criteria_iff]
  constructor
  · rintro ⟨hpath, hmethod⟩ r
    rw [hpath, hmethod]
  · intro h
    -- path, method and version of a request may be chosen one by one
    obtain ⟨text, htext⟩ := m.exists_accepts_pathMatch path
    have hmethod : method.toUpper = method'.toUpper := by
      have hrequest := h (m.request text method.toUpper)
      exact (hrequest.1 ⟨htext, rfl, header?_request hversion⟩).2.1
    refine ⟨fun text => ?_, hmethod⟩
    have hrequest := h (m.request text method.toUpper)
    have hheaders : ∀ v, m.version? = some v →
        (m.request text method.toUpper).header? v.1 = some v.2 := header?_request hversion
    exact ⟨fun hpath => (hrequest.1 ⟨hpath, rfl, hheaders⟩).1,
      fun hpath => (hrequest.2 ⟨hpath, hmethod, hheaders⟩).1⟩

end Matching
end GatewayPlane
