import GatewayPlane.Proofs.Provision.Accepting
import GatewayPlane.Proofs.Resource.Telling
import GatewayPlane.Proofs.Strategy.Requests

/-!
# Operations that take the same requests

A route is told apart from those before it by the bytes of its criteria. These are the same
exactly when the criteria take the same requests, so that an API is turned down for a
duplicate just when two of its operations are indistinguishable.
-/
namespace GatewayPlane
open Checks

/-- Whether two criteria take the same requests. -/
def RouteMatch.TakesSame (m m' : RouteMatch) : Prop := ∀ r, m.Accepts r ↔ m'.Accepts r

theorem RouteMatch.key_inj {m m' : RouteMatch} : m.key = m'.key ↔ m.folded = m'.folded :=
  encode_fields_inj

namespace Provisioner
variable {p : Provisioner} {d : Deployment} {api : Api} {base base' : String} {o o' : Operation}

/-- Whether the routes of two operations take the same requests. -/
def TakesSame (p : Provisioner) (base : String) (o o' : Operation) : Prop :=
  (p.criteria base o).TakesSame (p.criteria base o')

/-- What is said of an operation whose requests are taken by one before it. -/
def duplicate (base : String) (o : Operation) : Fault :=
  let path := Path.join base o.pathPattern
  let method := o.method.toUpper
  .configuration s!"endpoint {o.id} duplicates the match of an earlier route for {method} {path}"

theorem folded_criteria_eq_iff (hversion : ∀ v, p.matching.version? = some v → v.1 ≠ ":method") :
    (p.criteria base o).folded = (p.criteria base' o').folded ↔
      (p.criteria base o).TakesSame (p.criteria base' o') :=
  Matching.folded_criteria_eq_iff_accepts hversion

/-- Routes fail at the first operation whose criteria were seen before. -/
theorem routes_eq_error {seen : List RouteMatch} {ops : List Operation} {f : Fault}
    (h : p.routes d base seen ops = .error f) :
    ∃ earlier o later, ops = earlier ++ o :: later ∧ f = duplicate base o ∧
      (∃ routes, p.routes d base seen earlier = .ok routes) ∧
      ((p.criteria base o).folded ∈ seen ∨
        ∃ o' ∈ earlier, (p.criteria base o').folded = (p.criteria base o).folded) := by
  induction ops generalizing seen with
  | nil => cases h
  | cons o rest ih =>
    rw [Provisioner.routes] at h
    by_cases hseen : seen.contains (p.criteria base o).folded
    · rw [if_pos hseen] at h
      cases h
      exact ⟨[], o, rest, rfl, rfl, ⟨[], rfl⟩, .inl (List.contains_iff_mem.1 hseen)⟩
    · rw [if_neg hseen] at h
      cases hrest : p.routes d base ((p.criteria base o).folded :: seen) rest with
      | ok later =>
        rw [hrest] at h
        cases h
      | error e =>
        rw [hrest] at h
        cases h
        obtain ⟨earlier, o', later, rfl, rfl, ⟨routes, hroutes⟩, hsame⟩ := ih hrest
        have hearlier : p.routes d base seen (o :: earlier) = .ok (p.route d base o :: routes) := by
          rw [Provisioner.routes, if_neg hseen, hroutes]
          rfl
        refine ⟨o :: earlier, o', later, rfl, rfl, ⟨_, hearlier⟩, ?_⟩
        rcases hsame with hsame | ⟨o'', ho'', hsame⟩
        · rcases List.mem_cons.1 hsame with hsame | hsame
          · exact .inr ⟨o, List.mem_cons_self, hsame.symm⟩
          · exact .inl hsame
        · exact .inr ⟨o'', List.mem_cons_of_mem _ ho'', hsame⟩

/-- Operations have routes when each takes requests of its own. -/
theorem exists_routes_iff_takesSame
    (hversion : ∀ v, p.matching.version? = some v → v.1 ≠ ":method") {ops : List Operation} :
    (∃ routes, p.routes d base [] ops = .ok routes) ↔
      ops.Pairwise fun o o' => ¬p.TakesSame base o o' := by
  rw [exists_routes_iff, List.Nodup, List.pairwise_map]
  simp only [List.not_mem_nil, not_false_eq_true, implies_true, and_true, ne_eq,
    folded_criteria_eq_iff hversion, TakesSame]

/-- A deployment that passes all other checks gets what its routes give. -/
theorem provision_eq_error_iff (hcheck : p.check d api = .ok ()) {clusters : List Cluster}
    (hclusters : p.clusters d = .ok clusters) {f : Fault} :
    p.provision d api = .error f ↔ p.routes d (basePath d api) [] api.operations = .error f := by
  rw [provision, hcheck, hclusters, routeConfiguration]
  cases p.routes d (basePath d api) [] api.operations with
  | error e =>
    change (.error e : Except Fault Bundle) = .error f ↔ _
    rw [Except.error.injEq, Except.error.injEq]
  | ok routes =>
    constructor
    · intro h
      cases h
    · intro h
      cases h

/-- Criteria of one strategy have the same bytes exactly when they take the same requests,
whatever base paths, patterns and methods they come from, as long as versions are not told by
the method. So an API that is fine otherwise is turned down exactly when two of its operations
take the same requests, and at the first that repeats one before it. -/
theorem turns_down_duplicates {p : Provisioner}
    (hversion : ∀ v, p.matching.version? = some v → v.1 ≠ ":method") :
    (∀ base base' o o', (p.criteria base o).key = (p.criteria base' o').key ↔
      (p.criteria base o).TakesSame (p.criteria base' o')) ∧
    ∀ d api, p.check d api = .ok () → (∃ clusters, p.clusters d = .ok clusters) →
      ((∃ f, p.provision d api = .error f) ↔
        ¬api.operations.Pairwise fun o o' => ¬p.TakesSame (basePath d api) o o') ∧
      ∀ f, p.provision d api = .error f → ∃ earlier o later,
        api.operations = earlier ++ o :: later ∧ f = duplicate (basePath d api) o ∧
        (∃ o' ∈ earlier, p.TakesSame (basePath d api) o' o) ∧
        earlier.Pairwise fun o o' => ¬p.TakesSame (basePath d api) o o' := by
  refine ⟨fun base base' o o' => ?_, fun d api hcheck ⟨clusters, hclusters⟩ => ⟨?_, ?_⟩⟩
  · rw [RouteMatch.key_inj, folded_criteria_eq_iff hversion]
  · simp only [provision_eq_error_iff hcheck hclusters]
    rw [exists_eq_error_iff, exists_routes_iff_takesSame hversion]
  · intro f hf
    obtain ⟨earlier, o, later, hops, rfl, hearlier, hsame⟩ :=
      routes_eq_error ((provision_eq_error_iff hcheck hclusters).1 hf)
    obtain ⟨o', ho', hsame⟩ := hsame.resolve_left List.not_mem_nil
    exact ⟨earlier, o, later, hops, rfl, ⟨o', ho', (folded_criteria_eq_iff hversion).1 hsame⟩,
      (exists_routes_iff_takesSame hversion).1 hearlier⟩

/-- Routes for one version, in whose paths case does not count. -/
def caselessBooks : Provisioner where
  deployment := Rollout.basic.strategy
  matching := .headerVersioned "x-api-version" "v1" false

def readBook : Operation := .ofPattern "read" "get" "/isbn/\x7bisbn\x7d"

def readAgain : Operation := .ofPattern "again" "GET" "/ISBN/\x7bIsbn\x7d"

def doubledApi : Api :=
  { booksApi with operations := [readBook, .ofPattern "list" "get" "/", readAgain] }

theorem turns_down_duplicates_books :
    (∀ v, caselessBooks.matching.version? = some v → v.1 ≠ ":method") ∧
    caselessBooks.check booksDeployment doubledApi = .ok () ∧
    (∃ clusters, caselessBooks.clusters booksDeployment = .ok clusters) ∧
    caselessBooks.TakesSame "/books" readBook readAgain ∧
    ∃ f, caselessBooks.provision booksDeployment doubledApi = .error f := by
  have hversion : ∀ v, caselessBooks.matching.version? = some v → v.1 ≠ ":method" := by
    intro v hv
    cases hv
    decide
  have hcheck : caselessBooks.check booksDeployment doubledApi = .ok () := by decide +kernel
  have hclusters : ∃ clusters, caselessBooks.clusters booksDeployment = .ok clusters := ⟨_, rfl⟩
  have hbase : basePath booksDeployment doubledApi = "/books" := by decide +kernel
  obtain ⟨hkey, hduplicates⟩ := turns_down_duplicates hversion
  have hsame : caselessBooks.TakesSame "/books" readBook readAgain :=
    (hkey "/books" "/books" readBook readAgain).1 (by decide +kernel)
  obtain ⟨hrejected, -⟩ := hduplicates booksDeployment doubledApi hcheck hclusters
  refine ⟨hversion, hcheck, hclusters, hsame, hrejected.2 fun hdistinct => ?_⟩
  rw [hbase] at hdistinct
  exact (List.pairwise_cons.1 hdistinct).1 readAgain (by simp) hsame

end Provisioner
end GatewayPlane
