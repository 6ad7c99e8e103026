import GatewayPlane.Proofs.Provision.Balanced
import Mathlib.Data.String.Basic

/-!
# What settings ask for

The clusters of a deployment, the requests that a route takes, what is hashed of them and which
of them are tried again, said from the settings and without the strategies that settings choose.
-/
namespace GatewayPlane
open Checks Choice

/-! ## Base paths -/

/-- Where an API is mounted: under its own base path, or else, when that is missing or blank,
under the context of its deployment. -/
inductive Deployment.MountsAt (d : Deployment) (api : Api) : String → Prop
  | own {path : String} (given : api.info.basePath = some path)
      (visible : Text.isBlankText path = false) : d.MountsAt api (Path.normalize path)
  | context (hidden : ∀ path, api.info.basePath = some path → Text.isBlankText path = true) :
      d.MountsAt api (Path.normalize d.context)

/-- There is one such path. -/
theorem Provisioner.mountsAt_iff {d : Deployment} {api : Api} {base : String} :
    d.MountsAt api base ↔ base = basePath d api := by
  unfold basePath ApiInfo.normalBasePath
  constructor
  · intro h
    cases h with
    | own given visible => simp [given, visible]
    | context hidden =>
      cases hpath : api.info.basePath with
      | none => rfl
      | some path => simp [hidden path hpath]
  · rintro rfl
    cases hpath : api.info.basePath with
    | none => exact .context (by simp [hpath])
    | some path =>
      rw [Option.getD_some]
      split
      case isTrue hblank => exact .context (by simpa [hpath] using hblank)
      case isFalse hvisible => exact .own hpath (eq_false_of_ne_true hvisible)

/-! ## Clusters -/

/-- How a canary shares the requests with its baseline: in percentages that leave nothing out,
unless one of the two takes them all. -/
inductive CanarySettings.Shares (c : CanarySettings) (baseline canary : String) :
    ClusterSpecifier → Prop
  | baseline (weight : c.canaryWeight = 0) : c.Shares baseline canary (.cluster baseline)
  | canary (weight : c.canaryWeight = 100) : c.Shares baseline canary (.cluster canary)
  | both {rest : UInt32} (hrest : 0 < rest.toNat) (hweight : 0 < c.canaryWeight.toNat)
      (hall : rest.toNat + c.canaryWeight.toNat = 100) :
      c.Shares baseline canary (.weighted
        [⟨baseline, some rest⟩, ⟨canary, some c.canaryWeight⟩])

/-- Over which clusters a deployment is spread, and which of them take its requests. -/
inductive DeploymentSettings.Spreads (s : DeploymentSettings) (d : Deployment) :
    List String → ClusterSpecifier → Prop
  | basic (type : spelling s.type = "basic") :
      s.Spreads d [s!"{d.name}-{d.version}-cluster"] (.cluster s!"{d.name}-{d.version}-cluster")
  | canary {c : CanarySettings} {target : ClusterSpecifier} (type : spelling s.type = "canary")
      (block : s.canary = some c)
      (hshares : c.Shares s!"{d.name}-{c.baselineVersion}-cluster"
        s!"{d.name}-{c.canaryVersion}-cluster" target) :
      s.Spreads d [s!"{d.name}-{c.baselineVersion}-cluster",
        s!"{d.name}-{c.canaryVersion}-cluster"] target
  | blueGreen {b : BlueGreenSettings} (type : spelling s.type = "blue-green")
      (block : s.blueGreen = some b) :
      s.Spreads d [s!"{d.name}-{b.activeVersion}-active-cluster",
        s!"{d.name}-{b.standbyVersion}-standby-cluster"]
        (.cluster s!"{d.name}-{b.activeVersion}-active-cluster")

theorem CanarySettings.Shares.unique {c : CanarySettings} {baseline canary : String}
    {target target' : ClusterSpecifier} (h : c.Shares baseline canary target)
    (h' : c.Shares baseline canary target') : target = target' := by
  cases h with
  | baseline hnone =>
    cases h' with
    | baseline => rfl
    | canary hall => simp [hnone] at hall
    | both _ hweight => simp [hnone] at hweight
  | canary hall =>
    cases h' with
    | baseline hnone => simp [hall] at hnone
    | canary => rfl
    | both hrest _ hsum => simp [hall, hrest.ne'] at hsum
  | both hrest hweight hsum =>
    cases h' with
    | baseline hnone => simp [hnone] at hweight
    | canary hall => simp [hall, hrest.ne'] at hsum
    | both _ _ hsum' =>
      obtain rfl := UInt32.toNat.inj (Nat.add_right_cancel (hsum.trans hsum'.symm))
      rfl

/-- There is one way to spread a deployment. -/
theorem DeploymentSettings.Spreads.unique {s : DeploymentSettings} {d : Deployment}
    {names names' : List String} {target target' : ClusterSpecifier}
    (h : s.Spreads d names target) (h' : s.Spreads d names' target') :
    names = names' ∧ target = target' := by
  cases h with
  | canary type block hshares =>
    cases h' with
    | canary _ block' hshares' =>
      obtain rfl := Option.some.inj (block.symm.trans block')
      exact ⟨rfl, hshares.unique hshares'⟩
    | basic | blueGreen => simp_all
  | basic | blueGreen => cases h' <;> simp_all

/-- Heavier canaries are turned down, so the rest cannot wrap around. -/
theorem CanarySettings.shares_target {c : CanarySettings} (hle : c.canaryWeight.toNat ≤ 100)
    (d : Deployment) :
    c.Shares s!"{d.name}-{c.baselineVersion}-cluster" s!"{d.name}-{c.canaryVersion}-cluster"
      ((Rollout.canary c.baselineVersion c.canaryVersion c.canaryWeight).target d).specifier := by
  unfold Rollout.target
  dsimp only [Rollout.clusterNames]
  by_cases hnone : c.canaryWeight = 0
  · rw [if_pos hnone]
    exact .baseline hnone
  by_cases hall : c.canaryWeight = 100
  · rw [if_neg hnone, if_pos hall]
    exact .canary hall
  have hweight : 0 < c.canaryWeight.toNat := Nat.pos_of_ne_zero fun h => hnone (UInt32.toNat.inj h)
  have hpart : c.canaryWeight.toNat ≠ 100 := fun h => hall (UInt32.toNat.inj h)
  have hsub : (100 - c.canaryWeight).toNat = 100 - c.canaryWeight.toNat :=
    UInt32.toNat_sub_of_le _ _ hle
  have hrest : 0 < (100 - c.canaryWeight).toNat := by omega
  have hsum : (100 - c.canaryWeight).toNat + c.canaryWeight.toNat = 100 := by omega
  rw [if_neg hnone, if_neg hall]
  exact .both hrest hweight hsum

theorem Rollout.spreads_of_ofSettings {s : DeploymentSettings} {r : Rollout}
    (h : Rollout.ofSettings s = .ok r) (d : Deployment) :
    s.Spreads d (r.clusterNames d) (r.target d).specifier := by
  have hr := ofSettings_checked h
  unfold ofSettings at h
  split at h
  case h_1 htype =>
    cases h
    exact .basic htype
  case h_2 htype =>
    obtain ⟨c, hblock, h⟩ := bind_eq_ok.1 h
    obtain ⟨-, h⟩ := seq_eq_ok.1 h
    cases h
    unfold checkSettings at hr
    dsimp only at hr
    rw [ite_throw_eq_ok] at hr
    exact .canary htype (need_eq_ok.1 hblock)
      (CanarySettings.shares_target (UInt32.not_lt.1 hr.1) d)
  case h_3 htype =>
    obtain ⟨b, hblock, h⟩ := bind_eq_ok.1 h
    obtain ⟨-, h⟩ := seq_eq_ok.1 h
    cases h
    exact .blueGreen htype (need_eq_ok.1 hblock)
  case h_4 => cases h

/-! ## Requests -/

/-- A letter in upper case stays as it is. -/
theorem Text.toUpper_toUpper (s : String) : s.toUpper.toUpper = s.toUpper := by
  have hshift (v : UInt32) (h : 97 ≤ v ∧ v ≤ 122) :
      ¬(97 ≤ v + (65 - 97) ∧ v + (65 - 97) ≤ 122) := by grind
  have hchar (c : Char) : c.toUpper.toUpper = c.toUpper := by
    by_cases h : 'a'.val ≤ c.val ∧ c.val ≤ 'z'.val
    · have hupper : c.toUpper.val = c.val + ('A'.val - 'a'.val) := by
        unfold Char.toUpper
        rw [dif_pos h]
      refine dif_neg ?_
      rw [hupper]
      exact hshift c.val h
    · have hupper : c.toUpper = c := dif_neg h
      rw [hupper, hupper]
  rw [String.toUpper, String.toUpper, String.map_map]
  exact congrArg (s.map ·) (funext hchar)

namespace RouteMatchSettings
variable (s : RouteMatchSettings)

/-- The header by which requests say for which version of an API they are. -/
inductive VersionHeader : String → Prop
  | own {header : String} (given : s.versionHeader = some header)
      (visible : Text.isBlankText header = false) : VersionHeader header
  | usual (hidden : ∀ header, s.versionHeader = some header → Text.isBlankText header = true) :
      VersionHeader "x-api-version"

/-- Which requests are taken for a path and a method of a version. The case of a path matters
unless the settings say otherwise, and they say it only for the start of a path. -/
inductive Asks (version path method : String) : RouteMatch → Prop
  | start (type : spelling s.type = "prefix") :
      Asks version path method ⟨some (.startsWith path),
        if s.caseSensitive then none else some false, [⟨":method", some method.toUpper⟩]⟩
  | exact (type : spelling s.type = "exact") (hplain : Path.hasParameters path = false) :
      Asks version path method ⟨some (.exact path), none, [⟨":method", some method.toUpper⟩]⟩
  | template (type : spelling s.type = "exact") (hparameters : Path.hasParameters path = true) :
      Asks version path method
        ⟨some (.regex (Path.pattern path)), none, [⟨":method", some method.toUpper⟩]⟩
  | regex (type : spelling s.type = "regex") :
      Asks version path method
        ⟨some (.regex (Path.pattern path)), none, [⟨":method", some method.toUpper⟩]⟩
  | versioned {header : String} (type : spelling s.type = "header-versioned")
      (hheader : s.VersionHeader header) :
      Asks version path method ⟨some (.startsWith path),
        if s.caseSensitive then none else some false,
        [⟨":method", some method.toUpper⟩, ⟨header, some version⟩]⟩

variable {s}

theorem VersionHeader.unique {header header' : String} (h : s.VersionHeader header)
    (h' : s.VersionHeader header') : header = header' := by
  cases h <;> cases h' <;> simp_all

/-- There is one match for an operation. -/
theorem Asks.unique {version path method : String} {m m' : RouteMatch}
    (h : s.Asks version path method m) (h' : s.Asks version path method m') : m = m' := by
  cases h with
  | versioned type hheader =>
    cases h' with
    | versioned _ hheader' => rw [hheader.unique hheader']
    | start | exact | template | regex => simp_all
  | start | exact | template | regex => cases h' <;> simp_all

theorem versionHeader_getD (s : RouteMatchSettings) : s.VersionHeader
    ((s.versionHeader.filter fun h => !Text.isBlankText h).getD Matching.defaultVersionHeader) := by
  cases hheader : s.versionHeader with
  | none => exact .usual (by simp [hheader])
  | some header =>
    cases hblank : Text.isBlankText header with
    | true =>
      rw [Option.filter_some_neg (by simp [hblank])]
      exact .usual (by simpa [hheader] using hblank)
    | false =>
      rw [Option.filter_some_pos (by simp [hblank])]
      exact .own hheader hblank

end RouteMatchSettings

theorem Matching.asks_of_ofSettings {s : RouteMatchSettings} {version : String} {m : Matching}
    (h : Matching.ofSettings s version = .ok m) (path method : String) :
    s.Asks version path method (m.criteria path method) := by
  unfold ofSettings at h
  split at h <;> cases h
  case h_1 htype => exact .start htype
  case h_2 htype =>
    change s.Asks version path method ⟨some (.ofTemplate path), none, _⟩
    rw [PathMatch.ofTemplate]
    split
    case isTrue hparameters => exact .template htype hparameters
    case isFalse hplain => exact .exact htype (eq_false_of_ne_true hplain)
  case h_3 htype => exact .regex htype
  case h_4 htype => exact .versioned htype s.versionHeader_getD

/-- It does not matter whether a method is in upper case already. -/
theorem Matching.criteria_toUpper (m : Matching) (path method : String) :
    m.criteria path method.toUpper = m.criteria path method := by
  have hmethod : HeaderMatch.method method.toUpper = .method method := by
    rw [HeaderMatch.method, Text.toUpper_toUpper]
    rfl
  cases m <;> simp only [criteria, hmethod]

/-- What is hashed of a request so that the same host serves the same requests. -/
inductive LoadBalancingSettings.Hashes (s : LoadBalancingSettings) : List HashPolicy → Prop
  | key {key : HashPolicy} (type : spelling s.type = "consistent-hash") (hkey : s.HashesBy key) :
      s.Hashes [key]
  | nothing (type : spelling s.type ≠ "consistent-hash") : s.Hashes []

theorem LoadBalancingSettings.HashesBy.unique {s : LoadBalancingSettings} {key key' : HashPolicy}
    (h : s.HashesBy key) (h' : s.HashesBy key') : key = key' := by
  cases h <;> cases h' <;> simp_all

theorem LoadBalancingSettings.Hashes.unique {s : LoadBalancingSettings}
    {policies policies' : List HashPolicy} (h : s.Hashes policies) (h' : s.Hashes policies') :
    policies = policies' := by
  cases h with
  | key type hkey =>
    cases h' with
    | key _ hkey' => rw [hkey.unique hkey']
    | nothing type' => exact absurd type type'
  | nothing type =>
    cases h' with
    | key type' => exact absurd type' type
    | nothing => rfl

theorem Balancing.hashes_of_ofSettings {s : LoadBalancingSettings} {balancing : Balancing}
    (h : Balancing.ofSettings s = .ok balancing) : s.Hashes balancing.hashPolicies := by
  rcases ofSettings_cases h with ⟨htype, key, hkey, rfl⟩ | ⟨htype, base, rfl⟩ | ⟨htype, -, _, rfl⟩
  · exact .key htype hkey
  · exact .nothing (by simp [htype])
  · exact .nothing htype

/-! ## Durations -/

/-- Whether a duration stands for a span, which it does to the nanosecond as far as signed
seconds reach. -/
structure WireDuration.Writes (w : WireDuration) (t : Span) : Prop where
  subsecond : w.nanos.toInt = t.subsecond
  exact : t.seconds ≤ Int64.maxValue.toInt →
    w.seconds.toInt * 1_000_000_000 + w.nanos.toInt = t.nanos
  cut : Int64.maxValue.toInt < t.seconds → w.seconds = Int64.maxValue

theorem WireDuration.writes_ofSpan (t : Span) : (ofSpan t).Writes t := by
  have hsubsecond : t.subsecond < 1_000_000_000 := Nat.mod_lt _ (by decide)
  have hsize : UInt64.size / 2 - 1 = 2 ^ 63 - 1 := rfl
  have hmax : Int64.maxValue.toInt = 2 ^ 63 - 1 := rfl
  have hseconds : (ofSpan t).seconds.toInt = (min t.seconds (2 ^ 63 - 1) : Nat) :=
    Int64.toInt_ofNat_of_lt (by omega)
  have hnanos : (ofSpan t).nanos.toInt = t.subsecond :=
    Int32.toInt_ofNat_of_lt (by omega)
  have hsum : t.seconds * 1_000_000_000 + t.subsecond = t.nanos := Nat.div_add_mod' ..
  constructor
  case subsecond => exact hnanos
  case exact => omega
  case cut => exact fun hcut => Int64.toInt_inj.1 (by omega)

/-- No other duration stands for a span. -/
theorem WireDuration.writes_iff {w : WireDuration} {t : Span} : w.Writes t ↔ w = ofSpan t := by
  obtain ⟨hsubsecond, hexact, hcut⟩ := writes_ofSpan t
  constructor
  · intro h
    have hnanos : w.nanos = (ofSpan t).nanos :=
      Int32.toInt_inj.1 (h.subsecond.trans hsubsecond.symm)
    have hseconds : w.seconds = (ofSpan t).seconds := by
      by_cases hfits : t.seconds ≤ Int64.maxValue.toInt
      · have hw := h.exact hfits
        have ht := hexact hfits
        rw [← hnanos] at ht
        exact Int64.toInt_inj.1 (by omega)
      · rw [h.cut (by omega), hcut (by omega)]
    cases w
    exact congrArg₂ WireDuration.mk hseconds hnanos
  · rintro rfl
    exact ⟨hsubsecond, hexact, hcut⟩

theorem WireDuration.rel_writes_iff {w : Option WireDuration} {t : Option Span} :
    Option.Rel WireDuration.Writes w t ↔ w = t.map WireDuration.ofSpan := by
  cases w <;> cases t <;> simp [writes_iff]

/-! ## Retries -/

namespace CustomRetry

theorem splitOn_eq (mark : Char) (s : List Char) : splitOn mark s = s.splitOn mark := by
  rw [List.splitOn]
  induction s with
  | nil => rw [splitOn, List.splitOnP_nil]
  | cons c rest ih =>
    rw [splitOn, ih, List.splitOnP_cons_eq_if_modifyHead]
    obtain ⟨part, parts, hparts⟩ :=
      List.exists_cons_of_ne_nil (List.splitOnP_ne_nil (· == mark) rest)
    simp [hparts]

/-- Whether a condition stands between the commas of a text. -/
def Listed (conditions condition : String) : Prop :=
  ∃ part ∈ conditions.toList.splitOn ',', Text.strip Text.isBlank part = condition.toList

theorem lists_iff {conditions condition : String} :
    lists conditions condition = true ↔ Listed conditions condition := by
  simp [lists, Listed, splitOn_eq]

end CustomRetry

namespace RetrySettings
variable (s : RetrySettings)

/-- The retries that settings describe themselves. Status codes of their own count through a
condition, which is added unless it is asked for; a budget asks for pauses. -/
structure Describes (policy : RetryPolicy) : Prop where
  numRetries : ∃ n, s.maxRetries = some n ∧ policy.numRetries = some n
  asked : s.statusCodes = [] ∨ CustomRetry.Listed (s.retryOn.getD "5xx") "retriable-status-codes" →
    policy.retryOn = s.retryOn.getD "5xx"
  added : s.statusCodes ≠ [] →
    ¬CustomRetry.Listed (s.retryOn.getD "5xx") "retriable-status-codes" →
    policy.retryOn = s.retryOn.getD "5xx" ++ ",retriable-status-codes"
  perTryTimeout : Option.Rel WireDuration.Writes policy.perTryTimeout s.perTryTimeout
  hostPredicates : policy.hostPredicates = []
  statusCodes : policy.statusCodes = s.statusCodes
  backOff : policy.backOff =
    if s.budgetPercent.isSome then some ⟨some ⟨0, 25000000⟩, some ⟨0, 250000000⟩⟩ else none

/-- Which failed requests are tried again, how often and where. -/
inductive Grants : Option RetryPolicy → Prop
  | nothing (type : spelling s.type = "none") : Grants none
  | conservative (type : spelling s.type = "conservative") : Grants (some {
      retryOn := "5xx,reset"
      numRetries := some 1
      perTryTimeout := some ⟨5, 0⟩ })
  | aggressive (type : spelling s.type = "aggressive") : Grants (some {
      retryOn := "5xx,reset,connect-failure,refused-stream"
      numRetries := some 3
      perTryTimeout := some ⟨2, 0⟩
      hostPredicates := [⟨"envoy.retry_host_predicates.previous_hosts",
        some ⟨"type.googleapis.com/" ++
          "envoy.extensions.retry.host.previous_hosts.v3.PreviousHostsPredicate", []⟩⟩] })
  | custom {policy : RetryPolicy} (type : spelling s.type = "custom")
      (hpolicy : s.Describes policy) : Grants (some policy)

end RetrySettings

theorem RetrySettings.Describes.unique {s : RetrySettings} {policy policy' : RetryPolicy}
    (h : s.Describes policy) (h' : s.Describes policy') : policy = policy' := by
  obtain ⟨n, hn, hnum⟩ := h.numRetries
  obtain ⟨n', hn', hnum'⟩ := h'.numRetries
  obtain rfl := Option.some.inj (hn.symm.trans hn')
  have hretryOn : policy.retryOn = policy'.retryOn := by
    by_cases hasked : s.statusCodes = [] ∨
        CustomRetry.Listed (s.retryOn.getD "5xx") "retriable-status-codes"
    · rw [h.asked hasked, h'.asked hasked]
    · obtain ⟨hcodes, hunlisted⟩ := not_or.1 hasked
      rw [h.added hcodes hunlisted, h'.added hcodes hunlisted]
  have hper := (WireDuration.rel_writes_iff.1 h.perTryTimeout).trans
    (WireDuration.rel_writes_iff.1 h'.perTryTimeout).symm
  cases policy
  cases policy'
  rw [RetryPolicy.mk.injEq]
  exact ⟨hretryOn, hnum.trans hnum'.symm, hper, h.hostPredicates.trans h'.hostPredicates.symm,
    h.statusCodes.trans h'.statusCodes.symm, h.backOff.trans h'.backOff.symm⟩

/-- There is one retry policy, or none. -/
theorem RetrySettings.Grants.unique {s : RetrySettings} {policy policy' : Option RetryPolicy}
    (h : s.Grants policy) (h' : s.Grants policy') : policy = policy' := by
  cases h with
  | custom type hpolicy =>
    cases h' with
    | custom _ hpolicy' => rw [hpolicy.unique hpolicy']
    | nothing | conservative | aggressive => simp_all
  | nothing | conservative | aggressive => cases h' <;> simp_all

theorem CustomRetry.make_eq_ok {n : UInt32} {retryOn : String} {perTryTimeout : Option Span}
    {statusCodes : List UInt32} {budgetPercent : Option Float} {retry : CustomRetry}
    (h : make n retryOn perTryTimeout statusCodes budgetPercent = .ok retry) :
    retry = ⟨n, if statusCodes.isEmpty || lists retryOn statusCodeCondition then retryOn
      else s!"{retryOn},{statusCodeCondition}", perTryTimeout, statusCodes,
      budgetPercent.isSome⟩ := by
  unfold make at h
  rw [ite_throw_eq_ok] at h
  obtain ⟨-, h⟩ := h
  dsimp only at h
  cases hcode : statusCodes.find? fun c => !(100 ≤ c && c < 600) with
  | some code =>
    rw [hcode] at h
    cases h
  | none =>
    rw [hcode] at h
    cases budgetPercent with
    | none =>
      cases h
      rfl
    | some budget =>
      dsimp only at h
      rw [ite_throw_eq_ok] at h
      cases h.2
      rfl

/-- The retries that are made from settings are those that they describe. -/
theorem RetrySettings.describes_of_make {s : RetrySettings} {n : UInt32} {retry : CustomRetry}
    (hn : s.maxRetries = some n) (h : CustomRetry.make n (s.retryOn.getD "5xx") s.perTryTimeout
      s.statusCodes s.budgetPercent = .ok retry) :
    ∃ policy, (Retrying.custom retry).policy? = some policy ∧ s.Describes policy := by
  refine ⟨_, rfl, ?_⟩
  obtain rfl := CustomRetry.make_eq_ok h
  have hasked : (s.statusCodes.isEmpty || CustomRetry.lists (s.retryOn.getD "5xx")
      CustomRetry.statusCodeCondition) = true ↔ s.statusCodes = [] ∨
        CustomRetry.Listed (s.retryOn.getD "5xx") "retriable-status-codes" := by
    rw [Bool.or_eq_true, List.isEmpty_iff, CustomRetry.lists_iff]
    rfl
  constructor
  case numRetries => exact ⟨n, hn, rfl⟩
  case asked => exact fun h => if_pos (hasked.2 h)
  case added =>
    intro hcodes hunlisted
    refine (if_neg fun h => (hasked.1 h).elim hcodes hunlisted).trans ?_
    exact String.append_assoc ..
  case perTryTimeout => exact WireDuration.rel_writes_iff.2 rfl
  case hostPredicates => rfl
  case statusCodes => rfl
  case backOff => rfl

theorem Retrying.grants_of_ofSettings {s : RetrySettings} {retrying : Retrying}
    (h : Retrying.ofSettings s = .ok retrying) : s.Grants retrying.policy? := by
  unfold ofSettings at h
  split at h
  case h_1 htype =>
    cases h
    exact .nothing htype
  case h_2 htype =>
    cases h
    exact .conservative htype
  case h_3 htype =>
    cases h
    exact .aggressive htype
  case h_4 htype =>
    obtain ⟨n, hn, h⟩ := bind_eq_ok.1 h
    obtain ⟨retry, hretry, h⟩ := bind_eq_ok.1 h
    cases h
    obtain ⟨policy, hpolicy, hdescribes⟩ := RetrySettings.describes_of_make (need_eq_ok.1 hn) hretry
    rw [hpolicy]
    exact .custom htype hdescribes
  case h_5 => cases h

end GatewayPlane
