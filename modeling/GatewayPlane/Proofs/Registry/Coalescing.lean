import GatewayPlane.Proofs.Registry.Fitting
import Mathlib.Data.List.Induction

/-!
# What the shared route configuration holds

On a node whose base has an empty shared route configuration, every virtual host that a
contribution brings is merged into it. What comes of that is known in closed form: the first
virtual host of each set of domains, with the routes of all that answer for these domains, in
the order in which they were brought.
-/
namespace GatewayPlane
open Checks

/-- A member at the end is kept when it does not repeat any that was kept before. -/
theorem eraseDupsBy_append_singleton {α : Type} (r : α → α → Bool) (l : List α) (a : α) :
    (l ++ [a]).eraseDupsBy r =
      if (l.eraseDupsBy r).any (r a) then l.eraseDupsBy r else l.eraseDupsBy r ++ [a] := by
  -- `kept` has what was kept so far, the last of it first
  have hloop (kept : List α) : List.eraseDupsBy.loop r (l ++ [a]) kept =
      if (List.eraseDupsBy.loop r l kept).any (r a) then List.eraseDupsBy.loop r l kept
      else List.eraseDupsBy.loop r l kept ++ [a] := by
    induction l generalizing kept with
    | nil =>
      rw [List.nil_append, List.eraseDupsBy.loop, List.eraseDupsBy.loop, List.any_reverse]
      cases kept.any (r a) <;> simp [List.eraseDupsBy.loop]
    | cons b rest ih =>
      rw [List.cons_append, List.eraseDupsBy.loop, List.eraseDupsBy.loop]
      cases kept.any (r b) <;> exact ih _
  exact hloop []

namespace VirtualHost
variable {v w : VirtualHost} {l l' : List VirtualHost}

/-- Of virtual hosts that answer for the same domains, the first. -/
def firsts (l : List VirtualHost) : List VirtualHost :=
  l.eraseDupsBy fun v first => first.sameDomains v

/-- A virtual host with the routes of all that answer for its domains, in their order. -/
def gathered (l : List VirtualHost) (v : VirtualHost) : VirtualHost :=
  { v with routes := (l.filter v.sameDomains).flatMap (·.routes) }

/-- One virtual host for each set of domains, in the order in which these appear first: named
like the first of them, and with the routes of all. -/
def coalesced (l : List VirtualHost) : List VirtualHost := (firsts l).map (gathered l)

/-- A virtual host after another was merged into it, if that answers for the same domains. -/
def extended (w v : VirtualHost) : VirtualHost := if w.sameDomains v then w.join v else w

theorem firsts_append_singleton (l : List VirtualHost) (v : VirtualHost) :
    (∃ w ∈ firsts l, w.Alike v) ∧ firsts (l ++ [v]) = firsts l ∨
      (∀ w ∈ firsts l, ¬w.Alike v) ∧ firsts (l ++ [v]) = firsts l ++ [v] := by
  have happend : firsts (l ++ [v]) = _ := eraseDupsBy_append_singleton _ l v
  rw [happend, ← firsts]
  by_cases hsome : ∃ w ∈ firsts l, w.Alike v
  · exact .inl ⟨hsome, if_pos (by simpa [sameDomains_iff] using hsome)⟩
  · exact .inr ⟨by simpa using hsome, if_neg (by simpa [sameDomains_iff] using hsome)⟩

theorem firsts_sublist (l : List VirtualHost) : (firsts l).Sublist l := by
  induction l using List.reverseRecOn with
  | nil => exact .slnil
  | append_singleton l v ih =>
    rcases firsts_append_singleton l v with ⟨-, heq⟩ | ⟨-, heq⟩ <;> rw [heq]
    · exact ih.trans (List.sublist_append_left l [v])
    · exact ih.append (.refl [v])

theorem exists_mem_firsts (hv : v ∈ l) : ∃ w ∈ firsts l, w.Alike v := by
  induction l using List.reverseRecOn with
  | nil => cases hv
  | append_singleton l u ih =>
    rcases firsts_append_singleton l u with ⟨hsome, heq⟩ | ⟨-, heq⟩ <;> rw [heq]
    · rcases List.mem_append.1 hv with hv | hv
      · exact ih hv
      · exact List.mem_singleton.1 hv ▸ hsome
    · rcases List.mem_append.1 hv with hv | hv
      · obtain ⟨w, hw, halike⟩ := ih hv
        exact ⟨w, List.mem_append_left _ hw, halike⟩
      · exact ⟨v, List.mem_append_right _ hv, .refl v⟩

theorem pairwise_firsts (l : List VirtualHost) : (firsts l).Pairwise fun v w => ¬v.Alike w := by
  induction l using List.reverseRecOn with
  | nil => exact .nil
  | append_singleton l v ih =>
    rcases firsts_append_singleton l v with ⟨-, heq⟩ | ⟨hnone, heq⟩ <;> rw [heq]
    · exact ih
    · exact List.pairwise_append.2 ⟨ih, List.pairwise_singleton _ _, by simpa using hnone⟩

theorem gathered_append_singleton (l : List VirtualHost) (v w : VirtualHost) :
    gathered (l ++ [v]) w = (gathered l w).extended v := by
  rw [gathered, List.filter_append, List.flatMap_append, extended]
  change _ = if w.sameDomains v then (gathered l w).join v else gathered l w
  by_cases hsame : w.sameDomains v = true
  · rw [if_pos hsame, List.filter_cons_of_pos hsame]
    simp [gathered, join]
  · rw [if_neg hsame, List.filter_cons_of_neg hsame]
    simp [gathered]

/-- A virtual host that is the first of its domains has its own routes only. -/
theorem gathered_of_first (h : ∀ w ∈ firsts l, ¬w.Alike v) : gathered (l ++ [v]) v = v := by
  have hnone : l.filter v.sameDomains = [] := by
    rw [List.filter_eq_nil_iff]
    intro u hu hsame
    obtain ⟨w, hw, halike⟩ := exists_mem_firsts hu
    exact h w hw (halike.trans (sameDomains_iff.1 hsame).symm)
  have hself : v.sameDomains v = true := sameDomains_iff.2 (.refl v)
  rw [gathered, List.filter_append, hnone, List.filter_cons_of_pos hself]
  simp

theorem extended_of_not_alike (h : ¬w.Alike v) : w.extended v = w :=
  if_neg (mt sameDomains_iff.1 h)

theorem map_extended_of_not_alike (h : ∀ w ∈ l, ¬w.Alike v) : l.map (·.extended v) = l :=
  (List.map_congr_left fun w hw => extended_of_not_alike (h w hw)).trans (List.map_id _)

theorem pairwise_coalesced (l : List VirtualHost) :
    (coalesced l).Pairwise fun v w => ¬v.Alike w :=
  List.pairwise_map.2 (pairwise_firsts l)

theorem exists_mem_coalesced (hv : v ∈ l) : ∃ w ∈ coalesced l, w.Alike v := by
  obtain ⟨w, hw, halike⟩ := exists_mem_firsts hv
  exact ⟨gathered l w, List.mem_map_of_mem hw, halike⟩

/-- One more virtual host extends the one that answers for its domains, or comes last. -/
theorem coalesced_append_singleton (l : List VirtualHost) (v : VirtualHost) :
    (∃ w ∈ coalesced l, w.Alike v) ∧ coalesced (l ++ [v]) = (coalesced l).map (·.extended v) ∨
      (∀ w ∈ coalesced l, ¬w.Alike v) ∧ coalesced (l ++ [v]) = coalesced l ++ [v] := by
  have hmap : (firsts l).map (gathered (l ++ [v])) = (coalesced l).map (·.extended v) := by
    rw [coalesced, List.map_map]
    exact List.map_congr_left fun w _ => gathered_append_singleton l v w
  rcases firsts_append_singleton l v with ⟨⟨w, hw, halike⟩, hsame⟩ | ⟨hnew, happend⟩
  · refine .inl ⟨⟨gathered l w, List.mem_map_of_mem hw, halike⟩, ?_⟩
    rw [coalesced, hsame, hmap]
  · have hnew' : ∀ w ∈ coalesced l, ¬w.Alike v := List.forall_mem_map.2 hnew
    refine .inr ⟨hnew', ?_⟩
    rw [coalesced, happend, List.map_append, hmap, map_extended_of_not_alike hnew',
      List.map_singleton, gathered_of_first hnew]

/-- What is extended is the only one that answers for these domains. -/
theorem eq_map_of_extendFirst (hl : l.Pairwise fun v w => ¬v.Alike w)
    (h : extendFirst v l = some l') : l' = l.map (·.extended v) := by
  obtain ⟨before, x, after, rfl, halike, rfl⟩ := extendFirst_eq_some h
  obtain ⟨-, hrest, hbefore⟩ := List.pairwise_append.1 hl
  have hx : x.extended v = x.join v := if_pos (sameDomains_iff.2 halike)
  rw [List.map_append, List.map_cons, hx, map_extended_of_not_alike, map_extended_of_not_alike]
  · intro w hw hwv
    exact (List.pairwise_cons.1 hrest).1 w hw (halike.trans hwv.symm)
  · intro w hw hwv
    exact hbefore w hw x List.mem_cons_self (hwv.trans halike.symm)

/-- Merging one more virtual host into what others were coalesced to. -/
theorem eq_coalesced_of_mergeInto {routes : String}
    (h : mergeInto routes (coalesced l) v = .ok l') : l' = coalesced (l ++ [v]) := by
  unfold mergeInto at h
  cases hextend : extendFirst v (coalesced l) with
  | some merged =>
    rw [hextend] at h
    cases h
    obtain ⟨before, x, after, hhosts, halike, -⟩ := extendFirst_eq_some hextend
    rcases coalesced_append_singleton l v with ⟨-, heq⟩ | ⟨hnew, -⟩
    · rw [heq, eq_map_of_extendFirst (pairwise_coalesced l) hextend]
    · exact absurd halike (hnew x (by simp [hhosts]))
  | none =>
    rw [hextend] at h
    rw [extendFirst_eq_none] at hextend
    dsimp only at h
    split at h
    · cases h
    · cases h
      rcases coalesced_append_singleton l v with ⟨⟨w, hw, halike⟩, -⟩ | ⟨-, heq⟩
      · exact absurd halike (hextend w hw)
      · exact heq.symm

/-- Virtual hosts that are merged one after the other are coalesced. -/
theorem eq_coalesced_of_foldlM_mergeInto {routes : String}
    (h : l.foldlM (mergeInto routes) [] = .ok l') : l' = coalesced l := by
  have hstep (seen hosts : List VirtualHost) (v : VirtualHost) (hosts' : List VirtualHost)
      (hhosts : hosts = coalesced seen) (hmerge : mergeInto routes hosts v = .ok hosts') :
      hosts' = coalesced (seen ++ [v]) :=
    eq_coalesced_of_mergeInto (hhosts ▸ hmerge)
  have hnil : [] = coalesced [] := rfl
  have hfold := foldlM_accumulates (I := fun seen hosts => hosts = coalesced seen)
    (g := fun v => [v]) hstep hnil h
  rwa [List.flatMap_singleton', List.nil_append] at hfold

/-- They can be merged when no two of them have only some of their domains in common. -/
theorem exists_foldlM_mergeInto_iff {routes : String} :
    (∃ l', l.foldlM (mergeInto routes) [] = .ok l') ↔ ∀ v ∈ l, ∀ w ∈ l, v.Compatible w := by
  rw [(Gathers.refl []).exists_foldlM_iff .nil, List.nil_append]
  constructor
  · intro h v hv w hw
    exact h.forall_of_forall (fun u _ => .inl (.refl u)) hv hw
  · exact List.pairwise_of_forall_mem_list

end VirtualHost

/-! ## The shared route configuration -/

namespace Composition
open VirtualHost
variable {m m' : NameMap RouteConfiguration} {c : RouteConfiguration}
  {l : List RouteConfiguration}

/-- A route configuration without shared virtual hosts leaves those that there are. -/
theorem addRoutes_of_nil (m : NameMap RouteConfiguration) (hc : c.sharedHosts = []) :
    ∃ m', addRoutes m c = .ok m' ∧ sharedHosts m' = sharedHosts m := by
  rcases addRoutes_cases m c with ⟨-, h⟩ | ⟨hnone, m', hm, hhosts⟩ | ⟨put, hm, hput⟩
  · exact h
  · exact ⟨m', hm, by rw [hhosts, hc, hnone]⟩
  · rw [hc] at hm
    exact ⟨put (sharedHosts m), hm, hput _⟩

theorem foldlM_addRoutes_of_nil (m : NameMap RouteConfiguration)
    (hl : ∀ c ∈ l, c.sharedHosts = []) :
    ∃ m', l.foldlM addRoutes m = .ok m' ∧ sharedHosts m' = sharedHosts m := by
  induction l generalizing m with
  | nil => exact ⟨m, rfl, rfl⟩
  | cons c rest ih =>
    rw [List.forall_mem_cons] at hl
    obtain ⟨m₁, hc, hhosts⟩ := addRoutes_of_nil m hl.1
    obtain ⟨m', hrest, hhosts'⟩ := ih m₁ hl.2
    exact ⟨m', by rw [List.foldlM_cons, bind_eq_ok]; exact ⟨m₁, hc, hrest⟩, hhosts'.trans hhosts⟩

/-- Where there is a shared route configuration, all else is merged into it. -/
theorem map_sharedHosts_addRoutes (hm : (m.get? sharedRoutesName).isSome = true)
    (c : RouteConfiguration) : (addRoutes m c).map sharedHosts =
      c.sharedHosts.foldlM (VirtualHost.mergeInto sharedRoutesName) (sharedHosts m) := by
  obtain ⟨existing, hexisting⟩ := Option.isSome_iff_exists.1 hm
  have hbefore : sharedHosts m = existing.virtualHosts := by
    rw [sharedHosts, hexisting]
    rfl
  by_cases hc : c.name = sharedRoutesName
  · rw [addRoutes_of_shared hc hexisting, RouteConfiguration.sharedHosts, if_pos hc, hbefore]
    cases c.virtualHosts.foldlM (VirtualHost.mergeInto sharedRoutesName) existing.virtualHosts with
    | error o => rfl
    | ok hosts =>
      refine congrArg Except.ok ?_
      rw [sharedHosts, NameMap.get?_insert_self]
      rfl
  · rw [addRoutes_of_ne hc, RouteConfiguration.sharedHosts, if_neg hc]
    refine congrArg Except.ok ?_
    rw [sharedHosts_insert, if_neg hc]

theorem map_sharedHosts_foldlM_addRoutes (hm : (m.get? sharedRoutesName).isSome = true)
    (l : List RouteConfiguration) : (l.foldlM addRoutes m).map sharedHosts =
      (l.flatMap (·.sharedHosts)).foldlM (VirtualHost.mergeInto sharedRoutesName)
        (sharedHosts m) := by
  induction l generalizing m with
  | nil => rfl
  | cons c rest ih =>
    rw [List.foldlM_cons, List.flatMap_cons, List.foldlM_append, ← map_sharedHosts_addRoutes hm]
    cases hc : addRoutes m c with
    | error o => rfl
    | ok m₁ =>
      obtain ⟨a, rfl⟩ := addRoutes_eq_ok hc
      refine ih ?_
      rw [NameMap.get?_insert]
      split
      · rfl
      · exact hm

end Composition

/-- Whether there is a shared route configuration, and no virtual host in it. -/
structure Bundle.HasEmptySharedRoutes (b : Bundle) : Prop where
  present : ∃ c ∈ b.routes, c.name = sharedRoutesName
  empty : ∀ c ∈ b.routes, c.name = sharedRoutesName → c.virtualHosts = []

/-- The virtual hosts that contributions bring to the shared route configuration. -/
def contributedHosts (contributions : List Contribution) : List VirtualHost :=
  sharedHostsOf (contributions.map (·.resources))

section Compose
variable {base b : Bundle} {contributions : List Contribution}

/-- Resources in order of their names are known by what is among them. -/
theorem Resource.eq_of_mem_iff {l l' : List Resource} (hl : l.Pairwise fun x y => x.name < y.name)
    (hl' : l'.Pairwise fun x y => x.name < y.name) (h : ∀ x, x ∈ l ↔ x ∈ l') : l = l' := by
  have hirrefl : Std.Irrefl fun x y : Resource => x.name < y.name :=
    ⟨fun x => String.lt_irrefl x.name⟩
  have hantisymm : Std.Antisymm fun x y : Resource => x.name < y.name :=
    ⟨fun x y hxy hyx => absurd (String.lt_trans hxy hyx) (String.lt_irrefl x.name)⟩
  exact hl.eq_of_mem_iff hl' h

/-- Every name that there is was brought by some part, and stands for what the last part that
brought it has. -/
theorem filter_ofKind_compose {k : Kind} {name : String}
    (hshared : (k, name) ≠ (.route, sharedRoutesName)) (h : compose base contributions = .ok b) :
    (b.ofKind k).filter (·.name == name) =
      (Resource.lastNamed (Bundle.ofKindAll k (partsOf base contributions)) name).toList := by
  refine Resource.eq_of_mem_iff ((pairwise_ofKind_compose k h).filter _) ?_ fun x => ?_
  · cases Resource.lastNamed (Bundle.ofKindAll k (partsOf base contributions)) name with
    | none => exact .nil
    | some x => exact List.pairwise_singleton _ _
  · rw [List.mem_filter, beq_iff_eq, Option.mem_toList]
    constructor
    · rintro ⟨hx, rfl⟩
      exact (mem_ofKind_compose hshared h).1 hx
    · intro hlast
      have hname : x.name = name := by
        simpa using (List.mem_filter.1 (List.mem_of_getLast? hlast)).2
      subst hname
      exact ⟨(mem_ofKind_compose hshared h).2 hlast, rfl⟩

/-- The shared virtual hosts are those of the contributions, merged one after the other. -/
theorem map_sharedHosts_parts (hbase : base.HasEmptySharedRoutes)
    (contributions : List Contribution) :
    (((partsOf base contributions).flatMap (·.routes)).foldlM Composition.addRoutes ∅).map
        Composition.sharedHosts =
      (contributedHosts contributions).foldlM (VirtualHost.mergeInto sharedRoutesName) [] := by
  have hnone : ∀ c ∈ base.routes, c.sharedHosts = [] := by
    intro c hc
    unfold RouteConfiguration.sharedHosts
    split
    · next hname => exact hbase.empty c hc hname
    · rfl
  obtain ⟨m, hm, hhosts⟩ := Composition.foldlM_addRoutes_of_nil ∅ hnone
  have hsome : (m.get? sharedRoutesName).isSome = true :=
    Option.isSome_iff_exists.2 ((Composition.exists_get?_foldlM_addRoutes hm _).2 hbase.present)
  have hempty : Composition.sharedHosts ∅ = [] := rfl
  rw [partsOf, List.flatMap_cons, List.foldlM_append, hm]
  change (List.foldlM Composition.addRoutes m _).map _ = _
  rw [Composition.map_sharedHosts_foldlM_addRoutes hsome, hhosts, hempty]
  rfl

theorem exists_compose_iff_contributed (hbase : base.HasEmptySharedRoutes) :
    (∃ b, compose base contributions = .ok b) ↔
      ∀ v ∈ contributedHosts contributions, ∀ w ∈ contributedHosts contributions,
        v.Compatible w := by
  rw [exists_compose_iff_routes, ← VirtualHost.exists_foldlM_mergeInto_iff,
    ← map_sharedHosts_parts hbase]
  cases ((partsOf base contributions).flatMap (·.routes)).foldlM Composition.addRoutes ∅ with
  | error o => exact iff_of_false nofun nofun
  | ok m => exact iff_of_true ⟨m, rfl⟩ ⟨_, rfl⟩

/-- The shared route configuration has the virtual hosts of the contributions, coalesced. -/
theorem virtualHosts_compose (hbase : base.HasEmptySharedRoutes)
    (h : compose base contributions = .ok b) {c : RouteConfiguration} (hc : c ∈ b.routes)
    (hname : c.name = sharedRoutesName) :
    c.virtualHosts = VirtualHost.coalesced (contributedHosts contributions) := by
  obtain ⟨m, hm, rfl, hparts⟩ := compose_eq_ok h
  have hmerged := map_sharedHosts_parts hbase contributions
  rw [(Composition.foldlM_add_eq_ok.1 hparts).2.2.2] at hmerged
  rw [← VirtualHost.eq_coalesced_of_foldlM_mergeInto hmerged.symm]
  obtain ⟨n, hn⟩ := NameMap.mem_values_iff.1 hc
  rw [Composition.sharedHosts, ← hname, hm.routes n c hn, hn]
  rfl

theorem coalesced_mem_routes (hbase : base.HasEmptySharedRoutes)
    (h : compose base contributions = .ok b) :
    ⟨sharedRoutesName, VirtualHost.coalesced (contributedHosts contributions)⟩ ∈ b.routes := by
  obtain ⟨c₀, hc₀, hname₀⟩ := hbase.present
  obtain ⟨c, hc, hname⟩ := (compose_assembles h).names base List.mem_cons_self c₀ hc₀
  rw [hname₀] at hname
  rwa [← virtualHosts_compose hbase h hc hname, ← hname]

/-- Contributions can be put together unless two of the virtual hosts that they bring have only
some of their domains in common. Then the shared route configuration has one virtual host for
each set of domains, in the order in which they appear first, with the name and the domains of
the first and the routes of all in their order; and every other name that is brought stands
once, in order, for what the last part that brings it has. -/
theorem compose_coalesces (base : Bundle) (contributions : List Contribution)
    (hbase : base.HasEmptySharedRoutes) :
    let hosts := contributedHosts contributions
    ((∃ o, compose base contributions = .error o) ↔
      ∃ v ∈ hosts, ∃ w ∈ hosts, ¬v.Apart w ∧ ¬v.Alike w) ∧
    ∀ b, compose base contributions = .ok b →
      ⟨sharedRoutesName, VirtualHost.coalesced hosts⟩ ∈ b.routes ∧
      (VirtualHost.coalesced hosts).Pairwise (fun v w => ¬v.Alike w) ∧
      (∀ v ∈ hosts, ∃ w ∈ VirtualHost.coalesced hosts, w.Alike v) ∧
      ∀ k, (b.ofKind k).Pairwise (fun x y => x.name < y.name) ∧
        ∀ name, (k, name) ≠ (.route, sharedRoutesName) → (b.ofKind k).filter (·.name == name) =
          (Resource.lastNamed (Bundle.ofKindAll k (partsOf base contributions)) name).toList := by
  intro hosts
  refine ⟨?_, fun b h => ⟨coalesced_mem_routes hbase h, VirtualHost.pairwise_coalesced hosts,
    fun v => VirtualHost.exists_mem_coalesced,
    fun k => ⟨pairwise_ofKind_compose k h, fun name hshared => filter_ofKind_compose hshared h⟩⟩⟩
  rw [exists_eq_error_iff, exists_compose_iff_contributed hbase]
  simp only [VirtualHost.Compatible, not_forall, not_or, exists_prop, and_comm]
  rfl

end Compose

theorem hasEmptySharedRoutes_sharedBase (port : UInt16) :
    (sharedBase port).HasEmptySharedRoutes where
  present := ⟨_, List.mem_singleton_self _, rfl⟩
  empty c hc _ := by
    rw [List.mem_singleton.1 hc]

/-- All requests, sent on to the cluster of a deployment. -/
def routeTo (deploymentId : String) : Route where
  name := deploymentId
  action := some (.forward { specifier := some (.cluster deploymentId) })

/-- A contribution of one virtual host, and of the cluster that its only route names. -/
def hostContribution (deploymentId : String) (domains : List String) : Contribution where
  deploymentId := deploymentId
  apiName := deploymentId
  apiVersion := "v1"
  resources := {
    clusters := [.ofBackend deploymentId deploymentId 8080 .http]
    routes := [⟨sharedRoutesName, [⟨deploymentId, domains, [routeTo deploymentId]⟩]⟩] }

/-- Books join pets, whose domains they name twice and the other way around; toys cannot. -/
theorem compose_coalesces_pets :
    let pets := hostContribution "pets" ["a", "b"]
    (∃ b, compose (sharedBase 8080) [pets, hostContribution "books" ["b", "a", "b"]] = .ok b ∧
      ⟨sharedRoutesName, [⟨"pets", ["a", "b"], [routeTo "pets", routeTo "books"]⟩]⟩ ∈ b.routes) ∧
    ∃ o, compose (sharedBase 8080) [pets, hostContribution "toys" ["b"]] = .error o := by
  let v : VirtualHost := ⟨"pets", ["a", "b"], [routeTo "pets"]⟩
  let w : VirtualHost := ⟨"books", ["b", "a", "b"], [routeTo "books"]⟩
  have hbase := hasEmptySharedRoutes_sharedBase 8080
  have halike : v.Alike w := by
    intro d
    simp [v, w]
    tauto
  constructor
  · have hcoalesced : VirtualHost.coalesced [v, w] =
        [⟨"pets", ["a", "b"], [routeTo "pets", routeTo "books"]⟩] := by
      have hsame : v.sameDomains w = true := VirtualHost.sameDomains_iff.2 halike
      have hself : v.sameDomains v = true := VirtualHost.sameDomains_iff.2 (.refl v)
      simp [VirtualHost.coalesced, VirtualHost.firsts, VirtualHost.gathered,
        List.eraseDupsBy_cons, hsame, hself]
      exact ⟨rfl, rfl, rfl⟩
    obtain ⟨hfails, hroutes⟩ := compose_coalesces (sharedBase 8080)
      [hostContribution "pets" ["a", "b"], hostContribution "books" ["b", "a", "b"]] hbase
    cases hb : compose (sharedBase 8080)
        [hostContribution "pets" ["a", "b"], hostContribution "books" ["b", "a", "b"]] with
    | ok b => exact ⟨b, rfl, hcoalesced ▸ (hroutes b hb).1⟩
    | error o =>
      obtain ⟨x, hx, y, hy, -, hother⟩ := hfails.1 ⟨o, hb⟩
      have hall : ∀ z ∈ [v, w], v.Alike z := by simp [halike, VirtualHost.Alike.refl]
      exact absurd ((hall x hx).symm.trans (hall y hy)) hother
  · refine (compose_coalesces (sharedBase 8080) _ hbase).1.2 ⟨v, by decide +kernel,
      ⟨"toys", ["b"], [routeTo "toys"]⟩, by decide +kernel, fun h => ?_, fun h => ?_⟩
    · exact h "b" (by simp [v]) (by simp)
    · exact absurd ((h "a").1 (by simp [v])) (by simp)

end GatewayPlane
