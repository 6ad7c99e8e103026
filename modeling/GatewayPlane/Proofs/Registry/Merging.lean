import GatewayPlane.Proofs.Consistency.Integrity
import GatewayPlane.Proofs.Registry.Composing
import Mathlib.Data.List.Pairwise
import Mathlib.Data.List.Sort
import Mathlib.Data.String.Basic

/-!
# How virtual hosts are merged

The shared route configuration gathers the virtual hosts of all that bring some to it. Those
that answer for the same domains become one, which has the routes of each of them in one piece;
nothing else is added, and nothing is left out. That succeeds exactly when any two virtual hosts
answer for the same domains, or for no common one.
-/
namespace GatewayPlane
open Checks

namespace Text

theorem pairwise_eraseDups {n : Nat} {l : List String} (hn : l.length ≤ n)
    (h : l.Pairwise (· ≤ ·)) : l.eraseDups.Pairwise (· < ·) := by
  induction n generalizing l with
  | zero =>
    rw [List.length_eq_zero_iff.1 (Nat.le_zero.1 hn)]
    exact .nil
  | succ n ih =>
    cases l with
    | nil => exact .nil
    | cons a rest =>
      rw [List.pairwise_cons] at h
      rw [List.eraseDups_cons, List.pairwise_cons]
      refine ⟨fun b hb => ?_, ih ?_ (h.2.filter _)⟩
      · rw [List.mem_eraseDups, List.mem_filter] at hb
        have hne : b ≠ a := by simpa using hb.2
        exact lt_of_le_of_ne (h.1 b hb.1) hne.symm
      · exact Nat.le_trans (List.length_filter_le _ _) (Nat.le_of_succ_le_succ hn)

/-- Texts in order only tell which texts there are. -/
theorem sortedDistinct_eq_iff {l l' : List String} :
    sortedDistinct l = sortedDistinct l' ↔ ∀ s, s ∈ l ↔ s ∈ l' := by
  have hsorted (l : List String) : (sortedDistinct l).Pairwise (· < ·) := by
    refine pairwise_eraseDups (Nat.le_refl _) ?_
    exact List.SortedLE.pairwise List.sortedLE_mergeSort
  constructor
  · intro h s
    rw [← mem_sortedDistinct, h, mem_sortedDistinct]
  · intro h
    refine (hsorted l).eq_of_mem_iff (hsorted l') fun s => ?_
    rw [mem_sortedDistinct, mem_sortedDistinct, h]

end Text

namespace VirtualHost
variable {u v w : VirtualHost}

/-- Whether two virtual hosts answer for the same domains. -/
def Alike (v w : VirtualHost) : Prop := ∀ d, d ∈ v.domains ↔ d ∈ w.domains

/-- Whether two virtual hosts answer for no common domain. -/
def Apart (v w : VirtualHost) : Prop := ∀ d ∈ v.domains, d ∉ w.domains

def Compatible (v w : VirtualHost) : Prop := v.Alike w ∨ v.Apart w

theorem Alike.refl (v : VirtualHost) : v.Alike v := fun _ => Iff.rfl

theorem Alike.symm (h : v.Alike w) : w.Alike v := fun d => (h d).symm

theorem Alike.trans (h : u.Alike v) (h' : v.Alike w) : u.Alike w := fun d => (h d).trans (h' d)

theorem Apart.symm (h : v.Apart w) : w.Apart v := fun d hw hv => h d hv hw

theorem Compatible.symm (h : v.Compatible w) : w.Compatible v := h.imp Alike.symm Apart.symm

instance : Std.Symm Apart := ⟨fun _ _ => Apart.symm⟩

instance : Std.Symm Compatible := ⟨fun _ _ => Compatible.symm⟩

theorem Compatible.congr_right (h : u.Compatible v) (hvw : v.Alike w) : u.Compatible w :=
  h.imp (fun halike => halike.trans hvw) fun hapart d hu hw => hapart d hu ((hvw d).2 hw)

theorem sameDomains_iff : v.sameDomains w = true ↔ v.Alike w := by
  rw [sameDomains, beq_iff_eq, Text.sortedDistinct_eq_iff]
  rfl

theorem sharesDomain_iff : v.sharesDomain w = true ↔ ¬v.Apart w := by
  simp [sharesDomain, Apart]

/-- Whether a virtual host is found again in another: that answers for the same domains, and
has its routes in one piece. -/
structure PartOf (v w : VirtualHost) : Prop where
  alike : v.Alike w
  routes : v.routes <:+: w.routes

theorem PartOf.refl (v : VirtualHost) : v.PartOf v := ⟨.refl v, List.infix_rfl⟩

theorem PartOf.trans (h : u.PartOf v) (h' : v.PartOf w) : u.PartOf w :=
  ⟨h.alike.trans h'.alike, h.routes.trans h'.routes⟩

/-- A virtual host together with the routes of another. -/
def join (v incoming : VirtualHost) : VirtualHost :=
  { v with routes := v.routes ++ incoming.routes }

theorem partOf_join (v incoming : VirtualHost) : v.PartOf (v.join incoming) :=
  ⟨.refl v, (List.prefix_append _ _).isInfix⟩

theorem partOf_join_incoming {incoming : VirtualHost} (h : v.Alike incoming) :
    incoming.PartOf (v.join incoming) :=
  ⟨h.symm, (List.suffix_append _ _).isInfix⟩

/-! ## Merging one virtual host -/

theorem extendFirst_eq_none {incoming : VirtualHost} {hosts : List VirtualHost} :
    extendFirst incoming hosts = none ↔ ∀ v ∈ hosts, ¬v.Alike incoming := by
  induction hosts with
  | nil => simp [extendFirst]
  | cons v rest ih =>
    rw [extendFirst, List.forall_mem_cons, ← ih, ← sameDomains_iff]
    split
    · next hsame => simp [hsame]
    · next hother => simp [hother]

theorem extendFirst_eq_some {incoming : VirtualHost} {hosts hosts' : List VirtualHost}
    (h : extendFirst incoming hosts = some hosts') :
    ∃ before v after, hosts = before ++ v :: after ∧ v.Alike incoming ∧
      hosts' = before ++ v.join incoming :: after := by
  induction hosts generalizing hosts' with
  | nil => cases h
  | cons v rest ih =>
    rw [extendFirst] at h
    split at h
    · next hsame =>
      cases h
      exact ⟨[], v, rest, rfl, sameDomains_iff.1 hsame, rfl⟩
    · obtain ⟨rest', hrest, rfl⟩ := Option.map_eq_some_iff.1 h
      obtain ⟨before, w, after, rfl, halike, rfl⟩ := ih hrest
      exact ⟨v :: before, w, after, rfl, halike, rfl⟩

/-- All that merging a virtual host can do: it joins one with the same domains, or comes last
when it has no domain in common with any. -/
theorem mergeInto_eq_ok {routes : String} {hosts hosts' : List VirtualHost} {v : VirtualHost}
    (h : mergeInto routes hosts v = .ok hosts') :
    (∃ before w after, hosts = before ++ w :: after ∧ w.Alike v ∧
      hosts' = before ++ w.join v :: after) ∨
    (∀ w ∈ hosts, w.Apart v) ∧ hosts' = hosts ++ [v] := by
  unfold mergeInto at h
  cases hextend : extendFirst v hosts with
  | some merged =>
    rw [hextend] at h
    cases h
    exact .inl (extendFirst_eq_some hextend)
  | none =>
    rw [hextend] at h
    dsimp only at h
    split at h
    · cases h
    · next hnone =>
      cases h
      refine .inr ⟨fun w hw => ?_, rfl⟩
      simpa [sharesDomain_iff] using List.find?_eq_none.1 hnone w hw

theorem exists_mergeInto_iff {routes : String} {hosts : List VirtualHost} {v : VirtualHost} :
    (∃ hosts', mergeInto routes hosts v = .ok hosts') ↔
      (∃ w ∈ hosts, w.Alike v) ∨ ∀ w ∈ hosts, w.Apart v := by
  unfold mergeInto
  cases hextend : extendFirst v hosts with
  | some merged =>
    obtain ⟨before, w, after, rfl, halike, -⟩ := extendFirst_eq_some hextend
    exact iff_of_true ⟨merged, rfl⟩ (.inl ⟨w, by simp, halike⟩)
  | none =>
    rw [extendFirst_eq_none] at hextend
    have hother : ¬∃ w ∈ hosts, w.Alike v := by simpa using hextend
    rw [or_iff_right hother]
    dsimp only
    cases hshares : hosts.find? fun w => w.sharesDomain v with
    | some w =>
      have hmeets := List.find?_some hshares
      rw [sharesDomain_iff] at hmeets
      refine iff_of_false (by simp) fun h => ?_
      exact hmeets (h w (List.mem_of_find?_eq_some hshares))
    | none =>
      refine iff_of_true ⟨_, rfl⟩ fun w hw => ?_
      simpa [sharesDomain_iff] using List.find?_eq_none.1 hshares w hw

/-- Virtual hosts that were apart stay apart. -/
theorem pairwise_apart_mergeInto {routes : String} {hosts hosts' : List VirtualHost}
    {v : VirtualHost} (hapart : hosts.Pairwise Apart) (h : mergeInto routes hosts v = .ok hosts') :
    hosts'.Pairwise Apart := by
  rcases mergeInto_eq_ok h with ⟨before, w, after, rfl, -, rfl⟩ | ⟨hnew, rfl⟩
  · -- joining changes no domains
    have hdomains : (before ++ w.join v :: after).map domains =
        (before ++ w :: after).map domains := by simp [join]
    have hlists (l : List VirtualHost) : l.Pairwise Apart ↔
        (l.map domains).Pairwise fun a b => ∀ d ∈ a, d ∉ b := by
      rw [List.pairwise_map]
      rfl
    rwa [hlists, hdomains, ← hlists]
  · exact List.pairwise_append.2 ⟨hapart, List.pairwise_singleton _ _, by simpa using hnew⟩

/-! ## Merging all -/

/-- Virtual hosts that are made of others: each of these is part of one of them, and nothing
is in them that is not in these. -/
structure Gathers (seen hosts : List VirtualHost) : Prop where
  covers : ∀ v ∈ seen, ∃ w ∈ hosts, v.PartOf w
  domains : ∀ w ∈ hosts, ∃ v ∈ seen, v.domains = w.domains
  routes : ∀ w ∈ hosts, ∀ r ∈ w.routes, ∃ v ∈ seen, r ∈ v.routes

theorem Gathers.refl (hosts : List VirtualHost) : Gathers hosts hosts where
  covers v hv := ⟨v, hv, .refl v⟩
  domains w hw := ⟨w, hw, rfl⟩
  routes w hw _ hr := ⟨w, hw, hr⟩

theorem Gathers.eq_nil {seen : List VirtualHost} (h : Gathers seen []) : seen = [] := by
  refine List.eq_nil_iff_forall_not_mem.2 fun v hv => ?_
  obtain ⟨w, hw, -⟩ := h.covers v hv
  cases hw

theorem Gathers.append {seen hosts seen' hosts' : List VirtualHost} (h : Gathers seen hosts)
    (h' : Gathers seen' hosts') : Gathers (seen ++ seen') (hosts ++ hosts') := by
  constructor
  · intro v hv
    rcases List.mem_append.1 hv with hv | hv
    · obtain ⟨w, hw, hpart⟩ := h.covers v hv
      exact ⟨w, List.mem_append_left _ hw, hpart⟩
    · obtain ⟨w, hw, hpart⟩ := h'.covers v hv
      exact ⟨w, List.mem_append_right _ hw, hpart⟩
  · intro w hw
    rcases List.mem_append.1 hw with hw | hw
    · obtain ⟨v, hv, hdomains⟩ := h.domains w hw
      exact ⟨v, List.mem_append_left _ hv, hdomains⟩
    · obtain ⟨v, hv, hdomains⟩ := h'.domains w hw
      exact ⟨v, List.mem_append_right _ hv, hdomains⟩
  · intro w hw r hr
    rcases List.mem_append.1 hw with hw | hw
    · obtain ⟨v, hv, hmem⟩ := h.routes w hw r hr
      exact ⟨v, List.mem_append_left _ hv, hmem⟩
    · obtain ⟨v, hv, hmem⟩ := h'.routes w hw r hr
      exact ⟨v, List.mem_append_right _ hv, hmem⟩

theorem Gathers.join {seen before after : List VirtualHost} {v x : VirtualHost}
    (h : Gathers seen (before ++ x :: after)) (halike : x.Alike v) :
    Gathers (seen ++ [v]) (before ++ x.join v :: after) := by
  have hx : x ∈ before ++ x :: after := by simp
  -- what stands beside the one that is joined stood there before
  have hother {w : VirtualHost} (hw : w ∈ before ++ x.join v :: after) :
      w = x.join v ∨ w ∈ before ++ x :: after := by
    simp only [List.mem_append, List.mem_cons] at hw ⊢
    tauto
  have hkept {w : VirtualHost} (hw : w ∈ before ++ x :: after) :
      ∃ w' ∈ before ++ x.join v :: after, w.PartOf w' := by
    rw [List.mem_append, List.mem_cons] at hw
    rcases hw with hw | rfl | hw
    · exact ⟨w, by simp [hw], .refl w⟩
    · exact ⟨w.join v, by simp, partOf_join w v⟩
    · exact ⟨w, by simp [hw], .refl w⟩
  constructor
  · intro u hu
    rw [List.mem_append, List.mem_singleton] at hu
    rcases hu with hu | rfl
    · obtain ⟨w, hw, hpart⟩ := h.covers u hu
      obtain ⟨w', hw', hpart'⟩ := hkept hw
      exact ⟨w', hw', hpart.trans hpart'⟩
    · exact ⟨x.join u, by simp, partOf_join_incoming halike⟩
  · intro w hw
    have hbefore : ∃ u ∈ seen, u.domains = w.domains := by
      rcases hother hw with rfl | hw
      · exact h.domains x hx
      · exact h.domains w hw
    obtain ⟨u, hu, hdomains⟩ := hbefore
    exact ⟨u, List.mem_append_left _ hu, hdomains⟩
  · intro w hw r hr
    have hbefore : (∃ u ∈ seen, r ∈ u.routes) ∨ r ∈ v.routes := by
      rcases hother hw with rfl | hw
      · exact (List.mem_append.1 hr).imp (h.routes x hx r) id
      · exact .inl (h.routes w hw r hr)
    rcases hbefore with ⟨u, hu, hmem⟩ | hmem
    · exact ⟨u, List.mem_append_left _ hu, hmem⟩
    · exact ⟨v, by simp, hmem⟩

theorem Gathers.mergeInto {routes : String} {seen hosts hosts' : List VirtualHost}
    {v : VirtualHost} (h : Gathers seen hosts)
    (hmerge : VirtualHost.mergeInto routes hosts v = .ok hosts') :
    Gathers (seen ++ [v]) hosts' := by
  rcases mergeInto_eq_ok hmerge with ⟨before, x, after, rfl, halike, rfl⟩ | ⟨-, rfl⟩
  · exact h.join halike
  · exact h.append (.refl [v])

theorem Gathers.foldlM_mergeInto {routes : String} {seen hosts hosts' incoming : List VirtualHost}
    (h : Gathers seen hosts)
    (hmerge : incoming.foldlM (VirtualHost.mergeInto routes) hosts = .ok hosts') :
    Gathers (seen ++ incoming) hosts' := by
  have hfold := foldlM_accumulates (I := Gathers) (g := fun v => [v])
    (fun _ _ _ _ => Gathers.mergeInto) h hmerge
  rwa [List.flatMap_singleton'] at hfold

/-- A virtual host can be merged into what was gathered when it fits with all of that. -/
theorem Gathers.exists_mergeInto_iff {routes : String} {seen hosts : List VirtualHost}
    {v : VirtualHost} (h : Gathers seen hosts) (hseen : seen.Pairwise Compatible) :
    (∃ hosts', VirtualHost.mergeInto routes hosts v = .ok hosts') ↔
      ∀ u ∈ seen, u.Compatible v := by
  rw [VirtualHost.exists_mergeInto_iff]
  constructor
  · rintro (⟨w, hw, halike⟩ | hapart) u hu
    · obtain ⟨x, hx, hdomains⟩ := h.domains w hw
      have hxv : x.Alike v := fun d => by rw [hdomains, halike d]
      have hux : u.Compatible x := hseen.forall_of_forall (fun y _ => .inl (.refl y)) hu hx
      exact hux.congr_right hxv
    · obtain ⟨w, hw, hpart⟩ := h.covers u hu
      exact .inr fun d hd => hapart w hw d ((hpart.alike d).1 hd)
  · intro hfits
    by_cases hsome : ∃ w ∈ hosts, w.Alike v
    · exact .inl hsome
    · refine .inr fun w hw => ?_
      obtain ⟨u, hu, hdomains⟩ := h.domains w hw
      rcases hfits u hu with halike | hapart
      · exact absurd ⟨w, hw, fun d => by rw [← hdomains, halike d]⟩ hsome
      · exact fun d hd => hapart d (hdomains ▸ hd)

theorem Gathers.exists_foldlM_iff {routes : String} {seen hosts incoming : List VirtualHost}
    (h : Gathers seen hosts) (hseen : seen.Pairwise Compatible) :
    (∃ hosts', incoming.foldlM (VirtualHost.mergeInto routes) hosts = .ok hosts') ↔
      (seen ++ incoming).Pairwise Compatible := by
  have hfold := Checks.exists_foldlM_iff (I := Gathers) (g := fun v => [v])
    (P := List.Pairwise Compatible) (f := VirtualHost.mergeInto routes) (l := incoming)
    (fun xs ys hall => hall.sublist (List.sublist_append_left xs ys))
    (fun _ _ _ _ => Gathers.mergeInto) ?_ h hseen
  · rwa [List.flatMap_singleton'] at hfold
  · intro seen hosts v _ h hseen
    rw [h.exists_mergeInto_iff hseen, List.pairwise_append]
    simp [hseen]

end VirtualHost

/-! ## The shared route configuration -/

/-- The virtual hosts that a route configuration brings to the shared one. -/
def RouteConfiguration.sharedHosts (c : RouteConfiguration) : List VirtualHost :=
  if c.name = sharedRoutesName then c.virtualHosts else []

namespace Composition
open VirtualHost
variable {m m' : NameMap RouteConfiguration} {c : RouteConfiguration}
  {l : List RouteConfiguration} {seen : List VirtualHost}

/-- The virtual hosts that the shared route configuration has. -/
def sharedHosts (m : NameMap RouteConfiguration) : List VirtualHost :=
  ((m.get? sharedRoutesName).map (·.virtualHosts)).getD []

theorem sharedHosts_insert (m : NameMap RouteConfiguration) (c : RouteConfiguration) :
    sharedHosts (m.insert c.name c) =
      if c.name = sharedRoutesName then c.virtualHosts else sharedHosts m := by
  rw [sharedHosts, NameMap.get?_insert]
  split <;> rfl

theorem addRoutes_of_none (h : m.get? c.name = none) : addRoutes m c = .ok (m.insert c.name c) := by
  unfold addRoutes
  rw [h]
  rfl

/-- The shared route configuration is merged into the one that there is. -/
theorem addRoutes_of_shared {existing : RouteConfiguration} (hc : c.name = sharedRoutesName)
    (h : m.get? sharedRoutesName = some existing) : addRoutes m c =
      (c.virtualHosts.foldlM (VirtualHost.mergeInto sharedRoutesName) existing.virtualHosts).map
        fun hosts => m.insert sharedRoutesName { existing with virtualHosts := hosts } := by
  unfold addRoutes
  rw [hc, h]
  dsimp only
  rw [if_pos rfl]
  rfl

/-- What adding a route configuration does to the shared virtual hosts. -/
theorem addRoutes_cases (m : NameMap RouteConfiguration) (c : RouteConfiguration) :
    (c.sharedHosts = [] ∧ ∃ m', addRoutes m c = .ok m' ∧ sharedHosts m' = sharedHosts m) ∨
    (sharedHosts m = [] ∧ ∃ m', addRoutes m c = .ok m' ∧ sharedHosts m' = c.sharedHosts) ∨
    ∃ put : List VirtualHost → NameMap RouteConfiguration,
      addRoutes m c = (c.sharedHosts.foldlM (VirtualHost.mergeInto sharedRoutesName)
        (sharedHosts m)).map put ∧ ∀ hosts, sharedHosts (put hosts) = hosts := by
  by_cases hc : c.name = sharedRoutesName
  · right
    cases h : m.get? sharedRoutesName with
    | none =>
      refine .inl ⟨by rw [sharedHosts, h]; rfl, _, addRoutes_of_none (hc ▸ h), ?_⟩
      rw [sharedHosts_insert, if_pos hc, RouteConfiguration.sharedHosts, if_pos hc]
    | some existing =>
      refine .inr ⟨fun hosts => m.insert sharedRoutesName { existing with virtualHosts := hosts },
        ?_, fun hosts => ?_⟩
      · rw [addRoutes_of_shared hc h, RouteConfiguration.sharedHosts, if_pos hc, sharedHosts, h]
        rfl
      · rw [sharedHosts, NameMap.get?_insert_self]
        rfl
  · refine .inl ⟨if_neg hc, _, addRoutes_of_ne hc, ?_⟩
    rw [sharedHosts_insert, if_neg hc]

/-- The shared virtual hosts come as they are when they are the first, and are merged into those
that there are else. -/
theorem sharedHosts_of_addRoutes (h : addRoutes m c = .ok m') :
    (sharedHosts m = [] ∧ sharedHosts m' = c.sharedHosts) ∨
      c.sharedHosts.foldlM (VirtualHost.mergeInto sharedRoutesName) (sharedHosts m) =
        .ok (sharedHosts m') := by
  rcases addRoutes_cases m c with ⟨hc, m₁, hm, hhosts⟩ | ⟨hnone, m₁, hm, hhosts⟩ | ⟨put, hm, hput⟩
  · rw [hm] at h
    cases h
    rw [hc, hhosts]
    exact .inr rfl
  · rw [hm] at h
    cases h
    exact .inl ⟨hnone, hhosts⟩
  · rw [hm] at h
    cases hfold : c.sharedHosts.foldlM (VirtualHost.mergeInto sharedRoutesName) (sharedHosts m) with
    | error o =>
      rw [hfold] at h
      cases h
    | ok hosts =>
      rw [hfold] at h
      cases h
      rw [hput]
      exact .inr rfl

theorem gathers_addRoutes (h : Gathers seen (sharedHosts m)) (hadd : addRoutes m c = .ok m') :
    Gathers (seen ++ c.sharedHosts) (sharedHosts m') := by
  rcases sharedHosts_of_addRoutes hadd with ⟨hnone, hhosts⟩ | hfold
  · rw [hnone] at h
    rw [h.eq_nil, List.nil_append, hhosts]
    exact .refl _
  · exact h.foldlM_mergeInto hfold

/-- The shared route configuration gathers all that is brought to it. -/
theorem gathers_foldlM_addRoutes (h : l.foldlM addRoutes ∅ = .ok m) :
    Gathers (l.flatMap (·.sharedHosts)) (sharedHosts m) := by
  have hempty : Gathers [] (sharedHosts ∅) := .refl []
  exact foldlM_accumulates (I := fun seen m => Gathers seen (sharedHosts m))
    (g := RouteConfiguration.sharedHosts) (fun _ _ _ _ => gathers_addRoutes) hempty h

theorem exists_addRoutes_iff (h : Gathers seen (sharedHosts m)) (hseen : seen.Pairwise Compatible)
    (hc : c.sharedHosts.Pairwise Compatible) :
    (∃ m', addRoutes m c = .ok m') ↔ (seen ++ c.sharedHosts).Pairwise Compatible := by
  rcases addRoutes_cases m c with ⟨hnone, m₁, hm, -⟩ | ⟨hnone, m₁, hm, -⟩ | ⟨put, hm, -⟩
  · rw [hnone, List.append_nil]
    exact iff_of_true ⟨m₁, hm⟩ hseen
  · rw [hnone] at h
    rw [h.eq_nil, List.nil_append]
    exact iff_of_true ⟨m₁, hm⟩ hc
  · rw [hm, ← h.exists_foldlM_iff hseen]
    cases c.sharedHosts.foldlM (VirtualHost.mergeInto sharedRoutesName) (sharedHosts m) with
    | error o => exact iff_of_false nofun nofun
    | ok hosts => exact iff_of_true ⟨_, rfl⟩ ⟨_, rfl⟩

/-- Route configurations can be put together when any two virtual hosts that they bring to the
shared one fit together, in one of them or in two. -/
theorem exists_foldlM_addRoutes_iff (hl : ∀ c ∈ l, c.sharedHosts.Pairwise Compatible) :
    (∃ m, l.foldlM addRoutes ∅ = .ok m) ↔
      (l.flatMap (·.sharedHosts)).Pairwise Compatible := by
  have hempty : Gathers [] (sharedHosts ∅) := .refl []
  exact exists_foldlM_iff (I := fun seen m => Gathers seen (sharedHosts m))
    (g := RouteConfiguration.sharedHosts)
    (fun xs ys hall => hall.sublist (List.sublist_append_left xs ys))
    (fun _ _ _ _ => gathers_addRoutes)
    (fun _ _ c hc h hseen => exists_addRoutes_iff h hseen (hl c hc)) hempty .nil

/-- The shared virtual hosts are apart as long as those are that a route configuration brings. -/
theorem pairwise_apart_addRoutes (h : (sharedHosts m).Pairwise Apart)
    (hc : c.sharedHosts.Pairwise Apart) (hadd : addRoutes m c = .ok m') :
    (sharedHosts m').Pairwise Apart := by
  rcases sharedHosts_of_addRoutes hadd with ⟨-, hhosts⟩ | hfold
  · rwa [hhosts]
  · exact foldlM_keeps (fun _ _ _ => pairwise_apart_mergeInto) h hfold

theorem pairwise_apart_foldlM_addRoutes (hl : ∀ c ∈ l, c.sharedHosts.Pairwise Apart)
    (hm : (sharedHosts m).Pairwise Apart) (h : l.foldlM addRoutes m = .ok m') :
    (sharedHosts m').Pairwise Apart := by
  induction l generalizing m with
  | nil =>
    cases h
    exact hm
  | cons c rest ih =>
    rw [List.forall_mem_cons] at hl
    rw [List.foldlM_cons, bind_eq_ok] at h
    obtain ⟨m₁, hc, hrest⟩ := h
    exact ih hl.2 (pairwise_apart_addRoutes hm hl.1 hc) hrest

end Composition

end GatewayPlane
