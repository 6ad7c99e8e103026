import GatewayPlane.Proofs.Registry.Versions

/-!
# Deploying again, and taking back

What a node publishes is always composed anew from its base and its contributions. So a
deployment that is made again publishes the same again, and one that is taken back leaves
what there was before, whatever it had replaced. All that can stop either of them is that
there is no version left.
-/
namespace GatewayPlane

namespace NodeEntry
variable {e : NodeEntry} {c : Contribution} {l : List Contribution}

theorem replace_replace (c : Contribution) (l : List Contribution) :
    replace c (replace c l) = replace c l := by
  induction l with
  | nil => simp [replace]
  | cons d rest ih =>
    rw [replace]
    by_cases hsame : d.deploymentId = c.deploymentId
    · rw [if_pos hsame, replace, if_pos rfl]
    · rw [if_neg hsame, replace, if_neg hsame, ih]

/-- A contribution of a new deployment goes after all others, and can be taken away again. -/
theorem eraseP_replace (h : ∀ d ∈ l, d.deploymentId ≠ c.deploymentId) :
    (replace c l).eraseP (·.deploymentId == c.deploymentId) = l := by
  induction l with
  | nil => simp [replace]
  | cons d rest ih =>
    rw [List.forall_mem_cons] at h
    rw [replace, if_neg h.1, List.eraseP_cons_of_neg (by simpa using h.1), ih h.2]

theorem mem_replace_self (c : Contribution) (l : List Contribution) : c ∈ replace c l := by
  induction l with
  | nil => exact List.mem_singleton_self c
  | cons d rest ih =>
    rw [replace]
    split
    · exact List.mem_cons_self
    · exact List.mem_cons_of_mem d ih

/-- A deployment does not clash with itself. -/
theorem clash?_replace (h : e.clash? c = none) :
    { e with contributions := replace c e.contributions }.clash? c = none := by
  rw [clash?, List.find?_eq_none] at h ⊢
  intro d hd
  rcases mem_replace hd with rfl | hd
  · simp
  · exact h d hd

@[simp] theorem settle_fst (e e' : NodeEntry) (x : Except Fault Version × Publications) :
    (settle e e' x).1 = x.1 := by
  obtain ⟨f | v, p⟩ := x <;> rfl

end NodeEntry

namespace Publications
variable {p : Publications} {node : NodeId} {base : Bundle} {contributions : List Contribution}

/-- What fits together is published when the cache accepts the version. -/
theorem Attempt.isOk {x : Except Fault Version × Publications} {b : Bundle}
    (h : Attempt p node base contributions x)
    (hfit : composeChecked node base contributions = .ok b)
    (haccepts : Cache.accepts (p.cache.held? node) (.ofBundle (p.nextVersion node).1 b) = true) :
    ∃ v, x.1 = .ok v := by
  cases h with
  | unfit hunfit =>
    rw [hfit] at hunfit
    cases hunfit
  | refused hfit' hrefused =>
    rw [hfit] at hfit'
    cases hfit'
    exact absurd haccepts hrefused
  | done => exact ⟨_, rfl⟩

end Publications

namespace Registry
variable {r r' : Registry} {node : NodeId} {d : Contribution} {v : Version}

theorem entry_of_insert {e : NodeEntry} (h : r'.nodes = r.nodes.insert node e) :
    r'.nodes.get? node = some e ∧ r'.entry node = e := by
  rw [entry, h, NameMap.get?_insert_self]
  exact ⟨rfl, rfl⟩

theorem NoneBare.get?_eq_none (hr : r.NoneBare) (hbare : (r.entry node).isBare = true) :
    r.nodes.get? node = none := by
  rw [Option.eq_none_iff_forall_ne_some]
  intro e he
  rw [entry, he, Option.getD_some, hr node e he] at hbare
  cases hbare

theorem onNode_fst {α : Type} (r : Registry) (node : NodeId)
    (work : NodeEntry → Publications → NodeEntry.Outcome α) :
    (r.onNode node work).1 = (work (r.entry node) r.published).1 := by
  rw [onNode, entry]
  rcases work ((r.nodes.get? node).getD {}) r.published with ⟨f | a, e, p⟩ <;> rfl

/-! ## What succeeds -/

/-- Whether there is something to publish after a command: resources that fit together, and
a version for them. -/
def Command.Publishable (c : Command) (r : Registry) : Prop :=
  (∃ b, composeChecked c.node (c.edit (r.entry c.node)).base
    (c.edit (r.entry c.node)).contributions = .ok b) ∧
  r.published.lastNumber c.node < UInt64.size - 1

/-- What fits together is published, whatever was counted before, when a version is left. -/
theorem Represents.publish_isOk {c : Command} {p : Publications} (hr : r.Represents)
    (h : c.Publishable r) (hagrees : r.published.Agrees p) :
    ∃ v, (p.publish c.node (c.edit (r.entry c.node)).base
      (c.edit (r.entry c.node)).contributions).1 = .ok v := by
  obtain ⟨⟨b, hfit⟩, hroom⟩ := h
  have hattempt := (p.publish_attempt c.node (c.edit (r.entry c.node)).base
    (c.edit (r.entry c.node)).contributions).of_agrees hagrees
  exact hattempt.isOk hfit (hr.accepts_nextVersion hroom b)

/-- Deploying what is permitted succeeds when there is something to publish after it. -/
theorem Represents.deploy_isOk (hr : r.Represents)
    (hpermitted : (Command.deploy node d).Permitted (r.entry node))
    (h : (Command.deploy node d).Publishable r) : ∃ v, (r.deploy node d).1 = .ok v := by
  obtain ⟨v, hv⟩ := hr.publish_isOk h (.refl _)
  rw [deploy, if_neg (by simp [hpermitted.1]), onNode_fst, NodeEntry.deploy_eq_settle hpermitted.2,
    NodeEntry.settle_fst]
  exact ⟨v, hv⟩

/-- Undeploying what is deployed publishes what is left, if anything is. -/
theorem undeploy_fst {id : String}
    (hpermitted : (Command.undeploy node id).Permitted (r.entry node)) :
    (r.undeploy node id).1 =
      if ((Command.undeploy node id).edit (r.entry node)).isBare then .ok none
      else (r.published.publish node (r.entry node).base
        ((Command.undeploy node id).edit (r.entry node)).contributions).1.map some := by
  obtain ⟨c, hc, rfl⟩ := hpermitted
  rw [undeploy]
  cases hfound : r.nodes.get? node with
  | none =>
    rw [entry, hfound] at hc
    cases hc
  | some e =>
    obtain rfl : r.entry node = e := by rw [entry, hfound, Option.getD_some]
    dsimp only
    have hlisted : (r.entry node).contributions.any (·.deploymentId == c.deploymentId) = true :=
      List.any_eq_true.2 ⟨c, hc, beq_self_eq_true c.deploymentId⟩
    rw [if_pos hlisted, Command.edit, NodeEntry.isBare, Bool.and_comm]
    dsimp only
    split
    · rfl
    · generalize r.published.publish node _ _ = x
      obtain ⟨f | w, p⟩ := x <;> rfl

/-- Undeploying what is deployed succeeds when nothing is left after it, or something to
publish. -/
theorem Represents.undeploy_isOk {id : String} (hr : r.Represents)
    (hpermitted : (Command.undeploy node id).Permitted (r.entry node))
    (h : ((Command.undeploy node id).edit (r.entry node)).isBare = false →
      (Command.undeploy node id).Publishable r) : ∃ v, (r.undeploy node id).1 = .ok v := by
  rw [undeploy_fst hpermitted]
  split
  · exact ⟨none, rfl⟩
  · next hleft =>
    obtain ⟨v, hv⟩ := hr.publish_isOk (c := .undeploy node id) (h (eq_false_of_ne_true hleft))
      (.refl _)
    exact ⟨some v, congrArg (Except.map some) hv⟩

/-- What is accepted has a version above the last one. -/
theorem Represents.lt_of_accepts {b : Bundle} (hr : r.Represents)
    (hknown : (r.entry node).isBare = false)
    (h : Cache.accepts (r.cache.held? node) (.ofBundle (r.published.nextVersion node).1 b) = true) :
    r.published.lastNumber node < UInt64.size - 1 := by
  have hnext := hr.toNat_nextVersion node
  rcases hr.held?_cases node with ⟨hbare, -⟩ | ⟨-, b', v', -, hheld⟩
  · rw [hknown] at hbare
    cases hbare
  · have hlast : r.published.lastNumber node = v'.number.toNat := by
      rw [Publications.lastNumber, hr.held?_version hheld]
      rfl
    rw [hheld] at h
    have hlt : v' < (r.published.nextVersion node).1 := of_decide_eq_true h
    rw [Version.lt_iff] at hlt
    omega

/-- Undeploying succeeds exactly then. -/
theorem Represents.undeploy_isOk_iff {id : String} (hr : r.Represents)
    (hpermitted : (Command.undeploy node id).Permitted (r.entry node)) :
    (∃ v, (r.undeploy node id).1 = .ok v) ↔
      ((Command.undeploy node id).edit (r.entry node)).isBare = true ∨
        (Command.undeploy node id).Publishable r := by
  constructor
  · rintro ⟨v, hv⟩
    rw [undeploy_fst hpermitted] at hv
    split at hv
    · next hbare => exact .inl hbare
    · right
      cases hpublish : (r.published.publish node (r.entry node).base
          ((Command.undeploy node id).edit (r.entry node)).contributions).1 with
      | error f =>
        rw [hpublish] at hv
        cases hv
      | ok w =>
        obtain ⟨b, hfit, haccepts⟩ := Publications.accepts_of_publish hpublish
        have hknown : (r.entry node).isBare = false := by
          obtain ⟨c, hc, -⟩ := hpermitted
          simp [NodeEntry.isBare, List.ne_nil_of_mem hc]
        exact ⟨⟨b, hfit⟩, hr.lt_of_accepts hknown haccepts⟩
  · rintro (hbare | hpublishable)
    · exact hr.undeploy_isOk hpermitted fun hknown => absurd hbare (ne_true_of_eq_false hknown)
    · exact hr.undeploy_isOk hpermitted fun _ => hpublishable

/-! ## What a success leaves -/

/-- A command has published at a version what it makes of its node. -/
structure Command.Published (c : Command) (r : Registry) (v : Version) (r' : Registry) : Prop where
  permitted : c.Permitted (r.entry c.node)
  known : (c.edit (r.entry c.node)).isBare = false
  fit : ∃ b, composeChecked c.node (c.edit (r.entry c.node)).base
    (c.edit (r.entry c.node)).contributions = .ok b
  nodes : r'.nodes = r.nodes.insert c.node (c.edit (r.entry c.node))
  version : v = (r.published.nextVersion c.node).1
  last : r'.published.lastNumber c.node = v.number.toNat

theorem Represents.published_of_ok {c : Command} (hr : r.Represents)
    (hc : ∀ port, c ≠ .listen c.node port) (h : (c.perform r).1 = .ok (some v)) :
    c.Published r v (c.perform r).2 := by
  have houtcome := perform_outcome hr.noneBare c
  generalize c.perform r = x at houtcome h ⊢
  cases houtcome with
  | failed | dropped => cases h
  | idle hagain => exact absurd hagain (hc _)
  | published hpermitted hknown hfit hnodes hgains =>
    cases h
    exact ⟨hpermitted, hknown, ⟨_, hfit⟩, hnodes, rfl, hgains.lastNumber⟩

theorem Represents.published_of_deploy (hr : r.Represents) (h : (r.deploy node d).1 = .ok v) :
    (Command.deploy node d).Published r v (r.deploy node d).2 :=
  hr.published_of_ok (c := .deploy node d) nofun (congrArg (·.map some) h)

theorem Represents.published_of_undeploy {id : String} (hr : r.Represents)
    (h : (r.undeploy node id).1 = .ok (some v)) :
    (Command.undeploy node id).Published r v (r.undeploy node id).2 :=
  hr.published_of_ok (c := .undeploy node id) nofun h

theorem Represents.dropped_of_undeploy {id : String} (hr : r.Represents)
    (h : (r.undeploy node id).1 = .ok none) :
    ((Command.undeploy node id).edit (r.entry node)).isBare = true ∧
      (r.undeploy node id).2.nodes = r.nodes.erase node := by
  have houtcome := perform_outcome hr.noneBare (.undeploy node id)
  change (Command.undeploy node id).Outcome r (r.undeploy node id) at houtcome
  generalize r.undeploy node id = x at houtcome h ⊢
  cases houtcome with
  | failed | idle | published => cases h
  | dropped _ hbare hnodes => exact ⟨hbare, hnodes⟩

/-- What is known of a node fits together. -/
theorem Represents.fit (hr : r.Represents) (hknown : (r.entry node).isBare = false) :
    ∃ b, composeChecked node (r.entry node).base (r.entry node).contributions = .ok b := by
  have hnode := hr node
  unfold entry at hknown ⊢
  cases hfound : r.nodes.get? node with
  | none =>
    rw [hfound] at hknown
    cases hknown
  | some e =>
    rw [hfound] at hnode
    obtain ⟨-, -, b, -, hfit, -, -⟩ := hnode.of_some
    exact ⟨b, hfit⟩

/-- The next version is above the last one, unless that is the last there is. -/
theorem Represents.lt_nextVersion (hr : r.Represents)
    (hlast : r.published.lastNumber node = v.number.toNat) (hroom : v < v.next) :
    r.published.lastNumber node < UInt64.size - 1 ∧ v < (r.published.nextVersion node).1 := by
  rw [Version.lt_iff, Version.toNat_next] at hroom
  rw [Version.lt_iff, hr.toNat_nextVersion, hlast]
  omega

/-- The same is known of every node, and the same held but for the versions. -/
structure Resembles (r r' : Registry) : Prop where
  nodes : r'.nodes = r.nodes
  held : ∀ node, (r'.cache.held? node).map (·.withVersion .initial) =
    (r.cache.held? node).map (·.withVersion .initial)

theorem Represents.resembles (h : r.Represents) (h' : r'.Represents) (hnodes : r'.nodes = r.nodes) :
    r.Resembles r' := by
  refine ⟨hnodes, fun node => ?_⟩
  have hentry : r'.entry node = r.entry node := by rw [entry, hnodes, entry]
  exact h'.held?_eq h (by rw [hentry]) (by rw [hentry])

/-- What was just deployed can be deployed again, as long as there is a version for it. -/
theorem Command.Published.deploy_again (h : (Command.deploy node d).Published r v r')
    (hr' : r'.Represents) (hroom : v < v.next) :
    ∃ w, (r'.deploy node d).1 = .ok w ∧ v < w ∧ (r'.deploy node d).2.nodes = r'.nodes := by
  obtain ⟨hleft, hlt⟩ := hr'.lt_nextVersion h.last hroom
  obtain ⟨hpresent, hentry⟩ : r'.nodes.get? node = some (r'.entry node) ∧ r'.entry node =
      { r.entry node with contributions := NodeEntry.replace d (r.entry node).contributions } := by
    obtain ⟨hpresent, hentry⟩ := entry_of_insert h.nodes
    exact ⟨hentry ▸ hpresent, hentry⟩
  -- nothing is left to do about what is known of the node
  have hedit : (Command.deploy node d).edit (r'.entry node) = r'.entry node := by
    rw [hentry, edit, NodeEntry.replace_replace]
  have hpermitted : (Command.deploy node d).Permitted (r'.entry node) := by
    rw [hentry]
    exact ⟨h.permitted.1, NodeEntry.clash?_replace h.permitted.2⟩
  have hfit : ∃ b, composeChecked node (r'.entry node).base (r'.entry node).contributions =
      .ok b := by
    rw [hentry]
    exact h.fit
  obtain ⟨w, hw⟩ := hr'.deploy_isOk hpermitted ⟨hedit.symm ▸ hfit, hleft⟩
  have hagain := hr'.published_of_deploy hw
  refine ⟨w, hw, hagain.version ▸ hlt, hagain.nodes.trans ?_⟩
  exact (congrArg _ hedit).trans (NameMap.insert_get?_self _ hpresent)

/-- What was just deployed anew can be taken back: that only takes a version when something
else is left on the node. -/
theorem Command.Published.undeploy (h : (Command.deploy node d).Published r v r')
    (hr : r.Represents) (hr' : r'.Represents)
    (hnew : ∀ c ∈ (r.entry node).contributions, c.deploymentId ≠ d.deploymentId) :
    (r.entry node).isBare = true ∧ (r'.undeploy node d.deploymentId).1 = .ok none ∧
      (r'.undeploy node d.deploymentId).2.nodes = r.nodes ∨
    (r.entry node).isBare = false ∧ (v < v.next →
      ∃ w, (r'.undeploy node d.deploymentId).1 = .ok (some w) ∧ v < w ∧
        (r'.undeploy node d.deploymentId).2.nodes = r.nodes) := by
  obtain ⟨hpresent, hentry⟩ : r'.nodes.get? node = some (r'.entry node) ∧ r'.entry node =
      { r.entry node with contributions := NodeEntry.replace d (r.entry node).contributions } := by
    obtain ⟨hpresent, hentry⟩ := entry_of_insert h.nodes
    exact ⟨hentry ▸ hpresent, hentry⟩
  -- what is known of the node after both is what was known before
  have hedit : (Command.undeploy node d.deploymentId).edit (r'.entry node) = r.entry node := by
    rw [hentry, edit, NodeEntry.eraseP_replace hnew]
  have hpermitted : (Command.undeploy node d.deploymentId).Permitted (r'.entry node) := by
    refine ⟨d, ?_, rfl⟩
    rw [hentry]
    exact NodeEntry.mem_replace_self d _
  have hrestored := nodes_restored hr.noneBare node
  by_cases hbare : (r.entry node).isBare = true
  · rw [if_pos hbare] at hrestored
    obtain ⟨w | w, hw⟩ := hr'.undeploy_isOk hpermitted fun hknown => by
      rw [hedit, hbare] at hknown
      cases hknown
    · refine .inl ⟨hbare, hw, (hr'.dropped_of_undeploy hw).2.trans ?_⟩
      rw [h.nodes]
      exact (NameMap.erase_insert _ _ _).trans hrestored
    · have hknown := (hr'.published_of_undeploy hw).known
      exact absurd (hedit ▸ hbare) (ne_true_of_eq_false hknown)
  · rw [if_neg hbare] at hrestored
    refine .inr ⟨eq_false_of_ne_true hbare, fun hroom => ?_⟩
    obtain ⟨hleft, hlt⟩ := hr'.lt_nextVersion h.last hroom
    have hfit := hr.fit (eq_false_of_ne_true hbare)
    obtain ⟨w | w, hw⟩ := hr'.undeploy_isOk hpermitted fun _ => ⟨hedit.symm ▸ hfit, hleft⟩
    · exact absurd (hedit ▸ (hr'.dropped_of_undeploy hw).1) hbare
    · have hundone := hr'.published_of_undeploy hw
      refine ⟨w, hw, hundone.version ▸ hlt, hundone.nodes.trans ?_⟩
      rw [h.nodes]
      exact (NameMap.insert_insert _ _ _ _).trans ((congrArg _ hedit).trans hrestored)

/-- As long as there is a version left, what was just deployed can be deployed again, which
publishes the same at a higher version; and when its deployment is new it can be taken back,
which restores what was known of every node and what is held of it. A node on which there
was nothing else is forgotten, and that takes no version. -/
theorem run_deploy_undeploy (commands : List Command) (node : NodeId) (d : Contribution)
    {v : Version} (hdeploy : ((run {} commands).deploy node d).1 = .ok v) :
    let r := run {} commands
    let deployed := (r.deploy node d).2
    let again := deployed.deploy node d
    let undone := deployed.undeploy node d.deploymentId
    (v < v.next → ∃ w, again.1 = .ok w ∧ v < w ∧ deployed.Resembles again.2) ∧
    ((∀ c ∈ (r.entry node).contributions, c.deploymentId ≠ d.deploymentId) →
      (r.entry node).isBare = true ∧ undone.1 = .ok none ∧ r.Resembles undone.2 ∧
        undone.2.cache.held? node = none ∧ node ∉ undone.2.listNodes ∨
      (r.entry node).isBare = false ∧ (v < v.next →
        ∃ w, undone.1 = .ok (some w) ∧ v < w ∧ r.Resembles undone.2)) := by
  intro r deployed again undone
  have hr : r.Represents := run_represents commands
  have hr' : deployed.Represents := hr.perform (.deploy node d)
  have hagain : again.2.Represents := hr'.perform (.deploy node d)
  have hundone : undone.2.Represents := hr'.perform (.undeploy node d.deploymentId)
  have hpublished := hr.published_of_deploy hdeploy
  refine ⟨fun hroom => ?_, fun hnew => ?_⟩
  · obtain ⟨w, hw, hlt, hnodes⟩ := hpublished.deploy_again hr' hroom
    exact ⟨w, hw, hlt, hr'.resembles hagain hnodes⟩
  · rcases hpublished.undeploy hr hr' hnew with ⟨hbare, hw, hnodes⟩ | ⟨hknown, hback⟩
    · have hforgotten : undone.2.nodes.get? node = none :=
        hnodes ▸ hr.noneBare.get?_eq_none hbare
      have hnode := hundone node
      rw [hforgotten] at hnode
      refine .inl ⟨hbare, hw, hr.resembles hundone hnodes, hnode.of_none, ?_⟩
      rw [listNodes, NameMap.mem_keys_iff, hforgotten]
      rintro ⟨e, he⟩
      cases he
    · refine .inr ⟨hknown, fun hroom => ?_⟩
      obtain ⟨w, hw, hlt, hnodes⟩ := hback hroom
      exact ⟨w, hw, hlt, hr.resembles hundone hnodes⟩

theorem run_deploy_undeploy_pets :
    let r := run {} [.listen "edge" 8080]
    let deployed := (r.deploy "edge" petsContribution).2
    (∃ w, (deployed.deploy "edge" petsContribution).1 = .ok w ∧ (⟨2⟩ : Version) < w) ∧
    ∃ w, (deployed.undeploy "edge" petsContribution.deploymentId).1 = .ok (some w) ∧
      r.Resembles (deployed.undeploy "edge" petsContribution.deploymentId).2 := by
  have hdeploy : ((run {} [.listen "edge" 8080]).deploy "edge" petsContribution).1 = .ok ⟨2⟩ := by
    decide +kernel
  have hroom : (⟨2⟩ : Version) < Version.next ⟨2⟩ := by decide +kernel
  have h := run_deploy_undeploy [.listen "edge" 8080] "edge" petsContribution hdeploy
  constructor
  · obtain ⟨w, hw, hlt, -⟩ := h.1 hroom
    exact ⟨w, hw, hlt⟩
  · rcases h.2 (by decide +kernel) with ⟨hbare, -⟩ | ⟨-, hundone⟩
    · exact absurd hbare (by decide +kernel)
    · obtain ⟨w, hw, -, hsame⟩ := hundone hroom
      exact ⟨w, hw, hsame⟩

/-- Nothing can be deployed again forever: each time takes a version. -/
theorem not_always_deploy_again : ¬∀ (commands : List Command) (node : NodeId) (d : Contribution)
    (v : Version), ((run {} commands).deploy node d).1 = .ok v →
      ∃ w, (((run {} commands).deploy node d).2.deploy node d).1 = .ok w ∧ v < w := by
  intro h
  have hreached (n : Nat) : ∃ commands v,
      ((run {} commands).deploy "edge" petsContribution).1 = .ok v ∧ n ≤ v.number.toNat := by
    induction n with
    | zero => exact ⟨[], ⟨1⟩, by decide +kernel, Nat.zero_le _⟩
    | succ n ih =>
      obtain ⟨commands, v, hv, hle⟩ := ih
      obtain ⟨w, hw, hlt⟩ := h commands "edge" petsContribution v hv
      refine ⟨commands ++ [.deploy "edge" petsContribution], w, ?_, ?_⟩
      · rw [run, List.foldl_append]
        exact hw
      · exact Nat.lt_of_le_of_lt hle (Version.lt_iff.1 hlt)
  obtain ⟨-, v, -, hle⟩ := hreached UInt64.size
  exact Nat.not_lt_of_le hle v.number.toNat_lt

end Registry

end GatewayPlane
