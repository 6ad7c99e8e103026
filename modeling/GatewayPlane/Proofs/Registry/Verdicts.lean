import GatewayPlane.Proofs.Consistency.Reordering
import GatewayPlane.Proofs.Registry.Fitting
import GatewayPlane.Proofs.Registry.Publishing

/-!
# What is checked is what is published

A snapshot holds resources by their names, and so in another order than the bundle that it was
made of. When no two resources of a kind have the same name nothing is lost on the way, and the
verdict on the snapshot is that on the bundle. Composing never gives two resources of a kind the
same name, so what a registry publishes passes the check that it made before.
-/
namespace GatewayPlane

/-- Whether no two resources of a kind have the same name. -/
def Bundle.NamedApart (b : Bundle) : Prop := ∀ k, ((b.ofKind k).map Resource.name).Nodup

namespace Composition
variable {α : Type} {name : α → String}

theorem Keyed.nodup_values {m : NameMap α} (hm : Keyed name m) : m.values.Nodup := by
  apply m.pairwise_values_iff.2
  rintro n n' a b hne ha hb rfl
  exact hne ((hm n a ha).symm.trans (hm n' a hb))

/-- Values with names of their own are all kept, in the order of their names. -/
theorem values_ofNamed_perm {l : List α} (h : (l.map name).Nodup) :
    (NameMap.ofNamed name l).values.Perm l := by
  rw [ofNamed_eq_insertAll]
  have hkeyed : Keyed name (insertAll name ∅ l) := Keyed.empty.insertAll l
  apply (List.perm_ext_iff_of_nodup hkeyed.nodup_values (h.of_map name)).2
  intro a
  constructor
  · exact mem_of_mem_values_insertAll
  · intro ha
    -- what is left under its name can only be itself
    obtain ⟨a', ha', hname⟩ : ∃ a' ∈ (insertAll name ∅ l).values, name a' = name a :=
      exists_mem_values_insertAll ha
    rwa [← List.inj_on_of_nodup_map h (mem_of_mem_values_insertAll ha') ha hname]

end Composition

namespace Bundle
variable {b : Bundle}

theorem nodup_map_of_ofKind {α : Type} {wrap : α → Resource} {named : α → String} {l : List α}
    (hnamed : ∀ a, (wrap a).name = named a) (h : ((l.map wrap).map Resource.name).Nodup) :
    (l.map named).Nodup := by
  rw [List.map_map] at h
  rwa [show Resource.name ∘ wrap = named from funext hnamed] at h

/-- A snapshot holds the resources of a bundle in the order of their names. -/
theorem NamedApart.reordered (h : b.NamedApart) (v : Version) :
    (Snapshot.ofBundle v b).toBundle.Reordered b where
  clusters := Composition.values_ofNamed_perm (nodup_map_of_ofKind (fun _ => rfl) (h .cluster))
  endpoints := Composition.values_ofNamed_perm (nodup_map_of_ofKind (fun _ => rfl) (h .endpoint))
  routes := .of_perm .refl
    (Composition.values_ofNamed_perm (nodup_map_of_ofKind (fun _ => rfl) (h .route)))
  listeners := .of_perm .refl
    (Composition.values_ofNamed_perm (nodup_map_of_ofKind (fun _ => rfl) (h .listener)))

theorem NamedApart.check_iff (h : b.NamedApart) (v : Version) (node : NodeId) :
    b.check node = .ok () ↔ (Snapshot.ofBundle v b).check node = .ok () := by
  rw [Snapshot.check, check_eq_ok_iff, check_eq_ok_iff]
  constructor
  · intro hb
    exact hb.reordered (h.reordered v).symm
  · intro hb
    exact hb.reordered (h.reordered v)

theorem namedApart_of_compose {base : Bundle} {contributions : List Contribution}
    (h : compose base contributions = .ok b) : b.NamedApart := by
  intro k
  apply List.pairwise_map.2
  apply (pairwise_ofKind_compose k h).imp
  intro x y hlt heq
  exact String.lt_irrefl _ (heq ▸ hlt)

end Bundle

/-- Checking a bundle and checking a snapshot of it give the same verdict when no two resources
of a kind have the same name. Composing gives such bundles only, and a snapshot of one holds it
as it is. So what is published was checked, and passes when it is checked again. -/
theorem published_as_checked :
    (∀ b : Bundle, b.NamedApart → ∀ (v : Version) (node : NodeId),
      (b.check node = .ok () ↔ (Snapshot.ofBundle v b).check node = .ok ())) ∧
    (∀ base contributions b, compose base contributions = .ok b →
      b.NamedApart ∧ ∀ v, (Snapshot.ofBundle v b).toBundle = b) ∧
    ∀ (p : Publications) (node : NodeId) base contributions v,
      (p.publish node base contributions).1 = .ok v →
      ∃ b, compose base contributions = .ok b ∧ b.check node = .ok () ∧
        (p.publish node base contributions).2.cache.held? node = some (.ofBundle v b) ∧
        (Snapshot.ofBundle v b).check node = .ok () := by
  refine ⟨fun b hb => hb.check_iff, fun base contributions b h =>
    ⟨Bundle.namedApart_of_compose h, fun v => toBundle_ofBundle_compose v h⟩, ?_⟩
  intro p node base contributions v h
  have hattempt := p.publish_attempt node base contributions
  generalize p.publish node base contributions = x at h hattempt
  cases hattempt with
  | unfit => cases h
  | refused => cases h
  | @done b p' hfit hgains =>
    cases h
    obtain ⟨hcompose, hcheck⟩ := composeChecked_eq_ok_iff.1 hfit
    refine ⟨b, hcompose, hcheck, ?_, ?_⟩
    · rw [hgains.held?, if_pos rfl]
    · exact ((Bundle.namedApart_of_compose hcompose).check_iff _ node).1 hcheck

/-- Two hosts that do not come in the order of their names. -/
def hostsContribution : Contribution := ⟨"hosts", "hosts", "v1", .twoHosts "pets" "books"⟩

theorem published_as_checked_hosts :
    (Bundle.twoHosts "pets" "books").NamedApart ∧
    (Snapshot.ofBundle .initial (.twoHosts "pets" "books")).check "edge" = .ok () ∧
    (Publications.publish {} "edge" {} [hostsContribution]).1 = .ok .initial ∧
    ∃ b, compose {} [hostsContribution] = .ok b ∧ b.NamedApart ∧
      (Snapshot.ofBundle .initial b).check "edge" = .ok () := by
  obtain ⟨hverdicts, hcomposed, hpublished⟩ := published_as_checked
  have hapart : (Bundle.twoHosts "pets" "books").NamedApart := by
    intro k
    cases k <;> decide +kernel
  have hcheck : (Bundle.twoHosts "pets" "books").check "edge" = .ok () := by decide +kernel
  have hpublish : (Publications.publish {} "edge" {} [hostsContribution]).1 = .ok .initial := by
    decide +kernel
  obtain ⟨b, hb, -, -, hagain⟩ := hpublished {} "edge" {} [hostsContribution] .initial hpublish
  exact ⟨hapart, (hverdicts _ hapart .initial "edge").1 hcheck, hpublish, b, hb,
    (hcomposed _ _ b hb).1, hagain⟩

end GatewayPlane
