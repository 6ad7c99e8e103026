import GatewayPlane.Api.Document
import GatewayPlane.Proofs.Json.Parts
import GatewayPlane.Proofs.Time.Spelling

/-!
# API documents are read back

An API is restored from what is written of it, part by part. Schemas and extensions are kept
as they were found: a parameter of a document never has null for its schema, since that is
read as no schema, and null stays what it is everywhere else.
-/
namespace GatewayPlane
open Json

/-! ## Choices -/

theorem ApiStyle.restores : Restores ofJson? toJson :=
  restores_choice (by intro style; cases style <;> rfl)

theorem Interaction.restores : Restores ofJson? toJson :=
  restores_choice (by intro interaction; cases interaction <;> rfl)

theorem Protocol.restores : Restores ofJson? toJson :=
  restores_choice (by intro protocol; cases protocol <;> rfl)

theorem ParameterPlace.restores : Restores ofJson? toJson :=
  restores_choice (by intro place; cases place <;> rfl)

theorem SecurityMechanism.restores : Restores ofJson? toJson :=
  restores_choice (by intro mechanism; cases mechanism <;> rfl)

/-! ## Parts without schemas -/

theorem RequestBody.restores : Restores ofJson? toJson where
  read_write b := by simp [ofJson?, toJson, restores_string.maybe]
  null := rfl
  wellFormed b := by
    refine wellFormed_members memberNames (by decide) ?_
    simp only [List.append_assoc]
    exact .cons (.string _) (.maybe restores_string (.cons (.bool _) .nil))

theorem Response.restores : Restores ofJson? toJson where
  read_write r := by simp [ofJson?, toJson, restores_string.maybe]
  null := rfl
  wellFormed r := wellFormed_members memberNames (by decide)
    (.cons (.string _) (.cons (.string _) (.last restores_string)))

theorem Quota.restores : Restores ofJson? toJson where
  read_write q := by simp [ofJson?, toJson, restores_uint32.read_write, Span.restores.read_write]
  null := rfl
  wellFormed q := wellFormed_members memberNames (by decide)
    (.cons (restores_uint32.wellFormed _) (.cons (Span.restores.wellFormed _) .nil))

theorem SecurityScheme.restores : Restores ofJson? toJson where
  read_write s := by
    have hsettings : nameMap? string? (.object (s.settings.map Json.string).entries) =
        some s.settings :=
      nameMap?_entries fun _ _ => rfl
    simp [ofJson?, toJson, SecurityMechanism.restores.read_write, hsettings]
  null := rfl
  wellFormed s := by
    have hsettings : ∀ e ∈ (s.settings.map Json.string).entries, e.2.WellFormed := by
      intro e he
      obtain ⟨setting, -, rfl⟩ := List.mem_map.1 he
      exact .string setting.2
    exact wellFormed_members memberNames (by decide) (.cons (.string _)
      (.cons (SecurityMechanism.restores.wellFormed _) (.cons (wellFormed_entries hsettings) .nil)))

theorem Server.restores : Restores ofJson? toJson where
  read_write s := by simp [ofJson?, toJson, restores_string.maybe]
  null := rfl
  wellFormed s := wellFormed_members memberNames (by decide)
    (.cons (.string _) (.last restores_string))

theorem ApiInfo.restores : Restores ofJson? toJson where
  read_write i := by simp [ofJson?, toJson, ApiStyle.restores.read_write, restores_string.maybe]
  null := rfl
  wellFormed i := by
    refine wellFormed_members memberNames (by decide) ?_
    simp only [List.append_assoc]
    exact .cons (ApiStyle.restores.wellFormed _) (.cons (.string _) (.cons (.string _)
      (.maybe restores_string (.last restores_string))))

/-! ## Parts with schemas -/

variable {Q : Json → Prop}

namespace Parameter

/-- Whether the schema is no null and has this property. -/
def Schema (Q : Json → Prop) (p : Parameter) : Prop :=
  ∀ schema ∈ p.schema, schema ≠ .null ∧ Q schema

theorem ofJson?_toJson {p : Parameter} (h : p.Schema Q) : ofJson? p.toJson = some p := by
  have hschema : maybe? anything p.schema = some p.schema := by
    cases hp : p.schema with
    | none => rfl
    | some schema =>
      have hnull := (h schema hp).1
      cases schema with
      | null => exact absurd rfl hnull
      | _ => rfl
  simp [ofJson?, toJson, ParameterPlace.restores.read_write, hschema]

theorem wellFormed_toJson {p : Parameter} (h : p.Schema WellFormed) : p.toJson.WellFormed := by
  refine wellFormed_members memberNames (by decide) ?_
  rw [← List.append_nil (memberOf id "schema" p.schema)]
  exact .cons (.string _) (.cons (ParameterPlace.restores.wellFormed _) (.cons (.bool _)
    (.memberOf (fun schema hschema => (h schema hschema).2) .nil)))

theorem yields (hQ : Hereditary Q) : Yields Q ofJson? (Schema Q) := by
  intro value p hv h
  simp only [ofJson?, Option.bind_eq_bind, Option.bind_eq_some_iff, Option.pure_def,
    Option.some.injEq] at h
  obtain ⟨m, hm, name, -, place, -, required, -, schema, hschema, rfl⟩ := h
  exact yields_anything.fieldMaybe (hQ.members? hv hm) hschema

end Parameter

namespace Operation

def Schemas (Q : Json → Prop) (o : Operation) : Prop := ∀ p ∈ o.parameters, p.Schema Q

theorem ofJson?_toJson {o : Operation} (h : o.Schemas Q) : ofJson? o.toJson = some o := by
  have hparameters : list? Parameter.ofJson? (.array (o.parameters.map Parameter.toJson)) =
      some o.parameters :=
    list?_map fun p hp => Parameter.ofJson?_toJson (h p hp)
  simp [ofJson?, toJson, Interaction.restores.read_write, Protocol.restores.read_write,
    hparameters, RequestBody.restores.maybe, Response.restores.list, restores_strings.read_write,
    Span.restores.maybe, Quota.restores.maybe]

theorem wellFormed_toJson {o : Operation} (h : o.Schemas WellFormed) : o.toJson.WellFormed := by
  refine wellFormed_members memberNames (by decide) ?_
  simp only [List.append_assoc]
  exact .cons (.string _) (.cons (Interaction.restores.wellFormed _)
    (.cons (Protocol.restores.wellFormed _) (.cons (.string _)
      (.cons (wellFormed_array fun p hp => Parameter.wellFormed_toJson (h p hp))
        (.cons (.string _) (.maybe RequestBody.restores
          (.cons (Response.restores.wellFormed_list _)
            (.cons (restores_strings.wellFormed _)
              (.maybe Span.restores (.last Quota.restores))))))))))

theorem yields (hQ : Hereditary Q) : Yields Q ofJson? (Schemas Q) := by
  intro value o hv h
  simp only [ofJson?, Option.bind_eq_bind, Option.bind_eq_some_iff, Option.pure_def,
    Option.some.injEq] at h
  obtain ⟨m, hm, id, -, interaction, -, protocol, -, pathPattern, -, parameters, hparameters,
    method, -, request, -, responses, -, security, -, timeout, -, quota, -, rfl⟩ := h
  exact (Parameter.yields hQ).fieldList hQ (hQ.members? hv hm) hparameters

end Operation

namespace DataModel

theorem ofJson?_toJson (d : DataModel) : ofJson? d.toJson = some d := by
  simp [ofJson?, toJson, anything]

theorem wellFormed_toJson {d : DataModel} (h : d.schema.WellFormed) : d.toJson.WellFormed :=
  wellFormed_members memberNames (by decide) (.cons (.string _) (.cons h .nil))

theorem yields (hQ : Hereditary Q) : Yields Q ofJson? fun d => Q d.schema := by
  intro value d hv h
  simp only [ofJson?, Option.bind_eq_bind, Option.bind_eq_some_iff, Option.pure_def,
    Option.some.injEq] at h
  obtain ⟨m, hm, name, -, schema, hschema, rfl⟩ := h
  exact yields_anything.field (hQ.members? hv hm) hschema

end DataModel

namespace Api

/-- Whether the schemas and the extensions have this property, and no parameter has null for
its schema. -/
structure Kept (Q : Json → Prop) (a : Api) : Prop where
  operations : ∀ o ∈ a.operations, o.Schemas Q
  models : ∀ d ∈ a.models, Q d.schema
  extensions : ∀ e ∈ a.extensions.entries, Q e.2

theorem ofJson?_toJson {a : Api} (h : a.Kept Q) : ofJson? a.toJson = some a := by
  have hoperations : list? Operation.ofJson? (.array (a.operations.map Operation.toJson)) =
      some a.operations :=
    list?_map fun o ho => Operation.ofJson?_toJson (h.operations o ho)
  have hmodels : list? DataModel.ofJson? (.array (a.models.map DataModel.toJson)) =
      some a.models :=
    list?_map fun d _ => d.ofJson?_toJson
  simp [ofJson?, toJson, ApiInfo.restores.read_write, hoperations, hmodels,
    SecurityScheme.restores.list, Server.restores.list, nameMap?_anything]

theorem wellFormed_toJson {a : Api} (h : a.Kept WellFormed) : a.toJson.WellFormed :=
  wellFormed_members memberNames (by decide)
    (.cons (ApiInfo.restores.wellFormed _)
      (.cons (wellFormed_array fun o ho => Operation.wellFormed_toJson (h.operations o ho))
        (.cons (wellFormed_array fun d hd => DataModel.wellFormed_toJson (h.models d hd))
          (.cons (SecurityScheme.restores.wellFormed_list _)
            (.cons (Server.restores.wellFormed_list _)
              (.cons (wellFormed_entries h.extensions) .nil))))))

theorem yields (hQ : Hereditary Q) : Yields Q ofJson? (Kept Q) := by
  intro value a hv h
  simp only [ofJson?, Option.bind_eq_bind, Option.bind_eq_some_iff, Option.pure_def,
    Option.some.injEq] at h
  obtain ⟨m, hm, info, -, operations, hoperations, models, hmodels, security, -, servers, -,
    extensions, hextensions, rfl⟩ := h
  have hmembers := hQ.members? hv hm
  exact {
    operations := (Operation.yields hQ).fieldList hQ hmembers hoperations
    models := (DataModel.yields hQ).fieldList hQ hmembers hmodels
    extensions :=
      (yields_anything.nameMap? hQ).fieldOr hmembers (List.forall_mem_nil _) hextensions }

end Api

end GatewayPlane
