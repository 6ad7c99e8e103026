import GatewayPlane.Deployment.Basic
import GatewayPlane.Proofs.Api.Restoring
import GatewayPlane.Proofs.Strategy.Restoring

/-!
# Documents are read back

Whatever was read as a document, be it an API, a deployment or its settings, is read again from
what is written of it, as a value and as text. So is every span.
-/
namespace GatewayPlane
open Json

theorem Scheme.restores : Restores ofJson? toJson :=
  restores_choice (by intro scheme; cases scheme <;> rfl)

theorem Backend.restores : Restores ofJson? toJson where
  read_write u := by
    simp [ofJson?, toJson, restores_uint16.read_write, Scheme.restores.read_write,
      Span.restores.maybe]
  null := rfl
  wellFormed u := wellFormed_members memberNames (by decide)
    (.cons (.string _) (.cons (restores_uint16.wellFormed _)
      (.cons (Scheme.restores.wellFormed _) (.last Span.restores))))

theorem GatewayTarget.restores : Restores ofJson? toJson where
  read_write g := by
    simp [ofJson?, toJson, restores_uint16.read_write, restores_string.maybe,
      restores_strings.read_write]
  null := rfl
  wellFormed g := by
    refine wellFormed_members memberNames (by decide) ?_
    simp only [List.append_assoc]
    exact .cons (.string _) (.cons (restores_uint16.wellFormed _) (.maybe restores_string
      (.cons (restores_strings.wellFormed _) (.maybe restores_string (.cons (.bool _) .nil)))))

theorem DeploymentInfo.restores : Restores ofJson? toJson where
  read_write i := by
    simp [ofJson?, toJson, Backend.restores.read_write, GatewayTarget.restores.read_write,
      StrategySettings.restores.maybe]
  null := rfl
  wellFormed i := wellFormed_members memberNames (by decide)
    (.cons (.string _) (.cons (.string _) (.cons (.string _)
      (.cons (Backend.restores.wellFormed _) (.cons (GatewayTarget.restores.wellFormed _)
        (.last StrategySettings.restores))))))

/-! ## Documents -/

/-- Whether what was read of any value is read again from the value written of it, and what was
read of any text from the text written of it, as long as its doubles survive being written. -/
structure ReadsBack {α : Type} (read : Reader α) (write : α → Json) : Prop where
  value {v : Json} {a : α} (h : read v = some a) : read (write a) = some a
  text {s : String} {a : α} (h : (parse? s).bind read = some a)
    (hfloats : ∀ x ∈ (write a).floats, Survives x) :
    (parse? (render (write a))).bind read = some a

theorem Json.Restores.readsBack {α : Type} {read : Reader α} {write : α → Json}
    (h : Restores read write) : ReadsBack read write where
  value {_ a} _ := h.read_write a
  text {_ a} _ hfloats := by
    rw [parse?_render (h.wellFormed a) hfloats]
    exact h.read_write a

theorem Api.readsBack : ReadsBack ofJson? toJson where
  value {v a} h := ofJson?_toJson (yields hereditary_true v a trivial h)
  text {s a} h hfloats := by
    obtain ⟨v, hv, h⟩ := Option.bind_eq_some_iff.1 h
    have hkept : a.Kept WellFormed :=
      yields hereditary_wellFormed v a (wellFormed_of_parse? hv) h
    rw [parse?_render (wellFormed_toJson hkept) hfloats]
    exact ofJson?_toJson hkept

/-- An API, a deployment and its settings are read back, and so is every span. -/
theorem documents_read_back :
    ReadsBack Api.ofJson? Api.toJson ∧ ReadsBack DeploymentInfo.ofJson? DeploymentInfo.toJson ∧
      ReadsBack StrategySettings.ofJson? StrategySettings.toJson ∧
      ∀ d : Span, Span.parse? d.render = some d :=
  ⟨Api.readsBack, DeploymentInfo.restores.readsBack, StrategySettings.restores.readsBack,
    Span.parse?_render⟩

/-- An API that leaves out what it may, but for a schema and an extension that are null. -/
def petsDocument : Json :=
  .object [("metadata", .object [("name", .string "pets"), ("version", .string "v1")]),
    ("endpoints", .array [.object [("id", .string "list"), ("path_pattern", .string "/pets"),
      ("method", .string "GET"), ("timeout", .string "90s"),
      ("path_parameters", .array [.object [("name", .string "id"), ("schema", .null)]])]]),
    ("extensions", .object [("x-note", .null)])]

def ninetySeconds : Span := ⟨90_000_000_000, by decide⟩

def pets : Api where
  info := { name := "pets", version := "v1" }
  operations := [{
    id := "list"
    pathPattern := "/pets"
    method := "GET"
    parameters := [{ name := "id" }]
    timeout := some ninetySeconds }]
  extensions := ⟨[("x-note", .null)], List.pairwise_singleton _ _⟩

theorem petsDocument_wellFormed : petsDocument.WellFormed := by
  have hinfo : (Json.object [("name", .string "pets"), ("version", .string "v1")]).WellFormed :=
    wellFormed_members ["name", "version"] (by decide)
      (.cons (.string _) (.cons (.string _) .nil))
  have hparameter : (Json.object [("name", .string "id"), ("schema", .null)]).WellFormed :=
    wellFormed_members ["name", "schema"] (by decide) (.cons (.string _) (.cons .null .nil))
  have hnote : (Json.object [("x-note", .null)]).WellFormed :=
    wellFormed_members ["x-note"] (by decide) (.cons .null .nil)
  refine wellFormed_members ["metadata", "endpoints", "extensions"] (by decide)
    (.cons hinfo (.cons (.array (List.forall_mem_singleton.2 ?_)) (.cons hnote .nil)))
  exact wellFormed_members ["id", "path_pattern", "method", "timeout", "path_parameters"]
    (by decide) (.cons (.string _) (.cons (.string _) (.cons (.string _) (.cons (.string _)
      (.cons (.array (List.forall_mem_singleton.2 hparameter)) .nil)))))

def petsDeployment : DeploymentInfo where
  name := "pets"
  version := "v1"
  backend := { host := "backend", port := 80 }
  gateway := { nodeId := "" }

def patience : StrategySettings where
  retry := some { type := "custom", perTryTimeout := some ninetySeconds }

theorem documents_read_back_pets :
    Api.ofJson? pets.toJson = some pets ∧
      (parse? (render pets.toJson)).bind Api.ofJson? = some pets ∧
      DeploymentInfo.ofJson? petsDeployment.toJson = some petsDeployment ∧
      StrategySettings.ofJson? patience.toJson = some patience ∧
      Span.parse? ninetySeconds.render = some ninetySeconds := by
  obtain ⟨hapi, hdeployment, hsettings, hspan⟩ := documents_read_back
  have hdocument : Api.ofJson? petsDocument = some pets := rfl
  have hnone : petsDocument.floats = [] ∧ pets.toJson.floats = [] := ⟨rfl, rfl⟩
  have htext : (parse? (render petsDocument)).bind Api.ofJson? = some pets := by
    rw [parse?_render petsDocument_wellFormed (by simp [hnone.1])]
    exact hdocument
  have hupstream : DeploymentInfo.ofJson? (.object [("name", .string "pets"),
      ("version", .string "v1"),
      ("upstream", .object [("host", .string "backend"), ("port", .integer 80)])]) =
        some petsDeployment := rfl
  have hretry : StrategySettings.ofJson? (.object [("retry", .object [
      ("type", .string "custom"), ("per_try_timeout", .string "90s")])]) = some patience := rfl
  exact ⟨hapi.value hdocument, hapi.text htext (by simp [hnone.2]), hdeployment.value hupstream,
    hsettings.value hretry, hspan ninetySeconds⟩

end GatewayPlane
