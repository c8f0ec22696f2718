import RouteDoc.Proofs.Schema.Descent

/-! The schema of a model is composed of what its fields give when each is read alone, whatever
models are open when they are read together. A property is the last of a field's own with its name,
or else the first that is embedded; properties and required names stand in order of first
mention. -/

namespace RouteDoc.Synthesis

variable {catalog : Catalog} {rules : List Rule}

/-- A model has a schema exactly when its fields are known and yield shares, and it is the object
that these make. -/
theorem schemaOfModel_eq_ok_iff {name : Text} {schema : Schema} :
    schemaOfModel catalog rules name = .ok schema ↔
      ∃ fields shares, catalog.fields name = .ok fields ∧
        List.Forall₂ (Yields rules (schemaOf catalog rules)) fields shares ∧
        Share.collect shares = schema := by
  rw [schemaOfModel_eq_iff (Descent.settled_ok schema), modelBody, Catalog.gather_eq_ok_iff]
  simp only [share_eq_ok_iff]
  rfl

theorem exists_schemaOfModel_iff {name : Text} :
    (∃ schema, schemaOfModel catalog rules name = .ok schema) ↔
      ∃ fields, catalog.fields name = .ok fields ∧
        ∀ field ∈ fields, ∃ share, Yields rules (schemaOf catalog rules) field share := by
  have hbody : (∃ schema, schemaOfModel catalog rules name = .ok schema) ↔
      ∃ schema, modelBody catalog rules (schemaOfModel catalog rules) name = .ok schema :=
    exists_congr fun schema => schemaOfModel_eq_iff (Descent.settled_ok schema) name
  rw [hbody]
  simp only [modelBody, Catalog.exists_gather_eq_ok_iff, share_eq_ok_iff]
  rfl

/-- Synthesis is compositional. A type that describes a model has a schema exactly when the fields
of the model are known and each, read alone, yields a share; the schema is then an object with
nothing but the properties and required names that the shares give it. -/
theorem schemaOf_compositional (type : TypeExpr) (model : Text)
    (isModel : type.describe catalog = .composite model) :
    ((∃ schema, schemaOf catalog rules type = .ok schema) ↔
      ∃ fields, catalog.fields model = .ok fields ∧
        ∀ field ∈ fields, ∃ share, Yields rules (schemaOf catalog rules) field share) ∧
    ∀ schema, schemaOf catalog rules type = .ok schema →
      ∃ fields shares, catalog.fields model = .ok fields ∧
        List.Forall₂ (Yields rules (schemaOf catalog rules)) fields shares ∧
        (∀ name, Entries.get? name schema.properties =
          (shares.reverse.findSome? (Share.own? name)).or
            (shares.findSome? (Share.embedded? name))) ∧
        (∀ name, name ∈ schema.required ↔ ∃ share ∈ shares, name ∈ share.required) ∧
        Entries.keys schema.properties = (shares.flatMap Share.names).eraseDups ∧
        schema.required = (shares.flatMap Share.required).eraseDups ∧
        schema = { Schema.object with
          properties := schema.properties, required := schema.required } := by
  rw [schemaOf_composite isModel]
  refine ⟨exists_schemaOfModel_iff, fun schema h => ?_⟩
  obtain ⟨fields, shares, hfields, hshares, rfl⟩ := schemaOfModel_eq_ok_iff.mp h
  refine ⟨fields, shares, hfields, hshares, fun name => Share.get?_collect name shares,
    fun name => ?_, Share.keys_collect shares, Share.required_collect shares,
    Share.collect_eq shares⟩
  rw [Share.required_collect, List.mem_eraseDups, List.mem_flatMap]

/-- A page, and a listing that embeds it and has a limit of its own. -/
def listings : Catalog := [
  ⟨"Page".toList, .plain,
    [⟨"limit".toList, .ofClass .int, "json:\"limit\" validate:\"required\"".toList⟩], []⟩,
  ⟨"Listing".toList, .plain,
    [⟨"page".toList, .ref "Page".toList, "embed:\"\"".toList⟩,
      ⟨"size".toList, .ofClass .str, "json:\"limit\"".toList⟩], []⟩]

theorem schemaOf_listing :
    (TypeExpr.ref "Listing".toList).describe listings = .composite "Listing".toList ∧
    ∃ schema, schemaOf listings Rule.standard (.ref "Listing".toList) = .ok schema ∧
      ∃ shares : List Share,
        Entries.keys schema.properties = (shares.flatMap Share.names).eraseDups ∧
        schema.required = (shares.flatMap Share.required).eraseDups := by
  have isModel : (TypeExpr.ref "Listing".toList).describe listings =
    .composite "Listing".toList := rfl
  obtain ⟨found, composed⟩ := @schemaOf_compositional listings Rule.standard _ _ isModel
  obtain ⟨schema, h⟩ := found.mpr ⟨_, rfl, List.forall_mem_cons.mpr
    ⟨⟨_, .embedded rfl rfl rfl⟩, List.forall_mem_singleton.mpr ⟨_, .property rfl rfl rfl rfl rfl⟩⟩⟩
  obtain ⟨_, shares, _, _, _, _, hkeys, hrequired, _⟩ := composed schema h
  exact ⟨isModel, schema, h, shares, hkeys, hrequired⟩

end RouteDoc.Synthesis
