import RouteDoc.Proofs.Cycle
import RouteDoc.Proofs.Schema.Descent
import RouteDoc.Proofs.Schema.Rule

/-! Synthesis refuses a model exactly when there is a cycle below it: models refer to each other
through the types of their fields, and a model without other faults has a schema unless one that it
reaches comes back to itself. -/

namespace RouteDoc.Synthesis

open Descent Relation

variable (catalog : Catalog) (rules : List Rule)

/-- A model refers to another: one of its fields with a name or an embedding has the other as its
type, or as that of the items of sequences. -/
def Refers (a b : Text) : Prop :=
  ∃ fields, catalog.fields a = .ok fields ∧ ∃ field ∈ fields, ∃ tags,
    FieldTags.ofField field = .ok tags ∧
      (tags.has Tag.Key.embed = true ∨ tags.has Tag.Key.json = true) ∧
      (field.type.describe catalog).model? = some b

/-- A model reaches those it refers to, in any number of steps. -/
abbrev Reaches : Text → Text → Prop := ReflTransGen (Refers catalog)

/-- A model comes back to itself. -/
def OnCycle (name : Text) : Prop := TransGen (Refers catalog) name name

/-- Nothing is wrong with a field apart from the model it refers to: its tags can be read, they
embed or name it, and the constraints on a named one are accepted. -/
def IsSoundField (field : Field) : Prop :=
  ∃ tags, FieldTags.ofField field = .ok tags ∧
    (tags.has Tag.Key.embed = true ∨ tags.has Tag.Key.json = true ∧
      ∃ schema constrained, Rule.applyAll rules schema tags.constraints = .ok constrained)

/-- The fields of a model are known, and nothing is wrong with them. -/
def IsSound (name : Text) : Prop :=
  ∃ fields, catalog.fields name = .ok fields ∧ ∀ field ∈ fields, IsSoundField rules field

variable {catalog rules}

/-- A sound field fails only with the model that it refers to. -/
theorem IsSoundField.of_share_eq_error {field : Field} (sound : IsSoundField rules field)
    {model : Text → Except Failure Schema} {owner : Text} {failure : Failure}
    (h : share catalog rules model owner field = .error failure) :
    ∃ tags name, FieldTags.ofField field = .ok tags ∧
      (tags.has Tag.Key.embed = true ∨ tags.has Tag.Key.json = true) ∧
      (field.type.describe catalog).model? = some name ∧ model name = .error failure := by
  obtain ⟨tags, htags, hsound⟩ := sound
  cases share_eq_error_iff.mp h with
  | tags herror => exact nomatch htags.symm.trans herror
  | type htags' hkeys hname herror => exact ⟨_, _, htags', hkeys, hname, herror⟩
  | unnamed htags' hembed hjson =>
    obtain rfl : tags = _ := Except.ok.inj (htags.symm.trans htags')
    simp [hembed, hjson] at hsound
  | constraint htags' hembed _ _ herror =>
    obtain rfl : tags = _ := Except.ok.inj (htags.symm.trans htags')
    obtain ⟨-, schema, constrained, haccept⟩ := hsound.resolve_left (by simp [hembed])
    obtain ⟨s, hs⟩ := Rule.exists_applyAll_of_eq_ok haccept _
    exact nomatch herror.symm.trans hs

/-- A model that is found has found the models that it refers to. -/
theorem exists_of_modelBody_eq_ok {model : Text → Except Failure Schema} {name : Text}
    {schema : Schema} (h : modelBody catalog rules model name = .ok schema) {child : Text}
    (hchild : Refers catalog name child) : ∃ s, model child = .ok s := by
  obtain ⟨fields, hfields, field, hmem, tags, htags, hkeys, hmodel⟩ := hchild
  obtain ⟨fields', shares, hfields', hshares, -⟩ := Catalog.gather_eq_ok_iff.mp h
  obtain rfl : fields = fields' := Except.ok.inj (hfields.symm.trans hfields')
  refine exists_ok_of_ne_error fun failure hfailure => ?_
  have herror : share catalog rules model name field = .error failure :=
    share_eq_error_iff.mpr (.type htags hkeys hmodel hfailure)
  obtain ⟨s, hs⟩ := exists_forall₂_iff.mp ⟨shares, hshares⟩ field hmem
  exact nomatch herror.symm.trans hs

/-- A sound model fails only with a model that it refers to. -/
theorem exists_of_modelBody_eq_error {model : Text → Except Failure Schema} {name : Text}
    {failure : Failure} (sound : IsSound catalog rules name)
    (h : modelBody catalog rules model name = .error failure) :
    ∃ child, Refers catalog name child ∧ model child = .error failure := by
  obtain ⟨fields, hfields, hsound⟩ := sound
  obtain ⟨field, hmem, h⟩ := Catalog.exists_field_of_gather_eq_error hfields h
  obtain ⟨tags, child, htags, hkeys, hchild, h⟩ := (hsound field hmem).of_share_eq_error h
  exact ⟨child, ⟨_, hfields, field, hmem, tags, htags, hkeys, hchild⟩, h⟩

theorem onCycle_of_modelSchema_eq_error {fuel : Nat} {opened : List Text} {name : Text}
    {failure : Failure} (distinct : opened.Nodup) (known : opened ⊆ catalog.map Model.name)
    (enough : (catalog.map Model.name).length < fuel + opened.length)
    (above : ∀ o ∈ opened, TransGen (Refers catalog) o name)
    (sound : ∀ m, Reaches catalog name m → IsSound catalog rules m)
    (h : modelSchema catalog rules fuel opened name = .error failure) :
    ∃ m, failure = refusal m ∧ Reaches catalog name m ∧ OnCycle catalog m := by
  rw [modelSchema_eq_run] at h
  exact exists_cycle_of_run_eq_error
    (fun _ _ ⟨_, hfields, _, hmem, _⟩ => Catalog.mem_names_of_field hfields hmem)
    (fun _ _ _ => exists_of_modelBody_eq_error) distinct known enough above sound h

theorem not_onCycle_of_schemaOfModel_eq_ok {a b : Text} {schema : Schema}
    (h : schemaOfModel catalog rules a = .ok schema) (hab : Reaches catalog a b) :
    ¬OnCycle catalog b := by
  have needs : ∀ model name s, modelBody catalog rules model name = .ok s →
      ∀ child, Refers catalog name child → ∃ t, model child = .ok t :=
    fun _ _ _ h _ => exists_of_modelBody_eq_ok h
  rw [schemaOfModel_eq_run] at h
  exact not_cycle_of_run_eq_ok needs lawful enough_fuel h hab

/-- Recursion is refused exactly when it is there: where every model within reach is sound, a type
that describes a model has no schema because of a recursive model exactly when some model within
reach comes back to itself, and in every other case it has a schema. -/
theorem schemaOf_recursive_iff (type : TypeExpr) (model : Text)
    (isModel : type.describe catalog = .composite model)
    (sound : ∀ m, Reaches catalog model m → IsSound catalog rules m) :
    ((∃ name, schemaOf catalog rules type = .error (.schema (.recursiveModel name))) ↔
      ∃ m, Reaches catalog model m ∧ OnCycle catalog m) ∧
    ((¬∃ m, Reaches catalog model m ∧ OnCycle catalog m) →
      ∃ schema, schemaOf catalog rules type = .ok schema) := by
  rw [schemaOf_composite isModel]
  have hfail : ∀ failure, schemaOfModel catalog rules model = .error failure →
      ∃ m, failure = refusal m ∧ Reaches catalog model m ∧ OnCycle catalog m := fun failure h =>
    onCycle_of_modelSchema_eq_error List.nodup_nil (List.nil_subset _)
      (by simpa using enough_fuel) (by simp) sound h
  refine ⟨⟨?_, ?_⟩, ?_⟩
  · rintro ⟨name, h⟩
    obtain ⟨m, -, hm⟩ := hfail _ h
    exact ⟨m, hm⟩
  · rintro ⟨m, hreaches, hcycle⟩
    cases hx : schemaOfModel catalog rules model with
    | error failure =>
      obtain ⟨m, rfl, -⟩ := hfail failure hx
      exact ⟨m, rfl⟩
    | ok schema => exact absurd hcycle (not_onCycle_of_schemaOfModel_eq_ok hx hreaches)
  · intro hacyclic
    refine exists_ok_of_ne_error fun failure h => ?_
    obtain ⟨m, -, hm⟩ := hfail failure h
    exact hacyclic ⟨m, hm⟩

/-- A folder that holds folders. -/
def folders : Catalog := [
  ⟨"Folder".toList, .plain,
    [⟨"inner".toList, .tupleOf (.ref "Folder".toList), "json:\"inner\"".toList⟩], []⟩]

theorem eq_of_refers_folder {m : Text} (h : Refers folders "Folder".toList m) :
    m = "Folder".toList := by
  obtain ⟨fields, hfields, field, hmem, tags, -, -, hm⟩ := h
  obtain rfl : _ = fields := Except.ok.inj hfields
  obtain rfl : field = _ := List.mem_singleton.mp hmem
  exact (Option.some.inj hm).symm

theorem eq_of_reaches_folder {m : Text} (h : Reaches folders "Folder".toList m) :
    m = "Folder".toList := by
  induction h with
  | refl => rfl
  | tail _ hrefers ih =>
    subst ih
    exact eq_of_refers_folder hrefers

theorem schemaOf_folder :
    (∀ m, Reaches folders "Folder".toList m → IsSound folders Rule.standard m) ∧
    ∃ name, schemaOf folders Rule.standard (.ref "Folder".toList) =
      .error (.schema (.recursiveModel name)) := by
  have sound : ∀ m, Reaches folders "Folder".toList m → IsSound folders Rule.standard m := by
    intro m hm
    obtain rfl := eq_of_reaches_folder hm
    exact ⟨_, rfl, List.forall_mem_singleton.mpr ⟨_, rfl, .inr ⟨rfl, Schema.object, _, rfl⟩⟩⟩
  have itself : Refers folders "Folder".toList "Folder".toList :=
    ⟨_, rfl, _, List.mem_singleton_self _, _, rfl, .inr rfl, rfl⟩
  obtain ⟨refused, -⟩ := schemaOf_recursive_iff (.ref "Folder".toList) _ rfl sound
  exact ⟨sound, refused.mpr ⟨_, .refl, .single itself⟩⟩

end RouteDoc.Synthesis
