import RouteDoc.Model.Descriptor

/-! The form of a type depends on the catalog only through the names that have a model. -/

namespace RouteDoc.TypeExpr

/-- Tag texts around a type refer to nothing. -/
theorem references_unwrap (type : TypeExpr) : type.unwrap.1.references = type.references := by
  fun_induction unwrap type with
  | case1 type tags inner innerTags h ih =>
    rw [references]
    simpa [h] using ih
  | case2 type h => rfl

mutual

theorem descriptor_congr {catalog other : Catalog}
    (known : ∀ name, (catalog.find? name).isSome = (other.find? name).isSome) :
    (type : TypeExpr) → type.descriptor catalog = type.descriptor other
  | .ref name => by rw [descriptor, descriptor, known]
  | .generic _ _ arguments => by
    rw [descriptor, descriptor, firstDescriptor_congr known arguments]
  | .tupleOf element => by rw [descriptor, descriptor, descriptor_congr known element]
  | .union _ members => by rw [descriptor, descriptor, memberDescriptors_congr known members]
  | .annotated type _ => by rw [descriptor, descriptor, descriptor_congr known type]
  | .collection _ items => by rw [descriptor, descriptor, firstDescriptor_congr known items]
  | .nothing | .ofClass _ | .any | .typeVar | .newType | .bare _ | .literal _ | .callable _
  | .classOf _ | .boolean _ | .integer _ | .real _ | .text _ | .bytes _ _ | .entries _
  | .instance _ _ | .modelInstance _ => rfl

theorem firstDescriptor_congr {catalog other : Catalog}
    (known : ∀ name, (catalog.find? name).isSome = (other.find? name).isSome) :
    (types : List TypeExpr) → firstDescriptor catalog types = firstDescriptor other types
  | [] => rfl
  | type :: _ => by rw [firstDescriptor, firstDescriptor, descriptor_congr known type]

theorem memberDescriptors_congr {catalog other : Catalog}
    (known : ∀ name, (catalog.find? name).isSome = (other.find? name).isSome) :
    (types : List TypeExpr) → memberDescriptors catalog types = memberDescriptors other types
  | [] => rfl
  | type :: more => by
    have hmore := memberDescriptors_congr known more
    have htype := descriptor_congr known type
    by_cases hnothing : type = .ofClass .noneType
    · rw [hnothing, memberDescriptors, memberDescriptors, hmore]
    · rw [memberDescriptors, memberDescriptors, hmore, htype] <;> simp [hnothing]

end

theorem describe_congr {catalog other : Catalog}
    (known : ∀ name, (catalog.find? name).isSome = (other.find? name).isSome) (type : TypeExpr) :
    type.describe catalog = type.describe other :=
  descriptor_congr known type.built

end RouteDoc.TypeExpr
