import RouteDoc.Proofs.Schema.Composition

/-! Sample values: a value stands for the type that an author would write for it. -/

namespace RouteDoc

/-- An instance of a class, unless it is a list, a tuple or a set, is taken for the class. -/
theorem ClassName.sampleDescriptor_none {c : ClassName}
    (h : c.isAnyOf [.list, .tuple, .set, .frozenset] = false) :
    c.sampleDescriptor none = c.descriptor := by
  unfold sampleDescriptor
  split
  · rfl
  · split
    · next hmapping =>
      clear h
      revert hmapping
      cases c <;> decide
    · simp [h]

namespace TypeExpr

mutual

/-- The type that an author would write for a sample value. A type stands for itself. -/
def asType : TypeExpr → TypeExpr
  | .boolean _ => .ofClass .bool
  | .integer _ => .ofClass .int
  | .real _ => .ofClass .float
  | .text _ => .ofClass .str
  | .bytes mutable _ => .ofClass (if mutable then .bytearray else .bytes)
  | .instance c _ => .ofClass c
  | .modelInstance name => .ref name
  | .entries _ => .ofClass .dict
  | .collection _ items => listAsType items
  | type => type

/-- The type that an author would write for a list of some items: that of a list with items like the
first. -/
def listAsType : List TypeExpr → TypeExpr
  | [] => .ofClass .list
  | item :: _ => .generic false .list [asType item]

end

/-- Whether a type is given as such, and not by a value. -/
def isType : TypeExpr → Bool
  | .boolean _ | .integer _ | .real _ | .text _ | .bytes _ _ | .instance _ _ | .modelInstance _
  | .entries _ | .collection _ _ => false
  | _ => true

/-- A value that may stand for its type: a scalar, a mapping, nothing, a type, an instance of a
class that is no list, tuple or set, an instance of a model, or a list or tuple of such values. -/
inductive IsSample (catalog : Catalog) : TypeExpr → Prop
  | type {type : TypeExpr} : type.isType = true → IsSample catalog type
  | boolean (value : Bool) : IsSample catalog (.boolean value)
  | integer (value : Int) : IsSample catalog (.integer value)
  | real (value : Binary64) : IsSample catalog (.real value)
  | text (value : Text) : IsSample catalog (.text value)
  | bytes (mutable : Bool) (value : List Nat) : IsSample catalog (.bytes mutable value)
  | instanceOf {c : ClassName} (shown : Text) :
    c.isAnyOf [.list, .tuple, .set, .frozenset] = false → IsSample catalog (.instance c shown)
  | modelInstance {name : Text} :
    (catalog.find? name).isSome = true → IsSample catalog (.modelInstance name)
  | entries (members : List (Text × TypeExpr)) : IsSample catalog (.entries members)
  | collection {kind : ClassName} {items : List TypeExpr} : kind = .list ∨ kind = .tuple →
    (∀ item ∈ items, IsSample catalog item) → IsSample catalog (.collection kind items)

theorem asType_of_isType {type : TypeExpr} (h : type.isType = true) :
    type.asType = type := by
  cases type with
  | nothing | ofClass | any | typeVar | newType | bare | ref | generic | tupleOf | union
  | annotated | literal | callable | classOf => rfl
  | _ => cases h

/-- A list has items of the form that its first item has. -/
theorem describe_list (catalog : Catalog) (item : TypeExpr) :
    (TypeExpr.generic false .list [item]).describe catalog = .sequence (item.describe catalog) :=
  rfl

theorem describe_collection (catalog : Catalog) {kind : ClassName}
    (h : kind = .list ∨ kind = .tuple) (item : TypeExpr) (more : List TypeExpr) :
    (TypeExpr.collection kind (item :: more)).describe catalog =
      .sequence (item.describe catalog) := by
  rcases h with rfl | rfl <;> rfl

theorem IsSample.describe_asType {catalog : Catalog} {value : TypeExpr}
    (h : value.IsSample catalog) :
    value.asType.describe catalog = value.describe catalog := by
  induction h with
  | type h => rw [asType_of_isType h]
  | boolean | integer | real | text | entries => rfl
  | bytes mutable value => cases mutable <;> rfl
  | instanceOf shown h => exact (ClassName.sampleDescriptor_none h).symm
  | modelInstance h => exact if_pos h
  | @collection kind items hkind _ ih =>
    cases items with
    | nil => rcases hkind with rfl | rfl <;> rfl
    | cons item more =>
      rw [asType, listAsType, describe_list, describe_collection catalog hkind,
        ih item List.mem_cons_self]

end TypeExpr

namespace Synthesis

/-- A sample value and the type that an author would write for it have one form, and the same
schema or the same fault. -/
theorem schemaOf_asType (catalog : Catalog) (rules : List Rule) (value : TypeExpr)
    (isSample : value.IsSample catalog) :
    value.describe catalog = value.asType.describe catalog ∧
      schemaOf catalog rules value = schemaOf catalog rules value.asType := by
  have hform := isSample.describe_asType
  exact ⟨hform.symm, by rw [schemaOf, schemaOf, hform]⟩

/-- A tuple of a list of pages and a text. -/
def pages : TypeExpr := .collection .tuple
  [.collection .list [.modelInstance "Page".toList, .modelInstance "Listing".toList],
    .text "more".toList]

theorem schemaOf_asType_pages : pages.IsSample listings ∧
    pages.asType = .generic false .list [.generic false .list [.ref "Page".toList]] ∧
    ∃ schema, schemaOf listings Rule.standard pages = .ok schema ∧
      schemaOf listings Rule.standard
        (.generic false .list [.generic false .list [.ref "Page".toList]]) = .ok schema := by
  have isSample : pages.IsSample listings := by
    refine .collection (.inr rfl) (List.forall_mem_cons.mpr ⟨.collection (.inl rfl) ?_,
      List.forall_mem_singleton.mpr (.text _)⟩)
    exact List.forall_mem_cons.mpr
      ⟨.modelInstance rfl, List.forall_mem_singleton.mpr (.modelInstance rfl)⟩
  obtain ⟨-, hschema⟩ := schemaOf_asType listings Rule.standard pages isSample
  exact ⟨isSample, rfl, _, rfl, hschema.symm⟩

end Synthesis

end RouteDoc
