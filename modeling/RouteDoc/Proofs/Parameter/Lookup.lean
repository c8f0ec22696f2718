import RouteDoc.Proofs.Parameter.Flattening

/-! What is looked up in the tags of a field: the first tag under each of ten keys. Tags in which
these are the same are not told apart. -/

namespace RouteDoc

/-- The keys with a meaning. -/
def Tag.Key.recognized : List Text :=
  [json, embed, validate, description, default, sample] ++ Location.all.map Location.key

theorem Location.key_mem_recognized (location : Location) :
    location.key ∈ Tag.Key.recognized := by
  cases location <;> decide

namespace FieldTags

/-- Tags with the same names under the keys with a meaning. -/
def SameNames (tags other : FieldTags) : Prop :=
  ∀ key ∈ Tag.Key.recognized, tags.name? key = other.name? key

/-- Tags whose first under each key with a meaning are the same. -/
def Agree (tags other : FieldTags) : Prop :=
  ∀ key ∈ Tag.Key.recognized, tags.get? key = other.get? key

instance (tags other : FieldTags) : Decidable (tags.Agree other) :=
  inferInstanceAs (Decidable (∀ key ∈ Tag.Key.recognized, tags.get? key = other.get? key))

theorem get?_of_not_mem {front : FieldTags} {tag : Tag} (h : ∀ t ∈ front, t.key ≠ tag.key)
    (back : FieldTags) : get? (front ++ tag :: back) tag.key = some tag := by
  have hfront : front.find? (fun t => t.key = tag.key) = none :=
    List.find?_eq_none.mpr fun t ht => by simpa using h t ht
  rw [get?, List.find?_append, hfront]
  simp

variable {tags other : FieldTags}

namespace SameNames

variable (h : SameNames tags other)
include h

theorem has_eq {key : Text} (hkey : key ∈ Tag.Key.recognized) : tags.has key = other.has key := by
  have hname := congrArg Option.isSome (h key hkey)
  simpa [name?, has] using hname

theorem isRequired_eq : tags.isRequired = other.isRequired := by
  rw [isRequired, isRequired, h Tag.Key.validate (by decide)]

theorem annotate_eq (schema : Schema) : tags.annotate schema = other.annotate schema := by
  rw [annotate, annotate, h Tag.Key.description (by decide), h Tag.Key.default (by decide),
    h Tag.Key.sample (by decide)]

theorem annotated_eq : Extraction.annotated tags = Extraction.annotated other := by
  funext location name schema
  rw [Extraction.annotated, Extraction.annotated, h.isRequired_eq, h.annotate_eq,
    h Tag.Key.description (by decide), h Tag.Key.default (by decide),
    h Tag.Key.sample (by decide)]

theorem binding?_eq : tags.binding? = other.binding? := by
  have hlocation : ∀ location : Location, tags.name? location.key = other.name? location.key :=
    fun location => h _ location.key_mem_recognized
  rw [FieldTags.binding?_eq, FieldTags.binding?_eq, hlocation, hlocation, hlocation, hlocation]

end SameNames

namespace Agree

variable (h : Agree tags other)
include h

theorem sameNames : SameNames tags other := fun key hkey => by rw [name?, name?, h key hkey]

theorem constraints_eq : tags.constraints = other.constraints := by
  rw [constraints, constraints, h Tag.Key.validate (by decide)]

end Agree

end FieldTags

end RouteDoc
