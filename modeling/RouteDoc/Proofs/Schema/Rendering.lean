import RouteDoc.Proofs.Json.Object
import RouteDoc.Schema.Basic

/-! The JSON object of a schema says all about it: what is left out is empty or absent, and the
names of the other members differ. -/

namespace RouteDoc

theorem SchemaType.word_injective {a b : SchemaType} (h : a.word = b.word) : a = b := by
  cases a <;> cases b <;> first | rfl | exact absurd h (by decide)

theorem Bound.toJson_injective {a b : Bound} (h : a.toJson = b.toJson) : a = b := by
  cases a with
  | whole m =>
    cases b with
    | whole n => rw [Json.int.inj h]
    | real y => exact nomatch h
  | real x =>
    cases b with
    | whole n => exact nomatch h
    | real y => rw [Json.float.inj h]

namespace Schema

open Json

theorem textMember_eq (name : String) (t : Text) :
    textMember name t = ((unlessEmpty .string t).map fun v => (name.toList, v)).toList := by
  cases t <;> rfl

theorem listMember_eq (name : String) (ts : List Text) :
    listMember name ts = ((unlessEmpty strings ts).map fun v => (name.toList, v)).toList := by
  cases ts <;> rfl

theorem optionalMember_eq (name : String) (value : Option Json) :
    optionalMember name value = (value.map fun v => (name.toList, v)).toList := by
  cases value <;> rfl

/-- The names of the members of a schema of a type. -/
def memberNames (type : SchemaType) : List Text :=
  ["type", "format", "description", "default", "example", "minimum", "maximum",
    (lengthNames type).1, (lengthNames type).2, "enum", "properties", "required", "items"].map
    String.toList

/-- The values of the members of a schema. -/
def memberValues (s : Schema) : List (Option Json) :=
  [some (.string s.type.word), unlessEmpty .string s.format, unlessEmpty .string s.description,
    s.fallback.map .string, s.sample.map .string, s.minimum.map Bound.toJson,
    s.maximum.map Bound.toJson, s.length.map .int, s.length.map .int, unlessEmpty strings s.enum,
    unlessEmpty (fun ps => .object (members ps)) s.properties, unlessEmpty strings s.required,
    s.items.map toJson]

theorem nodup_memberNames (type : SchemaType) : (memberNames type).Nodup := by
  cases type <;> decide

theorem lengthMembers_eq (type : SchemaType) (length : Option Int) :
    lengthMembers type length =
      ((length.map Json.int).map fun v => ((lengthNames type).1.toList, v)).toList ++
        ((length.map Json.int).map fun v => ((lengthNames type).2.toList, v)).toList := by
  cases length <;> rfl

theorem toJson_eq_present (s : Schema) :
    s.toJson = .object (present (memberNames s.type) (memberValues s)) := by
  obtain ⟨type, format, description, fallback, sample, minimum, maximum, length, enum, properties,
    required, items⟩ := s
  cases properties <;> cases items <;>
    simp [toJson, memberNames, memberValues, present, textMember_eq, listMember_eq,
      optionalMember_eq, lengthMembers_eq, unlessEmpty, member]

/-- Two schemas with one object have one type, so that their members have the same names, and then
the values of these are the same. -/
theorem memberValues_eq_of_toJson_eq {s t : Schema} (h : s.toJson = t.toJson) :
    s.type = t.type ∧ memberValues s = memberValues t := by
  rw [toJson_eq_present, toJson_eq_present] at h
  have hmembers := object.inj h
  have hfirst := (List.cons.inj hmembers).1
  have hword : s.type.word = t.type.word := string.inj (Prod.mk.inj hfirst).2
  have htype := SchemaType.word_injective hword
  rw [htype] at hmembers
  exact ⟨htype, present_injective (nodup_memberNames t.type) rfl rfl hmembers⟩

theorem eq_of_memberValues_eq {s t : Schema} (htype : s.type = t.type)
    (below : members s.properties = members t.properties → s.properties = t.properties)
    (belowItems : s.items.map toJson = t.items.map toJson → s.items = t.items)
    (h : memberValues s = memberValues t) : s = t := by
  simp only [memberValues, List.cons.injEq, and_true] at h
  obtain ⟨-, hformat, hdescription, hfallback, hsample, hminimum, hmaximum, hlength, -, henum,
    hproperties, hrequired, hitems⟩ := h
  have hmembers := render_eq_of_unlessEmpty_eq hproperties
  have hproperties := below (object.inj hmembers)
  have hitems := belowItems hitems
  have htext : Function.Injective Json.string := fun _ _ h => string.inj h
  have hbound : Function.Injective Bound.toJson := fun _ _ h => Bound.toJson_injective h
  have hint : Function.Injective Json.int := fun _ _ h => int.inj h
  cases s
  cases t
  congr
  · exact string.inj (render_eq_of_unlessEmpty_eq hformat)
  · exact string.inj (render_eq_of_unlessEmpty_eq hdescription)
  · exact Option.map_injective htext hfallback
  · exact Option.map_injective htext hsample
  · exact Option.map_injective hbound hminimum
  · exact Option.map_injective hbound hmaximum
  · exact Option.map_injective hint hlength
  · exact strings_injective (render_eq_of_unlessEmpty_eq henum)
  · exact strings_injective (render_eq_of_unlessEmpty_eq hrequired)

mutual

theorem toJson_injective : ∀ s t : Schema, s.toJson = t.toJson → s = t
  | ⟨type, format, description, fallback, sample, minimum, maximum, length, enum, properties,
      required, items⟩, t, h => by
    obtain ⟨htype, hvalues⟩ := memberValues_eq_of_toJson_eq h
    refine eq_of_memberValues_eq htype (members_injective properties t.properties)
      (fun hitems => ?_) hvalues
    cases items with
    | none => exact (Option.map_eq_none_iff.mp hitems.symm).symm
    | some item =>
      obtain ⟨other, hother, hsame⟩ := Option.map_eq_some_iff.mp hitems.symm
      rw [hother, toJson_injective item other hsame.symm]

theorem members_injective : ∀ ps qs : List (Text × Schema), members ps = members qs → ps = qs
  | [], [], _ => rfl
  | [], _ :: _, h => nomatch h
  | _ :: _, [], h => nomatch h
  | (name, s) :: ps, (other, t) :: qs, h => by
    obtain ⟨hhead, htail⟩ := List.cons.inj h
    obtain ⟨rfl, hs⟩ := Prod.mk.inj hhead
    rw [toJson_injective s t hs, members_injective ps qs htail]

end

end Schema

end RouteDoc
