import RouteDoc.Model.TypeExpr
import RouteDoc.Schema.Fault

/-! Models as their authors declare them, and the catalog of all that are declared. -/

namespace RouteDoc

/-- A field of a model: its type, and the tag text that counts. -/
structure Field where
  name : Text
  type : TypeExpr
  tag : Text
  deriving Repr, Inhabited

namespace Field

/-- A field from its type as written. Tag texts around the type are taken off it, and the first
counts. -/
def ofType (name : Text) (written : TypeExpr) : Field :=
  let (type, tags) := written.unwrap
  ⟨name, type, tags.headD []⟩

end Field

/-- How a model is declared, which decides when the names in it must be known: those of a plain one
when its fields are first asked for. -/
inductive ModelKind where
  | validated
  | plain
  deriving DecidableEq, Repr, Inhabited

/-- A model with all its fields. The written types are those of every declaration, also where a
later one replaces them, the base's first. -/
structure Model where
  name : Text
  kind : ModelKind
  fields : List Field
  written : List TypeExpr
  deriving Repr, Inhabited

/-- A model as written: a base may be named, whose fields come first. -/
structure Declaration where
  name : Text
  kind : ModelKind
  base : Option Text
  fields : List (Text × TypeExpr)
  deriving Repr, Inhabited

abbrev Catalog := List Model

namespace Catalog

def find? (catalog : Catalog) (name : Text) : Option Model :=
  List.find? (fun model => model.name = name) catalog

/-- Put a field into a list: in the place of the one with its name, or at the end. -/
def putField (field : Field) : List Field → List Field
  | [] => [field]
  | f :: more => if f.name = field.name then field :: more else f :: putField field more

def declare (catalog : Catalog) (d : Declaration) : Catalog :=
  -- The empty base of all validated models is in no catalog, so none need be found.
  let base := d.base.bind catalog.find?
  let inherited := base.elim [] Model.fields
  let own := d.fields.map fun (name, type) => Field.ofType name type
  let written := base.elim [] Model.written ++ d.fields.map (·.2)
  catalog ++ [⟨d.name, d.kind, own.foldl (fun fields f => putField f fields) inherited, written⟩]

/-- The catalog of a list of declarations, each of which may name those before it as its base. -/
def ofDeclarations (declarations : List Declaration) : Catalog := declarations.foldl declare []

/-- The first name in a model's types that no model has. -/
def firstUnknown? (catalog : Catalog) (model : Model) : Option Text :=
  (model.written.flatMap TypeExpr.references).find? fun name => (catalog.find? name).isNone

/-- The fields of a model. The empty base of all validated models is in no catalog. -/
def fields (catalog : Catalog) (name : Text) : Except SchemaFault (List Field) :=
  match catalog.find? name with
  | none => .ok []
  | some model =>
    match model.kind, catalog.firstUnknown? model with
    -- A validated model does not look its names up again.
    | .plain, some unknown => .error (.unknownName model.name unknown)
    | _, _ => .ok model.fields

end Catalog

end RouteDoc
