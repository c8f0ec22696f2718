import RouteDoc.Data.Check
import RouteDoc.Schema.Basic

/-! The configuration of a document: its title and what else stands before the paths. -/

namespace RouteDoc

/-- Whom to ask about the documented service. -/
structure Contact where
  name : Text := []
  url : Text := []
  email : Text := []
  deriving DecidableEq, Repr, Inhabited

structure License where
  name : Text
  url : Text := []
  deriving DecidableEq, Repr, Inhabited

structure Server where
  url : Text
  description : Text := []
  deriving DecidableEq, Repr, Inhabited

/-- What a document says about itself. -/
structure Config where
  title : Text := "my title".toList
  description : Text := "my description".toList
  version : Text := "2.0.0".toList
  termsOfService : Text := []
  contact : Option Contact := none
  license : Option License := none
  servers : List Server := []
  deriving DecidableEq, Repr, Inhabited

/-- The JSON object of a contact: what is empty is left out. -/
def Contact.toJson (c : Contact) : Json :=
  .object <| Schema.textMember "name" c.name ++ Schema.textMember "url" c.url ++
    Schema.textMember "email" c.email

def License.toJson (l : License) : Json :=
  .object <| Json.member "name" (.string l.name) :: Schema.textMember "url" l.url

def Server.toJson (s : Server) : Json :=
  .object <| Json.member "url" (.string s.url) :: Schema.textMember "description" s.description

/-- Values that take the place of those of a configuration. -/
structure Overrides where
  title : Option Text := none
  description : Option Text := none
  version : Option Text := none
  termsOfService : Option Text := none
  deriving DecidableEq, Repr, Inhabited

namespace Config

def info (c : Config) : Json :=
  .object <|
    Json.member "title" (.string c.title) ::
      Schema.textMember "description" c.description ++
      Schema.textMember "termsOfService" c.termsOfService ++
      Schema.optionalMember "contact" (c.contact.map Contact.toJson) ++
      Schema.optionalMember "license" (c.license.map License.toJson) ++
      [Json.member "version" (.string c.version)]

/-- A configuration with the values given put in place of its own; an empty text is given. -/
def override (c : Config) (o : Overrides) : Config :=
  { c with
    title := o.title.getD c.title
    description := o.description.getD c.description
    version := o.version.getD c.version
    termsOfService := o.termsOfService.getD c.termsOfService }

def contactOfData (d : Data) : Checked Contact :=
  d.asRecord fun entries =>
    (Checked.ap (.ok Contact.mk) (Data.fieldOr entries "name" [] Data.asText))
      |>.ap (Data.fieldOr entries "url" [] Data.asText)
      |>.ap (Data.fieldOr entries "email" [] Data.asText)

def licenseOfData (d : Data) : Checked License :=
  d.asRecord fun entries =>
    (Checked.ap (.ok License.mk) (Data.field entries "name" Data.asText))
      |>.ap (Data.fieldOr entries "url" [] Data.asText)

def serverOfData (d : Data) : Checked Server :=
  d.asRecord fun entries =>
    (Checked.ap (.ok Server.mk) (Data.field entries "url" Data.asText))
      |>.ap (Data.fieldOr entries "description" [] Data.asText)

/-- A configuration from the entries of a record; those of other names are passed over. -/
def ofEntries (entries : List (Data × Data)) : Checked Config :=
  let fresh : Config := {}
  (Checked.ap (.ok Config.mk) (Data.fieldOr entries "title" fresh.title Data.asText))
    |>.ap (Data.fieldOr entries "description" fresh.description Data.asText)
    |>.ap (Data.fieldOr entries "version" fresh.version Data.asText)
    |>.ap (Data.fieldOr entries "terms_of_service" fresh.termsOfService Data.asText)
    |>.ap (Data.fieldOr entries "contact" none (Data.asOptional contactOfData))
    |>.ap (Data.fieldOr entries "license" none (Data.asOptional licenseOfData))
    |>.ap (Data.fieldOr entries "servers" [] (Data.asList serverOfData))

def ofData (d : Data) : Checked Config := d.asRecord ofEntries

end Config

end RouteDoc
