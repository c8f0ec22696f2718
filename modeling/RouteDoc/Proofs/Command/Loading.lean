import RouteDoc.Proofs.Command.Generation
import RouteDoc.Proofs.Text.Blank
import RouteDoc.Proofs.Yaml.Fault
import RouteDoc.Proofs.Yaml.Reading

/-! Bad input to the loaders. Configuration files and targets that are at fault stop a call, and all
but a few of their faults are reported as the tool's own. -/

namespace RouteDoc

namespace FileTree

variable {tree : FileTree} {name : FileName}

theorem placeOf_ne_notText (parts : List Text) : tree.placeOf parts ≠ .error .notText := by
  have hstep : ∀ place part, tree.step place part ≠ .error .notText := by
    intro place part h
    unfold step at h
    split at h
    · cases h
    · split at h <;> cases h
  have hfold : ∀ place, parts.foldlM tree.step place ≠ .error .notText := by
    intro place h
    induction parts generalizing place with
    | nil => cases h
    | cons part parts ih =>
      rw [List.foldlM_cons] at h
      rcases bind_eq_error_iff.mp h with h | ⟨next, -, h⟩
      · exact hstep place part h
      · exact ih next h
  exact hfold []

/-- Only bytes that are no text are at fault for not being one. -/
theorem readText_eq_notText_iff : tree.readText name = .error .notText ↔
    ∃ bytes, tree.read name = .ok bytes ∧ Text.ofUtf8? bytes = none := by
  unfold readText
  constructor
  · intro h
    rcases bind_eq_error_iff.mp h with h | ⟨bytes, hread, h⟩
    · rcases bind_eq_error_iff.mp h with h | ⟨place, -, h⟩
      · exact absurd h (placeOf_ne_notText _)
      · split at h
        · cases h
        · split at h <;> cases h
    · refine ⟨bytes, hread, ?_⟩
      split at h
      · cases h
      · assumption
  · rintro ⟨bytes, hread, hbytes⟩
    refine bind_eq_error_iff.mpr (.inr ⟨bytes, hread, ?_⟩)
    rw [hbytes]

end FileTree

namespace Config

/-- What a configuration file may hold that stops its reader at a fault which is not reported: bytes
that are no text, an escape behind the last character, a version with too many digits, a scalar that
is not what its tag says, or a field whose name is no text. -/
inductive Escapes (tree : FileTree) (file : FileName) : Prop where
  | bytes {bytes : List UInt8} : tree.read file = .ok bytes → Text.ofUtf8? bytes = none →
    Escapes tree file
  | escape {t : Text} {code : Nat} : tree.readText file = .ok t →
    Yaml.Node.ofText t = .error (.codePoint code) → 0x10FFFF < code → Escapes tree file
  | version {t : Text} {digits : Nat} : tree.readText file = .ok t →
    Yaml.Node.ofText t = .error (.oversized digits) → Failure.digitLimit < digits →
    Escapes tree file
  | scalar {t : Text} {root : Yaml.Node} {fault : Yaml.Fault} : tree.readText file = .ok t →
    Yaml.Node.ofText t = .ok (some root) → root.HasFault fault →
    Yaml.load dataDepth t = .error fault → fault ≠ .malformed → Escapes tree file
  | field {t : Text} {entries : List (Data × Data)} {name value : Data} :
    tree.readText file = .ok t → Yaml.load dataDepth t = .ok (.mapping entries) →
    (name, value) ∈ entries → name.isText = false → Escapes tree file

theorem ofFileData_not_reported_iff {name : Text} {d : Data} :
    (∃ fault, ofFileData name d = .error fault ∧ fault.isReported = false) ↔
      ∃ entries entry, d = .mapping entries ∧ entry ∈ entries ∧ entry.1.isText = false := by
  constructor
  · rintro ⟨fault, h, hreported⟩
    cases d with
    | null => cases h
    | mapping entries =>
      rw [ofFileData] at h
      split at h
      · obtain ⟨flaws, -, rfl⟩ := mapError_eq_error_iff.mp h
        cases hreported
      · next hall =>
        obtain ⟨entry, hmem, htext⟩ : ∃ entry ∈ entries, entry.1.isText = false := by
          simpa using hall
        exact ⟨entries, entry, rfl, hmem, htext⟩
    | _ =>
      cases h
      cases hreported
  · rintro ⟨entries, entry, rfl, hmem, htext⟩
    refine ⟨.unnamed, if_neg fun hall => ?_, rfl⟩
    rw [List.all_eq_true.mp hall entry hmem] at htext
    cases htext

theorem ofFile_of_text {tree : FileTree} {file : FileName} {t : Text}
    (ht : tree.readText file = .ok t) :
    ofFile tree file =
      (Yaml.load dataDepth t).mapError (.yaml file.toText ·) >>= ofFileData file.toText := by
  unfold ofFile
  rw [ht]
  rfl

theorem ofFile_of_load {tree : FileTree} {file : FileName} {t : Text} {fault : Yaml.Fault}
    (ht : tree.readText file = .ok t) (hload : Yaml.load dataDepth t = .error fault) :
    ofFile tree file = .error (.yaml file.toText fault) := by
  rw [ofFile_of_text ht, hload]
  rfl

theorem ofFile_not_reported_iff {tree : FileTree} {file : FileName} :
    (∃ fault, ofFile tree file = .error fault ∧ fault.isReported = false) ↔ Escapes tree file := by
  constructor
  · rintro ⟨fault, h, hreported⟩
    rcases bind_eq_error_iff.mp h with h | ⟨t, ht, h⟩
    · obtain ⟨cause, hcause, rfl⟩ := mapError_eq_error_iff.mp h
      obtain rfl : cause = .notText := by simpa [ConfigFault.isReported] using hreported
      obtain ⟨bytes, hread, hbytes⟩ := FileTree.readText_eq_notText_iff.mp hcause
      exact .bytes hread hbytes
    · have ht := mapError_eq_ok_iff.mp ht
      rcases bind_eq_error_iff.mp h with h | ⟨d, hd, h⟩
      · obtain ⟨cause, hcause, rfl⟩ := mapError_eq_error_iff.mp h
        have hne : cause ≠ .malformed := by simpa [ConfigFault.isReported] using hreported
        rcases Yaml.hasFault_of_load hcause hne with hmark | ⟨root, hroot, hfault⟩
        · cases Yaml.isOfReading_of_ofText hmark with
          | malformed => exact absurd rfl hne
          | codePoint hcode => exact .escape ht hmark hcode
          | oversized hdigits => exact .version ht hmark hdigits
        · exact .scalar ht hroot hfault hcause hne
      · obtain ⟨entries, entry, rfl, hmem, htext⟩ :=
          ofFileData_not_reported_iff.mp ⟨fault, h, hreported⟩
        exact .field ht (mapError_eq_ok_iff.mp hd) hmem htext
  · intro h
    cases h with
    | bytes hread hbytes =>
      unfold ofFile
      refine ⟨.unreadable file.toText .notText, bind_eq_error_iff.mpr (.inl ?_), rfl⟩
      rw [FileTree.readText_eq_notText_iff.mpr ⟨_, hread, hbytes⟩]
      rfl
    | escape ht hmark _ =>
      exact ⟨_, ofFile_of_load ht (bind_eq_error_iff.mpr (.inl hmark)), rfl⟩
    | version ht hmark _ =>
      exact ⟨_, ofFile_of_load ht (bind_eq_error_iff.mpr (.inl hmark)), rfl⟩
    | @scalar t root fault ht _ _ hload hne =>
      exact ⟨_, ofFile_of_load ht hload, by simp [ConfigFault.isReported, hne]⟩
    | @field t entries name value ht hload hmem htext =>
      obtain ⟨fault, hfault, hreported⟩ := (@ofFileData_not_reported_iff file.toText
        (.mapping entries)).mpr ⟨entries, (name, value), rfl, hmem, htext⟩
      refine ⟨fault, ?_, hreported⟩
      rw [ofFile_of_text ht, hload]
      exact hfault

end Config

namespace Target

/-- An attribute that lists nothing. -/
def IsSingle : Attribute → Prop
  | .plain .null | .plain (.bool _) | .plain (.int _) | .plain (.float _) | .single _ => True
  | _ => False

/-- What a target may name that stops its reader at a fault which is not reported: a module from
where the reader stands, or an attribute that holds a single value. -/
inductive Escapes (code : Code) (written : Text) : Prop where
  | relative {moduleName attributeName : Text} : written = moduleName ++ ':' :: attributeName →
    ':' ∉ moduleName → attributeName ≠ [] → moduleName.head? = some '.' → Escapes code written
  | single {moduleName attributeName : Text} {attributes : List (Text × Attribute)}
    {found : Attribute} : written = moduleName ++ ':' :: attributeName →
    ':' ∉ moduleName → attributeName ≠ [] →
    moduleName ≠ [] → moduleName.head? ≠ some '.' → code.lookup moduleName = some attributes →
    attribute? ⟨moduleName, attributeName⟩ attributes = some found → IsSingle found →
    Escapes code written

theorem ofText_eq_ok_iff {written moduleName attributeName : Text} :
    ofText written = .ok ⟨moduleName, attributeName⟩ ↔
      written = moduleName ++ ':' :: attributeName ∧ ':' ∉ moduleName ∧ moduleName ≠ [] ∧
        attributeName ≠ [] := by
  constructor
  · intro h
    dsimp only [ofText] at h
    split at h
    · cases h
    · next hnonempty =>
      obtain ⟨rfl, rfl⟩ : written.takeWhile (· != ':') = moduleName ∧
          (written.dropWhile (· != ':')).drop 1 = attributeName := by simpa using h
      obtain ⟨hmodule, hattribute⟩ : written.takeWhile (· != ':') ≠ [] ∧
          (written.dropWhile (· != ':')).drop 1 ≠ [] := by simpa using hnonempty
      refine ⟨?_, fun hmem => ?_, hmodule, hattribute⟩
      · cases hrest : written.dropWhile (· != ':') with
        | nil => simp [hrest] at hattribute
        | cons c rest =>
          have hcolon : (c != ':') = false :=
            Text.eq_false_of_mem_head?_trimStart (p := (· != ':')) (t := written)
              (by rw [Text.trimStart, hrest]; rfl)
          obtain rfl : c = ':' := by simpa using hcolon
          rw [List.drop_one, List.tail_cons, ← hrest, List.takeWhile_append_dropWhile]
      · simpa using List.mem_takeWhile_imp hmem
  · rintro ⟨rfl, hcolon, hmodule, hattribute⟩
    have hbefore : ∀ c ∈ moduleName, (c != ':') = true := fun c hc => by
      simpa using fun (h : c = ':') => hcolon (h ▸ hc)
    have htake : (moduleName ++ ':' :: attributeName).takeWhile (· != ':') = moduleName :=
      Text.takeWhile_append_of_head hbefore (by simp)
    have hdrop : (moduleName ++ ':' :: attributeName).dropWhile (· != ':') =
        ':' :: attributeName := Text.dropWhile_append_of_head hbefore (by simp)
    simp [ofText, htake, hdrop, hmodule, hattribute]

theorem isReported_ofText {written : Text} {fault : Fault} (h : ofText written = .error fault) :
    fault.isReported = true := by
  dsimp only [ofText] at h
  split at h <;> cases h
  rfl

theorem isReported_missing (code : Code) (moduleName current : Text) (above : List Text) :
    (missing code moduleName current above).isReported = true := by
  fun_induction missing code moduleName current above with
  | case1 | case2 => rfl
  | case3 _ _ _ _ ih => exact ih

/-- Importing a module fails unreported for a relative name only. -/
theorem importModule_not_reported_iff {code : Code} {moduleName : Text} :
    (∃ fault, importModule code moduleName = .error fault ∧ fault.isReported = false) ↔
      moduleName.head? = some '.' := by
  unfold importModule
  split
  next hdot => exact iff_of_true ⟨_, rfl, rfl⟩ hdot
  next hdot =>
    refine iff_of_false ?_ hdot
    rintro ⟨fault, h, hreported⟩
    split at h
    · cases h
    · cases h
      rw [isReported_missing] at hreported
      cases hreported

theorem importModule_eq_ok_iff {code : Code} {moduleName : Text}
    {attributes : List (Text × Attribute)} :
    importModule code moduleName = .ok attributes ↔
      moduleName.head? ≠ some '.' ∧ code.lookup moduleName = some attributes := by
  unfold importModule
  split
  next hdot => simp [hdot]
  next hdot =>
    split
    next found hfound => simp [hdot, hfound]
    next hnone => simp [hnone]

theorem isReported_routesAmong {catalog : Catalog} {written : Text} {items : List Item}
    {fault : Fault} (h : routesAmong catalog written items = .error fault) :
    fault.isReported = true := by
  obtain ⟨-, item, -, -, -, h⟩ := mapM_eq_error_iff.mp h
  cases item <;> cases h
  rfl

theorem listed_not_reported_iff {found : Attribute} :
    (∃ fault, listed found = .error fault ∧ fault.isReported = false) ↔ IsSingle found := by
  cases found with
  | items items => simp [listed, IsSingle]
  | single className => simp [listed, IsSingle, Fault.isReported]
  | plain value => cases value <;> simp [listed, itemsOf, IsSingle, Fault.isReported]

/-- Where a module is imported, only an attribute that lists nothing stops the reader unreported. -/
theorem routes_not_reported_iff_of_import {catalog : Catalog} {code : Code} {written : Text}
    {target : Target} {attributes : List (Text × Attribute)} (htext : ofText written = .ok target)
    (himport : importModule code target.moduleName = .ok attributes) :
    (∃ fault, routes catalog code written = .error fault ∧ fault.isReported = false) ↔
      ∃ found, attribute? target attributes = some found ∧ IsSingle found := by
  have hroutes : routes catalog code written =
      (attribute? target attributes).elim (.error (.unknownAttribute target)) fun found =>
        listed found >>= routesAmong catalog written := by
    simp only [routes, htext, himport, bind, Except.bind]
    cases attribute? target attributes <;> rfl
  rw [hroutes]
  cases attribute? target attributes with
  | none => simp [Fault.isReported]
  | some found =>
    constructor
    · rintro ⟨fault, h, hreported⟩
      rcases bind_eq_error_iff.mp h with hlisted | ⟨items, -, hamong⟩
      · exact ⟨found, rfl, listed_not_reported_iff.mp ⟨fault, hlisted, hreported⟩⟩
      · exact nomatch (isReported_routesAmong hamong).symm.trans hreported
    · rintro ⟨_, hfound, hsingle⟩
      cases hfound
      obtain ⟨fault, hlisted, hreported⟩ := listed_not_reported_iff.mpr hsingle
      exact ⟨fault, bind_eq_error_iff.mpr (.inl hlisted), hreported⟩

theorem routes_not_reported_iff {catalog : Catalog} {code : Code} {written : Text} :
    (∃ fault, routes catalog code written = .error fault ∧ fault.isReported = false) ↔
      Escapes code written := by
  constructor
  · rintro ⟨fault, h, hreported⟩
    rcases bind_eq_error_iff.mp h with hwrong | ⟨⟨moduleName, attributeName⟩, htext, hrest⟩
    · exact nomatch (isReported_ofText hwrong).symm.trans hreported
    obtain ⟨hwritten, hcolon, hmodule, hattribute⟩ := ofText_eq_ok_iff.mp htext
    rcases bind_eq_error_iff.mp hrest with hmissing | ⟨attributes, himport, -⟩
    · exact .relative hwritten hcolon hattribute
        (importModule_not_reported_iff.mp ⟨fault, hmissing, hreported⟩)
    obtain ⟨hdot, hlookup⟩ := importModule_eq_ok_iff.mp himport
    obtain ⟨found, hfound, hsingle⟩ :=
      (routes_not_reported_iff_of_import htext himport).mp ⟨fault, h, hreported⟩
    exact .single hwritten hcolon hattribute hmodule hdot hlookup hfound hsingle
  · intro h
    cases h with
    | @relative moduleName attributeName hwritten hcolon hattribute hdot =>
      have hmodule : moduleName ≠ [] := by
        rintro rfl
        cases hdot
      have htext := ofText_eq_ok_iff.mpr ⟨hwritten, hcolon, hmodule, hattribute⟩
      obtain ⟨fault, himport, hreported⟩ :=
        (@importModule_not_reported_iff code moduleName).mpr hdot
      exact ⟨fault, bind_eq_error_iff.mpr (.inr ⟨_, htext,
        bind_eq_error_iff.mpr (.inl himport)⟩), hreported⟩
    | single hwritten hcolon hattribute hmodule hdot hlookup hfound hsingle =>
      exact (routes_not_reported_iff_of_import
        (ofText_eq_ok_iff.mpr ⟨hwritten, hcolon, hmodule, hattribute⟩)
        (importModule_eq_ok_iff.mpr ⟨hdot, hlookup⟩)).mpr ⟨_, hfound, hsingle⟩

end Target

namespace Command

/-- A call stops at a fault: nothing is written, and the fault is printed if it is one of the tool's
own, or else ends the program. -/
structure StopsAt (w : Workspace) (outcome : Outcome) (fault : RunFault) : Prop where
  exitCode : outcome.exitCode = 1
  files : outcome.files = w.files
  printed : fault.isReported = true → outcome.escaped = none ∧
    ∃ log, outcome.printed.log = log ++ "Error: ".toList ++ fault.message ++ ['\n']
  escaped : fault.isReported = false → outcome.escaped = some fault

namespace Run

variable {w : Workspace} {s : Settings} {fault : RunFault}

theorem stopsAt_of_textIn (h : textIn w s w.files = .error fault) :
    StopsAt w (.ofRun (runFrom (generate w s) { files := w.files })) fault := by
  obtain ⟨printed, hcompose⟩ := @reads_compose w s { files := w.files }
  rw [h] at hcompose
  unfold generate
  rw [runFrom_bind_of_error hcompose]
  cases hreported : fault.isReported with
  | true =>
    simp only [Outcome.ofRun, hreported, if_true]
    exact ⟨rfl, rfl, fun _ => ⟨rfl, _, rfl⟩, fun hfalse => absurd hfalse (by simp [hreported])⟩
  | false =>
    simp only [Outcome.ofRun, hreported]
    exact ⟨rfl, rfl, fun htrue => absurd htrue (by simp [hreported]), fun _ => rfl⟩

theorem textIn_of_config {tree : FileTree} {file : FileName} {fault : ConfigFault}
    (hfile : s.config = some file) (h : Config.ofFile tree file = .error fault) :
    textIn w s tree = .error (.config fault) := by
  refine bind_eq_error_iff.mpr (.inl (bind_eq_error_iff.mpr (.inl ?_)))
  rw [hfile]
  exact mapError_eq_error_iff.mpr ⟨fault, h, rfl⟩

/-- Targets are read in order, after the configuration and the sources. -/
theorem textIn_of_target {tree : FileTree} {read : Config} {sources : List (List Route)}
    {before after : List Text} {target : Text} {fault : Target.Fault}
    (hconfig : StartsWith tree s.config read)
    (hsources : List.Forall₂ (fun directory found =>
      Source.routesOfDirectory tree directory s.recursive = .ok found) s.directories sources)
    (htargets : s.targets = before ++ target :: after)
    (hbefore : ∀ earlier ∈ before, ∃ found, Target.routes w.catalog w.code earlier = .ok found)
    (h : Target.routes w.catalog w.code target = .error fault) :
    textIn w s tree = .error (.target fault) := by
  have hmapM : (s.targets.mapM fun target =>
      (Target.routes w.catalog w.code target).mapError RunFault.target) = .error (.target fault) :=
    mapM_eq_error_iff.mpr ⟨before, target, after, htargets, fun earlier hearlier =>
      (hbefore earlier hearlier).imp fun _ hok => mapError_eq_ok_iff.mpr hok,
      mapError_eq_error_iff.mpr ⟨fault, h, rfl⟩⟩
  have hfound : routesIn w s tree = .error (.target fault) := by
    refine bind_eq_error_iff.mpr (.inr ⟨sources, mapM_eq_ok_iff.mpr (hsources.imp ?_), ?_⟩)
    · exact fun _ _ hok => mapError_eq_ok_iff.mpr hok
    · exact bind_eq_error_iff.mpr (.inl hmapM)
  exact bind_eq_error_iff.mpr (.inr ⟨_, configIn_of_startsWith hconfig,
    bind_eq_error_iff.mpr (.inl hfound)⟩)

end Run

theorem call_stopsAt {w : Workspace} {s : Settings} {fault : RunFault}
    {arguments : List Text} (asked : AsksFor w arguments s)
    (h : Run.textIn w s w.files = .error fault) :
    StopsAt w (call w ("generate".toList :: arguments)) fault := by
  rw [call_generate, (calls_generate w arguments).eq_ofRun asked]
  exact Run.stopsAt_of_textIn h

/-- A file that gives no configuration is reported unless it holds bytes that are no text, an escape
or a version that cannot be read, a scalar that is not what its tag says, or a field whose name is
no text; and a target that gives no routes is reported unless it names a module from where the
reader stands or a value that is no list. In every case a call that meets the fault stops at it with
nothing written. -/
theorem loading_reported_iff (w : Workspace) :
    (∀ file, (∀ fault, Config.ofFile w.files file = .error fault → fault.isReported = true) ↔
      ¬Config.Escapes w.files file) ∧
    (∀ written, (∀ fault, Target.routes w.catalog w.code written = .error fault →
      fault.isReported = true) ↔ ¬Target.Escapes w.code written) ∧
    (∀ arguments s file fault, AsksFor w arguments s → s.config = some file →
      Config.ofFile w.files file = .error fault →
      StopsAt w (call w ("generate".toList :: arguments)) (.config fault)) ∧
    ∀ arguments s config sources before target after fault, AsksFor w arguments s →
      StartsWith w.files s.config config →
      List.Forall₂ (fun directory found =>
        Source.routesOfDirectory w.files directory s.recursive = .ok found)
        s.directories sources →
      s.targets = before ++ target :: after →
      (∀ earlier ∈ before, ∃ found, Target.routes w.catalog w.code earlier = .ok found) →
      Target.routes w.catalog w.code target = .error fault →
      StopsAt w (call w ("generate".toList :: arguments)) (.target fault) := by
  refine ⟨fun file => ?_, fun written => ?_, ?_, ?_⟩
  · rw [← Config.ofFile_not_reported_iff]
    simp
  · rw [← @Target.routes_not_reported_iff w.catalog]
    simp
  · exact fun arguments s file fault asked hfile h =>
      call_stopsAt asked (Run.textIn_of_config hfile h)
  · exact fun arguments s config sources before target after fault asked hconfig hsources
      htargets hbefore h =>
        call_stopsAt asked (Run.textIn_of_target hconfig hsources htargets hbefore h)

/-- A configuration file of one byte that no text has, and a module with a number in it. -/
def cellar : Workspace where
  files := { files := [(["config.yaml".toList], [0xff])] }
  code := [("shop".toList, [("count".toList, .plain (.int 3))])]

theorem ofFile_cellar : ∃ fault,
    Config.ofFile cellar.files (FileName.ofText "config.yaml".toList) = .error fault ∧
      fault.isReported = false := ⟨_, rfl, rfl⟩

/-- The settings for the number as a target, under the options that are given. -/
def cellarSettings (config : Option FileName) : Settings where
  directories := []
  targets := ["shop:count".toList]
  output := FileName.ofText "./docs/api".toList
  format := .json
  config := config
  overrides := {}
  recursive := false

theorem call_cellar :
    (call cellar ["generate".toList, "-r".toList, "shop:count".toList,
      "--config".toList, "config.yaml".toList]).escaped =
        some (.config (.unreadable "config.yaml".toList .notText)) ∧
    (call cellar ["generate".toList, "-r".toList, "shop:count".toList]).escaped =
      some (.target (.notList "int".toList)) := by
  obtain ⟨-, -, config, target⟩ := loading_reported_iff cellar
  have stopsAtConfig := config ["-r".toList, "shop:count".toList, "--config".toList,
    "config.yaml".toList] (cellarSettings (some (FileName.ofText "config.yaml".toList))) _ _
    ⟨_, rfl, rfl, rfl⟩ rfl rfl
  have stopsAtTarget := target ["-r".toList, "shop:count".toList] (cellarSettings none) {} []
    [] _ [] _ ⟨_, rfl, rfl, rfl⟩ .standard .nil rfl (fun _ h => nomatch h) rfl
  exact ⟨stopsAtConfig.escaped rfl, stopsAtTarget.escaped rfl⟩

end Command

end RouteDoc
