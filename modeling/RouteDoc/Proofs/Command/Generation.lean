import RouteDoc.Proofs.Command.Run
import RouteDoc.Proofs.Document.Accepted

/-! Making a document changes one file or none. A call that ends well has written the document that
its settings ask for and left every other file as it was; a call that ends otherwise has left them
all, whatever went wrong and however far it had come. -/

namespace RouteDoc.Command

open FileTree

/-- The configuration that settings begin with: that of their file, or else the standard one. -/
inductive StartsWith (tree : FileTree) : Option FileName → Config → Prop
  | file {file : FileName} {config : Config} : Config.ofFile tree file = .ok config →
    StartsWith tree (some file) config
  | standard : StartsWith tree none {}

/-- The text of the document that settings ask for: their configuration with what they put in place
of its values, and the paths of the routes of all directories in order and then of all targets in
order. -/
inductive Makes (w : Workspace) (s : Settings) : Text → Prop
  | intro {config : Config} {sources targets : List (List Route)} {assembly : Assembly}
    {text : Text} :
    StartsWith w.files s.config config →
    List.Forall₂ (fun directory found =>
      Source.routesOfDirectory w.files directory s.recursive = .ok found) s.directories sources →
    List.Forall₂ (fun target found => Target.routes w.catalog w.code target = .ok found)
      s.targets targets →
    Assembly.ofRoutes w.catalog (sources.flatten ++ targets.flatten) = (assembly, none) →
    Run.content s.format ⟨config.override s.overrides, assembly.paths⟩ = .ok text →
    Makes w s text

namespace Run

variable {w : Workspace} {s : Settings} {state : RunState}

/-! ### The text -/

/-- The configuration that settings ask for, as files give it. -/
def configIn (s : Settings) (tree : FileTree) : Except RunFault Config :=
  (match s.config with
    | some file => (Config.ofFile tree file).mapError .config
    | none => .ok {}) >>= fun (read : Config) => .ok (read.override s.overrides)

/-- The routes that settings ask for, as files and code give them. -/
def routesIn (w : Workspace) (s : Settings) (tree : FileTree) : Except RunFault (List Route) :=
  (s.directories.mapM fun directory =>
    (Source.routesOfDirectory tree directory s.recursive).mapError .source) >>= fun sources =>
  (s.targets.mapM fun target => (Target.routes w.catalog w.code target).mapError .target) >>=
    fun targets => .ok (sources.flatten ++ targets.flatten)

/-- The paths of routes, or what stops their assembly. -/
def pathsOf (w : Workspace) (found : List Route) : Except RunFault (Entries Text PathItem) :=
  match Assembly.ofRoutes w.catalog found with
  | (assembly, none) => .ok assembly.paths
  | (_, some failure) => .error (.models failure)

/-- The text that settings ask for, as files and code give it. -/
def textIn (w : Workspace) (s : Settings) (tree : FileTree) : Except RunFault Text :=
  configIn s tree >>= fun config => routesIn w s tree >>= fun found =>
    pathsOf w found >>= fun paths => (content s.format ⟨config, paths⟩).mapError .target

theorem reads_config : Reads (config s) (configIn s) := by
  have hoverride : ∀ read : Config, Reads (pure (read.override s.overrides)) fun _ =>
      .ok (read.override s.overrides) := fun read => Reads.pure _
  unfold config configIn
  cases s.config with
  | none => exact (Reads.pure ({} : Config)).bind hoverride
  | some file =>
    exact Reads.files_bind fun tree =>
      (Reads.orStop .config (Config.ofFile tree file)).bind hoverride

theorem reads_routes : Reads (routes w s) (routesIn w s) := by
  have hsources : ∀ directory, Reads (sourceRoutes s.recursive directory) fun tree =>
      (Source.routesOfDirectory tree directory s.recursive).mapError .source := by
    intro directory
    refine Reads.print_bind (Reads.files_bind fun tree => ?_) _
    exact Reads.orStop .source (Source.routesOfDirectory tree directory s.recursive)
  have htargets : ∀ target, Reads (targetRoutes w target) fun _ =>
      (Target.routes w.catalog w.code target).mapError .target :=
    fun target => Reads.print_bind (Reads.orStop .target _) _
  exact (Reads.mapM hsources s.directories).bind fun sources =>
    (Reads.mapM htargets s.targets).bind fun targets => Reads.pure _

theorem reads_paths (found : List Route) : Reads (paths w found) fun _ => pathsOf w found := by
  unfold paths pathsOf
  rcases Assembly.ofRoutes w.catalog found with ⟨assembly, failure⟩
  have hnotes :
      Reads (assembly.warnings.forM fun warning => note warning.logLine) fun _ => .ok () :=
    Reads.forM (fun warning => Reads.print _) assembly.warnings
  cases failure with
  | none => exact hnotes.bind fun _ => Reads.pure assembly.paths
  | some failure => exact hnotes.bind fun _ => Reads.throw (.models failure)

theorem reads_compose : Reads (compose w s) (textIn w s) :=
  reads_config.bind fun config => reads_routes.bind fun found => Reads.print_bind
    ((reads_paths found).bind fun paths =>
      Reads.orStop .target (content s.format ⟨config, paths⟩)) _

theorem configIn_of_startsWith {tree : FileTree} {read : Config}
    (h : StartsWith tree s.config read) : configIn s tree = .ok (read.override s.overrides) := by
  refine bind_eq_ok_iff.mpr ⟨read, ?_, rfl⟩
  generalize s.config = file at h
  cases h with
  | standard => rfl
  | file h => exact mapError_eq_ok_iff.mpr h

end Run

/-! ### The call -/

/-- Arguments of the command ask for its help. -/
def AsksForHelp (arguments : List Text) : Prop :=
  ∃ read, Arguments.ofScope .generate arguments = .ok read ∧ read.has .help = true

/-- Arguments of the command ask for a document, with settings in which nothing is wrong. -/
def AsksFor (w : Workspace) (arguments : List Text) (s : Settings) : Prop :=
  ∃ read, Arguments.ofScope .generate arguments = .ok read ∧ read.has .help = false ∧
    Settings.ofArguments w.files read = .ok s

/-- A call of the command is refused, is for help, or is for a document. -/
inductive Calls (w : Workspace) (arguments : List Text) : Outcome → Prop
  | refused {fault : UsageFault} : ¬AsksForHelp arguments → (∀ s, ¬AsksFor w arguments s) →
    Calls w arguments (.ofUsageFault w.files .generate fault)
  | help : AsksForHelp arguments → (∀ s, ¬AsksFor w arguments s) →
    Calls w arguments (.ofHelp w.files .generate)
  | run {s : Settings} : ¬AsksForHelp arguments → (∀ s', AsksFor w arguments s' ↔ s' = s) →
    Calls w arguments (.ofRun (Run.runFrom (Run.generate w s) { files := w.files }))

theorem calls_generate (w : Workspace) (arguments : List Text) :
    Calls w arguments (generate w arguments) := by
  unfold generate
  cases hread : Arguments.ofScope .generate arguments with
  | error fault =>
    refine .refused (fun ⟨_, h, _⟩ => nomatch hread.symm.trans h) fun s ⟨_, h, _⟩ => ?_
    exact nomatch hread.symm.trans h
  | ok read =>
    have same : ∀ {other}, Arguments.ofScope .generate arguments = .ok other → other = read :=
      fun h => Except.ok.inj (h.symm.trans hread)
    dsimp only
    cases hhelp : read.has .help with
    | true =>
      refine .help ⟨read, hread, hhelp⟩ fun s ⟨other, h, hnone, _⟩ => ?_
      exact nomatch (same h ▸ hnone).symm.trans hhelp
    | false =>
      have noHelp : ¬AsksForHelp arguments := fun ⟨other, h, hsome⟩ =>
        nomatch (same h ▸ hsome).symm.trans hhelp
      rw [if_neg Bool.false_ne_true]
      cases hsettings : Settings.ofArguments w.files read with
      | error fault =>
        refine .refused noHelp fun s ⟨other, h, _, hs⟩ => ?_
        exact nomatch (same h ▸ hs).symm.trans hsettings
      | ok s =>
        refine .run noHelp fun s' => ⟨fun ⟨other, h, _, hs⟩ => ?_, ?_⟩
        · exact Except.ok.inj ((same h ▸ hs).symm.trans hsettings)
        · rintro rfl
          exact ⟨read, hread, hhelp, hsettings⟩

/-- The program hands a call on to its command. -/
theorem call_generate (w : Workspace) (arguments : List Text) :
    call w ("generate".toList :: arguments) = generate w arguments := by
  have hread : Arguments.ofScope .program ("generate".toList :: arguments) =
      .ok { others := "generate".toList :: arguments } := rfl
  simp only [call, hread]
  rfl

namespace Outcome

variable {result : Except RunFault Unit × RunState}

end Outcome

namespace Calls

variable {w : Workspace} {arguments : List Text} {outcome : Outcome}

/-- A call that asks for a document is a run with the settings that it asks for. -/
theorem eq_ofRun (h : Calls w arguments outcome) {s : Settings} (asked : AsksFor w arguments s) :
    outcome = .ofRun (Run.runFrom (Run.generate w s) { files := w.files }) := by
  cases h with
  | refused _ noRun => exact absurd asked (noRun s)
  | help _ noRun => exact absurd asked (noRun s)
  | run _ asks =>
    obtain rfl := (asks s).mp asked
    rfl

end Calls

end RouteDoc.Command
