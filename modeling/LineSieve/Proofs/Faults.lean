import LineSieve.CommandLine.Execute
import LineSieve.Proofs.Run.Outcome

/- Which faults speak of forbidden content. Only the check for it does: options, configuration,
   walks, runs and reports fail for other causes. -/
namespace LineSieve

/-- A fault for another cause than forbidden content. -/
def Fault.Plain (fault : Fault) : Prop := fault.has .forbiddenContent = false

theorem Fault.plain_cause {root : Cause} (other : root ≠ .forbiddenContent) :
    (Fault.cause root).Plain := by
  simpa [Plain, has, causes] using other.symm

theorem exitCode_plain {fault : Fault} (plain : fault.Plain) :
    exitCode (some fault) ≠ 0 ∧ exitCode (some fault) ≠ 2 := by
  rw [exitCode, if_neg (Bool.eq_false_iff.mp plain)]
  split <;> decide

/-- Whatever fails here fails for another cause than forbidden content. -/
def Guarded {α : Type} (result : Except Fault α) : Prop :=
  ∀ fault, result = .error fault → fault.Plain

section Guarded

variable {α β ε : Type}

theorem guarded_ok (value : α) : Guarded (.ok value) := by
  intro fault failed
  cases failed

theorem guarded_error {fault : Fault} (plain : fault.Plain) :
    Guarded (.error fault : Except Fault α) := by
  intro other failed
  cases failed
  exact plain

theorem guarded_mapError {result : Except ε α} {wrap : ε → Fault} (plain : ∀ e, (wrap e).Plain) :
    Guarded (result.mapError wrap) := by
  cases result with
  | ok value => exact guarded_ok value
  | error e => exact guarded_error (plain e)

theorem Guarded.bind {result : Except Fault α} {next : α → Except Fault β}
    (guarded : Guarded result) (later : ∀ value, Guarded (next value)) :
    Guarded (result >>= next) := by
  cases result with
  | ok value => exact later value
  | error fault => exact guarded_error (guarded fault rfl)

end Guarded

namespace Config

section Validate

variable {μ α : Type} [Spelling μ α] [Text.Alphabet α] (config : Config μ)
  (library : Encoding.Library)

theorem compileRules_guarded : Guarded config.compileRules := by
  unfold compileRules
  split
  · exact guarded_error (Fault.plain_cause nofun)
  · exact guarded_mapError fun e => Fault.plain_cause nofun

theorem decoder_guarded : Guarded (config.decoder library) :=
  guarded_mapError fun _ => Fault.plain_cause nofun

theorem log_guarded : Guarded config.log :=
  guarded_mapError fun _ => Fault.plain_cause nofun

theorem validate_guarded : Guarded (config.validate library) := by
  have checks : Guarded (do
      let _ ← config.decoder library
      let _ ← config.compileRules
      let _ ← config.log
      return () : Except Fault Unit) :=
    (config.decoder_guarded library).bind fun _ => config.compileRules_guarded.bind fun _ =>
      config.log_guarded.bind fun _ => guarded_ok ()
  unfold validate
  by_cases negative : config.workers < 0
  · simp only [negative, ↓reduceIte]
    exact guarded_error (Fault.plain_cause nofun)
  · by_cases none : (config.encodings.getD []).isEmpty = true
    · simp only [negative, none, ↓reduceIte]
      exact guarded_error (Fault.plain_cause nofun)
    · simp only [negative, none, ↓reduceIte]
      exact checks

end Validate

theorem findFile_guarded (tree : FileTree) (path : String) : Guarded (findFile tree path) := by
  unfold findFile
  simp only
  split
  · exact guarded_ok _
  · split
    · exact guarded_ok _
    · exact guarded_error (Fault.plain_cause nofun)

theorem readEntries_guarded (tree : FileTree) (path : String) : Guarded (readEntries tree path) := by
  unfold readEntries
  simp only
  split
  · exact guarded_error (Fault.plain_cause nofun)
  · split
    · exact guarded_error (Fault.plain_cause nofun)
    · exact guarded_ok _

theorem settled_guarded (config? : Option (Config (List UInt8))) (source : String)
    (library : Encoding.Library) : Guarded (
    match config? with
    | none => throw (.within "decode config" (.cause .configMistyped))
    | some config => do
      config.validate library
      return ⟨config, source⟩ : Except Fault LoadedConfig) := by
  cases config? with
  | none => exact guarded_error (Fault.plain_cause (by simp))
  | some config => exact (config.validate_guarded library).bind fun _ => guarded_ok _

theorem load_guarded (tree : FileTree) (environment : List (String × String)) (path : String)
    (library : Encoding.Library) : Guarded (load tree environment path library) := by
  unfold load
  refine (findFile_guarded tree path).bind fun source => ?_
  cases source with
  | none => exact settled_guarded _ _ library
  | some file => exact (readEntries_guarded tree file).bind fun _ => settled_guarded _ _ library

end Config

namespace CommandLine

theorem loadConfig_guarded (session : Session) (options : Options) :
    Guarded (loadConfig session options) := by
  unfold loadConfig
  refine (Config.load_guarded session.tree session.environment options.config
    session.library).bind fun loaded => ?_
  exact (Config.log_guarded _).bind fun _ => guarded_ok _

theorem setup_guarded (session : Session) (options : Options) :
    Guarded (setup session options) := by
  unfold setup
  refine (loadConfig_guarded session options).bind fun loaded => ?_
  refine loaded.config.log_guarded.bind fun level => ?_
  refine loaded.config.compileRules_guarded.bind fun rules => ?_
  exact (loaded.config.decoder_guarded session.library).bind fun decoder => guarded_ok _

end CommandLine

theorem guarded_map {α β : Type} {result : Except Fault α} (guarded : Guarded result) (f : α → β) :
    Guarded (result.map f) := by
  cases result with
  | ok value => exact guarded_ok _
  | error fault => exact guarded_error (guarded fault rfl)

theorem Selection.ignoreLines_guarded (selection : Selection) (tree : FileTree) (root : String) :
    Guarded (selection.ignoreLines tree root) := by
  unfold ignoreLines
  apply guarded_map
  split
  · split
    · exact guarded_ok _
    · split
      · exact guarded_ok _
      · exact guarded_error (Fault.plain_cause nofun)
  · exact guarded_ok _

theorem Selection.checkIncludes_guarded (selection : Selection) :
    Guarded selection.checkIncludes := by
  unfold checkIncludes
  simp only
  split
  · exact guarded_ok ()
  · exact guarded_error (Fault.plain_cause nofun)

theorem Listing.rootTargets_plain {opens : String → Except Fault Listing}
    {skips : String → List Char → Bool} {pick? : String → List Char → Option Target}
    (guarded : ∀ name, Guarded (opens name)) {listing : Listing} {fault : Fault}
    (failed : (listing.rootTargets opens skips pick?).2 = some fault) : fault.Plain := by
  induction listing with
  | nil => cases failed
  | file _ _ _ ih | link _ _ _ ih => exact ih failed
  | directory name entries rest _ ih =>
    simp only [rootTargets] at failed
    split at failed
    · exact ih failed
    · split at failed
      · exact ih failed
      · rename_i opened
        cases failed
        exact guarded name _ opened

namespace FileTree

variable {tree : FileTree} {root : String} {fault : Fault}

theorem openIn_guarded (tree : FileTree) (root name : String) : Guarded (tree.openIn root name) :=
  guarded_mapError fun _ => Fault.plain_cause nofun

theorem select_plain {selection : Selection} (failed : (tree.select root selection).2 = some fault) :
    fault.Plain := by
  unfold select walk at failed
  split at failed
  rename_i reversed other walked
  split at walked
  · cases walked
    cases failed
    exact Fault.plain_cause nofun
  · split at walked
    · rename_i unread
      cases walked
      cases failed
      exact selection.ignoreLines_guarded tree root _ unread
    · rename_i includes
      cases walked
      cases failed
      exact selection.checkIncludes_guarded _ includes
    · split at walked
      · rw [Listing.visitRoot_eq, Visited.offered, offerAll_collect] at walked
        cases walked
        exact Listing.rootTargets_plain (tree.openIn_guarded root) failed
      · cases walked
        cases failed
  · simp only at walked
    split at walked
    · cases walked
      cases failed
    · cases walked
      cases failed
      exact Fault.plain_cause nofun

end FileTree

theorem Service.run_plain {service : Service} {tree : FileTree} {runId path : String} {mode : Mode}
    {canceled : Bool} {fault : Fault}
    (failed : (service.run tree runId path mode.name canceled).fault = some fault) :
    fault.Plain := by
  obtain ⟨start, events, outcome⟩ := service.run_eq tree runId path mode canceled
  rw [outcome] at failed
  rcases Option.or_eq_some_iff.mp failed with idle | ⟨-, unwritten⟩
  · unfold idle? at idle
    split at idle
    · cases idle
      exact Fault.plain_cause nofun
    · rcases Option.or_eq_some_iff.mp idle with walked | ⟨-, stopped⟩
      · exact FileTree.select_plain walked
      · split at stopped
        · cases stopped
          exact Fault.plain_cause nofun
        · cases stopped
  · unfold unwritten? at unwritten
    split at unwritten
    · cases unwritten
      exact Fault.plain_cause nofun
    · cases unwritten

theorem Report.install_plain {tree : FileTree} {temporary : OpenFile} {path : String}
    {content : ByteArray} {disk : Disk} {cause : Cause}
    (failed : (install tree temporary path content disk).2 = some cause) :
    cause ≠ .forbiddenContent := by
  unfold install at failed
  split at failed
  · cases failed
    nofun
  · split at failed
    · cases failed
    · cases failed
      nofun

theorem Report.writeFile_plain {report : Report} {tree : FileTree} {path : String} {disk : Disk}
    {fault : Fault} (failed : (report.writeFile tree path disk).2 = some fault) : fault.Plain := by
  unfold writeFile at failed
  simp only at failed
  split at failed
  · cases failed
    exact Fault.plain_cause nofun
  · split at failed
    · cases failed
      exact Fault.plain_cause nofun
    · obtain ⟨cause, met, rfl⟩ := Option.map_eq_some_iff.mp failed
      exact Fault.plain_cause (install_plain met)

end LineSieve
