import LineSieve.CommandLine.Execute
import LineSieve.Proofs.Acceptance

/- The default configuration. It is valid, and it is what loading comes to where nothing is said: no
   file, no environment and no options. -/
namespace LineSieve

namespace Config

/-- The default with markers that may be any bytes. -/
def usual : Config (List UInt8) := { default with rules := default.rules.inBytes }

theorem compileRules_usual : usual.compileRules = .ok Rules.lua := by
  have known : Dialect.lookup? usual.dialect = some .lua := by decide +kernel
  have same : ((RuleSpec.ofDialect .lua).inBytes.merge usual.rules.inBytes).inText? =
      some (RuleSpec.ofDialect .lua) := by decide +kernel
  simp only [compileRules, known, RuleSpec.compileAny, same, RuleSpec.compile_lua]
  rfl

theorem decoder_usual : usual.decoder = .ok .default := rfl

theorem log_usual : usual.log = .ok (.info, .console) := by
  decide +kernel

theorem validate_usual : usual.validate = .ok () := by
  have workers : ¬ usual.workers < 0 := by decide
  simp only [validate, workers, compileRules_usual, decoder_usual, log_usual, ↓reduceIte]
  rfl

theorem load_missing {tree : FileTree} {environment : List (String × String)} {path : String}
    {library : Encoding.Library} {config : Config (List UInt8)}
    (missing : findFile tree path = .ok none)
    (read : Settings.config? { entries := [], environment } usual = some config)
    (valid : config.validate library = .ok ()) :
    load tree environment path library = .ok ⟨config, ""⟩ := by
  rw [usual] at read
  simp only [load, missing, bind, Except.bind, pure, Except.pure, read, valid, Option.getD_none]

theorem load_usual {tree : FileTree} (missing : findFile tree "" = .ok none) :
    load tree [] "" = .ok ⟨usual, ""⟩ :=
  load_missing missing (by decide +kernel) validate_usual

end Config

namespace CommandLine

def Setup.default : Setup where
  config := Config.usual
  rules := Rules.lua
  decoder := .default
  level := .info
  format := .console
  source := ""

theorem setup_eq {session : Session} {options : Options} {loaded : LoadedConfig} {rules : AnyRules}
    {decoder : Decoder} {level : Log.Level} {format : Log.Format}
    (load : loadConfig session options = .ok loaded) (log : loaded.config.log = .ok (level, format))
    (compiled : loaded.config.compileRules = .ok rules)
    (decodes : loaded.config.decoder session.library = .ok decoder) :
    setup session options =
      .ok { config := loaded.config, rules, decoder, level, format, source := loaded.source } := by
  simp only [setup, load, log, compiled, decodes, bind, Except.bind, pure, Except.pure]

theorem loadConfig_silent {session : Session} {options : Options} {loaded : LoadedConfig}
    {log : Log.Level × Log.Format}
    (loads : Config.load session.tree session.environment options.config session.library =
      .ok loaded)
    (silent : options.logLevel = "" ∧ options.logFormat = "")
    (resolved : loaded.config.log = .ok log) :
    loadConfig session options = .ok loaded := by
  have usual : Text.trimString "" = "" := by decide +kernel
  have same : { loaded.config with logging := ⟨loaded.config.logging.level,
      loaded.config.logging.format⟩ } = loaded.config := rfl
  simp only [loadConfig, loads, silent, usual, ↓reduceIte, same, resolved, bind, Except.bind, pure,
    Except.pure]

theorem setup_default {session : Session} {options : Options} (library : session.library = .standard)
    (environment : session.environment = [])
    (missing : Config.findFile session.tree "" = .ok none)
    (silent : options.config = "" ∧ options.logLevel = "" ∧ options.logFormat = "") :
    setup session options = .ok Setup.default := by
  obtain ⟨config, silent⟩ := silent
  have loads : Config.load session.tree session.environment options.config session.library =
      .ok ⟨Config.usual, ""⟩ := by
    rw [environment, config, library, Config.load_usual missing]
  exact setup_eq (loadConfig_silent loads silent Config.log_usual) Config.log_usual
    Config.compileRules_usual (library ▸ Config.decoder_usual)

end CommandLine

end LineSieve
