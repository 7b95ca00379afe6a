import ElfFacts.Path
import ElfFacts.Text.Lowercase

/-!
# Log options

How much is logged and in which form. The words for both can be written in any case.
-/
namespace ElfFacts

inductive LogLevel where
  | error
  | warn
  | info
  | debug
  | trace
  deriving DecidableEq, Repr

namespace LogLevel

def parse? (s : String) : Option LogLevel :=
  match Text.lower s with
  | "error" | "err" => some .error
  | "warn" | "warning" => some .warn
  | "info" => some .info
  | "debug" | "dbg" => some .debug
  | "trace" => some .trace
  | _ => none

def unknown (s : String) : String :=
  "Unknown log level: " ++ s ++ ". Use 'error', 'warn', 'info', 'debug', or 'trace'"

end LogLevel

inductive LogFormat where
  | pretty
  | json
  deriving DecidableEq, Repr

namespace LogFormat

def parse? (s : String) : Option LogFormat :=
  match Text.lower s with
  | "pretty" | "text" => some .pretty
  | "json" => some .json
  | _ => none

def unknown (s : String) : String := "Unknown log format: " ++ s ++ ". Use 'pretty' or 'json'"

def ofEnvironment (setting : Option Path) : LogFormat :=
  ((setting.bind fun p => Utf8.strictString p.octets).bind parse?).getD .pretty

end LogFormat

end ElfFacts
