import ElfFacts.Generator.Documents

/-!
# Faults of commands

What a command can fail with. The message says what the command was doing; what went wrong inside
follows it as a cause.
-/
namespace ElfFacts

inductive CommandFault where
  | hashOpen (path : Path)
  | hashRead (path : Path)
  | configRead (path : Path)
  | configMalformed
  | configPresent (path : Path)
  | configDirectory (path : Path)
  | configWrite (path : Path)
  | manifestRead (path : Path)
  | manifestMalformedJson
  | manifestMalformedYaml
  | manifestWithoutMain
  | manifestEmptyMain
  | noMainBinaries
  | generation (fault : RunFault)
  | summaryWrite (path : Path)
  | load (path : Path) (fault : ReaderFault)
  deriving DecidableEq, Repr

namespace CommandFault

def message : CommandFault → String
  | .hashOpen p => "Failed to open binary for hashing: " ++ p.display
  | .hashRead p => "Failed to read binary for hashing: " ++ p.display
  | .configRead p => "Failed to read generator config at " ++ p.display
  | .configMalformed => "Failed to parse generator config JSON"
  | .configPresent p => "Config already exists at " ++ p.display ++ " (use --force to overwrite)"
  | .configDirectory p => "Failed to create config dir: " ++ p.display
  | .configWrite p => "Failed to write generator config: " ++ p.display
  | .manifestRead p => "Failed to read run manifest at " ++ p.display
  | .manifestMalformedJson => "Failed to parse run manifest JSON"
  | .manifestMalformedYaml => "Failed to parse run manifest YAML"
  | .manifestWithoutMain => "Run manifest must list at least one main binary"
  | .manifestEmptyMain => "Run manifest contains an empty main binary path"
  | .noMainBinaries => "No main binaries given (use --main or a manifest)"
  | .generation _ => "Fact generation failed"
  | .summaryWrite p => "Failed to write run summary at " ++ p.display
  | .load p _ => "Failed to load binary at " ++ p.display

def cause? : CommandFault → Option RunFault
  | .generation fault => some fault
  | _ => none

end CommandFault

end ElfFacts
