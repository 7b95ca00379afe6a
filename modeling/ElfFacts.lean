import ElfFacts.Binary.Octets
import ElfFacts.Command.Fault
import ElfFacts.Command.Generate
import ElfFacts.Command.Inputs
import ElfFacts.Command.Inspect
import ElfFacts.Command.Line
import ElfFacts.Command.Plan
import ElfFacts.Command.Run
import ElfFacts.Command.Settings
import ElfFacts.Config
import ElfFacts.Corpus
import ElfFacts.Debug.Entry
import ElfFacts.Debug.Stream
import ElfFacts.Debug.Unit
import ElfFacts.Digest.Sha256
import ElfFacts.Dwarf.Abbreviation
import ElfFacts.Dwarf.Decoder
import ElfFacts.Dwarf.LineHeader
import ElfFacts.Dwarf.Names
import ElfFacts.Dwarf.Sections
import ElfFacts.Dwarf.UnitHeader
import ElfFacts.Dwarf.Units
import ElfFacts.Dwarf.Value
import ElfFacts.Elf.Dynamic
import ElfFacts.Elf.File
import ElfFacts.Elf.Image
import ElfFacts.Elf.StringTable
import ElfFacts.Elf.Versions
import ElfFacts.Fact
import ElfFacts.Fact.Block
import ElfFacts.Fact.Sheet
import ElfFacts.Files.Disk
import ElfFacts.Files.Fault
import ElfFacts.Files.Host
import ElfFacts.Files.Tree
import ElfFacts.Generator.Documents
import ElfFacts.Generator.Layout
import ElfFacts.Generator.Output
import ElfFacts.Generator.Request
import ElfFacts.Generator.Survey
import ElfFacts.Identity
import ElfFacts.Json.Parser
import ElfFacts.Json.Printer
import ElfFacts.Json.Token
import ElfFacts.Json.Value
import ElfFacts.Linker.Listing
import ElfFacts.Linker.Query
import ElfFacts.Logging
import ElfFacts.Main
import ElfFacts.Manifest
import ElfFacts.Path
import ElfFacts.Reader
import ElfFacts.Reader.Elf
import ElfFacts.Record
import ElfFacts.Script.Arithmetic
import ElfFacts.Script.Builtin
import ElfFacts.Script.Command
import ElfFacts.Script.Condition
import ElfFacts.Script.Editing
import ElfFacts.Script.Expansion
import ElfFacts.Script.Format
import ElfFacts.Script.Parser
import ElfFacts.Script.Pattern
import ElfFacts.Script.Program
import ElfFacts.Script.Regex
import ElfFacts.Script.Run
import ElfFacts.Script.Shell
import ElfFacts.Script.Token
import ElfFacts.Script.Tool
import ElfFacts.Script.Word
import ElfFacts.Signal
import ElfFacts.Symbols.Facts
import ElfFacts.Symbols.Name
import ElfFacts.Symbols.Table
import ElfFacts.Text.Blank
import ElfFacts.Text.CaseTable
import ElfFacts.Text.Instant
import ElfFacts.Text.Lowercase
import ElfFacts.Text.PrintTable
import ElfFacts.Text.Quoted
import ElfFacts.Text.Utf8
import ElfFacts.TypeChain
import ElfFacts.Walk.Ledger
import ElfFacts.Walk.Tag
import ElfFacts.Walk.Visit
import ElfFacts.Walk.Worklist
import ElfFacts.Yaml.Cursor
import ElfFacts.Yaml.Lexer
import ElfFacts.Yaml.Node
import ElfFacts.Yaml.Scalar
import ElfFacts.Yaml.Token
import ElfFacts.Proofs.Walk.Visit
import ElfFacts.Proofs.Walk.Preorder
import ElfFacts.Proofs.Debug.Forest
import ElfFacts.Proofs.Walk.Facts
import ElfFacts.Proofs.Walk.Fresh
import ElfFacts.Proofs.Walk.Sites
import ElfFacts.Proofs.Walk.Exact
import ElfFacts.Proofs.Generator.Inputs
import ElfFacts.Proofs.Generator.Libraries
import ElfFacts.Proofs.Generator.Context
import ElfFacts.Proofs.Text.Digits
import ElfFacts.Proofs.Text.Quoted
import ElfFacts.Proofs.Debug.Canonical
import ElfFacts.Proofs.Fact.Rendered
import ElfFacts.Proofs.Fact.Lines
import ElfFacts.Proofs.Walk.Induction
import ElfFacts.Proofs.Walk.Predicates
import ElfFacts.Proofs.Identity.Preimage
import ElfFacts.Proofs.Walk.Once
import ElfFacts.Proofs.Walk.Parameters
import ElfFacts.Proofs.Symbols.Groups
import ElfFacts.Proofs.Symbols.Facts
import ElfFacts.Proofs.Symbols.Filter
import ElfFacts.Proofs.Elf.Versions
import ElfFacts.Proofs.Generator.Symbols
import ElfFacts.Proofs.Generator.Assembly
import ElfFacts.Proofs.Generator.Runtime
import ElfFacts.Proofs.Debug.Delimited
import ElfFacts.Proofs.Debug.Reading
import ElfFacts.Proofs.Identity.Scope
import ElfFacts.Proofs.Generator.ReadBack
import ElfFacts.Proofs.Walk.Partition
import ElfFacts.Proofs.Debug.TypeChain
import ElfFacts.Proofs.Walk.Trace
import ElfFacts.Proofs.Walk.Listed
import ElfFacts.Proofs.Walk.Declared
import ElfFacts.Proofs.Walk.Deeper
import ElfFacts.Proofs.Text.Utf8
import ElfFacts.Proofs.Path.Join
import ElfFacts.Proofs.Generator.FileNames
import ElfFacts.Proofs.Files.Enter
import ElfFacts.Proofs.Files.Still
import ElfFacts.Proofs.Generator.Written
import ElfFacts.Proofs.Generator.FailFast
import ElfFacts.Proofs.Command.Failure
import ElfFacts.Proofs.Debug.TypeBudget
import ElfFacts.Proofs.Walk.Calls
import ElfFacts.Proofs.Walk.Growth
import ElfFacts.Proofs.Walk.Closure
import ElfFacts.Proofs.Walk.Again
import ElfFacts.Proofs.Walk.Sizes
import ElfFacts.Proofs.Debug.Levels
import ElfFacts.Proofs.Walk.Bound
import ElfFacts.Proofs.Elf.Precedence
import ElfFacts.Proofs.Text.Order
import ElfFacts.Proofs.Symbols.Name
import ElfFacts.Proofs.Symbols.Projected
import ElfFacts.Proofs.Walk.Languages
import ElfFacts.Proofs.Fact.Limited
import ElfFacts.Proofs.Path.Parent
import ElfFacts.Proofs.Text.Decoded
import ElfFacts.Proofs.Generator.Inside
import ElfFacts.Proofs.Generator.Auxiliary
import ElfFacts.Proofs.Json.Parsed
import ElfFacts.Proofs.Json.Written
import ElfFacts.Proofs.Config.Restored
import ElfFacts.Proofs.Text.Lines
import ElfFacts.Proofs.Linker.Listing
import ElfFacts.Proofs.Text.Lowercase
import ElfFacts.Proofs.Walk.Tag
import ElfFacts.Proofs.Config.Tags
import ElfFacts.Proofs.Debug.Views
import ElfFacts.Proofs.Debug.Edits
