import Typeforge.CommandLine.Run
import Typeforge.Disk.Memory
import Typeforge.Json.Printer
import Typeforge.Main
import Typeforge.Options.Listing
import Typeforge.Proofs.Naming.Table
import Typeforge.Proofs.Output.Names
import Typeforge.Proofs.Plugin.Failures
import Typeforge.Proofs.Validator.LoadOrder
import Typeforge.Proofs.Validator.Termination
import Typeforge.Proofs.Validator.Frame
import Typeforge.Proofs.Schema.Decoding
import Typeforge.Proofs.Schema.Rounds
import Typeforge.Proofs.Validator.Targets
import Typeforge.Proofs.Naming.First
import Typeforge.Proofs.Validator.Captures
import Typeforge.Proofs.Types.Captures
import Typeforge.Proofs.Plugin.Captures
import Typeforge.Proofs.Plugin.Run
import Typeforge.Proofs.Validator.Circles
import Typeforge.Proofs.Types.Closed
import Typeforge.Proofs.Plugin.Comments
import Typeforge.Proofs.Validator.Success
import Typeforge.Proofs.Validator.Extension
import Typeforge.Proofs.Schema.Events
import Typeforge.Proofs.Types.Circles
import Typeforge.Proofs.Validator.BigInts
import Typeforge.Proofs.Disk.Outputs
import Typeforge.Proofs.CommandLine.Run
import Typeforge.Proofs.Validator.Joins
import Typeforge.Proofs.Types.Rounds
import Typeforge.Proofs.Code.ObjectLiteral
import Typeforge.Proofs.Code.Quoted
import Typeforge.Proofs.Code.BlockComments
import Typeforge.Proofs.Validator.OperationNames
import Typeforge.Proofs.Validator.Bounds
import Typeforge.Proofs.Code.Bindable
import Typeforge.Proofs.Validator.Patterns
import Typeforge.Proofs.Code.Expressions
import Typeforge.Proofs.Schema.Distinct
import Typeforge.Proofs.Schema.Requests
import Typeforge.Proofs.Options.Settings
import Typeforge.Proofs.Types.Enumerations
import Typeforge.Proofs.Options.Blank
import Typeforge.Proofs.Output.Imports
import Typeforge.Proofs.Naming.Snake
import Typeforge.Proofs.Validator.Sequences
