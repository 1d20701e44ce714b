import ApiAtlas.Main
import ApiAtlas.Report.Log
import ApiAtlas.Proofs.Atlas.Lookup
import ApiAtlas.Proofs.Atlas.Growth
import ApiAtlas.Proofs.Source.Nesting
import ApiAtlas.Proofs.Conversion.Edit
import ApiAtlas.Proofs.Conversion.Runs
import ApiAtlas.Proofs.Conversion.Declared
import ApiAtlas.Proofs.Conversion.Opened
import ApiAtlas.Proofs.Conversion.Walk
import ApiAtlas.Proofs.Atlas.Chains
import ApiAtlas.Proofs.Conversion.Identity
import ApiAtlas.Proofs.Atlas.Held
import ApiAtlas.Proofs.Atlas.Tidy
import ApiAtlas.Proofs.Atlas.Traversal
import ApiAtlas.Proofs.Conversion.Gives
import ApiAtlas.Proofs.Conversion.Stored
import ApiAtlas.Proofs.Conversion.FilledOnce
import ApiAtlas.Proofs.Conversion.Ownership
import ApiAtlas.Proofs.Resolution.Recommented
import ApiAtlas.Proofs.Resolution.TakeOver
import ApiAtlas.Proofs.Resolution.CommentRun
import ApiAtlas.Proofs.Ty.Renamed
import ApiAtlas.Proofs.Conversion.Kept
import ApiAtlas.Proofs.Resolution.Outcome
import ApiAtlas.Proofs.Resolution.Documentation
import ApiAtlas.Proofs.Resolution.Targets
import ApiAtlas.Proofs.Inheritance.Classes
import ApiAtlas.Proofs.Atlas.Renamed
import ApiAtlas.Proofs.Conversion.Beside
import ApiAtlas.Proofs.Conversion.Filters
import ApiAtlas.Proofs.Conversion.SideBySide
import ApiAtlas.Proofs.Inheritance.Completion
import ApiAtlas.Proofs.Inheritance.Members
import ApiAtlas.Proofs.Output.Rows
import ApiAtlas.Proofs.Resolution.Ends
import ApiAtlas.Proofs.Resolution.FileOrder
import ApiAtlas.Proofs.Conversion.Aside
import ApiAtlas.Proofs.Resolution.Origins
import ApiAtlas.Proofs.Output.RoundTrip
import ApiAtlas.Proofs.Output.Pages
import ApiAtlas.Proofs.Conversion.Accrual
import ApiAtlas.Proofs.Output.Complete
import ApiAtlas.Proofs.Resolution.Mirrored
import ApiAtlas.Proofs.Reading.Inlined
import ApiAtlas.Proofs.Reading.Binding
import ApiAtlas.Proofs.Conversion.Catalogued
import ApiAtlas.Proofs.Resolution.Frame
import ApiAtlas.Proofs.Resolution.Levels
import ApiAtlas.Proofs.Resolution.Counterparts
import ApiAtlas.Proofs.Comment.Merging
import ApiAtlas.Proofs.Resolution.Searching
import ApiAtlas.Proofs.Resolution.Accord
import ApiAtlas.Proofs.Resolution.Overloaded
import ApiAtlas.Proofs.Text.Pieces
import ApiAtlas.Proofs.Resolution.FullNames
import ApiAtlas.Proofs.Conversion.Accessors
import ApiAtlas.Proofs.Conversion.Readings
import ApiAtlas.Proofs.Conversion.Sight
import ApiAtlas.Proofs.Conversion.United
import ApiAtlas.Proofs.Conversion.Shapes
import ApiAtlas.Proofs.Ty.Shown
import ApiAtlas.Proofs.Output.Surroundings
import ApiAtlas.Proofs.Inheritance.Circles
import ApiAtlas.Proofs.Reading.Imports
import ApiAtlas.Proofs.Comment.Layout
import ApiAtlas.Proofs.Comment.Blocks
import ApiAtlas.Proofs.Reading.Implementations
import ApiAtlas.Proofs.Resolution.Ancestry
import ApiAtlas.Proofs.Atlas.Bookkeeping
import ApiAtlas.Proofs.Conversion.ParameterOrder
