import Bindery.Main
import Bindery.Proofs.Assembly
import Bindery.Proofs.Catalog
import Bindery.Proofs.Expressible
import Bindery.Proofs.Blame
import Bindery.Proofs.Failure
import Bindery.Proofs.Outcome
import Bindery.Proofs.Passes
import Bindery.Proofs.Identifier
import Bindery.Proofs.Reading
import Bindery.Proofs.Lines
import Bindery.Proofs.Statements
import Bindery.Proofs.Heads
import Bindery.Proofs.Forwarding
import Bindery.Proofs.Signatures
import Bindery.Proofs.RoundTrip
import Bindery.Proofs.DryRun
import Bindery.Proofs.Realization
import Bindery.Proofs.Merging
import Bindery.Proofs.Operations
import Bindery.Proofs.Recovery
import Bindery.Proofs.Variables
import Bindery.Proofs.CatalogSchema
import Bindery.Proofs.Checks
import Bindery.Proofs.Locality
import Bindery.Proofs.ParameterTypes
import Bindery.Proofs.Delivery
import Bindery.Proofs.Forecast
import Bindery.Proofs.Footprint
import Bindery.Proofs.Story
import Bindery.Proofs.Findings
import Bindery.Proofs.NativeLiteral
import Bindery.Proofs.VectorDefaults
import Bindery.Proofs.NonFinite
import Bindery.Proofs.IntegerDefaults
import Bindery.Proofs.LoadedLiterals
import Bindery.Proofs.Quoting
import Bindery.Proofs.Reconfiguration
import Bindery.Proofs.Blocks
import Bindery.Proofs.Comments
import Bindery.Proofs.Selecting
import Bindery.Proofs.TypeSearch
import Bindery.Proofs.Rendering
import Bindery.Proofs.PartialConfigurations
import Bindery.Proofs.Requests
