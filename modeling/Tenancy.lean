import Tenancy.Database.Canned
import Tenancy.Database.Disk
import Tenancy.Http.Api
import Tenancy.Main
import Tenancy.Proofs.Cli.RoundTrip
import Tenancy.Proofs.Config.Settings
import Tenancy.Proofs.Database.Cell
import Tenancy.Proofs.Database.Grouping
import Tenancy.Proofs.Double.Shortest
import Tenancy.Proofs.FrontEnds
import Tenancy.Proofs.Http.Refinement
import Tenancy.Proofs.Http.Settings
import Tenancy.Proofs.Service
import Tenancy.Proofs.Sql.Reading
import Tenancy.Proofs.Sql.Token
import Tenancy.Proofs.Sql.Upsert
import Tenancy.Proofs.Store.Decoding
import Tenancy.Proofs.Store.Encoding
import Tenancy.Proofs.Store.Listing
import Tenancy.Proofs.Store.Logging
import Tenancy.Proofs.Store.Rows
import Tenancy.Proofs.Store.Run
import Tenancy.Proofs.Store.Settings
import Tenancy.Proofs.Store.StatementText
import Tenancy.Proofs.Store.Template
import Tenancy.Proofs.Store.Uniqueness
import Tenancy.Proofs.Text.Decimal
import Tenancy.Proofs.Text.Surrogate
import Tenancy.Proofs.Token.Form
import Tenancy.Sql.Definition
import Tenancy.Store.ErrorKind
