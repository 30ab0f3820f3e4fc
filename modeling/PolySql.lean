import PolySql.Dialect.Registry
import PolySql.Draft
import PolySql.Model.Read
import PolySql.Proofs.Ahead
import PolySql.Proofs.Appending
import PolySql.Proofs.Combination
import PolySql.Proofs.ContextFree
import PolySql.Proofs.Definitions
import PolySql.Proofs.Editing
import PolySql.Proofs.Exposure
import PolySql.Proofs.Flattening
import PolySql.Proofs.History
import PolySql.Proofs.Injection
import PolySql.Proofs.Keys
import PolySql.Proofs.Negation
import PolySql.Proofs.Pagination
import PolySql.Proofs.Pairing
import PolySql.Proofs.Portability
import PolySql.Proofs.Registration
import PolySql.Proofs.Rereading.Law
import PolySql.Proofs.Scoping
import PolySql.Proofs.Spacing.Select
import PolySql.Proofs.Template
import PolySql.Proofs.Verbatim
