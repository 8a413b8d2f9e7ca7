import ResourceQuery.Main
import ResourceQuery.Proofs.Canonical
import ResourceQuery.Proofs.Joining
import ResourceQuery.Proofs.Escaping
import ResourceQuery.Proofs.TermJson
import ResourceQuery.Proofs.Explicit
import ResourceQuery.Proofs.Comparing
import ResourceQuery.Proofs.Interchanging
import ResourceQuery.Proofs.Literal
import ResourceQuery.Proofs.Tidying
import ResourceQuery.Proofs.GroupBody
import ResourceQuery.Proofs.CodedBrackets
import ResourceQuery.Proofs.Reexpanding
import ResourceQuery.Proofs.SignChains
import ResourceQuery.Proofs.Embedded
import ResourceQuery.Proofs.EscapedColon
import ResourceQuery.Proofs.Naming
import ResourceQuery.Proofs.Nesting
import ResourceQuery.Proofs.TagInsertion
import ResourceQuery.Proofs.Offsets
import ResourceQuery.Proofs.GroupSpan
import ResourceQuery.Proofs.Milliseconds
import ResourceQuery.Proofs.Inertness
