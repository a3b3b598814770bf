import GatewayAdmission.Main
import GatewayAdmission.Proofs.Json.Numeral
import GatewayAdmission.Proofs.Json.Quoted
import GatewayAdmission.Proofs.Json.Printed
import GatewayAdmission.Proofs.Json.Kept
import GatewayAdmission.Proofs.Json.Reach
import GatewayAdmission.Proofs.Admission.Envelope
import GatewayAdmission.Proofs.Admission.KindCheck
import GatewayAdmission.Proofs.Admission.Reply
import GatewayAdmission.Proofs.Admission.Admissible
import GatewayAdmission.Proofs.Scan
import GatewayAdmission.Proofs.Gateway.Scans
import GatewayAdmission.Proofs.Gateway.Acceptance
import GatewayAdmission.Proofs.Route.Scans
import GatewayAdmission.Proofs.Route.Parts
import GatewayAdmission.Proofs.Route.HttpAcceptance
import GatewayAdmission.Proofs.Field.Steps
import GatewayAdmission.Proofs.Field.Line
import GatewayAdmission.Proofs.Gateway.Messages
import GatewayAdmission.Proofs.Admission.Denial
import GatewayAdmission.Proofs.Json.Embedded
import GatewayAdmission.Proofs.Gateway.Travel
import GatewayAdmission.Proofs.Admission.Decoding
import GatewayAdmission.Proofs.Field.Place
import GatewayAdmission.Proofs.Gateway.Places
import GatewayAdmission.Proofs.Route.Places
import GatewayAdmission.Proofs.Admission.Places
import GatewayAdmission.Proofs.Route.Separation
import GatewayAdmission.Proofs.Admission.Versions
import GatewayAdmission.Proofs.Field.Reordering
import GatewayAdmission.Proofs.Gateway.Reordering
import GatewayAdmission.Proofs.Route.Reordering
import GatewayAdmission.Proofs.Admission.Reordering
import GatewayAdmission.Proofs.Route.GrpcAcceptance
import GatewayAdmission.Proofs.Admission.ClassUpdates
import GatewayAdmission.Proofs.Json.Ignored
import GatewayAdmission.Proofs.Admission.Relevance
import GatewayAdmission.Proofs.Text.Segments
import GatewayAdmission.Proofs.Route.Paths
import GatewayAdmission.Proofs.Route.Parents
import GatewayAdmission.Proofs.Admission.Registrations
import GatewayAdmission.Proofs.Http.Answers
import GatewayAdmission.Proofs.Dns.Labels
import GatewayAdmission.Proofs.Net.Literals
import GatewayAdmission.Proofs.Gateway.Hostnames
import GatewayAdmission.Proofs.Route.HeaderActions
import GatewayAdmission.Proofs.Route.Targets
import GatewayAdmission.Proofs.Text.SmallLetters
import GatewayAdmission.Proofs.Route.HeaderNames
import GatewayAdmission.Proofs.Gateway.Combinations
import GatewayAdmission.Proofs.Route.RepeatedFilters
import GatewayAdmission.Proofs.Route.ServiceNames
import GatewayAdmission.Proofs.Route.SharedFilters
import GatewayAdmission.Proofs.Gateway.Addresses
import GatewayAdmission.Proofs.Gateway.Repetitions
import GatewayAdmission.Proofs.Admission.Naming
