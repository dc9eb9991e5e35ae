import ServiceBroker.Fake
import ServiceBroker.Generator
import ServiceBroker.Inquiry
import ServiceBroker.Json.Look
import ServiceBroker.Kubernetes.Secret
import ServiceBroker.Proofs.Admission
import ServiceBroker.Proofs.Inquiry.Run
import ServiceBroker.Proofs.Inquiry.Provenance
import ServiceBroker.Proofs.Inquiry.Isolation
import ServiceBroker.Proofs.Inquiry.Turns
import ServiceBroker.Proofs.Inquiry.Keeping
import ServiceBroker.Proofs.Inquiry.SingleFlight
import ServiceBroker.Proofs.Outcome
import ServiceBroker.Proofs.Classification
import ServiceBroker.Proofs.RoundTrip
import ServiceBroker.Proofs.Paths
import ServiceBroker.Proofs.Sources
import ServiceBroker.Proofs.Confinement
import ServiceBroker.Proofs.OperationKeys
import ServiceBroker.Proofs.AlphaFeatures
import ServiceBroker.Proofs.Bodies
import ServiceBroker.Proofs.Queries
import ServiceBroker.Proofs.Transparency
import ServiceBroker.Proofs.Pruning
import ServiceBroker.Proofs.Gates
import ServiceBroker.Proofs.Json.Places
import ServiceBroker.Proofs.Recording
import ServiceBroker.Proofs.Secrets
import ServiceBroker.Proofs.Json.Syntax
import ServiceBroker.Proofs.Json.Soundness
import ServiceBroker.Proofs.Json.Tolerance
import ServiceBroker.Proofs.NewerBrokers
import ServiceBroker.Proofs.ErrorKinds
import ServiceBroker.Proofs.Loading
import ServiceBroker.Proofs.MandatoryFields
import ServiceBroker.Proofs.Acceptance
import ServiceBroker.Proofs.Credentials
import ServiceBroker.Proofs.Polling
import ServiceBroker.Proofs.Headers
import ServiceBroker.Proofs.LoadingFaults
import ServiceBroker.Proofs.Generator
import ServiceBroker.Proofs.Slashes
