import IdentityProvider.CommandLine.MemoryMachine
import IdentityProvider.Main
import IdentityProvider.Signature.Verify
import IdentityProvider.Proofs.NormalizedAnswer
import IdentityProvider.Proofs.Signature.Tampering
import IdentityProvider.Proofs.Signature.Respelling
import IdentityProvider.Proofs.WellFormed
import IdentityProvider.Proofs.Verdict
import IdentityProvider.Proofs.Transport.Request
import IdentityProvider.Proofs.Service
import IdentityProvider.Proofs.Log
import IdentityProvider.Proofs.Transport.Query
import IdentityProvider.Proofs.Xml.Placement
import IdentityProvider.Proofs.Disclosure
import IdentityProvider.Proofs.Xml.Context
import IdentityProvider.Proofs.Signature.Context
import IdentityProvider.Proofs.Calendar
import IdentityProvider.Proofs.Timestamp
import IdentityProvider.Proofs.Transport.Html
import IdentityProvider.Proofs.Transport.Form
import IdentityProvider.Proofs.Origins
import IdentityProvider.Proofs.Host
import IdentityProvider.Proofs.Metadata
import IdentityProvider.Proofs.Roles
import IdentityProvider.Proofs.Key.Agreement
import IdentityProvider.Proofs.FirstOccurrences
import IdentityProvider.Proofs.Signature.Refusal
import IdentityProvider.Proofs.Amplification
