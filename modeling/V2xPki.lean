import V2xPki.Client.EndEntity
import V2xPki.Client.ErrorAtomicity
import V2xPki.Client.StoreInvariant
import V2xPki.Request.TypeDiscipline
import V2xPki.Client.DcIsolation
import V2xPki.Client.RevocationEffect
import V2xPki.Request.AtRequestAgreement
import V2xPki.Request.EciesRoundTrip
import V2xPki.Request.RecipientCurve
import V2xPki.Request.SignatureCurve
import V2xPki.Client.Roles
import V2xPki.Client.ProofOfPossession
import V2xPki.Provisioner.Anchors
import V2xPki.Provisioner.Acceptance
import V2xPki.Provisioner.MainLoop
import V2xPki.Cert.Validity
import V2xPki.Client.HttpClient
import V2xPki.Client.Lookup
import V2xPki.Provisioner.RequestedValidity
import V2xPki.Request.RandomSource
import V2xPki.Cli.CertSummary
import V2xPki.Trust.CertUtils
import V2xPki.KeyStore.StoredCurve
import V2xPki.Trust.SignatureAlternative
import V2xPki.Crypto.Kdf2
import V2xPki.Crypto.Sec1
import V2xPki.Client.Leftover
import V2xPki.Trust.Hid8Hex
import V2xPki.Provisioner.AtomicWrite
import V2xPki.Provisioner.DumpCalls
import V2xPki.Provisioner.TicketCover
import V2xPki.Client.Origins
import V2xPki.Client.Transport
import V2xPki.Cli.Args
import V2xPki.Cli.Commands
import V2xPki.Cli.Enrol
import V2xPki.Cli.Fetch
import V2xPki.Cli.RequestAt
import V2xPki.Client.Completion
import V2xPki.Client.EnrolledStation
