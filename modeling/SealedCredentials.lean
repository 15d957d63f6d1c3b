import SealedCredentials.Channel.Schedule
import SealedCredentials.Main
import SealedCredentials.Proofs.Channel.Coalescing
import SealedCredentials.Proofs.Channel.FreshStart
import SealedCredentials.Proofs.Channel.HonestCounterpart
import SealedCredentials.Proofs.Channel.SingleFlight
import SealedCredentials.Proofs.Envelope.Opening
import SealedCredentials.Proofs.Channel.Attendance
import SealedCredentials.Proofs.Channel.TimeBound
import SealedCredentials.Proofs.Channel.Expiry
import SealedCredentials.Proofs.Channel.Punctual
import SealedCredentials.Proofs.Channel.Departure
import SealedCredentials.Proofs.Client.Verdict
import SealedCredentials.Proofs.Envelope.Stretch
import SealedCredentials.Proofs.Client.Credentials
import SealedCredentials.Proofs.Agreement.Secret
import SealedCredentials.Proofs.Agreement.SafePrime
import SealedCredentials.Proofs.Agreement.Generation
import SealedCredentials.Proofs.Envelope.Outline
import SealedCredentials.Proofs.Envelope.Reading
import SealedCredentials.Proofs.Cipher.Refusal
import SealedCredentials.Proofs.Arithmetic.Products
import SealedCredentials.Proofs.Message.Submission
import SealedCredentials.Proofs.Channel.Veil
import SealedCredentials.Proofs.Client.Veil
import SealedCredentials.Proofs.Client.Disclosure
import SealedCredentials.Proofs.Client.Alone
import SealedCredentials.Proofs.CommandLine.Arguments
import SealedCredentials.Proofs.CommandLine.Settings
import SealedCredentials.Proofs.CommandLine.Encryption
import SealedCredentials.Proofs.Channel.DrawnPair
import SealedCredentials.Proofs.Channel.Spelling
import SealedCredentials.Proofs.Envelope.Chain
import SealedCredentials.Proofs.Client.Response
import SealedCredentials.Proofs.Message.StatusReport
import SealedCredentials.Proofs.Arithmetic.WrittenForm
import SealedCredentials.Proofs.Agreement.Checked
import SealedCredentials.Proofs.Json.WellFormed
import SealedCredentials.Proofs.Json.Scalar
import SealedCredentials.Proofs.Json.RecordText
import SealedCredentials.Proofs.Message.RoundTrip
import SealedCredentials.Proofs.Settings
