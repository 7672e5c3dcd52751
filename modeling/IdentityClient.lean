import IdentityClient.Assertion
import IdentityClient.Auth
import IdentityClient.Client.Builder
import IdentityClient.Client.Registry
import IdentityClient.Client.Service
import IdentityClient.ClientError
import IdentityClient.Credentials.Error
import IdentityClient.Credentials.Policy
import IdentityClient.Credentials.Service
import IdentityClient.Crypto.KeyFault
import IdentityClient.Crypto.KeyText
import IdentityClient.Crypto.Rsa
import IdentityClient.Crypto.Sha256
import IdentityClient.Decimal.Binary64
import IdentityClient.Dial
import IdentityClient.Encoding.Base64
import IdentityClient.Encoding.Der
import IdentityClient.Encoding.Pem
import IdentityClient.Grpc.Call
import IdentityClient.Grpc.Frame
import IdentityClient.Grpc.Reply
import IdentityClient.Grpc.Status
import IdentityClient.Grpc.Timeout
import IdentityClient.Headers
import IdentityClient.Issuer
import IdentityClient.Issuer.Error
import IdentityClient.Json.Fault
import IdentityClient.Json.Reader
import IdentityClient.Json.Record
import IdentityClient.Json.Writer
import IdentityClient.Log
import IdentityClient.Message.Object
import IdentityClient.Message.QueryMethod
import IdentityClient.Net.BasicCredentials
import IdentityClient.Net.Form
import IdentityClient.Net.Http
import IdentityClient.Net.HttpFault
import IdentityClient.Net.HttpStatus
import IdentityClient.Net.Ipv4
import IdentityClient.Net.Ipv6
import IdentityClient.Net.Request
import IdentityClient.Net.Uri
import IdentityClient.Net.Url.Fault
import IdentityClient.Net.Url.Host
import IdentityClient.Net.Url.Idna.MappingTable
import IdentityClient.Net.Url.Idna.Name
import IdentityClient.Net.Url.Idna.Normal
import IdentityClient.Net.Url.Idna.NormalTable
import IdentityClient.Net.Url.Idna.PropertyTable
import IdentityClient.Net.Url.Idna.Punycode
import IdentityClient.Net.Url.Parser
import IdentityClient.Net.Url.Percent
import IdentityClient.Procedure
import IdentityClient.Provider.Discovery
import IdentityClient.Provider.Exchange
import IdentityClient.Provider.TokenEndpoint
import IdentityClient.Refreshing.Lone
import IdentityClient.Refreshing.State
import IdentityClient.ServiceKey
import IdentityClient.Simulation.Calls
import IdentityClient.Simulation.Files
import IdentityClient.Simulation.Script
import IdentityClient.Simulation.Source
import IdentityClient.Simulation.Stub
import IdentityClient.Simulation.Timeline
import IdentityClient.Slot.Error
import IdentityClient.Slot.Run
import IdentityClient.Slot.State
import IdentityClient.Text.Blank
import IdentityClient.Text.CodeTable
import IdentityClient.Text.Quoted
import IdentityClient.Text.Utf8
import IdentityClient.Text.Visible
import IdentityClient.Time
import IdentityClient.Token
import IdentityClient.Token.Outcome
import IdentityClient.TokenError
import IdentityClient.TokenSource
import IdentityClient.Transport.Attempt
import IdentityClient.Transport.Channel
import IdentityClient.Transport.Error
import IdentityClient.Transport.Target
import IdentityClient.Transport.Tls
import IdentityClient.Wire.Field
import IdentityClient.Wire.Varint
import IdentityClient.Proofs.Expiry
import IdentityClient.Proofs.Refreshing.Lock
import IdentityClient.Proofs.Refreshing.Cache
import IdentityClient.Proofs.Refreshing.Life
import IdentityClient.Proofs.Refreshing.Run
import IdentityClient.Proofs.Refreshing.Exchange
import IdentityClient.Proofs.Refreshing.Counter
import IdentityClient.Proofs.Refreshing.Failure
import IdentityClient.Proofs.Refreshing.Queue
import IdentityClient.Proofs.Refreshing.Sharing
import IdentityClient.Proofs.Refreshing.Latest
import IdentityClient.Proofs.Refreshing.Tally
import IdentityClient.Proofs.Refreshing.Drop
import IdentityClient.Proofs.Credentials.Scheduled
import IdentityClient.Proofs.Slot.Alone
import IdentityClient.Proofs.Slot.Construct
import IdentityClient.Proofs.Slot.Linearize
import IdentityClient.Proofs.Slot.Notice
import IdentityClient.Proofs.Client.Secure
import IdentityClient.Proofs.Auth.Protocol
import IdentityClient.Proofs.Refreshing.Primed
import IdentityClient.Proofs.Issuer.Target
import IdentityClient.Proofs.Client.Fault
import IdentityClient.Proofs.Grpc.Timeout
import IdentityClient.Proofs.Grpc.Budget
import IdentityClient.Proofs.Secrets.Refreshing
import IdentityClient.Proofs.Secrets.Service
import IdentityClient.Proofs.Secrets.Init
import IdentityClient.Proofs.Secrets.Deployment
import IdentityClient.Proofs.Simulation.Asked
import IdentityClient.Proofs.Credentials.Past
import IdentityClient.Proofs.Simulation.Deadline
import IdentityClient.Proofs.ServiceKey
import IdentityClient.Proofs.Secrets.KeyDocument
import IdentityClient.Proofs.Json.Accepted
import IdentityClient.Proofs.Provider.Discovery
import IdentityClient.Proofs.Provider.Reply
import IdentityClient.Proofs.Auth.Plaintext
import IdentityClient.Proofs.Provider.Posted
import IdentityClient.Proofs.Issuer.Discovery
import IdentityClient.Proofs.Issuer.Spelling
import IdentityClient.Proofs.Client.Options
import IdentityClient.Proofs.Transport.Attempt
import IdentityClient.Proofs.Simulation.Stub
