import RegistryAuth.Command.Run
import RegistryAuth.Config.Document
import RegistryAuth.Files.Tree
import RegistryAuth.Json.Printer
import RegistryAuth.Main
import RegistryAuth.Proofs.Challenge.Written
import RegistryAuth.Proofs.Client.Confinement
import RegistryAuth.Proofs.Credential.Authorization
import RegistryAuth.Proofs.Transport.Secrecy
import RegistryAuth.Proofs.Transport.TokenCache
import RegistryAuth.Proofs.Transport.Trace
import RegistryAuth.Proofs.Transport.TokenRequest
import RegistryAuth.Proofs.Transport.Progress
import RegistryAuth.Proofs.Address.Host
import RegistryAuth.Proofs.Address.Spelling
import RegistryAuth.Proofs.Url.Authority
import RegistryAuth.Proofs.Registry.Agreement
import RegistryAuth.Proofs.Files.Reading
import RegistryAuth.Proofs.Tls.Context
import RegistryAuth.Proofs.Composition.Choice
import RegistryAuth.Proofs.Credential.Precedence
import RegistryAuth.Proofs.Composition.Confinement
import RegistryAuth.Proofs.Composition.Verification
import RegistryAuth.Proofs.Text.Utf8
import RegistryAuth.Proofs.Json.Written
import RegistryAuth.Proofs.Config.Stored
import RegistryAuth.Proofs.Unicode.CellWidth
import RegistryAuth.Proofs.Console.Cells
import RegistryAuth.Proofs.Console.Wrap
import RegistryAuth.Proofs.Console.Style
import RegistryAuth.Proofs.Console.Markup
import RegistryAuth.Proofs.Console.Columns
import RegistryAuth.Proofs.Console.Table
import RegistryAuth.Proofs.Console.Panel
import RegistryAuth.Proofs.Report.Shown
import RegistryAuth.Proofs.Command.Display
import RegistryAuth.Proofs.Command.Ping
import RegistryAuth.Proofs.Credential.Redaction
import RegistryAuth.Proofs.Credential.Discretion
import RegistryAuth.Proofs.Command.Discretion
import RegistryAuth.Proofs.Number.Length
import RegistryAuth.Proofs.Yaml.Token
import RegistryAuth.Proofs.Yaml.Tokens
import RegistryAuth.Proofs.Yaml.Reading
import RegistryAuth.Proofs.Yaml.Making
import RegistryAuth.Proofs.Yaml.Merging
import RegistryAuth.Proofs.Yaml.Plain
import RegistryAuth.Proofs.Yaml.Front
import RegistryAuth.Proofs.Config.Confinement
import RegistryAuth.Proofs.Url.Form
import RegistryAuth.Proofs.Unicode.Runs
import RegistryAuth.Proofs.Unicode.LowerCase
import RegistryAuth.Proofs.Url.Hostname
import RegistryAuth.Proofs.Transport.TokenFields
import RegistryAuth.Proofs.Transport.Failure
import RegistryAuth.Proofs.Transport.Release
import RegistryAuth.Proofs.Transport.Endpoint
import RegistryAuth.Proofs.Challenge.Listed
import RegistryAuth.Proofs.Text.Base64
import RegistryAuth.Proofs.Challenge.Parts
import RegistryAuth.Proofs.Credential.Combined
import RegistryAuth.Proofs.Transport.Realm
import RegistryAuth.Proofs.Credential.Decoding
import RegistryAuth.Proofs.Tls.Plan
import RegistryAuth.Proofs.Config.Places
import RegistryAuth.Proofs.Config.Checking
import RegistryAuth.Proofs.Json.Strings
import RegistryAuth.Proofs.Json.Scalars
import RegistryAuth.Proofs.Json.Grammar
import RegistryAuth.Proofs.Json.LongNumber
import RegistryAuth.Proofs.Credential.Protocol
import RegistryAuth.Proofs.Url.Punycode
import RegistryAuth.Proofs.Unicode.Lowered
import RegistryAuth.Proofs.Url.Script
import RegistryAuth.Proofs.Registry.Script
