import BundleTrust.Admission
import BundleTrust.Bundle.Basic
import BundleTrust.Bundle.Lookup
import BundleTrust.Bundle.Metadata
import BundleTrust.Bundle.Schema
import BundleTrust.CommandLine.Arguments
import BundleTrust.CommandLine.Command
import BundleTrust.CommandLine.Session
import BundleTrust.Compress.Crc32
import BundleTrust.Compress.Gzip
import BundleTrust.Compress.Inflate
import BundleTrust.Configuration
import BundleTrust.Controller.Basic
import BundleTrust.Controller.Tick
import BundleTrust.Crypto.Der
import BundleTrust.Crypto.Ecdsa
import BundleTrust.Crypto.Hmac
import BundleTrust.Crypto.Key
import BundleTrust.Crypto.Octets
import BundleTrust.Crypto.P256
import BundleTrust.Crypto.Pem
import BundleTrust.Crypto.Sha256
import BundleTrust.Document.Basic
import BundleTrust.Document.Filter
import BundleTrust.Document.Json
import BundleTrust.Document.JsonNode
import BundleTrust.Document.JsonShape
import BundleTrust.Document.Path
import BundleTrust.Document.Record
import BundleTrust.Document.Selector
import BundleTrust.Document.TextMap
import BundleTrust.Duration
import BundleTrust.Error
import BundleTrust.Lifecycle.Evaluation
import BundleTrust.Lifecycle.Reconcile
import BundleTrust.Main
import BundleTrust.Manager.Plan
import BundleTrust.Number.Binary64
import BundleTrust.Number.Layout
import BundleTrust.Number.Shortest
import BundleTrust.Registry.Artifact
import BundleTrust.Registry.Exchange
import BundleTrust.Registry.Host
import BundleTrust.Registry.HostCharacter
import BundleTrust.Registry.HostName
import BundleTrust.Registry.NumericHost
import BundleTrust.Registry.Pull
import BundleTrust.Registry.Punycode
import BundleTrust.Registry.Reference
import BundleTrust.Script
import BundleTrust.Signature.Digest
import BundleTrust.Signature.Error
import BundleTrust.Signature.Signing
import BundleTrust.Signature.Trust
import BundleTrust.Signature.Verification
import BundleTrust.Store.Basic
import BundleTrust.Store.Request
import BundleTrust.Store.Shelf
import BundleTrust.Text.Base64
import BundleTrust.Text.Blank
import BundleTrust.Text.Hexadecimal
import BundleTrust.Text.JsonLiteral
import BundleTrust.Text.Numeral
import BundleTrust.Text.Offset
import BundleTrust.Text.Pieces
import BundleTrust.Text.Printable
import BundleTrust.Text.Quoted
import BundleTrust.Text.Utf8
import BundleTrust.Version.BundleVersion
import BundleTrust.Version.ServerVersion
import BundleTrust.Yaml.BlockText
import BundleTrust.Yaml.Character
import BundleTrust.Yaml.Cursor
import BundleTrust.Yaml.FlowText
import BundleTrust.Yaml.Grammar
import BundleTrust.Yaml.Links
import BundleTrust.Yaml.Node
import BundleTrust.Yaml.Plain
import BundleTrust.Yaml.Shape
import BundleTrust.Yaml.Style
import BundleTrust.Yaml.Tag
import BundleTrust.Yaml.Token
import BundleTrust.Yaml.TokenStream
import BundleTrust.Yaml.Writer
import BundleTrust.Proofs.Store.Run
import BundleTrust.Proofs.Store.Versions
import BundleTrust.Proofs.Document.Pruning
import BundleTrust.Proofs.Document.Deletion
import BundleTrust.Proofs.Signature.CoveredView
import BundleTrust.Proofs.Document.PrefixCode
import BundleTrust.Proofs.Signature.TamperEvidence
import BundleTrust.Proofs.Signature.ExcludesProtection
import BundleTrust.Proofs.Text.Base64
import BundleTrust.Proofs.Crypto.Der
import BundleTrust.Proofs.Yaml.Lines
import BundleTrust.Proofs.Signature.Export
import BundleTrust.Proofs.Signature.Annotations
import BundleTrust.Proofs.Signature.SignThenVerify
import BundleTrust.Proofs.Signature.EqualViews
import BundleTrust.Proofs.Signature.SigningRuns
import BundleTrust.Proofs.Number.Rounding
import BundleTrust.Proofs.Document.JsonReading
import BundleTrust.Proofs.Document.Reading
import BundleTrust.Proofs.Manager.Execution
import BundleTrust.Proofs.Store.Writeback
import BundleTrust.Proofs.Controller.TickParts
import BundleTrust.Proofs.Controller.TickOutcome
import BundleTrust.Proofs.Controller.FirstBundle
import BundleTrust.Proofs.Manager.Conduct
import BundleTrust.Proofs.Controller.CarefulTicks
import BundleTrust.Proofs.Controller.OperatorChoice
import BundleTrust.Proofs.Controller.Convergence
import BundleTrust.Proofs.Manager.Requests
import BundleTrust.Proofs.Controller.TickRequests
import BundleTrust.Proofs.Controller.Adoption
import BundleTrust.Proofs.Bundle.Manifest
import BundleTrust.Proofs.Lifecycle.AdmissionAgreement
import BundleTrust.Proofs.Controller.Registration
import BundleTrust.Proofs.Store.Contents
import BundleTrust.Proofs.Controller.Resolution
import BundleTrust.Proofs.Lifecycle.States
import BundleTrust.Proofs.Lifecycle.Reconciliation
import BundleTrust.Proofs.Document.Relocation
import BundleTrust.Proofs.Registry.PulledContent
import BundleTrust.Proofs.Controller.Additions
import BundleTrust.Proofs.Bundle.RoundTrip
import BundleTrust.Proofs.Bundle.Signing
import BundleTrust.Proofs.Text.Utf8
import BundleTrust.Proofs.Text.JsonLiteral
import BundleTrust.Proofs.Text.Offset
import BundleTrust.Proofs.Document.SelectorGrammar
import BundleTrust.Proofs.Document.SelectorReading
import BundleTrust.Proofs.Signature.ExcludesRoundTrip
import BundleTrust.Proofs.Signature.SettingAnnotations
import BundleTrust.Proofs.Lifecycle.Computation
import BundleTrust.Proofs.Manager.Keeping
import BundleTrust.Proofs.Lifecycle.FailedCalls
import BundleTrust.Proofs.Controller.HeldDocument
import BundleTrust.Proofs.Controller.UpgradeNotice
import BundleTrust.Proofs.Registry.References
import BundleTrust.Proofs.Registry.Retries
import BundleTrust.Proofs.CommandLine.VerifyStatus
import BundleTrust.Proofs.Text.Numeral
import BundleTrust.Proofs.Version.Names
import BundleTrust.Proofs.Version.NewestFirst
import BundleTrust.Proofs.Version.Acceptance
import BundleTrust.Proofs.Store.Views
import BundleTrust.Proofs.Duration.RoundTrip
import BundleTrust.Proofs.Controller.RoundTrip
