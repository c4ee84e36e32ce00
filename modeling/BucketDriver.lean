import BucketDriver.Action
import BucketDriver.Aws.Client
import BucketDriver.Aws.Reply
import BucketDriver.Aws.Request
import BucketDriver.Aws.Timestamp
import BucketDriver.Credentials
import BucketDriver.Decimal.Binary
import BucketDriver.Decimal.Shortest
import BucketDriver.Dict
import BucketDriver.Error
import BucketDriver.Http.Route
import BucketDriver.Http.Server
import BucketDriver.Http.Status
import BucketDriver.Http.Target
import BucketDriver.Json.Fault
import BucketDriver.Json.Number
import BucketDriver.Json.Reader
import BucketDriver.Json.Record
import BucketDriver.Json.Skip
import BucketDriver.Json.Token
import BucketDriver.Json.Value
import BucketDriver.Main
import BucketDriver.Memory.NewKey
import BucketDriver.Memory.Store
import BucketDriver.Options.Arguments
import BucketDriver.Options.Basic
import BucketDriver.Parameters
import BucketDriver.Policy
import BucketDriver.Proofs.Absence
import BucketDriver.Proofs.Attempt
import BucketDriver.Proofs.Dictionary
import BucketDriver.Proofs.Memory.Account
import BucketDriver.Proofs.Memory.Faults
import BucketDriver.Proofs.Provision.Keys
import BucketDriver.Provider.Call
import BucketDriver.Provider.Error
import BucketDriver.Provider.Normalize
import BucketDriver.Provider.Program
import BucketDriver.Provider.Script
import BucketDriver.Provider.Table
import BucketDriver.Provision.Access
import BucketDriver.Provision.Bucket
import BucketDriver.Secret.FileTree
import BucketDriver.Secret.Reference
import BucketDriver.Secret.Resolver
import BucketDriver.Secret.Store
import BucketDriver.Service.Dispatcher
import BucketDriver.Service.Request
import BucketDriver.Startup
import BucketDriver.Status
import BucketDriver.Text.Blank
import BucketDriver.Text.Digit
import BucketDriver.Text.Percent
import BucketDriver.Text.Quoted
import BucketDriver.Text.Replace
import BucketDriver.Text.Shape
import BucketDriver.Text.Utf8
import BucketDriver.Url.Address
import BucketDriver.Url.Direction
import BucketDriver.Url.Domain
import BucketDriver.Url.DomainTable
import BucketDriver.Url.Error
import BucketDriver.Url.Host
import BucketDriver.Url.Joining
import BucketDriver.Url.Parse
import BucketDriver.Url.Punycode
import BucketDriver.Xml.Element
import BucketDriver.Xml.Escape
import BucketDriver.Xml.Token
import BucketDriver.Proofs.Blank
import BucketDriver.Proofs.Provision.Grant
import BucketDriver.Proofs.Provision.Revoke
import BucketDriver.Proofs.Service.History
import BucketDriver.Proofs.Service.Isolation
import BucketDriver.Proofs.Service.Retention
import BucketDriver.Proofs.Provision.Retry
import BucketDriver.Proofs.Race.Basic
import BucketDriver.Proofs.Race.Grant
import BucketDriver.Proofs.Race.Revoke
import BucketDriver.Proofs.Race.Crossing
import BucketDriver.Proofs.Race.Policies
import BucketDriver.Proofs.Race.Succession
import BucketDriver.Proofs.Race.Overlap
import BucketDriver.Proofs.Provision.Bucket
import BucketDriver.Proofs.Service.Registry
import BucketDriver.Proofs.Script.Walk
import BucketDriver.Proofs.Script.Grant
import BucketDriver.Proofs.Script.Revoke
import BucketDriver.Proofs.Json.Strings
import BucketDriver.Proofs.Json.Grammar
import BucketDriver.Proofs.Json.Rendered
import BucketDriver.Proofs.Json.Records
import BucketDriver.Proofs.Http.Path
import BucketDriver.Proofs.Http.Answer
import BucketDriver.Proofs.Http.Agreement
import BucketDriver.Proofs.Http.Exchange
import BucketDriver.Proofs.Script.Discretion
import BucketDriver.Proofs.Service.Scope
import BucketDriver.Proofs.Service.Commutation
import BucketDriver.Proofs.Policy.Document
import BucketDriver.Proofs.Service.Secrecy
import BucketDriver.Proofs.Memory.KeyLedger
import BucketDriver.Proofs.Aws.Paging
import BucketDriver.Proofs.Aws.Access
import BucketDriver.Proofs.Provision.Refusal
import BucketDriver.Proofs.Service.Ownership
import BucketDriver.Proofs.Service.Decision
import BucketDriver.Proofs.Secret.Choice
import BucketDriver.Proofs.Secret.Confinement
import BucketDriver.Proofs.Parameters.Acceptance
import BucketDriver.Proofs.Parameters.Settings
import BucketDriver.Proofs.Json.Members
import BucketDriver.Proofs.Secret.Content
import BucketDriver.Proofs.Memory.Delivery
import BucketDriver.Proofs.Provider.Rules
import BucketDriver.Proofs.Provider.Messages
