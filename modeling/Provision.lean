import Provision.Bag.Basic
import Provision.Bag.Line
import Provision.Bag.Section
import Provision.Bag.Typed
import Provision.Cache.Basic
import Provision.Cache.Config
import Provision.Cache.Entry
import Provision.Cache.Memory
import Provision.Cache.Null
import Provision.Cache.Typed
import Provision.Catalog
import Provision.Configuration
import Provision.Descriptor
import Provision.Factory
import Provision.Float64.Basic
import Provision.Float64.Shortest
import Provision.Json.Decode
import Provision.Json.Reader
import Provision.Json.Term
import Provision.Json.Value
import Provision.Json.Writer
import Provision.Keyed
import Provision.Lock.Basic
import Provision.Lock.Config
import Provision.Lock.Memory
import Provision.Lock.Null
import Provision.Lock.Retry
import Provision.Lock.Scripted
import Provision.Lock.Timer
import Provision.Params.Basic
import Provision.Params.Connection
import Provision.Params.Credential
import Provision.Provider.Basic
import Provision.Provider.Exchange
import Provision.Provider.Memory
import Provision.References
import Provision.Resolver
import Provision.Settings
import Provision.Text.Blank
import Provision.Text.Cut
import Provision.Text.Graphic
import Provision.Text.Hex
import Provision.Text.Numeral
import Provision.Text.Quoted
import Provision.Text.Rest
import Provision.Text.Symbol
import Provision.Time.Basic
import Provision.Time.Span
import Provision.Toml.Datetime
import Provision.Toml.Document
import Provision.Toml.Reader
import Provision.Toml.Scalar
import Provision.Toml.Value
import Provision.Word
import Provision.Proofs.Cache.Entries
import Provision.Proofs.Cache.History
import Provision.Proofs.Cache.Eager
import Provision.Proofs.Cache.LazyExpiry
import Provision.Proofs.Lock.History
import Provision.Proofs.Lock.Exclusion
import Provision.Proofs.Provider.Turns
import Provision.Proofs.Resolver.Questions
import Provision.Proofs.Resolver.Resolve
import Provision.Proofs.Resolver.ResolveAll
import Provision.Proofs.Cache.Calls
import Provision.Proofs.Cache.Capacity
import Provision.Proofs.Cache.ReadBack
import Provision.Proofs.Cache.Uncapped
import Provision.Proofs.Lock.Polling
import Provision.Proofs.Lock.Waiting
import Provision.Proofs.Bag.Line
import Provision.Proofs.Resolver.Consistency
import Provision.Proofs.Resolver.Registration
import Provision.Proofs.Lock.Clocks
import Provision.Proofs.Bag.Pairs
import Provision.Proofs.Text.Numeral
import Provision.Proofs.Bag.Section
import Provision.Proofs.Bag.Numbered
import Provision.Proofs.Configuration.Walk
import Provision.Proofs.Params.FromConfig
import Provision.Proofs.Configuration.Formats
import Provision.Proofs.Lock.Schedule
import Provision.Proofs.Provider.Content
import Provision.Proofs.Cache.Loss
import Provision.Proofs.Resolver.Register
import Provision.Proofs.Params.Sections
import Provision.Proofs.Configuration.Leaves
import Provision.Proofs.Bag.Override
import Provision.Proofs.Text.Bytes
import Provision.Proofs.Bag.Decomposition
import Provision.Proofs.Bag.Tokens
import Provision.Proofs.References.Matching
import Provision.Proofs.References.History
import Provision.Proofs.Factory.Selection
import Provision.Proofs.Factory.History
import Provision.Proofs.Descriptor.Widening
import Provision.Proofs.Descriptor.Format
import Provision.Proofs.Cache.Failures
import Provision.Proofs.Lock.Termination
import Provision.Proofs.Text.Quoted
import Provision.Proofs.Params.Disclosure
