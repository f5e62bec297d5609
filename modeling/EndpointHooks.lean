import EndpointHooks.Config.File
import EndpointHooks.Generation
import EndpointHooks.Log.Filter
import EndpointHooks.Proofs.Endpoint.Documents
import EndpointHooks.Proofs.Endpoint.Entries
import EndpointHooks.Proofs.Json.Brackets
import EndpointHooks.Proofs.Json.Compact
import EndpointHooks.Proofs.Json.Grammar
import EndpointHooks.Proofs.Json.Tokens
import EndpointHooks.Proofs.Json.Values
import EndpointHooks.Proofs.Json.Writing
import EndpointHooks.Proofs.Text.Braces
import EndpointHooks.Proofs.Text.Lines
import EndpointHooks.Proofs.Text.Stripped
import EndpointHooks.Proofs.Toml.Integers
import EndpointHooks.Proofs.Toml.Lines
import EndpointHooks.Proofs.TypeScript.BraceLevels
import EndpointHooks.Proofs.TypeScript.Composition
import EndpointHooks.Proofs.TypeScript.DottedNames
import EndpointHooks.Proofs.TypeScript.Indentation
import EndpointHooks.Proofs.TypeScript.LineStarts
import EndpointHooks.Proofs.TypeScript.Literals
import EndpointHooks.Proofs.TypeScript.Node
import EndpointHooks.Proofs.TypeScript.Reader
import EndpointHooks.Proofs.TypeScript.ReaderLemmas
import EndpointHooks.Proofs.TypeScript.UniqueReading
import EndpointHooks.Proofs.Unicode.CodeSet
import EndpointHooks.Proofs.Unicode.IdentifierClasses
import EndpointHooks.Proofs.Acceptance
import EndpointHooks.Proofs.AcceptedNames
import EndpointHooks.Proofs.CacheKeys
import EndpointHooks.Proofs.Concatenation
import EndpointHooks.Proofs.DeclaredNames
import EndpointHooks.Proofs.DerivedNames
import EndpointHooks.Proofs.FreeNames
import EndpointHooks.Proofs.IndentChoice
import EndpointHooks.Proofs.IndentLimit
import EndpointHooks.Proofs.Rearrangement
import EndpointHooks.Proofs.Recovery
import EndpointHooks.Proofs.Reports
import EndpointHooks.Proofs.Template
import EndpointHooks.Proofs.TypeScopes
import EndpointHooks.Proofs.WrittenSettings
