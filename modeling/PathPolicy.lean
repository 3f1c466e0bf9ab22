import PathPolicy.Access
import PathPolicy.Calendar
import PathPolicy.CommandLine.Arguments
import PathPolicy.CommandLine.Invocation
import PathPolicy.CommandLine.Reply
import PathPolicy.Config
import PathPolicy.Decision.Decide
import PathPolicy.Decision.Explanation
import PathPolicy.Decision.Verdict
import PathPolicy.Document
import PathPolicy.Draft
import PathPolicy.Group
import PathPolicy.Log
import PathPolicy.Main
import PathPolicy.Number.Binary64
import PathPolicy.Number.Integer
import PathPolicy.Number.Numeral
import PathPolicy.Number.Shortest
import PathPolicy.Operation
import PathPolicy.Path
import PathPolicy.PolicyText.Parse
import PathPolicy.Principal
import PathPolicy.Proofs.CommandLine.Agreement
import PathPolicy.Proofs.CommandLine.Options
import PathPolicy.Proofs.Decision.Arrangement
import PathPolicy.Proofs.Decision.Ascent
import PathPolicy.Proofs.Decision.Edits
import PathPolicy.Proofs.Decision.Explained
import PathPolicy.Proofs.Decision.Grants
import PathPolicy.Proofs.Decision.Loosening
import PathPolicy.Proofs.Decision.Meaning
import PathPolicy.Proofs.Decision.Relevance
import PathPolicy.Proofs.Decision.SameSection
import PathPolicy.Proofs.Decision.Standing
import PathPolicy.Proofs.Decision.Subtree
import PathPolicy.Proofs.Decision.Verdicts
import PathPolicy.Proofs.Document.Names
import PathPolicy.Proofs.FirstFault
import PathPolicy.Proofs.Group.Members
import PathPolicy.Proofs.Group.Shorthand
import PathPolicy.Proofs.Operation.Needs
import PathPolicy.Proofs.Path.Ancestors
import PathPolicy.Proofs.Path.Levels
import PathPolicy.Proofs.Path.Slashes
import PathPolicy.Proofs.PolicyText.AsData
import PathPolicy.Proofs.PolicyText.Contents
import PathPolicy.Proofs.PolicyText.Folded
import PathPolicy.Proofs.PolicyText.Leaks
import PathPolicy.Proofs.PolicyText.LineKinds
import PathPolicy.Proofs.PolicyText.Merged
import PathPolicy.Proofs.PolicyText.Names
import PathPolicy.Proofs.PolicyText.ReadsBack
import PathPolicy.Proofs.PolicyText.Rejected
import PathPolicy.Proofs.PolicyText.Reported
import PathPolicy.Proofs.PolicyText.Runs
import PathPolicy.Proofs.PolicyText.Tokens
import PathPolicy.Proofs.PolicyText.Writable
import PathPolicy.Proofs.Principal.Spelling
import PathPolicy.Proofs.Service.Current
import PathPolicy.Proofs.Service.Held
import PathPolicy.Proofs.Service.Outcomes
import PathPolicy.Proofs.Service.Respelled
import PathPolicy.Proofs.Snapshot.Faults
import PathPolicy.Proofs.Snapshot.Forgets
import PathPolicy.Proofs.Snapshot.Loaded
import PathPolicy.Proofs.Snapshot.Lossless
import PathPolicy.Proofs.Snapshot.Outline
import PathPolicy.Proofs.Snapshot.Resave
import PathPolicy.Proofs.Storage.Escapes
import PathPolicy.Proofs.Storage.Saved
import PathPolicy.Proofs.Storage.TextFile
import PathPolicy.Proofs.Table.Merge
import PathPolicy.Proofs.Table.Pairs
import PathPolicy.Proofs.Text.EndedLines
import PathPolicy.Proofs.Text.Lines
import PathPolicy.Proofs.Text.Pieces
import PathPolicy.Proofs.Text.Trim
import PathPolicy.Proofs.Text.Utf8
import PathPolicy.Request
import PathPolicy.Service
import PathPolicy.Service.Session
import PathPolicy.Snapshot
import PathPolicy.Storage.FileName
import PathPolicy.Storage.FileTree
import PathPolicy.Storage.PolicyFile
import PathPolicy.Table
import PathPolicy.Text.Feed
import PathPolicy.Text.LowerCase
import PathPolicy.Text.Pieces
import PathPolicy.Text.Printable
import PathPolicy.Text.Quoted
import PathPolicy.Text.UpperCase
import PathPolicy.Text.Utf8
import PathPolicy.Value
import PathPolicy.Yaml.Datum
import PathPolicy.Yaml.Layout
import PathPolicy.Yaml.Lexeme
import PathPolicy.Yaml.Merge
import PathPolicy.Yaml.Node
import PathPolicy.Yaml.Reading
import PathPolicy.Yaml.Source
import PathPolicy.Yaml.Style
import PathPolicy.Yaml.Tag
import PathPolicy.Yaml.Timestamp
import PathPolicy.Yaml.Token
