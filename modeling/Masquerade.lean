import Masquerade.Attack
import Masquerade.Battle
import Masquerade.Battle.Event
import Masquerade.Battle.Fight
import Masquerade.Battle.Growth
import Masquerade.Combatant
import Masquerade.Content
import Masquerade.Content.Build
import Masquerade.Content.Draft
import Masquerade.Content.Read
import Masquerade.Content.Shape
import Masquerade.Decimal.Rounding
import Masquerade.Decimal.Shortest
import Masquerade.Decimal.Text
import Masquerade.Error
import Masquerade.Instance
import Masquerade.Inventory
import Masquerade.Json
import Masquerade.Logic.Describe
import Masquerade.Logic.Effect
import Masquerade.Logic.Forest
import Masquerade.Logic.Gate
import Masquerade.Logic.Moment
import Masquerade.Logic.Walk
import Masquerade.Main
import Masquerade.Mana
import Masquerade.Mask
import Masquerade.Material
import Masquerade.Pipeline
import Masquerade.Prompt
import Masquerade.Proofs.Battle.Blow
import Masquerade.Proofs.Battle.Chronicle
import Masquerade.Proofs.Battle.Course
import Masquerade.Proofs.Battle.Domains
import Masquerade.Proofs.Battle.Exchange
import Masquerade.Proofs.Battle.Fallen
import Masquerade.Proofs.Battle.Gauges
import Masquerade.Proofs.Battle.HitPoints
import Masquerade.Proofs.Battle.Hits
import Masquerade.Proofs.Battle.Isolation
import Masquerade.Proofs.Battle.Kept
import Masquerade.Proofs.Battle.Lifecycle
import Masquerade.Proofs.Battle.Mirror
import Masquerade.Proofs.Battle.Moments
import Masquerade.Proofs.Battle.Outcome
import Masquerade.Proofs.Battle.Pauses
import Masquerade.Proofs.Battle.Restart
import Masquerade.Proofs.Battle.Rolls
import Masquerade.Proofs.Combatant.Domain
import Masquerade.Proofs.Combatant.Entry
import Masquerade.Proofs.Combatant.Overflow
import Masquerade.Proofs.Content.Authored
import Masquerade.Proofs.Content.Drafts
import Masquerade.Proofs.Content.Inverted
import Masquerade.Proofs.Logic.Additions
import Masquerade.Proofs.Logic.Building
import Masquerade.Proofs.Logic.Cadence
import Masquerade.Proofs.Logic.Complement
import Masquerade.Proofs.Logic.Counting
import Masquerade.Proofs.Logic.Deltas
import Masquerade.Proofs.Logic.Described
import Masquerade.Proofs.Logic.Frame
import Masquerade.Proofs.Logic.Lists
import Masquerade.Proofs.Logic.Planted
import Masquerade.Proofs.Logic.Pruned
import Masquerade.Proofs.Logic.ReferenceWalk
import Masquerade.Proofs.Logic.Refused
import Masquerade.Proofs.Logic.Reset
import Masquerade.Proofs.Logic.Rolls
import Masquerade.Proofs.Logic.Rose
import Masquerade.Proofs.Logic.Shape
import Masquerade.Proofs.Logic.Steps
import Masquerade.Proofs.Logic.Stops
import Masquerade.Proofs.Logic.Touched
import Masquerade.Proofs.Logic.Twins
import Masquerade.Proofs.Logic.Unshared
import Masquerade.Proofs.Mask.Mana
import Masquerade.Proofs.Pipeline.Damage
import Masquerade.Proofs.Pipeline.Order
import Masquerade.Proofs.Runner.Rounds
import Masquerade.Proofs.Session.Affordable
import Masquerade.Proofs.Session.Aftermath
import Masquerade.Proofs.Session.Expiry
import Masquerade.Proofs.Session.Grounds
import Masquerade.Proofs.Session.History
import Masquerade.Proofs.Session.Ledger
import Masquerade.Proofs.Session.Operations
import Masquerade.Proofs.Session.Refight
import Masquerade.Proofs.Session.Refusal
import Masquerade.Proofs.Session.Roster
import Masquerade.Proofs.Session.Shelf
import Masquerade.Proofs.Session.TimeLimit
import Masquerade.Proofs.Single.Alike
import Masquerade.Proofs.Single.Canonical
import Masquerade.Proofs.Single.Endless
import Masquerade.Proofs.Single.Monotone
import Masquerade.Proofs.Single.Order
import Masquerade.Proofs.Single.Points
import Masquerade.Proofs.Single.Rounding
import Masquerade.Proofs.Single.Sums
import Masquerade.Proofs.Single.Whole
import Masquerade.Proofs.Stats.Scaling
import Masquerade.RandomWords.Block
import Masquerade.RandomWords.Stream
import Masquerade.Ruleset
import Masquerade.Runner.FileTree
import Masquerade.Runner.Options
import Masquerade.Runner.Play
import Masquerade.Runner.Report
import Masquerade.Runner.Run
import Masquerade.Session
import Masquerade.Side
import Masquerade.Single
import Masquerade.Stats
import Masquerade.Text.Blank
import Masquerade.Text.Faint
import Masquerade.Text.Numeral
import Masquerade.Text.Quoted
import Masquerade.Toml.Document
import Masquerade.Toml.Reader
import Masquerade.Toml.Scalar
import Masquerade.Toml.Statement
import Masquerade.Toml.Value
