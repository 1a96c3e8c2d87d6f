import Exolon.Lib.Run
import Exolon.Lib.Ring
import Exolon.Lib.Text
import Exolon.Lib.Json
import Exolon.Lib.Journal
import Exolon.EventLog.Vocabulary
import Exolon.EventLog.Event
import Exolon.EventLog.Format
import Exolon.EventLog.Writer
import Exolon.EventLog.Log
import Exolon.EventLog.Effects
import Exolon.EventLog.Conserve
import Exolon.EventLog.Flush
import Exolon.EventLog.Stream
import Exolon.EventLog.Lines
import Exolon.EventLog.Lanes
import Exolon.EventLog.Sink
import Exolon.EventLog.RoundTrip
import Exolon.Scene.Driver
import Exolon.Scene.Clock
import Exolon.Scene.Ledger
import Exolon.Scene.Scene
import Exolon.Scene.Step
import Exolon.Scene.Books
import Exolon.Scene.Playthrough
import Exolon.Scene.GameOver
import Exolon.Port.Game
import Exolon.Failover.Coordinator
import Exolon.Failover.Once
import Exolon.Lib.Canonical
import Exolon.Factory.Values
import Exolon.Lib.Chain
import Exolon.Factory.Audit
import Exolon.EventLog.View
import Exolon.Factory.Pricing
import Exolon.Lib.Feed
import Exolon.Factory.Protocol
import Exolon.Factory.EventStream
import Exolon.Factory.Escapes
import Exolon.Landing.Sse
import Exolon.Landing.Answer
import Exolon.Factory.Autonomy
import Exolon.Landing.Jobs
import Exolon.Landing.Finish
import Exolon.Landing.Agree
import Exolon.Landing.Restart
import Exolon.Lib.Spend
import Exolon.Zone.Zone
import Exolon.Zone.Paid
import Exolon.Lib.Record
import Exolon.Semantic.Contracts
import Exolon.Semantic.Binding
import Exolon.Input.Sources
import Exolon.Lib.Tiling
import Exolon.CoreGraphics
import Exolon.Tmx.Terrain
import Exolon.Lib.Sweep
import Exolon.Tmx.Beams
import Exolon.GameConstants
import Exolon.Lib.Optimum
import Exolon.Lib.Runs
import Exolon.Tmx.Map
import Exolon.Tmx.Surface
import Exolon.Tmx.Collision
import Exolon.Tmx.LayerData
import Exolon.Tmx.Loader
import Exolon.Tmx.Document
import Exolon.Tmx.Reading
import Exolon.Player.Player
import Exolon.Player.Latch
import Exolon.Scene.GameScene
import Exolon.Scene.Resume
import Exolon.Player.Walls
import Exolon.Input.Edges
import Exolon.Scene.Bravery
import Exolon.EventLog.Generations
import Exolon.Port.InputManager
import Exolon.Port.Player
import Exolon.Port.Entities
import Exolon.Store.Lease
import Exolon.Factory.Contracts
import Exolon.Lib.Rank
import Exolon.Factory.Promotion
import Exolon.Factory.Shadow
import Exolon.Store.Fate
import Exolon.Store.Commands
import Exolon.Store.Calls
import Exolon.Store.Changes
import Exolon.Store.Moves
import Exolon.Store.Queue
import Exolon.Broker.Broker
import Exolon.Broker.Keys
import Exolon.Broker.Terminal
import Exolon.Semantic.Adjudication
import Exolon.Semantic.Repair
import Exolon.Recovery.Reconcile
import Exolon.Recovery.Round
import Exolon.Landing.Pixels
import Exolon.Landing.Isolation
import Exolon.Lib.Floors
import Exolon.Factory.Splitting
import Exolon.Factory.Identity
import Exolon.Lib.Regex
import Exolon.Guard.Unnoticed
import Exolon.Lib.Numbered
import Exolon.Lib.Pages
import Exolon.Store.Accounts
import Exolon.Store.Fencing
import Exolon.Store.Sweep
import Exolon.Store.Generations
import Exolon.Store.History
import Exolon.Store.Keys
import Exolon.Execution.Finalize
