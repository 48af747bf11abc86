import RelicRace.Library.Grid
import RelicRace.Library.Loops
import RelicRace.Library.Exploration
import RelicRace.Library.BreadthFirst
import RelicRace.Library.Json
import RelicRace.Library.Runs
import RelicRace.Library.Duplex
import RelicRace.Library.Forest
import RelicRace.Library.Waypoints
import RelicRace.Library.Patrol
import RelicRace.Library.SceneTree
import RelicRace.Library.Throttle
import RelicRace.Library.TopList
import RelicRace.Maze.Basic
import RelicRace.Maze.Passages
import RelicRace.Maze.Carve
import RelicRace.Maze.CarveSearch
import RelicRace.Maze.OpenUp
import RelicRace.Maze.Openings
import RelicRace.Maze.WellFormed
import RelicRace.Maze.PerfectMaze
import RelicRace.Maze.DeadEnds
import RelicRace.Maze.Sizes
import RelicRace.Tiles.TileManager
import RelicRace.Tiles.Placed
import RelicRace.Tiles.Corridors
import RelicRace.Tiles.OnScreen
import RelicRace.Monster.Basic
import RelicRace.Monster.Routes
import RelicRace.Monster.FirstSteps
import RelicRace.Monster.ClosedWalks
import RelicRace.Transfer.GameEncodingBuffer
import RelicRace.Transfer.Decoding
import RelicRace.Transfer.Rebuilt
import RelicRace.Transfer.MapTransfer
import RelicRace.Transfer.StoredPaths
import RelicRace.Trophy.Circle
import RelicRace.Trophy.Distances
import RelicRace.Trophy.Placement
import RelicRace.Trophy.FirstPlacement
import RelicRace.Trophy.FairPlacement
import RelicRace.Trophy.Fallback
import RelicRace.Account.Document
import RelicRace.Game.Scene
import RelicRace.Game.AIScene
import RelicRace.Game.Rounds
import RelicRace.Game.Placements
import RelicRace.Game.Clock
import RelicRace.Game.Pursuit
import RelicRace.Game.Menus
import RelicRace.Game.Settings
import RelicRace.Game.Sounds
import RelicRace.Game.Joystick
import RelicRace.Account.GameEvents
import RelicRace.Account.Store
import RelicRace.Account.Purchases
import RelicRace.Account.World
import RelicRace.Account.Profile
import RelicRace.Account.Ledger
import RelicRace.Account.Leaderboard
import RelicRace.PvP.Device
import RelicRace.PvP.Packets
import RelicRace.PvP.Received
import RelicRace.Game.Display
import RelicRace.PvP.TrophyAgreement
import RelicRace.PvP.Outcome
import RelicRace.PvP.Scores
import RelicRace.PvP.Setup
import RelicRace.PvP.SharedWorld
import RelicRace.PvP.MapDeparture
import RelicRace.PvP.MapArrival
import RelicRace.PvP.Position
import RelicRace.Game.Screen
import RelicRace.Game.Sight
import RelicRace.Game.Layout
import RelicRace.Game.Preferences
import RelicRace.Game.Walking
import RelicRace.PvP.Tracking
import RelicRace.Game.Arrival
import RelicRace.Monster.Starts
import RelicRace.Game.MiniMap
import RelicRace.Maze.BoxedIn
import RelicRace.Trophy.PathPlacement
import RelicRace.Trophy.LineCircle
import RelicRace.Game.RecordedTimes
import RelicRace.Account.LeaderboardTable
import RelicRace.Monster.Patrols
import RelicRace.Game.TimerLabel
import RelicRace.Maze.DepthFirstMaze
import RelicRace.Transfer.Playable
import RelicRace.Trophy.Neighbours
import RelicRace.Trophy.Computed
