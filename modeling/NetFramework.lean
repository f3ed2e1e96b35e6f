import NetFramework.Lib.LittleEndian
import NetFramework.Lib.Framing
import NetFramework.Lib.Machine
import NetFramework.Lib.LinkedChain
import NetFramework.Lib.Prog
import NetFramework.Lib.UnorderedMap
import NetFramework.Lib.Broadcast
import NetFramework.Lib.Exclusive
import NetFramework.Lib.Pool
import NetFramework.Lib.Journal
import NetFramework.Connection.NetworkByteBuffer
import NetFramework.Connection.Stream
import NetFramework.Connection.Receive
import NetFramework.Connection.ReceiveSound
import NetFramework.Connection.Send
import NetFramework.Connection.SendSound
import NetFramework.Connection.MPSCQueue
import NetFramework.Connection.MPSCQueueSound
import NetFramework.BaseServer.OutgoingMessage
import NetFramework.BaseServer.RoundTrip
import NetFramework.GameServer.FloatArith
import NetFramework.GameServer.Player
import NetFramework.GameServer.ServerMessage
import NetFramework.GameServer.SessionHook
import NetFramework.GameServer.IMatchSession
import NetFramework.GameServer.World
import NetFramework.GameServer.Match
import NetFramework.GameServer.NPCAI
import NetFramework.GameServer.Session
import NetFramework.GameServer.Dispatch
import NetFramework.GameServer.MatchUpdate
import NetFramework.GameServer.Game
import NetFramework.GameServer.GameMachine
import NetFramework.GameServer.Digest
import NetFramework.GameServer.Quiet
import NetFramework.GameServer.Announce
import NetFramework.GameServer.MatchStep
import NetFramework.GameServer.MatchPaths
import NetFramework.GameServer.AttackPaths
import NetFramework.GameServer.SessionPaths
import NetFramework.GameServer.GameStep
import NetFramework.GameServer.GamePaths
import NetFramework.GameServer.Ownership
import NetFramework.GameServer.Replica
import NetFramework.GameServer.Teardown
import NetFramework.GameServer.MessageSize
import NetFramework.GameServer.PlayerRow
import NetFramework.GameServer.Totality
import NetFramework.GameServer.Login
import NetFramework.GameServer.Areas
import NetFramework.GameServer.Protection
import NetFramework.Connection.NetworkThread
import NetFramework.BaseServer.Acceptor
import NetFramework.Database.DatabaseWorker
import NetFramework.Database.WorkPlaces
import NetFramework.Database.Shutdown
import NetFramework.GameServer.ExactSize
import NetFramework.GameServer.Combat
import NetFramework.GameServer.CombatStep
import NetFramework.GameServer.CombatPaths
import NetFramework.GameServer.StartAttack
import NetFramework.GameServer.MindPaths
import NetFramework.GameServer.CombatTurns
import NetFramework.GameServer.CombatRuns
import NetFramework.GameServer.MindSafety
import NetFramework.GameServer.AttackErasure
import NetFramework.GameServer.Engagement
import NetFramework.GameServer.StaleAttacks
import NetFramework.GameServer.Spawns
import NetFramework.GameServer.Collections
import NetFramework.GameServer.Withholds
import NetFramework.GameServer.Saves
import NetFramework.GameServer.AccountsDatabase
import NetFramework.GameServer.GameSaves
import NetFramework.GameServer.Server
import NetFramework.GameServer.Relogin
import NetFramework.Lib.Countdown
import NetFramework.Lib.Fairness
import NetFramework.Lib.Rollback
import NetFramework.Database.Serving
import NetFramework.Database.Open
import NetFramework.Database.OpenAlike
import NetFramework.Database.AllOrNothing
import NetFramework.GameServer.Damage
import NetFramework.GameServer.Respawn
import NetFramework.GameServer.ExactReal
import NetFramework.GameServer.EntityMotion
import NetFramework.GameServer.Sent
import NetFramework.GameServer.Movement
import NetFramework.GameServer.Regeneration
import NetFramework.GameServer.Continuity
import NetFramework.GameServer.ExactArith
import NetFramework.GameServer.HitRate
import NetFramework.GameServer.CollectionTurns
import NetFramework.GameServer.CollectionResults
import NetFramework.GameServer.CollectionTime
import NetFramework.GameServer.SessionBuilder
import NetFramework.Lib.Conversation
import NetFramework.GameServer.LoginProtocol
import NetFramework.GameServer.HandlerFaults
import NetFramework.GameServer.ClientStream
import NetFramework.GameServer.MainLoop
import NetFramework.GameServer.DamageReport
import NetFramework.GameServer.Observers
import NetFramework.Lib.Layout
import NetFramework.Connection.TypedStream
import NetFramework.Connection.ReceiveBounds
import NetFramework.Connector.ConnectionManager
import NetFramework.BaseServer.Accepting
import NetFramework.Connection.ReadLoop
import NetFramework.Lib.Visits
import NetFramework.GameServer.AreaTracking
import NetFramework.GameServer.AreaRuns
import NetFramework.Connection.Link
import NetFramework.Connection.LinkSound
import NetFramework.Connection.LinkLive
import NetFramework.Connector.Manager
import NetFramework.Connector.Handles
import NetFramework.Lib.Join
import NetFramework.GameServer.WorldDatabase
import NetFramework.GameServer.Loading
import NetFramework.GameServer.Phases
import NetFramework.GameServer.Presence
import NetFramework.GameServer.Jumps
import NetFramework.GameServer.Journeys
import NetFramework.GameServer.SpeedLimit
import NetFramework.GameServer.Provisions
import NetFramework.GameServer.UpdateSafety
import NetFramework.GameServer.GameSafety
