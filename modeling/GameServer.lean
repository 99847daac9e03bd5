import GameServer.Bot.Swarm
import GameServer.Server.RoomFormation
import GameServer.Server.ConcurrentLogins
import GameServer.Login.AccountNames
import GameServer.Server.PresenceAgreement
import GameServer.Game.UniqueWinner
import GameServer.Game.Batching
import GameServer.Game.Coordinates
import GameServer.Net.CodecInverse
import GameServer.Protocol.EndToEnd
import GameServer.Match.QueueRefinement
import GameServer.Server.OrphanBattle
import GameServer.Server.SettlementRetry
import GameServer.Server.ConcurrentMatching
import GameServer.Server.ActingForOneself
import GameServer.Server.ExclusivePlacement
import GameServer.Room.OneLockStart
import GameServer.Server.Durability
import GameServer.Server.NewsOrder
import GameServer.Server.Heartbeats
import GameServer.Server.OneSession
import GameServer.Server.RoomsOnline
import GameServer.Server.ConcurrentLeavers
import GameServer.Server.EndedGames
import GameServer.Server.RoomMap
import GameServer.Server.TickCallback
import GameServer.Server.Restore
import GameServer.Rank.ResponseSize
import GameServer.Storage.Admission
import GameServer.Storage.AllOrNothing
import GameServer.Storage.Autocommit
import GameServer.Storage.Deadlock
import GameServer.Storage.LoadPlayer
import GameServer.Config.LineEndings
import GameServer.Storage.Replays
import GameServer.Storage.Results
import GameServer.Storage.Sessions
import GameServer.Storage.Settlement
