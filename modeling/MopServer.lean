import MopServer.Auctions.AuctionRows
import MopServer.Auctions.AuctionPosting
import MopServer.Auctions.BidRules
import MopServer.Battlegrounds.QueueMatches
import MopServer.Battlegrounds.QueueRatings
import MopServer.Combat.ReferenceLists
import MopServer.BlackMarket.Bids
import MopServer.BlackMarket.Stock
import MopServer.Chat.Ownership
import MopServer.Conditions.Loading
import MopServer.Conditions.MaskSoundness
import MopServer.Groups.MemberFlags
import MopServer.Groups.Looter
import MopServer.Groups.RollLookup
import MopServer.Groups.RollResolution
import MopServer.Guilds.BankItemConservation
import MopServer.Guilds.Hierarchy
import MopServer.Guilds.LogHolder
import MopServer.Guilds.RankRemoval
import MopServer.Guilds.RankRights
import MopServer.Guilds.Validation
import MopServer.Instances.BindSymmetry
import MopServer.Instances.IdBounds
import MopServer.Instances.GlobalResets
import MopServer.Instances.ScheduledResets
import MopServer.Instances.StartupResets
import MopServer.Items.Buyback
import MopServer.Items.Packing
import MopServer.Loots.Permissions
import MopServer.Loots.QuestDrops
import MopServer.Loots.DropLimits
import MopServer.Mails.Attachments
import MopServer.Mails.MoneyConservation
import MopServer.Packets.BitFields
import MopServer.Packets.Patching
import MopServer.Reputations.Restoring
import MopServer.Sessions.DisconnectGrace
import MopServer.Updates.PackedFields
import MopServer.Updates.DynamicReplication
import MopServer.BattlePets.Declines
import MopServer.BattlePets.JournalLimits
import MopServer.BattlePets.RequestSafety
import MopServer.BattlePets.Auras
import MopServer.Calendar.Integrity
import MopServer.Calendar.Permissions
import MopServer.DungeonFinder.Proposals
import MopServer.DungeonFinder.GroupSearch
import MopServer.DungeonFinder.RestingStates
import MopServer.DungeonFinder.RoleAssignment
import MopServer.Pools.CircularReferences
import MopServer.Pools.QuestPools
import MopServer.Utilities.TimeString
import MopServer.Utilities.WideString
import MopServer.Updates.FieldStrings
import MopServer.Packets.GuidCodecs
import MopServer.Combat.VictimSwitch
import MopServer.Utilities.EventDelivery
import MopServer.DungeonFinder.QueueCounters
import MopServer.DataStores.StoreLayout
