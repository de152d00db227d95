import LlfcChat.Chat.LoginFirst
import LlfcChat.Chat.NoThrow
import LlfcChat.Chat.ReadBounds
import LlfcChat.Chat.Sync
import LlfcChat.Chat.UserCache
import LlfcChat.Gate.MysqlDao
import LlfcChat.Resource.InstantProof
import LlfcChat.Resource.OneReply
import LlfcChat.Resource.Publication
import LlfcChat.Resource.SendBudget
import LlfcChat.Client.ChatSyncManager
import LlfcChat.Client.FileTcpConnection
import LlfcChat.Client.History
import LlfcChat.Client.LocalInvariant
import LlfcChat.Client.LocalRecovery
import LlfcChat.Client.OutboxLookups
import LlfcChat.Client.Rejected
import LlfcChat.Client.SendText
import LlfcChat.Client.TcpMgr
import LlfcChat.Client.Transfer.Fair
import LlfcChat.Client.Transfer.Malformed
import LlfcChat.Gate.HttpConnection
