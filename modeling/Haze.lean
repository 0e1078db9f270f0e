import Haze.Basic.Runs
import Haze.Basic.Ledger
import Haze.Basic.Log
import Haze.Basic.Roster
import Haze.Basic.Flags
import Haze.Basic.Slots
import Haze.Basic.Registry
import Haze.Basic.Numbered
import Haze.Basic.Rewriting
import Haze.Basic.Writes
import Haze.Basic.FileTree
import Haze.Basic.Mirror
import Haze.Telepathy.GroupMixin
import Haze.Libpurple.Memberships
import Haze.ContactList.Model
import Haze.ContactList.Queries
import Haze.ContactList.Buddies
import Haze.ContactList.Groups
import Haze.ContactList.Publish
import Haze.ContactList.Removal
import Haze.ContactList.Events
import Haze.ContactList.Announced
import Haze.ContactList.AnnouncedGroups
import Haze.ContactList.PublishState
import Haze.ContactList.References
import Haze.ContactList.Accounts
import Haze.ContactList.Subscription
import Haze.ContactList.ContactGroups
import Haze.ContactList.RemoveGroup
import Haze.ContactList.GroupNames
import Haze.ContactList.Blocking
import Haze.Connection.Model
import Haze.Connection.Shutdown
import Haze.Connection.Password
import Haze.Connection.Aliasing
import Haze.Connection.Avatars
import Haze.Connection.Mail
import Haze.Connection.Presence
import Haze.Connection.Aliases
import Haze.Connection.AvatarUpdates
import Haze.Connection.PresenceUpdates
import Haze.ImChannel.Model
import Haze.ImChannel.Changes
import Haze.ImChannel.LifeCycle
import Haze.ImChannel.Disconnected
import Haze.ImChannel.Sending
import Haze.ImChannel.Typing
import Haze.ImChannel.Conversation
import Haze.ImChannel.ChatStates
import Haze.Media.Model
import Haze.Media.Requests
import Haze.Media.Slots
import Haze.Media.Answers
import Haze.Media.BackendStreams
import Haze.Media.Backend
import Haze.Media.Streams
import Haze.Media.Manager
import Haze.Media.Replies
import Haze.Media.Callbacks
import Haze.Media.Kept
import Haze.Media.Ensure
import Haze.Media.Contents
import Haze.Media.StreamHandler
import Haze.Media.StreamCaches
import Haze.Media.RemoveStreams
import Haze.Media.Closing
import Haze.Media.ChannelEnd
import Haze.Media.ManagerEnds
import Haze.Media.ClosedOnce
import Haze.Media.Group
import Haze.Media.Membership
import Haze.Media.PhoneCall
import Haze.Media.SessionHandler
import Haze.Media.Candidates
import Haze.Media.Directions
import Haze.Media.Codecs
import Haze.Capabilities.Model
import Haze.Capabilities.Clients
import Haze.Capabilities.Changed
import Haze.Capabilities.Process
import Haze.Protocol.Model
import Haze.Protocol.Names
import Haze.Protocol.Tables
import Haze.Protocol.Connections
import Haze.Protocol.Parameters
import Haze.Protocol.Defaults
import Haze.Protocol.Omitted
import Haze.Protocol.Plugins
import Haze.Protocol.Process
import Haze.Util
