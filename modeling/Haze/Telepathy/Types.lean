import Mathlib.Data.Finset.Basic
import Mathlib.Data.Finset.Image
import Mathlib.Data.Finset.Lattice.Basic
import Mathlib.Logic.Function.Basic

set_option autoImplicit false

/-! # The telepathy-glib types Haze uses

Enumerations, errors, and `TpBaseContactList`, the record of what has been announced on the
bus about the contact list. -/

namespace Haze

/-- `TpConnectionStatus`, with `TP_INTERNAL_CONNECTION_STATUS_NEW`. -/
inductive TpConnectionStatus where
  | new
  | connecting
  | connected
  | disconnected
  deriving DecidableEq

/-- `TpSubscriptionState` -/
inductive TpSubscriptionState where
  | unknown
  | no
  | removedRemotely
  | ask
  | yes
  deriving DecidableEq

/-- The members of `TpError` that Haze reports. -/
inductive TpError where
  | cancelled
  | doesNotExist
  | invalidArgument
  | notAvailable
  | notImplemented
  | authenticationFailed
  deriving DecidableEq

/-- `TpConnectionStatusReason` -/
inductive TpConnectionStatusReason where
  | noneSpecified
  | requested
  | networkError
  | authenticationFailed
  | encryptionError
  | nameInUse
  | certNotProvided
  | certUntrusted
  | certExpired
  | certNotActivated
  | certHostnameMismatch
  | certFingerprintMismatch
  | certSelfSigned
  | certOtherError
  deriving DecidableEq

/-- `TpChannelGroupChangeReason` -/
inductive TpChannelGroupChangeReason where
  | none
  | offline
  | kicked
  | busy
  | invited
  | banned
  | error
  | invalidContact
  | noAnswer
  | renamed
  | permissionDenied
  | separated
  deriving DecidableEq

/-- The D-Bus names of the connection errors that Haze reports. -/
inductive TpErrorName where
  | disconnected
  | connectionFailed
  | connectionLost
  | authenticationFailed
  | encryptionNotAvailable
  | encryptionError
  | alreadyConnected
  | connectionReplaced
  | certNotProvided
  | certUntrusted
  | certExpired
  | certNotActivated
  | certHostnameMismatch
  | certFingerprintMismatch
  | certSelfSigned
  | certInvalid
  /-- `tp_error_get_dbus_name` -/
  | ofError (e : TpError)
  deriving DecidableEq

/-- A `GError` in the `TP_ERROR` domain. -/
structure GError where
  code : TpError
  message : String
  deriving DecidableEq

/-- The ways in which the process goes down. -/
inductive Fault where
  /-- a `g_assert` fails -/
  | assertion
  /-- memory that was freed is read -/
  | useAfterFree
  /-- a `NULL` pointer is followed -/
  | nullDereference
  /-- an array is read outside of its bounds -/
  | outOfBounds
  /-- a variable is read that was never set -/
  | uninitialized
  deriving DecidableEq

/-- What `dup_states` returns for a contact: `subscribe_out`, `publish_out` and
`publish_request_out`. -/
structure TpContactStates where
  subscribe : TpSubscriptionState
  publish : TpSubscriptionState
  publishRequest : Option String
  deriving DecidableEq

/-- What has been announced about the contact list: the roster with each contact's states,
the groups, and the groups of each contact. -/
structure TpBaseContactList (H : Type*) where
  roster : H → Option TpContactStates
  groups : Finset String
  contactGroups : H → Finset String

namespace TpBaseContactList

variable {H : Type*} [DecidableEq H]

/-- `tp_base_contact_list_one_contact_changed`: the contact is announced with its states. -/
def oneContactChanged (v : TpBaseContactList H) (h : H) (states : TpContactStates) :
    TpBaseContactList H :=
  { v with roster := Function.update v.roster h (some states) }

/-- `tp_base_contact_list_one_contact_removed` -/
def oneContactRemoved (v : TpBaseContactList H) (h : H) : TpBaseContactList H :=
  { v with roster := Function.update v.roster h none }

/-- `tp_base_contact_list_groups_created` -/
def groupsCreated (v : TpBaseContactList H) (names : List String) : TpBaseContactList H :=
  { v with groups := v.groups ∪ names.toFinset }

/-- `tp_base_contact_list_groups_removed`: the members of the groups leave them. -/
def groupsRemoved (v : TpBaseContactList H) (names : List String) : TpBaseContactList H :=
  { v with
    groups := v.groups \ names.toFinset
    contactGroups := fun h => v.contactGroups h \ names.toFinset }

/-- The name of a group after `old` is renamed to `new`. -/
def renamed (old new name : String) : String := if name = old then new else name

/-- `tp_base_contact_list_group_renamed` -/
def groupRenamed (v : TpBaseContactList H) (old new : String) : TpBaseContactList H :=
  { v with
    groups := v.groups.image (renamed old new)
    contactGroups := fun h => (v.contactGroups h).image (renamed old new) }

/-- `tp_base_contact_list_one_contact_groups_changed`: groups that are not known yet are
announced as created. -/
def oneContactGroupsChanged (v : TpBaseContactList H) (h : H)
    (added removed : List String) : TpBaseContactList H :=
  { v with
    groups := v.groups ∪ added.toFinset
    contactGroups := Function.update v.contactGroups h
      ((v.contactGroups h ∪ added.toFinset) \ removed.toFinset) }

end TpBaseContactList

end Haze
