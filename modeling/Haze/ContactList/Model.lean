import Mathlib.Data.List.AList
import Haze.Libpurple.BuddyList
import Haze.Telepathy.Types

set_option autoImplicit false

/-! # `contact-list.c`

The contact list of one connection: the functions of `contact-list.c` on a state that holds
the process-wide buddy list, the private data of `HazeContactList`, the authorization
requests libpurple still holds, and what has been announced on the bus. Each function is
written as the C function reads; the calls it makes into libpurple and telepathy-glib are
recorded in `calls`, and every buddy list that an observer between two of these calls can
see in `lists`.

Handles stand for normalised contact names of the connection's account (`TpHandle`), as
`_contact_normalize` makes them.
-/

namespace Haze

/-! ## Handles -/

/-- A valid contact handle of a connection to the account: a normalised name. -/
structure TpHandle (P : Libpurple) (a : PurpleAccount) where
  id : String
  normal : P.purpleNormalize a id = id
  deriving DecidableEq

instance {P : Libpurple} {a : PurpleAccount} : LawfulBEq (TpHandle P a) := inferInstance

/-- `tp_handle_ensure` on the contact repository, with `_contact_normalize`. -/
def tpHandleEnsure (P : Libpurple) (a : PurpleAccount) (name : String) : TpHandle P a :=
  ⟨P.purpleNormalize a name, P.normalize_idem a name⟩

/-- `haze_connection_handle_inspect` -/
def TpHandle.inspect {P : Libpurple} {a : PurpleAccount} (h : TpHandle P a) : String := h.id

theorem tpHandleEnsure_eq_iff {P : Libpurple} {a : PurpleAccount} {name : String}
    {h : TpHandle P a} : tpHandleEnsure P a name = h ↔ P.purpleNormalize a name = h.id := by
  constructor
  · rintro rfl; rfl
  · intro hn
    cases h
    simp only [tpHandleEnsure, TpHandle.mk.injEq]
    exact hn

/-- A `TpHandleSet`, listed in the order in which an iteration meets its members. -/
abbrev TpHandleSet (P : Libpurple) (a : PurpleAccount) := List (TpHandle P a)

section

variable {P : Libpurple} {a : PurpleAccount}

/-- `tp_handle_set_add` -/
def tpHandleSetAdd (hs : TpHandleSet P a) (h : TpHandle P a) : TpHandleSet P a :=
  if h ∈ hs then hs else hs ++ [h]

/-- `tp_handle_set_remove` -/
def tpHandleSetRemove (hs : TpHandleSet P a) (h : TpHandle P a) : TpHandleSet P a :=
  hs.filter (fun h' => h' ≠ h)

/-- `tp_handle_set_difference_update` -/
def tpHandleSetDifferenceUpdate (hs hs' : TpHandleSet P a) : TpHandleSet P a :=
  hs.filter (fun h => h ∉ hs')

@[simp] theorem mem_tpHandleSetAdd {hs : TpHandleSet P a} {h h' : TpHandle P a} :
    h' ∈ tpHandleSetAdd hs h ↔ h' ∈ hs ∨ h' = h := by
  unfold tpHandleSetAdd
  split
  · rename_i hmem
    exact ⟨Or.inl, fun hc => hc.elim id (fun he => he ▸ hmem)⟩
  · simp

@[simp] theorem mem_tpHandleSetRemove {hs : TpHandleSet P a} {h h' : TpHandle P a} :
    h' ∈ tpHandleSetRemove hs h ↔ h' ∈ hs ∧ h' ≠ h := by
  simp [tpHandleSetRemove]

@[simp] theorem mem_tpHandleSetDifferenceUpdate {hs hs' : TpHandleSet P a}
    {h : TpHandle P a} : h ∈ tpHandleSetDifferenceUpdate hs hs' ↔ h ∈ hs ∧ h ∉ hs' := by
  simp [tpHandleSetDifferenceUpdate]

theorem nodup_tpHandleSetAdd {hs : TpHandleSet P a} (hn : hs.Nodup) (h : TpHandle P a) :
    (tpHandleSetAdd hs h).Nodup := by
  unfold tpHandleSetAdd
  split
  · exact hn
  · rename_i hmem
    exact (List.nodup_append_comm.mp (List.nodup_cons.mpr ⟨hmem, hn⟩))

theorem nodup_foldl_tpHandleSetAdd {α : Type*} (f : α → TpHandle P a) (l : List α)
    {hs : TpHandleSet P a} (hn : hs.Nodup) :
    (l.foldl (fun hs x => tpHandleSetAdd hs (f x)) hs).Nodup := by
  induction l generalizing hs with
  | nil => exact hn
  | cons x l ih => exact ih (nodup_tpHandleSetAdd hn (f x))

theorem mem_foldl_tpHandleSetAdd {α : Type*} (f : α → TpHandle P a) (l : List α)
    (hs : TpHandleSet P a) (h : TpHandle P a) :
    h ∈ l.foldl (fun hs x => tpHandleSetAdd hs (f x)) hs ↔ h ∈ hs ∨ ∃ x ∈ l, f x = h := by
  induction l generalizing hs with
  | nil => simp
  | cons x l ih =>
      rw [List.foldl_cons, ih, mem_tpHandleSetAdd, or_assoc, eq_comm]
      simp

end

/-! ## The state -/

/-- A `PublishRequestData`, with its address. `allow`, `deny` and `data` belong to the
request libpurple made, which the address identifies. -/
structure PublishRequestData (P : Libpurple) (a : PurpleAccount) where
  ptr : Nat
  handle : TpHandle P a
  message : Option String
  deriving DecidableEq

/-- The calls that leave `contact-list.c`, and the two entry points through which libpurple
hands over and takes back a request. -/
inductive Call (P : Libpurple) (a : PurpleAccount) where
  | oneContactChanged (h : TpHandle P a)
  | oneContactRemoved (h : TpHandle P a)
  | oneContactGroupsChanged (h : TpHandle P a) (added removed : List String)
  | groupsCreated (names : List String)
  | groupsRemoved (names : List String)
  | groupRenamed (old new : String)
  | purpleAccountAddBuddy (name : String)
  | purpleAccountRemoveBuddy (name group : String)
  | requestAuthorize (request : Nat)
  | allow (request : Nat)
  | deny (request : Nat)
  | closeAccountRequest (request : Nat)
  deriving DecidableEq

/-- The contact list of a connection to the account `a`. -/
structure HazeContactList (P : Libpurple) (a : PurpleAccount) where
  /-- `base_conn->status` -/
  status : TpConnectionStatus
  /-- libpurple's buddy list -/
  blist : BuddyList P
  /-- "Maps TpHandle to PublishRequestData" -/
  pendingPublishRequests : AList (fun _ : TpHandle P a => PublishRequestData P a)
  /-- "Contacts whose publish requests we've accepted or declined." -/
  publishingTo : TpHandleSet P a
  notPublishingTo : TpHandleSet P a
  /-- references taken on the `HazeContactList` by authorization requests -/
  refCount : Nat
  /-- the address of the next `PublishRequestData` -/
  nextRequest : Nat
  /-- libpurple's list of the requests that are neither answered nor closed -/
  handles : List Nat
  /-- the `TpBaseContactList` -/
  announced : TpBaseContactList (TpHandle P a)
  calls : List (Call P a)
  lists : List (BuddyList P)

namespace HazeContactList

variable {P : Libpurple} {a : PurpleAccount}

/-- The contact list of a connection that has just been made, over the buddy list `bl`. -/
def init (bl : BuddyList P) : HazeContactList P a where
  status := .connected
  blist := bl
  pendingPublishRequests := ∅
  publishingTo := []
  notPublishingTo := []
  refCount := 0
  nextRequest := 0
  handles := []
  announced := ⟨fun _ => none, ∅, fun _ => ∅⟩
  calls := []
  lists := []

/-- Record a call. -/
def call (s : HazeContactList P a) (c : Call P a) : HazeContactList P a :=
  { s with calls := s.calls ++ [c] }

/-! ## Queries -/

/-- `haze_contact_list_dup_contacts`: "anyone we're definitely publishing to", "anyone on our
buddy list" and "anyone with an outstanding request". -/
def dupContacts (s : HazeContactList P a) : TpHandleSet P a :=
  let handles := s.publishingTo
  let buddies := s.blist.purpleFindBuddies a none
  let handles := buddies.foldl
    (fun hs e => tpHandleSetAdd hs (tpHandleEnsure P a e.2.name)) handles
  s.pendingPublishRequests.keys.foldl (fun hs k => tpHandleSetAdd hs k) handles

/-- `haze_contact_list_dup_states` -/
def dupStates (s : HazeContactList P a) (contact : TpHandle P a) : TpContactStates :=
  let buddy := s.blist.purpleFindBuddy a contact.inspect
  let pubReq := s.pendingPublishRequests.lookup contact
  { subscribe := if buddy.isSome then .yes else .no
    publish :=
      -- a pending request goes before what was decided earlier
      if pubReq.isSome then .ask
      else if contact ∈ s.publishingTo then .yes
      else if contact ∈ s.notPublishingTo then .no
      else .unknown
    publishRequest := pubReq.bind PublishRequestData.message }

/-- `haze_contact_list_dup_groups`: the names go through a hash table. -/
def dupGroups (s : HazeContactList P a) : List String :=
  (s.blist.root.map PurpleGroup.name).dedup

/-- `haze_contact_list_dup_contact_groups` -/
def dupContactGroups (s : HazeContactList P a) (contact : TpHandle P a) : List String :=
  (s.blist.purpleFindBuddies a (some contact.inspect)).map
    (fun e => s.blist.purpleGroupGetName e.1)

/-- The inner loop of `haze_contact_list_dup_group_members`, over the buddies of a contact;
a child of a group that is not a contact is skipped with a warning. -/
def addNodeMembers (members : TpHandleSet P a) : PurpleBlistNode → TpHandleSet P a
  | .contact _ buddies =>
      buddies.foldl (fun hs b => tpHandleSetAdd hs (tpHandleEnsure P a b.name)) members
  | .chat _ => members

/-- `haze_contact_list_dup_group_members` -/
def dupGroupMembers (s : HazeContactList P a) (groupName : String) : TpHandleSet P a :=
  match s.blist.purpleFindGroup groupName with
  | none => []
  | some group =>
      (s.blist.nodes.filter (fun n => n.group = group.ptr)).foldl addNodeMembers []

/-- `haze_contact_list_normalize_group` -/
def normalizeGroup (s : HazeContactList P a) (name : String) : Option String :=
  let ret := P.purpleUtf8StripUnprintables name
  if ret = "" then none
  else
    match s.blist.purpleFindGroup ret with
    | some group => some (if group.name ≠ ret then group.name else ret)
    | none => some ret

/-- `haze_get_fallback_group` -/
def hazeGetFallbackGroup (P : Libpurple) : String := P.buddies

/-! ## Announcements -/

/-- `tp_base_contact_list_one_contact_changed`, which asks `dup_states` for the states. -/
def oneContactChanged (s : HazeContactList P a) (h : TpHandle P a) : HazeContactList P a :=
  { s.call (.oneContactChanged h) with
    announced := s.announced.oneContactChanged h (s.dupStates h) }

/-- `tp_base_contact_list_one_contact_removed` -/
def oneContactRemoved (s : HazeContactList P a) (h : TpHandle P a) : HazeContactList P a :=
  { s.call (.oneContactRemoved h) with announced := s.announced.oneContactRemoved h }

/-- `tp_base_contact_list_one_contact_groups_changed` -/
def oneContactGroupsChanged (s : HazeContactList P a) (h : TpHandle P a)
    (added removed : List String) : HazeContactList P a :=
  { s.call (.oneContactGroupsChanged h added removed) with
    announced := s.announced.oneContactGroupsChanged h added removed }

/-- `tp_base_contact_list_groups_created` -/
def groupsCreated (s : HazeContactList P a) (names : List String) : HazeContactList P a :=
  { s.call (.groupsCreated names) with announced := s.announced.groupsCreated names }

/-- `tp_base_contact_list_groups_removed` -/
def groupsRemoved (s : HazeContactList P a) (names : List String) : HazeContactList P a :=
  { s.call (.groupsRemoved names) with announced := s.announced.groupsRemoved names }

/-- `tp_base_contact_list_group_renamed` -/
def groupRenamed (s : HazeContactList P a) (old new : String) : HazeContactList P a :=
  { s.call (.groupRenamed old new) with announced := s.announced.groupRenamed old new }

/-- `tp_base_contact_list_set_list_received`: the list is announced as it is enumerated. -/
def setListReceived (s : HazeContactList P a) : HazeContactList P a :=
  { s with
    announced :=
      { roster := fun h => if h ∈ s.dupContacts then some (s.dupStates h) else none
        groups := s.dupGroups.toFinset
        contactGroups := fun h => (s.dupContactGroups h).toFinset } }

/-! ## libpurple's signals

`buddy-added` and `buddy-removed` are delivered to the connection of the buddy's account. -/

/-- `buddy_added_cb` -/
def buddyAddedCb (s : HazeContactList P a) (buddy : PurpleBuddy) (group : PurpleGroup) :
    HazeContactList P a :=
  if buddy.account = a then
    let handle := tpHandleEnsure P a buddy.name
    (s.oneContactChanged handle).oneContactGroupsChanged handle [group.name] []
  else s

/-- `buddy_removed_cb` -/
def buddyRemovedCb (s : HazeContactList P a) (e : Nat × PurpleBuddy) :
    HazeContactList P a :=
  if e.2.account = a then
    -- "let's ignore removals when we're offline"
    if s.status = .disconnected then s
    else
      let handle := tpHandleEnsure P a e.2.name
      let groupName := s.blist.purpleGroupGetName e.1
      let s := s.oneContactGroupsChanged handle [] [groupName]
      -- the buddy itself is off the list already
      let buddies := s.blist.purpleFindBuddies a (some e.2.name)
      let lastInstance := ¬ ∃ l ∈ buddies, l ≠ e
      if lastInstance then s.oneContactRemoved handle else s
  else s

/-- `purple_blist_add_buddy`, with its signal. -/
def purpleBlistAddBuddy (s : HazeContactList P a) (buddy : PurpleBuddy)
    (group : PurpleGroup) : HazeContactList P a :=
  let bl := s.blist.purpleBlistAddBuddy buddy group
  { s with blist := bl, lists := s.lists ++ [bl] }.buddyAddedCb buddy group

/-- `purple_blist_remove_buddy`, with its signal: "signal that the buddy has been removed
before freeing the memory for it". -/
def purpleBlistRemoveBuddy (s : HazeContactList P a) (e : Nat × PurpleBuddy) :
    HazeContactList P a :=
  let bl := s.blist.purpleBlistRemoveBuddy e
  { s with blist := bl, lists := s.lists ++ [bl] }.buddyRemovedCb e

/-- A protocol plugin puts a buddy in a group. -/
def prplAddBuddy (s : HazeContactList P a) (account : PurpleAccount)
    (name groupName : String) : HazeContactList P a :=
  let (bl, group) := s.blist.purpleGroupNew groupName
  let (bl, buddy) := bl.purpleBuddyNew account name
  { s with blist := bl }.purpleBlistAddBuddy buddy group

/-- The three calls that put a contact in a group: `purple_buddy_new`,
`purple_blist_add_buddy` and `purple_account_add_buddy`. -/
def addNewBuddy (s : HazeContactList P a) (h : TpHandle P a) (group : PurpleGroup) :
    HazeContactList P a :=
  let (bl, buddy) := s.blist.purpleBuddyNew a h.inspect
  ({ s with blist := bl }.purpleBlistAddBuddy buddy group).call
    (.purpleAccountAddBuddy h.inspect)

/-- The two calls that take a buddy off the list: `purple_account_remove_buddy` and
`purple_blist_remove_buddy`. -/
def removeBuddy (s : HazeContactList P a) (e : Nat × PurpleBuddy) : HazeContactList P a :=
  (s.call (.purpleAccountRemoveBuddy e.2.name
    (s.blist.purpleGroupGetName e.1))).purpleBlistRemoveBuddy e

/-! ## Publish requests -/

/-- `remove_pending_publish_request`; the table frees the `PublishRequestData`. -/
def removePendingPublishRequest (s : HazeContactList P a) (h : TpHandle P a) :
    Except Fault (HazeContactList P a) :=
  if h ∈ s.pendingPublishRequests then
    .ok { s with pendingPublishRequests := s.pendingPublishRequests.erase h }
  -- "g_assert (removed)"
  else .error .assertion

/-- `haze_contact_list_accept_publish_request`. libpurple forgets the request when its
callback runs. -/
def acceptPublishRequest (s : HazeContactList P a) (h : TpHandle P a) :
    Except Fault (HazeContactList P a) :=
  match s.pendingPublishRequests.lookup h with
  | none => .ok s
  | some requestData => do
      let s := { s.call (.allow requestData.ptr) with
        handles := s.handles.erase requestData.ptr }
      let s := { s with publishingTo := tpHandleSetAdd s.publishingTo h }
      let s ← s.removePendingPublishRequest h
      return s.oneContactChanged h

/-- `haze_contact_list_reject_publish_request` -/
def rejectPublishRequest (s : HazeContactList P a) (h : TpHandle P a) :
    Except Fault (HazeContactList P a) :=
  match s.pendingPublishRequests.lookup h with
  | none => .ok s
  | some requestData => do
      let s := { s.call (.deny requestData.ptr) with
        handles := s.handles.erase requestData.ptr }
      let s := { s with notPublishingTo := tpHandleSetAdd s.notPublishingTo h }
      let s ← s.removePendingPublishRequest h
      return s.oneContactChanged h

/-- `haze_request_authorize`: the address of the new `PublishRequestData` goes to libpurple,
which keeps it. `g_hash_table_insert` frees what the table held under the handle. -/
def requestAuthorize (s : HazeContactList P a) (remoteUser : String)
    (message : Option String) : HazeContactList P a :=
  let remoteHandle := tpHandleEnsure P a remoteUser
  let requestData : PublishRequestData P a := ⟨s.nextRequest, remoteHandle, message⟩
  let s := { s with refCount := s.refCount + 1, nextRequest := s.nextRequest + 1 }
  let s := { s with
    pendingPublishRequests := s.pendingPublishRequests.insert remoteHandle requestData }
  -- "presumably we weren't already publishing to them?"
  let s := { s with
    publishingTo := tpHandleSetRemove s.publishingTo remoteHandle
    notPublishingTo := tpHandleSetAdd s.notPublishingTo remoteHandle }
  let s := s.oneContactChanged remoteHandle
  { s.call (.requestAuthorize requestData.ptr) with
    handles := s.handles ++ [requestData.ptr] }

/-- The `PublishRequestData` at an address. It lives as long as the table holds it. -/
def derefRequest (s : HazeContactList P a) (request : Nat) :
    Option (PublishRequestData P a) :=
  (s.pendingPublishRequests.entries.map Sigma.snd).find? (fun d => d.ptr = request)

/-- `haze_close_account_request`, called by libpurple as it forgets the request. -/
def closeAccountRequest (s : HazeContactList P a) (request : Nat) :
    Except Fault (HazeContactList P a) := do
  let s := { s.call (.closeAccountRequest request) with
    handles := s.handles.erase request }
  match s.derefRequest request with
  -- the table has dropped the request that libpurple still held
  | none => .error .useAfterFree
  | some requestData =>
      let handle := requestData.handle
      let s := { s with notPublishingTo := tpHandleSetAdd s.notPublishingTo handle }
      let s ← s.removePendingPublishRequest handle
      return s.oneContactChanged handle

/-! ## Adding and removing contacts -/

/-- `haze_contact_list_request_subscription`; `purple_blist_add_buddy` without a group puts
the buddy in "Buddies". -/
def requestSubscription (s : HazeContactList P a) (h : TpHandle P a) :
    Except Fault (HazeContactList P a) :=
  -- "it should already be on the subscribe list"
  if (s.blist.purpleFindBuddy a h.inspect).isSome then .error .assertion
  else
    let (bl, group) := s.blist.purpleGroupNew P.buddies
    .ok ({ s with blist := bl }.addNewBuddy h group)

/-- `haze_contact_list_request_subscription_async`; `haze_contact_list_store_contacts_async`
calls it with an empty message. -/
def requestSubscriptionAsync (s : HazeContactList P a) (contacts : TpHandleSet P a) :
    Except Fault (HazeContactList P a) :=
  contacts.foldlM requestSubscription s

/-- `haze_contact_list_authorize_publication_async` -/
def authorizePublicationAsync (s : HazeContactList P a) (contacts : TpHandleSet P a) :
    Except Fault (HazeContactList P a) :=
  contacts.foldlM acceptPublishRequest s

/-- `haze_contact_list_remove_contact` -/
def removeContact (s : HazeContactList P a) (h : TpHandle P a) :
    Except Fault (HazeContactList P a) :=
  let buddies := s.blist.purpleFindBuddies a (some h.inspect)
  -- "Also decline any publication requests we might have had"
  (buddies.foldl removeBuddy s).rejectPublishRequest h

/-- `haze_contact_list_remove_contacts_async`, which is also `unsubscribe_async` and
`unpublish_async`. -/
def removeContactsAsync (s : HazeContactList P a) (contacts : TpHandleSet P a) :
    Except Fault (HazeContactList P a) :=
  contacts.foldlM removeContact s

/-! ## Groups -/

/-- `haze_contact_list_add_to_group`. `purple_group_new` is `NULL` for the empty name. -/
def addToGroup (s : HazeContactList P a) (groupName : String) (h : TpHandle P a) :
    HazeContactList P a :=
  if groupName = "" then s.groupsCreated [groupName]
  else
    let (bl, group) := s.blist.purpleGroupNew groupName
    let s := { s with blist := bl }.groupsCreated [groupName]
    -- "if the contact is in the group, we have nothing to do"
    if (s.blist.purpleFindBuddyInGroup a h.inspect group).isSome then s
    else s.addNewBuddy h group

/-- The contacts of the set that are in the group and in no other: the first loop of
`haze_contact_list_prep_remove_from_group`. -/
def orphans (bl : BuddyList P) (group : PurpleGroup) (contacts : TpHandleSet P a) :
    TpHandleSet P a :=
  contacts.foldl (fun orphans handle =>
    let buddies := bl.purpleFindBuddies a (some handle.inspect)
    let isIn := buddies.any (fun l => l.1 = group.ptr)
    let orphaned := buddies.all (fun l => l.1 = group.ptr)
    if isIn && orphaned then tpHandleSetAdd orphans handle else orphans) []

/-- The error of `haze_contact_list_prep_remove_from_group`. -/
def lastGroupError (group : PurpleGroup) : GError :=
  ⟨.notAvailable, "Contacts can't be removed from '" ++ group.name ++
    "' unless they are in another group"⟩

/-- `haze_contact_list_prep_remove_from_group`: the orphans are put in the fallback group, or
if the group *is* the fallback group, it fails "before we've actually done anything". -/
def prepRemoveFromGroup (s : HazeContactList P a) (groupName : String)
    (contacts : TpHandleSet P a) : HazeContactList P a × Option GError :=
  match s.blist.purpleFindGroup groupName with
  -- "no such group? that was easy"
  | none => (s, none)
  | some group =>
      let orphans := orphans s.blist group contacts
      if orphans = [] then (s, none)
      else
        let defName := hazeGetFallbackGroup P
        let (bl, defaultGroup) := s.blist.purpleGroupNew defName
        let s := { s with blist := bl }.groupsCreated [defName]
        if defaultGroup.ptr = group.ptr then (s, some (lastGroupError group))
        else (orphans.foldl (fun s h => s.addNewBuddy h defaultGroup) s, none)

/-- One turn of the outer loop of `haze_contact_list_remove_many_from_group`. -/
def removeOneFromGroup (group : PurpleGroup) (s : HazeContactList P a)
    (h : TpHandle P a) : HazeContactList P a :=
  let buddies := s.blist.purpleFindBuddies a (some h.inspect)
  -- the contact may be "in the group more than once"
  buddies.foldl (fun s e => if e.1 = group.ptr then s.removeBuddy e else s) s

/-- `haze_contact_list_remove_many_from_group` -/
def removeManyFromGroup (s : HazeContactList P a) (groupName : String)
    (contacts : TpHandleSet P a) : HazeContactList P a :=
  match s.blist.purpleFindGroup groupName with
  | none => s
  | some group => contacts.foldl (removeOneFromGroup group) s

/-- `haze_contact_list_remove_from_group_async`, with the error it reports;
`haze_contact_list_remove_from_group` is the same for one contact. -/
def removeFromGroupAsync (s : HazeContactList P a) (groupName : String)
    (contacts : TpHandleSet P a) : HazeContactList P a × Option GError :=
  match s.prepRemoveFromGroup groupName contacts with
  | (s, none) => (s.removeManyFromGroup groupName contacts, none)
  | (s, some e) => (s, some e)

/-- `haze_contact_list_remove_from_group` -/
def removeFromGroup (s : HazeContactList P a) (groupName : String) (h : TpHandle P a) :
    HazeContactList P a × Option GError :=
  s.removeFromGroupAsync groupName [h]

/-- `haze_contact_list_add_to_group_async` -/
def addToGroupAsync (s : HazeContactList P a) (groupName : String)
    (contacts : TpHandleSet P a) : Except Fault (HazeContactList P a) :=
  if groupName = "" then .error .assertion
  else
    let (bl, _) := s.blist.purpleGroupNew groupName
    let s := { s with blist := bl }.groupsCreated [groupName]
    .ok (contacts.foldl (fun s h => s.addToGroup groupName h) s)

/-- `haze_contact_list_set_group_members_async`, with the error it reports. -/
def setGroupMembersAsync (s : HazeContactList P a) (groupName : String)
    (contacts : TpHandleSet P a) : Except Fault (HazeContactList P a × Option GError) :=
  let outcasts : TpHandleSet P a := s.dupGroupMembers groupName
  if groupName = "" then .error .assertion
  else
    let (bl, _) := s.blist.purpleGroupNew groupName
    let s := { s with blist := bl }.groupsCreated [groupName]
    let outcasts := tpHandleSetDifferenceUpdate outcasts contacts
    match s.prepRemoveFromGroup groupName outcasts with
    | (s, none) => do
        -- the new members come before the others go
        let s ← s.addToGroupAsync groupName contacts
        return (s.removeManyFromGroup groupName outcasts, none)
    | (s, some e) => .ok (s, some e)

/-- `haze_contact_list_set_contact_groups_async` -/
def setContactGroupsAsync (s : HazeContactList P a) (contact : TpHandle P a)
    (names : List String) : HazeContactList P a :=
  -- the contact must be in some group
  let names := if names = [] then [hazeGetFallbackGroup P] else names
  let s := names.foldl (fun s n => s.addToGroup n contact) s
  -- "remove them from any groups they ought to not be in"
  let buddies := s.blist.purpleFindBuddies a (some contact.inspect)
  buddies.foldl
    (fun s e => if s.blist.purpleGroupGetName e.1 ∈ names then s else s.removeBuddy e) s

/-- `haze_contact_list_remove_group_async`, with the error it reports. -/
def removeGroupAsync (s : HazeContactList P a) (groupName : String) :
    HazeContactList P a × Option GError :=
  let members : TpHandleSet P a := s.dupGroupMembers groupName
  match s.prepRemoveFromGroup groupName members with
  | (s, none) =>
      -- nobody has been taken out of the group
      let s :=
        match s.blist.purpleFindGroup groupName with
        | some group => { s with blist := s.blist.purpleBlistRemoveGroup group }
        | none => s
      (s.groupsRemoved [groupName], none)
  | (s, some e) => (s, some e)

/-- `haze_contact_list_rename_group_async`, with the error it reports. -/
def renameGroupAsync (s : HazeContactList P a) (oldName newName : String) :
    HazeContactList P a × Option GError :=
  match s.blist.purpleFindGroup oldName, s.blist.purpleFindGroup newName with
  | none, _ => (s, some ⟨.doesNotExist, "The group '" ++ oldName ++ "' does not exist"⟩)
  | some _, some _ =>
      (s, some ⟨.notAvailable, "The group '" ++ newName ++ "' already exists"⟩)
  | some group, none =>
      ({ s with blist := s.blist.purpleBlistRenameGroup group newName }.groupRenamed
        oldName newName, none)

end HazeContactList

end Haze
