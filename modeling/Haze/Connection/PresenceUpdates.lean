import Haze.Connection.Aliasing
import Haze.Connection.Attributes
import Haze.Connection.Presence

set_option autoImplicit false

/-! # What clients know of presences

A client that has asked for the presences of its contacts follows `PresencesChanged`. libpurple
reports a buddy that signs on or off or changes its status otherwise, and the account's own status;
Haze announces the status that is reported for the contact of the buddy's name, while it answers
with the status of the buddy that libpurple finds for that name (`presencesChanged_tells_iff`).
-/

namespace Haze

/-- What the presence code uses of a connection, with the buddies that the statuses belong to. -/
structure Presences (P : Libpurple) (a : PurpleAccount) where
  markup : PurpleMarkup
  statusTypes : List PurpleStatusType
  nodup_ids : (statusTypes.map PurpleStatusType.id).Nodup
  /-- `base_conn->self_handle` -/
  selfHandle : Nat
  contactHandles : TpHandleRepo P a
  list : BuddyList P
  /-- the account's active status -/
  activeStatus : PurpleStatus
  /-- the active status of a buddy -/
  buddyStatus : PurpleBuddy → PurpleStatus
  /-- the presence updates that have been emitted -/
  updates : List (TpHandle P a × TpPresenceStatus)

namespace Presences

variable {P : Libpurple} {a : PurpleAccount}

/-- The connection as the methods see it. -/
def connection (s : Presences P a) : PresenceConnection where
  markup := s.markup
  statusTypes := s.statusTypes
  nodup_ids := s.nodup_ids
  selfHandle := s.selfHandle
  isValid handle := (s.contactHandles.inspect handle).isSome
  inspect handle := ((s.contactHandles.inspect handle).map TpHandle.inspect).getD ""
  buddyStatus name := (s.list.purpleFindBuddy a name).map (fun e => s.buddyStatus e.2)

/-- The presences as an attribute of contacts. -/
def presences (s : Presences P a) : ContactAttribute P a TpPresenceStatus where
  list := s.list
  self := s.contactHandles.inspect s.selfHandle
  own _ := s.connection.getTpStatus (some s.activeStatus)
  ofBuddy buddy := s.connection.getTpStatus (some (s.buddyStatus buddy))
  unknown _ := s.connection.getTpStatus none

/-- `tp_presence_mixin_emit_one_presence_update` -/
def emitOnePresenceUpdate (s : Presences P a) (contact : TpHandle P a)
    (status : TpPresenceStatus) : Presences P a :=
  { s with updates := s.updates ++ [(contact, status)] }

/-- `update_status` -/
def updateStatus (s : Presences P a) (buddy : PurpleBuddy) (status : PurpleStatus) :
    Presences P a :=
  s.emitOnePresenceUpdate (tpHandleEnsure P a buddy.name) (s.connection.getTpStatus (some status))

/-- `status_changed_cb` -/
def statusChangedCb (s : Presences P a) (buddy : PurpleBuddy)
    (_oldStatus newStatus : PurpleStatus) : Presences P a :=
  s.updateStatus buddy newStatus

/-- `signed_on_off_cb` -/
def signedOnOffCb (s : Presences P a) (buddy : PurpleBuddy) : Presences P a :=
  s.updateStatus buddy (s.buddyStatus buddy)

/-- `purple_status_is_online` -/
def purpleStatusIsOnline (status : PurpleStatus) : Bool :=
  status.type.primitive ≠ .unset ∧ status.type.primitive ≠ .offline

/-- A buddy gets a status. `purple_blist_update_buddy_status` emits "buddy-signed-on",
"buddy-signed-off" or "buddy-status-changed". -/
def setBuddyStatus (s : Presences P a) (buddy : PurpleBuddy) (status : PurpleStatus) :
    Presences P a :=
  let oldStatus := s.buddyStatus buddy
  let s := { s with buddyStatus := Function.update s.buddyStatus buddy status }
  if purpleStatusIsOnline status ≠ purpleStatusIsOnline oldStatus then s.signedOnOffCb buddy
  else s.statusChangedCb buddy oldStatus status

/-- `haze_connection_presence_account_status_changed`, on an account that has its connection. -/
def accountStatusChanged (s : Presences P a) (status : PurpleStatus) : Presences P a :=
  match s.connection.accountStatusChanged true status with
  | none => s
  | some (handle, status) =>
      match s.contactHandles.inspect handle with
      | none => s
      | some contact => s.emitOnePresenceUpdate contact status

/-- SetPresence. libpurple reports the account's status when it has changed. -/
def setPresence (s : Presences P a) (status : Option TpPresenceStatus) :
    Except Fault (Presences P a) := do
  let active ← s.connection.setOwnStatus s.activeStatus status
  if active = s.activeStatus then return s
  return { s with activeStatus := active }.accountStatusChanged active

/-- What may change a presence. -/
inductive PresenceEvent where
  | setPresence (status : Option TpPresenceStatus)
  | buddyStatus (buddy : PurpleBuddy) (status : PurpleStatus)

/-- The presences of a connection as a machine. -/
def changing : Machine (Presences P a) PresenceEvent Fault where
  step
    | s, .setPresence status => s.setPresence status
    | s, .buddyStatus buddy status => .ok (s.setBuddyStatus buddy status)

/-- What is announced is what is answered: the buddy that gets a status shows that of its
contact. -/
def PresenceKnown (s : Presences P a) : PresenceEvent → Prop
  | .setPresence _ => True
  | .buddyStatus buddy status => (s.setBuddyStatus buddy status).presences.Shows buddy

variable {s s' : Presences P a}

/-- GetPresences, on handles that are valid. -/
theorem getContactStatuses_eq {contacts : List Nat}
    (hvalid : ∀ handle ∈ contacts, s.connection.isValid handle = true) :
    ∃ table, s.connection.getContactStatuses s.activeStatus contacts = .ok table ∧
      ∀ handle ∈ contacts, ∀ contact, s.contactHandles.inspect handle = some contact →
        table handle = some (s.presences.query contact) := by
  obtain ⟨table, htable, hall⟩ := PresenceConnection.getContactStatuses_ok hvalid
  refine ⟨table, htable, fun handle hhandle contact hcontact => ?_⟩
  rw [hall handle hhandle]
  have hiff : handle = s.selfHandle ↔ s.presences.self = some contact := by
    constructor
    · rintro rfl
      exact hcontact
    · intro hself
      exact s.contactHandles.inspect_inj _ _ _ hcontact hself
  unfold PresenceConnection.statusOf ContactAttribute.query
  by_cases hself : handle = s.selfHandle
  · rw [if_pos (hiff.mp hself)]
    exact congrArg (fun status => some (s.connection.getTpStatus status)) (if_pos hself)
  · rw [if_neg (fun h => hself (hiff.mpr h))]
    have hinspect : s.connection.inspect handle = contact.inspect := by
      simp [connection, hcontact]
    have hstatus : (if handle = s.connection.selfHandle then some s.activeStatus
        else s.connection.buddyStatus (s.connection.inspect handle)) =
        (s.list.purpleFindBuddy a contact.inspect).map (fun e => s.buddyStatus e.2) := by
      rw [hinspect]
      exact if_neg hself
    rw [hstatus]
    cases hfind : s.list.purpleFindBuddy a contact.inspect with
    | none => simp only [presences, hfind, Option.map_none]
    | some e => simp only [presences, hfind, Option.map_some]

/-! ## One step -/

theorem setBuddyStatus_eq (s : Presences P a) (buddy : PurpleBuddy) (status : PurpleStatus) :
    s.setBuddyStatus buddy status =
      { s with
        buddyStatus := Function.update s.buddyStatus buddy status
        updates := s.updates ++
          [(tpHandleEnsure P a buddy.name, s.connection.getTpStatus (some status))] } := by
  unfold setBuddyStatus
  dsimp only
  split_ifs
  · simp only [signedOnOffCb, updateStatus, emitOnePresenceUpdate, Function.update_self]
    rfl
  · rfl

/-- The status that is announced is that of the buddy. -/
theorem says_setBuddyStatus (s : Presences P a) (buddy : PurpleBuddy) (status : PurpleStatus) :
    ∃ new, (s.setBuddyStatus buddy status).updates = s.updates ++ new ∧
      (Mirror.Tells s.presences.query (s.setBuddyStatus buddy status).presences.query new ↔
        (s.setBuddyStatus buddy status).presences.Shows buddy) := by
  have hsame : s.presences.SameBut buddy (s.setBuddyStatus buddy status).presences := by
    rw [setBuddyStatus_eq]
    refine ⟨rfl, rfl, rfl, rfl, fun b hne => ?_⟩
    simp only [presences, connection, Function.update_of_ne hne]
    rfl
  refine ⟨[(tpHandleEnsure P a buddy.name, s.connection.getTpStatus (some status))], ?_, ?_⟩
  · rw [setBuddyStatus_eq]
  · have hbuddy : (s.setBuddyStatus buddy status).presences.ofBuddy buddy =
        s.connection.getTpStatus (some status) := by
      rw [setBuddyStatus_eq]
      simp only [presences, connection, Function.update_self]
      rfl
    rw [← hsame.tells_iff, hbuddy]

/-- The account's own status is always announced. -/
theorem tells_accountStatusChanged (s : Presences P a) (active : PurpleStatus) :
    ∃ new, ({ s with activeStatus := active }.accountStatusChanged active).updates =
        s.updates ++ new ∧
      Mirror.Tells s.presences.query
        ({ s with activeStatus := active }.accountStatusChanged active).presences.query new := by
  have hother : ∀ contact, s.presences.self ≠ some contact →
      ({ s with activeStatus := active } : Presences P a).presences.query contact =
        s.presences.query contact :=
    fun contact hne => ContactAttribute.query_setOwn (A := s.presences) _ hne
  cases hself : s.contactHandles.inspect s.selfHandle with
  | none =>
      have hsilent : { s with activeStatus := active }.accountStatusChanged active =
          { s with activeStatus := active } := by
        simp only [accountStatusChanged, PresenceConnection.accountStatusChanged, connection, hself,
          if_true]
      rw [hsilent]
      refine ⟨[], by rw [List.append_nil], Mirror.tells_nil.mpr (fun contact => hother contact ?_)⟩
      exact fun h => by cases hself.symm.trans h
  | some contact =>
      have hsaid : { s with activeStatus := active }.accountStatusChanged active =
          { s with activeStatus := active }.emitOnePresenceUpdate contact
            (s.connection.getTpStatus (some active)) := by
        simp only [accountStatusChanged, PresenceConnection.accountStatusChanged, connection, hself,
          if_true]
      rw [hsaid]
      refine ⟨_, rfl, Mirror.tells_singleton.mpr ⟨?_, fun contact' hne => hother contact' ?_⟩⟩
      · exact if_pos hself
      · intro h
        exact hne (Option.some.inj (h.symm.trans hself))

theorem says_setPresence {status : Option TpPresenceStatus} (h : s.setPresence status = .ok s') :
    ∃ new, s'.updates = s.updates ++ new ∧
      Mirror.Tells s.presences.query s'.presences.query new := by
  obtain ⟨active, -, h⟩ := Except.bind_eq_ok.mp h
  by_cases hsame : active = s.activeStatus
  · rw [if_pos hsame] at h
    cases h
    exact ⟨[], by rw [List.append_nil], Mirror.tells_nil.mpr (fun contact => rfl)⟩
  · rw [if_neg hsame] at h
    cases h
    exact s.tells_accountStatusChanged active

/-! ## Runs -/

theorem says_step {e : PresenceEvent} (h : changing.step s e = .ok s') :
    ∃ new, s'.updates = s.updates ++ new ∧
      (Mirror.Tells s.presences.query s'.presences.query new ↔ s.PresenceKnown e) := by
  cases e with
  | setPresence status =>
      obtain ⟨new, hnew, htells⟩ := says_setPresence h
      exact ⟨new, hnew, iff_of_true htells trivial⟩
  | buddyStatus buddy status =>
      cases h
      exact s.says_setBuddyStatus buddy status

/-- **When clients know the presences.** A client that has asked for the presences of all contacts,
and follows PresencesChanged, knows what GetPresences would return in every state of a run exactly
when every buddy that gets a status shows the status of its contact. What the client sets itself is
always announced. -/
theorem presencesChanged_tells_iff {s₀ : Presences P a} (hs₀ : s₀.updates = [])
    (es : List PresenceEvent) :
    (∀ es₁ es₂ s, es = es₁ ++ es₂ → changing.run s₀ es₁ = .ok s →
      Mirror.Follows (fun s => s.presences.query) updates s₀ s) ↔
    changing.Meets PresenceKnown s₀ es := by
  refine Mirror.forall_prefix_follows_iff (fun s e f _ h => ?_) (fun _ _ _ _ h => says_step h) hs₀
    (Machine.meets_of_forall (fun _ _ => trivial) s₀)
  cases e with
  | setPresence status => trivial
  | buddyStatus buddy status => cases h

/-- "me", with the contacts "alice" and "bob" on the list. -/
def withBob : Presences Libpurple.plain 0 where
  markup := plainMarkup
  statusTypes := aliceAway.statusTypes
  nodup_ids := aliceAway.nodup_ids
  selfHandle := 1
  contactHandles := ClientConnection.withAlice.contactHandles
  list := (BuddyList.empty.prplAddBuddy 0 "alice" "Buddies").prplAddBuddy 0 "bob" "Buddies"
  activeStatus := ⟨⟨"available", .available⟩, none⟩
  buddyStatus := fun _ => ⟨⟨"offline", .offline⟩, none⟩
  updates := []

/-- "me" is away, and then "bob" signs on. -/
theorem presencesChanged_tells_bob :
    withBob.updates = [] ∧
      ∀ es₁ es₂ s, [PresenceEvent.setPresence (some ⟨HAZE_STATUS_AWAY, none⟩),
          PresenceEvent.buddyStatus ⟨2, 0, "bob"⟩ ⟨⟨"available", .available⟩, none⟩] =
            es₁ ++ es₂ →
        changing.run withBob es₁ = .ok s →
          Mirror.Follows (fun s => s.presences.query) updates withBob s := by
  refine ⟨rfl, (presencesChanged_tells_iff rfl _).mpr ⟨trivial, ?_, trivial⟩⟩
  exact ContactAttribute.shows_of_found (g := 0) (by decide) (by decide)

end Presences

end Haze
