import Haze.ContactList.Publish

set_option autoImplicit false

/-! # The references of publish requests

Every `PublishRequestData` is made with a reference to the contact list, "dropped" by the comment
in `haze_close_account_request` when the request leaves the table. `publish_request_data_free`,
which runs then, frees the message and the request and keeps the reference. So the references are
as many as the pending requests only as long as no request has left the table
(`references_balanced_iff`).
-/

namespace Haze

namespace HazeContactList

variable {P : Libpurple} {a : PurpleAccount} {s s' : HazeContactList P a}
variable {h : TpHandle P a}

/-- The references that authorization requests hold are as many as the entries of the table. -/
def ReferencesBalanced (s : HazeContactList P a) : Prop :=
  s.refCount = s.pendingPublishRequests.entries.length

instance (s : HazeContactList P a) : Decidable (ReferencesBalanced s) :=
  inferInstanceAs (Decidable (s.refCount = s.pendingPublishRequests.entries.length))

/-- The contact whose entry in the table the event is about. -/
def RequestEvent.contact (s : HazeContactList P a) : RequestEvent P a → Option (TpHandle P a)
  | .requestAuthorize remoteUser _ => some (tpHandleEnsure P a remoteUser)
  | .acceptPublishRequest h => some h
  | .rejectPublishRequest h => some h
  | .removeContact h => some h
  | .closeAccountRequest request => (s.derefRequest request).map PublishRequestData.handle

/-- The event leaves no request of the table behind: the contact it is about has none pending. -/
def DropsNoRequest (s : HazeContactList P a) (e : RequestEvent P a) : Prop :=
  ∀ h ∈ e.contact s, h ∉ s.pendingPublishRequests

instance (s : HazeContactList P a) : DecidablePred (DropsNoRequest s) := fun e =>
  inferInstanceAs (Decidable (∀ h ∈ e.contact s, h ∉ s.pendingPublishRequests))

theorem dropsNoRequest_iff {e : RequestEvent P a} (hcontact : e.contact s = some h) :
    DropsNoRequest s e ↔ h ∉ s.pendingPublishRequests := by
  simp [DropsNoRequest, hcontact]

/-! ## The size of the table -/

theorem exists_pending_of_mem (hmem : h ∈ s.pendingPublishRequests) :
    ∃ d, s.pendingPublishRequests.lookup h = some d :=
  Option.isSome_iff_exists.mp (AList.lookup_isSome.mpr hmem)

/-- A request that is pending leaves a table with one entry less. -/
theorem length_erase_of_mem (hmem : h ∈ s.pendingPublishRequests) :
    (s.pendingPublishRequests.erase h).entries.length + 1 =
      s.pendingPublishRequests.entries.length := by
  have hkey : h ∈ s.pendingPublishRequests.keys := hmem
  have hpos : 0 < s.pendingPublishRequests.keys.length := List.length_pos_of_mem hkey
  have hlen : (s.pendingPublishRequests.erase h).keys.length =
      s.pendingPublishRequests.keys.length - 1 := by
    rw [AList.keys_erase, List.length_erase_of_mem hkey]
  simp only [AList.keys, List.keys, List.length_map] at hlen hpos
  omega

/-- A request that takes the place of another leaves the size of the table as it is. -/
theorem length_insert (d : PublishRequestData P a) :
    (s.pendingPublishRequests.insert h d).entries.length =
      s.pendingPublishRequests.entries.length + 1 ↔ h ∉ s.pendingPublishRequests := by
  have hlen : (s.pendingPublishRequests.insert h d).entries.length =
      (s.pendingPublishRequests.erase h).entries.length + 1 := rfl
  rw [hlen]
  constructor
  · intro hsize hmem
    have hless := length_erase_of_mem hmem
    omega
  · intro hnot
    have hsame : (s.pendingPublishRequests.erase h).entries = s.pendingPublishRequests.entries :=
      List.kerase_of_notMem_keys hnot
    rw [hsame]

/-! ## One event -/

/-- Dropping a pending request upsets the balance. -/
theorem not_balanced_erase (hs : ReferencesBalanced s) (hmem : h ∈ s.pendingPublishRequests)
    (hrefs : s'.refCount = s.refCount)
    (hpending : s'.pendingPublishRequests = s.pendingPublishRequests.erase h) :
    ¬ ReferencesBalanced s' := by
  have hless := length_erase_of_mem hmem
  intro hs'
  rw [ReferencesBalanced, hrefs, hpending, hs] at hs'
  omega

/-- An answer to a contact: without a pending request nothing happens, and with one the request
leaves the table and keeps its reference. -/
structure Answers (s : HazeContactList P a) (h : TpHandle P a)
    (answer : Except Fault (HazeContactList P a)) : Prop where
  of_none : s.pendingPublishRequests.lookup h = none → answer = .ok s
  of_some : ∀ d, s.pendingPublishRequests.lookup h = some d →
    ∃ s', answer = .ok s' ∧ s'.refCount = s.refCount ∧
      s'.pendingPublishRequests = s.pendingPublishRequests.erase h

theorem answers_accept (s : HazeContactList P a) (h : TpHandle P a) :
    Answers s h (s.acceptPublishRequest h) where
  of_none := acceptPublishRequest_of_none
  of_some := fun _ hd => ⟨_, acceptPublishRequest_of_some hd, rfl, rfl⟩

theorem answers_reject (s : HazeContactList P a) (h : TpHandle P a) :
    Answers s h (s.rejectPublishRequest h) where
  of_none := rejectPublishRequest_of_none
  of_some := fun _ hd => ⟨_, rejectPublishRequest_of_some hd, rfl, rfl⟩

theorem Answers.balanced_iff {answer : Except Fault (HazeContactList P a)}
    (hanswer : Answers s h answer) (hs : ReferencesBalanced s) (hstep : answer = .ok s') :
    ReferencesBalanced s' ↔ h ∉ s.pendingPublishRequests := by
  cases hd : s.pendingPublishRequests.lookup h with
  | none =>
      rw [hanswer.of_none hd] at hstep
      cases hstep
      exact iff_of_true hs (AList.lookup_eq_none.mp hd)
  | some d =>
      obtain ⟨t, ht, hrefs, hpending⟩ := hanswer.of_some d hd
      rw [ht] at hstep
      cases hstep
      have hmem := mem_pending_of_lookup hd
      exact iff_of_false (not_balanced_erase hs hmem hrefs hpending) (not_not.mpr hmem)

/-- An answer to a contact with a pending request does not fail. -/
theorem Answers.notMem_of_error {answer : Except Fault (HazeContactList P a)} {f : Fault}
    (hanswer : Answers s h answer) (hstep : answer = .error f) :
    h ∉ s.pendingPublishRequests := by
  intro hmem
  obtain ⟨d, hd⟩ := exists_pending_of_mem hmem
  obtain ⟨t, ht, -⟩ := hanswer.of_some d hd
  rw [ht] at hstep
  cases hstep

/-- Removing a contact takes its buddies off the list before it rejects. -/
theorem balanced_removeContact_iff (hs : ReferencesBalanced s)
    (hstep : s.removeContact h = .ok s') :
    ReferencesBalanced s' ↔ h ∉ s.pendingPublishRequests := by
  have hsame := sameRequests_removeBuddies s (s.blist.purpleFindBuddies a (some h.inspect))
  have hmid : ReferencesBalanced
      (s.removeBuddies (s.blist.purpleFindBuddies a (some h.inspect))) := by
    rw [ReferencesBalanced, hsame.refCount, hsame.pending]
    exact hs
  have hiff := (answers_reject _ h).balanced_iff hmid hstep
  rwa [hsame.pending] at hiff

/-- `haze_close_account_request` takes a reference of its own and gives that one back. -/
theorem balanced_close_iff (hs : ReferencesBalanced s) {request : Nat}
    (hstep : s.closeAccountRequest request = .ok s') :
    ReferencesBalanced s' ↔ DropsNoRequest s (.closeAccountRequest request) := by
  cases hd : s.derefRequest request with
  | none =>
      rw [closeAccountRequest_of_none hd] at hstep
      cases hstep
  | some d =>
      by_cases hmem : d.handle ∈ s.pendingPublishRequests
      · rw [closeAccountRequest_of_some hd hmem] at hstep
        cases hstep
        refine iff_of_false (not_balanced_erase hs hmem rfl rfl) (fun hdrops => ?_)
        exact hdrops d.handle (by simp [RequestEvent.contact, hd]) hmem
      · rw [closeAccountRequest_of_notMem hd hmem] at hstep
        cases hstep

/-- One event keeps the balance exactly when no request leaves the table. -/
theorem balanced_step_iff (hs : ReferencesBalanced s) {e : RequestEvent P a}
    (hstep : (requests P a).step s e = .ok s') :
    ReferencesBalanced s' ↔ DropsNoRequest s e := by
  cases e with
  | requestAuthorize remoteUser message =>
      cases hstep
      rw [dropsNoRequest_iff rfl, ← length_insert
        ⟨s.nextRequest, tpHandleEnsure P a remoteUser, message⟩, ← hs]
      exact eq_comm
  | acceptPublishRequest h =>
      rw [dropsNoRequest_iff rfl]
      exact (answers_accept s h).balanced_iff hs hstep
  | rejectPublishRequest h =>
      rw [dropsNoRequest_iff rfl]
      exact (answers_reject s h).balanced_iff hs hstep
  | removeContact h =>
      rw [dropsNoRequest_iff rfl]
      exact balanced_removeContact_iff hs hstep
  | closeAccountRequest request => exact balanced_close_iff hs hstep

/-- An event stops with a fault only when it finds nothing to drop. -/
theorem dropsNoRequest_of_error {e : RequestEvent P a} {f : Fault}
    (hstep : (requests P a).step s e = .error f) : DropsNoRequest s e := by
  cases e with
  | requestAuthorize remoteUser message => cases hstep
  | acceptPublishRequest h =>
      rw [dropsNoRequest_iff rfl]
      exact (answers_accept s h).notMem_of_error hstep
  | rejectPublishRequest h =>
      rw [dropsNoRequest_iff rfl]
      exact (answers_reject s h).notMem_of_error hstep
  | removeContact h =>
      rw [dropsNoRequest_iff rfl]
      have hsame := sameRequests_removeBuddies s (s.blist.purpleFindBuddies a (some h.inspect))
      rw [← hsame.pending]
      exact (answers_reject _ h).notMem_of_error hstep
  | closeAccountRequest request =>
      intro h hcontact hmem
      obtain ⟨d, hd, rfl⟩ := Option.map_eq_some_iff.mp hcontact
      have hclose : s.closeAccountRequest request = .error f := hstep
      rw [closeAccountRequest_of_some hd hmem] at hclose
      cases hclose

/-! ## Runs -/

/-- **When the references are given back**: at every moment of a run the authorization requests
hold as many references on the contact list as the table has entries, if and only if no event of
the run is about a contact with a pending request, so that no request ever leaves the table. -/
theorem references_balanced_iff (bl : BuddyList P) (es : List (RequestEvent P a)) :
    (∀ es₁ es₂ s, es = es₁ ++ es₂ → (requests P a).run (init bl) es₁ = .ok s →
        ReferencesBalanced s) ↔
      (requests P a).Meets DropsNoRequest (init bl) es :=
  Machine.forall_prefix_iff_meets_of_error (I := fun _ s => ReferencesBalanced s)
    (fun _ _ _ _ _ hstep => dropsNoRequest_of_error hstep)
    (fun _ _ _ _ hs hstep => balanced_step_iff hs hstep) rfl

/-- Bob asks and is accepted: his request is gone, and its reference is still held. -/
theorem reference_not_given_back :
    ¬ ∀ es : List (RequestEvent Libpurple.plain 0),
      (requests Libpurple.plain 0).Meets RequestLegal (init BuddyList.empty) es →
      ∀ s, (requests Libpurple.plain 0).run (init BuddyList.empty) es = .ok s →
        ReferencesBalanced s := by
  intro hall
  have hbob := hall [.requestAuthorize "bob" none, .acceptPublishRequest ⟨"bob", rfl⟩]
    (by decide) _ rfl
  exact absurd hbob (by decide)

end HazeContactList

end Haze
