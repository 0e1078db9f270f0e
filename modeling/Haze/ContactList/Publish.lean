import Haze.Basic.Ledger
import Haze.Basic.Runs
import Haze.ContactList.Buddies

set_option autoImplicit false

/-! # Publish requests

libpurple keeps track of single requests, by the address `haze_request_authorize` returned;
the contact list keeps one request for each contact. `RequestsKept` says that the two agree:
the table holds exactly the requests that libpurple holds, and together with the answered
and closed ones these are all requests there ever were. Every operation keeps it, except
`haze_request_authorize` from a contact whose earlier request is pending: the table frees
the earlier one, which is then neither answered nor closed, and libpurple's pointer to it
dangles (`second_request_dangles`). Runs without such a second request settle every request
exactly once (`requests_settled_once`).
-/

namespace Haze

namespace HazeContactList

variable {P : Libpurple} {a : PurpleAccount} {s s' : HazeContactList P a}
variable {h : TpHandle P a} {d : PublishRequestData P a}

/-! ## The operations -/

/-- What `accept`, `reject` and `close` have in common: the request of `h` is settled, and
libpurple and the table forget it. -/
structure Forgets (s : HazeContactList P a) (h : TpHandle P a) (request : Nat)
    (s' : HazeContactList P a) : Prop where
  pending : s'.pendingPublishRequests = s.pendingPublishRequests.erase h
  handles : s'.handles = s.handles.erase request
  nextRequest : s'.nextRequest = s.nextRequest
  opened : s'.opened = s.opened
  settled : s'.settled = s.settled ++ [request]

theorem mem_pending_of_lookup (hd : s.pendingPublishRequests.lookup h = some d) :
    h ∈ s.pendingPublishRequests := by
  rw [← AList.lookup_isSome, hd]
  rfl

theorem removePendingPublishRequest_of_mem (hmem : h ∈ s.pendingPublishRequests) :
    s.removePendingPublishRequest h =
      .ok { s with pendingPublishRequests := s.pendingPublishRequests.erase h } :=
  if_pos hmem

theorem acceptPublishRequest_of_none (hd : s.pendingPublishRequests.lookup h = none) :
    s.acceptPublishRequest h = .ok s := by
  simp only [acceptPublishRequest, hd]

theorem rejectPublishRequest_of_none (hd : s.pendingPublishRequests.lookup h = none) :
    s.rejectPublishRequest h = .ok s := by
  simp only [rejectPublishRequest, hd]

/-- The state after the request of `h` is accepted. -/
def accepted (s : HazeContactList P a) (h : TpHandle P a) (request : Nat) :
    HazeContactList P a :=
  { s.call (.allow request) with
    handles := s.handles.erase request
    publishingTo := tpHandleSetAdd s.publishingTo h
    pendingPublishRequests := s.pendingPublishRequests.erase h }

/-- The state after the request of `h` is rejected. -/
def rejected (s : HazeContactList P a) (h : TpHandle P a) (request : Nat) :
    HazeContactList P a :=
  { s.call (.deny request) with
    handles := s.handles.erase request
    notPublishingTo := tpHandleSetAdd s.notPublishingTo h
    pendingPublishRequests := s.pendingPublishRequests.erase h }

/-- The state after the request of `h` is closed. -/
def closed (s : HazeContactList P a) (h : TpHandle P a) (request : Nat) :
    HazeContactList P a :=
  { s.call (.closeAccountRequest request) with
    handles := s.handles.erase request
    notPublishingTo := tpHandleSetAdd s.notPublishingTo h
    pendingPublishRequests := s.pendingPublishRequests.erase h }

theorem acceptPublishRequest_of_some (hd : s.pendingPublishRequests.lookup h = some d) :
    s.acceptPublishRequest h = .ok ((s.accepted h d.ptr).oneContactChanged h) := by
  simp only [acceptPublishRequest, hd]
  rw [removePendingPublishRequest_of_mem]
  · rfl
  · exact mem_pending_of_lookup hd

theorem rejectPublishRequest_of_some (hd : s.pendingPublishRequests.lookup h = some d) :
    s.rejectPublishRequest h = .ok ((s.rejected h d.ptr).oneContactChanged h) := by
  simp only [rejectPublishRequest, hd]
  rw [removePendingPublishRequest_of_mem]
  · rfl
  · exact mem_pending_of_lookup hd

theorem closeAccountRequest_of_some {request : Nat} (hd : s.derefRequest request = some d)
    (hmem : d.handle ∈ s.pendingPublishRequests) :
    s.closeAccountRequest request =
      .ok ((s.closed d.handle request).oneContactChanged d.handle) := by
  have hderef : ({ s.call (.closeAccountRequest request) with
      handles := s.handles.erase request } : HazeContactList P a).derefRequest request
      = some d := hd
  simp only [closeAccountRequest, hderef]
  rw [removePendingPublishRequest_of_mem]
  · rfl
  · exact hmem

theorem removePendingPublishRequest_of_notMem (hmem : h ∉ s.pendingPublishRequests) :
    s.removePendingPublishRequest h = .error .assertion :=
  if_neg hmem

/-- libpurple closes a request that the table has freed. -/
theorem closeAccountRequest_of_none {request : Nat} (hd : s.derefRequest request = none) :
    s.closeAccountRequest request = .error .useAfterFree := by
  have hderef : ({ s.call (.closeAccountRequest request) with
      handles := s.handles.erase request } : HazeContactList P a).derefRequest request
      = none := hd
  simp only [closeAccountRequest, hderef]

theorem closeAccountRequest_of_notMem {request : Nat} (hd : s.derefRequest request = some d)
    (hmem : d.handle ∉ s.pendingPublishRequests) :
    s.closeAccountRequest request = .error .assertion := by
  have hderef : ({ s.call (.closeAccountRequest request) with
      handles := s.handles.erase request } : HazeContactList P a).derefRequest request
      = some d := hd
  simp only [closeAccountRequest, hderef]
  rw [removePendingPublishRequest_of_notMem]
  · rfl
  · exact hmem

theorem forgets_accepted (s : HazeContactList P a) (h : TpHandle P a) (request : Nat) :
    Forgets s h request ((s.accepted h request).oneContactChanged h) where
  pending := rfl
  handles := rfl
  nextRequest := rfl
  opened := by simp [opened, accepted, oneContactChanged, call, Call.opens]
  settled := by simp [settled, accepted, oneContactChanged, call, Call.settles]

theorem forgets_rejected (s : HazeContactList P a) (h : TpHandle P a) (request : Nat) :
    Forgets s h request ((s.rejected h request).oneContactChanged h) where
  pending := rfl
  handles := rfl
  nextRequest := rfl
  opened := by simp [opened, rejected, oneContactChanged, call, Call.opens]
  settled := by simp [settled, rejected, oneContactChanged, call, Call.settles]

theorem forgets_closed (s : HazeContactList P a) (h : TpHandle P a) (request : Nat) :
    Forgets s h request ((s.closed h request).oneContactChanged h) where
  pending := rfl
  handles := rfl
  nextRequest := rfl
  opened := by simp [opened, closed, oneContactChanged, call, Call.opens]
  settled := by simp [settled, closed, oneContactChanged, call, Call.settles]

theorem opened_requestAuthorize (s : HazeContactList P a) (remoteUser : String)
    (message : Option String) :
    (s.requestAuthorize remoteUser message).opened = s.opened ++ [s.nextRequest] := by
  simp [opened, requestAuthorize, oneContactChanged, call, Call.opens, List.filterMap_cons]

theorem settled_requestAuthorize (s : HazeContactList P a) (remoteUser : String)
    (message : Option String) :
    (s.requestAuthorize remoteUser message).settled = s.settled := by
  simp [settled, requestAuthorize, oneContactChanged, call, Call.settles]

/-- The table after a request from a contact that had none. -/
theorem lookup_requestAuthorize {remoteUser : String} {message : Option String}
    (hnone : s.pendingPublishRequests.lookup (tpHandleEnsure P a remoteUser) = none)
    (h : TpHandle P a) (d : PublishRequestData P a) :
    (s.requestAuthorize remoteUser message).pendingPublishRequests.lookup h = some d ↔
      (h = tpHandleEnsure P a remoteUser ∧ d = ⟨s.nextRequest, h, message⟩) ∨
        s.pendingPublishRequests.lookup h = some d := by
  show (s.pendingPublishRequests.insert (tpHandleEnsure P a remoteUser)
    ⟨s.nextRequest, tpHandleEnsure P a remoteUser, message⟩).lookup h = some d ↔ _
  by_cases heq : h = tpHandleEnsure P a remoteUser
  · subst heq
    rw [AList.lookup_insert, hnone]
    simp [eq_comm]
  · rw [AList.lookup_insert_ne heq]
    simp [heq]

/-! ## The invariant -/

/-- libpurple and the table hold the same requests, each under its own contact, and nothing
is lost: what was handed over is held, answered or closed. -/
structure RequestsKept (s : HazeContactList P a) : Prop where
  keyed : ∀ h d, s.pendingPublishRequests.lookup h = some d → d.handle = h
  live : ∀ r, r ∈ s.handles ↔ ∃ h d, s.pendingPublishRequests.lookup h = some d ∧ d.ptr = r
  inj : ∀ h d h' d', s.pendingPublishRequests.lookup h = some d →
    s.pendingPublishRequests.lookup h' = some d' → d.ptr = d'.ptr → h = h'
  opened : s.opened = List.range s.nextRequest
  ledger : Ledger.Balanced s.opened s.handles s.settled

theorem RequestsKept.init (bl : BuddyList P) :
    RequestsKept (init bl : HazeContactList P a) where
  keyed := by intro h d hd; cases hd
  live := by
    intro r
    constructor
    · intro hr; cases hr
    · rintro ⟨h, d, hd, -⟩; cases hd
  inj := by intro h d h' d' hd; cases hd
  opened := rfl
  ledger := Ledger.Balanced.nil

theorem RequestsKept.nodup (hs : RequestsKept s) : s.opened.Nodup := by
  rw [hs.opened]
  exact List.nodup_range

theorem RequestsKept.lt (hs : RequestsKept s) {r : Nat} (hr : r ∈ s.handles) :
    r < s.nextRequest := by
  have hopen : r ∈ s.opened := (hs.ledger.mem_opened r).mpr (Or.inl hr)
  rw [hs.opened] at hopen
  exact List.mem_range.mp hopen

/-- The operations that move buddies keep the invariant. -/
theorem RequestsKept.same (hs : RequestsKept s) (h : SameRequests s s') : RequestsKept s' where
  keyed := by rw [h.pending]; exact hs.keyed
  live := by rw [h.pending, h.handles]; exact hs.live
  inj := by rw [h.pending]; exact hs.inj
  opened := by rw [h.opened, h.nextRequest]; exact hs.opened
  ledger := by rw [h.opened, h.handles, h.settled]; exact hs.ledger

theorem lookup_erase_eq_some {h' : TpHandle P a} {d' : PublishRequestData P a} :
    (s.pendingPublishRequests.erase h).lookup h' = some d' ↔
      h' ≠ h ∧ s.pendingPublishRequests.lookup h' = some d' := by
  by_cases heq : h' = h
  · subst heq
    simp
  · rw [AList.lookup_erase_ne heq]
    simp [heq]

/-- Settling the request of a contact keeps the invariant. -/
theorem RequestsKept.forget (hs : RequestsKept s)
    (hd : s.pendingPublishRequests.lookup h = some d) (hf : Forgets s h d.ptr s') :
    RequestsKept s' := by
  have hmem : d.ptr ∈ s.handles := (hs.live d.ptr).mpr ⟨h, d, hd, rfl⟩
  have hnodup : s.handles.Nodup := hs.ledger.nodup_outstanding hs.nodup
  refine ⟨?_, ?_, ?_, ?_, ?_⟩
  · intro h' d' hd'
    rw [hf.pending, lookup_erase_eq_some] at hd'
    exact hs.keyed h' d' hd'.2
  · intro r
    rw [hf.handles, hnodup.mem_erase_iff, hs.live, hf.pending]
    constructor
    · rintro ⟨hne, h', d', hd', rfl⟩
      -- the request of `h` itself is the one that libpurple forgot
      refine ⟨h', d', lookup_erase_eq_some.mpr ⟨fun heq => hne ?_, hd'⟩, rfl⟩
      subst heq
      rw [hd] at hd'
      cases hd'
      rfl
    · rintro ⟨h', d', hd', rfl⟩
      obtain ⟨hne, hd'⟩ := lookup_erase_eq_some.mp hd'
      exact ⟨fun heq => hne (hs.inj h' d' h d hd' hd heq), h', d', hd', rfl⟩
  · intro h₁ d₁ h₂ d₂ hd₁ hd₂ heq
    rw [hf.pending, lookup_erase_eq_some] at hd₁ hd₂
    exact hs.inj h₁ d₁ h₂ d₂ hd₁.2 hd₂.2 heq
  · rw [hf.opened, hf.nextRequest, hs.opened]
  · rw [hf.opened, hf.handles, hf.settled]
    exact hs.ledger.settle hmem

/-- A request from a contact without a pending one keeps the invariant. -/
theorem RequestsKept.requestAuthorize (hs : RequestsKept s) (remoteUser : String)
    (message : Option String)
    (hnew : tpHandleEnsure P a remoteUser ∉ s.pendingPublishRequests) :
    RequestsKept (s.requestAuthorize remoteUser message) := by
  have hopened := opened_requestAuthorize s remoteUser message
  have hsettled := settled_requestAuthorize s remoteUser message
  have hlookup := @lookup_requestAuthorize P a s remoteUser message
    (AList.lookup_eq_none.mpr hnew)
  have hfresh : ∀ h d, s.pendingPublishRequests.lookup h = some d → d.ptr ≠ s.nextRequest := by
    intro h d hd
    have := hs.lt ((hs.live d.ptr).mpr ⟨h, d, hd, rfl⟩)
    omega
  refine ⟨?_, ?_, ?_, ?_, ?_⟩
  · intro h d hd
    rcases (hlookup h d).mp hd with ⟨-, rfl⟩ | hd
    · rfl
    · exact hs.keyed h d hd
  · intro r
    show r ∈ s.handles ++ [s.nextRequest] ↔ _
    rw [List.mem_append, List.mem_singleton, hs.live]
    simp only [hlookup]
    constructor
    · rintro (⟨h, d, hd, rfl⟩ | rfl)
      · exact ⟨h, d, Or.inr hd, rfl⟩
      · exact ⟨_, _, Or.inl ⟨rfl, rfl⟩, rfl⟩
    · rintro ⟨h, d, ⟨-, rfl⟩ | hd, rfl⟩
      · exact Or.inr rfl
      · exact Or.inl ⟨h, d, hd, rfl⟩
  · intro h₁ d₁ h₂ d₂ hd₁ hd₂ heq
    -- the address of the new request is above every other
    rcases (hlookup h₁ d₁).mp hd₁ with ⟨rfl, rfl⟩ | hd₁ <;>
      rcases (hlookup h₂ d₂).mp hd₂ with ⟨rfl, rfl⟩ | hd₂
    · rfl
    · exact absurd heq.symm (hfresh h₂ d₂ hd₂)
    · exact absurd heq (hfresh h₁ d₁ hd₁)
    · exact hs.inj h₁ d₁ h₂ d₂ hd₁ hd₂ heq
  · rw [hopened, hs.opened]
    exact List.range_succ.symm
  · rw [hopened, hsettled]
    exact hs.ledger.push s.nextRequest

/-! ## The request at an address -/

theorem mem_live_iff {r : Nat} : (s.derefRequest r).isSome ↔
    ∃ h d, s.pendingPublishRequests.lookup h = some d ∧ d.ptr = r := by
  simp only [derefRequest, List.find?_isSome, List.mem_map, decide_eq_true_eq]
  constructor
  · rintro ⟨d, ⟨⟨h, d⟩, hmem, rfl⟩, hr⟩
    exact ⟨h, d, AList.mem_lookup_iff.mpr hmem, hr⟩
  · rintro ⟨h, d, hd, hr⟩
    exact ⟨d, ⟨⟨h, d⟩, AList.mem_lookup_iff.mp hd, rfl⟩, hr⟩

/-- The request found at an address is in the table under its own contact. -/
theorem RequestsKept.lookup_of_deref (hs : RequestsKept s) {r : Nat}
    (hd : s.derefRequest r = some d) :
    s.pendingPublishRequests.lookup d.handle = some d ∧ d.ptr = r := by
  have hr : d.ptr = r := by simpa using List.find?_some hd
  obtain ⟨⟨h, d'⟩, hmem, rfl⟩ := List.mem_map.mp (List.mem_of_find?_eq_some hd)
  have hlookup := AList.mem_lookup_iff.mpr hmem
  have hkey := hs.keyed h d' hlookup
  subst hkey
  exact ⟨hlookup, hr⟩

theorem RequestsKept.deref_of_mem (hs : RequestsKept s) {r : Nat} (hr : r ∈ s.handles) :
    ∃ d, s.derefRequest r = some d ∧ s.pendingPublishRequests.lookup d.handle = some d ∧
      d.ptr = r := by
  have hsome := mem_live_iff.mpr ((hs.live r).mp hr)
  obtain ⟨d, hd⟩ := Option.isSome_iff_exists.mp hsome
  exact ⟨d, hd, hs.lookup_of_deref hd⟩

/-- The table holds a request exactly as long as libpurple does. -/
theorem RequestsKept.deref_isSome (hs : RequestsKept s) {r : Nat} :
    (s.derefRequest r).isSome ↔ r ∈ s.handles := by
  rw [mem_live_iff, hs.live]

/-! ## Runs -/

/-- What happens to publish requests. -/
inductive RequestEvent (P : Libpurple) (a : PurpleAccount) where
  | requestAuthorize (remoteUser : String) (message : Option String)
  | acceptPublishRequest (h : TpHandle P a)
  | rejectPublishRequest (h : TpHandle P a)
  | removeContact (h : TpHandle P a)
  | closeAccountRequest (request : Nat)

/-- The contact list as a machine over these events. -/
def requests (P : Libpurple) (a : PurpleAccount) :
    Machine (HazeContactList P a) (RequestEvent P a) Fault where
  step
    | s, .requestAuthorize remoteUser message => .ok (s.requestAuthorize remoteUser message)
    | s, .acceptPublishRequest h => s.acceptPublishRequest h
    | s, .rejectPublishRequest h => s.rejectPublishRequest h
    | s, .removeContact h => s.removeContact h
    | s, .closeAccountRequest request => s.closeAccountRequest request

/-- libpurple closes only requests it still holds. -/
def RequestLegal (s : HazeContactList P a) : RequestEvent P a → Prop
  | .closeAccountRequest request => request ∈ s.handles
  | _ => True

/-- No contact asks again while its earlier request is pending. -/
def NoSecondRequest (s : HazeContactList P a) : RequestEvent P a → Prop
  | .requestAuthorize remoteUser _ => tpHandleEnsure P a remoteUser ∉ s.pendingPublishRequests
  | _ => True

instance (s : HazeContactList P a) : DecidablePred (RequestLegal s)
  | .closeAccountRequest request => inferInstanceAs (Decidable (request ∈ s.handles))
  | .requestAuthorize _ _ => inferInstanceAs (Decidable True)
  | .acceptPublishRequest _ => inferInstanceAs (Decidable True)
  | .rejectPublishRequest _ => inferInstanceAs (Decidable True)
  | .removeContact _ => inferInstanceAs (Decidable True)

instance (s : HazeContactList P a) : DecidablePred (NoSecondRequest s)
  | .requestAuthorize remoteUser _ =>
      inferInstanceAs (Decidable (tpHandleEnsure P a remoteUser ∉ s.pendingPublishRequests))
  | .acceptPublishRequest _ => inferInstanceAs (Decidable True)
  | .rejectPublishRequest _ => inferInstanceAs (Decidable True)
  | .removeContact _ => inferInstanceAs (Decidable True)
  | .closeAccountRequest _ => inferInstanceAs (Decidable True)

/-- Rejecting never fails: `remove_pending_publish_request` runs only for a key that was
found. -/
theorem RequestsKept.reject (hs : RequestsKept s) (h : TpHandle P a) :
    ∃ s', s.rejectPublishRequest h = .ok s' ∧ RequestsKept s' := by
  cases hd : s.pendingPublishRequests.lookup h with
  | none => exact ⟨s, rejectPublishRequest_of_none hd, hs⟩
  | some d => exact ⟨_, rejectPublishRequest_of_some hd, hs.forget hd (forgets_rejected s h _)⟩

theorem RequestsKept.accept (hs : RequestsKept s) (h : TpHandle P a) :
    ∃ s', s.acceptPublishRequest h = .ok s' ∧ RequestsKept s' := by
  cases hd : s.pendingPublishRequests.lookup h with
  | none => exact ⟨s, acceptPublishRequest_of_none hd, hs⟩
  | some d => exact ⟨_, acceptPublishRequest_of_some hd, hs.forget hd (forgets_accepted s h _)⟩

/-- Closing a request that libpurple holds finds it, and forgets that one. -/
theorem RequestsKept.close (hs : RequestsKept s) {request : Nat}
    (hr : request ∈ s.handles) :
    ∃ d s', s.pendingPublishRequests.lookup d.handle = some d ∧ d.ptr = request ∧
      s.closeAccountRequest request = .ok s' ∧ RequestsKept s' ∧
      Forgets s d.handle request s' := by
  obtain ⟨d, hderef, hd, hptr⟩ := hs.deref_of_mem hr
  have hf := forgets_closed s d.handle request
  refine ⟨d, _, hd, hptr, closeAccountRequest_of_some hderef (mem_pending_of_lookup hd), ?_, hf⟩
  rw [← hptr] at hf ⊢
  exact hs.forget hd hf

/-- One event keeps the invariant and does not fail. -/
theorem RequestsKept.step (hs : RequestsKept s) {e : RequestEvent P a} (hlegal : RequestLegal s e)
    (hsecond : NoSecondRequest s e) :
    ∃ s', (requests P a).step s e = .ok s' ∧ RequestsKept s' := by
  cases e with
  | requestAuthorize remoteUser message =>
      exact ⟨_, rfl, hs.requestAuthorize remoteUser message hsecond⟩
  | acceptPublishRequest h => exact hs.accept h
  | rejectPublishRequest h => exact hs.reject h
  | removeContact h =>
      have hsame := sameRequests_removeBuddies s (s.blist.purpleFindBuddies a (some h.inspect))
      exact (hs.same hsame).reject h
  | closeAccountRequest request =>
      obtain ⟨d, s', -, -, hclose, hs', -⟩ := hs.close hlegal
      exact ⟨s', hclose, hs'⟩

/-- Every request is accounted for. -/
structure Accounted (s : HazeContactList P a) : Prop where
  /-- what is neither answered nor closed is still in the table, and libpurple holds it -/
  outstanding : ∀ r ∈ s.opened, r ∉ s.settled → (s.derefRequest r).isSome ∧ r ∈ s.handles
  /-- no request is answered or closed twice, or answered and closed -/
  once : ∀ r, s.settled.count r ≤ 1
  /-- closing an outstanding request forgets that request and no other -/
  close : ∀ r ∈ s.handles, ∃ s', s.closeAccountRequest r = .ok s' ∧
    ∀ r', (s'.derefRequest r').isSome ↔ r' ≠ r ∧ (s.derefRequest r').isSome

theorem RequestsKept.accounted (hs : RequestsKept s) : Accounted s where
  outstanding := by
    intro r hopen hsettled
    have hr : r ∈ s.handles := ((hs.ledger.mem_opened r).mp hopen).resolve_right hsettled
    exact ⟨hs.deref_isSome.mpr hr, hr⟩
  once := hs.ledger.count_settled_le_one hs.nodup
  close := by
    intro r hr
    obtain ⟨d, s', -, -, hclose, hs', hf⟩ := hs.close hr
    refine ⟨s', hclose, fun r' => ?_⟩
    rw [hs'.deref_isSome, hs.deref_isSome, hf.handles,
      (hs.ledger.nodup_outstanding hs.nodup).mem_erase_iff]

/-- **Every publish request is settled exactly once**, in every run in which no contact asks
again while its earlier request is pending. -/
theorem requests_settled_once (bl : BuddyList P) (es : List (RequestEvent P a))
    (hes : (requests P a).Meets (fun s e => RequestLegal s e ∧ NoSecondRequest s e) (init bl) es) :
    ∃ s, (requests P a).run (init bl) es = .ok s ∧ Accounted s := by
  obtain ⟨s, hrun, hs⟩ := Machine.run_ok_of_invariant
    (fun _ _ hs hok => hs.step hok.1 hok.2) (RequestsKept.init bl) hes
  exact ⟨s, hrun, hs.accounted⟩

/-- Two contacts ask; one is accepted, the other withdraws. -/
theorem requests_settled_once_two :
    ∃ s, (requests Libpurple.plain 0).run (init BuddyList.empty)
        [.requestAuthorize "bob" (some "hi"), .requestAuthorize "carol" none,
          .acceptPublishRequest ⟨"bob", rfl⟩, .closeAccountRequest 1] = .ok s ∧ Accounted s :=
  requests_settled_once _ _ (by decide)

/-- A contact asks twice, and libpurple closes the first request: the table has freed it. -/
theorem second_request_dangles :
    ¬ ∀ es : List (RequestEvent Libpurple.plain 0),
      (requests Libpurple.plain 0).Meets RequestLegal (init BuddyList.empty) es →
      ∃ s, (requests Libpurple.plain 0).run (init BuddyList.empty) es = .ok s ∧
        Accounted s := by
  intro hall
  obtain ⟨s, hrun, -⟩ := hall [.requestAuthorize "bob" none, .requestAuthorize "bob" none,
    .closeAccountRequest 0] (by decide)
  have hfault : (requests Libpurple.plain 0).run (init BuddyList.empty)
      [.requestAuthorize "bob" none, .requestAuthorize "bob" none, .closeAccountRequest 0]
      = .error .useAfterFree := by rfl
  rw [hfault] at hrun
  cases hrun

end HazeContactList

end Haze
