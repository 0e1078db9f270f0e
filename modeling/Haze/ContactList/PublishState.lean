import Haze.ContactList.Announced

set_option autoImplicit false

/-! # What is said of publishing to a contact

Three collections decide what `dup_states` says of publishing to a contact, and an operation on
one of them does not always clear the others: a contact that was accepted stays in
`not_publishing_to`. `PublishRecord` is what they are for: which requests are outstanding, and
what happened last to the requests of each contact, told from the events alone. `Follows` ties
the collections to the record, and every event of the contact list keeps it.
-/

namespace Haze

namespace HazeContactList

variable {P : Libpurple} {a : PurpleAccount} {s s' : HazeContactList P a}
variable {h : TpHandle P a} {d : PublishRequestData P a}

/-! ## The record -/

/-- What happens to the requests of a contact. -/
inductive PublishNews where
  | asked
  | accepted
  | rejected
  | cancelled
  deriving DecidableEq

/-- A request that is neither answered nor closed. -/
structure OutstandingRequest (P : Libpurple) (a : PurpleAccount) where
  request : Nat
  contact : TpHandle P a
  message : Option String
  deriving DecidableEq

/-- The requests that are outstanding, and the last news of each contact's requests. -/
structure PublishRecord (P : Libpurple) (a : PurpleAccount) where
  /-- the number of requests so far, which is the address of the next one -/
  made : Nat
  outstanding : List (OutstandingRequest P a)
  last : TpHandle P a → Option PublishNews

namespace PublishRecord

/-- No request has been made. -/
def init : PublishRecord P a := ⟨0, [], fun _ => none⟩

/-- A contact asks. -/
def ask (v : PublishRecord P a) (h : TpHandle P a) (message : Option String) :
    PublishRecord P a where
  made := v.made + 1
  outstanding := v.outstanding ++ [⟨v.made, h, message⟩]
  last := Function.update v.last h (some .asked)

/-- The outstanding request of a contact, if there is one, comes to its end. -/
def settle (v : PublishRecord P a) (h : TpHandle P a) (news : PublishNews) :
    PublishRecord P a :=
  if ∃ r ∈ v.outstanding, r.contact = h then
    { v with
      outstanding := v.outstanding.filter (fun r => r.contact ≠ h)
      last := Function.update v.last h (some news) }
  else v

/-- A request is taken back. -/
def cancel (v : PublishRecord P a) (request : Nat) : PublishRecord P a :=
  match v.outstanding.find? (fun r => r.request = request) with
  | some r => v.settle r.contact .cancelled
  | none => v

/-- What an event of the contact list means for the requests. Removing a contact turns its
request down. -/
def step (v : PublishRecord P a) : RosterEvent P a → PublishRecord P a
  | .request (.requestAuthorize remoteUser message) =>
      v.ask (tpHandleEnsure P a remoteUser) message
  | .request (.acceptPublishRequest h) => v.settle h .accepted
  | .request (.rejectPublishRequest h) => v.settle h .rejected
  | .request (.removeContact h) => v.settle h .rejected
  | .request (.closeAccountRequest request) => v.cancel request
  | .list _ => v
  | .requestSubscription _ => v

/-- The record of a run. -/
def of (es : List (RosterEvent P a)) : PublishRecord P a := es.foldl step init

theorem of_concat (es : List (RosterEvent P a)) (e : RosterEvent P a) :
    of (es ++ [e]) = (of es).step e := by
  rw [of, List.foldl_append]
  rfl

end PublishRecord

/-! ## The collections follow the record -/

/-- The collections hold what the record says. Of `not_publishing_to` only so much matters: it
has the contacts that were turned down, and none that never asked. -/
structure Follows (v : PublishRecord P a) (s : HazeContactList P a) : Prop where
  made : s.nextRequest = v.made
  outstanding : ∀ r h message, ⟨r, h, message⟩ ∈ v.outstanding ↔
    ∃ d, s.pendingPublishRequests.lookup h = some d ∧ d.ptr = r ∧ d.message = message
  asked : ∀ h, h ∈ s.pendingPublishRequests ↔ v.last h = some .asked
  accepted : ∀ h, h ∈ s.publishingTo ↔ v.last h = some .accepted
  refused : ∀ h, v.last h = some .rejected ∨ v.last h = some .cancelled →
    h ∈ s.notPublishingTo
  never : ∀ h, v.last h = none → h ∉ s.notPublishingTo

theorem Follows.init (bl : BuddyList P) :
    Follows PublishRecord.init (init bl : HazeContactList P a) where
  made := rfl
  outstanding := by
    intro r h message
    constructor
    · intro hr; cases hr
    · rintro ⟨d, hd, -⟩; cases hd
  asked := by simp [HazeContactList.init, PublishRecord.init]
  accepted := by simp [HazeContactList.init, PublishRecord.init]
  refused := by simp [PublishRecord.init]
  never := by simp [HazeContactList.init]

theorem Follows.same {v : PublishRecord P a} (hs : Follows v s) (hsame : SameRequests s s') :
    Follows v s' where
  made := by rw [hsame.nextRequest]; exact hs.made
  outstanding := by rw [hsame.pending]; exact hs.outstanding
  asked := by rw [hsame.pending]; exact hs.asked
  accepted := by rw [hsame.publishingTo]; exact hs.accepted
  refused := by rw [hsame.notPublishingTo]; exact hs.refused
  never := by rw [hsame.notPublishingTo]; exact hs.never

/-- A contact whose request is outstanding is one whose request is pending. -/
theorem Follows.exists_outstanding {v : PublishRecord P a} (hs : Follows v s) :
    (∃ r ∈ v.outstanding, r.contact = h) ↔ h ∈ s.pendingPublishRequests := by
  rw [← AList.lookup_isSome, Option.isSome_iff_exists]
  constructor
  · rintro ⟨⟨r, h', message⟩, hr, rfl⟩
    obtain ⟨d, hd, -⟩ := (hs.outstanding r h' message).mp hr
    exact ⟨d, hd⟩
  · rintro ⟨d, hd⟩
    exact ⟨⟨d.ptr, h, d.message⟩, (hs.outstanding _ _ _).mpr ⟨d, hd, rfl, rfl⟩, rfl⟩

/-- A contact that had no request pending asks. -/
theorem Follows.ask {v : PublishRecord P a} (hs : Follows v s) (remoteUser : String)
    (message : Option String)
    (hnew : tpHandleEnsure P a remoteUser ∉ s.pendingPublishRequests) :
    Follows (v.ask (tpHandleEnsure P a remoteUser) message)
      (s.requestAuthorize remoteUser message) := by
  have hlookup := @lookup_requestAuthorize P a s remoteUser message
    (AList.lookup_eq_none.mpr hnew)
  have hpublishing : (s.requestAuthorize remoteUser message).publishingTo =
      tpHandleSetRemove s.publishingTo (tpHandleEnsure P a remoteUser) := rfl
  have hnot : (s.requestAuthorize remoteUser message).notPublishingTo =
      tpHandleSetAdd s.notPublishingTo (tpHandleEnsure P a remoteUser) := rfl
  have hpending : ∀ h, h ∈ (s.requestAuthorize remoteUser message).pendingPublishRequests ↔
      h = tpHandleEnsure P a remoteUser ∨ h ∈ s.pendingPublishRequests :=
    fun h => AList.mem_insert _
  refine ⟨?_, ?_, ?_, ?_, ?_, ?_⟩
  · have hnext : (s.requestAuthorize remoteUser message).nextRequest = s.nextRequest + 1 := rfl
    rw [hnext, hs.made]
    rfl
  · intro r h m
    simp only [PublishRecord.ask, List.mem_append, List.mem_singleton, hs.outstanding, hlookup,
      ← hs.made]
    constructor
    · rintro (⟨d, hd, hr, hm⟩ | hlast)
      · exact ⟨d, Or.inr hd, hr, hm⟩
      · cases hlast
        exact ⟨_, Or.inl ⟨rfl, rfl⟩, rfl, rfl⟩
    · rintro ⟨d, ⟨rfl, rfl⟩ | hd, hr, hm⟩
      · exact Or.inr (by rw [← hr, ← hm])
      · exact Or.inl ⟨d, hd, hr, hm⟩
  · intro h
    rw [hpending]
    by_cases heq : h = tpHandleEnsure P a remoteUser
    · simp [PublishRecord.ask, heq]
    · simp [PublishRecord.ask, heq, hs.asked]
  · intro h
    rw [hpublishing, mem_tpHandleSetRemove]
    by_cases heq : h = tpHandleEnsure P a remoteUser
    · simp [PublishRecord.ask, heq]
    · simp [PublishRecord.ask, heq, hs.accepted]
  · intro h hrefused
    rw [hnot, mem_tpHandleSetAdd]
    by_cases heq : h = tpHandleEnsure P a remoteUser
    · exact Or.inr heq
    · simp only [PublishRecord.ask, Function.update_of_ne heq] at hrefused
      exact Or.inl (hs.refused h hrefused)
  · intro h hnever
    rw [hnot, mem_tpHandleSetAdd]
    by_cases heq : h = tpHandleEnsure P a remoteUser
    · simp [PublishRecord.ask, heq] at hnever
    · simp only [PublishRecord.ask, Function.update_of_ne heq] at hnever
      exact not_or.mpr ⟨hs.never h hnever, heq⟩

/-- The request of a contact comes to its end. -/
theorem Follows.settle {v : PublishRecord P a} (hs : Follows v s)
    (hd : s.pendingPublishRequests.lookup h = some d) {request : Nat}
    (hforgets : Forgets s h request s') {news : PublishNews} (hnews : news ≠ .asked)
    (hpublishing : s'.publishingTo =
      if news = .accepted then tpHandleSetAdd s.publishingTo h else s.publishingTo)
    (hnot : s'.notPublishingTo =
      if news = .accepted then s.notPublishingTo else tpHandleSetAdd s.notPublishingTo h) :
    Follows (v.settle h news) s' := by
  have haccepted : ∀ h', h' ∈ s'.publishingTo ↔
      h' ∈ s.publishingTo ∨ h' = h ∧ news = .accepted := by
    intro h'
    rw [hpublishing]
    split <;> rename_i heq <;> simp [heq]
  have hrefused : ∀ h', h' ∈ s'.notPublishingTo ↔
      h' ∈ s.notPublishingTo ∨ h' = h ∧ news ≠ .accepted := by
    intro h'
    rw [hnot]
    split <;> rename_i heq <;> simp [heq]
  have hask : h ∈ s.pendingPublishRequests := mem_pending_of_lookup hd
  have hsettle : v.settle h news =
      { v with
        outstanding := v.outstanding.filter (fun r => r.contact ≠ h)
        last := Function.update v.last h (some news) } :=
    if_pos (hs.exists_outstanding.mpr hask)
  have hlast : v.last h = some .asked := (hs.asked h).mp hask
  rw [hsettle]
  refine ⟨?_, ?_, ?_, ?_, ?_, ?_⟩
  · rw [hforgets.nextRequest, hs.made]
  · intro r h' message
    simp only [List.mem_filter, decide_eq_true_eq, hs.outstanding, hforgets.pending,
      lookup_erase_eq_some]
    constructor
    · rintro ⟨⟨d', hd', hr, hm⟩, hne⟩
      exact ⟨d', ⟨hne, hd'⟩, hr, hm⟩
    · rintro ⟨d', ⟨hne, hd'⟩, hr, hm⟩
      exact ⟨⟨d', hd', hr, hm⟩, hne⟩
  · intro h'
    rw [hforgets.pending, AList.mem_erase]
    by_cases heq : h' = h
    · simp [heq, hnews]
    · simp [heq, hs.asked]
  · intro h'
    rw [haccepted]
    by_cases heq : h' = h
    · have hout : h ∉ s.publishingTo := by
        rw [hs.accepted, hlast]
        decide
      simp [heq, hout]
    · simp [heq, hs.accepted]
  · intro h' hnow
    rw [hrefused]
    dsimp only at hnow
    by_cases heq : h' = h
    · subst heq
      rw [Function.update_self] at hnow
      refine Or.inr ⟨rfl, ?_⟩
      rintro rfl
      simp at hnow
    · rw [Function.update_of_ne heq] at hnow
      exact Or.inl (hs.refused h' hnow)
  · intro h' hnow
    rw [hrefused]
    dsimp only at hnow
    by_cases heq : h' = h
    · simp [heq] at hnow
    · rw [Function.update_of_ne heq] at hnow
      exact not_or.mpr ⟨hs.never h' hnow, fun hc => heq hc.1⟩

/-- Nothing is settled when the contact has no request pending. -/
theorem Follows.settle_none {v : PublishRecord P a} (hs : Follows v s)
    (hd : s.pendingPublishRequests.lookup h = none) (news : PublishNews) :
    v.settle h news = v := by
  have hnot : h ∉ s.pendingPublishRequests := AList.lookup_eq_none.mp hd
  exact if_neg (fun hc => hnot (hs.exists_outstanding.mp hc))

theorem Follows.accept {v : PublishRecord P a} (hs : Follows v s)
    (hstep : s.acceptPublishRequest h = .ok s') : Follows (v.settle h .accepted) s' := by
  cases hd : s.pendingPublishRequests.lookup h with
  | none =>
      rw [acceptPublishRequest_of_none hd] at hstep
      cases hstep
      rwa [hs.settle_none hd]
  | some d =>
      rw [acceptPublishRequest_of_some hd] at hstep
      cases hstep
      exact hs.settle hd (forgets_accepted s h d.ptr) (by decide) rfl rfl

theorem Follows.reject {v : PublishRecord P a} (hs : Follows v s)
    (hstep : s.rejectPublishRequest h = .ok s') : Follows (v.settle h .rejected) s' := by
  cases hd : s.pendingPublishRequests.lookup h with
  | none =>
      rw [rejectPublishRequest_of_none hd] at hstep
      cases hstep
      rwa [hs.settle_none hd]
  | some d =>
      rw [rejectPublishRequest_of_some hd] at hstep
      cases hstep
      exact hs.settle hd (forgets_rejected s h d.ptr) (by decide) rfl rfl

theorem Follows.close {v : PublishRecord P a} (hs : Follows v s) (hkept : RequestsKept s)
    {request : Nat} (hr : request ∈ s.handles)
    (hstep : s.closeAccountRequest request = .ok s') : Follows (v.cancel request) s' := by
  obtain ⟨d, hderef, hd, hptr⟩ := hkept.deref_of_mem hr
  have hmem := mem_pending_of_lookup hd
  -- the record finds the same contact under the address
  have hcancel : v.cancel request = v.settle d.handle .cancelled := by
    unfold PublishRecord.cancel
    have hout : ⟨request, d.handle, d.message⟩ ∈ v.outstanding :=
      (hs.outstanding _ _ _).mpr ⟨d, hd, hptr, rfl⟩
    cases hfind : v.outstanding.find? (fun r => r.request = request) with
    | none =>
        have hnone := List.find?_eq_none.mp hfind _ hout
        simp at hnone
    | some r =>
        obtain ⟨r, h', message⟩ := r
        have hr' : r = request := by simpa using List.find?_some hfind
        obtain ⟨d', hd', hptr', -⟩ :=
          (hs.outstanding r h' message).mp (List.mem_of_find?_eq_some hfind)
        have hsame : h' = d.handle :=
          hkept.inj h' d' d.handle d hd' hd (hptr'.trans (hr'.trans hptr.symm))
        rw [hsame]
  rw [closeAccountRequest_of_some hderef hmem] at hstep
  cases hstep
  rw [hcancel]
  exact hs.settle hd (forgets_closed s d.handle request) (by decide) rfl rfl

/-! ## Every run -/

/-- No contact asks again while its earlier request is pending. -/
def AtMostOneRequest (s : HazeContactList P a) : RosterEvent P a → Prop
  | .request e => NoSecondRequest s e
  | _ => True

instance (s : HazeContactList P a) : DecidablePred (AtMostOneRequest s)
  | .list _ => inferInstanceAs (Decidable True)
  | .requestSubscription _ => inferInstanceAs (Decidable True)
  | .request e => inferInstanceAs (Decidable (NoSecondRequest s e))

/-- What the events have left behind. -/
structure PublishKept (v : PublishRecord P a) (s : HazeContactList P a) : Prop where
  follows : Follows v s
  kept : RequestsKept s

theorem PublishKept.same {v : PublishRecord P a} (hs : PublishKept v s)
    (hsame : SameRequests s s') : PublishKept v s' :=
  ⟨hs.follows.same hsame, hs.kept.same hsame⟩

/-- Every event of the contact list is followed in the record. -/
theorem PublishKept.step {v : PublishRecord P a} (hs : PublishKept v s) {e : RosterEvent P a}
    (hlegal : RosterLegal s e) (hone : AtMostOneRequest s e)
    (hstep : (roster P a).step s e = .ok s') : PublishKept (v.step e) s' := by
  cases e with
  | list e => exact hs.same (listStep_same hlegal hstep)
  | requestSubscription h => exact hs.same (requestSubscription_same hstep)
  | request e =>
      have hkept : RequestsKept s' := by
        obtain ⟨s₁, hs₁, hkept⟩ := hs.kept.step hlegal hone
        have heq : (requests P a).step s e = .ok s' := hstep
        rw [hs₁] at heq
        cases heq
        exact hkept
      refine ⟨?_, hkept⟩
      cases e with
      | requestAuthorize remoteUser message =>
          cases hstep
          exact hs.follows.ask remoteUser message hone
      | acceptPublishRequest h => exact hs.follows.accept hstep
      | rejectPublishRequest h => exact hs.follows.reject hstep
      | removeContact h =>
          have hsame := sameRequests_removeBuddies s
            (s.blist.purpleFindBuddies a (some h.inspect))
          exact (hs.follows.same hsame).reject hstep
      | closeAccountRequest request => exact hs.follows.close hs.kept hlegal hstep

/-- What the queries say of publishing. -/
structure PublishStateRight (v : PublishRecord P a) (s : HazeContactList P a) : Prop where
  /-- no contact is both asking and accepted -/
  apart : ∀ h, h ∈ s.pendingPublishRequests → h ∉ s.publishingTo
  /-- a request is outstanding -/
  ask : ∀ r ∈ v.outstanding, (s.dupStates r.contact).publish = .ask ∧
    (s.dupStates r.contact).publishRequest = r.message
  yes : ∀ h, v.last h = some .accepted → (s.dupStates h).publish = .yes
  no : ∀ h, v.last h = some .rejected ∨ v.last h = some .cancelled →
    (s.dupStates h).publish = .no
  unknown : ∀ h, v.last h = none → (s.dupStates h).publish = .unknown
  /-- `dup_contacts` lists the contacts that `dup_states` says something positive of -/
  listed : ∀ h, h ∈ s.dupContacts ↔ (s.dupStates h).subscribe = .yes ∨
    (s.dupStates h).publish = .yes ∨ (s.dupStates h).publish = .ask

theorem dupStates_subscribe_eq_yes : (s.dupStates h).subscribe = .yes ↔ OnList s.blist h := by
  rw [← findBuddy_isSome]
  by_cases hb : (s.blist.purpleFindBuddy a h.inspect).isSome <;> simp [dupStates, hb]

/-- The two queries agree, whatever the collections hold. -/
theorem mem_dupContacts_iff_dupStates : h ∈ s.dupContacts ↔
    (s.dupStates h).subscribe = .yes ∨ (s.dupStates h).publish = .yes ∨
      (s.dupStates h).publish = .ask := by
  rw [mem_dupContacts, dupStates_subscribe_eq_yes, dupStates_publish_eq_yes,
    dupStates_publish_eq_ask]
  by_cases hask : h ∈ s.pendingPublishRequests
  · simp [hask]
  · simp [hask, or_comm]

theorem Follows.publishStateRight {v : PublishRecord P a} (hs : Follows v s) :
    PublishStateRight v s where
  apart := by
    intro h hask hpub
    rw [hs.asked] at hask
    rw [hs.accepted, hask] at hpub
    cases hpub
  ask := by
    rintro ⟨r, h, message⟩ hr
    obtain ⟨d, hd, -, hm⟩ := (hs.outstanding r h message).mp hr
    refine ⟨dupStates_publish_eq_ask.mpr (mem_pending_of_lookup hd), ?_⟩
    simp [dupStates, hd, hm]
  yes := by
    intro h hlast
    refine dupStates_publish_eq_yes.mpr ⟨?_, (hs.accepted h).mpr hlast⟩
    rw [hs.asked, hlast]
    decide
  no := by
    intro h hlast
    have hask : s.pendingPublishRequests.lookup h = none := by
      rw [AList.lookup_eq_none, hs.asked]
      rcases hlast with hlast | hlast <;> rw [hlast] <;> decide
    have hpub : h ∉ s.publishingTo := by
      rw [hs.accepted]
      rcases hlast with hlast | hlast <;> rw [hlast] <;> decide
    simp [dupStates, hask, hpub, hs.refused h hlast]
  unknown := by
    intro h hlast
    have hask : s.pendingPublishRequests.lookup h = none := by
      rw [AList.lookup_eq_none, hs.asked, hlast]
      decide
    have hpub : h ∉ s.publishingTo := by
      rw [hs.accepted, hlast]
      decide
    simp [dupStates, hask, hpub, hs.never h hlast]
  listed := fun _ => mem_dupContacts_iff_dupStates

/-- **The publish state is that of the last news**, and the two roster queries agree, after every
run of the contact list in which no contact asks again while its earlier request is
outstanding. -/
theorem publish_state_follows_last (bl : BuddyList P) (es : List (RosterEvent P a))
    (hes : (roster P a).Meets (fun s e => RosterLegal s e ∧ AtMostOneRequest s e) (init bl) es)
    (hrun : (roster P a).run (init bl) es = .ok s) :
    PublishStateRight (PublishRecord.of es) s := by
  have hkept : PublishKept (PublishRecord.of es) s := by
    refine Machine.run_history (I := fun es s => PublishKept (PublishRecord.of es) s)
      (fun es s e s' hs hok hstep => ?_) ⟨Follows.init bl, RequestsKept.init bl⟩ hes hrun
    rw [PublishRecord.of_concat]
    exact hs.step hok.1 hok.2 hstep
  exact hkept.follows.publishStateRight

/-- Bob asks, is accepted, asks again and takes it back; carol is asking. -/
theorem publish_state_follows_last_bob :
    ∃ s, (roster Libpurple.plain 0).run (init BuddyList.empty)
        [.request (.requestAuthorize "bob" (some "hi")),
          .request (.acceptPublishRequest ⟨"bob", rfl⟩),
          .list (.prplAddBuddy 0 "bob" "Friends"), .request (.requestAuthorize "bob" none),
          .request (.requestAuthorize "carol" none), .request (.closeAccountRequest 1)] = .ok s ∧
      PublishStateRight (PublishRecord.of
        [.request (.requestAuthorize "bob" (some "hi")),
          .request (.acceptPublishRequest ⟨"bob", rfl⟩),
          .list (.prplAddBuddy 0 "bob" "Friends"), .request (.requestAuthorize "bob" none),
          .request (.requestAuthorize "carol" none), .request (.closeAccountRequest 1)]) s :=
  ⟨_, rfl, publish_state_follows_last BuddyList.empty _ (by decide) rfl⟩

end HazeContactList

end Haze
