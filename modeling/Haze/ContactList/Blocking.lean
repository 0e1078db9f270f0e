import Haze.Basic.Mirror
import Haze.ContactList.Model
import Mathlib.Data.Set.Insert

set_option autoImplicit false

/-! # Blocked contacts

The blocked contacts of a connection are the names on the deny list of its account. Haze does not
change that list: BlockContacts and UnblockContacts ask libpurple to deny or to allow each contact,
and what libpurple makes of it depends on the privacy settings of the account (`PurplePrivacy`).
Whenever libpurple adds a name to the list or removes one, whoever asked for it, it tells Haze, and
Haze tells the bus.
-/

namespace Haze

/-- A change of the deny list: `purple_privacy_deny_add` or `purple_privacy_deny_remove`, with the
name that is passed. -/
inductive DenyChange where
  | add (who : String)
  | remove (who : String)
  deriving DecidableEq

/-- `purple_privacy_deny` and `purple_privacy_allow`: what they make of the privacy settings of an
account, and the changes of its deny list. -/
structure PurplePrivacy (σ : Type*) where
  deny : σ → String → σ × List DenyChange
  allow : σ → String → σ × List DenyChange

/-- What blocking uses of a contact list and its account. -/
structure BlockedContacts (P : Libpurple) (a : PurpleAccount) (σ : Type*) where
  /-- the other privacy settings of the account -/
  privacy : σ
  /-- `account->deny` -/
  deny : List String
  normal : ∀ name ∈ deny, P.purpleNormalize a name = name
  nodup : deny.Nodup
  /-- `account->gc` is there -/
  gc : Bool
  /-- the protocol has `add_deny` -/
  addDeny : Bool
  /-- the list is in the state `TP_CONTACT_LIST_STATE_SUCCESS` -/
  received : Bool
  /-- the entries of `BlockedContactsChanged`, those that are blocked with `true` -/
  changed : List (TpHandle P a × Bool)

namespace BlockedContacts

variable {P : Libpurple} {a : PurpleAccount} {σ : Type*} (R : PurplePrivacy σ)

/-- `dup_blocked_contacts` -/
def dupBlockedContacts (s : BlockedContacts P a σ) : TpHandleSet P a :=
  s.deny.foldl (fun blocked name => tpHandleSetAdd blocked (tpHandleEnsure P a name)) []

/-- `can_block` -/
def canBlock (s : BlockedContacts P a σ) : Bool := s.gc && s.addDeny

/-- `tp_base_contact_list_contact_blocking_changed` -/
def contactBlockingChanged (s : BlockedContacts P a σ) (contacts : TpHandleSet P a) :
    BlockedContacts P a σ :=
  if s.received then
    { s with
      changed := s.changed ++ contacts.map (fun h => (h, decide (h ∈ s.dupBlockedContacts))) }
  else s

/-- `haze_contact_list_deny_changed` -/
def denyChanged (s : BlockedContacts P a σ) (name : String) : BlockedContacts P a σ :=
  s.contactBlockingChanged [tpHandleEnsure P a name]

/-- `purple_privacy_deny_add`, with `deny_added` -/
def purplePrivacyDenyAdd (s : BlockedContacts P a σ) (who : String) : BlockedContacts P a σ :=
  let name := P.purpleNormalize a who
  if h : name ∈ s.deny then s
  else
    { s with
      deny := s.deny ++ [name]
      normal := fun name' hmem => (List.mem_append.mp hmem).elim (s.normal name') fun hnew =>
        (List.mem_singleton.mp hnew) ▸ P.normalize_idem a who
      nodup := List.nodup_append_comm.mp (List.nodup_cons.mpr ⟨h, s.nodup⟩) :
      BlockedContacts P a σ }.denyChanged who

/-- `purple_privacy_deny_remove`, with `deny_removed` -/
def purplePrivacyDenyRemove (s : BlockedContacts P a σ) (who : String) : BlockedContacts P a σ :=
  let name := P.purpleNormalize a who
  if name ∈ s.deny then
    { s with
      deny := s.deny.erase name
      normal := fun name' hmem => s.normal name' (List.mem_of_mem_erase hmem)
      nodup := s.nodup.erase name : BlockedContacts P a σ }.denyChanged who
  else s

/-- A change of the deny list. -/
def change (s : BlockedContacts P a σ) : DenyChange → BlockedContacts P a σ
  | .add who => s.purplePrivacyDenyAdd who
  | .remove who => s.purplePrivacyDenyRemove who

/-- `purple_privacy_deny` or `purple_privacy_allow` -/
def react (s : BlockedContacts P a σ) (reaction : σ × List DenyChange) : BlockedContacts P a σ :=
  reaction.2.foldl change { s with privacy := reaction.1 }

/-- `set_contacts_privacy` -/
def setContactsPrivacy (s : BlockedContacts P a σ) (contacts : TpHandleSet P a) (block : Bool) :
    BlockedContacts P a σ :=
  contacts.foldl (fun s contact =>
    if block then s.react (R.deny s.privacy contact.inspect)
    else s.react (R.allow s.privacy contact.inspect)) s

/-- What happens to the blocked contacts. -/
inductive BlockingEvent (P : Libpurple) (a : PurpleAccount) where
  /-- BlockContacts -/
  | block (contacts : TpHandleSet P a)
  /-- UnblockContacts -/
  | unblock (contacts : TpHandleSet P a)
  /-- the server or the protocol changes the deny list -/
  | change (change : DenyChange)

/-- `block_contacts_async`, `unblock_contacts_async` and changes by others. The two methods are not
called on a list that cannot block. -/
def step (s : BlockedContacts P a σ) : BlockingEvent P a → BlockedContacts P a σ
  | .block contacts => if s.canBlock then s.setContactsPrivacy R contacts true else s
  | .unblock contacts => if s.canBlock then s.setContactsPrivacy R contacts false else s
  | .change change => s.change change

/-- Whether a contact is among those that RequestBlockedContacts returns. -/
def isBlocked (s : BlockedContacts P a σ) (h : TpHandle P a) : Bool :=
  decide (h ∈ s.dupBlockedContacts)

variable {s s' : BlockedContacts P a σ}

/-! ## The deny list -/

/-- The blocked contacts are the names on the list. -/
theorem mem_dupBlockedContacts {h : TpHandle P a} :
    h ∈ s.dupBlockedContacts ↔ h.inspect ∈ s.deny := by
  rw [dupBlockedContacts, mem_foldl_tpHandleSetAdd]
  constructor
  · rintro (h | ⟨name, hname, rfl⟩)
    · cases h
    · show P.purpleNormalize a name ∈ s.deny
      rw [s.normal name hname]
      exact hname
  · intro hmem
    refine Or.inr ⟨h.inspect, hmem, ?_⟩
    rw [tpHandleEnsure_eq_iff]
    exact h.normal

theorem isBlocked_iff {h : TpHandle P a} : s.isBlocked h = true ↔ h.inspect ∈ s.deny := by
  rw [isBlocked, decide_eq_true_iff, mem_dupBlockedContacts]

theorem inspect_eq_iff {h : TpHandle P a} {who : String} :
    h.inspect = P.purpleNormalize a who ↔ h = tpHandleEnsure P a who := by
  rw [eq_comm, @eq_comm _ h, tpHandleEnsure_eq_iff]
  rfl

@[simp] theorem deny_denyChanged (s : BlockedContacts P a σ) (name : String) :
    (s.denyChanged name).deny = s.deny := by
  unfold denyChanged contactBlockingChanged
  split <;> rfl

theorem isBlocked_purplePrivacyDenyAdd (s : BlockedContacts P a σ) (who : String)
    (h : TpHandle P a) :
    (s.purplePrivacyDenyAdd who).isBlocked h = true ↔
      s.isBlocked h = true ∨ h = tpHandleEnsure P a who := by
  rw [← inspect_eq_iff, isBlocked_iff]
  unfold purplePrivacyDenyAdd
  dsimp only
  split_ifs with hmem
  · rw [isBlocked_iff]
    exact ⟨Or.inl, fun hor => hor.elim id fun heq => heq ▸ hmem⟩
  · rw [deny_denyChanged, List.mem_append, List.mem_singleton, isBlocked_iff]

theorem isBlocked_purplePrivacyDenyRemove (s : BlockedContacts P a σ) (who : String)
    (h : TpHandle P a) :
    (s.purplePrivacyDenyRemove who).isBlocked h = true ↔
      s.isBlocked h = true ∧ h ≠ tpHandleEnsure P a who := by
  rw [Ne, ← inspect_eq_iff, isBlocked_iff]
  unfold purplePrivacyDenyRemove
  dsimp only
  split_ifs with hmem
  · rw [deny_denyChanged, s.nodup.mem_erase_iff, and_comm, isBlocked_iff]
  · rw [isBlocked_iff]
    exact ⟨fun hin => ⟨hin, fun heq => hmem (heq ▸ hin)⟩, And.left⟩

/-! ## What clients hear -/

/-- What clients hear when one state follows another: every change, and nothing else. -/
structure Heard (s s' : BlockedContacts P a σ) : Prop where
  received : s'.received = s.received
  canBlock : s'.canBlock = s.canBlock
  told : s.received = true → ∃ new, s'.changed = s.changed ++ new ∧
    Mirror.Tells s.isBlocked s'.isBlocked new ∧ Mirror.News s.isBlocked new

theorem Heard.refl (s : BlockedContacts P a σ) : Heard s s where
  received := rfl
  canBlock := rfl
  told _ := ⟨[], (List.append_nil _).symm, Mirror.tells_nil.mpr fun _ => rfl, trivial⟩

theorem Heard.trans {s'' : BlockedContacts P a σ} (h : Heard s s') (h' : Heard s' s'') :
    Heard s s'' where
  received := h'.received.trans h.received
  canBlock := h'.canBlock.trans h.canBlock
  told hreceived := by
    obtain ⟨new, hnew, htells, hnews⟩ := h.told hreceived
    obtain ⟨new', hnew', htells', hnews'⟩ := h'.told (h.received.trans hreceived)
    refine ⟨new ++ new', ?_, htells.append htells', ?_⟩
    · rw [hnew', hnew, List.append_assoc]
    · rw [Mirror.news_append, Mirror.follow_eq_iff.mpr htells]
      exact ⟨hnews, hnews'⟩

theorem Heard.foldl {α : Type*} {f : BlockedContacts P a σ → α → BlockedContacts P a σ}
    (hf : ∀ s x, Heard s (f s x)) (s : BlockedContacts P a σ) (l : List α) :
    Heard s (l.foldl f s) := by
  induction l generalizing s with
  | nil => exact .refl s
  | cons x l ih => exact (hf s x).trans (ih (f s x))

/-- The deny list has got another length, and Haze is told of the name: clients are told whether it
is blocked now. -/
theorem Heard.denyChanged {t : BlockedContacts P a σ} {who : String}
    (hreceived : t.received = s.received) (hcanBlock : t.canBlock = s.canBlock)
    (hchanged : t.changed = s.changed)
    (hother : ∀ h, h ≠ tpHandleEnsure P a who → t.isBlocked h = s.isBlocked h)
    (hnew : s.isBlocked (tpHandleEnsure P a who) ≠ t.isBlocked (tpHandleEnsure P a who)) :
    Heard s (t.denyChanged who) := by
  unfold BlockedContacts.denyChanged contactBlockingChanged
  refine { received := ?_, canBlock := ?_, told := fun hs => ?_ }
  · split <;> exact hreceived
  · split <;> exact hcanBlock
  · rw [if_pos (hreceived.trans hs)]
    refine ⟨[(tpHandleEnsure P a who, t.isBlocked (tpHandleEnsure P a who))], ?_, ?_, hnew,
      trivial⟩
    · show t.changed ++ _ = _
      rw [hchanged]
      rfl
    · exact Mirror.tells_singleton.mpr ⟨rfl, hother⟩

theorem heard_change (s : BlockedContacts P a σ) (c : DenyChange) : Heard s (s.change c) := by
  cases c with
  | add who =>
      show Heard s (s.purplePrivacyDenyAdd who)
      unfold purplePrivacyDenyAdd
      dsimp only
      split_ifs with hmem
      · exact .refl s
      · refine Heard.denyChanged rfl rfl rfl (fun h hne => ?_) ?_
        · rw [Bool.eq_iff_iff, isBlocked_iff, isBlocked_iff, List.mem_append, List.mem_singleton]
          exact or_iff_left fun heq => hne (inspect_eq_iff.mp heq)
        · rw [Ne, Bool.eq_iff_iff, isBlocked_iff, isBlocked_iff, List.mem_append]
          exact fun hiff => hmem (hiff.mpr (Or.inr (List.mem_singleton_self _)))
  | remove who =>
      show Heard s (s.purplePrivacyDenyRemove who)
      unfold purplePrivacyDenyRemove
      dsimp only
      split_ifs with hmem
      · refine Heard.denyChanged rfl rfl rfl (fun h hne => ?_) ?_
        · rw [Bool.eq_iff_iff, isBlocked_iff, isBlocked_iff, s.nodup.mem_erase_iff]
          exact and_iff_right fun heq => hne (inspect_eq_iff.mp heq)
        · rw [Ne, Bool.eq_iff_iff, isBlocked_iff, isBlocked_iff, s.nodup.mem_erase_iff]
          exact fun hiff => (hiff.mp hmem).1 rfl
      · exact .refl s

theorem heard_react (s : BlockedContacts P a σ) (reaction : σ × List DenyChange) :
    Heard s (s.react reaction) := by
  have hprivacy : Heard s { s with privacy := reaction.1 } :=
    { received := rfl
      canBlock := rfl
      told := fun _ => ⟨[], (List.append_nil _).symm, Mirror.tells_nil.mpr fun _ => rfl, trivial⟩ }
  exact hprivacy.trans (Heard.foldl heard_change _ _)

theorem heard_setContactsPrivacy (s : BlockedContacts P a σ) (contacts : TpHandleSet P a)
    (block : Bool) : Heard s (s.setContactsPrivacy R contacts block) := by
  refine Heard.foldl (fun s contact => ?_) s contacts
  split
  · exact heard_react s _
  · exact heard_react s _

theorem heard_step (s : BlockedContacts P a σ) (e : BlockingEvent P a) : Heard s (s.step R e) := by
  cases e with
  | block contacts =>
      show Heard s (if s.canBlock then _ else s)
      split
      · exact heard_setContactsPrivacy R s contacts true
      · exact .refl s
  | unblock contacts =>
      show Heard s (if s.canBlock then _ else s)
      split
      · exact heard_setContactsPrivacy R s contacts false
      · exact .refl s
  | change c => exact heard_change s c

/-- libpurple on an account that denies its users. -/
def denyUsers : PurplePrivacy Unit where
  deny _ who := ((), [.add who])
  allow _ who := ((), [.remove who])

/-- The contact list of such an account, which has denied nobody yet. -/
def nobodyBlocked : BlockedContacts Libpurple.plain 0 Unit where
  privacy := ()
  deny := []
  normal _ h := by cases h
  nodup := List.nodup_nil
  gc := true
  addDeny := true
  received := true
  changed := []

/-- "alice" and "bob" are blocked, and "alice" is unblocked on the server. -/
def aliceAndBob : List (BlockingEvent Libpurple.plain 0) :=
  [.block [tpHandleEnsure _ 0 "alice", tpHandleEnsure _ 0 "bob"], .change (.remove "alice")]

/-- What the blocked contacts become with an event, where libpurple does as it is asked. -/
def blockedBy (blocked : Set (TpHandle P a)) : BlockingEvent P a → Set (TpHandle P a)
  | .block contacts => blocked ∪ {h | h ∈ contacts}
  | .unblock contacts => blocked \ {h | h ∈ contacts}
  | .change (.add who) => insert (tpHandleEnsure P a who) blocked
  | .change (.remove who) => blocked \ {tpHandleEnsure P a who}

/-- The blocked contacts as a set. -/
def blocked (s : BlockedContacts P a σ) : Set (TpHandle P a) := {h | s.isBlocked h = true}

/-- The settings under which libpurple does as it is asked: `PURPLE_PRIVACY_DENY_USERS`, in which
the one user is put on the deny list or taken off it. -/
structure DeniesUsers (R : PurplePrivacy σ) (mode : Set σ) : Prop where
  deny : ∀ st ∈ mode, ∀ who, R.deny st who = (st, [.add who])
  allow : ∀ st ∈ mode, ∀ who, R.allow st who = (st, [.remove who])

variable {R} {mode : Set σ}

@[simp] theorem tpHandleEnsure_inspect (h : TpHandle P a) : tpHandleEnsure P a h.inspect = h :=
  tpHandleEnsure_eq_iff.mpr h.normal

@[simp] theorem privacy_change (s : BlockedContacts P a σ) (c : DenyChange) :
    (s.change c).privacy = s.privacy := by
  have hdeny : ∀ (t : BlockedContacts P a σ) (name : String),
      (t.denyChanged name).privacy = t.privacy := by
    intro t name
    unfold denyChanged contactBlockingChanged
    split <;> rfl
  cases c with
  | add who =>
      show (s.purplePrivacyDenyAdd who).privacy = _
      unfold purplePrivacyDenyAdd
      dsimp only
      split_ifs
      · rfl
      · exact hdeny _ who
  | remove who =>
      show (s.purplePrivacyDenyRemove who).privacy = _
      unfold purplePrivacyDenyRemove
      dsimp only
      split_ifs
      · exact hdeny _ who
      · rfl

theorem blocked_change (s : BlockedContacts P a σ) (c : DenyChange) :
    (s.change c).blocked = blockedBy s.blocked (.change c) := by
  ext h
  cases c with
  | add who => exact (s.isBlocked_purplePrivacyDenyAdd who h).trans or_comm
  | remove who => exact s.isBlocked_purplePrivacyDenyRemove who h

/-- The loop over the contacts. -/
theorem blocked_setContactsPrivacy (hR : DeniesUsers R mode) {s : BlockedContacts P a σ}
    (hmode : s.privacy ∈ mode) (contacts : TpHandleSet P a) (block : Bool) :
    (s.setContactsPrivacy R contacts block).privacy ∈ mode ∧
      (s.setContactsPrivacy R contacts block).blocked =
        if block then s.blocked ∪ {h | h ∈ contacts} else s.blocked \ {h | h ∈ contacts} := by
  induction contacts generalizing s with
  | nil => exact ⟨hmode, by simp [setContactsPrivacy]⟩
  | cons contact contacts ih =>
      cases block with
      | true =>
          have hone : s.setContactsPrivacy R (contact :: contacts) true =
              (s.change (.add contact.inspect)).setContactsPrivacy R contacts true := by
            rw [setContactsPrivacy, List.foldl_cons, if_pos rfl, hR.deny _ hmode]
            rfl
          obtain ⟨hmode', hblocked⟩ := ih (s := s.change (.add contact.inspect))
            (by rw [privacy_change]; exact hmode)
          rw [hone]
          refine ⟨hmode', hblocked.trans ?_⟩
          rw [blocked_change, if_pos rfl, if_pos rfl]
          ext h
          simp only [blockedBy, tpHandleEnsure_inspect, Set.mem_union, Set.mem_insert_iff,
            Set.mem_ofPred_eq, List.mem_cons]
          tauto
      | false =>
          have hone : s.setContactsPrivacy R (contact :: contacts) false =
              (s.change (.remove contact.inspect)).setContactsPrivacy R contacts false := by
            rw [setContactsPrivacy, List.foldl_cons, if_neg Bool.false_ne_true,
              hR.allow _ hmode]
            rfl
          obtain ⟨hmode', hblocked⟩ := ih (s := s.change (.remove contact.inspect))
            (by rw [privacy_change]; exact hmode)
          rw [hone]
          refine ⟨hmode', hblocked.trans ?_⟩
          rw [blocked_change, if_neg Bool.false_ne_true, if_neg Bool.false_ne_true]
          ext h
          simp only [blockedBy, tpHandleEnsure_inspect, Set.mem_sdiff, Set.mem_singleton_iff,
            Set.mem_ofPred_eq, List.mem_cons]
          tauto

theorem blocked_step (hR : DeniesUsers R mode) {s : BlockedContacts P a σ}
    (hmode : s.privacy ∈ mode) (hblock : s.canBlock = true) (e : BlockingEvent P a) :
    (s.step R e).privacy ∈ mode ∧ (s.step R e).blocked = blockedBy s.blocked e := by
  cases e with
  | block contacts =>
      show (if s.canBlock then _ else s).privacy ∈ mode ∧ (if s.canBlock then _ else s).blocked = _
      rw [if_pos hblock]
      exact blocked_setContactsPrivacy hR hmode contacts true
  | unblock contacts =>
      show (if s.canBlock then _ else s).privacy ∈ mode ∧ (if s.canBlock then _ else s).blocked = _
      rw [if_pos hblock]
      exact blocked_setContactsPrivacy hR hmode contacts false
  | change c =>
      refine ⟨?_, blocked_change s c⟩
      show (s.change c).privacy ∈ mode
      rw [privacy_change]
      exact hmode

end BlockedContacts

end Haze
