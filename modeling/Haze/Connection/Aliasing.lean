import Haze.Basic.Writes
import Haze.ContactList.Model
import Mathlib.Data.Finmap

set_option autoImplicit false

/-! # `connection-aliasing.c`

The methods of the Aliasing interface on what they see of a connection: the account's
`PurpleConnection`, the handles, the buddy list and the aliases in it. `SetAliases` goes through
a hash table; an order in which it may do so is an `AList`, and the table itself is the `Finmap`
that all these orders share.

The state is that of `connection-avatars.c` as well.
-/

namespace Haze

/-! ## The state -/

/-- `PurpleBuddyIconSpec`, without what Haze does not read. -/
structure PurpleBuddyIconSpec where
  format : Option String
  minWidth : Nat
  minHeight : Nat
  maxWidth : Nat
  maxHeight : Nat
  maxFilesize : Nat
  deriving DecidableEq

/-- What these methods ask of the `PurplePluginProtocolInfo`. -/
structure PrplInfo where
  /-- whether `alias_buddy` is set -/
  aliasBuddy : Bool
  iconSpec : PurpleBuddyIconSpec
  deriving DecidableEq

/-- A `PurpleConnection`. -/
structure PurpleConnection where
  prpl : PrplInfo
  displayName : Option String
  deriving DecidableEq

/-- The repository of contact handles. A name has one handle, and no name has the handle 0. -/
structure TpHandleRepo (P : Libpurple) (a : PurpleAccount) where
  inspect : Nat → Option (TpHandle P a)
  inspect_zero : inspect 0 = none
  inspect_inj : ∀ h h' n, inspect h = some n → inspect h' = some n → h = h'

/-- The handles are given out in the order in which the names come up. -/
def TpHandleRepo.ofNames {P : Libpurple} {a : PurpleAccount} (names : List (TpHandle P a))
    (hnames : names.Nodup) : TpHandleRepo P a where
  inspect
    | 0 => none
    | handle + 1 => names[handle]?
  inspect_zero := rfl
  inspect_inj := by
    intro h h' n hn hn'
    cases h with
    | zero => cases hn
    | succ h =>
        cases h' with
        | zero => cases hn'
        | succ h' =>
            obtain ⟨hlt, -⟩ := List.getElem?_eq_some_iff.mp hn
            rw [(List.getElem?_inj hlt hnames).mp (hn.trans hn'.symm)]

/-- An error that a method returns: one that Haze makes itself, the one of
`TP_BASE_CONNECTION_ERROR_IF_NOT_CONNECTED`, or the one that `tp_handle_is_valid` sets. -/
inductive ClientError where
  | gError (error : GError)
  | notConnected
  | invalidHandle (handle : Nat)
  deriving DecidableEq

/-- The calls into libpurple and the signals. -/
inductive ClientEffect (P : Libpurple) (a : PurpleAccount) where
  /-- `purple_account_set_public_alias` -/
  | purpleAccountSetPublicAlias (newAlias : String)
  /-- `serv_alias_buddy`, with the alias the buddy has then -/
  | servAliasBuddy (buddy : PurpleBuddy) (localAlias : Option String)
  | aliasesChanged (contact : TpHandle P a) (newAlias : String)
  | purpleBuddyIconsSetAccountIcon (icon : Option (List UInt8))
  | avatarUpdated (contact : Nat) (token : String)
  | avatarRetrieved (contact : Nat) (token : String) (avatar : List UInt8)
  deriving DecidableEq

/-- The alias that is requested for the account itself. -/
def ClientEffect.publicAlias {P : Libpurple} {a : PurpleAccount} : ClientEffect P a → Option String
  | .purpleAccountSetPublicAlias newAlias => some newAlias
  | _ => none

/-- What the methods see of a connection. The handle of the account's own name is there before
libpurple makes a `PurpleConnection`. -/
structure ClientConnection (P : Libpurple) (a : PurpleAccount) where
  /-- `base->status` -/
  status : TpConnectionStatus
  /-- `base->self_handle` -/
  selfHandle : Nat
  contactHandles : TpHandleRepo P a
  /-- `account->gc` -/
  gc : Option PurpleConnection
  /-- libpurple's buddy list -/
  list : BuddyList P
  /-- `buddy->alias` -/
  localAlias : PurpleBuddy → Option String
  /-- `buddy->server_alias` -/
  serverAlias : PurpleBuddy → Option String
  /-- the data of a buddy's icon -/
  icon : PurpleBuddy → Option (List UInt8)
  /-- the data of the account's icon -/
  accountIcon : Option (List UInt8)
  acceptableAvatarMimeTypes : Option (List String)
  effects : List (ClientEffect P a)
  self_valid : gc.isSome → (contactHandles.inspect selfHandle).isSome

/-- What `purple_blist_alias_buddy` stores, given the alias the buddy has and the new one; `none`
if it leaves the buddy alone. -/
abbrev PurpleBlistAliasBuddy := Option String → String → Option (Option String)

/-- Store the alias that is given. -/
def PurpleBlistAliasBuddy.plain : PurpleBlistAliasBuddy := fun old new =>
  if old = some new then none else some (some new)

namespace ClientConnection

variable {P : Libpurple} {a : PurpleAccount}

/-- Record an effect. -/
def emit (s : ClientConnection P a) (e : ClientEffect P a) : ClientConnection P a :=
  { s with effects := s.effects ++ [e] }

/-- `purple_account_is_disconnected`: libpurple destroys a `PurpleConnection` that is
disconnected. -/
def purpleAccountIsDisconnected (s : ClientConnection P a) : Bool := s.gc.isNone

/-- `HAZE_CONNECTION_GET_PRPL_INFO` -/
def hazeConnectionGetPrplInfo (s : ClientConnection P a) : Except Fault PrplInfo :=
  match s.gc with
  | none => .error .nullDereference
  | some gc => .ok gc.prpl

/-- `tp_handle_is_valid` -/
def tpHandleIsValid (s : ClientConnection P a) (handle : Nat) : Bool :=
  (s.contactHandles.inspect handle).isSome

/-- `tp_handles_are_valid`, with the first handle that is not. -/
def tpHandlesAreValid (s : ClientConnection P a) (contacts : List Nat) : Option Nat :=
  contacts.find? (fun handle => !s.tpHandleIsValid handle)

/-- `purple_buddy_get_alias` -/
def purpleBuddyGetAlias (s : ClientConnection P a) (buddy : PurpleBuddy) : String :=
  (s.localAlias buddy).getD (match s.serverAlias buddy with
    | some server => if server = "" then buddy.name else server
    | none => buddy.name)

/-! ## The methods -/

/-- `can_alias` -/
def canAlias (s : ClientConnection P a) : Except Fault Bool := do
  if s.purpleAccountIsDisconnected then throw .assertion
  let prpl ← s.hazeConnectionGetPrplInfo
  return prpl.aliasBuddy

theorem canAlias_none {s : ClientConnection P a} (hgc : s.gc = none) :
    s.canAlias = .error .assertion := by
  simp only [canAlias, purpleAccountIsDisconnected, hgc]
  rfl

theorem canAlias_some {s : ClientConnection P a} {gc : PurpleConnection} (hgc : s.gc = some gc) :
    s.canAlias = .ok gc.prpl.aliasBuddy := by
  simp only [canAlias, purpleAccountIsDisconnected, hazeConnectionGetPrplInfo, hgc]
  rfl

theorem getPrplInfo_none {s : ClientConnection P a} (hgc : s.gc = none) :
    s.hazeConnectionGetPrplInfo = .error .nullDereference := by
  simp only [hazeConnectionGetPrplInfo, hgc]

theorem getPrplInfo_some {s : ClientConnection P a} {gc : PurpleConnection}
    (hgc : s.gc = some gc) : s.hazeConnectionGetPrplInfo = .ok gc.prpl := by
  simp only [hazeConnectionGetPrplInfo, hgc]

/-- `haze_connection_get_alias_flags`; `TP_CONNECTION_ALIAS_FLAG_USER_SET` is 1. -/
def hazeConnectionGetAliasFlags (s : ClientConnection P a) :
    Except Fault (Except ClientError Nat) := do
  if s.status ≠ .connected then return .error .notConnected
  if ← s.canAlias then return .ok 1
  return .ok 0

/-- `get_alias`; without a `PurpleConnection` there is no display name. -/
def getAlias (s : ClientConnection P a) (handle : Nat) (bname : TpHandle P a) : String :=
  if handle = s.selfHandle then (s.gc.bind PurpleConnection.displayName).getD bname.inspect
  else
    match s.list.purpleFindBuddy a bname.inspect with
    | some (_, buddy) => s.purpleBuddyGetAlias buddy
    | none => bname.inspect

/-- The aliases of the handles that are valid, each with its handle. -/
def getAliasesOf (s : ClientConnection P a) (contacts : List Nat) : List (Nat × String) :=
  contacts.filterMap (fun handle =>
    (s.contactHandles.inspect handle).map (fun bname => (handle, s.getAlias handle bname)))

/-- `haze_connection_get_aliases` -/
def hazeConnectionGetAliases (s : ClientConnection P a) (contacts : List Nat) :
    Except ClientError (AList (fun _ : Nat => String)) :=
  match s.tpHandlesAreValid contacts with
  | some handle => .error (.invalidHandle handle)
  | none => .ok ((s.getAliasesOf contacts).foldl (fun aliases e => aliases.insert e.1 e.2) ∅)

/-- `haze_connection_request_aliases` -/
def hazeConnectionRequestAliases (s : ClientConnection P a) (contacts : List Nat) :
    Except ClientError (List String) :=
  match s.tpHandlesAreValid contacts with
  | some handle => .error (.invalidHandle handle)
  | none => .ok ((s.getAliasesOf contacts).map Prod.snd)

/-- `blist_node_aliased_cb` -/
def blistNodeAliasedCb (s : ClientConnection P a) (buddy : PurpleBuddy) : ClientConnection P a :=
  s.emit (.aliasesChanged (tpHandleEnsure P a buddy.name) (s.purpleBuddyGetAlias buddy))

variable (L : PurpleBlistAliasBuddy)

/-- `purple_blist_alias_buddy`, which emits "blist-node-aliased" when it stores an alias. -/
def purpleBlistAliasBuddy (s : ClientConnection P a) (buddy : PurpleBuddy) (newAlias : String) :
    ClientConnection P a :=
  match L (s.localAlias buddy) newAlias with
  | none => s
  | some stored =>
      { s with localAlias := Function.update s.localAlias buddy stored }.blistNodeAliasedCb buddy

/-- `serv_alias_buddy` -/
def servAliasBuddy (s : ClientConnection P a) (buddy : PurpleBuddy) : ClientConnection P a :=
  s.emit (.servAliasBuddy buddy (s.localAlias buddy))

/-- The branches of `set_aliases_foreach`, with the error that they set. -/
def setAliasesEntry (s : ClientConnection P a) (handle : Nat) (newAlias : String) :
    ClientConnection P a × Option ClientError :=
  match s.contactHandles.inspect handle with
  | none => (s, some (.invalidHandle handle))
  | some bname =>
      if handle = s.selfHandle then (s.emit (.purpleAccountSetPublicAlias newAlias), none)
      else
        match s.list.purpleFindBuddy a bname.inspect with
        | none =>
            (s, some (.gError ⟨.notImplemented, "can't set alias for " ++ bname.inspect ++
              " to \"" ++ newAlias ++ "\": not on contact list"⟩))
        | some (_, buddy) => ((s.purpleBlistAliasBuddy L buddy newAlias).servAliasBuddy buddy, none)

/-- `set_aliases_foreach`; an error is kept only if there is none yet. -/
def setAliasesForeach (data : ClientConnection P a × Option ClientError)
    (entry : (_ : Nat) × String) : Except Fault (ClientConnection P a × Option ClientError) := do
  let (s, first) := data
  if ¬ (← s.canAlias) then throw .assertion
  let (s, error) := s.setAliasesEntry L entry.1 entry.2
  return (s, first.or error)

/-- `haze_connection_set_aliases`, where the table is gone through in the order of `aliases`. -/
def hazeConnectionSetAliases (s : ClientConnection P a) (aliases : AList (fun _ : Nat => String)) :
    Except Fault (ClientConnection P a × Except ClientError Unit) := do
  if ¬ (← s.canAlias) then
    return (s, .error (.gError ⟨.notAvailable, "You can't set aliases on this protocol"⟩))
  let (s, error) ← aliases.entries.foldlM (setAliasesForeach L) (s, none)
  match error with
  | some error => return (s, .error error)
  | none => return (s, .ok ())

/-! ## One entry of the table

An entry writes to the alias of one buddy. Distinct handles have distinct names and with them
distinct buddies, so no two entries of a table write to the same alias. -/

/-- The buddy of a handle. -/
def buddyOf (s : ClientConnection P a) (handle : Nat) : Option PurpleBuddy :=
  (s.contactHandles.inspect handle).bind
    (fun bname => (s.list.purpleFindBuddy a bname.inspect).map Prod.snd)

/-- The buddy whose alias an entry writes. -/
def entryBuddy (s : ClientConnection P a) (entry : (_ : Nat) × String) : Option PurpleBuddy :=
  if entry.1 = s.selfHandle then none else s.buddyOf entry.1

/-- What `purple_blist_alias_buddy` makes of the alias of the entry. -/
def storedAlias (entry : (_ : Nat) × String) (old : Option String) : Option String :=
  (L old entry.2).getD old

/-- The handle is invalid, or is neither the self handle nor on the contact list. -/
def Refused (s : ClientConnection P a) (handle : Nat) : Prop :=
  s.contactHandles.inspect handle = none ∨
    (handle ≠ s.selfHandle ∧ s.buddyOf handle = none)

theorem buddyOf_eq_some {s : ClientConnection P a} {handle : Nat} {buddy : PurpleBuddy}
    (h : s.buddyOf handle = some buddy) : ∃ bname, s.contactHandles.inspect handle = some bname ∧
      P.purpleNormalize a buddy.name = bname.id := by
  obtain ⟨bname, hbname, hfind⟩ := Option.bind_eq_some_iff.mp h
  obtain ⟨e, he, rfl⟩ := Option.map_eq_some_iff.mp hfind
  obtain ⟨-, -, -, hname⟩ := BuddyList.mem_findBuddies.mp (List.mem_of_mem_head? he)
  exact ⟨bname, hbname, hname.trans bname.normal⟩

theorem buddyOf_inj {s : ClientConnection P a} {handle handle' : Nat} {buddy : PurpleBuddy}
    (h : s.buddyOf handle = some buddy) (h' : s.buddyOf handle' = some buddy) :
    handle = handle' := by
  obtain ⟨bname, hbname, hname⟩ := buddyOf_eq_some h
  obtain ⟨bname', hbname', hname'⟩ := buddyOf_eq_some h'
  have heq : bname' = bname := by
    cases bname
    cases bname'
    simp only [TpHandle.mk.injEq]
    exact hname'.symm.trans hname
  rw [heq] at hbname'
  exact s.contactHandles.inspect_inj handle handle' bname hbname hbname'

theorem entryBuddy_eq_some {s : ClientConnection P a} {entry : (_ : Nat) × String}
    {buddy : PurpleBuddy} : s.entryBuddy entry = some buddy ↔
      entry.1 ≠ s.selfHandle ∧ s.buddyOf entry.1 = some buddy := by
  unfold entryBuddy
  split_ifs with hself <;> simp [hself]

theorem targetsDisjoint_entries (s : ClientConnection P a)
    (aliases : AList (fun _ : Nat => String)) :
    Writes.TargetsDisjoint s.entryBuddy aliases.entries := by
  have hkeys := List.nodupKeys_iff_pairwise.mp aliases.nodupKeys
  refine hkeys.imp (fun {e e'} hne buddy h h' => hne ?_)
  exact buddyOf_inj (entryBuddy_eq_some.mp h).2 (entryBuddy_eq_some.mp h').2

/-- What the entry of a buddy does. -/
theorem aliasBuddy_eq (s : ClientConnection P a) (buddy : PurpleBuddy) (newAlias : String) :
    ∃ new, (s.purpleBlistAliasBuddy L buddy newAlias).servAliasBuddy buddy =
        { s with
          localAlias := Function.update s.localAlias buddy
            ((L (s.localAlias buddy) newAlias).getD (s.localAlias buddy))
          effects := s.effects ++ new } ∧
      new.filterMap ClientEffect.publicAlias = [] := by
  cases hstored : L (s.localAlias buddy) newAlias with
  | none =>
      refine ⟨[.servAliasBuddy buddy (s.localAlias buddy)], ?_, rfl⟩
      rw [Option.getD_none, Function.update_eq_self]
      simp only [purpleBlistAliasBuddy, hstored]
      rfl
  | some stored =>
      let renamed := { s with localAlias := Function.update s.localAlias buddy stored }
      refine ⟨[.aliasesChanged (tpHandleEnsure P a buddy.name) (renamed.purpleBuddyGetAlias buddy),
        .servAliasBuddy buddy (renamed.localAlias buddy)], ?_, rfl⟩
      rw [Option.getD_some]
      simp only [purpleBlistAliasBuddy, hstored, blistNodeAliasedCb, servAliasBuddy, emit,
        List.append_assoc]
      rfl

/-- **What an entry does**, and nothing else. -/
theorem setAliasesEntry_eq (s : ClientConnection P a) (entry : (_ : Nat) × String) :
    ∃ new, (s.setAliasesEntry L entry.1 entry.2).1 =
        { s with
          localAlias := Writes.write s.entryBuddy (storedAlias L) s.localAlias entry
          effects := s.effects ++ new } ∧
      new.filterMap ClientEffect.publicAlias =
        (if entry.1 = s.selfHandle ∧ s.tpHandleIsValid entry.1 then [entry.2] else []) ∧
      ((s.setAliasesEntry L entry.1 entry.2).2.isSome ↔ s.Refused entry.1) := by
  -- an entry that names no buddy writes no alias
  have hkeep : s.entryBuddy entry = none →
      Writes.write s.entryBuddy (storedAlias L) s.localAlias entry = s.localAlias := by
    intro htarget
    simp only [Writes.write, htarget]
  cases hbname : s.contactHandles.inspect entry.1 with
  | none =>
      have hbuddy : s.buddyOf entry.1 = none := by simp [buddyOf, hbname]
      have hentry : s.setAliasesEntry L entry.1 entry.2 =
          (s, some (.invalidHandle entry.1)) := by
        simp only [setAliasesEntry, hbname]
      rw [hentry, hkeep (by simp [entryBuddy, hbuddy])]
      refine ⟨[], by rw [List.append_nil], ?_, ?_⟩
      · simp [tpHandleIsValid, hbname]
      · simp [Refused, hbname]
  | some bname =>
      by_cases hself : entry.1 = s.selfHandle
      · have hentry : s.setAliasesEntry L entry.1 entry.2 =
            (s.emit (.purpleAccountSetPublicAlias entry.2), none) := by
          simp only [setAliasesEntry, hbname, if_pos hself]
        have hrefused : ¬ s.Refused entry.1 := by
          rintro (hnone | ⟨hne, -⟩)
          · rw [hbname] at hnone
            cases hnone
          · exact hne hself
        rw [hentry, hkeep (by simp [entryBuddy, hself])]
        refine ⟨[.purpleAccountSetPublicAlias entry.2], rfl, ?_, by simp [hrefused]⟩
        rw [if_pos ⟨hself, by simp [tpHandleIsValid, hbname]⟩]
        rfl
      · rw [if_neg (fun h => hself h.1)]
        cases hfind : s.list.purpleFindBuddy a bname.inspect with
        | none =>
            have hbuddy : s.buddyOf entry.1 = none := by simp [buddyOf, hbname, hfind]
            obtain ⟨error, hentry⟩ : ∃ error, s.setAliasesEntry L entry.1 entry.2 =
                (s, some error) := by
              simp only [setAliasesEntry, hbname, if_neg hself, hfind]
              exact ⟨_, rfl⟩
            rw [hentry, hkeep (by simp [entryBuddy, hbuddy])]
            refine ⟨[], by rw [List.append_nil], rfl, ?_⟩
            simp [Refused, hself, hbuddy]
        | some e =>
            have hbuddy : s.buddyOf entry.1 = some e.2 := by simp [buddyOf, hbname, hfind]
            have hentry : s.setAliasesEntry L entry.1 entry.2 =
                ((s.purpleBlistAliasBuddy L e.2 entry.2).servAliasBuddy e.2, none) := by
              simp only [setAliasesEntry, hbname, if_neg hself, hfind]
            have hwrite : Writes.write s.entryBuddy (storedAlias L) s.localAlias entry =
                Function.update s.localAlias e.2
                  ((L (s.localAlias e.2) entry.2).getD (s.localAlias e.2)) := by
              have htarget : s.entryBuddy entry = some e.2 := by
                rw [entryBuddy, if_neg hself, hbuddy]
              simp only [Writes.write, htarget, storedAlias]
            obtain ⟨new, hnew, hpublic⟩ := aliasBuddy_eq L s e.2 entry.2
            rw [hentry, hwrite]
            exact ⟨new, hnew, hpublic, by simp [Refused, hbname, hbuddy]⟩

/-! ## The whole table -/

/-- With a `PurpleConnection` the self handle is valid. -/
theorem selfHandle_valid {s : ClientConnection P a} {supported : Bool}
    (hcan : s.canAlias = .ok supported) : s.tpHandleIsValid s.selfHandle := by
  refine s.self_valid ?_
  cases hgc : s.gc with
  | none =>
      rw [canAlias_none hgc] at hcan
      cases hcan
  | some gc => rfl

/-- **What the loop does**: every entry takes effect, and an error is kept when there is one. -/
theorem foldlM_setAliasesForeach (es : List ((_ : Nat) × String)) :
    ∀ (s : ClientConnection P a) (first : Option ClientError), s.canAlias = .ok true →
    ∃ new error, es.foldlM (setAliasesForeach L) (s, first) = .ok
        ({ s with
            localAlias := Writes.writeAll s.entryBuddy (storedAlias L) s.localAlias es
            effects := s.effects ++ new }, error) ∧
      new.filterMap ClientEffect.publicAlias = es.lookupAll s.selfHandle ∧
      (error.isSome ↔ first.isSome ∨ ∃ e ∈ es, s.Refused e.1) := by
  induction es with
  | nil =>
      intro s first _
      exact ⟨[], first, by rw [List.append_nil]; rfl, rfl, by simp⟩
  | cons entry es ih =>
      intro s first hcan
      obtain ⟨new, hnew, hpublic, herror⟩ := setAliasesEntry_eq L s entry
      have hstep : setAliasesForeach L (s, first) entry =
          .ok ((s.setAliasesEntry L entry.1 entry.2).1,
            first.or (s.setAliasesEntry L entry.1 entry.2).2) := by
        simp only [setAliasesForeach, hcan]
        rfl
      -- nothing that the other entries look at has changed, their own aliases apart
      obtain ⟨new', error', hrest, hpublic', herror'⟩ :=
        ih { s with
            localAlias := Writes.write s.entryBuddy (storedAlias L) s.localAlias entry
            effects := s.effects ++ new }
          (first.or (s.setAliasesEntry L entry.1 entry.2).2) hcan
      refine ⟨new ++ new', error', ?_, ?_, ?_⟩
      · rw [List.foldlM_cons, hstep, hnew]
        refine hrest.trans ?_
        rw [List.append_assoc]
        rfl
      · rw [List.filterMap_append, hpublic, hpublic']
        obtain ⟨handle, newAlias⟩ := entry
        by_cases hself : handle = s.selfHandle
        · subst hself
          rw [if_pos ⟨rfl, selfHandle_valid hcan⟩, List.lookupAll_cons_eq]
          rfl
        · rw [if_neg (fun h => hself h.1), List.lookupAll_cons_ne es _ (Ne.symm hself)]
          rfl
      · rw [herror', Option.isSome_or, Bool.or_eq_true, herror, or_assoc]
        refine or_congr_right ?_
        simp only [List.mem_cons, exists_eq_or_imp]
        rfl

/-- **`SetAliases` does not depend on the order of the table.** The self alias is requested when
the self handle is in the table, the other handles' buddies get what libpurple makes of their own
aliases, all other buddies keep theirs, and an error is returned when some handle is refused. -/
theorem setAliases_any_order (s : ClientConnection P a) (hcan : s.canAlias = .ok true)
    (table : Finmap (fun _ : Nat => String)) :
    ∃ localAlias : PurpleBuddy → Option String,
      (∀ handle newAlias buddy, table.lookup handle = some newAlias → handle ≠ s.selfHandle →
        s.buddyOf handle = some buddy →
        localAlias buddy = (L (s.localAlias buddy) newAlias).getD (s.localAlias buddy)) ∧
      (∀ buddy, (∀ handle ∈ table, handle ≠ s.selfHandle → s.buddyOf handle ≠ some buddy) →
        localAlias buddy = s.localAlias buddy) ∧
      ∀ order : AList (fun _ : Nat => String), order.toFinmap = table →
        ∃ new reply, s.hazeConnectionSetAliases L order =
            .ok ({ s with localAlias := localAlias, effects := s.effects ++ new }, reply) ∧
          new.filterMap ClientEffect.publicAlias = (table.lookup s.selfHandle).toList ∧
          ((∃ error, reply = .error error) ↔ ∃ handle ∈ table,
            s.contactHandles.inspect handle = none ∨
              (handle ≠ s.selfHandle ∧ s.buddyOf handle = none)) := by
  induction table using Finmap.induction_on with
  | H entries =>
  have hdis := s.targetsDisjoint_entries entries
  have hmem : ∀ {handle newAlias}, entries.toFinmap.lookup handle = some newAlias ↔
      ⟨handle, newAlias⟩ ∈ entries.entries := AList.mem_lookup_iff
  refine ⟨Writes.writeAll s.entryBuddy (storedAlias L) s.localAlias entries.entries, ?_, ?_, ?_⟩
  · intro handle newAlias buddy hentry hself hbuddy
    exact Writes.writeAll_of_mem hdis (hmem.mp hentry) (entryBuddy_eq_some.mpr ⟨hself, hbuddy⟩)
  · intro buddy hother
    refine Writes.writeAll_of_ne (fun entry hentry htarget => ?_)
    obtain ⟨hself, hbuddy⟩ := entryBuddy_eq_some.mp htarget
    exact hother entry.1 (AList.mem_keys.mpr (List.mem_map_of_mem hentry)) hself hbuddy
  · intro order horder
    have hperm : order.entries.Perm entries.entries := AList.toFinmap_eq.mp horder
    obtain ⟨new, error, hloop, hpublic, herror⟩ :=
      foldlM_setAliasesForeach L order.entries s none hcan
    rw [← Writes.writeAll_perm (s.targetsDisjoint_entries order) hperm]
    have hlookup : order.entries.lookupAll s.selfHandle =
        (entries.toFinmap.lookup s.selfHandle).toList := by
      rw [← horder]
      exact List.lookupAll_eq_dlookup s.selfHandle order.nodupKeys
    have hrefused : (∃ e ∈ order.entries, s.Refused e.1) ↔
        ∃ handle ∈ entries.toFinmap, s.Refused handle := by
      rw [← horder]
      constructor
      · rintro ⟨e, he, href⟩
        exact ⟨e.1, AList.mem_keys.mpr (List.mem_map_of_mem he), href⟩
      · rintro ⟨handle, hhandle, href⟩
        obtain ⟨e, he, rfl⟩ := List.mem_map.mp (AList.mem_keys.mp hhandle)
        exact ⟨e, he, href⟩
    have hsome : error.isSome ↔ ∃ handle ∈ entries.toFinmap, s.Refused handle := by
      rw [herror, hrefused]
      simp
    refine ⟨new, error.elim (.ok ()) .error, ?_, hpublic.trans hlookup, ?_⟩
    · simp only [hazeConnectionSetAliases, hcan, hloop]
      cases error with
      | none => rfl
      | some error => rfl
    · refine Iff.trans ?_ hsome
      cases error <;> simp

/-- A connection of "me", handle 1, whose contact list has "alice", handle 2, and not "bob",
handle 3. -/
def withAlice : ClientConnection Libpurple.plain 0 where
  status := .connected
  selfHandle := 1
  contactHandles := .ofNames [⟨"me", rfl⟩, ⟨"alice", rfl⟩, ⟨"bob", rfl⟩] (by decide)
  gc := some ⟨⟨true, ⟨none, 0, 0, 0, 0, 0⟩⟩, none⟩
  list := BuddyList.empty.prplAddBuddy 0 "alice" "Buddies"
  localAlias := fun _ => none
  serverAlias := fun _ => none
  icon := fun _ => none
  accountIcon := none
  acceptableAvatarMimeTypes := none
  effects := []
  self_valid := fun _ => rfl

/-- "alice" and the account itself get their aliases, whether "bob" comes before or after. -/
theorem setAliases_any_order_alice :
    ∃ localAlias : PurpleBuddy → Option String,
      localAlias ⟨1, 0, "alice"⟩ = some "Alice" ∧
      ∀ order : AList (fun _ : Nat => String),
        order.toFinmap = [⟨1, "Me"⟩, ⟨2, "Alice"⟩, ⟨3, "Bob"⟩].toFinmap →
          ∃ new error, hazeConnectionSetAliases .plain withAlice order =
              .ok ({ withAlice with localAlias := localAlias, effects := new }, .error error) ∧
            new.filterMap ClientEffect.publicAlias = ["Me"] := by
  obtain ⟨localAlias, halice, -, horder⟩ := setAliases_any_order .plain withAlice rfl
    [⟨1, "Me"⟩, ⟨2, "Alice"⟩, ⟨3, "Bob"⟩].toFinmap
  refine ⟨localAlias, halice 2 "Alice" ⟨1, 0, "alice"⟩ (by decide) (by decide) (by decide), ?_⟩
  intro order heq
  obtain ⟨new, reply, hset, hpublic, hreply⟩ := horder order heq
  obtain ⟨error, rfl⟩ := hreply.mpr ⟨3, by decide, Or.inr (by decide)⟩
  exact ⟨new, error, hset, hpublic⟩

end ClientConnection

end Haze
