import Haze.Basic.Log
import Haze.Connection.Aliasing
import Haze.Connection.Attributes

set_option autoImplicit false

/-! # What clients know of aliases

A client that has asked for the aliases of its contacts follows `AliasesChanged`. The signal names
the contact of the buddy that was aliased, with the alias of that buddy, while the alias of a
contact is that of the buddy that libpurple finds for its name, and the account's own alias is its
display name. So the signal is right as long as these are the same (`aliasesChanged_tells_iff`).
-/

namespace Haze

namespace ClientConnection

variable {P : Libpurple} {a : PurpleAccount}

/-- The aliases as an attribute of contacts. -/
def aliases (s : ClientConnection P a) : ContactAttribute P a String where
  list := s.list
  self := s.contactHandles.inspect s.selfHandle
  own contact := (s.gc.bind PurpleConnection.displayName).getD contact.inspect
  ofBuddy := s.purpleBuddyGetAlias
  unknown contact := contact.inspect

/-- The alias of a contact, which GetAliases and RequestAliases return. -/
def aliasOf (s : ClientConnection P a) : TpHandle P a → String := s.aliases.query

/-- What AliasesChanged has said. -/
def announcedAliases (s : ClientConnection P a) : List (TpHandle P a × String) :=
  s.effects.filterMap (fun
    | .aliasesChanged contact newAlias => some (contact, newAlias)
    | _ => none)

/-- `set_alias_success_cb` -/
def setAliasSuccessCb (s : ClientConnection P a) (newAlias : String) : ClientConnection P a :=
  match s.contactHandles.inspect s.selfHandle with
  | none => s
  | some self => s.emit (.aliasesChanged self newAlias)

/-- `purple_blist_server_alias_buddy`, which emits "blist-node-aliased" when the alias changes. -/
def purpleBlistServerAliasBuddy (s : ClientConnection P a) (buddy : PurpleBuddy)
    (newAlias : Option String) : ClientConnection P a :=
  if s.serverAlias buddy = newAlias then s
  else { s with serverAlias := Function.update s.serverAlias buddy newAlias }.blistNodeAliasedCb
    buddy

/-- `purple_connection_set_display_name`, of which Haze hears nothing. -/
def purpleConnectionSetDisplayName (s : ClientConnection P a) (name : Option String) :
    ClientConnection P a :=
  { s with
    gc := s.gc.map (fun gc => { gc with displayName := name })
    self_valid := by
      intro h
      exact s.self_valid (by simpa using h) }

/-- What may change an alias. -/
inductive AliasEvent where
  /-- SetAliases, in the order in which the table is gone through -/
  | setAliases (aliases : AList (fun _ : Nat => String))
  /-- the server has taken the account's own alias -/
  | setAliasSuccess (newAlias : String)
  | aliasBuddy (buddy : PurpleBuddy) (newAlias : String)
  | serverAliasBuddy (buddy : PurpleBuddy) (newAlias : Option String)
  | setDisplayName (name : Option String)

/-- The aliases of a connection as a machine. -/
def aliasing (L : PurpleBlistAliasBuddy) : Machine (ClientConnection P a) AliasEvent Fault where
  step
    | s, .setAliases aliases => (s.hazeConnectionSetAliases L aliases).map Prod.fst
    | s, .setAliasSuccess newAlias => .ok (s.setAliasSuccessCb newAlias)
    | s, .aliasBuddy buddy newAlias => .ok (s.purpleBlistAliasBuddy L buddy newAlias)
    | s, .serverAliasBuddy buddy newAlias => .ok (s.purpleBlistServerAliasBuddy buddy newAlias)
    | s, .setDisplayName name => .ok (s.purpleConnectionSetDisplayName name)

/-- What the signal says is so, or there is nothing to say: the buddy that is aliased shows the
alias of its contact, and the account's own alias is its display name, which stays. -/
def AliasKnown (L : PurpleBlistAliasBuddy) (s : ClientConnection P a) : AliasEvent → Prop
  | .setAliases _ => True
  | .setAliasSuccess newAlias =>
      ∀ self ∈ s.contactHandles.inspect s.selfHandle, s.aliasOf self = newAlias
  | .aliasBuddy buddy newAlias =>
      L (s.localAlias buddy) newAlias = none ∨
        (s.purpleBlistAliasBuddy L buddy newAlias).aliases.Shows buddy
  | .serverAliasBuddy buddy newAlias =>
      s.serverAlias buddy = newAlias ∨
        (s.purpleBlistServerAliasBuddy buddy newAlias).aliases.Shows buddy
  | .setDisplayName name =>
      ∀ self ∈ s.contactHandles.inspect s.selfHandle,
        (s.purpleConnectionSetDisplayName name).aliasOf self = s.aliasOf self

variable {L : PurpleBlistAliasBuddy} {s s' : ClientConnection P a} {buddy : PurpleBuddy}

theorem getAlias_eq {handle : Nat} {contact : TpHandle P a}
    (h : s.contactHandles.inspect handle = some contact) :
    s.getAlias handle contact = s.aliasOf contact := by
  have hiff : handle = s.selfHandle ↔ s.aliases.self = some contact := by
    constructor
    · rintro rfl
      exact h
    · intro hself
      exact s.contactHandles.inspect_inj _ _ _ h hself
  unfold getAlias aliasOf ContactAttribute.query
  by_cases hself : handle = s.selfHandle
  · rw [if_pos hself, if_pos (hiff.mp hself)]
    rfl
  · rw [if_neg hself, if_neg (fun h => hself (hiff.mpr h))]
    cases hfind : s.list.purpleFindBuddy a contact.inspect with
    | none => simp only [aliases, hfind]
    | some e => simp only [aliases, hfind]

/-! ## One step -/

theorem sameBut_aliasBuddy (s : ClientConnection P a) (buddy : PurpleBuddy)
    (stored : Option String) : s.aliases.SameBut buddy
      ({ s with localAlias := Function.update s.localAlias buddy stored }.blistNodeAliasedCb
        buddy).aliases := by
  refine ⟨rfl, rfl, rfl, rfl, fun b hne => ?_⟩
  simp only [aliases, purpleBuddyGetAlias, blistNodeAliasedCb, emit, Function.update_of_ne hne]

theorem sameBut_serverAliasBuddy (s : ClientConnection P a) (buddy : PurpleBuddy)
    (newAlias : Option String) : s.aliases.SameBut buddy
      ({ s with serverAlias := Function.update s.serverAlias buddy newAlias }.blistNodeAliasedCb
        buddy).aliases := by
  refine ⟨rfl, rfl, rfl, rfl, fun b hne => ?_⟩
  simp only [aliases, purpleBuddyGetAlias, blistNodeAliasedCb, emit, Function.update_of_ne hne]

/-- What a step says, and that it tells what has changed exactly when `p`. -/
def Says (s s' : ClientConnection P a) (p : Prop) : Prop :=
  ∃ new, s'.announcedAliases = s.announcedAliases ++ new ∧
    (Mirror.Tells s.aliasOf s'.aliasOf new ↔ p)

/-- Nothing is said, and nothing has changed. -/
theorem Says.silent (hsaid : s'.announcedAliases = s.announcedAliases)
    (halias : s'.aliasOf = s.aliasOf) : Says s s' True := by
  refine ⟨[], by rw [hsaid, List.append_nil], ?_⟩
  rw [Mirror.tells_nil, halias]
  simp

theorem Says.trans {s'' : ClientConnection P a} (h : Says s s' True) (h' : Says s' s'' True) :
    Says s s'' True := by
  obtain ⟨new, hnew, htells⟩ := h
  obtain ⟨new', hnew', htells'⟩ := h'
  refine ⟨new ++ new', by rw [hnew', hnew, List.append_assoc], ?_⟩
  exact iff_true_intro ((htells.mpr trivial).append (htells'.mpr trivial))

theorem announcedAliases_emit (s : ClientConnection P a) (contact : TpHandle P a)
    (newAlias : String) : (s.emit (.aliasesChanged contact newAlias)).announcedAliases =
      s.announcedAliases ++ [(contact, newAlias)] :=
  Log.filterMap_concat_some rfl

theorem says_aliasBuddy (s : ClientConnection P a) (buddy : PurpleBuddy) (newAlias : String) :
    Says s (s.purpleBlistAliasBuddy L buddy newAlias)
      (L (s.localAlias buddy) newAlias = none ∨
        (s.purpleBlistAliasBuddy L buddy newAlias).aliases.Shows buddy) := by
  cases hstored : L (s.localAlias buddy) newAlias with
  | none =>
      simp only [purpleBlistAliasBuddy, hstored, true_or]
      exact Says.silent rfl rfl
  | some stored =>
      simp only [purpleBlistAliasBuddy, hstored, reduceCtorEq, false_or]
      exact ⟨_, announcedAliases_emit _ _ _, (sameBut_aliasBuddy s buddy stored).tells_iff⟩

theorem says_serverAliasBuddy (s : ClientConnection P a) (buddy : PurpleBuddy)
    (newAlias : Option String) :
    Says s (s.purpleBlistServerAliasBuddy buddy newAlias)
      (s.serverAlias buddy = newAlias ∨
        (s.purpleBlistServerAliasBuddy buddy newAlias).aliases.Shows buddy) := by
  by_cases hsame : s.serverAlias buddy = newAlias
  · simp only [purpleBlistServerAliasBuddy, hsame, true_or]
    exact Says.silent rfl rfl
  · simp only [purpleBlistServerAliasBuddy, hsame, false_or]
    exact ⟨_, announcedAliases_emit _ _ _, (sameBut_serverAliasBuddy s buddy newAlias).tells_iff⟩

/-! ## SetAliases -/

/-- An entry of the table aliases the buddy that is found for its contact. -/
theorem says_setAliasesEntry (s : ClientConnection P a) (handle : Nat) (newAlias : String) :
    Says s (s.setAliasesEntry L handle newAlias).1 True := by
  unfold setAliasesEntry
  cases hbname : s.contactHandles.inspect handle with
  | none => exact Says.silent rfl rfl
  | some bname =>
      dsimp only
      split_ifs with hself
      · exact Says.silent (Log.filterMap_concat_none rfl) rfl
      · cases hfind : s.list.purpleFindBuddy a bname.inspect with
        | none => exact Says.silent rfl rfl
        | some e =>
            have hname := ensure_of_found hfind
            have hother : s.contactHandles.inspect s.selfHandle ≠
                some (tpHandleEnsure P a e.2.name) := by
              rw [hname]
              intro h
              exact hself (s.contactHandles.inspect_inj _ _ _ hbname h)
            have hsays := s.says_aliasBuddy (L := L) e.2 newAlias
            rw [iff_true_intro (show L (s.localAlias e.2) newAlias = none ∨ _ from ?_)] at hsays
            · exact hsays.trans (Says.silent (Log.filterMap_concat_none rfl) rfl)
            · by_cases hstored : L (s.localAlias e.2) newAlias = none
              · exact Or.inl hstored
              · obtain ⟨stored, hstored⟩ := Option.ne_none_iff_exists'.mp hstored
                right
                simp only [purpleBlistAliasBuddy, hstored]
                refine ContactAttribute.shows_of_found hother (g := e.1) ?_
                rw [hname]
                exact hfind

theorem says_setAliasesForeach {b b' : ClientConnection P a × Option ClientError}
    {entry : (_ : Nat) × String} (h : setAliasesForeach L b entry = .ok b') :
    Says b.1 b'.1 True := by
  obtain ⟨supported, -, h⟩ := Except.bind_eq_ok.mp h
  cases supported with
  | false => cases h
  | true =>
      cases h
      exact b.1.says_setAliasesEntry entry.1 entry.2

theorem says_setAliases {aliases : AList (fun _ : Nat => String)} {reply : Except ClientError Unit}
    (h : s.hazeConnectionSetAliases L aliases = .ok (s', reply)) : Says s s' True := by
  obtain ⟨supported, -, h⟩ := Except.bind_eq_ok.mp h
  cases supported with
  | false =>
      cases h
      exact Says.silent rfl rfl
  | true =>
      obtain ⟨⟨t, error⟩, hloop, h⟩ := Except.bind_eq_ok.mp h
      have hsays : Says s t True :=
        Machine.foldlM_invariant (I := fun b => Says s b.1 True)
          (fun b entry b' hb hround => hb.trans (says_setAliasesForeach hround))
          (Says.silent rfl rfl) hloop
      cases error with
      | none =>
          cases h
          exact hsays
      | some error =>
          cases h
          exact hsays

/-! ## The account's own alias -/

theorem says_setAliasSuccess (s : ClientConnection P a) (newAlias : String) :
    Says s (s.setAliasSuccessCb newAlias)
      (∀ self ∈ s.contactHandles.inspect s.selfHandle, s.aliasOf self = newAlias) := by
  unfold setAliasSuccessCb
  cases hself : s.contactHandles.inspect s.selfHandle with
  | none =>
      have hsilent : Says s s True := Says.silent rfl rfl
      obtain ⟨new, hnew, htells⟩ := hsilent
      exact ⟨new, hnew, htells.trans (by simp)⟩
  | some self =>
      refine ⟨_, announcedAliases_emit s self newAlias, ?_⟩
      rw [Mirror.tells_singleton]
      have hsame : (s.emit (.aliasesChanged self newAlias)).aliasOf = s.aliasOf := rfl
      simp [hsame]

/-- The display name is the alias of the account alone. -/
theorem says_setDisplayName (s : ClientConnection P a) (name : Option String) :
    Says s (s.purpleConnectionSetDisplayName name)
      (∀ self ∈ s.contactHandles.inspect s.selfHandle,
        (s.purpleConnectionSetDisplayName name).aliasOf self = s.aliasOf self) := by
  refine ⟨[], by rw [List.append_nil]; rfl, ?_⟩
  rw [Mirror.tells_nil]
  constructor
  · intro h self _
    exact h self
  · intro h contact
    by_cases hself : s.contactHandles.inspect s.selfHandle = some contact
    · exact h contact hself
    · exact ContactAttribute.query_setOwn (A := s.aliases) _ hself

/-! ## Runs -/

theorem says_step {e : AliasEvent} (h : (aliasing L).step s e = .ok s') :
    Says s s' (AliasKnown L s e) := by
  cases e with
  | setAliases aliases =>
      obtain ⟨⟨t, reply⟩, hset, rfl⟩ := Except.map_eq_ok.mp h
      exact says_setAliases hset
  | setAliasSuccess newAlias =>
      cases h
      exact s.says_setAliasSuccess newAlias
  | aliasBuddy buddy newAlias =>
      cases h
      exact s.says_aliasBuddy buddy newAlias
  | serverAliasBuddy buddy newAlias =>
      cases h
      exact s.says_serverAliasBuddy buddy newAlias
  | setDisplayName name =>
      cases h
      exact s.says_setDisplayName name

/-- A step that does not go through is one of SetAliases. -/
theorem aliasKnown_of_error {e : AliasEvent} {fault : Fault}
    (h : (aliasing L).step s e = .error fault) : AliasKnown L s e := by
  cases e with
  | setAliases aliases => trivial
  | setAliasSuccess newAlias => cases h
  | aliasBuddy buddy newAlias => cases h
  | serverAliasBuddy buddy newAlias => cases h
  | setDisplayName name => cases h

/-- **When clients know the aliases.** A client that has asked for the aliases of all contacts, and
follows AliasesChanged, knows what GetAliases would return in every state of a run exactly when, in
every step, a buddy that libpurple aliases shows its contact's alias and the account's own alias is
its display name. SetAliases is always told. -/
theorem aliasesChanged_tells_iff (L : PurpleBlistAliasBuddy) {s₀ : ClientConnection P a}
    (hs₀ : s₀.announcedAliases = []) (es : List AliasEvent) :
    (∀ es₁ es₂ s, es = es₁ ++ es₂ → (aliasing L).run s₀ es₁ = .ok s →
      Mirror.Follows aliasOf announcedAliases s₀ s) ↔
    (aliasing L).Meets (AliasKnown L) s₀ es :=
  Mirror.forall_prefix_follows_iff (fun _ _ _ (_ : True) h => aliasKnown_of_error h)
    (fun _ _ _ _ h => says_step h) hs₀ (Machine.meets_of_forall (fun _ _ => trivial) s₀)

/-- "alice" is aliased by a client and then by the server, and clients know her alias. -/
theorem aliasesChanged_tells_alice :
    withAlice.announcedAliases = [] ∧
      ∀ es₁ es₂ s, [AliasEvent.setAliases [⟨2, "Alice"⟩].toAList,
          AliasEvent.serverAliasBuddy ⟨1, 0, "alice"⟩ (some "Alice Liddell")] = es₁ ++ es₂ →
        (aliasing .plain).run withAlice es₁ = .ok s →
          Mirror.Follows aliasOf announcedAliases withAlice s := by
  refine ⟨rfl, (aliasesChanged_tells_iff .plain rfl _).mpr ⟨trivial, ?_⟩⟩
  exact ⟨Or.inr (ContactAttribute.shows_of_found (g := 0) (by decide) (by decide)), trivial⟩

end ClientConnection

end Haze
