import Haze.Connection.Aliases
import Haze.Connection.Avatars

set_option autoImplicit false

/-! # What clients know of avatars

A client that has asked for the tokens of avatars follows `AvatarUpdated`. For a buddy's new icon
the token that the signal carries is asked for again, so it is the one that the methods return. For
the account's own avatar it is the digest of what SetAvatar was given, and libpurple takes an empty
avatar for none. So clients know the tokens as long as no empty avatar is set
(`avatarUpdated_tells_iff`).
-/

namespace Haze

namespace ClientConnection

variable {P : Libpurple} {a : PurpleAccount} (sha1 : List UInt8 → String)

/-- The token of a handle. -/
def tokenOf (s : ClientConnection P a) (handle : Nat) : String :=
  ((s.getAvatar handle).map sha1).getD ""

/-- What AvatarUpdated has said. -/
def announcedTokens (s : ClientConnection P a) : List (Nat × String) :=
  s.effects.filterMap (fun
    | .avatarUpdated contact token => some (contact, token)
    | _ => none)

/-- `buddy_icon_changed_cb`, for the handle that the buddy's name has. -/
def buddyIconChangedCb (s : ClientConnection P a) (contact : Nat) :
    Except Fault (ClientConnection P a) := do
  let token ← s.getHandleToken sha1 contact
  return s.emit (.avatarUpdated contact token)

/-- The buddies of the name. -/
def buddiesOf (s : ClientConnection P a) (name : String) : List PurpleBuddy :=
  (s.list.purpleFindBuddies a (some name)).map Prod.snd

/-- All buddies of the name get the icon. -/
def setIcons (s : ClientConnection P a) (name : String) (icon : Option (List UInt8)) :
    ClientConnection P a :=
  { s with icon := fun buddy => if buddy ∈ s.buddiesOf name then icon else s.icon buddy }

/-- `purple_buddy_icons_set_for_user`, which emits "buddy-icon-changed" for all buddies of the
name. -/
def purpleBuddyIconsSetForUser (s : ClientConnection P a) (name : String)
    (icon : Option (List UInt8)) (contact : Nat) : Except Fault (ClientConnection P a) :=
  (s.buddiesOf name).foldlM (fun s _ => s.buddyIconChangedCb sha1 contact) (s.setIcons name icon)

/-- What happens to avatars: calls of both interfaces, and a new icon of a user, whose name has
the handle `contact`. -/
inductive AvatarEvent where
  | call (c : ClientCall)
  | setForUser (name : String) (icon : Option (List UInt8)) (contact : Nat)

variable (L : PurpleBlistAliasBuddy)

/-- The avatars of a connection as a machine. -/
def avatars : Machine (ClientConnection P a) AvatarEvent Fault where
  step
    | s, .call c => (s.answer sha1 L c).map Prod.fst
    | s, .setForUser name icon contact => s.purpleBuddyIconsSetForUser sha1 name icon contact

namespace AvatarEvent

/-- `contact` is what `tp_handle_ensure` returns for the name. -/
def Legal (s : ClientConnection P a) : AvatarEvent → Prop
  | .call _ => True
  | .setForUser name _ contact =>
      s.contactHandles.inspect contact = some (tpHandleEnsure P a name)

/-- The event may change the account's own avatar. -/
def SetsAvatar : AvatarEvent → Prop
  | .call (.setAvatar _ _) => True
  | .call .clearAvatar => True
  | _ => False

end AvatarEvent

/-- SetAvatar takes avatars of this type. -/
def Accepts (s : ClientConnection P a) (mimeType : String) : Prop :=
  ∃ gc ∈ s.gc, mimeType = "" ∨ ∃ format ∈ gc.prpl.iconSpec.format,
    mimeType ∈ s.acceptableAvatarMimeTypes.getD
      ((gStrsplit format).map (fun format => "image/" ++ format))

/-- No empty avatar is set. -/
def NonEmpty (s : ClientConnection P a) : AvatarEvent → Prop
  | .call (.setAvatar avatar mimeType) => avatar = [] → ¬ s.Accepts mimeType
  | _ => True

variable {s s' s'' : ClientConnection P a} {sha1 L}

theorem getHandleToken_eq (s : ClientConnection P a) (handle : Nat) :
    s.getHandleToken sha1 handle = .ok (s.tokenOf sha1 handle) := by
  unfold getHandleToken tokenOf
  cases s.getAvatar handle with
  | none => rfl
  | some avatar => rfl

/-! ## Calls that leave the avatars alone -/

/-- `s'` has the avatars of `s`, and nothing has been said about avatars in between. -/
structure SameAvatars (s s' : ClientConnection P a) : Prop where
  status : s'.status = s.status
  selfHandle : s'.selfHandle = s.selfHandle
  contactHandles : s'.contactHandles = s.contactHandles
  gc : s'.gc = s.gc
  list : s'.list = s.list
  icon : s'.icon = s.icon
  accountIcon : s'.accountIcon = s.accountIcon
  announcedTokens : s'.announcedTokens = s.announcedTokens

theorem SameAvatars.refl (s : ClientConnection P a) : SameAvatars s s :=
  ⟨rfl, rfl, rfl, rfl, rfl, rfl, rfl, rfl⟩

theorem SameAvatars.trans (h : SameAvatars s s') (h' : SameAvatars s' s'') :
    SameAvatars s s'' where
  status := h'.status.trans h.status
  selfHandle := h'.selfHandle.trans h.selfHandle
  contactHandles := h'.contactHandles.trans h.contactHandles
  gc := h'.gc.trans h.gc
  list := h'.list.trans h.list
  icon := h'.icon.trans h.icon
  accountIcon := h'.accountIcon.trans h.accountIcon
  announcedTokens := h'.announcedTokens.trans h.announcedTokens

theorem SameAvatars.getAvatar_eq (h : SameAvatars s s') (handle : Nat) :
    s'.getAvatar handle = s.getAvatar handle := by
  unfold getAvatar buddyOf
  rw [h.selfHandle, h.contactHandles, h.list, h.icon, h.accountIcon]

theorem SameAvatars.tokenOf_eq (h : SameAvatars s s') : s'.tokenOf sha1 = s.tokenOf sha1 := by
  funext handle
  unfold tokenOf
  rw [h.getAvatar_eq]

/-- An effect that is not about avatars. -/
theorem SameAvatars.emit (s : ClientConnection P a) {e : ClientEffect P a}
    (he : ∀ contact token, e ≠ .avatarUpdated contact token) : SameAvatars s (s.emit e) where
  status := rfl
  selfHandle := rfl
  contactHandles := rfl
  gc := rfl
  list := rfl
  icon := rfl
  accountIcon := rfl
  announcedTokens := by
    refine Log.filterMap_concat_none ?_
    cases e with
    | avatarUpdated contact token => exact absurd rfl (he contact token)
    | _ => rfl

theorem sameAvatars_setAliasesEntry (s : ClientConnection P a) (handle : Nat) (newAlias : String) :
    SameAvatars s (s.setAliasesEntry L handle newAlias).1 := by
  unfold setAliasesEntry
  cases s.contactHandles.inspect handle with
  | none => exact SameAvatars.refl s
  | some bname =>
      dsimp only
      split_ifs
      · exact SameAvatars.emit s (fun _ _ => by simp)
      · cases s.list.purpleFindBuddy a bname.inspect with
        | none => exact SameAvatars.refl s
        | some e =>
            have hserv : ∀ t : ClientConnection P a, SameAvatars t (t.servAliasBuddy e.2) :=
              fun t => SameAvatars.emit t (fun _ _ => by simp)
            refine SameAvatars.trans ?_ (hserv _)
            unfold purpleBlistAliasBuddy
            cases L (s.localAlias e.2) newAlias with
            | none => exact SameAvatars.refl s
            | some stored =>
                let renamed := { s with localAlias := Function.update s.localAlias e.2 stored }
                have hrenamed : SameAvatars s renamed := ⟨rfl, rfl, rfl, rfl, rfl, rfl, rfl, rfl⟩
                exact hrenamed.trans (SameAvatars.emit renamed (fun _ _ => by simp))

theorem sameAvatars_setAliases {aliases : AList (fun _ : Nat => String)}
    {reply : Except ClientError Unit}
    (h : s.hazeConnectionSetAliases L aliases = .ok (s', reply)) : SameAvatars s s' := by
  obtain ⟨supported, -, h⟩ := Except.bind_eq_ok.mp h
  cases supported with
  | false =>
      cases h
      exact SameAvatars.refl s
  | true =>
      obtain ⟨⟨t, error⟩, hloop, h⟩ := Except.bind_eq_ok.mp h
      have hsame : SameAvatars s t := by
        refine Machine.foldlM_invariant (I := fun b => SameAvatars s b.1)
          (fun b entry b' hb hround => hb.trans ?_) (SameAvatars.refl s) hloop
        obtain ⟨supported, -, hround⟩ := Except.bind_eq_ok.mp hround
        cases supported with
        | false => cases hround
        | true =>
            cases hround
            exact sameAvatars_setAliasesEntry b.1 entry.1 entry.2
      cases error with
      | none =>
          cases h
          exact hsame
      | some error =>
          cases h
          exact hsame

theorem sameAvatars_requestAvatars {contacts : List Nat} {reply : Except ClientError Unit}
    (h : s.hazeConnectionRequestAvatars sha1 contacts = .ok (s', reply)) : SameAvatars s s' := by
  unfold hazeConnectionRequestAvatars at h
  split at h
  · cases h
    exact SameAvatars.refl s
  · obtain ⟨t, hloop, ht⟩ := Except.bind_eq_ok.mp h
    cases ht
    refine Machine.foldlM_invariant (I := SameAvatars s)
      (fun b handle b' hb hround => hb.trans ?_) (SameAvatars.refl s) hloop
    cases havatar : b.getAvatar handle with
    | none =>
        simp only [havatar] at hround
        cases hround
        exact SameAvatars.refl b
    | some avatar =>
        simp only [havatar] at hround
        cases hround
        exact SameAvatars.emit b (fun _ _ => by simp)

/-- The MIME types that are kept do not matter for avatars, and SetAvatar takes just these. -/
theorem getAcceptableMimeTypes_spec {gc : PurpleConnection} (hgc : s.gc = some gc)
    (mimeType : String) : ∃ t mimeTypes, s.getAcceptableMimeTypes = .ok (t, mimeTypes) ∧
      SameAvatars s t ∧ (s.Accepts mimeType ↔ mimeType = "" ∨ ∃ l ∈ mimeTypes, mimeType ∈ l) := by
  unfold getAcceptableMimeTypes
  simp only [getPrplInfo_some hgc, bind, Except.bind]
  cases hformat : gc.prpl.iconSpec.format with
  | none => exact ⟨s, none, rfl, SameAvatars.refl s, by simp [Accepts, hgc, hformat]⟩
  | some format =>
      cases hkept : s.acceptableAvatarMimeTypes with
      | none =>
          refine ⟨_, some _, rfl, ?_, by simp [Accepts, hgc, hformat, hkept]⟩
          exact ⟨rfl, rfl, rfl, rfl, rfl, rfl, rfl, rfl⟩
      | some mimeTypes =>
          exact ⟨s, some mimeTypes, rfl, SameAvatars.refl s, by
            simp [Accepts, hgc, hformat, hkept]⟩

theorem sameAvatars_getAcceptableMimeTypes {mimeTypes : Option (List String)}
    (h : s.getAcceptableMimeTypes = .ok (s', mimeTypes)) : SameAvatars s s' := by
  cases hgc : s.gc with
  | none =>
      rw [getAcceptableMimeTypes, getPrplInfo_none hgc] at h
      cases h
  | some gc =>
      obtain ⟨t, mimeTypes', ht, hsame, -⟩ := getAcceptableMimeTypes_spec hgc ""
      rw [ht] at h
      cases h
      exact hsame

theorem sameAvatars_getProperty {which : AvatarDBusProperty} {value : AvatarValue}
    (h : s.hazeConnectionAvatarsPropertiesGetter which = .ok (s', value)) : SameAvatars s s' := by
  unfold hazeConnectionAvatarsPropertiesGetter at h
  split at h
  · cases h
    exact SameAvatars.refl s
  · obtain ⟨prplInfo, -, h⟩ := Except.bind_eq_ok.mp h
    dsimp only at h
    by_cases hformat : prplInfo.iconSpec.format = none
    · rw [if_pos hformat] at h
      cases h
    · rw [if_neg hformat] at h
      cases which with
      | types =>
          obtain ⟨⟨t, mimeTypes⟩, hmime, h⟩ := Except.bind_eq_ok.mp h
          cases h
          exact sameAvatars_getAcceptableMimeTypes hmime
      | _ =>
          cases h
          exact SameAvatars.refl s

theorem sameAvatars_getRequirements
    {reply : Except ClientError (Option (List String) × Nat × Nat × Nat × Nat × Nat)}
    (h : s.hazeConnectionGetAvatarRequirements = .ok (s', reply)) : SameAvatars s s' := by
  unfold hazeConnectionGetAvatarRequirements at h
  split at h
  · cases h
    exact SameAvatars.refl s
  · obtain ⟨prplInfo, -, h⟩ := Except.bind_eq_ok.mp h
    split at h
    · cases h
    · obtain ⟨⟨t, mimeTypes⟩, hmime, h⟩ := Except.bind_eq_ok.mp h
      cases h
      exact sameAvatars_getAcceptableMimeTypes hmime

/-- What SetAvatar does: it fails, it refuses the avatar, or it sets it. -/
theorem setAvatar_spec (sha1 : List UInt8 → String) (s : ClientConnection P a)
    (avatar : List UInt8) (mimeType : String) :
    (∃ fault, s.hazeConnectionSetAvatar sha1 avatar mimeType = .error fault ∧
      ¬ s.Accepts mimeType) ∨
    (∃ t error, s.hazeConnectionSetAvatar sha1 avatar mimeType = .ok (t, .error error) ∧
      SameAvatars s t ∧ (avatar = [] → ¬ s.Accepts mimeType)) ∨
    (∃ t, s.Accepts mimeType ∧ SameAvatars s t ∧
      s.hazeConnectionSetAvatar sha1 avatar mimeType =
        .ok ((t.purpleBuddyIconsSetAccountIcon (if avatar = [] then none else some avatar)).emit
          (.avatarUpdated t.selfHandle (sha1 avatar)), .ok (sha1 avatar))) := by
  unfold hazeConnectionSetAvatar
  cases hgc : s.gc with
  | none =>
      left
      rw [getPrplInfo_none hgc]
      exact ⟨_, rfl, by simp [Accepts, hgc]⟩
  | some gc =>
      obtain ⟨t, mimeTypes, hmime, hsame, haccepts⟩ := getAcceptableMimeTypes_spec hgc mimeType
      simp only [getPrplInfo_some hgc, hmime, bind, Except.bind]
      by_cases hsize : gc.prpl.iconSpec.maxFilesize > 0 ∧
          avatar.length > gc.prpl.iconSpec.maxFilesize
      · right; left
        rw [if_pos hsize]
        refine ⟨_, _, rfl, hsame, ?_⟩
        -- an empty avatar is not too large
        rintro rfl
        simp at hsize
      · rw [if_neg hsize]
        by_cases hempty : mimeType = ""
        · right; right
          rw [if_pos hempty]
          exact ⟨t, haccepts.mpr (Or.inl hempty), hsame, rfl⟩
        · rw [if_neg hempty]
          cases mimeTypes with
          | none => exact Or.inl ⟨_, rfl, by simp [haccepts, hempty]⟩
          | some mimeTypes =>
              right
              by_cases hmem : mimeType ∈ mimeTypes
              · right
                simp only [decide_eq_true hmem]
                exact ⟨t, haccepts.mpr (Or.inr ⟨_, rfl, hmem⟩), hsame, rfl⟩
              · left
                simp only [decide_eq_false hmem]
                exact ⟨_, _, rfl, hsame, fun _ => by simp [haccepts, hempty, hmem]⟩

/-- The other calls leave the avatars alone. -/
theorem sameAvatars_answer {c : ClientCall} (hc : ¬ (AvatarEvent.call c).SetsAvatar)
    {reply : Except ClientError Unit} (h : s.answer sha1 L c = .ok (s', reply)) :
    SameAvatars s s' := by
  cases c with
  | getAliasFlags =>
      obtain ⟨r, -, hr⟩ := Except.bind_eq_ok.mp h
      cases hr
      exact SameAvatars.refl s
  | getAliases contacts =>
      cases h
      exact SameAvatars.refl s
  | requestAliases contacts =>
      cases h
      exact SameAvatars.refl s
  | setAliases aliases => exact sameAvatars_setAliases h
  | getAvatarProperty which =>
      obtain ⟨⟨t, value⟩, hget, ht⟩ := Except.bind_eq_ok.mp h
      cases ht
      exact sameAvatars_getProperty hget
  | getAvatarRequirements =>
      obtain ⟨⟨t, value⟩, hget, ht⟩ := Except.bind_eq_ok.mp h
      cases ht
      exact sameAvatars_getRequirements hget
  | getAvatarTokens contacts =>
      obtain ⟨r, -, hr⟩ := Except.bind_eq_ok.mp h
      cases hr
      exact SameAvatars.refl s
  | getKnownAvatarTokens contacts =>
      obtain ⟨r, -, hr⟩ := Except.bind_eq_ok.mp h
      cases hr
      exact SameAvatars.refl s
  | requestAvatar contact =>
      cases h
      exact SameAvatars.refl s
  | requestAvatars contacts => exact sameAvatars_requestAvatars h
  | setAvatar avatar mimeType => exact absurd trivial hc
  | clearAvatar => exact absurd trivial hc

/-! ## Changes -/

theorem announcedTokens_emit (s : ClientConnection P a) (contact : Nat) (token : String) :
    (s.emit (.avatarUpdated contact token)).announcedTokens =
      s.announcedTokens ++ [(contact, token)] :=
  Log.filterMap_concat_some rfl

theorem announcedTokens_setAccountIcon (s : ClientConnection P a) (icon : Option (List UInt8)) :
    (s.purpleBuddyIconsSetAccountIcon icon).announcedTokens = s.announcedTokens :=
  Log.filterMap_concat_none rfl

/-- The account's icon is that of the self handle. -/
theorem tokenOf_setAccountIcon (s : ClientConnection P a) (icon : Option (List UInt8))
    (handle : Nat) : (s.purpleBuddyIconsSetAccountIcon icon).tokenOf sha1 handle =
      if handle = s.selfHandle then (icon.map sha1).getD "" else s.tokenOf sha1 handle := by
  unfold tokenOf getAvatar
  by_cases hself : handle = s.selfHandle
  · rw [if_pos hself]
    exact congrArg (fun icon => (Option.map sha1 icon).getD "") (if_pos hself)
  · rw [if_neg hself, if_neg hself]
    exact congrArg (fun icon => (Option.map sha1 icon).getD "") (if_neg hself)

/-- The account gets an icon and a token is announced for it. -/
theorem tells_setAccountIcon (sha1 : List UInt8 → String) (s : ClientConnection P a)
    (icon : Option (List UInt8)) (token : String) :
    let s' := (s.purpleBuddyIconsSetAccountIcon icon).emit (.avatarUpdated s.selfHandle token)
    s'.announcedTokens = s.announcedTokens ++ [(s.selfHandle, token)] ∧
      (Mirror.Tells (s.tokenOf sha1) (s'.tokenOf sha1) [(s.selfHandle, token)] ↔
        (icon.map sha1).getD "" = token) := by
  intro s'
  have htoken : ∀ handle, s'.tokenOf sha1 handle =
      if handle = s.selfHandle then (icon.map sha1).getD "" else s.tokenOf sha1 handle :=
    s.tokenOf_setAccountIcon icon
  refine ⟨by rw [announcedTokens_emit, announcedTokens_setAccountIcon], ?_⟩
  rw [Mirror.tells_singleton, htoken, if_pos rfl]
  refine and_iff_left (fun handle hne => ?_)
  rw [htoken, if_neg hne]

/-- The rounds for the buddies of a name all say the same. -/
theorem foldlM_buddyIconChangedCb (sha1 : List UInt8 → String) (contact : Nat)
    (buddies : List PurpleBuddy) :
    ∀ s : ClientConnection P a, ∃ effects,
      buddies.foldlM (fun s _ => s.buddyIconChangedCb sha1 contact) s =
        .ok { s with effects := effects } ∧
      ({ s with effects := effects } : ClientConnection P a).announcedTokens =
        s.announcedTokens ++ (buddies.map (fun _ => contact)).map
          (fun handle => (handle, s.tokenOf sha1 handle)) := by
  induction buddies with
  | nil =>
      intro s
      exact ⟨s.effects, rfl, by simp⟩
  | cons buddy buddies ih =>
      intro s
      have hround : s.buddyIconChangedCb sha1 contact =
          .ok (s.emit (.avatarUpdated contact (s.tokenOf sha1 contact))) := by
        unfold buddyIconChangedCb
        rw [getHandleToken_eq]
        rfl
      obtain ⟨effects, hloop, hsaid⟩ :=
        ih (s.emit (.avatarUpdated contact (s.tokenOf sha1 contact)))
      refine ⟨effects, ?_, hsaid.trans ?_⟩
      · rw [List.foldlM_cons, hround]
        exact hloop
      · rw [announcedTokens_emit, List.append_assoc]
        rfl

/-- The avatars of the other contacts stay. -/
theorem getAvatar_setIcons {name : String} {contact handle : Nat} (icon : Option (List UInt8))
    (hcontact : s.contactHandles.inspect contact = some (tpHandleEnsure P a name))
    (hne : s.buddiesOf name ≠ [] → handle ≠ contact) :
    (s.setIcons name icon).getAvatar handle = s.getAvatar handle := by
  change (if handle = s.selfHandle then s.accountIcon
    else (s.buddyOf handle).bind (s.setIcons name icon).icon) = s.getAvatar handle
  unfold getAvatar
  split_ifs
  · rfl
  · cases hbuddy : s.buddyOf handle with
    | none => rfl
    | some buddy =>
        refine if_neg (fun hmem => ?_)
        -- a buddy of the name is a buddy of the contact
        obtain ⟨bname, hbname, hnormal⟩ := buddyOf_eq_some hbuddy
        obtain ⟨e, he, rfl⟩ := List.mem_map.mp hmem
        obtain ⟨-, -, -, hname⟩ := BuddyList.mem_findBuddies.mp he
        have hsame : tpHandleEnsure P a name = bname :=
          tpHandleEnsure_eq_iff.mpr (hname.symm.trans hnormal)
        rw [hsame] at hcontact
        exact hne (List.ne_nil_of_mem hmem) (s.contactHandles.inspect_inj _ _ _ hbname hcontact)

/-! ## Runs -/

/-- What an event says, and when it tells what has changed. -/
theorem says_avatars (hsha1 : sha1 [] ≠ "") {e : AvatarEvent} (hlegal : e.Legal s)
    (h : (avatars sha1 L).step s e = .ok s') :
    ∃ new, s'.announcedTokens = s.announcedTokens ++ new ∧
      (Mirror.Tells (s.tokenOf sha1) (s'.tokenOf sha1) new ↔ s.NonEmpty e) := by
  -- nothing is said, and nothing has changed
  have hsilent : ∀ {t : ClientConnection P a}, SameAvatars s t →
      ∃ new, t.announcedTokens = s.announcedTokens ++ new ∧
        (Mirror.Tells (s.tokenOf sha1) (t.tokenOf sha1) new ↔ True) := by
    intro t hsame
    refine ⟨[], by rw [hsame.announcedTokens, List.append_nil], ?_⟩
    rw [Mirror.tells_nil, hsame.tokenOf_eq]
    simp
  cases e with
  | setForUser name icon contact =>
      obtain ⟨effects, hloop, hsaid⟩ :=
        foldlM_buddyIconChangedCb sha1 contact (s.buddiesOf name) (s.setIcons name icon)
      have hstep : (avatars sha1 L).step s (.setForUser name icon contact) = _ := hloop
      rw [hstep] at h
      cases h
      refine ⟨_, hsaid, iff_of_true ?_ trivial⟩
      refine (Mirror.tells_map_iff _).mpr (fun handle hhandle => ?_)
      have hne : s.buddiesOf name ≠ [] → handle ≠ contact := by
        rintro hbuddies rfl
        obtain ⟨buddy, hbuddy⟩ := List.exists_mem_of_ne_nil _ hbuddies
        exact hhandle (List.mem_map.mpr ⟨buddy, hbuddy, rfl⟩)
      exact congrArg (fun avatar => (Option.map sha1 avatar).getD "")
        (getAvatar_setIcons icon hlegal hne)
  | call c =>
      obtain ⟨⟨t, reply⟩, hanswer, rfl⟩ := Except.map_eq_ok.mp h
      cases c with
      | setAvatar avatar mimeType =>
          obtain ⟨⟨u, reply'⟩, hset, hu⟩ := Except.bind_eq_ok.mp hanswer
          cases hu
          rcases s.setAvatar_spec sha1 avatar mimeType with ⟨fault, hfault, -⟩ |
            ⟨t, error, hrefused, hsame, hempty⟩ | ⟨t, haccepts, hsame, hok⟩
          · rw [hset] at hfault
            cases hfault
          · rw [hset] at hrefused
            cases hrefused
            obtain ⟨new, hnew, htells⟩ := hsilent hsame
            exact ⟨new, hnew, htells.trans (iff_of_true trivial hempty)⟩
          · rw [hset] at hok
            cases hok
            obtain ⟨hsaid, htells⟩ := tells_setAccountIcon sha1 t
              (if avatar = [] then none else some avatar) (sha1 avatar)
            rw [hsame.announcedTokens, hsame.tokenOf_eq] at *
            refine ⟨_, hsaid, htells.trans ?_⟩
            by_cases hempty : avatar = []
            · subst hempty
              exact iff_of_false (fun h => hsha1 h.symm) (fun h => h rfl haccepts)
            · rw [if_neg hempty]
              exact iff_of_true rfl (fun h => absurd h hempty)
      | clearAvatar =>
          cases hanswer
          obtain ⟨hsaid, htells⟩ := tells_setAccountIcon sha1 s none ""
          exact ⟨_, hsaid, htells.trans (iff_of_true rfl trivial)⟩
      | _ => exact hsilent (sameAvatars_answer id hanswer)

/-- An event that does not go through sets no avatar. -/
theorem nonEmpty_of_error {e : AvatarEvent} {fault : Fault}
    (h : (avatars sha1 L).step s e = .error fault) : s.NonEmpty e := by
  cases e with
  | setForUser name icon contact => trivial
  | call c =>
      cases c with
      | setAvatar avatar mimeType =>
          rcases s.setAvatar_spec sha1 avatar mimeType with ⟨-, -, hrefused⟩ |
            ⟨t, error, hset, -⟩ | ⟨t, -, -, hset⟩
          · exact fun _ => hrefused
          · simp only [avatars, answer, hset] at h
            cases h
          · simp only [avatars, answer, hset] at h
            cases h
      | _ => trivial

/-- **When clients know the avatars.** A client that has asked for the tokens of all handles, and
follows AvatarUpdated, knows in every state of a run what GetAvatarTokens would return exactly when
SetAvatar never sets an empty avatar. -/
theorem avatarUpdated_tells_iff (hsha1 : sha1 [] ≠ "") {s₀ : ClientConnection P a}
    (hs₀ : s₀.announcedTokens = []) {es : List AvatarEvent}
    (hes : (avatars sha1 L).Meets (fun s e => e.Legal s) s₀ es) :
    (∀ es₁ es₂ s, es = es₁ ++ es₂ → (avatars sha1 L).run s₀ es₁ = .ok s →
      Mirror.Follows (tokenOf sha1) announcedTokens s₀ s) ↔
    (avatars sha1 L).Meets NonEmpty s₀ es :=
  Mirror.forall_prefix_follows_iff (fun _ _ _ _ h => nonEmpty_of_error h)
    (fun _ _ _ hlegal h => says_avatars hsha1 hlegal h) hs₀ hes

/-- The digests of the empty avatar and of one that is one byte long. -/
def twoDigests (avatar : List UInt8) : String :=
  if avatar = [0x89] then "3c7923f135d358fd685065fde8a996d474367da2"
  else "da39a3ee5e6b4b0d3255bfef95601890afd80709"

/-- The account sets an avatar and "alice" gets an icon, and clients know both. -/
theorem avatarUpdated_tells_alice :
    withAlice.announcedTokens = [] ∧
      ∀ es₁ es₂ s, [AvatarEvent.call (.setAvatar [0x89] ""),
          AvatarEvent.setForUser "alice" (some [0x89]) 2] = es₁ ++ es₂ →
        (avatars twoDigests .plain).run withAlice es₁ = .ok s →
          Mirror.Follows (tokenOf twoDigests) announcedTokens withAlice s := by
  have hlegal : (avatars twoDigests .plain).Meets (fun s e => e.Legal s) withAlice
      [.call (.setAvatar [0x89] ""), .setForUser "alice" (some [0x89]) 2] :=
    ⟨trivial, rfl, trivial⟩
  refine ⟨rfl, (avatarUpdated_tells_iff (by decide) rfl hlegal).mpr ⟨?_, trivial, trivial⟩⟩
  intro h
  cases h

/-! ## The account's own avatar -/

/-- Other events leave the account's own avatar alone. -/
theorem accountIcon_of_quiet {e : AvatarEvent} (he : ¬ e.SetsAvatar)
    (h : (avatars sha1 L).step s e = .ok s') :
    s'.selfHandle = s.selfHandle ∧ s'.accountIcon = s.accountIcon := by
  cases e with
  | call c =>
      obtain ⟨⟨t, reply⟩, hanswer, rfl⟩ := Except.map_eq_ok.mp h
      have hsame := sameAvatars_answer he hanswer
      exact ⟨hsame.selfHandle, hsame.accountIcon⟩
  | setForUser name icon contact =>
      obtain ⟨effects, hloop, -⟩ := foldlM_buddyIconChangedCb sha1 contact
        (s.buddiesOf name) (s.setIcons name icon)
      have hstep : (avatars sha1 L).step s (.setForUser name icon contact) = _ := hloop
      rw [hstep] at h
      cases h
      exact ⟨rfl, rfl⟩

/-- **What SetAvatar sets, RequestAvatar returns**, and GetKnownAvatarTokens the token that was
replied, after any events that do not set or clear the account's avatar. -/
theorem requestAvatar_of_setAvatar {avatar : List UInt8} (hne : avatar ≠ []) {mimeType : String}
    {t : ClientConnection P a} {token : String}
    (hset : s.hazeConnectionSetAvatar sha1 avatar mimeType = .ok (t, .ok token))
    {es : List AvatarEvent} (hes : ∀ e ∈ es, ¬ e.SetsAvatar)
    (hrun : (avatars sha1 L).run t es = .ok s') :
    (s'.status = .connected →
      s'.hazeConnectionRequestAvatar s'.selfHandle = .ok (avatar, "")) ∧
    s'.getKnownAvatarToken sha1 s'.selfHandle = .ok (some token) := by
  obtain ⟨rfl, ht⟩ : token = sha1 avatar ∧ t.accountIcon = some avatar := by
    rcases s.setAvatar_spec sha1 avatar mimeType with ⟨fault, hfault, -⟩ |
      ⟨u, error, hrefused, -⟩ | ⟨u, -, -, hok⟩
    · rw [hset] at hfault
      cases hfault
    · rw [hset] at hrefused
      cases hrefused
    · rw [hset] at hok
      cases hok
      exact ⟨rfl, if_neg hne⟩
  have hicon : s'.accountIcon = some avatar :=
    Machine.run_invariant (I := fun u => u.accountIcon = some avatar)
      (fun u e u' hu he hstep => (accountIcon_of_quiet he hstep).2.trans hu) ht
      (Machine.meets_of_forall hes t) hrun
  have hget : s'.getAvatar s'.selfHandle = some avatar := by
    rw [getAvatar, if_pos rfl, hicon]
  constructor
  · intro hstatus
    rw [hazeConnectionRequestAvatar, if_neg (not_not_intro hstatus), hget]
  · rw [getKnownAvatarToken, if_pos rfl, hget]
    rfl

/-- An avatar is set, and is still there after "alice" has got an icon. -/
theorem requestAvatar_of_setAvatar_me :
    ∃ s' token, s'.hazeConnectionRequestAvatar s'.selfHandle = .ok ([0x89], "") ∧
      s'.getKnownAvatarToken twoDigests s'.selfHandle = .ok (some token) ∧
      (avatars twoDigests .plain).run withAlice
        [.call (.setAvatar [0x89] ""), .setForUser "alice" (some []) 2] = .ok s' := by
  have hset : ∃ t, withAlice.hazeConnectionSetAvatar twoDigests [0x89] "" =
      .ok (t, .ok (twoDigests [0x89])) := ⟨_, rfl⟩
  obtain ⟨t, hset⟩ := hset
  have hrun : ∃ s', (avatars twoDigests .plain).run t [.setForUser "alice" (some []) 2] =
      .ok s' ∧ s'.status = .connected := by
    cases hset
    exact ⟨_, rfl, rfl⟩
  obtain ⟨s', hrun, hstatus⟩ := hrun
  obtain ⟨hrequest, hknown⟩ :=
    requestAvatar_of_setAvatar (by decide) hset (fun e he => by
      cases List.mem_singleton.mp he
      exact id) hrun
  refine ⟨s', _, hrequest hstatus, hknown, ?_⟩
  cases hset
  exact hrun

end ClientConnection

end Haze
