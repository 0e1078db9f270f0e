import Haze.Connection.Aliasing
import Haze.Connection.Shutdown

set_option autoImplicit false

/-! # `connection-avatars.c`

The methods and the properties of the Avatars interface, on the state of `connection-aliasing.c`.
Then the calls of both interfaces as they come in while a connection goes through its states:
telepathy-glib passes them on in every status.
-/

namespace Haze

/-- `AvatarDBusProperty` -/
inductive AvatarDBusProperty where
  | minW
  | minH
  | maxW
  | maxH
  | recW
  | recH
  | maxBytes
  | types
  deriving DecidableEq

/-- The `GValue` of a property. -/
inductive AvatarValue where
  | uint (n : Nat)
  | strv (strings : Option (List String))
  deriving DecidableEq

/-- `g_strsplit (format, ",", 0)` -/
def gStrsplit (format : String) : List String :=
  if format = "" then [] else format.splitOn ","

/-- `get_token`, for the digest of libpurple's "sha1" cipher. -/
def getToken (sha1 : List UInt8 → String) (avatar : Option (List UInt8)) : Except Fault String :=
  match avatar with
  | none => .error .assertion
  | some avatar => .ok (sha1 avatar)

namespace ClientConnection

variable {P : Libpurple} {a : PurpleAccount}

/-- `_get_acceptable_mime_types`, which returns `NULL` without a format. -/
def getAcceptableMimeTypes (s : ClientConnection P a) :
    Except Fault (ClientConnection P a × Option (List String)) := do
  let prplInfo ← s.hazeConnectionGetPrplInfo
  match prplInfo.iconSpec.format with
  | none => return (s, none)
  | some format =>
      match s.acceptableAvatarMimeTypes with
      | some mimeTypes => return (s, some mimeTypes)
      | none =>
          let mimeTypes := (gStrsplit format).map (fun format => "image/" ++ format)
          return ({ s with acceptableAvatarMimeTypes := some mimeTypes }, some mimeTypes)

/-- `haze_connection_avatars_properties_getter` -/
def hazeConnectionAvatarsPropertiesGetter (s : ClientConnection P a)
    (which : AvatarDBusProperty) : Except Fault (ClientConnection P a × AvatarValue) := do
  if s.status ≠ .connected then
    -- "return dummy values"
    return (s, if which = .types then .strv none else .uint 0)
  let prplInfo ← s.hazeConnectionGetPrplInfo
  if prplInfo.iconSpec.format = none then throw .assertion
  match which with
  | .minW => return (s, .uint prplInfo.iconSpec.minWidth)
  | .maxW => return (s, .uint prplInfo.iconSpec.maxWidth)
  | .minH => return (s, .uint prplInfo.iconSpec.minHeight)
  | .maxH => return (s, .uint prplInfo.iconSpec.maxHeight)
  -- "libpurple has no recommendation"
  | .recW | .recH => return (s, .uint 0)
  | .maxBytes => return (s, .uint prplInfo.iconSpec.maxFilesize)
  | .types =>
      let (s, mimeTypes) ← s.getAcceptableMimeTypes
      return (s, .strv mimeTypes)

/-- `haze_connection_get_avatar_requirements` -/
def hazeConnectionGetAvatarRequirements (s : ClientConnection P a) :
    Except Fault (ClientConnection P a ×
      Except ClientError (Option (List String) × Nat × Nat × Nat × Nat × Nat)) := do
  if s.status ≠ .connected then return (s, .error .notConnected)
  let prplInfo ← s.hazeConnectionGetPrplInfo
  if prplInfo.iconSpec.format = none then throw .assertion
  let iconSpec := prplInfo.iconSpec
  let (s, mimeTypes) ← s.getAcceptableMimeTypes
  return (s, .ok (mimeTypes, iconSpec.minWidth, iconSpec.minHeight, iconSpec.maxWidth,
    iconSpec.maxHeight, iconSpec.maxFilesize))

/-- `get_avatar`; an invalid handle has no name, and nobody is found without one. -/
def getAvatar (s : ClientConnection P a) (handle : Nat) : Option (List UInt8) :=
  if handle = s.selfHandle then s.accountIcon else (s.buddyOf handle).bind s.icon

variable (sha1 : List UInt8 → String)

/-- `get_handle_token` -/
def getHandleToken (s : ClientConnection P a) (handle : Nat) : Except Fault String :=
  match s.getAvatar handle with
  | some avatar => getToken sha1 (some avatar)
  | none => .ok ""

/-- `haze_connection_get_avatar_tokens` -/
def hazeConnectionGetAvatarTokens (s : ClientConnection P a) (contacts : List Nat) :
    Except Fault (Except ClientError (List String)) := do
  if s.status ≠ .connected then return .error .notConnected
  let icons ← contacts.mapM (s.getHandleToken sha1)
  return .ok icons

/-- The token of a contact in `haze_connection_get_known_avatar_tokens`; when the account itself
has no avatar there is none. -/
def getKnownAvatarToken (s : ClientConnection P a) (handle : Nat) :
    Except Fault (Option String) :=
  if handle = s.selfHandle then
    match s.getAvatar handle with
    | some avatar => some <$> getToken sha1 (some avatar)
    | none => .ok none
  else some <$> s.getHandleToken sha1 handle

/-- `haze_connection_get_known_avatar_tokens` -/
def hazeConnectionGetKnownAvatarTokens (s : ClientConnection P a) (contacts : List Nat) :
    Except Fault (Except ClientError (AList (fun _ : Nat => String))) := do
  match s.tpHandlesAreValid contacts with
  | some handle => return .error (.invalidHandle handle)
  | none =>
      let tokens ← contacts.foldlM (fun tokens handle => do
        let token ← s.getKnownAvatarToken sha1 handle
        return token.elim tokens (fun token => tokens.insert handle token)) ∅
      return .ok tokens

/-- `haze_connection_request_avatar`, with the avatar and its MIME type. -/
def hazeConnectionRequestAvatar (s : ClientConnection P a) (contact : Nat) :
    Except ClientError (List UInt8 × String) :=
  if s.status ≠ .connected then .error .notConnected
  else
    match s.getAvatar contact with
    | some avatar => .ok (avatar, "")
    | none => .error (.gError ⟨.notAvailable, "handle " ++ toString contact ++ " has no avatar"⟩)

/-- `haze_connection_request_avatars` -/
def hazeConnectionRequestAvatars (s : ClientConnection P a) (contacts : List Nat) :
    Except Fault (ClientConnection P a × Except ClientError Unit) := do
  if s.status ≠ .connected then return (s, .error .notConnected)
  let s ← contacts.foldlM (fun s handle =>
    match s.getAvatar handle with
    | some avatar => do
        let token ← getToken sha1 (some avatar)
        return s.emit (.avatarRetrieved handle token avatar)
    | none => .ok s) s
  return (s, .ok ())

/-- `purple_buddy_icons_set_account_icon` -/
def purpleBuddyIconsSetAccountIcon (s : ClientConnection P a) (icon : Option (List UInt8)) :
    ClientConnection P a :=
  { s with accountIcon := icon }.emit (.purpleBuddyIconsSetAccountIcon icon)

/-- `haze_connection_clear_avatar` -/
def hazeConnectionClearAvatar (s : ClientConnection P a) : ClientConnection P a :=
  (s.purpleBuddyIconsSetAccountIcon none).emit (.avatarUpdated s.selfHandle "")

/-- `haze_connection_set_avatar` -/
def hazeConnectionSetAvatar (s : ClientConnection P a) (avatar : List UInt8) (mimeType : String) :
    Except Fault (ClientConnection P a × Except ClientError String) := do
  let prplInfo ← s.hazeConnectionGetPrplInfo
  let (s, mimeTypes) ← s.getAcceptableMimeTypes
  let maxFilesize := prplInfo.iconSpec.maxFilesize
  if maxFilesize > 0 ∧ avatar.length > maxFilesize then
    return (s, .error (.gError ⟨.invalidArgument, "avatar is " ++ toString avatar.length ++
      "B, but the limit is " ++ toString maxFilesize ++ "B"⟩))
  let acceptableMimeType ←
    if mimeType = "" then pure true
    else
      match mimeTypes with
      | none => throw .nullDereference
      | some mimeTypes => pure (decide (mimeType ∈ mimeTypes))
  if ¬ acceptableMimeType then
    return (s, .error (.gError ⟨.invalidArgument,
      "'" ++ mimeType ++ "' is not a supported MIME type"⟩))
  -- `g_malloc (0)` is `NULL`
  let s := s.purpleBuddyIconsSetAccountIcon (if avatar = [] then none else some avatar)
  let token ← getToken sha1 (some avatar)
  return (s.emit (.avatarUpdated s.selfHandle token), .ok token)

/-! ## The calls of both interfaces -/

/-- A call of a method of the Aliasing or the Avatars interface, or for a property of Avatars. -/
inductive ClientCall where
  | getAliasFlags
  | getAliases (contacts : List Nat)
  | requestAliases (contacts : List Nat)
  | setAliases (aliases : AList (fun _ : Nat => String))
  | getAvatarProperty (which : AvatarDBusProperty)
  | getAvatarRequirements
  | getAvatarTokens (contacts : List Nat)
  | getKnownAvatarTokens (contacts : List Nat)
  | requestAvatar (contact : Nat)
  | requestAvatars (contacts : List Nat)
  | setAvatar (avatar : List UInt8) (mimeType : String)
  | clearAvatar

variable (L : PurpleBlistAliasBuddy)

/-- What is left after a call, and whether it returned a result or an error. -/
def answer (s : ClientConnection P a) :
    ClientCall → Except Fault (ClientConnection P a × Except ClientError Unit)
  | .getAliasFlags => do return (s, (← s.hazeConnectionGetAliasFlags).map (fun _ => ()))
  | .getAliases contacts => .ok (s, (s.hazeConnectionGetAliases contacts).map (fun _ => ()))
  | .requestAliases contacts =>
      .ok (s, (s.hazeConnectionRequestAliases contacts).map (fun _ => ()))
  | .setAliases aliases => s.hazeConnectionSetAliases L aliases
  | .getAvatarProperty which => do
      let (s, _) ← s.hazeConnectionAvatarsPropertiesGetter which
      return (s, .ok ())
  | .getAvatarRequirements => do
      let (s, reply) ← s.hazeConnectionGetAvatarRequirements
      return (s, reply.map (fun _ => ()))
  | .getAvatarTokens contacts => do
      return (s, (← s.hazeConnectionGetAvatarTokens sha1 contacts).map (fun _ => ()))
  | .getKnownAvatarTokens contacts => do
      return (s, (← s.hazeConnectionGetKnownAvatarTokens sha1 contacts).map (fun _ => ()))
  | .requestAvatar contact =>
      .ok (s, (s.hazeConnectionRequestAvatar contact).map (fun _ => ()))
  | .requestAvatars contacts => s.hazeConnectionRequestAvatars sha1 contacts
  | .setAvatar avatar mimeType => do
      let (s, reply) ← s.hazeConnectionSetAvatar sha1 avatar mimeType
      return (s, reply.map (fun _ => ()))
  | .clearAvatar => .ok (s.hazeConnectionClearAvatar, .ok ())

/-- The call returns a result or an error. -/
def Answers (s : ClientConnection P a) (c : ClientCall) : Prop :=
  ∃ r, s.answer sha1 L c = .ok r

/-- The plugin has an icon format. -/
def HasFormat (s : ClientConnection P a) : Prop := ∃ gc ∈ s.gc, gc.prpl.iconSpec.format ≠ none

/-- What a call needs of the `PurpleConnection` and of the plugin. -/
def CallSafe (s : ClientConnection P a) : ClientCall → Prop
  | .setAliases _ => s.gc.isSome
  | .getAvatarProperty _ => s.status = .connected → s.HasFormat
  | .getAvatarRequirements => s.status = .connected → s.HasFormat
  | .setAvatar avatar mimeType => ∃ gc ∈ s.gc, gc.prpl.iconSpec.format ≠ none ∨ mimeType = "" ∨
      (0 < gc.prpl.iconSpec.maxFilesize ∧ gc.prpl.iconSpec.maxFilesize < avatar.length)
  | _ => True

/-- `SetAliases` goes down when there is no `PurpleConnection`. -/
theorem answers_setAliases (s : ClientConnection P a) (aliases : AList (fun _ : Nat => String)) :
    (∃ r, s.hazeConnectionSetAliases L aliases = .ok r) ↔ s.gc.isSome := by
  cases hgc : s.gc with
  | none =>
      simp only [hazeConnectionSetAliases, canAlias_none hgc]
      constructor
      · rintro ⟨r, hr⟩
        cases hr
      · intro h
        cases h
  | some gc =>
      refine iff_of_true ?_ rfl
      have hcan := canAlias_some hgc
      cases hsupported : gc.prpl.aliasBuddy with
      | false =>
          rw [hsupported] at hcan
          simp only [hazeConnectionSetAliases, hcan]
          exact ⟨_, rfl⟩
      | true =>
          rw [hsupported] at hcan
          obtain ⟨new, error, hloop, -⟩ := foldlM_setAliasesForeach L aliases.entries s none hcan
          simp only [hazeConnectionSetAliases, hcan, hloop]
          cases error with
          | none => exact ⟨_, rfl⟩
          | some error => exact ⟨_, rfl⟩

/-- The list of MIME types is `NULL` when the plugin has no format. -/
theorem getAcceptableMimeTypes_some {s : ClientConnection P a} {gc : PurpleConnection}
    (hgc : s.gc = some gc) : ∃ s' mimeTypes, s.getAcceptableMimeTypes = .ok (s', mimeTypes) ∧
      (mimeTypes = none ↔ gc.prpl.iconSpec.format = none) := by
  unfold getAcceptableMimeTypes
  simp only [getPrplInfo_some hgc, bind, Except.bind]
  cases hformat : gc.prpl.iconSpec.format with
  | none => exact ⟨s, none, rfl, by simp⟩
  | some format =>
      cases s.acceptableAvatarMimeTypes with
      | none => exact ⟨_, some _, rfl, by simp⟩
      | some mimeTypes => exact ⟨s, some mimeTypes, rfl, by simp⟩

theorem hasFormat_some {s : ClientConnection P a} {gc : PurpleConnection} (hgc : s.gc = some gc) :
    s.HasFormat ↔ gc.prpl.iconSpec.format ≠ none := by
  simp [HasFormat, hgc]

/-- What is asked of the icon format, by a method that looks at the status first. -/
theorem answers_guarded {α : Type} {s : ClientConnection P a}
    (hs : s.status = .connected → s.gc.isSome) (dummy : α) {body : PrplInfo → Except Fault α}
    (hbody : ∀ gc, s.gc = some gc → ∃ r, body gc.prpl = .ok r) :
    (∃ r, (if s.status ≠ .connected then pure dummy else do
        let prplInfo ← s.hazeConnectionGetPrplInfo
        if prplInfo.iconSpec.format = none then throw Fault.assertion else body prplInfo) = .ok r) ↔
      (s.status = .connected → s.HasFormat) := by
  by_cases hstatus : s.status = .connected
  · obtain ⟨gc, hgc⟩ := Option.isSome_iff_exists.mp (hs hstatus)
    rw [if_neg (not_not_intro hstatus), hasFormat_some hgc]
    simp only [getPrplInfo_some hgc, bind, Except.bind]
    by_cases hformat : gc.prpl.iconSpec.format = none
    · rw [if_pos hformat]
      refine iff_of_false ?_ (fun h => h hstatus hformat)
      rintro ⟨r, hr⟩
      cases hr
    · rw [if_neg hformat]
      exact iff_of_true (hbody gc hgc) (fun _ => hformat)
  · rw [if_pos hstatus]
    exact iff_of_true ⟨_, rfl⟩ (fun h => absurd h hstatus)

theorem answers_getAvatarProperty {s : ClientConnection P a}
    (hs : s.status = .connected → s.gc.isSome) (which : AvatarDBusProperty) :
    (∃ r, s.hazeConnectionAvatarsPropertiesGetter which = .ok r) ↔
      (s.status = .connected → s.HasFormat) := by
  refine answers_guarded hs _ (fun gc hgc => ?_)
  obtain ⟨s', mimeTypes, hmime, -⟩ := getAcceptableMimeTypes_some hgc
  rw [hmime]
  cases which <;> exact ⟨_, rfl⟩

theorem answers_getAvatarRequirements {s : ClientConnection P a}
    (hs : s.status = .connected → s.gc.isSome) :
    (∃ r, s.hazeConnectionGetAvatarRequirements = .ok r) ↔
      (s.status = .connected → s.HasFormat) := by
  refine answers_guarded hs _ (fun gc hgc => ?_)
  obtain ⟨s', mimeTypes, hmime, -⟩ := getAcceptableMimeTypes_some hgc
  rw [hmime]
  exact ⟨_, rfl⟩

/-- `SetAvatar` follows `account->gc`, and then the list of MIME types unless the avatar is refused
or passed before. -/
theorem answers_setAvatar (s : ClientConnection P a) (avatar : List UInt8) (mimeType : String) :
    (∃ r, s.hazeConnectionSetAvatar sha1 avatar mimeType = .ok r) ↔
      ∃ gc ∈ s.gc, gc.prpl.iconSpec.format ≠ none ∨ mimeType = "" ∨
        (0 < gc.prpl.iconSpec.maxFilesize ∧ gc.prpl.iconSpec.maxFilesize < avatar.length) := by
  unfold hazeConnectionSetAvatar
  cases hgc : s.gc with
  | none =>
      rw [getPrplInfo_none hgc]
      refine iff_of_false ?_ (by simp)
      rintro ⟨r, hr⟩
      cases hr
  | some gc =>
      obtain ⟨s', mimeTypes, hmime, hnull⟩ := getAcceptableMimeTypes_some hgc
      simp only [getPrplInfo_some hgc, hmime, bind, Except.bind, Option.mem_some_iff,
        exists_eq_left', gt_iff_lt]
      by_cases hsize : 0 < gc.prpl.iconSpec.maxFilesize ∧
          gc.prpl.iconSpec.maxFilesize < avatar.length
      · rw [if_pos hsize]
        exact iff_of_true ⟨_, rfl⟩ (Or.inr (Or.inr hsize))
      · rw [if_neg hsize]
        by_cases hempty : mimeType = ""
        · rw [if_pos hempty]
          exact iff_of_true ⟨_, rfl⟩ (Or.inr (Or.inl hempty))
        · rw [if_neg hempty]
          cases mimeTypes with
          | none =>
              refine iff_of_false ?_ (by simp [hsize, hempty, hnull.mp rfl])
              rintro ⟨r, hr⟩
              cases hr
          | some mimeTypes =>
              refine iff_of_true ?_ (Or.inl (fun h => by simpa using hnull.mpr h))
              by_cases hmem : mimeType ∈ mimeTypes
              · simp only [decide_eq_true hmem]
                exact ⟨_, rfl⟩
              · simp only [decide_eq_false hmem]
                exact ⟨_, rfl⟩

/-- What follows a call that does not fail does not matter. -/
theorem exists_bind_ok {α β : Type} {x : Except Fault α} {f : α → Except Fault β}
    (hf : ∀ y, ∃ r, f y = .ok r) : (∃ r, x >>= f = .ok r) ↔ ∃ y, x = .ok y := by
  cases x with
  | error fault =>
      refine iff_of_false ?_ ?_
      · rintro ⟨r, hr⟩
        cases hr
      · rintro ⟨y, hy⟩
        cases hy
  | ok y => exact iff_of_true (hf y) ⟨y, rfl⟩

/-- A loop whose body does not fail goes through. -/
theorem exists_foldlM_ok {α β : Type} {f : β → α → Except Fault β}
    (hf : ∀ b x, ∃ b', f b x = .ok b') (b : β) (xs : List α) : ∃ b', xs.foldlM f b = .ok b' := by
  induction xs generalizing b with
  | nil => exact ⟨b, rfl⟩
  | cons x xs ih =>
      obtain ⟨b', hb'⟩ := hf b x
      obtain ⟨r, hr⟩ := ih b'
      exact ⟨r, by rw [List.foldlM_cons, hb']; exact hr⟩

theorem answers_getAliasFlags {s : ClientConnection P a}
    (hs : s.status = .connected → s.gc.isSome) : ∃ r, s.hazeConnectionGetAliasFlags = .ok r := by
  unfold hazeConnectionGetAliasFlags
  by_cases hstatus : s.status = .connected
  · obtain ⟨gc, hgc⟩ := Option.isSome_iff_exists.mp (hs hstatus)
    rw [if_neg (not_not_intro hstatus)]
    simp only [canAlias_some hgc]
    cases gc.prpl.aliasBuddy with
    | true => exact ⟨_, rfl⟩
    | false => exact ⟨_, rfl⟩
  · rw [if_pos hstatus]
    exact ⟨_, rfl⟩

/-- The assertion of `get_token` holds wherever it is called. -/
theorem exists_getHandleToken (s : ClientConnection P a) (handle : Nat) :
    ∃ token, s.getHandleToken sha1 handle = .ok token := by
  unfold getHandleToken
  cases s.getAvatar handle with
  | none => exact ⟨_, rfl⟩
  | some avatar => exact ⟨_, rfl⟩

theorem exists_getKnownAvatarToken (s : ClientConnection P a) (handle : Nat) :
    ∃ token, s.getKnownAvatarToken sha1 handle = .ok token := by
  obtain ⟨token, htoken⟩ := exists_getHandleToken sha1 s handle
  unfold getKnownAvatarToken
  rw [htoken]
  split
  · cases s.getAvatar handle with
    | none => exact ⟨_, rfl⟩
    | some avatar => exact ⟨_, rfl⟩
  · exact ⟨_, rfl⟩

theorem answers_getAvatarTokens (s : ClientConnection P a) (contacts : List Nat) :
    ∃ r, s.hazeConnectionGetAvatarTokens sha1 contacts = .ok r := by
  have htokens : ∃ icons, contacts.mapM (s.getHandleToken sha1) = .ok icons := by
    induction contacts with
    | nil => exact ⟨[], rfl⟩
    | cons handle contacts ih =>
        obtain ⟨token, htoken⟩ := exists_getHandleToken sha1 s handle
        obtain ⟨icons, hicons⟩ := ih
        exact ⟨token :: icons, by rw [List.mapM_cons, htoken, hicons]; rfl⟩
  obtain ⟨icons, hicons⟩ := htokens
  unfold hazeConnectionGetAvatarTokens
  rw [hicons]
  split
  · exact ⟨_, rfl⟩
  · exact ⟨_, rfl⟩

theorem answers_getKnownAvatarTokens (s : ClientConnection P a) (contacts : List Nat) :
    ∃ r, s.hazeConnectionGetKnownAvatarTokens sha1 contacts = .ok r := by
  unfold hazeConnectionGetKnownAvatarTokens
  cases s.tpHandlesAreValid contacts with
  | some handle => exact ⟨_, rfl⟩
  | none =>
      have hbody : ∀ (tokens : AList (fun _ : Nat => String)) (handle : Nat), ∃ tokens', (do
          let token ← s.getKnownAvatarToken sha1 handle
          return token.elim tokens (fun token => tokens.insert handle token) :
          Except Fault (AList (fun _ : Nat => String))) = .ok tokens' := by
        intro tokens handle
        obtain ⟨token, htoken⟩ := exists_getKnownAvatarToken sha1 s handle
        exact ⟨_, by rw [htoken]; rfl⟩
      exact (exists_bind_ok (fun tokens => ⟨_, rfl⟩)).mpr (exists_foldlM_ok hbody ∅ contacts)

theorem answers_requestAvatars (s : ClientConnection P a) (contacts : List Nat) :
    ∃ r, s.hazeConnectionRequestAvatars sha1 contacts = .ok r := by
  unfold hazeConnectionRequestAvatars
  split
  · exact ⟨_, rfl⟩
  · refine (exists_bind_ok (fun s' => ⟨_, rfl⟩)).mpr (exists_foldlM_ok ?_ s contacts)
    intro s handle
    cases s.getAvatar handle with
    | none => exact ⟨_, rfl⟩
    | some avatar => exact ⟨_, rfl⟩

/-- **Which calls are answered**, when `CONNECTED` means that there is a `PurpleConnection`. -/
theorem answers_iff {s : ClientConnection P a} (hs : s.status = .connected → s.gc.isSome)
    (c : ClientCall) : Answers sha1 L s c ↔ CallSafe s c := by
  cases c with
  | getAliasFlags =>
      refine iff_of_true ((exists_bind_ok ?_).mpr (answers_getAliasFlags hs)) trivial
      exact fun r => ⟨_, rfl⟩
  | getAliases contacts => exact iff_of_true ⟨_, rfl⟩ trivial
  | requestAliases contacts => exact iff_of_true ⟨_, rfl⟩ trivial
  | setAliases aliases => exact answers_setAliases L s aliases
  | getAvatarProperty which =>
      refine (exists_bind_ok ?_).trans (answers_getAvatarProperty hs which)
      exact fun r => ⟨_, rfl⟩
  | getAvatarRequirements =>
      refine (exists_bind_ok ?_).trans (answers_getAvatarRequirements hs)
      exact fun r => ⟨_, rfl⟩
  | getAvatarTokens contacts =>
      refine iff_of_true ((exists_bind_ok ?_).mpr (answers_getAvatarTokens sha1 s contacts)) trivial
      exact fun r => ⟨_, rfl⟩
  | getKnownAvatarTokens contacts =>
      refine iff_of_true ((exists_bind_ok ?_).mpr (answers_getKnownAvatarTokens sha1 s contacts))
        trivial
      exact fun r => ⟨_, rfl⟩
  | requestAvatar contact => exact iff_of_true ⟨_, rfl⟩ trivial
  | requestAvatars contacts => exact iff_of_true (answers_requestAvatars sha1 s contacts) trivial
  | setAvatar avatar mimeType =>
      refine (exists_bind_ok ?_).trans (answers_setAvatar sha1 s avatar mimeType)
      exact fun r => ⟨_, rfl⟩
  | clearAvatar => exact iff_of_true ⟨_, rfl⟩ trivial

end ClientConnection

/-! ## Calls in every state of a connection

A call comes in from the main loop. It finds the status and the `PurpleConnection` of the state;
the rest of what it finds may be anything that libpurple and earlier calls have left. -/

/-- An event of a connection, or a call. -/
inductive ClientEvent (P : Libpurple) (a : PurpleAccount) where
  | connection (e : HazeConnection.ConnectionEvent)
  | call (view : ClientConnection P a) (c : ClientConnection.ClientCall)

variable {P : Libpurple} {a : PurpleAccount}

/-- A connection whose methods are called. -/
def clientCalls (sha1 : List UInt8 → String) (L : PurpleBlistAliasBuddy) :
    Machine HazeConnection (ClientEvent P a) Fault where
  step
    | s, .connection e => connections.step s e
    | s, .call view c => (view.answer sha1 L c).map (fun _ => s)

namespace ClientEvent

/-- What is promised of the events. -/
def Legal (s : HazeConnection) : ClientEvent P a → Prop
  | .connection e => HazeConnection.Legal s e
  | .call view _ => s.stack = [] ∧ view.status = s.status ∧ view.gc.isSome = s.online

instance (s : HazeConnection) : DecidablePred (Legal (P := P) (a := a) s)
  | .connection e => inferInstanceAs (Decidable (HazeConnection.Legal s e))
  | .call view _ => inferInstanceAs
      (Decidable (s.stack = [] ∧ view.status = s.status ∧ view.gc.isSome = s.online))

/-- A call is answered. -/
def Answered (sha1 : List UInt8 → String) (L : PurpleBlistAliasBuddy) : ClientEvent P a → Prop
  | .connection _ => True
  | .call view c => view.Answers sha1 L c

/-- A call finds what it needs. -/
def Safe : ClientEvent P a → Prop
  | .connection _ => True
  | .call view c => view.CallSafe c

end ClientEvent

namespace HazeConnection

variable {s s' : HazeConnection}

/-- While the status is `CONNECTED`, libpurple has a `PurpleConnection`. -/
def ConnectedOnline (s : HazeConnection) : Prop := s.status = .connected → s.online = true

theorem ConnectedOnline.same (hs : ConnectedOnline s) (h : SameShutdown s s') :
    ConnectedOnline s' := by
  intro hstatus
  rw [h.online]
  exact hs (h.status.symm.trans hstatus)

theorem connectedOnline_of_disconnected (hstatus : s.status = .disconnected) :
    ConnectedOnline s := by
  intro hconnected
  rw [hstatus] at hconnected
  cases hconnected

/-- The status after a change to `DISCONNECTED`. -/
theorem status_changeStatus_disconnected (s : HazeConnection) :
    (s.changeStatus .disconnected).status = .disconnected := by
  by_cases hstatus : s.status = .disconnected
  · rw [changeStatus_of_disconnected hstatus, hstatus]
  · rcases changeStatus_disconnected_cases hstatus with ⟨-, h⟩ | ⟨-, -, h⟩ | ⟨-, -, h⟩ <;>
      rw [h] <;> rfl

theorem connectedOnline_of_online (honline : s.online = true) : ConnectedOnline s :=
  fun _ => honline

/-- Connecting goes on without a `PurpleConnection`, or with one. -/
theorem connectedOnline_startConnecting (hnew : s.status = .new) :
    (s.startConnecting true).2 = true ∧ ConnectedOnline (s.startConnecting true).1 := by
  have hconnecting : s.changeStatus .connecting = { s with status := .connecting } := by
    simp [changeStatus, hnew]
  unfold startConnecting
  rw [if_neg (not_not_intro rfl), hconnecting]
  simp only
  split
  · refine ⟨rfl, fun hstatus => ?_⟩
    cases hstatus
  · exact ⟨rfl, connectedOnline_of_online rfl⟩

theorem connectedOnline_connect (hnew : s.status = .new) (selfHandle : Bool) :
    ConnectedOnline (s.connect selfHandle) := by
  cases selfHandle with
  | false => exact connectedOnline_of_disconnected (status_changeStatus_disconnected s)
  | true =>
      obtain ⟨hstarted, hs⟩ := connectedOnline_startConnecting hnew
      unfold connect
      split
      · rename_i t hstart
        rw [hstart] at hs
        exact hs
      · rename_i t hstart
        rw [hstart] at hstarted
        cases hstarted

theorem ConnectedOnline.promptCb (hs : ConnectedOnline s) {request : Option Nat}
    {result : Except GError String} (h : s.promptCb request result = .ok s') :
    ConnectedOnline s' := by
  cases result with
  | error error =>
      simp only [HazeConnection.promptCb] at h
      split at h
      · exact ConnectedOnline.same (s := s.promptFinish request (.error error)) hs
          (sameShutdown_requestPasswordCb h)
      · cases h
        split
        · exact connectedOnline_of_disconnected (status_changeStatus_disconnected _)
        · exact hs
  | ok password =>
      simp only [HazeConnection.promptCb] at h
      split at h
      · exact ConnectedOnline.same
          (s := { s.promptFinish request (.ok password) with password := some password }) hs
          (sameShutdown_requestPasswordCb h)
      · cases h
        exact connectedOnline_of_online rfl

theorem ConnectedOnline.ret (hs : ConnectedOnline s) : ConnectedOnline s.ret := by
  unfold HazeConnection.ret
  split
  · exact hs
  · exact hs
  · rename_i fd stack _
    exact ConnectedOnline.same (s := { s with stack := stack }) hs
      (sameShutdown_purpleRequestClose _ fd)
  · exact hs
  · exact hs

/-- Every step of a connection keeps the `PurpleConnection` that `CONNECTED` stands for. -/
theorem ConnectedOnline.step (hs : ConnectedOnline s) {e : ConnectionEvent} (hlegal : Legal s e)
    (h : connections.step s e = .ok s') : ConnectedOnline s' := by
  cases e with
  | connect selfHandle =>
      cases h
      exact connectedOnline_connect hlegal.2 selfHandle
  | disconnect =>
      cases h
      exact connectedOnline_of_disconnected (status_changeStatus_disconnected s)
  | promptFinish request result => exact hs.promptCb h
  | idle source =>
      change s.runIdle source = .ok s' at h
      cases source with
      | finishShutdown =>
          cases h
          exact hs
      | requestFieldsDestroy fd =>
          exact ConnectedOnline.same
            (s := { s with idles := s.idles.erase (.requestFieldsDestroy fd) }) hs
            (sameShutdown_requestFieldsDestroy h)
  | mainLoop =>
      cases h
      exact hs
  | ret =>
      cases h
      exact hs.ret
  | connected =>
      cases h
      refine connectedOnline_of_online ?_
      simp only [connectedCb, changeStatus, reduceCtorEq, if_false]
      split
      · exact hlegal.2
      · exact hlegal.2
  | reportDisconnectReason reason text =>
      cases h
      exact connectedOnline_of_disconnected (status_changeStatus_disconnected _)
  | disconnected =>
      cases h
      refine connectedOnline_of_disconnected ?_
      simp only [disconnectedCb]
      split
      · exact status_changeStatus_disconnected _
      · rename_i hstatus
        exact not_not.mp hstatus
  | requestFields password okCb cancelCb =>
      cases h
      exact hs.same (sameShutdown_requestFields s password okCb cancelCb)
  | closeRequest fd =>
      cases h
      exact hs.same (sameShutdown_purpleRequestClose s fd)

end HazeConnection

/-- **When alias and avatar calls are safe.** In every run, all calls are answered just when each
of them finds what it needs: `SetAliases` and `SetAvatar` a `PurpleConnection`, and `SetAvatar`,
the requirements and the properties a plugin with an icon format. -/
theorem clientCalls_answered_iff (sha1 : List UInt8 → String) (L : PurpleBlistAliasBuddy)
    (prplInfo : PurplePluginProtocolInfo) (password : Option String) (es : List (ClientEvent P a))
    (hes : (clientCalls sha1 L).Meets ClientEvent.Legal (.init prplInfo password) es) :
    (clientCalls sha1 L).Meets (fun _ e => e.Answered sha1 L) (.init prplInfo password) es ↔
      (clientCalls sha1 L).Meets (fun _ e => e.Safe) (.init prplInfo password) es := by
  refine Machine.meets_iff_of_reachable (I := HazeConnection.ConnectedOnline) ?_ ?_ ?_ hes
  · intro s e hs hlegal
    cases e with
    | connection e => exact Iff.rfl
    | call view c =>
        obtain ⟨-, hstatus, hgc⟩ := hlegal
        refine ClientConnection.answers_iff sha1 L (fun hconnected => ?_) c
        rw [hgc]
        exact hs (hstatus.symm.trans hconnected)
  · intro s e s' hs hlegal hstep
    cases e with
    | connection e => exact hs.step hlegal hstep
    | call view c =>
        simp only [clientCalls] at hstep
        cases hanswer : view.answer sha1 L c with
        | error fault =>
            rw [hanswer] at hstep
            cases hstep
        | ok r =>
            rw [hanswer] at hstep
            cases hstep
            exact hs
  · intro hstatus
    cases hstatus

/-- An alias is set while the connection is `CONNECTED`. -/
theorem clientCalls_answered_iff_connected :
    (clientCalls (fun _ => "") .plain).Meets (fun _ e => e.Answered (fun _ => "") .plain)
      (.init ⟨false, false⟩ (some "secret"))
      [.connection (.connect true), .connection .connected, .connection .ret,
        .call ClientConnection.withAlice (.setAliases [⟨2, "Alice"⟩].toAList)] := by
  refine (clientCalls_answered_iff (fun _ => "") .plain ⟨false, false⟩ (some "secret") _
    (by decide)).mpr ?_
  exact ⟨trivial, trivial, trivial, rfl, trivial⟩

/-- The connection of "me" before it connects. -/
def ClientConnection.beforeConnecting : ClientConnection Libpurple.plain 0 :=
  { withAlice with status := .new, gc := none, self_valid := nofun }

/-- Before a connection connects, `SetAliases` runs into the assertion of `can_alias`, and
`SetAvatar` follows the `NULL` in `account->gc`. -/
theorem calls_before_connecting :
    let calls := clientCalls (P := Libpurple.plain) (a := 0) (fun _ => "") .plain
    let setAliases : ClientEvent Libpurple.plain 0 :=
      .call .beforeConnecting (.setAliases [⟨2, "Alice"⟩].toAList)
    let setAvatar : ClientEvent Libpurple.plain 0 :=
      .call .beforeConnecting (.setAvatar [0x89] "image/png")
    (calls.Meets ClientEvent.Legal (.init ⟨false, false⟩ none) [setAliases] ∧
      calls.run (.init ⟨false, false⟩ none) [setAliases] = .error .assertion ∧
      ¬ setAliases.Answered (fun _ => "") .plain) ∧
    (calls.Meets ClientEvent.Legal (.init ⟨false, false⟩ none) [setAvatar] ∧
      calls.run (.init ⟨false, false⟩ none) [setAvatar] = .error .nullDereference ∧
      ¬ setAvatar.Answered (fun _ => "") .plain) := by
  refine ⟨⟨by decide, rfl, ?_⟩, by decide, rfl, ?_⟩
  · rintro ⟨r, hr⟩
    cases hr
  · rintro ⟨r, hr⟩
    cases hr

end Haze
