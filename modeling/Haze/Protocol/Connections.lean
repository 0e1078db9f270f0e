import Haze.Protocol.Tables

set_option autoImplicit false

/-! # A new connection, step by step

`haze_protocol_new_connection` translates the table of parameters (`Translated`), takes the user
name and the password from what it gets (`Taken`), and sets the options of the new account from the
rest (`Stored`).
-/

namespace Haze

namespace HazeProtocol

variable {p : HazeProtocol} {asv params params' left : Asv} {option : PurpleAccountOption}
  {account : PurpleAccountRecord} {key username : String} {password : Option String}
  {purpleAccountsFind : String → String → Bool}

/-! ## The translation -/

/-- The table in libpurple's names. -/
structure Translated (p : HazeProtocol) (asv params : Asv) : Prop where
  set : ∀ spec ∈ p.getParameters, ∀ key, spec.setterData = some key →
    params.lookup key = asv.lookup (p.optionName key)
  unset : ∀ key, (∀ spec ∈ p.getParameters, spec.setterData ≠ some key) →
    p.connectionSecurity = none ∨ key ≠ "connection_security" → params.lookup key = none
  security : p.connectionSecurity ≠ none →
    params.lookup "connection_security" = some (.string (securityOf asv))

/-- The fixup is for Jabber, and what it looks for is not translated. -/
theorem jabber_of_fixup : ∀ info ∈ knownProtocolInfo, info.fixup = some .jabber →
    info.parameterMap.find? (fun m => m.purpleName = "connection_security") =
      some ⟨"connection_security", "IGNORE"⟩ := by
  decide

theorem connectionSecurity_some (hp : p.FromTable) (h : p.connectionSecurity = some option) :
    option ∈ p.prplInfo.protocolOptions ∧ option.prefName = "connection_security" ∧
      p.lookupParam "connection_security" = some ⟨"connection_security", "IGNORE"⟩ := by
  unfold connectionSecurity at h
  split at h
  · rename_i info hinfo
    split at h
    · rename_i hfixup
      have hname := List.find?_some h
      refine ⟨List.mem_of_find?_eq_some h, of_decide_eq_true hname, ?_⟩
      unfold lookupParam
      rw [hinfo]
      exact jabber_of_fixup info (hp info hinfo) hfixup
    · cases h
  · cases h

theorem connectionSecurity_ne_none (h : option ∈ p.connectionSecurity) :
    p.connectionSecurity ≠ none := by
  rw [Option.mem_def.mp h]
  exact Option.some_ne_none option

theorem connectionSecurity_ne_usersplit (i : Nat) : "connection_security" ≠ usersplit i :=
  ne_usersplit (by decide) i

theorem translateProtocolOption_of_ignored (hp : p.FromTable)
    (h : p.connectionSecurity ≠ none) (hname : option.prefName = "connection_security") :
    p.translateProtocolOption option = none := by
  obtain ⟨security, hsecurity⟩ := Option.ne_none_iff_exists'.mp h
  obtain ⟨-, -, hlookup⟩ := connectionSecurity_some hp hsecurity
  unfold translateProtocolOption
  rw [hname, hlookup]
  exact if_pos rfl

/-- With the fixup nothing is set as `connection_security`. -/
theorem setterData_ne_of_security (hp : p.FromTable) (h : p.connectionSecurity ≠ none) :
    ∀ spec ∈ p.getParameters, spec.setterData ≠ some "connection_security" := by
  intro spec hspec hsetter
  rcases mem_getParameters.mp hspec with
    rfl | ⟨-, i, -, -, rfl⟩ | ⟨-, rfl⟩ | ⟨option, -, hoption⟩ | hfixup
  · revert hsetter
    decide
  · have hname : usersplit i = "connection_security" := Option.some.inj hsetter
    exact connectionSecurity_ne_usersplit i hname.symm
  · revert hsetter
    decide
  · rw [(name_of_option hoption).2] at hsetter
    rw [translateProtocolOption_of_ignored hp h (Option.some.inj hsetter)] at hoption
    cases hoption
  · rw [(setterData_of_jabberFixup hfixup).1] at hsetter
    cases hsetter

/-- What is not used is a parameter that the fixup has added. -/
theorem unused_of_fixup (hlisted : ∀ key ∈ asv.keys, key ∈ p.getParameters.map TpCMParamSpec.name)
    {name : String} {value : GValue}
    (hvalue : (translateLoop asv p.getParameters ∅ asv).2.lookup name = some value) :
    p.connectionSecurity ≠ none ∧ (name = "old-ssl" ∨ name = "require-encryption") := by
  obtain ⟨hasv, hsetter⟩ := unused_translateLoop hvalue
  have hmem : name ∈ asv.keys := by
    by_contra hnot
    rw [AList.lookup_eq_none.mpr (fun hin => hnot (AList.mem_keys.mp hin))] at hasv
    cases hasv
  obtain ⟨spec, hspec, rfl⟩ := List.mem_map.mp (hlisted name hmem)
  have hnone := hsetter spec hspec rfl (by rw [hasv]; exact Option.some_ne_none _)
  rcases mem_getParameters.mp hspec with
    rfl | ⟨-, i, -, -, rfl⟩ | ⟨-, rfl⟩ | ⟨option, -, hoption⟩ | hfixup
  · cases hnone
  · cases hnone
  · cases hnone
  · rw [(name_of_option hoption).2] at hnone
    cases hnone
  · refine ⟨fun hsecurity => ?_, (setterData_of_jabberFixup hfixup).2⟩
    unfold jabberFixup at hfixup
    rw [hsecurity] at hfixup
    cases hfixup

/-- **The assertion never fails**: every parameter of the protocol is used. -/
theorem translateParameters_ok (hp : p.FromTable)
    (hlisted : ∀ key ∈ asv.keys, key ∈ p.getParameters.map TpCMParamSpec.name) :
    ∃ params, p.translateParameters asv = .ok params ∧ Translated p asv params := by
  have hset : ∀ spec ∈ p.getParameters, ∀ key, spec.setterData = some key →
      (translateLoop asv p.getParameters ∅ asv).1.lookup key = asv.lookup (p.optionName key) := by
    intro spec hspec key hsetter
    have hname : ∀ spec ∈ p.getParameters, spec.setterData = some key →
        spec.name = p.optionName key := fun spec hspec => name_of_setterData hp hspec
    rw [lookup_translateLoop_of_mem hname ⟨spec, hspec, hsetter⟩, AList.lookup_empty,
      Option.or_none]
  have hunset : ∀ key, (∀ spec ∈ p.getParameters, spec.setterData ≠ some key) →
      (translateLoop asv p.getParameters ∅ asv).1.lookup key = none := by
    intro key hkey
    rw [lookup_translateLoop_of_not_mem hkey, AList.lookup_empty]
  unfold translateParameters
  dsimp only
  cases hsecurity : p.connectionSecurity with
  | none =>
      have hempty : (translateLoop asv p.getParameters ∅ asv).2 = ∅ := by
        refine eq_empty_of_lookup fun name => ?_
        cases hvalue : (translateLoop asv p.getParameters ∅ asv).2.lookup name with
        | none => rfl
        | some value => exact absurd hsecurity (unused_of_fixup hlisted hvalue).1
      rw [Option.isSome_none, if_neg Bool.false_ne_true, hempty]
      refine ⟨_, if_pos rfl, hset, fun key hkey _ => hunset key hkey, fun h => absurd hsecurity h⟩
  | some security =>
      have hsome : p.connectionSecurity ≠ none := connectionSecurity_ne_none hsecurity
      have hempty : ((translateLoop asv p.getParameters ∅ asv).2.erase "old-ssl").erase
          "require-encryption" = ∅ := by
        refine eq_empty_of_lookup fun name => ?_
        rw [lookup_erase_eq, lookup_erase_eq]
        cases hvalue : (translateLoop asv p.getParameters ∅ asv).2.lookup name with
        | none => simp
        | some value =>
            rcases (unused_of_fixup hlisted hvalue).2 with rfl | rfl
            · simp
            · simp
      rw [Option.isSome_some, if_pos rfl, hempty]
      refine ⟨_, if_pos rfl, fun spec hspec key hsetter => ?_, fun key hkey hne => ?_,
        fun _ => AList.lookup_insert _⟩
      · have hne : key ≠ "connection_security" := by
          rintro rfl
          exact setterData_ne_of_security hp hsome spec hspec hsetter
        rw [lookup_insert_eq, if_neg hne]
        exact hset spec hspec key hsetter
      · rw [lookup_insert_eq, if_neg (hne.resolve_left hsome)]
        exact hunset key hkey

/-! ## The user name and the password -/

/-- The user name is made of more than the account. -/
def HasSplits (p : HazeProtocol) (params : Asv) : Prop :=
  p.prplInfo.userSplits ≠ [] ∧ params.lookup (usersplit 1) ≠ none

instance (p : HazeProtocol) (params : Asv) : Decidable (p.HasSplits params) :=
  inferInstanceAs (Decidable (_ ∧ _))

/-- The values of the splits are strings. -/
def SplitStrings (p : HazeProtocol) (params : Asv) : Prop :=
  ∀ i value, 1 ≤ i → i ≤ p.prplInfo.userSplits.length →
    params.lookup (usersplit i) = some value → ∃ s, value = .string s

/-- What is taken from the table to make an account of it. -/
structure Taken (p : HazeProtocol) (params : Asv) (username : String) (password : Option String)
    (left : Asv) : Prop where
  named : ∀ user, params.tpAsvGetString "account" = some user → username =
    if p.HasSplits params then
      user ++ splitsText (splitValue params) p.prplInfo.userSplits 1
    else user
  strings : p.HasSplits params → p.SplitStrings params
  secret : password = params.tpAsvGetString "password"
  noAccount : left.lookup "account" = none
  noSplits : p.HasSplits params → ∀ i, 1 ≤ i → i ≤ p.prplInfo.userSplits.length →
    left.lookup (usersplit i) = none
  noPassword : left.lookup "password" =
    if password = none then params.lookup "password" else none
  kept : ∀ key, key ≠ "account" → key ≠ "password" →
    (p.HasSplits params → ∀ i, 1 ≤ i → i ≤ p.prplInfo.userSplits.length → key ≠ usersplit i) →
      left.lookup key = params.lookup key

theorem account_ne_usersplit (i : Nat) : "account" ≠ usersplit i := ne_usersplit (by decide) i

theorem password_ne_usersplit (i : Nat) : "password" ≠ usersplit i := ne_usersplit (by decide) i

theorem getUsername_eq {user : String} (huser : params.tpAsvGetString "account" = some user) :
    getUsername params p.prplInfo true =
      (if p.HasSplits params then usernameLoop true p.prplInfo.userSplits 1 user params
        else .ok (user, params)).map (fun named => (some named.1, named.2.erase "account")) := by
  unfold getUsername
  rw [huser]
  dsimp only
  by_cases hsplits : p.HasSplits params
  · have hcond : p.prplInfo.userSplits ≠ [] ∧ params.lookup (usersplit 1) ≠ none := hsplits
    rw [if_pos hsplits, if_pos hcond]
    cases usernameLoop true p.prplInfo.userSplits 1 user params with
    | error fault => rfl
    | ok named => rfl
  · have hcond : ¬ (p.prplInfo.userSplits ≠ [] ∧ params.lookup (usersplit 1) ≠ none) := hsplits
    rw [if_neg hsplits, if_neg hcond]
    rfl

theorem getUsername_ok {user : String} (huser : params.tpAsvGetString "account" = some user)
    {result : Option String × Asv} (h : getUsername params p.prplInfo true = .ok result) :
    ∃ username, result.1 = some username ∧
      (username = if p.HasSplits params then
        user ++ splitsText (splitValue params) p.prplInfo.userSplits 1 else user) ∧
      (p.HasSplits params → p.SplitStrings params) ∧
      result.2.lookup "account" = none ∧
      (p.HasSplits params → ∀ i, 1 ≤ i → i ≤ p.prplInfo.userSplits.length →
        result.2.lookup (usersplit i) = none) ∧
      ∀ key, key ≠ "account" → (p.HasSplits params → ∀ i, 1 ≤ i →
        i ≤ p.prplInfo.userSplits.length → key ≠ usersplit i) →
          result.2.lookup key = params.lookup key := by
  rw [getUsername_eq huser] at h
  by_cases hsplits : p.HasSplits params
  · rw [if_pos hsplits] at h
    cases hloop : usernameLoop true p.prplInfo.userSplits 1 user params with
    | error fault =>
        rw [hloop] at h
        cases h
    | ok named =>
        obtain ⟨username, rest⟩ := named
        rw [hloop] at h
        cases h
        obtain ⟨husername, hnamed⟩ := usernameLoop_ok hloop
        refine ⟨username, rfl, by rw [if_pos hsplits]; exact husername,
          fun _ i value hi hi' => hnamed.strings i value hi (by omega), AList.lookup_erase _ _,
          fun _ i hi hi' => ?_, fun key hkey hnot => ?_⟩
        · have hne : usersplit i ≠ "account" := (account_ne_usersplit i).symm
          rw [lookup_erase_eq, if_neg hne]
          exact hnamed.taken i hi (by omega)
        · rw [lookup_erase_eq, if_neg hkey]
          exact hnamed.kept key fun i hi hi' => hnot hsplits i hi (by omega)
  · rw [if_neg hsplits] at h
    cases h
    refine ⟨user, rfl, by rw [if_neg hsplits], fun h => absurd h hsplits, AList.lookup_erase _ _,
      fun h => absurd h hsplits, fun key hkey _ => ?_⟩
    rw [lookup_erase_eq, if_neg hkey]

theorem getUsername_total {user : String} (huser : params.tpAsvGetString "account" = some user)
    (h : p.HasSplits params → p.SplitStrings params) :
    ∃ result, getUsername params p.prplInfo true = .ok result := by
  rw [getUsername_eq huser]
  by_cases hsplits : p.HasSplits params
  · have hstrings : ∀ i value, 1 ≤ i → i < 1 + p.prplInfo.userSplits.length →
        params.lookup (usersplit i) = some value → ∃ s, value = .string s :=
      fun i value hi hi' => h hsplits i value hi (by omega)
    obtain ⟨⟨username, rest⟩, hloop⟩ := usernameLoop_total hstrings
    rw [if_pos hsplits, hloop]
    exact ⟨_, rfl⟩
  · rw [if_neg hsplits]
    exact ⟨_, rfl⟩

/-! ## The account -/

/-- The account before its options are set. -/
def bareAccount (p : HazeProtocol) (username : String) (password : Option String) :
    PurpleAccountRecord :=
  { PurpleAccountRecord.new username p.prplId with password := password }

/-- What a new connection makes of a translated table. -/
theorem newConnection_of_ok {user : String} {result}
    (htranslate : p.translateParameters asv = .ok params)
    (huser : params.tpAsvGetString "account" = some user)
    (h : newConnection purpleAccountsFind p asv = .ok result) :
    ∃ username password left, Taken p params username password left ∧
      result = (createAccount purpleAccountsFind p username password left).mapError some := by
  unfold newConnection at h
  rw [htranslate] at h
  dsimp only at h
  cases hname : getUsername params p.prplInfo true with
  | error fault =>
      rw [hname] at h
      cases h
  | ok named =>
      obtain ⟨name, rest⟩ := named
      obtain ⟨username, hsome, husername, hstrings, haccount, hsplits, hkept⟩ :=
        getUsername_ok huser hname
      dsimp only at hsome
      rw [hname, hsome] at h
      cases h
      have hpassword : rest.lookup "password" = params.lookup "password" :=
        hkept "password" (by decide) fun _ i _ _ => password_ne_usersplit i
      have hget : rest.tpAsvGetString "password" = params.tpAsvGetString "password" :=
        Asv.tpAsvGetString_congr hpassword
      refine ⟨username, _, _, ?_, rfl⟩
      have hleft : ∀ key, (if rest.tpAsvGetString "password" ≠ none then rest.erase "password"
          else rest).lookup key =
            if key = "password" ∧ rest.tpAsvGetString "password" ≠ none then none
            else rest.lookup key := by
        intro key
        split
        · rename_i hset
          rw [lookup_erase_eq]
          exact (if_congr (and_iff_left hset) rfl rfl).symm
        · rename_i hset
          rw [if_neg (fun hboth => hset hboth.2)]
      have hother : ∀ key, key ≠ "password" → (if rest.tpAsvGetString "password" ≠ none then
          rest.erase "password" else rest).lookup key = rest.lookup key := by
        intro key hkey
        rw [hleft, if_neg (fun hboth => hkey hboth.1)]
      refine
        { named := fun user' huser' => ?_
          strings := hstrings
          secret := hget
          noAccount := (hother "account" (by decide)).trans haccount
          noSplits := fun hsome i hi hi' => ?_
          noPassword := ?_
          kept := fun key hkey hkey' hnot => (hother key hkey').trans (hkept key hkey hnot) }
      · rw [huser] at huser'
        cases huser'
        exact husername
      · exact (hother _ (password_ne_usersplit i).symm).trans (hsplits hsome i hi hi')
      · rw [hleft]
        by_cases hset : rest.tpAsvGetString "password" = none
        · rw [if_neg (fun hboth => hboth.2 hset), if_pos hset, hpassword]
        · rw [if_pos ⟨rfl, hset⟩, if_neg hset]

theorem newConnection_total {user : String} (purpleAccountsFind : String → String → Bool)
    (htranslate : p.translateParameters asv = .ok params)
    (huser : params.tpAsvGetString "account" = some user)
    (h : p.HasSplits params → p.SplitStrings params) :
    ∃ result, newConnection purpleAccountsFind p asv = .ok result := by
  obtain ⟨⟨name, rest⟩, hname⟩ := getUsername_total huser h
  obtain ⟨username, hsome, -⟩ := getUsername_ok huser hname
  dsimp only at hsome
  unfold newConnection
  rw [htranslate]
  dsimp only
  rw [hname, hsome]
  exact ⟨_, rfl⟩

theorem createAccount_new (h : purpleAccountsFind username p.prplId = false) :
    createAccount purpleAccountsFind p username password left =
      .ok (setOptions p.prplInfo.protocolOptions (p.bareAccount username password) left) := by
  unfold createAccount
  rw [h, if_neg Bool.false_ne_true]
  rfl

/-- In a new account an option is set to what is left of the table for it. -/
theorem Stored.lookup_new
    (hstored : Stored p.prplInfo.protocolOptions (p.bareAccount username password) left account
      params)
    (hmem : option ∈ p.prplInfo.protocolOptions) : account.settings.lookup option.prefName =
      (left.lookup option.prefName).bind (stored option.pref) := by
  rw [hstored.settings option hmem]
  exact Option.or_none

end HazeProtocol

end Haze
