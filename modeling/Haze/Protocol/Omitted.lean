import Haze.Protocol.Defaults

set_option autoImplicit false

/-! # Parameters that are left out

When a user supplies nothing but the account (and a password), TpBaseProtocol inserts the defaults
of the other parameters. `DefaultsTaken` says that the account then is as the plugin's defaults say.
This fails where a default is lost on the way: a user split has none in its specification, a
`connection_security` that the fixup does not understand becomes `opportunistic_tls`, a port below 0
is read as 0, and an option that is taken for a user split has to be a string
(`defaults_taken_iff`).
-/

namespace Haze

namespace HazeProtocol

variable {p : HazeProtocol} {asv params left supplied : Asv} {option : PurpleAccountOption}
  {spec : TpCMParamSpec} {account : PurpleAccountRecord} {user username : String}
  {password : Option String}

/-- The account is as the plugin's defaults say. -/
structure DefaultsTaken (p : HazeProtocol) (user : String) (account : PurpleAccountRecord) :
    Prop where
  options : ∀ option ∈ p.prplInfo.protocolOptions, ¬ p.IsRequired option →
    account.ReadsDefault option
  username : p.exposesSplits → account.username =
    user ++ splitsText (fun _ split => split.defaultValue.getD "") p.prplInfo.userSplits 1

/-- The defaults of the plugin that survive. -/
structure TakesDefaults (p : HazeProtocol) : Prop where
  splits : p.exposesSplits → ∀ split ∈ p.prplInfo.userSplits, split.defaultValue.getD "" = ""
  security : ∀ option ∈ p.connectionSecurity, option.pref.Understood
  ports : ∀ option ∈ p.prplInfo.protocolOptions, ∀ n, option.pref = .int n →
    gStrHasSuffix (p.optionName option.prefName) "port" = true → 0 ≤ n.toInt
  /-- an option that is taken for a user split is a string -/
  splitNames : ∀ first ∈ p.prplInfo.protocolOptions, first.prefName = usersplit 1 →
    first.pref.HasDefault → ∀ option ∈ p.prplInfo.protocolOptions, ∀ i, 1 ≤ i →
      i ≤ p.prplInfo.userSplits.length → option.prefName = usersplit i →
        option.pref.IsString ∨ option.pref = .other

/-- The tables of a connection for which parameters were left out. -/
structure Omitted (p : HazeProtocol) (user : String) (supplied asv params : Asv) : Prop where
  fromTable : p.FromTable
  distinct : p.Distinct
  only : p.SuppliesOnly user supplied
  filled : p.Filled supplied asv
  translated : Translated p asv params

/-! ## The translated table -/

/-- The value of an option that is left out. -/
theorem Omitted.lookup_option (h : p.Omitted user supplied asv params)
    (hmem : option ∈ p.prplInfo.protocolOptions)
    (hoption : p.translateProtocolOption option = some spec)
    (hrequired : ¬ p.IsRequired option) :
    params.lookup option.prefName = p.insertedDefault option := by
  obtain ⟨hname, -⟩ := name_of_option hoption
  have haccount : spec.name ≠ "account" := by
    rw [hname]
    exact h.distinct.optionName_ne hmem (by simp)
  have hpassword : p.prplInfo.noPassword = false → spec.name ≠ "password" := by
    intro hfalse
    rw [hname]
    exact h.distinct.optionName_ne hmem (by simp [hfalse])
  have hflag := required_false hoption hrequired
  rw [h.translated.lookup_option hmem hoption, h.filled.lookup_of_omitted h.only h.distinct
    (option_mem_getParameters hmem hoption) haccount hpassword hflag]
  exact inserted_of_option hoption hflag

/-- An exposed split that is left out is the empty string. -/
theorem Omitted.lookup_split (h : p.Omitted user supplied asv params)
    (hexposes : p.exposesSplits) {i : Nat} (hi : 1 ≤ i)
    (hi' : i ≤ p.prplInfo.userSplits.length) :
    params.lookup (usersplit i) = some (.string "") := by
  have hmem := usersplitSpec_mem hexposes hi hi'
  have haccount : (p.usersplitSpec i).name ≠ "account" := by
    intro heq
    have hspec := h.distinct.eq_of_name hmem (mem_getParameters.mpr (Or.inl rfl)) heq
    have hsetter : some (usersplit i) = some "account" :=
      congrArg TpCMParamSpec.setterData hspec
    exact account_ne_usersplit i (Option.some.inj hsetter).symm
  have hpassword : p.prplInfo.noPassword = false → (p.usersplitSpec i).name ≠ "password" := by
    intro hfalse heq
    have hspec := h.distinct.eq_of_name hmem
      (mem_getParameters.mpr (Or.inr (Or.inr (Or.inl ⟨hfalse, rfl⟩)))) heq
    have hsetter : some (usersplit i) = some "password" :=
      congrArg TpCMParamSpec.setterData hspec
    exact password_ne_usersplit i (Option.some.inj hsetter).symm
  rw [h.translated.lookup_split h.fromTable hexposes hi hi',
    h.filled.lookup_of_omitted h.only h.distinct hmem haccount hpassword rfl]
  rfl

/-- The defaults of options that are taken for splits. -/
theorem Omitted.split_cases (h : p.Omitted user supplied asv params) {i : Nat} (hi : 1 ≤ i)
    (hi' : i ≤ p.prplInfo.userSplits.length) {value : GValue}
    (hvalue : params.lookup (usersplit i) = some value) :
    (p.exposesSplits ∧ value = .string "") ∨ ∃ option ∈ p.prplInfo.protocolOptions,
      option.prefName = usersplit i ∧ p.insertedDefault option = some value := by
  rcases h.translated.cases h.fromTable (usersplit i) with hnone | heq | ⟨hexposes, -⟩ | ⟨-, heq⟩ |
    ⟨option, hmem, spec, hoption, heq⟩ | ⟨option, hmem, heq⟩
  · rw [hvalue] at hnone
    cases hnone
  · exact absurd heq.symm (account_ne_usersplit i)
  · rw [h.lookup_split hexposes hi hi'] at hvalue
    cases hvalue
    exact Or.inl ⟨hexposes, rfl⟩
  · exact absurd heq.symm (password_ne_usersplit i)
  · have hrequired := not_isRequired_of_usersplit h.fromTable heq.symm
    rw [heq, h.lookup_option hmem hoption hrequired] at hvalue
    exact Or.inr ⟨option, hmem, heq.symm, hvalue⟩
  · have hname := (connectionSecurity_some h.fromTable hmem).2.1
    rw [hname] at heq
    exact absurd heq.symm (connectionSecurity_ne_usersplit i)

/-- An option that is called like a split has its default in the table. -/
theorem Omitted.lookup_usersplit (h : p.Omitted user supplied asv params)
    (hmem : option ∈ p.prplInfo.protocolOptions) {i : Nat} (hname : option.prefName = usersplit i) :
    params.lookup (usersplit i) = p.insertedDefault option := by
  cases hoption : p.translateProtocolOption option with
  | some spec =>
      have hrequired := not_isRequired_of_usersplit h.fromTable hname
      rw [← hname]
      exact h.lookup_option hmem hoption hrequired
  | none =>
      rcases translateProtocolOption_eq_none h.fromTable h.distinct hmem hoption with
        hother | hsecurity
      · have hnone : p.insertedDefault option = none := by
          unfold insertedDefault
          rw [hother]
        rw [hnone]
        rcases h.translated.cases h.fromTable (usersplit i) with
          hnothing | heq | ⟨hexposes, j, hj, hj', heq⟩ | ⟨-, heq⟩ |
          ⟨option', hmem', spec, hoption', heq⟩ | ⟨option', hmem', heq⟩
        · exact hnothing
        · exact absurd heq.symm (account_ne_usersplit i)
        · exact absurd (hname.trans heq) (h.distinct.ne_usersplit h.fromTable hexposes hmem hj hj')
        · exact absurd heq.symm (password_ne_usersplit i)
        · rw [← h.distinct.eq_of_prefName hmem hmem' (hname.trans heq), hoption] at hoption'
          cases hoption'
        · have hsecurity := (connectionSecurity_some h.fromTable hmem').2.1
          rw [hsecurity] at heq
          exact absurd heq.symm (connectionSecurity_ne_usersplit i)
      · have hsecurity' := (connectionSecurity_some h.fromTable hsecurity).2.1
        rw [hsecurity'] at hname
        exact absurd hname (connectionSecurity_ne_usersplit i)

/-! ## The account -/

theorem Omitted.splitStrings (h : p.Omitted user supplied asv params) (htakes : p.TakesDefaults)
    (hsplits : p.HasSplits params) : p.SplitStrings params := by
  intro i value hi hi' hvalue
  obtain ⟨-, hset⟩ := hsplits
  obtain ⟨firstValue, hfirst⟩ := Option.ne_none_iff_exists'.mp hset
  have hpos : 1 ≤ p.prplInfo.userSplits.length := by omega
  rcases h.split_cases (Nat.le_refl 1) hpos hfirst with
    ⟨hexposes, -⟩ | ⟨first, hfirstMem, hfirstName, hinserted⟩
  · rw [h.lookup_split hexposes hi hi'] at hvalue
    cases hvalue
    exact ⟨"", rfl⟩
  · have hdefault : first.pref.HasDefault := by
      refine (hasDefault_iff (p := p)).mpr ?_
      rw [hinserted]
      exact Option.some_ne_none _
    rcases h.split_cases hi hi' hvalue with ⟨-, rfl⟩ | ⟨option, hmem, hname, hinserted'⟩
    · exact ⟨"", rfl⟩
    · have hstring := htakes.splitNames first hfirstMem hfirstName hdefault option hmem i hi hi'
        hname
      exact inserted_isString hstring hinserted'

theorem Omitted.get_account (h : p.Omitted user supplied asv params) :
    params.tpAsvGetString "account" = some user :=
  h.translated.get_account h.fromTable (h.filled.lookup_account h.only)

/-- The user name has the empty string for each exposed split. -/
theorem Taken.username_omitted (htaken : Taken p params username password left)
    (h : p.Omitted user supplied asv params) (hexposes : p.exposesSplits) :
    username = user ++ splitsText (fun _ _ => "") p.prplInfo.userSplits 1 := by
  have hsplits : p.HasSplits params := by
    refine ⟨hexposes.1, ?_⟩
    rw [h.lookup_split hexposes (Nat.le_refl 1) (length_pos_of_exposes hexposes)]
    exact Option.some_ne_none _
  rw [htaken.named user h.get_account, if_pos hsplits]
  refine congrArg (user ++ ·) (splitsText_congr fun i split hi hi' => ?_)
  rw [splitValue, Asv.tpAsvGetString_of_string (h.lookup_split hexposes hi (by omega))]
  rfl

theorem Taken.security_iff (htaken : Taken p params username password left)
    (hsetting : account.settings.lookup option.prefName =
      (left.lookup option.prefName).bind (stored option.pref))
    (h : p.Omitted user supplied asv params) (hmem : option ∈ p.connectionSecurity) :
    account.ReadsDefault option ↔ option.pref.Understood := by
  have hsecurity := connectionSecurity_ne_none hmem
  have hname := (connectionSecurity_some h.fromTable hmem).2.1
  refine readsDefault_security_iff ?_
  rw [hsetting, hname, htaken.lookup_security, h.translated.security hsecurity,
    securityOf_filled h.filled h.only h.distinct hmem]
  rfl

/-- An option whose default survives. -/
theorem Taken.readsDefault (htaken : Taken p params username password left)
    (hsetting : account.settings.lookup option.prefName =
      (left.lookup option.prefName).bind (stored option.pref))
    (h : p.Omitted user supplied asv params) (htakes : p.TakesDefaults)
    (hmem : option ∈ p.prplInfo.protocolOptions) (hrequired : ¬ p.IsRequired option) :
    account.ReadsDefault option := by
  cases hoption : p.translateProtocolOption option with
  | some spec =>
      rcases htaken.lookup_cases option.prefName with hnone | hsame
      · rw [hnone] at hsetting
        exact readsDefault_of_unset hsetting
      · rw [hsame, h.lookup_option hmem hoption hrequired] at hsetting
        exact (readsDefault_inserted_iff hsetting).mpr (htakes.ports option hmem)
  | none =>
      rcases translateProtocolOption_eq_none h.fromTable h.distinct hmem hoption with
        hother | hsecurity
      · unfold PurpleAccountRecord.ReadsDefault
        rw [hother]
        trivial
      · have hunderstood := htakes.security option hsecurity
        exact (htaken.security_iff hsetting h hsecurity).mpr hunderstood

/-- A port below 0 does not survive. -/
theorem Taken.port_nonneg (htaken : Taken p params username password left)
    (hsetting : account.settings.lookup option.prefName =
      (left.lookup option.prefName).bind (stored option.pref))
    (h : p.Omitted user supplied asv params)
    (hmem : option ∈ p.prplInfo.protocolOptions) {n : Int32} (hpref : option.pref = .int n)
    (hport : gStrHasSuffix (p.optionName option.prefName) "port" = true)
    (hreads : ¬ p.IsRequired option → account.ReadsDefault option) : 0 ≤ n.toInt := by
  have hrequired : ¬ p.IsRequired option := by
    intro hrequired
    rcases name_of_isRequired hrequired with hname | hname
    · rw [hname] at hport
      exact absurd hport (by decide)
    · rw [hname] at hport
      exact absurd hport (by decide)
  obtain ⟨spec, hoption⟩ : ∃ spec, p.translateProtocolOption option = some spec := by
    refine Option.ne_none_iff_exists'.mp fun hnone => ?_
    rcases translateProtocolOption_eq_none h.fromTable h.distinct hmem hnone with
      hother | hsecurity
    · rw [hpref] at hother
      cases hother
    · obtain ⟨-, hname, hlookup⟩ := connectionSecurity_some h.fromTable hsecurity
      unfold optionName at hport
      rw [hname, hlookup] at hport
      exact absurd hport (by decide)
  have hinserted : p.insertedDefault option = some (.uint n.toUInt32.toNat) := by
    unfold insertedDefault
    rw [hpref]
    exact if_pos hport
  have hvalue : params.lookup option.prefName = some (.uint n.toUInt32.toNat) := by
    rw [h.lookup_option hmem hoption hrequired, hinserted]
  have hleft : left.lookup option.prefName = some (.uint n.toUInt32.toNat) :=
    htaken.lookup_of_not_string hvalue (h.distinct.ne_account h.fromTable hmem)
      fun s hs => by cases hs
  rw [hleft, ← hinserted] at hsetting
  exact (readsDefault_inserted_iff hsetting).mp (hreads hrequired) n hpref hport

/-- The splits that are made of options are strings. -/
theorem Taken.splitNames (htaken : Taken p params username password left)
    (h : p.Omitted user supplied asv params)
    {first : PurpleAccountOption} (hfirst : first ∈ p.prplInfo.protocolOptions)
    (hfirstName : first.prefName = usersplit 1) (hdefault : first.pref.HasDefault)
    (hmem : option ∈ p.prplInfo.protocolOptions) {i : Nat} (hi : 1 ≤ i)
    (hi' : i ≤ p.prplInfo.userSplits.length) (hname : option.prefName = usersplit i) :
    option.pref.IsString ∨ option.pref = .other := by
  have hset : params.lookup (usersplit 1) ≠ none := by
    rw [h.lookup_usersplit hfirst hfirstName]
    exact hasDefault_iff.mp hdefault
  have hsplits : p.HasSplits params := by
    refine ⟨fun hnil => ?_, hset⟩
    rw [hnil, List.length_nil] at hi'
    omega
  by_contra hnumber
  obtain ⟨value, hvalue, hnot⟩ := inserted_not_isString (p := p) hnumber
  have hlookup := h.lookup_usersplit hmem hname
  obtain ⟨s, hs⟩ := htaken.strings hsplits i value hi hi' (hlookup.trans hvalue)
  exact hnot s hs

theorem not_isRequired_of_security (hp : p.FromTable) (hmem : option ∈ p.connectionSecurity) :
    ¬ p.IsRequired option := by
  rintro ⟨spec, hspec, -⟩
  have hname := (connectionSecurity_some hp hmem).2.1
  rw [translateProtocolOption_of_ignored hp (connectionSecurity_ne_none hmem) hname] at hspec
  cases hspec

/-- An account with the defaults of the plugin: they have all survived. -/
theorem Taken.takesDefaults {final : Asv} (htaken : Taken p params username password left)
    (hstored : Stored p.prplInfo.protocolOptions (p.bareAccount username password) left account
      final)
    (h : p.Omitted user supplied asv params) (hdefaults : p.DefaultsTaken user account) :
    p.TakesDefaults := by
  refine
    { splits := fun hexposes => ?_
      security := fun option hmem => ?_
      ports := fun option hmem n hpref hport => ?_
      splitNames := fun first hfirst hfirstName hdefault option hmem i hi hi' hname => ?_ }
  · have husername := hdefaults.username hexposes
    rw [hstored.username] at husername
    have hempty := htaken.username_omitted h hexposes
    have htext := (String.append_right_inj user).mp (hempty.symm.trans husername)
    exact (splitsText_empty_iff _ 1).mp htext
  · have hmem' := (connectionSecurity_some h.fromTable hmem).1
    have hrequired := not_isRequired_of_security h.fromTable hmem
    have hreads := hdefaults.options option hmem' hrequired
    exact (htaken.security_iff (hstored.lookup_new hmem') h hmem).mp hreads
  · exact htaken.port_nonneg (hstored.lookup_new hmem) h hmem hpref hport
      (hdefaults.options option hmem)
  · exact htaken.splitNames h hfirst hfirstName hdefault hmem hi hi' hname

theorem Taken.defaultsTaken {final : Asv} (htaken : Taken p params username password left)
    (hstored : Stored p.prplInfo.protocolOptions (p.bareAccount username password) left account
      final)
    (h : p.Omitted user supplied asv params) (htakes : p.TakesDefaults) :
    p.DefaultsTaken user account := by
  refine ⟨fun option hmem hrequired => ?_, fun hexposes => ?_⟩
  · exact htaken.readsDefault (hstored.lookup_new hmem) h htakes hmem hrequired
  · have hempty := htaken.username_omitted h hexposes
    have htext := (splitsText_empty_iff p.prplInfo.userSplits 1).mpr (htakes.splits hexposes)
    rw [hstored.username, ← htext]
    exact hempty

theorem createAccount_cases (purpleAccountsFind : String → String → Bool) (p : HazeProtocol)
    (username : String) (password : Option String) (left : Asv) :
    (∃ error, createAccount purpleAccountsFind p username password left = .error error) ∨
      createAccount purpleAccountsFind p username password left =
        .ok (setOptions p.prplInfo.protocolOptions (p.bareAccount username password) left) := by
  cases hfind : purpleAccountsFind username p.prplId with
  | true =>
      unfold createAccount
      rw [if_pos hfind]
      exact Or.inl ⟨_, rfl⟩
  | false => exact Or.inr (createAccount_new hfind)

/-- **Leaving a parameter out is the same as taking the default of the plugin, for the defaults that
survive** (`TakesDefaults`), and for no others, unless there is an account of that name already. -/
theorem defaults_taken_iff (purpleAccountsFind : String → String → Bool) (prplId : String)
    (prplInfo : PurpleProtocolParameters) (user : String) (supplied asv : Asv)
    (hdistinct : (ofPlugin prplId prplInfo).Distinct)
    (honly : (ofPlugin prplId prplInfo).SuppliesOnly user supplied)
    (hfilled : (ofPlugin prplId prplInfo).Filled supplied asv)
    (hnew : ∀ error, newConnection purpleAccountsFind (ofPlugin prplId prplInfo) asv ≠
      .ok (.error error)) :
    (∃ account left, newConnection purpleAccountsFind (ofPlugin prplId prplInfo) asv =
        .ok (.ok (account, left)) ∧ (ofPlugin prplId prplInfo).DefaultsTaken user account) ↔
      (ofPlugin prplId prplInfo).TakesDefaults := by
  have hp := fromTable_ofPlugin prplId prplInfo
  generalize ofPlugin prplId prplInfo = p at *
  obtain ⟨params, htranslate, htranslated⟩ := translateParameters_ok hp (hfilled.listed honly)
  have h : p.Omitted user supplied asv params := ⟨hp, hdistinct, honly, hfilled, htranslated⟩
  constructor
  · rintro ⟨account, final, hresult, hdefaults⟩
    obtain ⟨username, password, left, htaken, hcreate⟩ :=
      newConnection_of_ok htranslate h.get_account hresult
    rcases createAccount_cases purpleAccountsFind p username password left with
      ⟨error, herror⟩ | hok
    · rw [herror] at hcreate
      cases hcreate
    · rw [hok] at hcreate
      have haccount := congrArg Prod.fst (Except.ok.inj hcreate)
      dsimp only at haccount
      have hstored : Stored p.prplInfo.protocolOptions (p.bareAccount username password) left
          account _ := haccount ▸ stored_setOptions hdistinct.prefNames
      exact htaken.takesDefaults hstored h hdefaults
  · intro htakes
    obtain ⟨result, hresult⟩ := newConnection_total purpleAccountsFind htranslate h.get_account
      (h.splitStrings htakes)
    obtain ⟨username, password, left, htaken, rfl⟩ :=
      newConnection_of_ok htranslate h.get_account hresult
    rcases createAccount_cases purpleAccountsFind p username password left with
      ⟨error, herror⟩ | hok
    · rw [herror] at hresult
      exact absurd hresult (hnew (some error))
    · rw [hok] at hresult
      exact ⟨_, _, hresult, htaken.defaultsTaken (stored_setOptions hdistinct.prefNames) h htakes⟩

/-- A plugin like the one for Jabber. -/
def jabberParameters (security : List String) : PurpleProtocolParameters where
  noPassword := false
  passwordOptional := false
  userSplits := [⟨'@', some ""⟩, ⟨'/', some ""⟩]
  protocolOptions := [⟨"connection_security", .stringList security⟩,
    ⟨"auth_plain_in_clear", .boolean false⟩, ⟨"port", .int 5222⟩, ⟨"connect_server", .string none⟩]

theorem defaults_taken_jabber : ∃ account left,
    newConnection (fun _ _ => false) (ofPlugin "prpl-jabber" (jabberParameters ["require_tls"]))
        (insertDefaults (ofPlugin "prpl-jabber" (jabberParameters ["require_tls"])).getParameters
          (strings [("account", "alice@example.org")])) = .ok (.ok (account, left)) ∧
      (ofPlugin "prpl-jabber" (jabberParameters ["require_tls"])).DefaultsTaken
        "alice@example.org" account := by
  refine (defaults_taken_iff (fun _ _ => false) "prpl-jabber" (jabberParameters ["require_tls"])
    "alice@example.org" (strings [("account", "alice@example.org")]) _ (by decide)
    ⟨by decide, by decide⟩ (filled_insertDefaults _ _) (fun error herror => by cases herror)).mpr ?_
  refine ⟨by decide, fun option hmem => ?_, fun option hmem n hpref _ => ?_,
    fun first hfirst hname => ?_⟩
  · cases Option.some.inj hmem
    exact Or.inr (Or.inl rfl)
  · have hmem' : option ∈ (jabberParameters ["require_tls"]).protocolOptions := hmem
    simp only [jabberParameters, List.mem_cons, List.not_mem_nil, or_false] at hmem'
    rcases hmem' with rfl | rfl | rfl | rfl
    · cases hpref
    · cases hpref
    · cases hpref
      decide
    · cases hpref
  · have hnot : ∀ option ∈ (jabberParameters ["require_tls"]).protocolOptions,
        option.prefName ≠ usersplit 1 := by decide
    exact absurd hname (hnot first hfirst)

/-- The user supplies the account only, and the new account is not as the plugin's defaults say. -/
def LosesDefaults (prplId : String) (prplInfo : PurpleProtocolParameters) (user : String) : Prop :=
  (ofPlugin prplId prplInfo).Distinct ∧
    (ofPlugin prplId prplInfo).SuppliesOnly user (strings [("account", user)]) ∧
    ∃ account left, newConnection (fun _ _ => false) (ofPlugin prplId prplInfo)
        (insertDefaults (ofPlugin prplId prplInfo).getParameters (strings [("account", user)])) =
          .ok (.ok (account, left)) ∧
      ¬ (ofPlugin prplId prplInfo).DefaultsTaken user account

/-- The user name for IRC has no server, and the `connection_security` of Jabber is not the default
of the plugin. -/
theorem defaults_lost :
    LosesDefaults "prpl-irc" ircParameters "alice" ∧
      LosesDefaults "prpl-jabber" (jabberParameters ["tls_if_available", "require_tls"])
        "alice@example.org" := by
  refine ⟨⟨by decide, ⟨by decide, by decide⟩, _, _, rfl, fun hdefaults => ?_⟩,
    ⟨by decide, ⟨by decide, by decide⟩, _, _, rfl, fun hdefaults => ?_⟩⟩
  · have husername := hdefaults.username (by decide)
    revert husername
    decide
  · have hrequired : ¬ (ofPlugin "prpl-jabber"
        (jabberParameters ["tls_if_available", "require_tls"])).IsRequired
          ⟨"connection_security", .stringList ["tls_if_available", "require_tls"]⟩ := by
      rintro ⟨spec, hspec, -⟩
      cases hspec
    have hsecurity : PurpleAccountRecord.getString _ "connection_security"
        (some "tls_if_available") = some "tls_if_available" :=
      hdefaults.options ⟨"connection_security", .stringList ["tls_if_available", "require_tls"]⟩
        (by decide) hrequired
    revert hsecurity
    decide

end HazeProtocol

end Haze
