import Haze.Protocol.Parameters

set_option autoImplicit false

/-! # The defaults of parameters

What telepathy-glib inserts for a parameter that is left out (`Filled`, `insertedDefault`), and what
is read from an account whose options were set to that.
-/

namespace Haze

/-- `GPOINTER_TO_INT` -/
def Gconstpointer.toInt32 : Gconstpointer → Int32
  | .ofInt n => n
  | _ => 0

/-- The value that telepathy-glib makes of a default: for a string without one, the empty string. -/
def TpCMParamSpec.defaultGValue (spec : TpCMParamSpec) : GValue :=
  match spec.gtype with
  | .string =>
      match spec.defaultValue with
      | .ofString s => .string s
      | _ => .string ""
  | .boolean => .boolean (spec.defaultValue.toInt32 ≠ 0)
  | .int => .int spec.defaultValue.toInt32.toInt
  -- `GPOINTER_TO_UINT`
  | .uint => .uint spec.defaultValue.toInt32.toUInt32.toNat

/-- The option read with the default of the plugin as fallback is the default of the plugin. -/
def PurpleAccountRecord.ReadsDefault (account : PurpleAccountRecord)
    (option : PurpleAccountOption) : Prop :=
  match option.pref with
  | .boolean default => account.getBool option.prefName default = default
  | .int default => account.getInt option.prefName default.toInt = default.toInt
  | .string default => account.getString option.prefName default = default
  | .stringList _ => account.getString option.prefName option.getDefaultListValue =
      option.getDefaultListValue
  | .other => True

/-- A default of `connection_security` that comes back from the two parameters that it is split
into. -/
def PurplePref.Understood : PurplePref → Prop
  | .stringList values => values.head? = some "old_ssl" ∨ values.head? = some "require_tls" ∨
      values.head? = some "opportunistic_tls"
  | .string default => default = some "opportunistic_tls"
  | .boolean default => default = false
  | .int default => default.toInt = 0
  | .other => True

/-- The option has a default that is not empty. -/
def PurplePref.HasDefault : PurplePref → Prop
  | .boolean _ => True
  | .int _ => True
  | .string default => default.getD "" ≠ ""
  | .stringList values => values.head?.getD "" ≠ ""
  | .other => False

namespace HazeProtocol

variable {p : HazeProtocol} {asv params left supplied : Asv} {option : PurpleAccountOption}
  {spec : TpCMParamSpec} {account : PurpleAccountRecord} {key user username : String}
  {password : Option String}

/-- prpl-bonjour requires the option. -/
def IsRequired (p : HazeProtocol) (option : PurpleAccountOption) : Prop :=
  ∃ spec ∈ p.translateProtocolOption option, spec.required = true

/-- The user supplies the account, maybe a password, and what is required. -/
structure SuppliesOnly (p : HazeProtocol) (user : String) (supplied : Asv) : Prop where
  account : supplied.lookup "account" = some (.string user)
  only : ∀ key ∈ supplied.keys, key = "account" ∨
    (p.prplInfo.noPassword = false ∧ key = "password") ∨
    ∃ spec ∈ p.getParameters, spec.name = key ∧ spec.required = true

/-- TpBaseProtocol inserts the defaults of the parameters that are left out. -/
def Filled (p : HazeProtocol) (supplied asv : Asv) : Prop :=
  ∀ key, asv.lookup key = (supplied.lookup key).or
    ((p.getParameters.find? (fun spec => spec.name = key ∧ spec.hasDefault = true)).map
      TpCMParamSpec.defaultGValue)

/-! ## Defaults of options -/

/-- What is inserted for an option that is left out. -/
def insertedDefault (p : HazeProtocol) (option : PurpleAccountOption) : Option GValue :=
  match option.pref with
  | .boolean default => some (.boolean default)
  | .int default =>
      if gStrHasSuffix (p.optionName option.prefName) "port" then
        some (.uint default.toUInt32.toNat)
      else some (.int default.toInt)
  | .string default => if default.getD "" = "" then none else some (.string (default.getD ""))
  | .stringList values =>
      if values.head?.getD "" = "" then none else some (.string (values.head?.getD ""))
  | .other => none

theorem inserted_of_stringDefault {default : Option String}
    (h : option.pref.stringDefault = some default) : p.insertedDefault option =
      if default.getD "" = "" then none else some (.string (default.getD "")) := by
  unfold insertedDefault
  cases hpref : option.pref with
  | string value =>
      rw [hpref] at h
      cases h
      rfl
  | stringList values =>
      rw [hpref] at h
      cases h
      rfl
  | boolean value =>
      rw [hpref] at h
      cases h
  | int value =>
      rw [hpref] at h
      cases h
  | other =>
      rw [hpref] at h
      cases h

theorem inserted_of_option (h : p.translateProtocolOption option = some spec)
    (hrequired : spec.required = false) :
    (if spec.hasDefault = true then some spec.defaultGValue else none) =
      p.insertedDefault option := by
  obtain ⟨bare, hbare, -, -, hgtype, hhas, hdefault, hrequired', -⟩ :=
    translateProtocolOption_some h
  have hvalue : spec.defaultGValue = bare.defaultGValue := by
    unfold TpCMParamSpec.defaultGValue
    rw [hgtype, hdefault]
  rw [hrequired'] at hrequired
  rw [hhas, hvalue]
  rcases translatePref_cases hbare with
    ⟨value, hpref, rfl⟩ | ⟨value, hpref, rfl⟩ | ⟨default, plain, hpref, rfl, hspec⟩
  · unfold insertedDefault
    rw [hpref]
    cases value with
    | false => rfl
    | true => rfl
  · unfold insertedDefault
    rw [hpref]
    dsimp only
    split
    · rfl
    · rfl
  · rw [inserted_of_stringDefault hpref]
    rcases hspec with ⟨-, rfl⟩ | ⟨hempty, rfl⟩ | ⟨hempty, rfl⟩
    · cases hrequired
    · rw [if_pos hempty]
      rfl
    · rw [if_neg hempty]
      rfl

/-! ## Filters -/

/-- The default of a list is one of its values. -/
theorem filter_of_stringDefault {pref : PurplePref} {default : Option String}
    (h : pref.stringDefault = some default) (hempty : default.getD "" ≠ "") :
    pref.filter = none ∨
      ∃ values, pref.filter = some (.stringList values) ∧ default.getD "" ∈ values := by
  cases pref with
  | string value => exact Or.inl rfl
  | stringList values =>
      cases h
      cases values with
      | nil => exact absurd rfl hempty
      | cons value values =>
          refine Or.inr ⟨_, rfl, List.mem_reverse.mpr ?_⟩
          exact List.mem_cons_self
  | boolean value => cases h
  | int value => cases h
  | other => cases h

/-- A string that is a default passes the filter of its parameter. A server has a filter of its own,
which nothing checks the plugin's default against. -/
theorem filterError_default (hspec : spec ∈ p.getParameters) (hserver : spec.name ≠ "server")
    {value : String} (hdefault : spec.defaultValue = .ofString value) :
    spec.filterError value = none := by
  rcases mem_getParameters.mp hspec with
    rfl | ⟨-, i, -, -, rfl⟩ | ⟨-, rfl⟩ | ⟨option, -, hoption⟩ | hfixup
  · cases hdefault
  · cases hdefault
  · cases hdefault
  · obtain ⟨bare, hbare, -, -, -, -, hsame, -, hfilter⟩ := translateProtocolOption_some hoption
    rw [hsame] at hdefault
    have hpasses : bare.filter = none ∨
        ∃ values, bare.filter = some (.stringList values) ∧ value ∈ values := by
      rcases translatePref_cases hbare with
        ⟨n, hpref, rfl⟩ | ⟨n, hpref, rfl⟩ | ⟨default, plain, hpref, rfl, hcases⟩
      · cases hdefault
      · split at hdefault
        · cases hdefault
        · cases hdefault
      · rcases hcases with ⟨-, rfl⟩ | ⟨-, rfl⟩ | ⟨hempty, rfl⟩
        · cases hdefault
        · cases hdefault
        · cases hdefault
          exact filter_of_stringDefault hpref hempty
    unfold TpCMParamSpec.filterError
    rw [hfilter hserver]
    rcases hpasses with hnone | ⟨values, hsome, hmem⟩
    · rw [hnone]
    · rw [hsome]
      exact if_pos hmem
  · obtain ⟨name, -, rfl | ⟨b, rfl⟩⟩ := mem_jabberFixup hfixup
    · cases hdefault
    · cases hdefault

/-- The error for a value that does not pass names the parameter. -/
theorem filterError_names {str : String} {error : GError} (h : spec.filterError str = some error) :
    error.code = .invalidArgument ∧
      ∃ before after, error.message = before ++ "'" ++ spec.name ++ "'" ++ after := by
  unfold TpCMParamSpec.filterError at h
  split at h
  · cases h
  · unfold TpCMParamSpec.filterNoBlanks at h
    split at h
    · cases h
      exact ⟨rfl, "Account parameter ", " must not be empty", by simp [String.append_assoc]⟩
    · split at h
      · cases h
        exact ⟨rfl, "Account parameter ", " may not contain spaces", by simp [String.append_assoc]⟩
      · cases h
  · unfold TpCMParamSpec.filterStringList at h
    split at h
    · cases h
    · cases h
      exact ⟨rfl, "'" ++ str ++ "' is not a valid value for parameter ", "",
        by simp [String.append_assoc]⟩

/-! ## Integers -/

/-- A number comes back from a port if it is not negative. -/
theorem port_iff (n : Int32) :
    (if n.toUInt32.toNat < 0x80000000 then (n.toUInt32.toNat : Int) else 0) = n.toInt ↔
      0 ≤ n.toInt := by
  have hcond : n.toInt = if 2 * n.toUInt32.toNat < 2 ^ 32 then (n.toUInt32.toNat : Int)
      else (n.toUInt32.toNat : Int) - (2 ^ 32 : Nat) := BitVec.toInt_eq_toNat_cond n.toBitVec
  have hlt : n.toUInt32.toNat < 2 ^ 32 := n.toUInt32.toNat_lt
  rw [hcond]
  split
  · rename_i hsmall
    rw [if_pos (by omega)]
    omega
  · rename_i hlarge
    rw [if_neg (by omega)]
    omega

/-! ## The table of defaults -/

theorem Distinct.find_default (hdistinct : p.Distinct) (hspec : spec ∈ p.getParameters) :
    p.getParameters.find? (fun other => other.name = spec.name ∧ other.hasDefault = true) =
      if spec.hasDefault = true then some spec else none := by
  have heq : ∀ other, p.getParameters.find? (fun other => other.name = spec.name ∧
      other.hasDefault = true) = some other → other = spec ∧ other.hasDefault = true := by
    intro other hother
    have hmem := List.mem_of_find?_eq_some hother
    have hfound := List.find?_some hother
    have hboth := of_decide_eq_true hfound
    exact ⟨hdistinct.eq_of_name hmem hspec hboth.1, hboth.2⟩
  cases hfind : p.getParameters.find? (fun other => other.name = spec.name ∧
      other.hasDefault = true) with
  | none =>
      rw [List.find?_eq_none] at hfind
      rw [if_neg]
      intro hdefault
      exact hfind spec hspec (decide_eq_true ⟨rfl, hdefault⟩)
  | some other =>
      obtain ⟨rfl, hdefault⟩ := heq other hfind
      rw [if_pos hdefault]

/-- A parameter that the user does not supply. -/
theorem Filled.lookup_of_omitted (hfilled : p.Filled supplied asv)
    (honly : p.SuppliesOnly user supplied) (hdistinct : p.Distinct)
    (hspec : spec ∈ p.getParameters) (haccount : spec.name ≠ "account")
    (hpassword : p.prplInfo.noPassword = false → spec.name ≠ "password")
    (hrequired : spec.required = false) :
    asv.lookup spec.name = if spec.hasDefault = true then some spec.defaultGValue else none := by
  have hnone : supplied.lookup spec.name = none := by
    refine AList.lookup_eq_none.mpr fun hin => ?_
    rcases honly.only spec.name (AList.mem_keys.mp hin) with
      heq | ⟨hfalse, heq⟩ | ⟨other, hmem, heq, htrue⟩
    · exact haccount heq
    · exact hpassword hfalse heq
    · rw [hdistinct.eq_of_name hmem hspec heq, hrequired] at htrue
      cases htrue
  rw [hfilled, hnone, Option.none_or, hdistinct.find_default hspec]
  split
  · rfl
  · rfl

/-- The defaults of the specifications are inserted where the user has supplied nothing. -/
def insertDefaults : List TpCMParamSpec → Asv → Asv
  | [], supplied => supplied
  | spec :: specs, supplied =>
      let asv := insertDefaults specs supplied
      if spec.hasDefault = true ∧ supplied.lookup spec.name = none then
        asv.insert spec.name spec.defaultGValue
      else asv

theorem lookup_insertDefaults (specs : List TpCMParamSpec) (supplied : Asv) (key : String) :
    (insertDefaults specs supplied).lookup key = (supplied.lookup key).or
      ((specs.find? (fun spec => spec.name = key ∧ spec.hasDefault = true)).map
        TpCMParamSpec.defaultGValue) := by
  induction specs with
  | nil => exact Option.or_none.symm
  | cons spec specs ih =>
      have hcons : (spec :: specs).find? (fun spec => spec.name = key ∧ spec.hasDefault = true) =
          if spec.name = key ∧ spec.hasDefault = true then some spec
          else specs.find? (fun spec => spec.name = key ∧ spec.hasDefault = true) := by
        rw [List.find?_cons]
        by_cases hfound : spec.name = key ∧ spec.hasDefault = true
        · rw [decide_eq_true hfound, if_pos hfound]
        · rw [decide_eq_false hfound, if_neg hfound]
      unfold insertDefaults
      dsimp only
      rw [hcons]
      by_cases hset : spec.hasDefault = true ∧ supplied.lookup spec.name = none
      · rw [if_pos hset, lookup_insert_eq]
        by_cases hkey : key = spec.name
        · rw [if_pos hkey, if_pos ⟨hkey.symm, hset.1⟩, hkey, hset.2]
          rfl
        · rw [if_neg hkey, ih, if_neg fun hfound => hkey hfound.1.symm]
      · rw [if_neg hset, ih]
        split
        · rename_i hfound
          have hsupplied : supplied.lookup key ≠ none :=
            fun hnone => hset ⟨hfound.2, hfound.1 ▸ hnone⟩
          obtain ⟨value, hvalue⟩ := Option.ne_none_iff_exists'.mp hsupplied
          rw [hvalue, Option.some_or, Option.some_or]
        · rfl

theorem filled_insertDefaults (p : HazeProtocol) (supplied : Asv) :
    p.Filled supplied (insertDefaults p.getParameters supplied) :=
  lookup_insertDefaults p.getParameters supplied

theorem Filled.listed (hfilled : p.Filled supplied asv) (honly : p.SuppliesOnly user supplied) :
    ∀ key ∈ asv.keys, key ∈ p.getParameters.map TpCMParamSpec.name := by
  intro key hkey
  have hsome : asv.lookup key ≠ none :=
    fun hnone => AList.lookup_eq_none.mp hnone (AList.mem_keys.mpr hkey)
  rw [hfilled] at hsome
  cases hsupplied : supplied.lookup key with
  | some value =>
      have hin : key ∈ supplied.keys := by
        by_contra hnot
        rw [AList.lookup_eq_none.mpr (fun hmem => hnot (AList.mem_keys.mp hmem))] at hsupplied
        cases hsupplied
      rcases honly.only key hin with rfl | ⟨hpassword, rfl⟩ | ⟨spec, hspec, rfl, -⟩
      · have hmem : accountSpec ∈ p.getParameters := mem_getParameters.mpr (Or.inl rfl)
        exact List.mem_map.mpr ⟨accountSpec, hmem, rfl⟩
      · have hmem : passwordSpec ∈ p.getParameters :=
          mem_getParameters.mpr (Or.inr (Or.inr (Or.inl ⟨hpassword, rfl⟩)))
        exact List.mem_map.mpr ⟨passwordSpec, hmem, rfl⟩
      · exact List.mem_map.mpr ⟨spec, hspec, rfl⟩
  | none =>
      rw [hsupplied, Option.none_or] at hsome
      cases hfind : p.getParameters.find? (fun spec => spec.name = key ∧
          spec.hasDefault = true) with
      | none =>
          rw [hfind] at hsome
          exact absurd rfl hsome
      | some spec =>
          have hfound := List.find?_some hfind
          have hboth := of_decide_eq_true hfound
          exact List.mem_map.mpr ⟨spec, List.mem_of_find?_eq_some hfind, hboth.1⟩

theorem Filled.lookup_account (hfilled : p.Filled supplied asv)
    (honly : p.SuppliesOnly user supplied) :
    asv.lookup "account" = some (.string user) := by
  rw [hfilled, honly.account]
  rfl

theorem required_false (h : p.translateProtocolOption option = some spec)
    (hrequired : ¬ p.IsRequired option) : spec.required = false := by
  cases hflag : spec.required with
  | false => rfl
  | true => exact absurd ⟨spec, h, hflag⟩ hrequired

/-! ## `connection_security` -/

/-- What the table ignores is what the fixup looks for. -/
theorem fixup_of_ignored : ∀ info ∈ knownProtocolInfo, ∀ m ∈ info.parameterMap,
    m.telepathyName = "IGNORE" →
      m.purpleName = "connection_security" ∧ info.fixup = some .jabber := by
  decide

theorem isSome_translatePref {name : String} (h : option.pref ≠ .other) :
    (p.translatePref option name).isSome = true := by
  unfold translatePref
  dsimp only
  split
  · rfl
  · rfl
  · split
    · rfl
    · split
      · rfl
      · rfl
  · split
    · rfl
    · rfl
  · rename_i hother
    exact absurd hother h

theorem translateProtocolOption_eq_none (hp : p.FromTable) (hdistinct : p.Distinct)
    (hmem : option ∈ p.prplInfo.protocolOptions)
    (h : p.translateProtocolOption option = none) :
    option.pref = .other ∨ option ∈ p.connectionSecurity := by
  by_cases hother : option.pref = .other
  · exact Or.inl hother
  right
  unfold translateProtocolOption at h
  split at h
  · rename_i hignored
    obtain ⟨m, hm, hname⟩ := Option.map_eq_some_iff.mp hignored
    obtain ⟨info, hinfo, hmapping, hpurple⟩ := lookupParam_eq_some hm
    obtain ⟨hsecurity, hfixup⟩ := fixup_of_ignored info (hp info hinfo) m hmapping hname
    have hprefName : option.prefName = "connection_security" := hpurple.symm.trans hsecurity
    have hfind : p.connectionSecurity = p.prplInfo.protocolOptions.find?
        (fun option => option.prefName = "connection_security") := by
      unfold connectionSecurity
      rw [hinfo]
      exact if_pos hfixup
    cases hfound : p.prplInfo.protocolOptions.find?
        (fun option => option.prefName = "connection_security") with
    | none =>
        rw [List.find?_eq_none] at hfound
        exact absurd (decide_eq_true hprefName) (hfound option hmem)
    | some found =>
        have hsome := List.find?_some hfound
        have hname' := of_decide_eq_true hsome
        rw [hfind, hfound, hdistinct.eq_of_prefName hmem (List.mem_of_find?_eq_some hfound)
          (hprefName.trans hname'.symm)]
        exact Option.mem_some_self found
  · split at h
    · rename_i hnone
      have hsome : (p.translatePref option (p.optionName option.prefName)).isSome = true :=
        isSome_translatePref hother
      rw [hnone] at hsome
      cases hsome
    · cases h

/-- The default that the fixup leads to: `opportunistic_tls` for all that it does not
understand. -/
theorem securityOf_filled (hfilled : p.Filled supplied asv)
    (honly : p.SuppliesOnly user supplied) (hdistinct : p.Distinct)
    (hmem : option ∈ p.connectionSecurity) : securityOf asv =
      if option.getDefaultListValue = some "old_ssl" then "old_ssl"
      else if option.getDefaultListValue = some "require_tls" then "require_tls"
      else "opportunistic_tls" := by
  have hsecurity : p.connectionSecurity = some option := hmem
  -- the two parameters, and what they are when they are left out
  have hpair : ∀ oldSsl requireEncryption : TpCMParamSpec,
      p.jabberFixup = [oldSsl, requireEncryption] → oldSsl.name = "old-ssl" →
      requireEncryption.name = "require-encryption" → oldSsl.required = false →
      requireEncryption.required = false →
      asv.lookup "old-ssl" =
          (if oldSsl.hasDefault = true then some oldSsl.defaultGValue else none) ∧
        asv.lookup "require-encryption" = (if requireEncryption.hasDefault = true then
          some requireEncryption.defaultGValue else none) := by
    intro oldSsl requireEncryption hfixup hname hname' hrequired hrequired'
    have hspec : ∀ spec ∈ [oldSsl, requireEncryption], spec ∈ p.getParameters := by
      intro spec hspec
      exact mem_getParameters.mpr (Or.inr (Or.inr (Or.inr (Or.inr (hfixup ▸ hspec)))))
    have hold := hfilled.lookup_of_omitted honly hdistinct (hspec oldSsl (by simp))
      (by rw [hname]; decide) (fun _ => by rw [hname]; decide) hrequired
    have hrequire := hfilled.lookup_of_omitted honly hdistinct
      (hspec requireEncryption (by simp)) (by rw [hname']; decide)
      (fun _ => by rw [hname']; decide) hrequired'
    rw [hname] at hold
    rw [hname'] at hrequire
    exact ⟨hold, hrequire⟩
  unfold jabberFixup at hpair
  rw [hsecurity] at hpair
  dsimp only at hpair
  unfold securityOf Asv.tpAsvGetBoolean
  by_cases hold : option.getDefaultListValue = some "old_ssl"
  · rw [if_pos hold] at hpair
    obtain ⟨hfirst, -⟩ := hpair _ _ rfl rfl rfl rfl rfl
    rw [hfirst, if_pos hold]
    rfl
  rw [if_neg hold] at hpair ⊢
  by_cases hrequire : option.getDefaultListValue = some "require_tls"
  · rw [if_pos hrequire] at hpair
    obtain ⟨hfirst, hsecond⟩ := hpair _ _ rfl rfl rfl rfl rfl
    rw [hfirst, hsecond, if_pos hrequire]
    rfl
  rw [if_neg hrequire] at hpair ⊢
  by_cases hopportunistic : option.getDefaultListValue = some "opportunistic_tls"
  · rw [if_pos hopportunistic] at hpair
    obtain ⟨hfirst, hsecond⟩ := hpair _ _ rfl rfl rfl rfl rfl
    rw [hfirst, hsecond]
    rfl
  · rw [if_neg hopportunistic] at hpair
    obtain ⟨hfirst, hsecond⟩ := hpair _ _ rfl rfl rfl rfl rfl
    rw [hfirst, hsecond]
    rfl

/-! ## Reading the account -/

theorem readsDefault_of_unset (h : account.settings.lookup option.prefName = none) :
    account.ReadsDefault option := by
  unfold PurpleAccountRecord.ReadsDefault PurpleAccountRecord.getBool PurpleAccountRecord.getInt
    PurpleAccountRecord.getString
  cases option.pref with
  | boolean default => rw [h]
  | int default => rw [h]
  | string default => rw [h]
  | stringList values => rw [h]
  | other => trivial

/-- A string that is inserted unless it is empty. -/
theorem getString_inserted {value : Option String}
    (h : account.settings.lookup option.prefName =
      if value.getD "" = "" then none else some (.string (some (value.getD "")))) :
    account.getString option.prefName value = value := by
  unfold PurpleAccountRecord.getString
  rw [h]
  cases value with
  | none => rfl
  | some value =>
      rw [Option.getD_some]
      split
      · rename_i hset
        split at hset
        · cases hset
        · cases hset
          rfl
      · rfl

/-- An inserted default is read back, unless it is a number that does not fit a port. -/
theorem readsDefault_inserted_iff (h : account.settings.lookup option.prefName =
    (p.insertedDefault option).bind (stored option.pref)) :
    account.ReadsDefault option ↔ ∀ n, option.pref = .int n →
      gStrHasSuffix (p.optionName option.prefName) "port" = true → 0 ≤ n.toInt := by
  unfold insertedDefault at h
  unfold PurpleAccountRecord.ReadsDefault
  cases hpref : option.pref with
  | boolean default =>
      rw [hpref] at h
      refine ⟨fun _ n hn => (by cases hn), fun _ => ?_⟩
      show account.getBool option.prefName default = default
      unfold PurpleAccountRecord.getBool
      rw [h]
      rfl
  | int default =>
      rw [hpref] at h
      dsimp only at h
      show account.getInt option.prefName default.toInt = default.toInt ↔ _
      unfold PurpleAccountRecord.getInt
      by_cases hport : gStrHasSuffix (p.optionName option.prefName) "port" = true
      · rw [if_pos hport] at h
        rw [h]
        refine (port_iff default).trans ⟨fun hpos n hn _ => ?_, fun hall => hall default rfl hport⟩
        cases hn
        exact hpos
      · rw [if_neg hport] at h
        rw [h]
        exact ⟨fun _ n _ hn => absurd hn hport, fun _ => rfl⟩
  | string default =>
      rw [hpref] at h
      refine ⟨fun _ n hn => (by cases hn), fun _ => getString_inserted ?_⟩
      rw [h]
      dsimp only
      split
      · rfl
      · rfl
  | stringList values =>
      rw [hpref] at h
      refine ⟨fun _ n hn => (by cases hn), fun _ => ?_⟩
      have hlist : option.getDefaultListValue = values.head? := by
        unfold PurpleAccountOption.getDefaultListValue
        rw [hpref]
      rw [hlist]
      refine getString_inserted ?_
      rw [h]
      dsimp only
      split
      · rfl
      · rfl
  | other => exact ⟨fun _ n hn => (by cases hn), fun _ => trivial⟩

/-- What is set for `connection_security` is read back as the default when the fixup understands
that. -/
theorem readsDefault_security_iff (h : account.settings.lookup option.prefName =
    stored option.pref (.string (if option.getDefaultListValue = some "old_ssl" then "old_ssl"
      else if option.getDefaultListValue = some "require_tls" then "require_tls"
      else "opportunistic_tls"))) :
    account.ReadsDefault option ↔ option.pref.Understood := by
  unfold PurpleAccountRecord.ReadsDefault PurplePref.Understood
  cases hpref : option.pref with
  | boolean default =>
      rw [hpref] at h
      show account.getBool option.prefName default = default ↔ default = false
      unfold PurpleAccountRecord.getBool
      rw [h]
      exact eq_comm
  | int default =>
      rw [hpref] at h
      show account.getInt option.prefName default.toInt = default.toInt ↔ default.toInt = 0
      unfold PurpleAccountRecord.getInt
      rw [h]
      exact eq_comm
  | string default =>
      have hlist : option.getDefaultListValue = none := by
        unfold PurpleAccountOption.getDefaultListValue
        rw [hpref]
      rw [hpref, hlist] at h
      show account.getString option.prefName default = default ↔ default = some "opportunistic_tls"
      unfold PurpleAccountRecord.getString
      rw [h]
      exact eq_comm
  | stringList values =>
      have hlist : option.getDefaultListValue = values.head? := by
        unfold PurpleAccountOption.getDefaultListValue
        rw [hpref]
      rw [hpref, hlist] at h
      rw [hlist]
      show account.getString option.prefName values.head? = values.head? ↔ _
      unfold PurpleAccountRecord.getString
      rw [h]
      by_cases hold : values.head? = some "old_ssl"
      · rw [if_pos hold]
        exact ⟨fun _ => Or.inl hold, fun _ => hold.symm⟩
      by_cases hrequire : values.head? = some "require_tls"
      · rw [if_neg hold, if_pos hrequire]
        exact ⟨fun _ => Or.inr (Or.inl hrequire), fun _ => hrequire.symm⟩
      · rw [if_neg hold, if_neg hrequire]
        refine ⟨fun heq => Or.inr (Or.inr heq.symm), ?_⟩
        rintro (hbad | hbad | hopportunistic)
        · exact absurd hbad hold
        · exact absurd hbad hrequire
        · exact hopportunistic.symm
  | other => exact Iff.rfl

/-! ## What is taken -/

theorem Taken.lookup_cases (htaken : Taken p params username password left) (key : String) :
    left.lookup key = none ∨ left.lookup key = params.lookup key := by
  by_cases haccount : key = "account"
  · rw [haccount]
    exact Or.inl htaken.noAccount
  by_cases hpassword : key = "password"
  · rw [hpassword, htaken.noPassword]
    split
    · exact Or.inr rfl
    · exact Or.inl rfl
  by_cases hsplit : p.HasSplits params ∧
      ∃ i, 1 ≤ i ∧ i ≤ p.prplInfo.userSplits.length ∧ key = usersplit i
  · obtain ⟨hsplits, i, hi, hi', rfl⟩ := hsplit
    exact Or.inl (htaken.noSplits hsplits i hi hi')
  · exact Or.inr (htaken.kept key haccount hpassword
      fun hsplits i hi hi' heq => hsplit ⟨hsplits, i, hi, hi', heq⟩)

/-- Only strings are taken. -/
theorem Taken.lookup_of_not_string (htaken : Taken p params username password left)
    {value : GValue} (hvalue : params.lookup key = some value) (haccount : key ≠ "account")
    (hstring : ∀ s, value ≠ .string s) : left.lookup key = some value := by
  by_cases hpassword : key = "password"
  · have hnone : password = none := by
      rw [htaken.secret]
      unfold Asv.tpAsvGetString
      rw [← hpassword, hvalue]
      cases value with
      | string s => exact absurd rfl (hstring s)
      | _ => rfl
    rw [hpassword, htaken.noPassword, if_pos hnone, ← hpassword, hvalue]
  · rw [htaken.kept key haccount hpassword, hvalue]
    rintro hsplits i hi hi' rfl
    obtain ⟨s, hs⟩ := htaken.strings hsplits i value hi hi' hvalue
    exact hstring s hs

theorem Taken.lookup_security (htaken : Taken p params username password left) :
    left.lookup "connection_security" = params.lookup "connection_security" :=
  htaken.kept _ (by decide) (by decide) fun _ i _ _ => connectionSecurity_ne_usersplit i

/-! ## User names -/

theorem length_le_splitsText (value : Nat → PurpleAccountUserSplit → String)
    (splits : List PurpleAccountUserSplit) (i : Nat) :
    splits.length ≤ (splitsText value splits i).toList.length := by
  induction splits generalizing i with
  | nil => exact Nat.zero_le _
  | cons split splits ih =>
      have hrest := ih (i + 1)
      rw [splitsText_cons, String.toList_append, String.toList_append, List.length_append,
        List.length_append, String.toList_singleton, List.length_singleton, List.length_cons]
      omega

theorem length_splitsText_empty (splits : List PurpleAccountUserSplit) (i : Nat) :
    (splitsText (fun _ _ => "") splits i).toList.length = splits.length := by
  induction splits generalizing i with
  | nil => rfl
  | cons split splits ih =>
      rw [splitsText_cons, String.append_empty, String.toList_append, List.length_append, ih,
        String.toList_singleton, List.length_singleton, List.length_cons]
      omega

/-- The text with the empty string for every split is the one with the defaults when all defaults
are empty. -/
theorem splitsText_empty_iff (splits : List PurpleAccountUserSplit) (i : Nat) :
    splitsText (fun _ _ => "") splits i =
        splitsText (fun _ split => split.defaultValue.getD "") splits i ↔
      ∀ split ∈ splits, split.defaultValue.getD "" = "" := by
  induction splits generalizing i with
  | nil => exact ⟨fun _ _ h => absurd h List.not_mem_nil, fun _ => rfl⟩
  | cons split splits ih =>
      rw [splitsText_cons, splitsText_cons, String.append_empty]
      constructor
      · intro heq
        -- what follows is no shorter with the defaults, so there is no room for this one
        have hempty : split.defaultValue.getD "" = "" := by
          have hlength := congrArg (fun s => s.toList.length) heq
          simp only [String.toList_append, List.length_append] at hlength
          have hle := length_le_splitsText (fun _ split => split.defaultValue.getD "") splits
            (i + 1)
          rw [length_splitsText_empty] at hlength
          have hzero : (split.defaultValue.getD "").toList.length = 0 := by omega
          exact String.ext (List.length_eq_zero_iff.mp hzero)
        rw [hempty, String.append_empty] at heq
        have hrest := (ih (i + 1)).mp (String.append_right_inj _ |>.mp heq)
        intro other hother
        rcases List.mem_cons.mp hother with rfl | hother
        · exact hempty
        · exact hrest other hother
      · intro hall
        have hrest := (ih (i + 1)).mpr fun other hother =>
          hall other (List.mem_cons_of_mem _ hother)
        rw [hall split List.mem_cons_self, String.append_empty, hrest]

/-! ## Options that are taken for splits -/

theorem translatePref_required {name : String} (h : p.translatePref option name = some spec)
    (hrequired : spec.required = true) : name = "first-name" ∨ name = "last-name" := by
  rcases translatePref_cases h with
    ⟨value, -, rfl⟩ | ⟨value, -, rfl⟩ | ⟨default, bare, -, rfl, hspec⟩
  · cases hrequired
  · split at hrequired
    · cases hrequired
    · cases hrequired
  · rcases hspec with ⟨hname, -⟩ | ⟨-, rfl⟩ | ⟨-, rfl⟩
    · exact hname
    · cases hrequired
    · cases hrequired

theorem name_of_isRequired (h : p.IsRequired option) :
    p.optionName option.prefName = "first-name" ∨ p.optionName option.prefName = "last-name" := by
  obtain ⟨spec, hspec, hrequired⟩ := h
  obtain ⟨bare, hbare, -, -, -, -, -, hsame, -⟩ := translateProtocolOption_some hspec
  exact translatePref_required hbare (hsame ▸ hrequired)

/-- The table does not rename a split to a name that is required. -/
theorem purpleName_of_required : ∀ info ∈ knownProtocolInfo, ∀ m ∈ info.parameterMap,
    cleanName m.telepathyName = "first-name" ∨ cleanName m.telepathyName = "last-name" →
      ¬ "usersplit".toList <+: m.purpleName.toList := by
  decide

theorem not_isRequired_of_usersplit (hp : p.FromTable) {i : Nat}
    (hname : option.prefName = usersplit i) : ¬ p.IsRequired option := by
  intro hrequired
  have hrequired' := name_of_isRequired hrequired
  unfold optionName at hrequired'
  rw [hname] at hrequired'
  split at hrequired'
  · rename_i m hm
    obtain ⟨info, hinfo, hmem, hpurple⟩ := lookupParam_eq_some hm
    refine purpleName_of_required info (hp info hinfo) m hmem hrequired' ?_
    rw [hpurple, usersplit, Numbered.toList_append_toString]
    exact List.prefix_append _ _
  · rw [cleanName_eq_self (not_mem_usersplit i)] at hrequired'
    rcases hrequired' with heq | heq
    · exact ne_usersplit (by decide) i heq.symm
    · exact ne_usersplit (by decide) i heq.symm

theorem hasDefault_iff : option.pref.HasDefault ↔ p.insertedDefault option ≠ none := by
  unfold insertedDefault PurplePref.HasDefault
  cases option.pref with
  | boolean default => simp
  | int default =>
      dsimp only
      split
      · simp
      · simp
  | string default => simp
  | stringList values => simp
  | other => simp

theorem inserted_isString {value : GValue} (hstring : option.pref.IsString ∨ option.pref = .other)
    (h : p.insertedDefault option = some value) : ∃ s, value = .string s := by
  unfold insertedDefault at h
  cases hpref : option.pref with
  | boolean default =>
      rw [hpref] at hstring
      exact (hstring.resolve_right (by simp)).elim
  | int default =>
      rw [hpref] at hstring
      exact (hstring.resolve_right (by simp)).elim
  | string default =>
      rw [hpref] at h
      dsimp only at h
      split at h
      · cases h
      · cases h
        exact ⟨_, rfl⟩
  | stringList values =>
      rw [hpref] at h
      dsimp only at h
      split at h
      · cases h
      · cases h
        exact ⟨_, rfl⟩
  | other =>
      rw [hpref] at h
      cases h

theorem inserted_not_isString (hnumber : ¬ (option.pref.IsString ∨ option.pref = .other)) :
    ∃ value, p.insertedDefault option = some value ∧ ∀ s, value ≠ .string s := by
  unfold insertedDefault
  cases hpref : option.pref with
  | boolean default => exact ⟨_, rfl, fun s hs => by cases hs⟩
  | int default =>
      dsimp only
      split
      · exact ⟨_, rfl, fun s hs => by cases hs⟩
      · exact ⟨_, rfl, fun s hs => by cases hs⟩
  | string default => exact absurd (Or.inl (by rw [hpref]; trivial)) hnumber
  | stringList values => exact absurd (Or.inl (by rw [hpref]; trivial)) hnumber
  | other => exact absurd (Or.inr hpref) hnumber

end HazeProtocol

end Haze
