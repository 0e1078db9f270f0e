import Haze.Protocol.Connections

set_option autoImplicit false

/-! # Where the parameters of a connection go

Every value of a table that TpBaseProtocol passes on goes to one place (`Placed`): the user name,
the password, or the option that its parameter was made of. The table that is made on the way has
names of Haze's own next to those of the options; `Unreserved` says that no option has one of these
(`parameters_placed`).
-/

namespace Haze

/-- What an option of an account is set to by a value of its type. -/
def GValue.setting : GValue → Option PurpleAccountSetting
  | .string s => some (.string (some s))
  | .boolean b => some (.bool b)
  | .int n => some (.int n)
  | .uint n => some (.int n)
  | _ => none

/-- The value has the declared type of the parameter. -/
def TpCMParamSpec.Typed (spec : TpCMParamSpec) : GValue → Prop
  | .string _ => spec.gtype = .string
  | .boolean _ => spec.gtype = .boolean
  | .int _ => spec.gtype = .int
  -- the D-Bus type is `q`
  | .uint n => spec.gtype = .uint ∧ n < 0x10000
  | _ => False

instance (spec : TpCMParamSpec) : DecidablePred spec.Typed
  | .string _ => inferInstanceAs (Decidable (_ = _))
  | .boolean _ => inferInstanceAs (Decidable (_ = _))
  | .int _ => inferInstanceAs (Decidable (_ = _))
  | .uint _ => inferInstanceAs (Decidable (_ ∧ _))
  | .uchar _ => isFalse id
  | .int64 _ => isFalse id
  | .uint64 _ => isFalse id
  | .strv _ => isFalse id
  | .other => isFalse id

/-- The option is a string for libpurple, or one of a list of strings. -/
def PurplePref.IsString : PurplePref → Prop
  | .string _ => True
  | .stringList _ => True
  | _ => False

instance : DecidablePred PurplePref.IsString
  | .boolean _ => isFalse id
  | .int _ => isFalse id
  | .string _ => isTrue trivial
  | .stringList _ => isTrue trivial
  | .other => isFalse id

/-- The types that parameters for the option may have. -/
def PurplePref.gtypes : PurplePref → List GType
  | .boolean _ => [.boolean]
  | .int _ => [.int, .uint]
  | .string _ => [.string]
  | .stringList _ => [.string]
  | .other => []

namespace HazeProtocol

variable {p : HazeProtocol} {asv params left : Asv} {option : PurpleAccountOption}
  {spec : TpCMParamSpec} {account : PurpleAccountRecord} {key username : String}
  {password : Option String}

/-- TpBaseProtocol can pass the table on: it has values of the declared types, for parameters of the
protocol only, one for the account and one for each parameter that has a default. -/
structure CanPass (p : HazeProtocol) (asv : Asv) : Prop where
  listed : ∀ key ∈ asv.keys, key ∈ p.getParameters.map TpCMParamSpec.name
  typed : ∀ spec ∈ p.getParameters, ∀ value ∈ asv.lookup spec.name, spec.Typed value
  account : asv.lookup "account" ≠ none
  defaults : ∀ spec ∈ p.getParameters, spec.hasDefault = true → asv.lookup spec.name ≠ none

/-- No option has a name of Haze's own where that means something else. -/
structure Unreserved (p : HazeProtocol) : Prop where
  password : p.prplInfo.noPassword = true → ∀ option ∈ p.prplInfo.protocolOptions,
    option.prefName = "password" → ¬ option.pref.IsString
  splits : ¬ p.exposesSplits → p.prplInfo.userSplits ≠ [] →
    ∀ option ∈ p.prplInfo.protocolOptions, option.prefName ≠ usersplit 1
  security : ∀ option ∈ p.connectionSecurity, option.pref.IsString

/-- The account followed by the separator and the value of each exposed split. -/
def usernameOf (p : HazeProtocol) (asv : Asv) : String :=
  (asv.tpAsvGetString "account").getD "" ++
    if p.exposesSplits then
      splitsText (fun i _ => (asv.tpAsvGetString (p.usersplitSpec i).name).getD "")
        p.prplInfo.userSplits 1
    else ""

/-- Every value of the table is in its place in the account, and nothing else is there. -/
structure Placed (p : HazeProtocol) (asv : Asv) (account : PurpleAccountRecord) : Prop where
  username : account.username = p.usernameOf asv
  protocolId : account.protocolId = p.prplId
  password : account.password =
    if p.prplInfo.noPassword then none else asv.tpAsvGetString "password"
  options : ∀ option ∈ p.prplInfo.protocolOptions, ∀ spec,
    p.translateProtocolOption option = some spec →
      account.settings.lookup option.prefName = (asv.lookup spec.name).bind GValue.setting
  security : ∀ option ∈ p.connectionSecurity,
    account.settings.lookup option.prefName = some (.string (some (securityOf asv)))
  others : ∀ key ∈ account.settings.keys, ∃ option ∈ p.prplInfo.protocolOptions,
    option.prefName = key ∧ (option ∈ p.connectionSecurity ∨ ∃ spec,
      p.translateProtocolOption option = some spec ∧ asv.lookup spec.name ≠ none)

/-! ## The translated table -/

/-- What the translated table has values for. -/
theorem Translated.cases (h : Translated p asv params) (hp : p.FromTable) (key : String) :
    params.lookup key = none ∨ key = "account" ∨
      (p.exposesSplits ∧ ∃ i, 1 ≤ i ∧ i ≤ p.prplInfo.userSplits.length ∧ key = usersplit i) ∨
      (p.prplInfo.noPassword = false ∧ key = "password") ∨
      (∃ option ∈ p.prplInfo.protocolOptions, ∃ spec,
        p.translateProtocolOption option = some spec ∧ key = option.prefName) ∨
      ∃ option ∈ p.connectionSecurity, key = option.prefName := by
  by_cases hsetter : ∃ spec ∈ p.getParameters, spec.setterData = some key
  · right
    obtain ⟨spec, hspec, hkey⟩ := hsetter
    rcases mem_getParameters.mp hspec with
      rfl | ⟨hexposes, i, hi, hi', rfl⟩ | ⟨hpassword, rfl⟩ | ⟨option, hmem, hoption⟩ | hfixup
    · cases hkey
      exact Or.inl rfl
    · cases hkey
      exact Or.inr (Or.inl ⟨hexposes, i, hi, hi', rfl⟩)
    · cases hkey
      exact Or.inr (Or.inr (Or.inl ⟨hpassword, rfl⟩))
    · rw [(name_of_option hoption).2] at hkey
      cases hkey
      exact Or.inr (Or.inr (Or.inr (Or.inl ⟨option, hmem, spec, hoption, rfl⟩)))
    · rw [(setterData_of_jabberFixup hfixup).1] at hkey
      cases hkey
  · have hnone : ∀ spec ∈ p.getParameters, spec.setterData ≠ some key :=
      fun spec hspec hkey => hsetter ⟨spec, hspec, hkey⟩
    cases hsecurity : p.connectionSecurity with
    | none => exact Or.inl (h.unset key hnone (Or.inl hsecurity))
    | some option =>
        by_cases hkey : key = "connection_security"
        · have hname := (connectionSecurity_some hp hsecurity).2.1
          exact Or.inr (Or.inr (Or.inr (Or.inr (Or.inr ⟨option, rfl, by rw [hkey, hname]⟩))))
        · exact Or.inl (h.unset key hnone (Or.inr hkey))

theorem Translated.lookup_account (h : Translated p asv params) (hp : p.FromTable) :
    params.lookup "account" = asv.lookup "account" := by
  have hmem : accountSpec ∈ p.getParameters := mem_getParameters.mpr (Or.inl rfl)
  rw [h.set accountSpec hmem "account" rfl, optionName_account hp]

theorem Translated.get_account (h : Translated p asv params) (hp : p.FromTable) {user : String}
    (huser : asv.lookup "account" = some (.string user)) :
    params.tpAsvGetString "account" = some user := by
  apply Asv.tpAsvGetString_of_string
  rw [h.lookup_account hp, huser]

theorem Translated.lookup_password (h : Translated p asv params) (hp : p.FromTable)
    (hpassword : p.prplInfo.noPassword = false) :
    params.lookup "password" = asv.lookup "password" := by
  have hmem : passwordSpec ∈ p.getParameters :=
    mem_getParameters.mpr (Or.inr (Or.inr (Or.inl ⟨hpassword, rfl⟩)))
  rw [h.set passwordSpec hmem "password" rfl, optionName_password hp]

theorem usersplitSpec_mem (hexposes : p.exposesSplits) {i : Nat} (hi : 1 ≤ i)
    (hi' : i ≤ p.prplInfo.userSplits.length) : p.usersplitSpec i ∈ p.getParameters :=
  mem_getParameters.mpr (Or.inr (Or.inl ⟨hexposes, i, hi, hi', rfl⟩))

theorem Translated.lookup_split (h : Translated p asv params) (hp : p.FromTable)
    (hexposes : p.exposesSplits) {i : Nat} (hi : 1 ≤ i)
    (hi' : i ≤ p.prplInfo.userSplits.length) :
    params.lookup (usersplit i) = asv.lookup (p.usersplitSpec i).name := by
  rw [h.set _ (usersplitSpec_mem hexposes hi hi') (usersplit i) rfl, optionName_usersplit hp]

theorem option_mem_getParameters (hmem : option ∈ p.prplInfo.protocolOptions)
    (h : p.translateProtocolOption option = some spec) : spec ∈ p.getParameters :=
  mem_getParameters.mpr (Or.inr (Or.inr (Or.inr (Or.inl ⟨option, hmem, h⟩))))

theorem Translated.lookup_option (h : Translated p asv params)
    (hmem : option ∈ p.prplInfo.protocolOptions)
    (hoption : p.translateProtocolOption option = some spec) :
    params.lookup option.prefName = asv.lookup spec.name := by
  obtain ⟨hname, hsetter⟩ := name_of_option hoption
  rw [h.set spec (option_mem_getParameters hmem hoption) _ hsetter, hname]

/-! ## Types -/

theorem gtypes_of_stringDefault {pref : PurplePref} {default : Option String}
    (h : pref.stringDefault = some default) : pref.gtypes = [.string] := by
  cases pref with
  | string default => rfl
  | stringList values => rfl
  | boolean default => cases h
  | int default => cases h
  | other => cases h

theorem gtype_of_option (h : p.translateProtocolOption option = some spec) :
    spec.gtype ∈ option.pref.gtypes := by
  obtain ⟨bare, hbare, -, -, hgtype, -⟩ := translateProtocolOption_some h
  rw [hgtype]
  rcases translatePref_cases hbare with
    ⟨value, hpref, rfl⟩ | ⟨value, hpref, rfl⟩ | ⟨default, plain, hpref, rfl, hspec⟩
  · rw [hpref]
    exact List.mem_singleton_self _
  · rw [hpref]
    split
    · exact List.mem_cons_of_mem _ (List.mem_singleton_self _)
    · exact List.mem_cons_self
  · rw [gtypes_of_stringDefault hpref]
    rcases hspec with ⟨-, rfl⟩ | ⟨-, rfl⟩ | ⟨-, rfl⟩
    · exact List.mem_singleton_self _
    · exact List.mem_singleton_self _
    · exact List.mem_singleton_self _

theorem exists_string_of_typed {value : GValue} (hgtype : spec.gtype = .string)
    (htyped : spec.Typed value) : ∃ s, value = .string s := by
  cases value with
  | string s => exact ⟨s, rfl⟩
  | boolean b => cases hgtype.symm.trans htyped
  | int n => cases hgtype.symm.trans htyped
  | uint n => cases hgtype.symm.trans htyped.1
  | uchar n => exact htyped.elim
  | int64 n => exact htyped.elim
  | uint64 n => exact htyped.elim
  | strv l => exact htyped.elim
  | other => exact htyped.elim

theorem exists_boolean_of_typed {value : GValue} (hgtype : spec.gtype = .boolean)
    (htyped : spec.Typed value) : ∃ b, value = .boolean b := by
  cases value with
  | boolean b => exact ⟨b, rfl⟩
  | string s => cases hgtype.symm.trans htyped
  | int n => cases hgtype.symm.trans htyped
  | uint n => cases hgtype.symm.trans htyped.1
  | uchar n => exact htyped.elim
  | int64 n => exact htyped.elim
  | uint64 n => exact htyped.elim
  | strv l => exact htyped.elim
  | other => exact htyped.elim

/-- A value of the declared type is stored as it is. -/
theorem stored_of_typed {pref : PurplePref} {value : GValue} (hgtype : spec.gtype ∈ pref.gtypes)
    (htyped : spec.Typed value) : stored pref value = value.setting := by
  cases pref with
  | boolean default =>
      obtain ⟨b, rfl⟩ := exists_boolean_of_typed (List.mem_singleton.mp hgtype) htyped
      rfl
  | int default =>
      cases value with
      | int n => rfl
      | uint n =>
          have hn : n < 0x10000 := htyped.2
          have hfits : n < 0x80000000 := by omega
          show some (PurpleAccountSetting.int (if n < 0x80000000 then n else 0)) = _
          rw [if_pos hfits]
          rfl
      | string s =>
          have hstring : spec.gtype = .string := htyped
          rw [hstring] at hgtype
          simp [PurplePref.gtypes] at hgtype
      | boolean b =>
          have hboolean : spec.gtype = .boolean := htyped
          rw [hboolean] at hgtype
          simp [PurplePref.gtypes] at hgtype
      | uchar n => exact htyped.elim
      | int64 n => exact htyped.elim
      | uint64 n => exact htyped.elim
      | strv l => exact htyped.elim
      | other => exact htyped.elim
  | string default =>
      obtain ⟨s, rfl⟩ := exists_string_of_typed (List.mem_singleton.mp hgtype) htyped
      rfl
  | stringList values =>
      obtain ⟨s, rfl⟩ := exists_string_of_typed (List.mem_singleton.mp hgtype) htyped
      rfl
  | other => cases hgtype

/-- A string is a value for options that are strings. -/
theorem isString_of_typed {pref : PurplePref} {str : String} (hgtype : spec.gtype ∈ pref.gtypes)
    (htyped : spec.Typed (.string str)) : pref.IsString := by
  have hstring : spec.gtype = .string := htyped
  rw [hstring] at hgtype
  cases pref with
  | boolean default => simp [PurplePref.gtypes] at hgtype
  | int default => simp [PurplePref.gtypes] at hgtype
  | string default => trivial
  | stringList values => trivial
  | other => cases hgtype

/-! ## The table that is passed on -/

theorem CanPass.exists_account (h : p.CanPass asv) : ∃ user, asv.lookup "account" =
    some (.string user) := by
  obtain ⟨value, hvalue⟩ := Option.ne_none_iff_exists'.mp h.account
  have hmem : accountSpec ∈ p.getParameters := mem_getParameters.mpr (Or.inl rfl)
  obtain ⟨user, rfl⟩ := exists_string_of_typed rfl (h.typed accountSpec hmem value hvalue)
  exact ⟨user, hvalue⟩

theorem CanPass.exists_split (h : p.CanPass asv) (hexposes : p.exposesSplits) {i : Nat}
    (hi : 1 ≤ i) (hi' : i ≤ p.prplInfo.userSplits.length) :
    ∃ s, asv.lookup (p.usersplitSpec i).name = some (.string s) := by
  have hmem := usersplitSpec_mem hexposes hi hi'
  obtain ⟨value, hvalue⟩ := Option.ne_none_iff_exists'.mp (h.defaults _ hmem rfl)
  obtain ⟨s, rfl⟩ := exists_string_of_typed rfl (h.typed _ hmem value hvalue)
  exact ⟨s, hvalue⟩

theorem length_pos_of_exposes (h : p.exposesSplits) : 1 ≤ p.prplInfo.userSplits.length :=
  List.length_pos_iff.mpr h.1

/-- The splits are asked for exactly when they are exposed. -/
theorem Translated.hasSplits_iff (h : Translated p asv params) (hp : p.FromTable)
    (hasv : p.CanPass asv) (hfree : p.Unreserved) : p.HasSplits params ↔ p.exposesSplits := by
  constructor
  · rintro ⟨hsplits, hfirst⟩
    by_contra hexposes
    rcases h.cases hp (usersplit 1) with
      hnone | heq | ⟨hexposed, -⟩ | ⟨-, heq⟩ | ⟨option, hmem, -, -, heq⟩ | ⟨option, hmem, heq⟩
    · exact hfirst hnone
    · exact account_ne_usersplit 1 heq.symm
    · exact hexposes hexposed
    · exact password_ne_usersplit 1 heq.symm
    · exact hfree.splits hexposes hsplits option hmem heq.symm
    · obtain ⟨hmem', -⟩ := connectionSecurity_some hp hmem
      exact hfree.splits hexposes hsplits option hmem' heq.symm
  · intro hexposes
    obtain ⟨s, hs⟩ := hasv.exists_split hexposes (Nat.le_refl 1) (length_pos_of_exposes hexposes)
    refine ⟨hexposes.1, ?_⟩
    rw [h.lookup_split hp hexposes (Nat.le_refl 1) (length_pos_of_exposes hexposes), hs]
    exact Option.some_ne_none _

theorem Translated.splitStrings (h : Translated p asv params) (hp : p.FromTable)
    (hasv : p.CanPass asv) (hexposes : p.exposesSplits) : p.SplitStrings params := by
  intro i value hi hi' hvalue
  obtain ⟨s, hs⟩ := hasv.exists_split hexposes hi hi'
  rw [h.lookup_split hp hexposes hi hi', hs] at hvalue
  cases hvalue
  exact ⟨s, rfl⟩

/-- Without a parameter for it there is no password. -/
theorem Translated.password_eq (h : Translated p asv params) (hp : p.FromTable)
    (hasv : p.CanPass asv) (hfree : p.Unreserved) : params.tpAsvGetString "password" =
      if p.prplInfo.noPassword then none else asv.tpAsvGetString "password" := by
  cases hpassword : p.prplInfo.noPassword with
  | false =>
      rw [Asv.tpAsvGetString_congr (h.lookup_password hp hpassword)]
      rfl
  | true =>
      unfold Asv.tpAsvGetString
      cases hvalue : params.lookup "password" with
      | none => rfl
      | some value =>
          cases value with
          | string s =>
              rcases h.cases hp "password" with hnone | heq | ⟨-, i, -, -, heq⟩ | ⟨hfalse, -⟩ |
                ⟨option, hmem, spec, hoption, heq⟩ | ⟨option, hmem, heq⟩
              · rw [hvalue] at hnone
                cases hnone
              · exact absurd heq (by decide)
              · exact absurd heq (password_ne_usersplit i)
              · rw [hpassword] at hfalse
                cases hfalse
              · rw [heq, h.lookup_option hmem hoption] at hvalue
                have htyped := hasv.typed spec (option_mem_getParameters hmem hoption) _ hvalue
                exact absurd (isString_of_typed (gtype_of_option hoption) htyped)
                  (hfree.password hpassword option hmem heq.symm)
              · have hname := (connectionSecurity_some hp hmem).2.1
                rw [hname] at heq
                exact absurd heq (by decide)
          | _ => rfl

/-! ## The account -/

/-- The user name that is made of the table. -/
theorem Taken.username_eq (htaken : Taken p params username password left)
    (h : Translated p asv params) (hp : p.FromTable) (hasv : p.CanPass asv)
    (hfree : p.Unreserved) : username = p.usernameOf asv := by
  obtain ⟨user, huser⟩ := hasv.exists_account
  have hget := h.get_account hp huser
  have hget' : asv.tpAsvGetString "account" = some user := Asv.tpAsvGetString_of_string huser
  rw [htaken.named user hget, usernameOf, hget', Option.getD_some]
  by_cases hexposes : p.exposesSplits
  · rw [if_pos ((h.hasSplits_iff hp hasv hfree).mpr hexposes), if_pos hexposes]
    refine congrArg (user ++ ·) (splitsText_congr fun i split hi hi' => ?_)
    obtain ⟨s, hs⟩ := hasv.exists_split hexposes hi (by omega)
    have hlookup := (h.lookup_split hp hexposes hi (by omega)).trans hs
    rw [splitValue, Asv.tpAsvGetString_of_string hlookup, Asv.tpAsvGetString_of_string hs]
    rfl
  · rw [if_neg (fun hsplits => hexposes ((h.hasSplits_iff hp hasv hfree).mp hsplits)),
      if_neg hexposes]
    exact String.append_empty.symm

/-- Nothing is taken that belongs to an option. -/
theorem Taken.lookup_prefName (htaken : Taken p params username password left)
    (h : Translated p asv params) (hp : p.FromTable) (hdistinct : p.Distinct)
    (hasv : p.CanPass asv) (hfree : p.Unreserved)
    (hmem : option ∈ p.prplInfo.protocolOptions) :
    left.lookup option.prefName = params.lookup option.prefName := by
  by_cases hname : option.prefName = "password"
  · cases hpassword : p.prplInfo.noPassword with
    | false => exact absurd hname (hdistinct.ne_password hp hpassword hmem)
    | true =>
        have hnone : password = none := by
          rw [htaken.secret, h.password_eq hp hasv hfree, hpassword]
          rfl
        rw [hname, htaken.noPassword, if_pos hnone]
  · refine htaken.kept _ (hdistinct.ne_account hp hmem) hname fun hsplits i hi hi' => ?_
    have hexposes := (h.hasSplits_iff hp hasv hfree).mp hsplits
    exact hdistinct.ne_usersplit hp hexposes hmem hi hi'

/-- An option is known by its name. -/
theorem Distinct.eq_of_prefName (hdistinct : p.Distinct) {option' : PurpleAccountOption}
    (hmem : option ∈ p.prplInfo.protocolOptions) (hmem' : option' ∈ p.prplInfo.protocolOptions)
    (hname : option.prefName = option'.prefName) : option = option' :=
  List.inj_on_of_nodup_map hdistinct.prefNames hmem hmem' hname

/-- Nothing is left when the options have been set. -/
theorem Taken.left_eq_none (htaken : Taken p params username password left)
    (h : Translated p asv params) (hp : p.FromTable) (hasv : p.CanPass asv)
    (hfree : p.Unreserved)
    (hkey : key ∉ p.prplInfo.protocolOptions.map PurpleAccountOption.prefName) :
    left.lookup key = none := by
  have hkept : key ≠ "account" → key ≠ "password" →
      (p.HasSplits params → ∀ i, 1 ≤ i → i ≤ p.prplInfo.userSplits.length → key ≠ usersplit i) →
        params.lookup key = none → left.lookup key = none := by
    intro haccount hpassword hsplits hnone
    rw [htaken.kept key haccount hpassword hsplits, hnone]
  by_cases hpassword : key = "password"
  · rw [hpassword, htaken.noPassword]
    split
    · rename_i hnone
      rw [htaken.secret] at hnone
      rcases h.cases hp "password" with hnothing | heq | ⟨-, i, -, -, heq⟩ | ⟨hfalse, -⟩ |
        ⟨option, hmem, -, -, heq⟩ | ⟨option, hmem, heq⟩
      · exact hnothing
      · exact absurd heq (by decide)
      · exact absurd heq (password_ne_usersplit i)
      · have hmem : passwordSpec ∈ p.getParameters :=
          mem_getParameters.mpr (Or.inr (Or.inr (Or.inl ⟨hfalse, rfl⟩)))
        have hlookup := h.lookup_password hp hfalse
        cases hvalue : params.lookup "password" with
        | none => rfl
        | some value =>
            rw [hvalue] at hlookup
            obtain ⟨s, rfl⟩ := exists_string_of_typed rfl
              (hasv.typed passwordSpec hmem value hlookup.symm)
            unfold Asv.tpAsvGetString at hnone
            rw [hvalue] at hnone
            cases hnone
      · exact absurd (List.mem_map.mpr ⟨option, hmem, heq.symm.trans hpassword.symm⟩) hkey
      · have hmem' := (connectionSecurity_some hp hmem).1
        exact absurd (List.mem_map.mpr ⟨option, hmem', heq.symm.trans hpassword.symm⟩) hkey
    · rfl
  · by_cases haccount : key = "account"
    · rw [haccount]
      exact htaken.noAccount
    · by_cases hsplit : p.HasSplits params ∧
          ∃ i, 1 ≤ i ∧ i ≤ p.prplInfo.userSplits.length ∧ key = usersplit i
      · obtain ⟨hsplits, i, hi, hi', rfl⟩ := hsplit
        exact htaken.noSplits hsplits i hi hi'
      · refine hkept haccount hpassword
          (fun hsplits i hi hi' heq => hsplit ⟨hsplits, i, hi, hi', heq⟩) ?_
        rcases h.cases hp key with hnone | heq | ⟨hexposes, i, hi, hi', heq⟩ | ⟨-, heq⟩ |
          ⟨option, hmem, -, -, heq⟩ | ⟨option, hmem, heq⟩
        · exact hnone
        · exact absurd heq haccount
        · have hsplits := (h.hasSplits_iff hp hasv hfree).mpr hexposes
          exact absurd ⟨hsplits, i, hi, hi', heq⟩ hsplit
        · exact absurd heq hpassword
        · exact absurd (List.mem_map.mpr ⟨option, hmem, heq.symm⟩) hkey
        · have hmem' := (connectionSecurity_some hp hmem).1
          exact absurd (List.mem_map.mpr ⟨option, hmem', heq.symm⟩) hkey

/-- The options of the account hold the values of their parameters. -/
theorem Stored.placed {final : Asv}
    (hstored : Stored p.prplInfo.protocolOptions (p.bareAccount username password) left account
      final)
    (htaken : Taken p params username password left) (h : Translated p asv params)
    (hp : p.FromTable) (hdistinct : p.Distinct) (hasv : p.CanPass asv) (hfree : p.Unreserved) :
    p.Placed asv account := by
  have hsetting : ∀ option ∈ p.prplInfo.protocolOptions,
      account.settings.lookup option.prefName =
        (params.lookup option.prefName).bind (stored option.pref) := by
    intro option hmem
    rw [hstored.lookup_new hmem, htaken.lookup_prefName h hp hdistinct hasv hfree hmem]
  refine
    { username := hstored.username.trans (htaken.username_eq h hp hasv hfree)
      protocolId := hstored.protocolId
      password := hstored.password.trans (htaken.secret.trans (h.password_eq hp hasv hfree))
      options := fun option hmem spec hoption => ?_
      security := fun option hmem => ?_
      others := fun key hkey => ?_ }
  · rw [hsetting option hmem, h.lookup_option hmem hoption]
    cases hvalue : asv.lookup spec.name with
    | none => rfl
    | some value =>
        have htyped := hasv.typed spec (option_mem_getParameters hmem hoption) value hvalue
        exact stored_of_typed (gtype_of_option hoption) htyped
  · obtain ⟨hmem', hname, -⟩ := connectionSecurity_some hp hmem
    have hsecurity := connectionSecurity_ne_none hmem
    have hstring := hfree.security option hmem
    rw [hsetting option hmem', hname, h.security hsecurity]
    cases hpref : option.pref with
    | string default => rfl
    | stringList values => rfl
    | boolean default => exact absurd hstring (by rw [hpref]; exact id)
    | int default => exact absurd hstring (by rw [hpref]; exact id)
    | other => exact absurd hstring (by rw [hpref]; exact id)
  · have hset : account.settings.lookup key ≠ none :=
      fun hnone => AList.lookup_eq_none.mp hnone (AList.mem_keys.mp hkey)
    have hkey' : key ∈ p.prplInfo.protocolOptions.map PurpleAccountOption.prefName := by
      by_contra hnot
      exact hset (hstored.others key hnot)
    obtain ⟨option, hmem, rfl⟩ := List.mem_map.mp hkey'
    refine ⟨option, hmem, rfl, ?_⟩
    have hvalue : params.lookup option.prefName ≠ none := by
      intro hnone
      rw [hsetting option hmem, hnone] at hset
      exact hset rfl
    rcases h.cases hp option.prefName with hnone | heq | ⟨hexposes, i, hi, hi', heq⟩ |
      ⟨hpassword, heq⟩ | ⟨option', hmem', spec, hoption, heq⟩ | ⟨option', hmem', heq⟩
    · exact absurd hnone hvalue
    · exact absurd heq (hdistinct.ne_account hp hmem)
    · exact absurd heq (hdistinct.ne_usersplit hp hexposes hmem hi hi')
    · exact absurd heq (hdistinct.ne_password hp hpassword hmem)
    · rw [hdistinct.eq_of_prefName hmem hmem' heq] at hvalue ⊢
      rw [h.lookup_option hmem' hoption] at hvalue
      exact Or.inr ⟨spec, hoption, hvalue⟩
    · have hmem'' := (connectionSecurity_some hp hmem').1
      rw [hdistinct.eq_of_prefName hmem hmem'' heq]
      exact Or.inl hmem'

/-- **No parameter is lost.** For every plugin and every table that TpBaseProtocol can pass, the
table is translated. If besides the translated names of the plugin are distinct, and none of its
options has a name of Haze's own: unless there is an account of that name already, every value is in
its place in a new account, and no parameter is left over. -/
theorem parameters_placed (purpleAccountsFind : String → String → Bool) (prplId : String)
    (prplInfo : PurpleProtocolParameters) (asv : Asv)
    (hasv : (ofPlugin prplId prplInfo).CanPass asv) :
    (∃ params, (ofPlugin prplId prplInfo).translateParameters asv = .ok params) ∧
    ((ofPlugin prplId prplInfo).Distinct → (ofPlugin prplId prplInfo).Unreserved →
      ∃ result, newConnection purpleAccountsFind (ofPlugin prplId prplInfo) asv = .ok result ∧
        if purpleAccountsFind ((ofPlugin prplId prplInfo).usernameOf asv)
            (ofPlugin prplId prplInfo).prplId then
          ∃ error, result = .error (some error)
        else ∃ account, result = .ok (account, ∅) ∧
          (ofPlugin prplId prplInfo).Placed asv account) := by
  have hp := fromTable_ofPlugin prplId prplInfo
  generalize ofPlugin prplId prplInfo = p at *
  obtain ⟨params, htranslate, h⟩ := translateParameters_ok hp hasv.listed
  refine ⟨⟨params, htranslate⟩, fun hdistinct hfree => ?_⟩
  obtain ⟨user, huser⟩ := hasv.exists_account
  have hget := h.get_account hp huser
  obtain ⟨result, hresult⟩ := newConnection_total purpleAccountsFind htranslate hget
    fun hsplits => h.splitStrings hp hasv ((h.hasSplits_iff hp hasv hfree).mp hsplits)
  obtain ⟨username, password, left, htaken, rfl⟩ := newConnection_of_ok htranslate hget hresult
  have husername := htaken.username_eq h hp hasv hfree
  refine ⟨_, hresult, ?_⟩
  rw [← husername]
  split
  · rename_i hfind
    unfold createAccount
    rw [if_pos hfind]
    exact ⟨_, rfl⟩
  · rename_i hfind
    rw [createAccount_new (Bool.not_eq_true _ ▸ hfind)]
    have hstored : Stored p.prplInfo.protocolOptions (p.bareAccount username password) left
        (setOptions p.prplInfo.protocolOptions (p.bareAccount username password) left).1
        (setOptions p.prplInfo.protocolOptions (p.bareAccount username password) left).2 :=
      stored_setOptions hdistinct.prefNames
    have hempty : (setOptions p.prplInfo.protocolOptions
        (p.bareAccount username password) left).2 = ∅ := by
      refine eq_empty_of_lookup fun key => ?_
      rw [hstored.params]
      split
      · rfl
      · rename_i hkey
        exact htaken.left_eq_none h hp hasv hfree hkey
    refine ⟨_, ?_, hstored.placed htaken h hp hdistinct hasv hfree⟩
    rw [← hempty]
    rfl

/-- A plugin like the one for IRC, with a server after the nick. -/
def ircParameters : PurpleProtocolParameters where
  noPassword := false
  passwordOptional := true
  userSplits := [⟨'@', some "irc.libera.chat"⟩]
  protocolOptions := [⟨"port", .int 6667⟩, ⟨"encoding", .string (some "UTF-8")⟩,
    ⟨"autodetect_utf8", .boolean false⟩, ⟨"realname", .string none⟩]

/-- What TpBaseProtocol passes on for a nick, a server and an encoding. -/
def ircTable : Asv :=
  [⟨"account", .string "alice"⟩, ⟨"server", .string "irc.example.org"⟩, ⟨"port", .uint 6667⟩,
    ⟨"charset", .string "ISO-8859-1"⟩, ⟨"autodetect-utf8", .boolean false⟩].toAList

theorem parameters_placed_irc :
    ∃ account, newConnection (fun _ _ => false) (ofPlugin "prpl-irc" ircParameters) ircTable =
        .ok (.ok (account, ∅)) ∧
      account.username = "alice@irc.example.org" := by
  obtain ⟨-, hnew⟩ := parameters_placed (fun _ _ => false) "prpl-irc" ircParameters ircTable
    ⟨by decide, by decide, by decide, by decide⟩
  obtain ⟨result, hresult, account, rfl, hplaced⟩ :=
    hnew (by decide) ⟨by decide, by decide, by decide⟩
  refine ⟨account, hresult, hplaced.username.trans ?_⟩
  decide

/-- A plugin without passwords that has an option of that name. -/
def passwordOption : PurpleProtocolParameters where
  noPassword := true
  passwordOptional := false
  userSplits := []
  protocolOptions := [⟨"password", .string none⟩]

/-- A plugin with an option that is called like a split that is not exposed. -/
def splitOption : PurpleProtocolParameters where
  noPassword := true
  passwordOptional := false
  userSplits := [⟨'@', none⟩]
  protocolOptions := [⟨"usersplit1", .string none⟩]

/-- A plugin for Jabber whose `connection_security` is not a string. -/
def securityOption : PurpleProtocolParameters where
  noPassword := true
  passwordOptional := false
  userSplits := []
  protocolOptions := [⟨"connection_security", .boolean false⟩]

/-- A table of strings. -/
def strings (values : List (String × String)) : Asv :=
  (values.map (fun e => (⟨e.1, .string e.2⟩ : (_ : String) × GValue))).toAList

/-- The table can be passed on, and something of it does not get to its place. -/
def Misplaced (prplId : String) (prplInfo : PurpleProtocolParameters) (asv : Asv) : Prop :=
  (ofPlugin prplId prplInfo).Distinct ∧ (ofPlugin prplId prplInfo).CanPass asv ∧
    ¬ ∃ account, newConnection (fun _ _ => false) (ofPlugin prplId prplInfo) asv =
      .ok (.ok (account, ∅)) ∧ (ofPlugin prplId prplInfo).Placed asv account

/-- The password of the first plugin goes to the password of the account, and the split of the
second one to the user name; the third is not set by what it is replaced with. -/
theorem parameters_misplaced :
    Misplaced "prpl-sample" passwordOption
        (strings [("account", "alice"), ("password", "secret")]) ∧
      Misplaced "prpl-sample" splitOption
        (strings [("account", "alice"), ("usersplit1", "home")]) ∧
      Misplaced "prpl-jabber" securityOption (strings [("account", "alice")]) := by
  refine ⟨⟨by decide, ⟨by decide, by decide, by decide, by decide⟩, ?_⟩,
    ⟨by decide, ⟨by decide, by decide, by decide, by decide⟩, ?_⟩,
    ⟨by decide, ⟨by decide, by decide, by decide, by decide⟩, ?_⟩⟩
  · rintro ⟨account, hresult, hplaced⟩
    have hpassword := hplaced.password
    cases hresult
    revert hpassword
    decide
  · rintro ⟨account, hresult, hplaced⟩
    have husername := hplaced.username
    cases hresult
    revert husername
    decide
  · rintro ⟨account, hresult, hplaced⟩
    have hsecurity := hplaced.security ⟨"connection_security", .boolean false⟩ (by decide)
    cases hresult
    revert hsecurity
    decide

end HazeProtocol

end Haze
