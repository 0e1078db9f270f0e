import Haze.Connection.Model
import Haze.Telepathy.Asv

set_option autoImplicit false

/-! # `protocol.c`, and the making of accounts in `connection.c`

A protocol plugin of libpurple describes an account by its user splits and its options. Haze
translates the description to a list of parameters, and the parameters of a new connection back to a
user name, a password and the options of an account. In both directions the options go under the
names that libpurple has for them; `setter_data` says which, and the table that is passed on holds
`account`, `password` and the splits next to the options.
-/

namespace Haze

/-! ## libpurple -/

/-- The type of a `PurpleAccountOption`, with its default value. -/
inductive PurplePref where
  | boolean (default : Bool)
  | int (default : Int32)
  | string (default : Option String)
  | stringList (values : List String)
  | other
  deriving DecidableEq

/-- `PurpleAccountOption` -/
structure PurpleAccountOption where
  prefName : String
  pref : PurplePref
  deriving DecidableEq

/-- `purple_account_option_get_default_list_value`: the first value of the list. -/
def PurpleAccountOption.getDefaultListValue (option : PurpleAccountOption) : Option String :=
  match option.pref with
  | .stringList values => values.head?
  | _ => none

/-- `PurpleAccountUserSplit` -/
structure PurpleAccountUserSplit where
  separator : Char
  defaultValue : Option String
  deriving DecidableEq

/-- What else Haze reads of `PurplePluginProtocolInfo` to translate the parameters. -/
structure PurpleProtocolParameters extends PurplePluginProtocolInfo where
  userSplits : List PurpleAccountUserSplit
  protocolOptions : List PurpleAccountOption

/-- What is stored for an option of an account. -/
inductive PurpleAccountSetting where
  | bool (value : Bool)
  | int (value : Int)
  | string (value : Option String)
  deriving DecidableEq

/-- What Haze and the plugins put into a `PurpleAccount`. -/
structure PurpleAccountRecord where
  username : String
  protocolId : String
  password : Option String
  settings : AList (fun _ : String => PurpleAccountSetting)

namespace PurpleAccountRecord

/-- `purple_account_new` -/
def new (username protocolId : String) : PurpleAccountRecord where
  username := username
  protocolId := protocolId
  password := none
  settings := ∅

/-- `purple_account_set_bool`, `purple_account_set_int` and `purple_account_set_string` -/
def set (account : PurpleAccountRecord) (name : String) (value : PurpleAccountSetting) :
    PurpleAccountRecord :=
  { account with settings := account.settings.insert name value }

/-- `purple_account_get_bool`: the default value for an option that is not set, or that has another
type. -/
def getBool (account : PurpleAccountRecord) (name : String) (defaultValue : Bool) : Bool :=
  match account.settings.lookup name with
  | some (.bool value) => value
  | _ => defaultValue

/-- `purple_account_get_int` -/
def getInt (account : PurpleAccountRecord) (name : String) (defaultValue : Int) : Int :=
  match account.settings.lookup name with
  | some (.int value) => value
  | _ => defaultValue

/-- `purple_account_get_string` -/
def getString (account : PurpleAccountRecord) (name : String) (defaultValue : Option String) :
    Option String :=
  match account.settings.lookup name with
  | some (.string value) => value
  | _ => defaultValue

end PurpleAccountRecord

/-! ## Strings -/

/-- `g_str_has_prefix` -/
def gStrHasPrefix (str pre : String) : Bool := decide (pre.toList <+: str.toList)

/-- `g_str_has_suffix` -/
def gStrHasSuffix (str suf : String) : Bool := decide (suf.toList <:+ str.toList)

/-- `g_strdelimit` with the one delimiter `_`, which becomes `-`. -/
def gStrdelimit (str : String) : String :=
  String.ofList (str.toList.map (fun c => if c = '_' then '-' else c))

/-- The string from its `n`th character on. -/
def skip (str : String) (n : Nat) : String := String.ofList (str.toList.drop n)

/-! ## Parameter specifications -/

/-- The types of the values of parameters. -/
inductive GType where
  | string
  | boolean
  | int
  | uint
  deriving DecidableEq

/-- The pointer that holds a default: nothing, `GINT_TO_POINTER`, or a string. -/
inductive Gconstpointer where
  | null
  | ofInt (n : Int32)
  | ofString (s : String)
  deriving DecidableEq

/-- `filter`, with `filter_data`. -/
inductive TpCMParamFilter where
  | noBlanks
  | stringList (values : List String)
  deriving DecidableEq

/-- `TpCMParamSpec` -/
structure TpCMParamSpec where
  name : String
  dtype : String
  gtype : GType
  /-- `TP_CONN_MGR_PARAM_FLAG_REQUIRED` -/
  required : Bool
  /-- `TP_CONN_MGR_PARAM_FLAG_HAS_DEFAULT` -/
  hasDefault : Bool
  /-- `TP_CONN_MGR_PARAM_FLAG_SECRET` -/
  secret : Bool
  defaultValue : Gconstpointer
  filter : Option TpCMParamFilter
  setterData : Option String
  deriving DecidableEq

namespace TpCMParamSpec

/-- A specification with nothing but a name, a type and setter data. -/
def new (name dtype : String) (gtype : GType) (setterData : Option String) : TpCMParamSpec where
  name := name
  dtype := dtype
  gtype := gtype
  required := false
  hasDefault := false
  secret := false
  defaultValue := .null
  filter := none
  setterData := setterData

/-- `cm_param_spec_set_default` -/
def setDefault (spec : TpCMParamSpec) (value : Gconstpointer) : TpCMParamSpec :=
  { spec with hasDefault := true, defaultValue := value }

/-- `cm_param_spec_set_default_bool` -/
def setDefaultBool (spec : TpCMParamSpec) (value : Bool) : TpCMParamSpec :=
  spec.setDefault (.ofInt (if value then 1 else 0))

/-- `_param_filter_no_blanks` -/
def filterNoBlanks (spec : TpCMParamSpec) (str : String) : Option GError :=
  if str = "" then
    some ⟨.invalidArgument, "Account parameter '" ++ spec.name ++ "' must not be empty"⟩
  else if ' ' ∈ str.toList then
    some ⟨.invalidArgument, "Account parameter '" ++ spec.name ++ "' may not contain spaces"⟩
  else none

/-- `_param_filter_string_list` -/
def filterStringList (spec : TpCMParamSpec) (values : List String) (str : String) :
    Option GError :=
  if str ∈ values then none
  else some ⟨.invalidArgument,
    "'" ++ str ++ "' is not a valid value for parameter '" ++ spec.name ++ "'"⟩

/-- The filter of a string parameter, with the error that it sets. -/
def filterError (spec : TpCMParamSpec) (str : String) : Option GError :=
  match spec.filter with
  | none => none
  | some .noBlanks => spec.filterNoBlanks str
  | some (.stringList values) => spec.filterStringList values str

end TpCMParamSpec

/-! ## Protocols -/

/-- `HazeParameterMapping` -/
structure HazeParameterMapping where
  purpleName : String
  telepathyName : String
  deriving DecidableEq

/-- "Function to call to add/remove param specs." -/
inductive KnownProtocolFixup where
  | jabber
  deriving DecidableEq

/-- `KnownProtocolInfo` -/
structure KnownProtocolInfo where
  tpProtocolName : String
  prplId : String
  parameterMap : List HazeParameterMapping
  fixup : Option KnownProtocolFixup
  deriving DecidableEq

/-- `encoding_to_charset` -/
def encodingToCharset : List HazeParameterMapping := [⟨"encoding", "charset"⟩]

/-- `irc_mappings` -/
def ircMappings : List HazeParameterMapping :=
  [⟨"encoding", "charset"⟩, ⟨"usersplit1", "server"⟩]

/-- `sametime_mappings` -/
def sametimeMappings : List HazeParameterMapping := [⟨"usersplit1", "server"⟩]

/-- `jabber_mappings` -/
def jabberMappings : List HazeParameterMapping :=
  [⟨"connect_server", "server"⟩, ⟨"require_tls", "require-encryption"⟩,
    -- "Mangle this specially."
    ⟨"connection_security", "IGNORE"⟩]

/-- `bonjour_mappings` -/
def bonjourMappings : List HazeParameterMapping :=
  [⟨"first", "first-name"⟩, ⟨"last", "last-name"⟩]

/-- `sipe_mappings` -/
def sipeMappings : List HazeParameterMapping := [⟨"usersplit1", "login"⟩]

/-- `yahoo_mappings` -/
def yahooMappings : List HazeParameterMapping := [⟨"local_charset", "charset"⟩]

/-- `known_protocol_info` -/
def knownProtocolInfo : List KnownProtocolInfo :=
  [⟨"aim", "prpl-aim", [], none⟩,
    ⟨"facebook", "prpl-bigbrownchunx-facebookim", [], none⟩,
    ⟨"gadugadu", "prpl-gg", [], none⟩,
    ⟨"groupwise", "prpl-novell", [], none⟩,
    ⟨"irc", "prpl-irc", ircMappings, none⟩,
    ⟨"icq", "prpl-icq", encodingToCharset, none⟩,
    ⟨"jabber", "prpl-jabber", jabberMappings, some .jabber⟩,
    ⟨"local-xmpp", "prpl-bonjour", bonjourMappings, none⟩,
    ⟨"msn", "prpl-msn", [], none⟩,
    ⟨"qq", "prpl-qq", [], none⟩,
    ⟨"sametime", "prpl-meanwhile", sametimeMappings, none⟩,
    ⟨"sipe", "prpl-sipe", sipeMappings, none⟩,
    ⟨"yahoo", "prpl-yahoo", yahooMappings, none⟩,
    ⟨"yahoojp", "prpl-yahoojp", yahooMappings, none⟩,
    ⟨"zephyr", "prpl-zephyr", encodingToCharset, none⟩,
    ⟨"mxit", "prpl-loubserp-mxit", [], none⟩,
    ⟨"sip", "prpl-simple", [], none⟩,
    ⟨"skype-dbus", "prpl-bigbrownchunx-skype-dbus", [], none⟩,
    ⟨"skype-x11", "prpl-bigbrownchunx-skype", [], none⟩]

/-- A protocol. -/
structure HazeProtocol where
  name : String
  prplId : String
  prplInfo : PurpleProtocolParameters
  knownProtocol : Option KnownProtocolInfo

namespace HazeProtocol

/-- The protocol that `haze_protocol_build_list` makes of a plugin. -/
def ofPlugin (prplId : String) (prplInfo : PurpleProtocolParameters) : HazeProtocol :=
  match knownProtocolInfo.find? (fun info => info.prplId = prplId) with
  | some info =>
      { name := info.tpProtocolName
        prplId := prplId
        prplInfo := prplInfo
        knownProtocol := some info }
  | none =>
      { name := if gStrHasPrefix prplId "prpl-" then skip prplId 5 else prplId
        prplId := prplId
        prplInfo := prplInfo
        knownProtocol := none }

/-- `haze_protocol_lookup_param` -/
def lookupParam (p : HazeProtocol) (purpleName : String) : Option HazeParameterMapping :=
  match p.knownProtocol with
  | none => none
  | some info => info.parameterMap.find? (fun m => m.purpleName = purpleName)

/-- The parameter of the `i`th user split. -/
def usersplit (i : Nat) : String := "usersplit" ++ toString i

/-- The specification that `_translate_protocol_usersplits` makes for the `i`th user split. -/
def usersplitSpec (p : HazeProtocol) (i : Nat) : TpCMParamSpec :=
  let name :=
    match p.lookupParam (usersplit i) with
    | some m => m.telepathyName
    | none => usersplit i
  { TpCMParamSpec.new name "s" .string (some (usersplit i)) with hasDefault := true }

/-- `_translate_protocol_usersplits`, which leaves the defaults of the splits out. -/
def translateProtocolUsersplits (p : HazeProtocol) : List TpCMParamSpec :=
  (List.range' 1 p.prplInfo.userSplits.length).map p.usersplitSpec

/-- What `_translate_protocol_option` makes of a name, renamed or not. -/
def cleanName (name : String) : String :=
  gStrdelimit (if gStrHasPrefix name "facebook_" then skip name 9 else name)

/-- The name that `_translate_protocol_option` gives to the parameter of the option `prefName`. -/
def optionName (p : HazeProtocol) (prefName : String) : String :=
  match p.lookupParam prefName with
  | some m => cleanName m.telepathyName
  | none => cleanName prefName

/-- The `switch` of `_translate_protocol_option`. -/
def translatePref (p : HazeProtocol) (option : PurpleAccountOption) (name : String) :
    Option TpCMParamSpec :=
  let setterData := some option.prefName
  match option.pref with
  | .boolean value =>
      some ((TpCMParamSpec.new name "b" .boolean setterData).setDefaultBool value)
  | .int value =>
      -- "The spec decrees that ports should be uint16"
      let spec :=
        if gStrHasSuffix name "port" then TpCMParamSpec.new name "q" .uint setterData
        else TpCMParamSpec.new name "i" .int setterData
      some (spec.setDefault (.ofInt value))
  | .string value =>
      let spec := TpCMParamSpec.new name "s" .string setterData
      if p.prplId = "prpl-bonjour" ∧ (name = "first-name" ∨ name = "last-name") then
        some { spec with required := true }
      else
        match value with
        | none => some spec
        | some value => some (if value = "" then spec else spec.setDefault (.ofString value))
  | .stringList values =>
      let spec : TpCMParamSpec :=
        { TpCMParamSpec.new name "s" .string setterData with
          filter := some (.stringList values.reverse) }
      match option.getDefaultListValue with
      | none => some spec
      | some value => some (if value = "" then spec else spec.setDefault (.ofString value))
  | .other => none

/-- `_translate_protocol_option` -/
def translateProtocolOption (p : HazeProtocol) (option : PurpleAccountOption) :
    Option TpCMParamSpec :=
  if (p.lookupParam option.prefName).map HazeParameterMapping.telepathyName = some "IGNORE" then
    none
  else
    match p.translatePref option (p.optionName option.prefName) with
    | none => none
    | some spec =>
        let spec := if spec.name = "server" then { spec with filter := some .noBlanks } else spec
        some (if gStrHasSuffix spec.name "-password" then { spec with secret := true } else spec)

/-- The option that `jabber_fixup` looks for. -/
def connectionSecurity (p : HazeProtocol) : Option PurpleAccountOption :=
  match p.knownProtocol with
  | some info =>
      if info.fixup = some .jabber then
        p.prplInfo.protocolOptions.find? (fun option => option.prefName = "connection_security")
      else none
  | none => none

/-- The specifications that `jabber_fixup` adds. When there are any, the protocol has
`HAZE_PROTOCOL_FLAG_JABBER_CONNECTION_SECURITY`. -/
def jabberFixup (p : HazeProtocol) : List TpCMParamSpec :=
  match p.connectionSecurity with
  | none => []
  | some option =>
      let oldSslSpec := TpCMParamSpec.new "old-ssl" "b" .boolean none
      let requireEncryptionSpec := TpCMParamSpec.new "require-encryption" "b" .boolean none
      let defaultCs := option.getDefaultListValue
      if defaultCs = some "old_ssl" then
        [oldSslSpec.setDefaultBool true, requireEncryptionSpec.setDefaultBool true]
      else if defaultCs = some "require_tls" then
        [oldSslSpec.setDefaultBool false, requireEncryptionSpec.setDefaultBool true]
      else if defaultCs = some "opportunistic_tls" then
        [oldSslSpec.setDefaultBool false, requireEncryptionSpec.setDefaultBool false]
      else [oldSslSpec, requireEncryptionSpec]

/-- `account_spec` -/
def accountSpec : TpCMParamSpec :=
  { TpCMParamSpec.new "account" "s" .string (some "account") with required := true }

/-- `password_spec` -/
def passwordSpec : TpCMParamSpec :=
  { TpCMParamSpec.new "password" "s" .string (some "password") with secret := true }

/-- The splits have parameters of their own. -/
def exposesSplits (p : HazeProtocol) : Prop :=
  p.prplInfo.userSplits ≠ [] ∧ p.lookupParam (usersplit 1) ≠ none

instance (p : HazeProtocol) : Decidable p.exposesSplits :=
  inferInstanceAs (Decidable (_ ∧ _))

/-- `haze_protocol_get_parameters` -/
def getParameters (p : HazeProtocol) : List TpCMParamSpec :=
  [accountSpec] ++
    -- "Translate user splits for protocols that have a mapping"
    (if p.exposesSplits then p.translateProtocolUsersplits else []) ++
    (if p.prplInfo.noPassword then [] else [passwordSpec]) ++
    p.prplInfo.protocolOptions.filterMap p.translateProtocolOption ++
    p.jabberFixup

/-! ## New connections -/

/-- The loop of `haze_protocol_translate_parameters` over the specifications, with the parameters
that are not used yet. -/
def translateLoop (asv : Asv) : List TpCMParamSpec → Asv → Asv → Asv × Asv
  | [], purpleParams, unused => (purpleParams, unused)
  | spec :: specs, purpleParams, unused =>
      match asv.lookup spec.name, spec.setterData with
      | some value, some prplParamName =>
          translateLoop asv specs (purpleParams.insert prplParamName value)
            (unused.erase spec.name)
      | _, _ => translateLoop asv specs purpleParams unused

/-- The value of Jabber's `connection_security`. -/
def securityOf (asv : Asv) : String :=
  if asv.tpAsvGetBoolean "old-ssl" then "old_ssl"
  else if asv.tpAsvGetBoolean "require-encryption" then "require_tls"
  else "opportunistic_tls"

/-- `haze_protocol_translate_parameters` -/
def translateParameters (p : HazeProtocol) (asv : Asv) : Except Fault Asv :=
  let (purpleParams, unused) := translateLoop asv p.getParameters ∅ asv
  let (purpleParams, unused) :=
    if p.connectionSecurity.isSome then
      (purpleParams.insert "connection_security" (.string (securityOf asv)),
        (unused.erase "old-ssl").erase "require-encryption")
    else (purpleParams, unused)
  if unused.entries = [] then .ok purpleParams else .error .assertion

/-- The loop of `haze_protocol_get_username` over the user splits, from the `i`th on. -/
def usernameLoop (removeParams : Bool) :
    List PurpleAccountUserSplit → Nat → String → Asv → Except Fault (String × Asv)
  | [], _, string, params => .ok (string, params)
  | split :: splits, i, string, params =>
      let string := string.push split.separator
      let rest := if removeParams then params.erase (usersplit i) else params
      match params.lookup (usersplit i) with
      | some (.string value) => usernameLoop removeParams splits (i + 1) (string ++ value) rest
      -- "tp-glib should guarantee that this is a string."
      | some _ => .error .assertion
      | none =>
          usernameLoop removeParams splits (i + 1) (string ++ split.defaultValue.getD "") rest

/-- `haze_protocol_get_username`, with what is left of the parameters. -/
def getUsername (params : Asv) (prplInfo : PurpleProtocolParameters) (removeParams : Bool) :
    Except Fault (Option String × Asv) :=
  match params.tpAsvGetString "account" with
  | none => .ok (none, params)
  | some account =>
      let named : Except Fault (String × Asv) :=
        if prplInfo.userSplits ≠ [] ∧ params.lookup (usersplit 1) ≠ none then
          usernameLoop removeParams prplInfo.userSplits 1 account params
        else .ok (account, params)
      match named with
      | .error fault => .error fault
      | .ok (username, params) =>
          .ok (some username, if removeParams then params.erase "account" else params)

/-- What `set_option` stores for an option. -/
def optionSetting (option : PurpleAccountOption) (params : Asv) : Option PurpleAccountSetting :=
  match option.pref with
  | .boolean _ => some (.bool (params.tpAsvGetBoolean option.prefName))
  | .int _ => some (.int (params.tpAsvGetInt32 option.prefName))
  | .string _ => some (.string (params.tpAsvGetString option.prefName))
  | .stringList _ => some (.string (params.tpAsvGetString option.prefName))
  | .other => none

/-- `set_option`, with what is left of the parameters. -/
def setOption (account : PurpleAccountRecord) (option : PurpleAccountOption) (params : Asv) :
    PurpleAccountRecord × Asv :=
  if params.lookup option.prefName = none then (account, params)
  else
    match optionSetting option params with
    | some setting => (account.set option.prefName setting, params.erase option.prefName)
    | none => (account, params.erase option.prefName)

/-- The loop of `haze_connection_create_account` over the options. -/
def setOptions : List PurpleAccountOption → PurpleAccountRecord → Asv → PurpleAccountRecord × Asv
  | [], account, params => (account, params)
  | option :: options, account, params =>
      let (account, params) := setOption account option params
      setOptions options account params

/-- `haze_connection_create_account`, with the parameters that nothing was done with.
`purpleAccountsFind` says whether there is an account. -/
def createAccount (purpleAccountsFind : String → String → Bool) (p : HazeProtocol)
    (username : String) (password : Option String) (params : Asv) :
    Except GError (PurpleAccountRecord × Asv) :=
  if purpleAccountsFind username p.prplId then
    .error ⟨.notAvailable,
      "a connection already exists to " ++ username ++ " on " ++ p.prplId⟩
  else
    let account := PurpleAccountRecord.new username p.prplId
    let account := { account with password := password }
    .ok (setOptions p.prplInfo.protocolOptions account params)

/-- `haze_protocol_new_connection`: no account and maybe an error, or the account of the
connection with the parameters that are left over. -/
def newConnection (purpleAccountsFind : String → String → Bool) (p : HazeProtocol) (asv : Asv) :
    Except Fault (Except (Option GError) (PurpleAccountRecord × Asv)) :=
  match p.translateParameters asv with
  | .error fault => .error fault
  | .ok purpleParams =>
      match getUsername purpleParams p.prplInfo true with
      | .error fault => .error fault
      | .ok (none, _) => .ok (.error none)
      | .ok (some username, purpleParams) =>
          let password := purpleParams.tpAsvGetString "password"
          let purpleParams :=
            if password ≠ none then purpleParams.erase "password" else purpleParams
          .ok ((createAccount purpleAccountsFind p username password purpleParams).mapError some)

end HazeProtocol

end Haze
