import Haze.Basic.Numbered
import Haze.Protocol.Model

set_option autoImplicit false

/-! # The names of parameters

A parameter has a name for Telepathy and, as its setter data, one for libpurple. The first is a
function of the second (`name_of_setterData`): the names that Haze uses itself (`account`,
`password` and the user splits) would be translated to what they are. So when the translated names
are distinct, the names of the options are distinct, and none of them is taken by Haze.
-/

namespace Haze

/-- The default of an option that is a string, or one of a list of strings. -/
def PurplePref.stringDefault : PurplePref → Option (Option String)
  | .string default => some default
  | .stringList values => some values.head?
  | _ => none

/-- The check on the values of an option that is one of a list. -/
def PurplePref.filter : PurplePref → Option TpCMParamFilter
  | .stringList values => some (.stringList values.reverse)
  | _ => none

namespace HazeProtocol

variable {p : HazeProtocol} {spec : TpCMParamSpec} {option : PurpleAccountOption} {i : Nat}

/-- The Telepathy names of the account, the exposed splits, the password, the options, and the
parameters that are added in place of `connection_security`. -/
def translatedNames (p : HazeProtocol) : List String :=
  ["account"] ++
    (if p.exposesSplits then p.translateProtocolUsersplits.map TpCMParamSpec.name else []) ++
    (if p.prplInfo.noPassword then [] else ["password"]) ++
    p.prplInfo.protocolOptions.map (fun option => p.optionName option.prefName) ++
    p.jabberFixup.map TpCMParamSpec.name

/-- The translated names are pairwise distinct. -/
def Distinct (p : HazeProtocol) : Prop := p.translatedNames.Nodup

instance (p : HazeProtocol) : Decidable p.Distinct :=
  inferInstanceAs (Decidable (List.Nodup _))

/-- What Haze knows of the protocol is in its table. -/
def FromTable (p : HazeProtocol) : Prop :=
  ∀ info, p.knownProtocol = some info → info ∈ knownProtocolInfo

theorem fromTable_ofPlugin (prplId : String) (prplInfo : PurpleProtocolParameters) :
    (ofPlugin prplId prplInfo).FromTable := by
  intro info hinfo
  unfold ofPlugin at hinfo
  split at hinfo
  · rename_i found hfound
    cases hinfo
    exact List.mem_of_find?_eq_some hfound
  · cases hinfo

theorem lookupParam_eq_some {name : String} {m : HazeParameterMapping}
    (h : p.lookupParam name = some m) : ∃ info, p.knownProtocol = some info ∧
      m ∈ info.parameterMap ∧ m.purpleName = name := by
  unfold lookupParam at h
  split at h
  · cases h
  · rename_i info hinfo
    have hname := List.find?_some h
    exact ⟨info, hinfo, List.mem_of_find?_eq_some h, of_decide_eq_true hname⟩

/-! ## Names that are translated to themselves -/

theorem cleanName_eq_self {name : String} (h : '_' ∉ name.toList) : cleanName name = name := by
  have hpre : gStrHasPrefix name "facebook_" = false := by
    refine decide_eq_false fun hfound => h (hfound.subset ?_)
    decide
  have hmap : name.toList.map (fun c => if c = '_' then '-' else c) = name.toList := by
    have hsame : ∀ c ∈ name.toList, (if c = '_' then '-' else c) = c := by
      intro c hc
      refine if_neg fun heq => h ?_
      rwa [heq] at hc
    rw [List.map_congr_left hsame, List.map_id']
  have hskip : (if gStrHasPrefix name "facebook_" then skip name 9 else name) = name := by
    rw [hpre]
    rfl
  unfold cleanName gStrdelimit
  rw [hskip, hmap, String.ofList_toList]

/-- The names that are given by the table. -/
theorem cleanName_telepathyName : ∀ info ∈ knownProtocolInfo, ∀ m ∈ info.parameterMap,
    cleanName m.telepathyName = m.telepathyName := by
  decide

/-- The table renames neither the account nor the password. -/
theorem purpleName_ne : ∀ info ∈ knownProtocolInfo, ∀ m ∈ info.parameterMap,
    m.purpleName ≠ "account" ∧ m.purpleName ≠ "password" := by
  decide

theorem lookupParam_account (hp : p.FromTable) : p.lookupParam "account" = none := by
  cases hm : p.lookupParam "account" with
  | none => rfl
  | some m =>
      obtain ⟨info, hinfo, hmem, hname⟩ := lookupParam_eq_some hm
      exact absurd hname (purpleName_ne info (hp info hinfo) m hmem).1

theorem lookupParam_password (hp : p.FromTable) : p.lookupParam "password" = none := by
  cases hm : p.lookupParam "password" with
  | none => rfl
  | some m =>
      obtain ⟨info, hinfo, hmem, hname⟩ := lookupParam_eq_some hm
      exact absurd hname (purpleName_ne info (hp info hinfo) m hmem).2

theorem optionName_account (hp : p.FromTable) : p.optionName "account" = "account" := by
  unfold optionName
  rw [lookupParam_account hp]
  exact cleanName_eq_self (by decide)

theorem optionName_password (hp : p.FromTable) : p.optionName "password" = "password" := by
  unfold optionName
  rw [lookupParam_password hp]
  exact cleanName_eq_self (by decide)

theorem usersplit_injective : Function.Injective usersplit :=
  Numbered.append_toString_injective "usersplit"

theorem not_mem_usersplit (i : Nat) : '_' ∉ (usersplit i).toList :=
  Numbered.notMem_append_toString (by decide) (by decide) i

/-- A name that does not begin like the name of a split. -/
theorem ne_usersplit {name : String} (h : ¬ "usersplit".toList <+: name.toList) (i : Nat) :
    name ≠ usersplit i := by
  rintro rfl
  exact h ⟨Nat.toDigits 10 i, (Numbered.toList_append_toString _ i).symm⟩

/-- An option that is called like a split is translated like the split. -/
theorem optionName_usersplit (hp : p.FromTable) (i : Nat) :
    p.optionName (usersplit i) = (p.usersplitSpec i).name := by
  unfold optionName usersplitSpec
  cases hm : p.lookupParam (usersplit i) with
  | none => exact cleanName_eq_self (not_mem_usersplit i)
  | some m =>
      obtain ⟨info, hinfo, hmem, -⟩ := lookupParam_eq_some hm
      exact cleanName_telepathyName info (hp info hinfo) m hmem

/-! ## The specifications -/

theorem mem_getParameters : spec ∈ p.getParameters ↔ spec = accountSpec ∨
    (p.exposesSplits ∧ ∃ i, 1 ≤ i ∧ i ≤ p.prplInfo.userSplits.length ∧
      spec = p.usersplitSpec i) ∨
    (p.prplInfo.noPassword = false ∧ spec = passwordSpec) ∨
    (∃ option ∈ p.prplInfo.protocolOptions, p.translateProtocolOption option = some spec) ∨
    spec ∈ p.jabberFixup := by
  have hsplits : (spec ∈ if p.exposesSplits then p.translateProtocolUsersplits else []) ↔
      p.exposesSplits ∧ ∃ i, 1 ≤ i ∧ i ≤ p.prplInfo.userSplits.length ∧
        spec = p.usersplitSpec i := by
    split
    · rename_i hexposes
      unfold translateProtocolUsersplits
      rw [List.mem_map]
      constructor
      · rintro ⟨i, hi, rfl⟩
        rw [List.mem_range'_1] at hi
        exact ⟨hexposes, i, hi.1, by omega, rfl⟩
      · rintro ⟨-, i, hi, hi', rfl⟩
        exact ⟨i, List.mem_range'_1.mpr ⟨hi, by omega⟩, rfl⟩
    · rename_i hexposes
      simp [hexposes]
  have hpassword : (spec ∈ if p.prplInfo.noPassword then [] else [passwordSpec]) ↔
      p.prplInfo.noPassword = false ∧ spec = passwordSpec := by
    cases p.prplInfo.noPassword <;> simp
  unfold getParameters
  simp only [List.mem_append, List.mem_singleton, hsplits, hpassword, List.mem_filterMap, or_assoc]

/-- What `_translate_protocol_option` says of an option, without what it does for some names. -/
theorem translateProtocolOption_some (h : p.translateProtocolOption option = some spec) :
    ∃ bare, p.translatePref option (p.optionName option.prefName) = some bare ∧
      spec.name = bare.name ∧ spec.setterData = bare.setterData ∧ spec.gtype = bare.gtype ∧
      spec.hasDefault = bare.hasDefault ∧ spec.defaultValue = bare.defaultValue ∧
      spec.required = bare.required ∧ (spec.name ≠ "server" → spec.filter = bare.filter) := by
  unfold translateProtocolOption at h
  split at h
  · cases h
  · split at h
    · cases h
    · rename_i bare hbare
      refine ⟨bare, hbare, ?_⟩
      cases h
      split
      · rename_i hserver
        split
        · exact ⟨rfl, rfl, rfl, rfl, rfl, rfl, fun hne => absurd hserver hne⟩
        · exact ⟨rfl, rfl, rfl, rfl, rfl, rfl, fun hne => absurd hserver hne⟩
      · split
        · exact ⟨rfl, rfl, rfl, rfl, rfl, rfl, fun _ => rfl⟩
        · exact ⟨rfl, rfl, rfl, rfl, rfl, rfl, fun _ => rfl⟩

/-- **What the `switch` makes of an option**: for a string it is required, has no default, or has
one that is not empty. -/
theorem translatePref_cases {name : String} (h : p.translatePref option name = some spec) :
    (∃ value, option.pref = .boolean value ∧
      spec = (TpCMParamSpec.new name "b" .boolean (some option.prefName)).setDefaultBool value) ∨
    (∃ value, option.pref = .int value ∧
      spec = (if gStrHasSuffix name "port" then
          TpCMParamSpec.new name "q" .uint (some option.prefName)
        else TpCMParamSpec.new name "i" .int (some option.prefName)).setDefault (.ofInt value)) ∨
    ∃ default bare, option.pref.stringDefault = some default ∧
      bare = { TpCMParamSpec.new name "s" .string (some option.prefName) with
        filter := option.pref.filter } ∧
      (((name = "first-name" ∨ name = "last-name") ∧ spec = { bare with required := true }) ∨
        (default.getD "" = "" ∧ spec = bare) ∨
        (default.getD "" ≠ "" ∧ spec = bare.setDefault (.ofString (default.getD "")))) := by
  -- a default that is set unless it is empty
  have hset : ∀ (bare : TpCMParamSpec) (value : String),
      (if value = "" then bare else bare.setDefault (.ofString value)) = spec →
        (value = "" ∧ spec = bare) ∨ (value ≠ "" ∧ spec = bare.setDefault (.ofString value)) := by
    rintro bare value rfl
    by_cases hempty : value = ""
    · exact Or.inl ⟨hempty, if_pos hempty⟩
    · exact Or.inr ⟨hempty, if_neg hempty⟩
  unfold translatePref at h
  cases hpref : option.pref with
  | boolean value =>
      rw [hpref] at h
      exact Or.inl ⟨value, rfl, (Option.some.inj h).symm⟩
  | int value =>
      rw [hpref] at h
      exact Or.inr (Or.inl ⟨value, rfl, (Option.some.inj h).symm⟩)
  | string default =>
      rw [hpref] at h
      refine Or.inr (Or.inr ⟨default, _, rfl, rfl, ?_⟩)
      dsimp only at h
      split at h
      · rename_i hbonjour
        exact Or.inl ⟨hbonjour.2, (Option.some.inj h).symm⟩
      · cases default with
        | none => exact Or.inr (Or.inl ⟨rfl, (Option.some.inj h).symm⟩)
        | some value => exact Or.inr (hset _ value (Option.some.inj h))
  | stringList values =>
      have hlist : option.getDefaultListValue = values.head? := by
        unfold PurpleAccountOption.getDefaultListValue
        rw [hpref]
      rw [hpref, hlist] at h
      refine Or.inr (Or.inr ⟨values.head?, _, rfl, rfl, ?_⟩)
      cases values with
      | nil => exact Or.inr (Or.inl ⟨rfl, (Option.some.inj h).symm⟩)
      | cons value values => exact Or.inr (hset _ value (Option.some.inj h))
  | other =>
      rw [hpref] at h
      cases h

theorem translatePref_name {name : String} (h : p.translatePref option name = some spec) :
    spec.name = name ∧ spec.setterData = some option.prefName := by
  rcases translatePref_cases h with
    ⟨value, -, rfl⟩ | ⟨value, -, rfl⟩ | ⟨default, bare, -, rfl, hspec⟩
  · exact ⟨rfl, rfl⟩
  · split
    · exact ⟨rfl, rfl⟩
    · exact ⟨rfl, rfl⟩
  · rcases hspec with ⟨-, rfl⟩ | ⟨-, rfl⟩ | ⟨-, rfl⟩
    · exact ⟨rfl, rfl⟩
    · exact ⟨rfl, rfl⟩
    · exact ⟨rfl, rfl⟩

theorem name_of_option (h : p.translateProtocolOption option = some spec) :
    spec.name = p.optionName option.prefName ∧ spec.setterData = some option.prefName := by
  obtain ⟨bare, hbare, hname, hsetter, -⟩ := translateProtocolOption_some h
  obtain ⟨hname', hsetter'⟩ := translatePref_name hbare
  exact ⟨hname.trans hname', hsetter.trans hsetter'⟩

/-- The two parameters of the fixup are booleans that are not for libpurple. -/
theorem mem_jabberFixup (h : spec ∈ p.jabberFixup) :
    ∃ name, (name = "old-ssl" ∨ name = "require-encryption") ∧
      (spec = TpCMParamSpec.new name "b" .boolean none ∨
        ∃ value, spec = (TpCMParamSpec.new name "b" .boolean none).setDefaultBool value) := by
  unfold jabberFixup at h
  split at h
  · cases h
  · have hboth : ∀ {oldSsl requireEncryption : Bool},
        spec ∈ [(TpCMParamSpec.new "old-ssl" "b" .boolean none).setDefaultBool oldSsl,
          (TpCMParamSpec.new "require-encryption" "b" .boolean none).setDefaultBool
            requireEncryption] →
          ∃ name, (name = "old-ssl" ∨ name = "require-encryption") ∧
            (spec = TpCMParamSpec.new name "b" .boolean none ∨
              ∃ value, spec = (TpCMParamSpec.new name "b" .boolean none).setDefaultBool value) := by
      intro oldSsl requireEncryption hmem
      rcases List.mem_cons.mp hmem with rfl | hmem
      · exact ⟨"old-ssl", Or.inl rfl, Or.inr ⟨oldSsl, rfl⟩⟩
      · rw [List.mem_singleton.mp hmem]
        exact ⟨"require-encryption", Or.inr rfl, Or.inr ⟨requireEncryption, rfl⟩⟩
    dsimp only at h
    split at h
    · exact hboth h
    · split at h
      · exact hboth h
      · split at h
        · exact hboth h
        · rcases List.mem_cons.mp h with rfl | h
          · exact ⟨"old-ssl", Or.inl rfl, Or.inl rfl⟩
          · rw [List.mem_singleton.mp h]
            exact ⟨"require-encryption", Or.inr rfl, Or.inl rfl⟩

theorem setterData_of_jabberFixup (h : spec ∈ p.jabberFixup) :
    spec.setterData = none ∧ (spec.name = "old-ssl" ∨ spec.name = "require-encryption") := by
  obtain ⟨name, hname, rfl | ⟨value, rfl⟩⟩ := mem_jabberFixup h
  · exact ⟨rfl, hname⟩
  · exact ⟨rfl, hname⟩

/-- **The name of a parameter is a function of its setter data.** -/
theorem name_of_setterData (hp : p.FromTable) (h : spec ∈ p.getParameters) {key : String}
    (hkey : spec.setterData = some key) : spec.name = p.optionName key := by
  rcases mem_getParameters.mp h with
    rfl | ⟨-, i, -, -, rfl⟩ | ⟨-, rfl⟩ | ⟨option, -, hoption⟩ | hfixup
  · cases hkey
    exact (optionName_account hp).symm
  · cases hkey
    exact (optionName_usersplit hp i).symm
  · cases hkey
    exact (optionName_password hp).symm
  · obtain ⟨hname, hsetter⟩ := name_of_option hoption
    rw [hsetter] at hkey
    cases hkey
    exact hname
  · rw [(setterData_of_jabberFixup hfixup).1] at hkey
    cases hkey

/-! ## Distinct names -/

theorem Distinct.names (h : p.Distinct) : (p.getParameters.map TpCMParamSpec.name).Nodup := by
  refine List.Nodup.sublist ?_ h
  have hoptions : ((p.prplInfo.protocolOptions.filterMap p.translateProtocolOption).map
      TpCMParamSpec.name).Sublist
        (p.prplInfo.protocolOptions.map (fun option => p.optionName option.prefName)) := by
    induction p.prplInfo.protocolOptions with
    | nil => exact List.Sublist.refl _
    | cons option options ih =>
        cases hoption : p.translateProtocolOption option with
        | none =>
            rw [List.filterMap_cons_none hoption]
            exact ih.cons _
        | some spec =>
            rw [List.filterMap_cons_some hoption, List.map_cons, List.map_cons,
              (name_of_option hoption).1]
            exact ih.cons_cons _
  unfold getParameters translatedNames
  simp only [List.map_append]
  refine (((List.Sublist.refl _).append ?_).append ?_).append hoptions |>.append
    (List.Sublist.refl _)
  · split
    · exact List.Sublist.refl _
    · exact List.Sublist.refl _
  · split
    · exact List.Sublist.refl _
    · exact List.Sublist.refl _

/-- A parameter is known by its name. -/
theorem Distinct.eq_of_name (h : p.Distinct) {spec spec' : TpCMParamSpec}
    (hspec : spec ∈ p.getParameters) (hspec' : spec' ∈ p.getParameters)
    (hname : spec.name = spec'.name) : spec = spec' :=
  List.inj_on_of_nodup_map h.names hspec hspec' hname

/-- The options have different names in libpurple too. -/
theorem Distinct.prefNames (h : p.Distinct) :
    (p.prplInfo.protocolOptions.map PurpleAccountOption.prefName).Nodup := by
  have hoptions : (p.prplInfo.protocolOptions.map
      (fun option => p.optionName option.prefName)).Nodup := by
    unfold Distinct translatedNames at h
    exact (List.nodup_append.mp (List.nodup_append.mp h).1).2.1
  refine List.Nodup.of_map p.optionName ?_
  rw [List.map_map]
  exact hoptions

/-- The names of the account, the exposed splits and the password are not translated names of
options. -/
theorem Distinct.optionName_ne (h : p.Distinct) (hoption : option ∈ p.prplInfo.protocolOptions)
    {name : String} (hname : name ∈ ["account"] ++
      (if p.exposesSplits then p.translateProtocolUsersplits.map TpCMParamSpec.name else []) ++
      (if p.prplInfo.noPassword then [] else ["password"])) :
    p.optionName option.prefName ≠ name := by
  unfold Distinct translatedNames at h
  have happend := (List.nodup_append.mp (List.nodup_append.mp h).1).2.2
  exact (happend name hname _ (List.mem_map.mpr ⟨option, hoption, rfl⟩)).symm

theorem Distinct.ne_account (h : p.Distinct) (hp : p.FromTable)
    (hoption : option ∈ p.prplInfo.protocolOptions) : option.prefName ≠ "account" := by
  intro heq
  have hne : p.optionName option.prefName ≠ "account" := h.optionName_ne hoption (by simp)
  rw [heq, optionName_account hp] at hne
  exact hne rfl

theorem Distinct.ne_password (h : p.Distinct) (hp : p.FromTable)
    (hpassword : p.prplInfo.noPassword = false)
    (hoption : option ∈ p.prplInfo.protocolOptions) : option.prefName ≠ "password" := by
  intro heq
  have hne : p.optionName option.prefName ≠ "password" :=
    h.optionName_ne hoption (by simp [hpassword])
  rw [heq, optionName_password hp] at hne
  exact hne rfl

theorem Distinct.ne_usersplit (h : p.Distinct) (hp : p.FromTable) (hexposes : p.exposesSplits)
    (hoption : option ∈ p.prplInfo.protocolOptions) (hi : 1 ≤ i)
    (hi' : i ≤ p.prplInfo.userSplits.length) : option.prefName ≠ usersplit i := by
  intro heq
  have hname : (p.usersplitSpec i).name ∈
      p.translateProtocolUsersplits.map TpCMParamSpec.name := by
    rw [translateProtocolUsersplits, List.map_map]
    exact List.mem_map.mpr ⟨i, List.mem_range'_1.mpr ⟨hi, by omega⟩, rfl⟩
  have hne : p.optionName option.prefName ≠ (p.usersplitSpec i).name := by
    refine h.optionName_ne hoption ?_
    rw [if_pos hexposes]
    exact List.mem_append_left _ (List.mem_append_right _ hname)
  rw [heq, optionName_usersplit hp] at hne
  exact hne rfl

end HazeProtocol

end Haze
