import Haze.Protocol.Names

set_option autoImplicit false

/-! # The tables of parameters

What the loops over specifications, splits and options do to a table, read as what a name stands for
before and after. -/

namespace Haze

namespace HazeProtocol

variable {asv params params' purpleParams unused : Asv} {specs : List TpCMParamSpec}
  {key name : String}

theorem lookup_insert_eq (params : Asv) (key name : String) (value : GValue) :
    (params.insert name value).lookup key =
      if key = name then some value else params.lookup key := by
  by_cases h : key = name
  · rw [if_pos h, h, AList.lookup_insert]
  · rw [if_neg h, AList.lookup_insert_ne h]

theorem lookup_erase_eq (params : Asv) (key name : String) :
    (params.erase name).lookup key = if key = name then none else params.lookup key := by
  by_cases h : key = name
  · rw [if_pos h, h, AList.lookup_erase]
  · rw [if_neg h, AList.lookup_erase_ne h]

theorem eq_empty_of_lookup (h : ∀ key, params.lookup key = none) : params = ∅ := by
  have hkeys : params.keys = [] := by
    refine List.eq_nil_iff_forall_not_mem.mpr fun key hmem => ?_
    exact AList.lookup_eq_none.mp (h key) (AList.mem_keys.mp hmem)
  have hentries : params.entries = [] := List.map_eq_nil_iff.mp hkeys
  exact AList.ext hentries

/-! ## `haze_protocol_translate_parameters` -/

theorem lookup_translateLoop_of_not_mem (h : ∀ spec ∈ specs, spec.setterData ≠ some key) :
    (translateLoop asv specs purpleParams unused).1.lookup key = purpleParams.lookup key := by
  induction specs generalizing purpleParams unused with
  | nil => rfl
  | cons spec specs ih =>
      have hrest : ∀ spec ∈ specs, spec.setterData ≠ some key :=
        fun spec hspec => h spec (List.mem_cons_of_mem _ hspec)
      unfold translateLoop
      split
      · rename_i value setter _ hsetter
        rw [ih hrest, lookup_insert_eq]
        refine if_neg fun heq => h spec List.mem_cons_self ?_
        rw [hsetter, heq]
      · exact ih hrest

/-- When all parameters that are set as `key` are called `name`, that is the value of `key`. -/
theorem lookup_translateLoop_of_mem
    (hname : ∀ spec ∈ specs, spec.setterData = some key → spec.name = name)
    (hmem : ∃ spec ∈ specs, spec.setterData = some key) :
    (translateLoop asv specs purpleParams unused).1.lookup key =
      (asv.lookup name).or (purpleParams.lookup key) := by
  induction specs generalizing purpleParams unused with
  | nil =>
      obtain ⟨spec, hspec, -⟩ := hmem
      cases hspec
  | cons spec specs ih =>
      have hrest : ∀ spec ∈ specs, spec.setterData = some key → spec.name = name :=
        fun spec hspec => hname spec (List.mem_cons_of_mem _ hspec)
      -- the table when the first parameter has been dealt with
      have hloop : ∀ {t u : Asv}, (translateLoop asv specs t u).1.lookup key =
          if ∃ spec ∈ specs, spec.setterData = some key then (asv.lookup name).or (t.lookup key)
          else t.lookup key := by
        intro t u
        split
        · rename_i hlater
          exact ih hrest hlater
        · rename_i hnone
          refine lookup_translateLoop_of_not_mem fun spec hspec heq => hnone ⟨spec, hspec, heq⟩
      unfold translateLoop
      split
      · rename_i value setter hvalue hsetter
        rw [hloop, lookup_insert_eq]
        by_cases hkey : key = setter
        · have hspec : spec.name = name := hname spec List.mem_cons_self (by rw [hsetter, hkey])
          rw [hspec] at hvalue
          rw [if_pos hkey, hvalue]
          split
          · rfl
          · rfl
        · obtain ⟨spec', hspec', heq⟩ := hmem
          rcases List.mem_cons.mp hspec' with rfl | hspec'
          · rw [hsetter] at heq
            cases heq
            exact absurd rfl hkey
          · rw [if_pos ⟨spec', hspec', heq⟩, if_neg hkey]
      · rename_i hnot
        rw [hloop]
        split
        · rfl
        · rename_i hnone
          obtain ⟨spec', hspec', heq⟩ := hmem
          rcases List.mem_cons.mp hspec' with rfl | hspec'
          · have hnovalue : asv.lookup spec'.name = none := by
              cases hvalue : asv.lookup spec'.name with
              | none => rfl
              | some value => exact absurd heq (hnot value key hvalue)
            rw [hname spec' List.mem_cons_self heq] at hnovalue
            rw [hnovalue]
            rfl
          · exact absurd ⟨spec', hspec', heq⟩ hnone

/-- Only parameters that are not set as anything stay unused. -/
theorem unused_translateLoop {value : GValue}
    (h : (translateLoop asv specs purpleParams unused).2.lookup name = some value) :
    unused.lookup name = some value ∧
      ∀ spec ∈ specs, spec.name = name → asv.lookup name ≠ none → spec.setterData = none := by
  induction specs generalizing purpleParams unused with
  | nil => exact ⟨h, fun _ hspec => absurd hspec List.not_mem_nil⟩
  | cons spec specs ih =>
      unfold translateLoop at h
      split at h
      · obtain ⟨hunused, hrest⟩ := ih h
        rw [lookup_erase_eq] at hunused
        split at hunused
        · cases hunused
        · rename_i hne
          refine ⟨hunused, fun spec' hspec' hname' => ?_⟩
          rcases List.mem_cons.mp hspec' with rfl | hspec'
          · exact absurd hname'.symm hne
          · exact hrest spec' hspec' hname'
      · rename_i hnot
        obtain ⟨hunused, hrest⟩ := ih h
        refine ⟨hunused, fun spec' hspec' hname' hvalue => ?_⟩
        rcases List.mem_cons.mp hspec' with rfl | hspec'
        · cases hsetter : spec'.setterData with
          | none => rfl
          | some setter =>
              obtain ⟨value', hvalue'⟩ := Option.ne_none_iff_exists'.mp hvalue
              rw [← hname'] at hvalue'
              exact absurd hsetter (hnot value' setter hvalue')
        · exact hrest spec' hspec' hname' hvalue

/-! ## `haze_protocol_get_username` -/

/-- The separator and the value of each split, from the `i`th on. -/
def splitsText (value : Nat → PurpleAccountUserSplit → String) :
    List PurpleAccountUserSplit → Nat → String
  | [], _ => ""
  | split :: splits, i =>
      String.singleton split.separator ++ value i split ++ splitsText value splits (i + 1)

theorem splitsText_cons (value : Nat → PurpleAccountUserSplit → String)
    (split : PurpleAccountUserSplit) (splits : List PurpleAccountUserSplit) (i : Nat) :
    splitsText value (split :: splits) i =
      String.singleton split.separator ++ value i split ++ splitsText value splits (i + 1) := rfl

/-- The value of a split in a table, or its default. -/
def splitValue (params : Asv) (i : Nat) (split : PurpleAccountUserSplit) : String :=
  (params.tpAsvGetString (usersplit i)).getD (split.defaultValue.getD "")

theorem splitsText_congr {value value' : Nat → PurpleAccountUserSplit → String}
    {splits : List PurpleAccountUserSplit} {i : Nat}
    (h : ∀ j split, i ≤ j → j < i + splits.length → value j split = value' j split) :
    splitsText value splits i = splitsText value' splits i := by
  induction splits generalizing i with
  | nil => rfl
  | cons split splits ih =>
      rw [splitsText_cons, splitsText_cons, h i split (Nat.le_refl i) (by simp),
        ih fun j split' hj hj' => ?_]
      refine h j split' (by omega) ?_
      rw [List.length_cons]
      omega

/-- What the loop over the splits, from the `i`th on, makes of a table. -/
structure Named (i n : Nat) (params params' : Asv) : Prop where
  strings : ∀ j value, i ≤ j → j < i + n → params.lookup (usersplit j) = some value →
    ∃ s, value = .string s
  taken : ∀ j, i ≤ j → j < i + n → params'.lookup (usersplit j) = none
  kept : ∀ key, (∀ j, i ≤ j → j < i + n → key ≠ usersplit j) →
    params'.lookup key = params.lookup key

/-- One turn of the loop reads the value of one split, which is a string if there is any. -/
theorem usernameLoop_cons {split : PurpleAccountUserSplit} {splits : List PurpleAccountUserSplit}
    {i : Nat} {string : String} {result : String × Asv}
    (h : usernameLoop true (split :: splits) i string params = .ok result) :
    usernameLoop true splits (i + 1) (string.push split.separator ++ splitValue params i split)
        (params.erase (usersplit i)) = .ok result ∧
      ∀ value, params.lookup (usersplit i) = some value → ∃ s, value = .string s := by
  unfold usernameLoop at h
  dsimp only at h
  rw [if_pos rfl] at h
  unfold splitValue Asv.tpAsvGetString
  split at h
  · rename_i value hvalue
    rw [hvalue]
    refine ⟨h, fun value' hvalue' => ?_⟩
    cases hvalue'
    exact ⟨value, rfl⟩
  · cases h
  · rename_i hnone
    rw [hnone]
    exact ⟨h, fun value hvalue => by cases hvalue⟩

/-- A later split is another parameter. -/
theorem lookup_erase_usersplit {i j : Nat} (h : i + 1 ≤ j) :
    (params.erase (usersplit i)).lookup (usersplit j) = params.lookup (usersplit j) := by
  have hne : usersplit j ≠ usersplit i := by
    intro heq
    have hij := usersplit_injective heq
    omega
  rw [lookup_erase_eq, if_neg hne]

theorem splitsText_erase (splits : List PurpleAccountUserSplit) (i : Nat) :
    splitsText (splitValue (params.erase (usersplit i))) splits (i + 1) =
      splitsText (splitValue params) splits (i + 1) := by
  refine splitsText_congr fun j split hj _ => ?_
  rw [splitValue, splitValue, Asv.tpAsvGetString_congr (lookup_erase_usersplit hj)]

theorem Named.cons {i n : Nat} (h : Named (i + 1) n (params.erase (usersplit i)) params')
    (hstring : ∀ value, params.lookup (usersplit i) = some value → ∃ s, value = .string s) :
    Named i (n + 1) params params' := by
  refine ⟨fun j value hj hj' hvalue => ?_, fun j hj hj' => ?_, fun key hkey => ?_⟩
  · by_cases hij : j = i
    · rw [hij] at hvalue
      exact hstring value hvalue
    · rw [← lookup_erase_usersplit (by omega : i + 1 ≤ j)] at hvalue
      exact h.strings j value (by omega) (by omega) hvalue
  · by_cases hij : j = i
    · have hout : ∀ k, i + 1 ≤ k → k < i + 1 + n → usersplit i ≠ usersplit k := by
        intro k hk _ heq
        have hik := usersplit_injective heq
        omega
      rw [hij, h.kept (usersplit i) hout, lookup_erase_eq, if_pos rfl]
    · exact h.taken j (by omega) (by omega)
  · have hout : ∀ k, i + 1 ≤ k → k < i + 1 + n → key ≠ usersplit k :=
      fun k hk hk' => hkey k (by omega) (by omega)
    have hhead : key ≠ usersplit i := hkey i (Nat.le_refl i) (by omega)
    rw [h.kept key hout, lookup_erase_eq, if_neg hhead]

theorem usernameLoop_ok {splits : List PurpleAccountUserSplit} {i : Nat}
    {string username : String}
    (h : usernameLoop true splits i string params = .ok (username, params')) :
    username = string ++ splitsText (splitValue params) splits i ∧
      Named i splits.length params params' := by
  induction splits generalizing i string params with
  | nil =>
      cases h
      refine ⟨(String.append_empty).symm, fun j _ hj hj' => ?_, fun j hj hj' => ?_, fun _ _ => rfl⟩
      · rw [List.length_nil] at hj'
        omega
      · rw [List.length_nil] at hj'
        omega
  | cons split splits ih =>
      obtain ⟨hloop, hstring⟩ := usernameLoop_cons h
      obtain ⟨husername, hnamed⟩ := ih hloop
      refine ⟨?_, hnamed.cons hstring⟩
      rw [husername, splitsText_erase, splitsText_cons]
      refine String.ext ?_
      simp [String.toList_append, String.toList_push]

/-- The loop goes through when the values of the splits are strings. -/
theorem usernameLoop_total {splits : List PurpleAccountUserSplit} {i : Nat} {string : String}
    (h : ∀ j value, i ≤ j → j < i + splits.length → params.lookup (usersplit j) = some value →
      ∃ s, value = .string s) :
    ∃ result, usernameLoop true splits i string params = .ok result := by
  induction splits generalizing i string params with
  | nil => exact ⟨_, rfl⟩
  | cons split splits ih =>
      have hrest : ∀ j value, i + 1 ≤ j → j < i + 1 + splits.length →
          (params.erase (usersplit i)).lookup (usersplit j) = some value →
            ∃ s, value = .string s := by
        intro j value hj hj' hvalue
        rw [lookup_erase_eq] at hvalue
        split at hvalue
        · cases hvalue
        · refine h j value (by omega) ?_ hvalue
          rw [List.length_cons]
          omega
      unfold usernameLoop
      dsimp only
      rw [if_pos rfl]
      split
      · exact ih hrest
      · rename_i value hnot hvalue
        obtain ⟨s, rfl⟩ := h i value (Nat.le_refl i) (by simp) hvalue
        exact absurd rfl (hnot s)
      · exact ih hrest

/-! ## `haze_connection_create_account` -/

/-- What is stored for an option that has a value. -/
def stored : PurplePref → GValue → Option PurpleAccountSetting
  | .boolean _, .boolean b => some (.bool b)
  | .boolean _, _ => some (.bool false)
  | .int _, .int n => some (.int n)
  | .int _, .uint n => some (.int (if n < 0x80000000 then n else 0))
  | .int _, .uchar n => some (.int n)
  | .int _, .int64 n => some (.int (if -0x80000000 ≤ n ∧ n < 0x80000000 then n else 0))
  | .int _, .uint64 n => some (.int (if n < 0x80000000 then n else 0))
  | .int _, _ => some (.int 0)
  | .string _, .string s => some (.string (some s))
  | .string _, _ => some (.string none)
  | .stringList _, .string s => some (.string (some s))
  | .stringList _, _ => some (.string none)
  | .other, _ => none

theorem optionSetting_eq {option : PurpleAccountOption} {value : GValue}
    (h : params.lookup option.prefName = some value) :
    optionSetting option params = stored option.pref value := by
  unfold optionSetting Asv.tpAsvGetBoolean Asv.tpAsvGetInt32 Asv.tpAsvGetString
  rw [h]
  cases option.pref with
  | boolean default => cases value <;> rfl
  | int default => cases value <;> rfl
  | string default => cases value <;> rfl
  | stringList values => cases value <;> rfl
  | other => rfl

variable {account account' : PurpleAccountRecord} {options : List PurpleAccountOption}
  {option : PurpleAccountOption}

/-- What the loop over the options makes of an account and of the table. -/
structure Stored (options : List PurpleAccountOption) (account : PurpleAccountRecord)
    (params : Asv) (account' : PurpleAccountRecord) (params' : Asv) : Prop where
  username : account'.username = account.username
  protocolId : account'.protocolId = account.protocolId
  password : account'.password = account.password
  settings : ∀ option ∈ options, account'.settings.lookup option.prefName =
    ((params.lookup option.prefName).bind (stored option.pref)).or
      (account.settings.lookup option.prefName)
  others : ∀ key, key ∉ options.map PurpleAccountOption.prefName →
    account'.settings.lookup key = account.settings.lookup key
  params : ∀ key, params'.lookup key =
    if key ∈ options.map PurpleAccountOption.prefName then none else params.lookup key

theorem stored_setOption (option : PurpleAccountOption) (account : PurpleAccountRecord)
    (params : Asv) : Stored [option] account params (setOption account option params).1
      (setOption account option params).2 := by
  unfold setOption
  cases hvalue : params.lookup option.prefName with
  | none =>
      rw [if_pos rfl]
      refine ⟨rfl, rfl, rfl, fun option' hoption => ?_, fun _ _ => rfl, fun key => ?_⟩
      · rw [List.mem_singleton.mp hoption, hvalue]
        rfl
      · split
        · rename_i hkey
          rw [List.map_singleton, List.mem_singleton] at hkey
          rw [hkey, hvalue]
        · rfl
  | some value =>
      rw [if_neg (by simp), optionSetting_eq hvalue]
      have herase : ∀ key, (params.erase option.prefName).lookup key =
          if key ∈ [option].map PurpleAccountOption.prefName then none
          else params.lookup key := by
        intro key
        rw [lookup_erase_eq, List.map_singleton]
        simp only [List.mem_singleton]
      cases hsetting : stored option.pref value with
      | none =>
          refine ⟨rfl, rfl, rfl, fun option' hoption => ?_, fun _ _ => rfl, herase⟩
          rw [List.mem_singleton.mp hoption, hvalue, Option.bind_some, hsetting]
          rfl
      | some setting =>
          refine ⟨rfl, rfl, rfl, fun option' hoption => ?_, fun key hkey => ?_, herase⟩
          · rw [List.mem_singleton.mp hoption, hvalue, Option.bind_some, hsetting]
            exact AList.lookup_insert _
          · rw [List.map_singleton, List.mem_singleton] at hkey
            exact AList.lookup_insert_ne hkey

/-- Every option is stored once. -/
theorem stored_setOptions (h : (options.map PurpleAccountOption.prefName).Nodup) :
    Stored options account params (setOptions options account params).1
      (setOptions options account params).2 := by
  induction options generalizing account params with
  | nil => exact ⟨rfl, rfl, rfl, fun _ hmem => absurd hmem List.not_mem_nil, fun _ _ => rfl,
      fun _ => rfl⟩
  | cons option options ih =>
      rw [List.map_cons, List.nodup_cons] at h
      have hfirst := stored_setOption option account params
      have hrest : Stored options (setOption account option params).1
          (setOption account option params).2
          (setOptions (option :: options) account params).1
          (setOptions (option :: options) account params).2 := ih h.2
      have hmem : ∀ key, key ∈ [option].map PurpleAccountOption.prefName ↔
          key = option.prefName := by
        intro key
        rw [List.map_singleton, List.mem_singleton]
      refine
        { username := hrest.username.trans hfirst.username
          protocolId := hrest.protocolId.trans hfirst.protocolId
          password := hrest.password.trans hfirst.password
          settings := fun option' hoption => ?_
          others := fun key hkey => ?_
          params := fun key => ?_ }
      · rcases List.mem_cons.mp hoption with rfl | hoption
        · have hlater := hrest.others option'.prefName h.1
          exact hlater.trans (hfirst.settings option' (List.mem_singleton_self _))
        · have hne : option'.prefName ≠ option.prefName := by
            intro heq
            exact h.1 (heq ▸ List.mem_map.mpr ⟨option', hoption, rfl⟩)
          have hnot : option'.prefName ∉ [option].map PurpleAccountOption.prefName :=
            fun hin => hne ((hmem _).mp hin)
          refine (hrest.settings option' hoption).trans ?_
          rw [hfirst.params, if_neg hnot, hfirst.others _ hnot]
      · rw [List.map_cons, List.mem_cons, not_or] at hkey
        refine (hrest.others key hkey.2).trans (hfirst.others key fun hin => ?_)
        exact hkey.1 ((hmem key).mp hin)
      · refine (hrest.params key).trans ?_
        have hcons : key ∈ (option :: options).map PurpleAccountOption.prefName ↔
            key = option.prefName ∨ key ∈ options.map PurpleAccountOption.prefName := by
          rw [List.map_cons, List.mem_cons]
        rw [hfirst.params]
        by_cases hkey : key ∈ options.map PurpleAccountOption.prefName
        · rw [if_pos hkey, if_pos (hcons.mpr (Or.inr hkey))]
        · rw [if_neg hkey]
          by_cases hhead : key = option.prefName
          · rw [if_pos ((hmem key).mpr hhead), if_pos (hcons.mpr (Or.inl hhead))]
          · rw [if_neg (fun hin => hhead ((hmem key).mp hin)),
              if_neg (fun hin => (hcons.mp hin).elim hhead hkey)]

end HazeProtocol

end Haze
