import Haze.Basic.Registry
import Haze.Protocol.Names

set_option autoImplicit false

/-! # The protocols of the connection manager

`haze_protocol_build_list` makes a protocol of every plugin, and `_haze_cm_constructed` registers
them in a table keyed by their names. The name is the one that Haze knows for the plugin's id, or
the id without "prpl-", or the id itself. Nothing looks whether the name is taken: `Clash` says for
which two ids it is.
-/

namespace Haze

/-- A `PurplePlugin` of a protocol. -/
structure PurplePlugin where
  id : String
  prplInfo : PurpleProtocolParameters

/-- `haze_protocol_build_list` -/
def hazeProtocolBuildList (plugins : List PurplePlugin) : List HazeProtocol :=
  plugins.foldl (fun ret plugin => HazeProtocol.ofPlugin plugin.id plugin.prplInfo :: ret) []

/-- The table of protocols after `_haze_cm_constructed`: `tp_base_connection_manager_add_protocol`
for each of the list. -/
def hazeCmConstructed (plugins : List PurplePlugin) : AList (fun _ : String => HazeProtocol) :=
  Registry.registerAll HazeProtocol.name (hazeProtocolBuildList plugins) ∅

namespace HazeProtocol

variable {x y : String} {plugins : List PurplePlugin} {info : KnownProtocolInfo}

/-! ## Names -/

/-- The id is in `known_protocol_info`. -/
def Known (prplId : String) : Prop := ∃ info ∈ knownProtocolInfo, info.prplId = prplId

instance (prplId : String) : Decidable (Known prplId) :=
  inferInstanceAs (Decidable (∃ info ∈ knownProtocolInfo, info.prplId = prplId))

/-- The Telepathy name of the protocol of a plugin. -/
def tpName (prplId : String) : String :=
  match knownProtocolInfo.find? (fun info => info.prplId = prplId) with
  | some info => info.tpProtocolName
  | none => if gStrHasPrefix prplId "prpl-" then skip prplId 5 else prplId

theorem name_ofPlugin (prplId : String) (prplInfo : PurpleProtocolParameters) :
    (ofPlugin prplId prplInfo).name = tpName prplId := by
  unfold ofPlugin tpName
  cases knownProtocolInfo.find? (fun info => info.prplId = prplId) with
  | some info => rfl
  | none => rfl

/-- The entries of the table differ in their ids and in their names, and no name of the table looks
like an id. -/
theorem known_ids_nodup : (knownProtocolInfo.map KnownProtocolInfo.prplId).Nodup := by decide

theorem known_names_nodup : (knownProtocolInfo.map KnownProtocolInfo.tpProtocolName).Nodup := by
  decide

theorem known_names_unprefixed :
    ∀ info ∈ knownProtocolInfo, gStrHasPrefix info.tpProtocolName "prpl-" = false := by
  decide

/-- The search by id finds the entry. -/
theorem find_known (hinfo : info ∈ knownProtocolInfo) :
    knownProtocolInfo.find? (fun info' => info'.prplId = info.prplId) = some info := by
  cases hfind : knownProtocolInfo.find? (fun info' => info'.prplId = info.prplId) with
  | none => simpa using List.find?_eq_none.mp hfind info hinfo
  | some info' =>
      have hid : info'.prplId = info.prplId := by simpa using List.find?_some hfind
      rw [List.inj_on_of_nodup_map known_ids_nodup (List.mem_of_find?_eq_some hfind) hinfo hid]

theorem find_unknown (hx : ¬ Known x) :
    knownProtocolInfo.find? (fun info => info.prplId = x) = none := by
  rw [List.find?_eq_none]
  intro info hinfo hid
  exact hx ⟨info, hinfo, by simpa using hid⟩

theorem tpName_known (hinfo : info ∈ knownProtocolInfo) :
    tpName info.prplId = info.tpProtocolName := by
  simp only [tpName, find_known hinfo]

/-- "prpl-" before an id is taken off. -/
theorem hasPrefix_append (y : String) : gStrHasPrefix ("prpl-" ++ y) "prpl-" = true := by
  simp [gStrHasPrefix, String.toList_append]

theorem skip_append (y : String) : skip ("prpl-" ++ y) 5 = y := by
  have hdrop : ("prpl-" ++ y).toList.drop 5 = y.toList := by
    rw [String.toList_append]
    rfl
  rw [skip, hdrop, String.ofList_toList]

theorem eq_append_skip (h : gStrHasPrefix x "prpl-" = true) : x = "prpl-" ++ skip x 5 := by
  obtain ⟨rest, hrest⟩ := of_decide_eq_true h
  have hx : x = "prpl-" ++ String.ofList rest := by
    apply String.toList_inj.mp
    rw [String.toList_append, @String.toList_ofList rest, hrest]
  rw [hx, skip_append]

theorem tpName_prefixed (hx : ¬ Known ("prpl-" ++ x)) : tpName ("prpl-" ++ x) = x := by
  simp only [tpName, find_unknown hx, hasPrefix_append, if_true, skip_append]

theorem tpName_unprefixed (hx : ¬ Known x) (hpre : gStrHasPrefix x "prpl-" = false) :
    tpName x = x := by
  simp [tpName, find_unknown hx, hpre]

/-- The three rules. -/
theorem tpName_cases (x : String) :
    (∃ info ∈ knownProtocolInfo, info.prplId = x ∧ tpName x = info.tpProtocolName) ∨
    (¬ Known x ∧ x = "prpl-" ++ tpName x) ∨
    (¬ Known x ∧ gStrHasPrefix x "prpl-" = false ∧ tpName x = x) := by
  by_cases hx : Known x
  · obtain ⟨info, hinfo, rfl⟩ := hx
    exact Or.inl ⟨info, hinfo, rfl, tpName_known hinfo⟩
  · cases hpre : gStrHasPrefix x "prpl-" with
    | true =>
        have heq := eq_append_skip hpre
        have hname : tpName x = skip x 5 := by
          rw [heq] at hx
          rw [heq, tpName_prefixed hx, skip_append]
        exact Or.inr (Or.inl ⟨hx, by rw [hname]; exact heq⟩)
    | false => exact Or.inr (Or.inr ⟨hx, rfl, tpName_unprefixed hx hpre⟩)

/-! ## Clashes -/

/-- The id `y`, which Haze does not know, takes the name of `x`: Haze knows `x` by the name `y`, or
by the name that "prpl-" stands before in `y`; or `x` is "prpl-" before `y`. -/
def Clash (x y : String) : Prop :=
  (∃ info ∈ knownProtocolInfo, info.prplId = x ∧ ¬ Known y ∧
    (y = info.tpProtocolName ∨ y = "prpl-" ++ info.tpProtocolName)) ∨
  (¬ Known x ∧ ¬ Known y ∧ gStrHasPrefix y "prpl-" = false ∧ x = "prpl-" ++ y)

instance (x y : String) : Decidable (Clash x y) :=
  inferInstanceAs (Decidable (_ ∨ _))

theorem tpName_eq_of_clash (h : Clash x y) : tpName x = tpName y := by
  rcases h with ⟨info, hinfo, rfl, hy, rfl | rfl⟩ | ⟨hx, hy, hpre, rfl⟩
  · rw [tpName_known hinfo, tpName_unprefixed hy (known_names_unprefixed info hinfo)]
  · rw [tpName_known hinfo, tpName_prefixed hy]
  · rw [tpName_prefixed hx, tpName_unprefixed hy hpre]

theorem not_clash_self (x : String) : ¬ Clash x x := by
  rintro (⟨info, hinfo, rfl, hx, -⟩ | ⟨-, -, hpre, hx⟩)
  · exact hx ⟨info, hinfo, rfl⟩
  · rw [hx, hasPrefix_append] at hpre
    cases hpre

/-- Two ids have one name only when they clash. -/
theorem clash_of_tpName_eq (hne : x ≠ y) (h : tpName x = tpName y) : Clash x y ∨ Clash y x := by
  rcases tpName_cases x with ⟨i, hi, rfl, hx⟩ | ⟨hx, hpx⟩ | ⟨hx, hpx, hnx⟩ <;>
    rcases tpName_cases y with ⟨j, hj, rfl, hy⟩ | ⟨hy, hpy⟩ | ⟨hy, hpy, hny⟩
  · rw [hx, hy] at h
    exact absurd (List.inj_on_of_nodup_map known_names_nodup hi hj h ▸ rfl) hne
  · exact Or.inl (Or.inl ⟨i, hi, rfl, hy, Or.inr (by rw [← hx, h]; exact hpy)⟩)
  · exact Or.inl (Or.inl ⟨i, hi, rfl, hy, Or.inl (by rw [← hx, h, hny])⟩)
  · exact Or.inr (Or.inl ⟨j, hj, rfl, hx, Or.inr (by rw [← hy, ← h]; exact hpx)⟩)
  · rw [hpx, hpy, h] at hne
    exact absurd rfl hne
  · exact Or.inl (Or.inr ⟨hx, hy, hpy, by rw [← hny, ← h]; exact hpx⟩)
  · exact Or.inr (Or.inl ⟨j, hj, rfl, hx, Or.inl (by rw [← hy, ← h, hnx])⟩)
  · exact Or.inr (Or.inr ⟨hy, hx, hpx, by rw [← hnx, h]; exact hpy⟩)
  · rw [← hnx, ← hny, h] at hne
    exact absurd rfl hne

/-! ## The list and the table -/

/-- The list is built from its end. -/
theorem hazeProtocolBuildList_eq (plugins : List PurplePlugin) :
    hazeProtocolBuildList plugins =
      (plugins.map (fun plugin => ofPlugin plugin.id plugin.prplInfo)).reverse := by
  suffices hgen : ∀ ret, plugins.foldl
      (fun ret plugin => ofPlugin plugin.id plugin.prplInfo :: ret) ret =
        (plugins.map (fun plugin => ofPlugin plugin.id plugin.prplInfo)).reverse ++ ret by
    rw [hazeProtocolBuildList, hgen, List.append_nil]
  induction plugins with
  | nil => exact fun _ => rfl
  | cons plugin plugins ih =>
      intro ret
      rw [List.foldl_cons, ih, List.map_cons, List.reverse_cons, List.append_assoc]
      rfl

theorem prplId_ofPlugin (prplId : String) (prplInfo : PurpleProtocolParameters) :
    (ofPlugin prplId prplInfo).prplId = prplId := by
  unfold ofPlugin
  cases knownProtocolInfo.find? (fun info => info.prplId = prplId) with
  | some info => rfl
  | none => rfl

theorem mem_buildList {p : HazeProtocol} : p ∈ hazeProtocolBuildList plugins ↔
    ∃ plugin ∈ plugins, ofPlugin plugin.id plugin.prplInfo = p := by
  rw [hazeProtocolBuildList_eq, List.mem_reverse, List.mem_map]

/-- One protocol is made of each plugin, which keeps the id. -/
theorem ids_buildList (plugins : List PurplePlugin) :
    (hazeProtocolBuildList plugins).map HazeProtocol.prplId =
      (plugins.map PurplePlugin.id).reverse := by
  rw [hazeProtocolBuildList_eq, List.map_reverse, List.map_map]
  congr 1
  refine List.map_congr_left (fun plugin _ => ?_)
  exact prplId_ofPlugin plugin.id plugin.prplInfo

/-- No two of the installed ids clash. -/
def NoClash (plugins : List PurplePlugin) : Prop :=
  ∀ x ∈ plugins.map PurplePlugin.id, ∀ y ∈ plugins.map PurplePlugin.id, ¬ Clash x y

instance (plugins : List PurplePlugin) : Decidable (NoClash plugins) :=
  inferInstanceAs (Decidable (∀ x ∈ _, ∀ y ∈ _, ¬ Clash x y))

/-- Two protocols of the list with one name are one exactly when no ids clash. -/
theorem name_inj_iff (hids : (plugins.map PurplePlugin.id).Nodup) :
    (∀ p ∈ hazeProtocolBuildList plugins, ∀ q ∈ hazeProtocolBuildList plugins,
      p.name = q.name → p = q) ↔ NoClash plugins := by
  constructor
  · intro hinj x hx y hy hclash
    obtain ⟨plugin, hplugin, rfl⟩ := List.mem_map.mp hx
    obtain ⟨plugin', hplugin', rfl⟩ := List.mem_map.mp hy
    have hsame := hinj _ (mem_buildList.mpr ⟨plugin, hplugin, rfl⟩) _
      (mem_buildList.mpr ⟨plugin', hplugin', rfl⟩) (by
        rw [name_ofPlugin, name_ofPlugin, tpName_eq_of_clash hclash])
    have hid := congrArg HazeProtocol.prplId hsame
    rw [prplId_ofPlugin, prplId_ofPlugin] at hid
    rw [hid] at hclash
    exact not_clash_self _ hclash
  · intro hno p hp q hq hname
    obtain ⟨plugin, hplugin, rfl⟩ := mem_buildList.mp hp
    obtain ⟨plugin', hplugin', rfl⟩ := mem_buildList.mp hq
    rw [name_ofPlugin, name_ofPlugin] at hname
    have hmem := List.mem_map_of_mem (f := PurplePlugin.id) hplugin
    have hmem' := List.mem_map_of_mem (f := PurplePlugin.id) hplugin'
    by_cases hid : plugin.id = plugin'.id
    · rw [List.inj_on_of_nodup_map hids hplugin hplugin' hid]
    · rcases clash_of_tpName_eq hid hname with hclash | hclash
      · exact absurd hclash (hno _ hmem _ hmem')
      · exact absurd hclash (hno _ hmem' _ hmem)

/-- What the connection manager makes of the plugins that are installed. -/
structure KeepsNames (plugins : List PurplePlugin) : Prop where
  /-- one protocol for each plugin -/
  each : (hazeProtocolBuildList plugins).map HazeProtocol.prplId =
    (plugins.map PurplePlugin.id).reverse
  /-- a plugin that Haze knows has the name and the parameter map of its entry -/
  known : ∀ p ∈ hazeProtocolBuildList plugins, ∀ info ∈ knownProtocolInfo,
    info.prplId = p.prplId → p.name = info.tpProtocolName ∧ p.knownProtocol = some info
  /-- the names are distinct exactly when no ids clash -/
  distinct : ((hazeProtocolBuildList plugins).map HazeProtocol.name).Nodup ↔ NoClash plugins
  /-- and exactly then every protocol is in the table under its name -/
  registered : (∀ p ∈ hazeProtocolBuildList plugins,
    (hazeCmConstructed plugins).lookup p.name = some p) ↔ NoClash plugins

/-- **Every plugin gets a protocol, and a known one its own name.** The names are distinct, and all
protocols are registered, exactly when no two of the installed ids clash. -/
theorem keepsNames (plugins : List PurplePlugin) (hids : (plugins.map PurplePlugin.id).Nodup) :
    KeepsNames plugins where
  each := ids_buildList plugins
  known := by
    intro p hp info hinfo hid
    obtain ⟨plugin, -, rfl⟩ := mem_buildList.mp hp
    rw [prplId_ofPlugin] at hid
    rw [← hid, name_ofPlugin, tpName_known hinfo]
    refine ⟨rfl, ?_⟩
    unfold ofPlugin
    rw [find_known hinfo]
  distinct := by
    have hnodup : (hazeProtocolBuildList plugins).Nodup := by
      refine List.Nodup.of_map HazeProtocol.prplId ?_
      rw [ids_buildList]
      exact List.nodup_reverse.mpr hids
    rw [List.nodup_map_iff_inj_on hnodup, name_inj_iff hids]
  registered := Registry.keepsAll_iff.trans (name_inj_iff hids)

/-- A plugin without splits and options. -/
def bareParameters : PurpleProtocolParameters where
  noPassword := false
  passwordOptional := false
  userSplits := []
  protocolOptions := []

/-- Jabber, and a plugin that Haze does not know. -/
theorem keepsNames_jabber :
    NoClash [⟨"prpl-jabber", bareParameters⟩, ⟨"prpl-foo", bareParameters⟩] ∧
      KeepsNames [⟨"prpl-jabber", bareParameters⟩, ⟨"prpl-foo", bareParameters⟩] :=
  ⟨by decide, keepsNames _ (by decide)⟩

/-- Haze calls one of these plugins "facebook", and takes "prpl-" off the id of the other. -/
theorem facebook_clashes : ¬ ∀ plugins : List PurplePlugin,
    (plugins.map PurplePlugin.id).Nodup →
    ((hazeProtocolBuildList plugins).map HazeProtocol.name).Nodup := by
  intro hall
  have hnames := hall [⟨"prpl-bigbrownchunx-facebookim", bareParameters⟩,
    ⟨"prpl-facebook", bareParameters⟩] (by decide)
  exact absurd hnames (by decide)

end HazeProtocol

end Haze
