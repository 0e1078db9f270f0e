import Haze.Telepathy.Asv
import Mathlib.Tactic.IntervalCases

set_option autoImplicit false

/-! # `connection-presence.c`

The statuses of Haze, numbered by `HazeStatusIndex`, against the status types of libpurple,
each of which has a primitive. Setting one's own status goes from the index to a primitive and
from it to a status type of the account; reporting it goes from the type's primitive to an
index. The message is stored as it is and is read back as HTML.
-/

namespace Haze

/-! ## The tables -/

/-- `PurpleStatusPrimitive` -/
inductive PurpleStatusPrimitive where
  | unset
  | offline
  | available
  | unavailable
  | invisible
  | away
  | extendedAway
  | mobile
  | tune
  | mood
  deriving DecidableEq

/-- The number of a primitive in the enumeration. -/
def PurpleStatusPrimitive.toNat : PurpleStatusPrimitive → Nat
  | unset => 0
  | offline => 1
  | available => 2
  | unavailable => 3
  | invisible => 4
  | away => 5
  | extendedAway => 6
  | mobile => 7
  | tune => 8
  | mood => 9

/-! `HazeStatusIndex` -/

def HAZE_STATUS_AVAILABLE : Nat := 0
def HAZE_STATUS_BUSY : Nat := 1
def HAZE_STATUS_AWAY : Nat := 2
def HAZE_STATUS_EXT_AWAY : Nat := 3
def HAZE_STATUS_INVISIBLE : Nat := 4
def HAZE_STATUS_OFFLINE : Nat := 5
def HAZE_STATUS_UNKNOWN : Nat := 6
def HAZE_NUM_STATUSES : Nat := 7

/-- `primitives`, "Indexed by HazeStatusIndex" -/
def primitives : List PurpleStatusPrimitive :=
  [.available, .unavailable, .away, .extendedAway, .invisible, .unset]

/-- `status_indices`, "Indexed by PurpleStatusPrimitive" -/
def statusIndices : List Nat :=
  [HAZE_NUM_STATUSES, HAZE_STATUS_OFFLINE, HAZE_STATUS_AVAILABLE, HAZE_STATUS_BUSY,
    HAZE_STATUS_INVISIBLE, HAZE_STATUS_AWAY, HAZE_STATUS_EXT_AWAY]

/-! ## Statuses -/

/-- A `PurpleStatusType` -/
structure PurpleStatusType where
  id : String
  primitive : PurpleStatusPrimitive
  deriving DecidableEq

/-- A `PurpleStatus`, with its "message" attribute. -/
structure PurpleStatus where
  type : PurpleStatusType
  message : Option String
  deriving DecidableEq

/-- A `TpPresenceStatus` -/
structure TpPresenceStatus where
  index : Nat
  optionalArguments : Option Asv

/-- How libpurple reads entities: `purple_markup_unescape_entity`, on what follows an `&`, gives
the text that the entity stands for, which is shorter, and how many of the letters belong to
it. -/
structure PurpleMarkup where
  unescapeEntity : List Char → Option (List Char × Nat)
  unescapeEntity_le : ∀ s d k, unescapeEntity s = some (d, k) → d.length ≤ k ∧ k ≤ s.length

/-- What is left of HTML text, the first letters of which are skipped. -/
def PurpleMarkup.stripFrom (M : PurpleMarkup) : Nat → List Char → List Char
  | _, [] => []
  | k + 1, _ :: s => M.stripFrom k s
  | 0, c :: s =>
      -- everything between `<` and `>` is removed
      if c = '<' ∧ '>' ∈ s then M.stripFrom (s.idxOf '>' + 1) s
      else match if c = '&' then M.unescapeEntity s else none with
        | some (d, k) => d ++ M.stripFrom k s
        | none => c :: M.stripFrom 0 s

/-- `purple_markup_strip_html` -/
def PurpleMarkup.purpleMarkupStripHtml (M : PurpleMarkup) (s : String) : String :=
  String.ofList (M.stripFrom 0 s.toList)

/-- What the presence code uses of a connection, of its account and of the buddy list. -/
structure PresenceConnection where
  markup : PurpleMarkup
  /-- the status types of the account, which libpurple knows by their ids -/
  statusTypes : List PurpleStatusType
  nodup_ids : (statusTypes.map PurpleStatusType.id).Nodup
  /-- `base_conn->self_handle` -/
  selfHandle : Nat
  /-- `tp_handle_is_valid` -/
  isValid : Nat → Bool
  /-- `tp_handle_inspect` -/
  inspect : Nat → String
  /-- the active status of the buddy of that name -/
  buddyStatus : String → Option PurpleStatus

namespace PresenceConnection

variable (C : PresenceConnection)

/-- The index that `_get_tp_status` finds for a primitive. -/
def indexOfPrimitive (prim : PurpleStatusPrimitive) : Nat :=
  -- "guess wildly rather than crashing"
  if prim.toNat ≤ 0 then HAZE_STATUS_AVAILABLE
  else (statusIndices[prim.toNat]?).getD HAZE_STATUS_AVAILABLE

/-- `_get_tp_status` -/
def getTpStatus (pStatus : Option PurpleStatus) : TpPresenceStatus :=
  match pStatus with
  | none => ⟨HAZE_STATUS_UNKNOWN, some ∅⟩
  | some status =>
      let arguments : Asv := match status.message with
        | some xhtml =>
            (∅ : Asv).insert "message" (.string (C.markup.purpleMarkupStripHtml xhtml))
        | none => ∅
      ⟨indexOfPrimitive status.type.primitive, some arguments⟩

/-- `purple_account_get_status_type_with_primitive` -/
def getStatusTypeWithPrimitive (prim : PurpleStatusPrimitive) : Option PurpleStatusType :=
  C.statusTypes.find? fun type => type.primitive = prim

/-- `_get_purple_status_id` -/
def getPurpleStatusId (index : Nat) : Except Fault (Option String) :=
  -- `g_assert (index < HAZE_NUM_STATUSES)`
  if HAZE_NUM_STATUSES ≤ index then .error .assertion
  else match primitives[index]? with
    | none => .error .outOfBounds
    | some prim => .ok ((C.getStatusTypeWithPrimitive prim).map PurpleStatusType.id)

/-- `_status_available` -/
def statusAvailable (index : Nat) : Except Fault Bool :=
  (C.getPurpleStatusId index).map Option.isSome

/-- `purple_account_set_status_list`: the account's active status. -/
def setStatusList (active : PurpleStatus) (statusId : String) (message : Option String) :
    PurpleStatus :=
  match C.statusTypes.find? fun type => type.id = statusId with
  | some type => ⟨type, message⟩
  | none => active

/-- `_set_own_status`, from one active status of the account to the next. -/
def setOwnStatus (active : PurpleStatus) (status : Option TpPresenceStatus) :
    Except Fault PurpleStatus := do
  let statusId ← match status with
    | some status => C.getPurpleStatusId status.index
    | none => .ok none
  let message := status.bind fun status =>
    status.optionalArguments.bind fun arguments => arguments.tpAsvGetString "message"
  -- "defaulting to 'available' status"
  return C.setStatusList active (statusId.getD "available") message

/-- The status that `_get_contact_statuses` finds for a handle. -/
def statusOf (active : PurpleStatus) (handle : Nat) : Option PurpleStatus :=
  if handle = C.selfHandle then some active else C.buddyStatus (C.inspect handle)

/-- `_get_contact_statuses` -/
def getContactStatuses (active : PurpleStatus) (contacts : List Nat) :
    Except Fault (Nat → Option TpPresenceStatus) :=
  contacts.foldlM (fun table handle =>
    if C.isValid handle = false then .error .assertion
    else .ok (Function.update table handle (some (C.getTpStatus (C.statusOf active handle)))))
    (fun _ => none)

/-- `haze_connection_presence_account_status_changed`: the handle and the status of the presence
update that is emitted. -/
def accountStatusChanged (uiData : Bool) (status : PurpleStatus) :
    Option (Nat × TpPresenceStatus) :=
  if uiData then some (C.selfHandle, C.getTpStatus (some status)) else none

/-! ## The round trip -/

/-- The index is one of Haze's statuses, and it is not refused. -/
def Offered (index : Nat) : Prop :=
  index < HAZE_NUM_STATUSES ∧ C.statusAvailable index ≠ .ok false

/-- What the status says. -/
def Says (status : TpPresenceStatus) (index : Nat) (message : String) : Prop :=
  status.index = index ∧
    ∃ arguments, status.optionalArguments = some arguments ∧
      arguments.tpAsvGetString "message" = some message

/-- The index is looked up in range, and after the status has been set it is reported with the
message, in answer to a request and in the presence update. -/
def RoundTrips (active : PurpleStatus) (index : Nat) (arguments : Asv) (message : String) :
    Prop :=
  (∃ prim, primitives[index]? = some prim) ∧
    ∃ active', C.setOwnStatus active (some ⟨index, some arguments⟩) = .ok active' ∧
      (∀ contacts, C.selfHandle ∈ contacts → (∀ h ∈ contacts, C.isValid h = true) →
        ∃ table status, C.getContactStatuses active' contacts = .ok table ∧
          table C.selfHandle = some status ∧ Says status index message) ∧
      ∃ status, C.accountStatusChanged true active' = some (C.selfHandle, status) ∧
        Says status index message

end PresenceConnection

/-- The text has something that the stripping of HTML removes or decodes: a `<` with a `>` after
it, or an entity. -/
def PurpleMarkup.HasMarkup (M : PurpleMarkup) (s : List Char) : Prop :=
  (∃ u v, s = u ++ '<' :: v ∧ '>' ∈ v) ∨ ∃ u v, s = u ++ '&' :: v ∧ M.unescapeEntity v ≠ none

/-! ## What is lost in the message -/

namespace PurpleMarkup

variable (M : PurpleMarkup)

/-- Markup begins with the letter `c`, before the text `s`. -/
def Begins (c : Char) (s : List Char) : Prop :=
  (c = '<' ∧ '>' ∈ s) ∨ (c = '&' ∧ M.unescapeEntity s ≠ none)

theorem hasMarkup_cons (c : Char) (s : List Char) :
    M.HasMarkup (c :: s) ↔ M.Begins c s ∨ M.HasMarkup s := by
  constructor
  · rintro (⟨u, v, heq, hv⟩ | ⟨u, v, heq, hv⟩)
    · cases u with
      | nil =>
          obtain ⟨rfl, rfl⟩ := List.cons.inj heq
          exact Or.inl (Or.inl ⟨rfl, hv⟩)
      | cons d u => exact Or.inr (Or.inl ⟨u, v, (List.cons.inj heq).2, hv⟩)
    · cases u with
      | nil =>
          obtain ⟨rfl, rfl⟩ := List.cons.inj heq
          exact Or.inl (Or.inr ⟨rfl, hv⟩)
      | cons d u => exact Or.inr (Or.inr ⟨u, v, (List.cons.inj heq).2, hv⟩)
  · rintro ((⟨rfl, hv⟩ | ⟨rfl, hv⟩) | (⟨u, v, rfl, hv⟩ | ⟨u, v, rfl, hv⟩))
    · exact Or.inl ⟨[], s, rfl, hv⟩
    · exact Or.inr ⟨[], s, rfl, hv⟩
    · exact Or.inl ⟨c :: u, v, rfl, hv⟩
    · exact Or.inr ⟨c :: u, v, rfl, hv⟩

/-- A letter that begins no markup stays. -/
theorem stripFrom_cons {c : Char} {s : List Char} (h : ¬ M.Begins c s) :
    M.stripFrom 0 (c :: s) = c :: M.stripFrom 0 s := by
  have htag : ¬ (c = '<' ∧ '>' ∈ s) := fun ht => h (Or.inl ht)
  have hentity : (if c = '&' then M.unescapeEntity s else none) = none := by
    split_ifs with hc
    · by_contra hne
      exact h (Or.inr ⟨hc, hne⟩)
    · rfl
  rw [stripFrom, if_neg htag, hentity]

theorem length_stripFrom_le (k : Nat) (s : List Char) :
    (M.stripFrom k s).length ≤ s.length - k := by
  induction s generalizing k with
  | nil => cases k <;> simp [stripFrom]
  | cons c s ih =>
      cases k with
      | succ k =>
          have hrest := ih k
          rw [stripFrom, List.length_cons]
          omega
      | zero =>
          rw [stripFrom, List.length_cons]
          by_cases htag : c = '<' ∧ '>' ∈ s
          · rw [if_pos htag]
            have hrest := ih (s.idxOf '>' + 1)
            omega
          · rw [if_neg htag]
            cases hentity : if c = '&' then M.unescapeEntity s else none with
            | none =>
                have hrest := ih 0
                show (c :: M.stripFrom 0 s).length ≤ s.length + 1 - 0
                rw [List.length_cons]
                omega
            | some dk =>
                have hle := M.unescapeEntity_le s dk.1 dk.2 (by
                  split_ifs at hentity
                  exact hentity)
                have hrest := ih dk.2
                show (dk.1 ++ M.stripFrom dk.2 s).length ≤ s.length + 1 - 0
                rw [List.length_append]
                omega

/-- Where markup begins, letters are lost. -/
theorem length_stripFrom_lt {c : Char} {s : List Char} (h : M.Begins c s) :
    (M.stripFrom 0 (c :: s)).length ≤ s.length := by
  rw [stripFrom]
  rcases h with htag | ⟨rfl, hentity⟩
  · rw [if_pos htag]
    have hrest := M.length_stripFrom_le (s.idxOf '>' + 1) s
    omega
  · obtain ⟨⟨d, k⟩, hdk⟩ := Option.ne_none_iff_exists'.mp hentity
    have hle := M.unescapeEntity_le s d k hdk
    have hrest := M.length_stripFrom_le k s
    rw [if_neg (fun htag => absurd htag.1 (by decide)), if_pos rfl, hdk]
    show (d ++ M.stripFrom k s).length ≤ s.length
    rw [List.length_append]
    omega

/-- **A message survives the stripping when it has no markup.** -/
theorem stripFrom_eq_self_iff (s : List Char) : M.stripFrom 0 s = s ↔ ¬ M.HasMarkup s := by
  induction s with
  | nil => simp [stripFrom, HasMarkup]
  | cons c s ih =>
      rw [hasMarkup_cons]
      by_cases h : M.Begins c s
      · have hlt := M.length_stripFrom_lt h
        constructor
        · intro heq
          rw [heq, List.length_cons] at hlt
          omega
        · intro hnot
          exact absurd (Or.inl h) hnot
      · rw [M.stripFrom_cons h, List.cons_inj_right, ih]
        simp [h]

theorem purpleMarkupStripHtml_eq_self_iff (s : String) :
    M.purpleMarkupStripHtml s = s ↔ ¬ M.HasMarkup s.toList := by
  rw [← M.stripFrom_eq_self_iff]
  unfold purpleMarkupStripHtml
  constructor
  · intro h
    have hlist := congrArg String.toList h
    rwa [String.toList_ofList] at hlist
  · intro h
    rw [h, String.ofList_toList]

end PurpleMarkup

/-! ## The way through the tables -/

/-- The table of indices takes a primitive back to its place in the table of primitives, but for
"offline", in whose place there is no primitive. -/
theorem indexOfPrimitive_eq_iff {index : Nat} {prim : PurpleStatusPrimitive}
    (h : primitives[index]? = some prim) :
    PresenceConnection.indexOfPrimitive prim = index ↔ index ≠ HAZE_STATUS_OFFLINE := by
  have hlt : index < 6 := (List.getElem?_eq_some_iff.mp h).1
  interval_cases index <;> cases h <;> decide

namespace PresenceConnection

variable {C : PresenceConnection}

theorem getTpStatus_message (type : PurpleStatusType) (message : String) :
    ∃ arguments, (C.getTpStatus (some ⟨type, some message⟩)).optionalArguments = some arguments ∧
      arguments.tpAsvGetString "message" =
        some (C.markup.purpleMarkupStripHtml message) := by
  exact ⟨_, rfl, Asv.tpAsvGetString_of_string (AList.lookup_insert _)⟩

/-- A status type is found again by its id. -/
theorem find_id {type : PurpleStatusType} (h : type ∈ C.statusTypes) :
    C.statusTypes.find? (fun t => t.id = type.id) = some type := by
  cases hfind : C.statusTypes.find? (fun t => t.id = type.id) with
  | none =>
      have hnot := List.find?_eq_none.mp hfind type h
      simp at hnot
  | some found =>
      have hid : found.id = type.id := by simpa using List.find?_some hfind
      have hmem := List.mem_of_find?_eq_some hfind
      rw [List.inj_on_of_nodup_map C.nodup_ids hmem h hid]

/-- An index that is offered: it is that of "unknown", which is looked up past the end of the
table, or there is a status type with its primitive. -/
theorem Offered.cases {index : Nat} (h : C.Offered index) :
    primitives[index]? = none ∧ index = HAZE_STATUS_UNKNOWN ∨
      ∃ prim type, primitives[index]? = some prim ∧ type ∈ C.statusTypes ∧
        type.primitive = prim ∧ C.getPurpleStatusId index = .ok (some type.id) := by
  obtain ⟨hlt, havailable⟩ := h
  have hassert : ¬ HAZE_NUM_STATUSES ≤ index := by omega
  unfold statusAvailable getPurpleStatusId at havailable
  unfold getPurpleStatusId
  rw [if_neg hassert] at havailable ⊢
  cases hprim : primitives[index]? with
  | none =>
      have hle : 6 ≤ index := List.getElem?_eq_none_iff.mp hprim
      have hlt : index < 7 := hlt
      exact Or.inl ⟨rfl, show index = 6 by omega⟩
  | some prim =>
      right
      rw [hprim] at havailable
      cases hfind : C.getStatusTypeWithPrimitive prim with
      | none =>
          have hoffered : (Except.ok ((C.getStatusTypeWithPrimitive prim).map
              PurpleStatusType.id) : Except Fault _).map Option.isSome ≠ .ok false := havailable
          rw [hfind] at hoffered
          exact absurd rfl hoffered
      | some type =>
          have hmem := List.mem_of_find?_eq_some hfind
          have htype : type.primitive = prim := by simpa using List.find?_some hfind
          refine ⟨prim, type, rfl, hmem, htype, ?_⟩
          show Except.ok ((C.getStatusTypeWithPrimitive prim).map PurpleStatusType.id) = _
          rw [hfind]
          rfl

/-- Every valid handle is in the table with its status. -/
theorem getContactStatuses_ok {active : PurpleStatus} {contacts : List Nat}
    (h : ∀ handle ∈ contacts, C.isValid handle = true) :
    ∃ table, C.getContactStatuses active contacts = .ok table ∧
      ∀ handle ∈ contacts, table handle = some (C.getTpStatus (C.statusOf active handle)) := by
  -- the table so far has each handle with its status or not at all
  suffices ∀ (done : List Nat) (table : Nat → Option TpPresenceStatus),
      (∀ handle ∈ done, table handle = some (C.getTpStatus (C.statusOf active handle))) →
      ∃ table', contacts.foldlM (fun table handle =>
        if C.isValid handle = false then (.error .assertion : Except Fault _)
        else .ok (Function.update table handle
          (some (C.getTpStatus (C.statusOf active handle))))) table = .ok table' ∧
        ∀ handle ∈ done ++ contacts,
          table' handle = some (C.getTpStatus (C.statusOf active handle)) by
    exact this [] (fun _ => none) (by simp)
  induction contacts with
  | nil =>
      intro done table hdone
      exact ⟨table, rfl, by simpa using hdone⟩
  | cons contact contacts ih =>
      intro done table hdone
      have hvalid : ¬ C.isValid contact = false := by simp [h contact List.mem_cons_self]
      obtain ⟨table', hrun, htable'⟩ := ih
        (fun handle hmem => h handle (List.mem_cons_of_mem contact hmem)) (done ++ [contact])
        (Function.update table contact (some (C.getTpStatus (C.statusOf active contact)))) (by
          intro handle hmem
          by_cases heq : handle = contact
          · rw [heq, Function.update_self]
          · rw [Function.update_of_ne heq]
            exact hdone handle (by simpa [heq] using hmem))
      refine ⟨table', ?_, by simpa using htable'⟩
      rw [List.foldlM_cons, if_neg hvalid]
      exact hrun

/-- **When one's own presence round-trips**: the status is neither "unknown" nor "offline", and
the message has no markup. -/
theorem roundTrips_iff {active : PurpleStatus} {index : Nat} {arguments : Asv}
    {message : String} (hoffered : C.Offered index)
    (hmessage : arguments.tpAsvGetString "message" = some message) :
    C.RoundTrips active index arguments message ↔
      index ≠ HAZE_STATUS_UNKNOWN ∧ index ≠ HAZE_STATUS_OFFLINE ∧
        ¬ C.markup.HasMarkup message.toList := by
  rcases hoffered.cases with ⟨hnone, rfl⟩ | ⟨prim, type, hprim, hmem, rfl, hid⟩
  · -- the lookup past the end
    constructor
    · rintro ⟨⟨prim, hprim⟩, -⟩
      rw [hnone] at hprim
      cases hprim
    · rintro ⟨hne, -⟩
      exact absurd rfl hne
  · have hknown : index ≠ HAZE_STATUS_UNKNOWN := by
      rintro rfl
      cases hprim
    have hset : C.setOwnStatus active (some ⟨index, some arguments⟩) =
        .ok ⟨type, some message⟩ := by
      unfold setOwnStatus
      simp only [hid, Option.bind_some, hmessage]
      show Except.ok (C.setStatusList active type.id (some message)) = _
      unfold setStatusList
      rw [find_id hmem]
    obtain ⟨stripped, hstripped, hget⟩ := C.getTpStatus_message type message
    -- what is reported of the status that was set
    have hsays : Says (C.getTpStatus (some ⟨type, some message⟩)) index message ↔
        index ≠ HAZE_STATUS_OFFLINE ∧ ¬ C.markup.HasMarkup message.toList := by
      rw [← indexOfPrimitive_eq_iff hprim, ← C.markup.purpleMarkupStripHtml_eq_self_iff]
      constructor
      · rintro ⟨hindex, read, hread, hsays⟩
        obtain rfl := Option.some.inj (hstripped.symm.trans hread)
        exact ⟨hindex, Option.some.inj (hget.symm.trans hsays)⟩
      · rintro ⟨hindex, hstrip⟩
        exact ⟨hindex, stripped, hstripped, by rw [hget, hstrip]⟩
    constructor
    · rintro ⟨-, active', hactive, -, status, hchanged, hreported⟩
      obtain rfl := Except.ok.inj (hset.symm.trans hactive)
      obtain rfl := (Prod.mk.inj (Option.some.inj hchanged)).2
      exact ⟨hknown, hsays.mp hreported⟩
    · rintro ⟨-, hright⟩
      have hreported := hsays.mpr hright
      refine ⟨⟨_, hprim⟩, _, hset, fun contacts hself hvalid => ?_, _, rfl, hreported⟩
      obtain ⟨table, htable, hall⟩ := getContactStatuses_ok hvalid
      have hentry := hall C.selfHandle hself
      unfold statusOf at hentry
      rw [if_pos rfl] at hentry
      exact ⟨table, _, htable, hentry, hreported⟩

end PresenceConnection

/-- Entities of which only `&lt;` and `&amp;` are known. -/
def plainMarkup : PurpleMarkup where
  unescapeEntity := fun s =>
    if "lt;".toList.isPrefixOf s then some (['<'], 3)
    else if "amp;".toList.isPrefixOf s then some (['&'], 4)
    else none
  unescapeEntity_le := by
    intro s d k h
    split_ifs at h with hlt hamp
    · cases h
      have hlength := (List.isPrefixOf_iff_prefix.mp hlt).length_le
      exact ⟨by simp, hlength⟩
    · cases h
      have hlength := (List.isPrefixOf_iff_prefix.mp hamp).length_le
      exact ⟨by simp, hlength⟩

/-- A connection whose account can be available or away. -/
def aliceAway : PresenceConnection where
  markup := plainMarkup
  statusTypes := [⟨"available", .available⟩, ⟨"away", .away⟩]
  nodup_ids := by decide
  selfHandle := 1
  isValid := fun _ => true
  inspect := fun _ => "alice"
  buddyStatus := fun _ => none

theorem offered_away : aliceAway.Offered HAZE_STATUS_AWAY := ⟨by decide, by decide⟩

/-- A message without markup. -/
theorem roundTrips_lunch :
    aliceAway.RoundTrips ⟨⟨"available", .available⟩, none⟩ HAZE_STATUS_AWAY
      ((∅ : Asv).insert "message" (.string "Out to lunch")) "Out to lunch" :=
  (PresenceConnection.roundTrips_iff offered_away (by decide)).mpr
    ⟨by decide, by decide, by
      rw [← PurpleMarkup.stripFrom_eq_self_iff]
      decide⟩

/-- A message in which something is taken for a tag, and the lookup of "unknown". -/
theorem message_loses_tag :
    aliceAway.statusAvailable HAZE_STATUS_UNKNOWN = .error .outOfBounds ∧
      aliceAway.Offered HAZE_STATUS_AWAY ∧
      ¬ aliceAway.RoundTrips ⟨⟨"available", .available⟩, none⟩ HAZE_STATUS_AWAY
        ((∅ : Asv).insert "message" (.string "1 < 2 > 0")) "1 < 2 > 0" := by
  refine ⟨rfl, offered_away, ?_⟩
  rintro ⟨-, active', hactive, -, status, hchanged, -, arguments, harguments, hmessage⟩
  obtain rfl : (⟨⟨"away", .away⟩, some "1 < 2 > 0"⟩ : PurpleStatus) = active' :=
    Except.ok.inj ((by rfl : aliceAway.setOwnStatus _ _ = .ok _).symm.trans hactive)
  obtain rfl := (Prod.mk.inj (Option.some.inj hchanged)).2
  obtain rfl := Option.some.inj harguments
  exact absurd hmessage (by decide)

end Haze
