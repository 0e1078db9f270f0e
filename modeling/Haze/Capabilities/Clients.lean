import Haze.Capabilities.Model

set_option autoImplicit false

/-! # What the clients can do together

`UpdateCapabilities` records the flags of each client in a table and gives libpurple their
union. The flags of the client at position `i` of the call are read from the class at position
`i` of its list, over and over, so the union is right when that class stands for the whole list
(`Placed`), and an element past the end of the list may be read when it does not
(`clientFlags_right_iff`).
-/

namespace Haze.Capabilities

/-! ## Audio and video -/

/-- What a StreamedMedia channel may start with. -/
inductive Medium where
  | audio
  | video

namespace Medium

/-- `InitialAudio`, `InitialVideo` -/
def initial : Medium → String
  | audio => tpPropChannelTypeStreamedMediaInitialAudio
  | video => tpPropChannelTypeStreamedMediaInitialVideo

def capsFlags : Medium → CapsFlags
  | audio => capsFlagsAudio
  | video => capsFlagsVideo

def purpleCaps : Medium → PurpleMediaCaps
  | audio => purpleMediaCapsAudio
  | video => purpleMediaCapsVideo

def tpFlags : Medium → TpChannelMediaCapabilities
  | audio => tpChannelMediaCapabilityAudio
  | video => tpChannelMediaCapabilityVideo

end Medium

/-- A StreamedMedia class with the medium from the start. -/
def Declares (m : Medium) (cls : Asv) : Prop :=
  cls.tpAsvGetString tpPropChannelChannelType = some tpIfaceChannelTypeStreamedMedia ∧
    cls.tpAsvGetBoolean m.initial = true

instance (m : Medium) (cls : Asv) : Decidable (Declares m cls) :=
  inferInstanceAs (Decidable (_ ∧ _))

open CapabilityConnection

theorem has_addClass (m : Medium) (flags : CapsFlags) (cls : Asv) :
    Flags.Has (addClass flags cls) m.capsFlags ↔
      Flags.Has flags m.capsFlags ∨ Declares m cls := by
  unfold addClass Declares
  split
  · rename_i hne
    simp [hne]
  · rename_i heq
    rw [not_not] at heq
    cases m
    · simp [Flags.has_ite_or, Medium.capsFlags, Medium.initial, capsFlags_flags, heq]
    · simp [Flags.has_ite_or, Medium.capsFlags, Medium.initial, capsFlags_flags, heq]

theorem has_addClient (m : Medium) (caps : PurpleMediaCaps)
    (e : Sigma (fun _ : String => CapsFlags)) :
    Flags.Has (addClient caps e) m.purpleCaps ↔
      Flags.Has caps m.purpleCaps ∨ Flags.Has e.2 m.capsFlags := by
  unfold addClient
  cases m
  · simp [Flags.has_ite_or, Medium.capsFlags, Medium.purpleCaps, purpleMediaCaps_flags]
  · simp [Flags.has_ite_or, Medium.capsFlags, Medium.purpleCaps, purpleMediaCaps_flags]

/-! ## One client -/

theorem clientFlags_of_some {i : Nat} {rccs : List Asv} {cls : Asv} (h : rccs[i]? = some cls) :
    clientFlags i rccs =
      .ok ((List.range rccs.length).foldl (fun flags _ => addClass flags cls) 0#32) := by
  unfold clientFlags
  rw [h]
  exact List.foldlM_pure

theorem clientFlags_of_none {i : Nat} {rccs : List Asv} (h : rccs[i]? = none)
    (hne : rccs ≠ []) : clientFlags i rccs = .error ⟨i, rccs.length⟩ := by
  obtain ⟨n, hn⟩ : ∃ n, rccs.length = n + 1 :=
    Nat.exists_eq_succ_of_ne_zero (by simpa using hne)
  unfold clientFlags
  rw [h, hn, List.range_succ_eq_map, List.foldlM_cons]
  rfl

/-- The flags that are read say what the class at the client's own position declares. -/
theorem has_of_clientFlags {i : Nat} {rccs : List Asv} {flags : CapsFlags}
    (h : clientFlags i rccs = .ok flags) (m : Medium) :
    Flags.Has flags m.capsFlags ↔ ∃ cls, rccs[i]? = some cls ∧ Declares m cls := by
  cases hi : rccs[i]? with
  | some cls =>
      rw [clientFlags_of_some hi] at h
      cases h
      rw [Flags.has_foldl (fun flags _ => has_addClass m flags cls)]
      have hlen : i < rccs.length := (List.getElem?_eq_some_iff.mp hi).1
      have hpos : ∃ n, n < rccs.length := ⟨i, hlen⟩
      simp [hpos]
  | none =>
      have hnil : rccs = [] := by
        by_contra hne
        rw [clientFlags_of_none hi hne] at h
        cases h
      subst hnil
      cases h
      simp

/-- The class at the position of the client stands for its whole list. -/
def StandsAt (i : Nat) (rccs : List Asv) : Prop :=
  rccs = [] ∨ ∃ own, rccs[i]? = some own ∧
    ∀ m, (∃ cls ∈ rccs, Declares m cls) → Declares m own

/-- **The flags of one client.** No element past the end is read and the flags are those of the
whole list exactly when the class at the client's position stands for the list. -/
theorem clientFlags_right_iff (i : Nat) (rccs : List Asv) :
    (∃ flags, clientFlags i rccs = .ok flags ∧
      ∀ m, Flags.Has flags m.capsFlags ↔ ∃ cls ∈ rccs, Declares m cls) ↔ StandsAt i rccs := by
  constructor
  · rintro ⟨flags, hflags, hright⟩
    by_cases hnil : rccs = []
    · exact Or.inl hnil
    · cases hi : rccs[i]? with
      | none =>
          rw [clientFlags_of_none hi hnil] at hflags
          cases hflags
      | some own =>
          refine Or.inr ⟨own, hi, fun m hm => ?_⟩
          have hhas := (hright m).mpr hm
          rw [has_of_clientFlags hflags m] at hhas
          obtain ⟨cls, hcls, hdecl⟩ := hhas
          rw [hi] at hcls
          cases hcls
          exact hdecl
  · rintro (rfl | ⟨own, hown, hall⟩)
    · exact ⟨0#32, rfl, fun m => by simp⟩
    · have hflags := clientFlags_of_some hown
      refine ⟨_, hflags, fun m => ?_⟩
      rw [has_of_clientFlags hflags m]
      constructor
      · rintro ⟨cls, hcls, hdecl⟩
        exact ⟨cls, List.mem_of_getElem? hcls, hdecl⟩
      · intro hm
        exact ⟨own, hown, hall m hm⟩

/-! ## The table -/

/-- The flags that the table holds for a client; a client without flags is not in it. -/
def recorded (clientCaps : AList (fun _ : String => CapsFlags)) (name : String) : CapsFlags :=
  (clientCaps.lookup name).getD 0#32

/-- What libpurple is given is the union over the table. -/
theorem has_foldl_addClient (m : Medium) (clientCaps : AList (fun _ : String => CapsFlags)) :
    Flags.Has (clientCaps.entries.foldl addClient purpleMediaCapsNone) m.purpleCaps ↔
      ∃ name, Flags.Has (recorded clientCaps name) m.capsFlags := by
  rw [Flags.has_foldl (has_addClient m)]
  have hnone : ¬ Flags.Has purpleMediaCapsNone m.purpleCaps := Flags.not_has_zero
  simp only [hnone, false_or]
  constructor
  · rintro ⟨⟨name, flags⟩, hmem, hhas⟩
    have hlook : clientCaps.lookup name = some flags := AList.mem_lookup_iff.mpr hmem
    exact ⟨name, by rw [recorded, hlook]; exact hhas⟩
  · rintro ⟨name, hhas⟩
    cases hlook : clientCaps.lookup name with
    | none =>
        rw [recorded, hlook] at hhas
        exact absurd hhas Flags.not_has_zero
    | some flags =>
        rw [recorded, hlook] at hhas
        exact ⟨⟨name, flags⟩, AList.mem_lookup_iff.mp hlook, hhas⟩

/-- A client is recorded anew and the others are left alone. -/
theorem recorded_updateClient {clientCaps t : AList (fun _ : String => CapsFlags)}
    {e : ClientCaps × Nat} (h : updateClient clientCaps e = .ok t) :
    ∃ flags, clientFlags e.2 e.1.rccs = .ok flags ∧ ∀ name,
      recorded t name = if name = e.1.clientName then flags else recorded clientCaps name := by
  unfold updateClient at h
  cases hf : clientFlags e.2 e.1.rccs with
  | error fault =>
      rw [hf] at h
      cases h
  | ok flags =>
      refine ⟨flags, rfl, fun name => ?_⟩
      rw [hf] at h
      simp only [bind, Except.bind] at h
      split at h <;> rename_i hzero <;> cases h <;> unfold recorded
      · by_cases hname : name = e.1.clientName
        · subst hname
          simp
        · simp [hname, AList.lookup_insert_ne hname, AList.lookup_erase_ne hname]
      · by_cases hname : name = e.1.clientName
        · subst hname
          simpa using (not_not.mp hzero).symm
        · simp [hname, AList.lookup_erase_ne hname]

theorem updateClient_ok (clientCaps : AList (fun _ : String => CapsFlags))
    {e : ClientCaps × Nat} {flags : CapsFlags} (h : clientFlags e.2 e.1.rccs = .ok flags) :
    ∃ t, updateClient clientCaps e = .ok t := by
  unfold updateClient
  rw [h]
  simp only [bind, Except.bind]
  split
  · exact ⟨_, rfl⟩
  · exact ⟨_, rfl⟩

/-! ## The clients of a call -/

/-- The list a client declared last. -/
def latest (declared : List ClientCaps) (name : String) : Option (List Asv) :=
  ((declared.filter (fun c => c.clientName = name)).getLast?).map ClientCaps.rccs

theorem latest_concat (declared : List ClientCaps) (c : ClientCaps) (name : String) :
    latest (declared ++ [c]) name =
      if name = c.clientName then some c.rccs else latest declared name := by
  unfold latest
  by_cases hname : name = c.clientName
  · subst hname
    simp
  · have hne : ¬ c.clientName = name := fun h => hname h.symm
    simp [hname, hne]

/-- The table says of every client what its last list declares. -/
def TableRight (declared : List ClientCaps) (t : AList (fun _ : String => CapsFlags)) : Prop :=
  ∀ name m, Flags.Has (recorded t name) m.capsFlags ↔
    ∃ rccs, latest declared name = some rccs ∧ ∃ cls ∈ rccs, Declares m cls

theorem tableRight_empty : TableRight [] ∅ := by
  intro name m
  simp [recorded, latest]

theorem TableRight.updateClient {declared : List ClientCaps}
    {t : AList (fun _ : String => CapsFlags)} (h : TableRight declared t)
    {e : ClientCaps × Nat} (he : StandsAt e.2 e.1.rccs) :
    ∃ t', updateClient t e = .ok t' ∧ TableRight (declared ++ [e.1]) t' := by
  obtain ⟨flags, hflags, hright⟩ := (clientFlags_right_iff e.2 e.1.rccs).mpr he
  obtain ⟨t', ht'⟩ := updateClient_ok t hflags
  obtain ⟨flags', hflags', hrec⟩ := recorded_updateClient ht'
  rw [hflags] at hflags'
  cases hflags'
  refine ⟨t', ht', fun name m => ?_⟩
  rw [hrec name, latest_concat]
  split
  · rw [hright m]
    simp
  · exact h name m

theorem TableRight.foldlM {declared : List ClientCaps}
    {t : AList (fun _ : String => CapsFlags)} (h : TableRight declared t)
    {l : List (ClientCaps × Nat)} (hl : ∀ e ∈ l, StandsAt e.2 e.1.rccs) :
    ∃ t', l.foldlM CapabilityConnection.updateClient t = .ok t' ∧
      TableRight (declared ++ l.map Prod.fst) t' := by
  induction l generalizing declared t with
  | nil => exact ⟨t, rfl, by simpa using h⟩
  | cons e l ih =>
      obtain ⟨t₁, ht₁, h₁⟩ := h.updateClient (hl e (by simp))
      obtain ⟨t', ht', h'⟩ := ih h₁ (fun e' he' => hl e' (by simp [he']))
      refine ⟨t', ?_, ?_⟩
      · rw [List.foldlM_cons, ht₁]
        exact ht'
      · rw [List.append_assoc] at h'
        exact h'

/-- For every client of the call, the class at the client's position stands for its list. -/
def Placed (clients : List ClientCaps) : Prop :=
  ∀ i c, clients[i]? = some c → StandsAt i c.rccs

/-- What a call that reads no element past the end does to the connection. -/
theorem updateCapabilities_spec {s : CapabilityConnection} (hs : s.status = .connected)
    {clients : List ClientCaps} {t : AList (fun _ : String => CapsFlags)}
    (ht : clients.zipIdx.foldlM updateClient s.clientCaps = .ok t) :
    ∃ s', s.updateCapabilities clients = .ok s' ∧ s'.status = .connected ∧
      s'.clientCaps = t ∧ s'.uiCaps = t.entries.foldl addClient purpleMediaCapsNone := by
  unfold updateCapabilities
  rw [if_neg (not_not.mpr hs), ht]
  obtain ⟨calls, hcalls⟩ := emitCapabilitiesChanged_frame
    { s with clientCaps := t, uiCaps := t.entries.foldl addClient purpleMediaCapsNone }
    s.selfHandle s.uiCaps (t.entries.foldl addClient purpleMediaCapsNone)
  refine ⟨_, rfl, ?_, ?_, ?_⟩ <;> dsimp only [CapabilityConnection.call] <;> rw [hcalls]
  exact hs

/-! ## Runs -/

/-- The entries of all calls of `UpdateCapabilities`, in order. -/
def declarations : List CapabilityEvent → List ClientCaps
  | [] => []
  | .advertiseCapabilities _ _ :: es => declarations es
  | .updateCapabilities clients :: es => clients ++ declarations es

theorem declarations_append (es es' : List CapabilityEvent) :
    declarations (es ++ es') = declarations es ++ declarations es' := by
  induction es with
  | nil => rfl
  | cons e es ih =>
      cases e with
      | advertiseCapabilities add del => exact ih
      | updateCapabilities clients =>
          rw [List.cons_append, declarations, declarations, ih, List.append_assoc]

theorem declarations_map (calls : List (List ClientCaps)) :
    declarations (calls.map .updateCapabilities) = calls.flatten := by
  induction calls with
  | nil => rfl
  | cons clients calls ih => rw [List.map_cons, declarations, ih, List.flatten_cons]

/-- The state after calls of `UpdateCapabilities` alone. -/
structure Recorded (es : List CapabilityEvent) (s : CapabilityConnection) : Prop where
  connected : s.status = .connected
  table : TableRight (declarations es) s.clientCaps
  uiCaps : es ≠ [] → s.uiCaps = s.clientCaps.entries.foldl addClient purpleMediaCapsNone

theorem Recorded.step {es : List CapabilityEvent} {s : CapabilityConnection}
    (h : Recorded es s) {clients : List ClientCaps} (hplaced : Placed clients) :
    ∃ s', capabilities.step s (.updateCapabilities clients) = .ok s' ∧
      Recorded (es ++ [.updateCapabilities clients]) s' := by
  have hstands : ∀ e ∈ clients.zipIdx, StandsAt e.2 e.1.rccs := by
    intro e he
    exact hplaced e.2 e.1 (List.mem_zipIdx_iff_getElem?.mp he)
  obtain ⟨t, ht, htable⟩ := h.table.foldlM hstands
  obtain ⟨s', hs', hstatus, hcaps, hui⟩ := updateCapabilities_spec h.connected ht
  refine ⟨s', hs', hstatus, ?_, fun _ => ?_⟩
  · rw [declarations_append, hcaps, declarations, declarations, List.append_nil]
    rwa [List.zipIdx_map_fst] at htable
  · rw [hui, hcaps]

/-- **The union of the clients.** In every sequence of calls of `UpdateCapabilities` in which
the class at each client's position stands for the client's list, no element is read past the
end of a list, and libpurple ends with audio (video) exactly when the last list of some client
has a StreamedMedia class with `InitialAudio` (`InitialVideo`). -/
theorem updateCapabilities_union (selfHandle : Nat) (prplMediaCaps : Nat → PurpleMediaCaps)
    (uiCaps : PurpleMediaCaps) (calls : List (List ClientCaps))
    (hplaced : ∀ clients ∈ calls, Placed clients) (hne : calls ≠ []) :
    ∃ s, capabilities.run (CapabilityConnection.init selfHandle prplMediaCaps uiCaps)
        (calls.map .updateCapabilities) = .ok s ∧
      ∀ m : Medium, Flags.Has s.uiCaps m.purpleCaps ↔
        ∃ name rccs, latest calls.flatten name = some rccs ∧ ∃ cls ∈ rccs, Declares m cls := by
  have hinit : Recorded [] (CapabilityConnection.init selfHandle prplMediaCaps uiCaps) :=
    ⟨rfl, tableRight_empty, fun h => absurd rfl h⟩
  have hmeets : capabilities.Meets
      (fun _ e => ∃ clients, e = .updateCapabilities clients ∧ Placed clients)
      (CapabilityConnection.init selfHandle prplMediaCaps uiCaps)
      (calls.map .updateCapabilities) := by
    refine Machine.meets_of_forall (fun e he => ?_) _
    obtain ⟨clients, hmem, rfl⟩ := List.mem_map.mp he
    exact ⟨clients, rfl, hplaced clients hmem⟩
  obtain ⟨s, hrun, hs⟩ := Machine.run_ok_of_history (I := Recorded)
    (fun es s e hI hok => by
      obtain ⟨clients, rfl, hclients⟩ := hok
      exact hI.step hclients) hinit hmeets
  refine ⟨s, hrun, fun m => ?_⟩
  rw [hs.uiCaps (by simpa using hne), has_foldl_addClient, ← declarations_map]
  constructor
  · rintro ⟨name, hhas⟩
    obtain ⟨rccs, hrccs⟩ := (hs.table name m).mp hhas
    exact ⟨name, rccs, hrccs⟩
  · rintro ⟨name, rccs, hrccs⟩
    exact ⟨name, (hs.table name m).mpr ⟨rccs, hrccs⟩⟩

/-- A class of text channels. -/
def textClass : Asv :=
  AList.insert tpPropChannelChannelType (.string tpIfaceChannelTypeText) ∅

/-- A class of StreamedMedia channels with the medium from the start. -/
def mediaClass (m : Medium) : Asv :=
  AList.insert m.initial (.boolean true)
    (AList.insert tpPropChannelChannelType (.string tpIfaceChannelTypeStreamedMedia) ∅)

/-- The second client has its media class in the second place; the first one withdraws. -/
theorem updateCapabilities_union_two_clients :
    ∃ s, capabilities.run (CapabilityConnection.init 1 (fun _ => 0#32) 0#32)
        ([[⟨"A", [mediaClass .audio]⟩, ⟨"B", [textClass, mediaClass .video]⟩],
          [⟨"A", []⟩]].map CapabilityEvent.updateCapabilities) = .ok s ∧
      ∀ m : Medium, Flags.Has s.uiCaps m.purpleCaps ↔
        ∃ name rccs, latest [⟨"A", [mediaClass .audio]⟩, ⟨"B", [textClass, mediaClass .video]⟩,
          ⟨"A", []⟩] name = some rccs ∧ ∃ cls ∈ rccs, Declares m cls := by
  refine updateCapabilities_union 1 (fun _ => 0#32) 0#32 _ ?_ (List.cons_ne_nil _ _)
  intro clients hmem
  simp only [List.mem_cons, List.not_mem_nil, or_false] at hmem
  rcases hmem with rfl | rfl
  · intro i c hc
    rcases i with _ | _ | i
    · cases hc
      exact Or.inr ⟨mediaClass .audio, rfl, fun m => by cases m <;> decide⟩
    · cases hc
      exact Or.inr ⟨mediaClass .video, rfl, fun m => by cases m <;> decide⟩
    · cases hc
  · intro i c hc
    rcases i with _ | i
    · cases hc
      exact Or.inl rfl
    · cases hc

/-- Of the second client's list, which has one class, the second class is read; and a client
whose media class comes second does not count. -/
theorem updateCapabilities_misreads :
    capabilities.run (CapabilityConnection.init 1 (fun _ => 0#32) 0#32)
        [.updateCapabilities [⟨"A", [textClass]⟩, ⟨"B", [mediaClass .audio]⟩]] =
      .error ⟨1, 1⟩ ∧
    ∃ s, capabilities.run (CapabilityConnection.init 1 (fun _ => 0#32) 0#32)
        [.updateCapabilities [⟨"A", [textClass, mediaClass .audio]⟩]] = .ok s ∧
      latest [⟨"A", [textClass, mediaClass .audio]⟩] "A" = some [textClass, mediaClass .audio] ∧
      Declares .audio (mediaClass .audio) ∧
      ¬ Flags.Has s.uiCaps purpleMediaCapsAudio := by
  refine ⟨rfl, _, rfl, rfl, by decide, by decide⟩

end Haze.Capabilities
