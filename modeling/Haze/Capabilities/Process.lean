import Haze.Basic.Mirror
import Haze.Capabilities.Model

set_option autoImplicit false

/-! # The capabilities of several connections

The capabilities of the user interface belong to libpurple's media manager, of which there is one in
the process: what a client of one connection declares are the capabilities of the user on every
connection. A change is announced on the connection through which it was made, and on no other, so
the clients of a connection know its capabilities as long as the other connections do not change
them (`contactCapabilitiesChanged_tells_iff`).
-/

namespace Haze.Capabilities

open CapabilityConnection

/-- The connections of a process, named by `ι`. -/
structure CapabilityProcess (ι : Type*) where
  /-- each connection, apart from `uiCaps` -/
  connections : ι → CapabilityConnection
  /-- `purple_media_manager_get_ui_caps` -/
  uiCaps : PurpleMediaCaps

/-- What happens to the capabilities on a connection. -/
inductive ProcessEvent where
  | method (e : CapabilityEvent)
  /-- a contact has other capabilities, and libpurple emits "buddy-caps-changed" -/
  | buddyCapsChanged (contact : Nat) (caps oldcaps : PurpleMediaCaps)

namespace CapabilityProcess

variable {ι : Type*} [DecidableEq ι]

/-- A connection with the capabilities of the user interface. -/
def connection (s : CapabilityProcess ι) (i : ι) : CapabilityConnection :=
  { s.connections i with uiCaps := s.uiCaps }

/-- A connection has changed. -/
def write (s : CapabilityProcess ι) (i : ι) (c : CapabilityConnection) : CapabilityProcess ι where
  connections := Function.update s.connections i c
  uiCaps := c.uiCaps

/-- A contact of a connection has other capabilities. -/
def buddyCapsChanged (c : CapabilityConnection) (contact : Nat) (caps oldcaps : PurpleMediaCaps) :
    CapabilityConnection :=
  { c with prplMediaCaps := Function.update c.prplMediaCaps contact caps }.capsChangedCb contact
    caps oldcaps

end CapabilityProcess

open CapabilityProcess

/-- The connections of a process as a machine. -/
def capabilityProcess {ι : Type*} [DecidableEq ι] :
    Machine (CapabilityProcess ι) (ι × ProcessEvent) OutOfRange where
  step
    | s, (i, .method e) => ((s.connection i).step e).map (s.write i)
    | s, (i, .buddyCapsChanged contact caps oldcaps) =>
        .ok (s.write i (CapabilityProcess.buddyCapsChanged (s.connection i) contact caps oldcaps))

namespace CapabilityProcess

variable {ι : Type*} [DecidableEq ι] {s s' : CapabilityProcess ι} {i j : ι}

/-- GetContactCapabilities on a connection. -/
def query (i : ι) (s : CapabilityProcess ι) (handle : Nat) : List RequestableChannelClass :=
  (s.connection i).getHandleContactCapabilities handle

/-- A `ContactCapabilitiesChanged`. -/
def contactCapabilitiesOf : CapabilityCall → Option (Nat × List RequestableChannelClass)
  | .contactCapabilitiesChanged handle rccs => some (handle, rccs)
  | _ => none

/-- The `ContactCapabilitiesChanged` of a connection. -/
def emitted (i : ι) (s : CapabilityProcess ι) : List (Nat × List RequestableChannelClass) :=
  (s.connections i).calls.filterMap contactCapabilitiesOf

/-- Clients of the connection `i` are told what the event changes for them: it is one of their own
connection, or it leaves the classes of channels alone that the user can be asked for. And
libpurple does not pass over a change of a contact. -/
def Announced (i : ι) (s : CapabilityProcess ι) : ι × ProcessEvent → Prop
  | (j, .method e) => j = i ∨ ∀ s', capabilityProcess.step s (j, .method e) = .ok s' →
      s'.query i (s.connection i).selfHandle = s.query i (s.connection i).selfHandle
  | (j, .buddyCapsChanged contact caps oldcaps) => j = i →
      purpleCapsToTpFlags oldcaps = purpleCapsToTpFlags caps →
      (buddyCapsChanged (s.connection i) contact caps oldcaps).getHandleContactCapabilities
        contact = s.query i contact

/-! ## One connection -/

theorem emit_spec (c : CapabilityConnection) (handle : Nat) (old new : BitVec 32) :
    ∃ calls, c.emitCapabilitiesChanged handle old new = { c with calls := c.calls ++ calls } ∧
      calls.filterMap contactCapabilitiesOf =
        if old = new then [] else [(handle, c.getHandleContactCapabilities handle)] := by
  by_cases h : old = new
  · refine ⟨[], ?_, by rw [if_pos h]; rfl⟩
    rw [h, emitCapabilitiesChanged_self, List.append_nil]
  · rw [emitCapabilitiesChanged_ne c handle h, if_neg h]
    simp only [call, List.append_assoc]
    exact ⟨_, rfl, rfl⟩

/-- Handles have the classes that their capabilities give them. -/
theorem getHandleContactCapabilities_congr {c c' : CapabilityConnection} {handle : Nat}
    (h : purpleCapsToTpFlags (c'.mediaCaps handle) = purpleCapsToTpFlags (c.mediaCaps handle)) :
    c'.getHandleContactCapabilities handle = c.getHandleContactCapabilities handle := by
  unfold getHandleContactCapabilities
  rw [h]

/-- What a method may do to its connection, and what it tells its clients. -/
structure Says (c c' : CapabilityConnection) : Prop where
  selfHandle : c'.selfHandle = c.selfHandle
  prplMediaCaps : c'.prplMediaCaps = c.prplMediaCaps
  told : ∃ calls, c'.calls = c.calls ++ calls ∧
    calls.filterMap contactCapabilitiesOf =
      if c.uiCaps = c'.uiCaps then []
      else [(c.selfHandle, c'.getHandleContactCapabilities c.selfHandle)]

theorem says_call (c : CapabilityConnection) {ret : CapabilityCall}
    (hret : contactCapabilitiesOf ret = none) : Says c (c.call ret) where
  selfHandle := rfl
  prplMediaCaps := rfl
  told := by
    refine ⟨[ret], rfl, ?_⟩
    rw [List.filterMap_cons_none hret]
    exact (if_pos rfl).symm

/-- The capabilities of the user interface are set, the change is emitted and the method returns. -/
theorem says_emit (c : CapabilityConnection) (clientCaps : AList (fun _ : String => CapsFlags))
    (caps : PurpleMediaCaps) {ret : CapabilityCall} (hret : contactCapabilitiesOf ret = none) :
    Says c (({ c with clientCaps := clientCaps, uiCaps := caps }.emitCapabilitiesChanged
      c.selfHandle c.uiCaps caps).call ret) := by
  obtain ⟨calls, hcalls, htold⟩ := emit_spec
    { c with clientCaps := clientCaps, uiCaps := caps } c.selfHandle c.uiCaps caps
  rw [hcalls]
  refine { selfHandle := rfl, prplMediaCaps := rfl, told := ⟨calls ++ [ret], ?_, ?_⟩ }
  · show (c.calls ++ calls) ++ [ret] = _
    rw [List.append_assoc]
  · rw [List.filterMap_append, htold, List.filterMap_cons_none hret, List.filterMap_nil,
      List.append_nil]
    rfl

theorem says_method {c c' : CapabilityConnection} {e : CapabilityEvent} (h : c.step e = .ok c') :
    Says c c' := by
  cases e with
  | advertiseCapabilities add del =>
      have heq : c.advertiseCapabilities add del = c' := Except.ok.inj h
      unfold advertiseCapabilities at heq
      split_ifs at heq with hstatus
      · rw [← heq]
        exact says_call c rfl
      · rw [← heq]
        exact says_emit c c.clientCaps _ rfl
      · rw [← heq]
        exact says_emit c c.clientCaps _ rfl
  | updateCapabilities clients =>
      have heq : c.updateCapabilities clients = .ok c' := h
      unfold updateCapabilities at heq
      split_ifs at heq with hstatus
      · rw [← Except.ok.inj heq]
        exact says_call c rfl
      · obtain ⟨clientCaps, -, heq⟩ := Except.bind_eq_ok.mp heq
        rw [← Except.ok.inj heq]
        exact says_emit c clientCaps _ rfl

/-- Handles other than the user's own have their classes from libpurple. -/
theorem Says.other {c c' : CapabilityConnection} (h : Says c c') {handle : Nat}
    (hne : handle ≠ c.selfHandle) :
    c'.getHandleContactCapabilities handle = c.getHandleContactCapabilities handle := by
  apply getHandleContactCapabilities_congr
  unfold mediaCaps
  rw [h.selfHandle, if_neg hne, if_neg hne, h.prplMediaCaps]

/-- A method tells the clients of its connection what it changes for them. -/
theorem Says.tells {c c' : CapabilityConnection} (h : Says c c') :
    ∃ calls, c'.calls = c.calls ++ calls ∧
      Mirror.Tells c.getHandleContactCapabilities c'.getHandleContactCapabilities
        (calls.filterMap contactCapabilitiesOf) := by
  obtain ⟨calls, hcalls, htold⟩ := h.told
  refine ⟨calls, hcalls, ?_⟩
  rw [htold]
  split_ifs with hsame
  · refine Mirror.tells_nil.mpr fun handle => getHandleContactCapabilities_congr ?_
    unfold mediaCaps
    rw [h.selfHandle, h.prplMediaCaps, hsame]
  · exact Mirror.tells_singleton.mpr ⟨rfl, fun handle hne => h.other hne⟩

/-- A change of a contact is told exactly if libpurple does not report the capabilities that the
contact has now as those that it had. -/
theorem buddyCapsChanged_tells_iff (c : CapabilityConnection) (contact : Nat)
    (caps oldcaps : PurpleMediaCaps) :
    ∃ calls, (buddyCapsChanged c contact caps oldcaps).calls = c.calls ++ calls ∧
      (Mirror.Tells c.getHandleContactCapabilities
          (buddyCapsChanged c contact caps oldcaps).getHandleContactCapabilities
          (calls.filterMap contactCapabilitiesOf) ↔
        (purpleCapsToTpFlags oldcaps = purpleCapsToTpFlags caps →
          (buddyCapsChanged c contact caps oldcaps).getHandleContactCapabilities contact =
            c.getHandleContactCapabilities contact)) := by
  obtain ⟨calls, hcalls, htold⟩ := emit_spec
    { c with prplMediaCaps := Function.update c.prplMediaCaps contact caps } contact
    (purpleCapsToTpFlags oldcaps) (purpleCapsToTpFlags caps)
  have hchanged : buddyCapsChanged c contact caps oldcaps =
      { c with
        prplMediaCaps := Function.update c.prplMediaCaps contact caps
        calls := c.calls ++ calls } := hcalls
  have hother : ∀ handle, handle ≠ contact →
      (buddyCapsChanged c contact caps oldcaps).getHandleContactCapabilities handle =
        c.getHandleContactCapabilities handle := by
    intro handle hne
    apply getHandleContactCapabilities_congr
    rw [hchanged]
    unfold mediaCaps
    simp only [Function.update_of_ne hne]
  refine ⟨calls, by rw [hchanged], ?_⟩
  rw [htold]
  split_ifs with hsame
  · rw [Mirror.tells_nil]
    constructor
    · intro h _
      exact h contact
    · intro h handle
      by_cases hhandle : handle = contact
      · rw [hhandle]
        exact h hsame
      · exact hother handle hhandle
  · refine iff_of_true (Mirror.tells_singleton.mpr ⟨?_, hother⟩) fun h => absurd h hsame
    rw [hchanged]
    rfl

/-! ## The process -/

@[simp] theorem connection_write_self (s : CapabilityProcess ι) (i : ι) (c : CapabilityConnection) :
    (s.write i c).connection i = c := by
  simp [connection, write]

theorem connections_write_of_ne (s : CapabilityProcess ι) (c : CapabilityConnection) (h : j ≠ i) :
    (s.write j c).connections i = s.connections i := Function.update_of_ne h.symm _ _

/-- Another connection's change reaches this one through the capabilities of the user alone. -/
theorem connection_write_of_ne (s : CapabilityProcess ι) (c : CapabilityConnection) (h : j ≠ i) :
    (s.write j c).connection i = { s.connection i with uiCaps := c.uiCaps } := by
  rw [connection, connections_write_of_ne s c h]
  rfl

theorem uiCaps_buddyCapsChanged (c : CapabilityConnection) (contact : Nat)
    (caps oldcaps : PurpleMediaCaps) :
    (buddyCapsChanged c contact caps oldcaps).uiCaps = c.uiCaps := by
  obtain ⟨calls, hcalls, -⟩ := emit_spec
    { c with prplMediaCaps := Function.update c.prplMediaCaps contact caps } contact
    (purpleCapsToTpFlags oldcaps) (purpleCapsToTpFlags caps)
  rw [buddyCapsChanged, capsChangedCb, hcalls]

theorem query_write_of_ne (s : CapabilityProcess ι) (c : CapabilityConnection) (h : j ≠ i)
    {handle : Nat} (hne : handle ≠ (s.connection i).selfHandle) :
    (s.write j c).query i handle = s.query i handle := by
  rw [query, query, connection_write_of_ne s c h]
  apply getHandleContactCapabilities_congr
  exact congrArg purpleCapsToTpFlags ((if_neg hne).trans (if_neg hne).symm)

theorem emitted_write_of_ne (s : CapabilityProcess ι) (c : CapabilityConnection) (h : j ≠ i) :
    (s.write j c).emitted i = s.emitted i := by
  rw [emitted, connections_write_of_ne s c h]
  rfl

/-- The calls of a connection that changes. -/
theorem emitted_write_self (s : CapabilityProcess ι) {c : CapabilityConnection}
    {calls : List CapabilityCall} (h : c.calls = (s.connection i).calls ++ calls) :
    (s.write i c).emitted i = s.emitted i ++ calls.filterMap contactCapabilitiesOf := by
  have hcalls : ((s.write i c).connections i).calls = (s.connections i).calls ++ calls := by
    show (Function.update s.connections i c i).calls = _
    rw [Function.update_self]
    exact h
  rw [emitted, hcalls, List.filterMap_append]
  rfl

theorem query_write_self (s : CapabilityProcess ι) (i : ι) (c : CapabilityConnection) :
    (s.write i c).query i = c.getHandleContactCapabilities := by
  funext handle
  rw [query, connection_write_self]

/-- What one event does to the clients of a connection. -/
theorem says_step {e : ι × ProcessEvent} (h : capabilityProcess.step s e = .ok s') :
    ∃ new, s'.emitted i = s.emitted i ++ new ∧
      (Mirror.Tells (s.query i) (s'.query i) new ↔ Announced i s e) := by
  obtain ⟨j, e⟩ := e
  cases e with
  | method e =>
      obtain ⟨c, hc, rfl⟩ := Except.map_eq_ok.mp h
      by_cases hj : j = i
      · subst hj
        obtain ⟨calls, hcalls, htells⟩ := (says_method hc).tells
        refine ⟨_, emitted_write_self s hcalls, iff_of_true ?_ (Or.inl rfl)⟩
        rw [query_write_self]
        exact htells
      · refine ⟨[], by rw [emitted_write_of_ne s c hj, List.append_nil], ?_⟩
        rw [Mirror.tells_nil]
        constructor
        · intro hall
          refine Or.inr fun s' hs' => ?_
          rw [← Except.ok.inj (h.symm.trans hs')]
          exact hall _
        · intro hknown handle
          by_cases hself : handle = (s.connection i).selfHandle
          · rw [hself]
            exact hknown.resolve_left hj _ h
          · exact query_write_of_ne s c hj hself
  | buddyCapsChanged contact caps oldcaps =>
      cases h
      obtain ⟨calls, hcalls, hiff⟩ :=
        buddyCapsChanged_tells_iff (s.connection j) contact caps oldcaps
      by_cases hj : j = i
      · subst hj
        refine ⟨_, emitted_write_self s hcalls, ?_⟩
        rw [query_write_self]
        refine hiff.trans ⟨fun h _ => h, fun h => h rfl⟩
      · refine ⟨[], by rw [emitted_write_of_ne _ _ hj, List.append_nil], ?_⟩
        refine iff_of_true (Mirror.tells_nil.mpr fun handle => ?_) fun h => absurd h hj
        rw [query, query, connection_write_of_ne _ _ hj, uiCaps_buddyCapsChanged]
        rfl

/-- **When clients know the capabilities of contacts.** A client of a connection that has asked for
the capabilities of all contacts and follows ContactCapabilitiesChanged knows what
GetContactCapabilities would return in every state of a run exactly when no method on another
connection of the process changes the classes that the user can be asked for, and libpurple reports
a contact's capabilities whenever they change its classes. -/
theorem contactCapabilitiesChanged_tells_iff (i : ι) {s₀ : CapabilityProcess ι}
    (hs₀ : s₀.emitted i = []) (es : List (ι × ProcessEvent)) :
    (∀ es₁ es₂ s, es = es₁ ++ es₂ → capabilityProcess.run s₀ es₁ = .ok s →
      Mirror.Follows (query i) (emitted i) s₀ s) ↔
    capabilityProcess.Meets (Announced i) s₀ es := by
  refine Mirror.forall_prefix_follows_iff (fun s e f _ h => ?_) (fun _ _ _ _ h => says_step h) hs₀
    (Machine.meets_of_forall (fun _ _ => trivial) s₀)
  obtain ⟨j, e⟩ := e
  cases e with
  | method e => exact Or.inr fun s' hs' => by cases h.symm.trans hs'
  | buddyCapsChanged contact caps oldcaps => cases h

/-- Two connections, without any capabilities yet. -/
def twoConnections : CapabilityProcess Bool where
  connections _ := CapabilityConnection.init 1 (fun _ => purpleMediaCapsNone) purpleMediaCapsNone
  uiCaps := purpleMediaCapsNone

/-- A client advertises audio on one connection, then one on the other does too, and a contact of
the other connection gets video. -/
theorem contactCapabilitiesChanged_tells_two :
    twoConnections.emitted true = [] ∧
      ∀ es₁ es₂ s,
        [(true, ProcessEvent.method (.advertiseCapabilities
            [⟨tpIfaceChannelTypeStreamedMedia, tpChannelMediaCapabilityAudio⟩] [])),
          (false, ProcessEvent.method (.advertiseCapabilities
            [⟨tpIfaceChannelTypeStreamedMedia, tpChannelMediaCapabilityAudio⟩] [])),
          (false, ProcessEvent.buddyCapsChanged 2 purpleMediaCapsVideo purpleMediaCapsNone)] =
            es₁ ++ es₂ →
        capabilityProcess.run twoConnections es₁ = .ok s →
          Mirror.Follows (query true) (emitted true) twoConnections s := by
  refine ⟨rfl,
    (contactCapabilitiesChanged_tells_iff true rfl _).mpr ⟨Or.inl rfl, Or.inr ?_, ?_, trivial⟩⟩
  · intro s' hs'
    cases hs'
    decide
  · intro h
    cases h

end CapabilityProcess

end Haze.Capabilities
