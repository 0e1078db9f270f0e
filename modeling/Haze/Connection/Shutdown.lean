import Haze.Connection.Model

set_option autoImplicit false

/-! # Finishing the shutdown

`finish_shutdown` may destroy the connection, so it must be called once, when everything is
over, and not while libpurple is using the account. Three places lead to it: `shut_down` when
`purple_account_connect` was never called, and otherwise the idle that `disconnected_cb` adds.

`Owed` is the invariant. Before `purple_account_connect` is called nothing is owed until the
status is `DISCONNECTED`, and then the shutdown is finished at once. After it has been called
exactly one of three things is there: libpurple's connection, the idle, or the finished
shutdown. `connect_called` stands for "has been called" only after the call has returned, so
an error that is reported from inside it breaks the invariant; so does a prompt that ends with
a password when the status is `DISCONNECTED` already.
-/

namespace Haze

/-- A call of `finish_shutdown`, with whether libpurple was on the stack. -/
def ConnectionCall.finishes : ConnectionCall → Option Bool
  | .finishShutdown inPurple => some inPurple
  | _ => none

/-- A call of `purple_account_connect`, with the status in which it was made. -/
def ConnectionCall.connects : ConnectionCall → Option TpConnectionStatus
  | .purpleAccountConnect status => some status
  | _ => none

namespace HazeConnection

variable {s s' : HazeConnection}

/-- The calls of `finish_shutdown`. -/
def finishes (s : HazeConnection) : List Bool := s.calls.filterMap ConnectionCall.finishes

/-- The calls of `purple_account_connect`. -/
def connects (s : HazeConnection) : List TpConnectionStatus :=
  s.calls.filterMap ConnectionCall.connects

/-- The status is `DISCONNECTED` and, if `purple_account_connect` was called,
`disconnected_cb` and the idle it added have run. -/
def AtRest (s : HazeConnection) : Prop :=
  s.status = .disconnected ∧ (s.connects ≠ [] → ¬ s.online ∧ .finishShutdown ∉ s.idles)

/-- The shutdown is finished at most once, outside libpurple, and has been when the connection
is at rest. -/
structure FinishesOnce (s : HazeConnection) : Prop where
  once : s.finishes.length ≤ 1
  outside : ∀ inPurple ∈ s.finishes, inPurple = false
  finished : AtRest s → s.finishes.length = 1

/-! ## The invariant -/

/-- `purple_account_connect` has been called. -/
def Began (s : HazeConnection) : Prop := s.connectCalled ∨ .accountConnect ∈ s.stack

/-- What is left to do before the shutdown is finished. -/
structure Owed (s : HazeConnection) : Prop where
  outside : ∀ inPurple ∈ s.finishes, inPurple = false
  connects : s.connects ≠ [] ↔ Began s
  unconnected : ¬ Began s → ¬ s.online ∧ s.idles.count .finishShutdown = 0 ∧
    s.finishes.length = if s.status = .disconnected then 1 else 0
  connected : Began s →
    s.online.toNat + s.idles.count .finishShutdown + s.finishes.length = 1
  offline : Began s → ¬ s.online → s.status = .disconnected

theorem owed_init (prplInfo : PurplePluginProtocolInfo) (password : Option String) :
    Owed (init prplInfo password) where
  outside := by simp [finishes, init]
  connects := by simp [HazeConnection.connects, Began, init]
  unconnected := by simp [finishes, init]
  connected := by simp [Began, init]
  offline := by simp [Began, init]

theorem Owed.finishesOnce (hs : Owed s) : FinishesOnce s := by
  by_cases hbegan : Began s
  · have hcount := hs.connected hbegan
    refine ⟨by omega, hs.outside, fun hrest => ?_⟩
    obtain ⟨honline, hidle⟩ := hrest.2 (hs.connects.mpr hbegan)
    have hoffline : s.online.toNat = 0 := by simp [honline]
    have hnone : s.idles.count .finishShutdown = 0 := List.count_eq_zero.mpr hidle
    omega
  · obtain ⟨-, -, hlen⟩ := hs.unconnected hbegan
    refine ⟨?_, hs.outside, fun hrest => ?_⟩
    · rw [hlen]
      split <;> omega
    · rw [hlen, if_pos hrest.1]

/-! ## What leaves the shutdown alone -/

/-- Nothing that matters for the shutdown has changed. -/
structure SameShutdown (s s' : HazeConnection) : Prop where
  status : s'.status = s.status
  connectCalled : s'.connectCalled = s.connectCalled
  online : s'.online = s.online
  stack : .accountConnect ∈ s'.stack ↔ .accountConnect ∈ s.stack
  idles : s'.idles.count .finishShutdown = s.idles.count .finishShutdown
  finishes : s'.finishes = s.finishes
  connects : s'.connects = s.connects

theorem SameShutdown.trans {s'' : HazeConnection} (h : SameShutdown s s')
    (h' : SameShutdown s' s'') : SameShutdown s s'' :=
  ⟨h'.1.trans h.1, h'.2.trans h.2, h'.3.trans h.3, h'.4.trans h.4, h'.5.trans h.5,
    h'.6.trans h.6, h'.7.trans h.7⟩

theorem SameShutdown.began (h : SameShutdown s s') : Began s' ↔ Began s := by
  unfold Began
  rw [h.connectCalled, h.stack]

theorem Owed.same (hs : Owed s) (h : SameShutdown s s') : Owed s' where
  outside := by rw [h.finishes]; exact hs.outside
  connects := by rw [h.connects, h.began]; exact hs.connects
  unconnected := by
    rw [h.began, h.online, h.idles, h.finishes, h.status]
    exact hs.unconnected
  connected := by rw [h.began, h.online, h.idles, h.finishes]; exact hs.connected
  offline := by rw [h.began, h.online, h.status]; exact hs.offline

/-- A call other than `finish_shutdown` and `purple_account_connect`. -/
theorem sameShutdown_call (s : HazeConnection) {c : ConnectionCall}
    (hfinishes : c.finishes = none) (hconnects : c.connects = none) :
    SameShutdown s (s.call c) := by
  refine ⟨rfl, rfl, rfl, Iff.rfl, rfl, ?_, ?_⟩
  · simp [finishes, call, hfinishes]
  · simp [connects, call, hconnects]

theorem sameShutdown_closeRequest (s : HazeConnection) (fd : Nat) :
    SameShutdown s (s.closeRequest fd) :=
  (sameShutdown_call s (c := .closeRequest fd s.passwordRequest) rfl rfl).trans
    ⟨rfl, rfl, rfl, Iff.rfl, rfl, rfl, rfl⟩

theorem sameShutdown_purpleRequestClose (s : HazeConnection) (fd : Nat) :
    SameShutdown s (s.purpleRequestClose fd) := by
  unfold purpleRequestClose
  split
  · exact sameShutdown_closeRequest s fd
  · exact ⟨rfl, rfl, rfl, Iff.rfl, rfl, rfl, rfl⟩

theorem sameShutdown_runRequestCb (s : HazeConnection) (fd : Nat) (cb : Bool)
    {c : ConnectionCall} (hfinishes : c.finishes = none) (hconnects : c.connects = none) :
    SameShutdown s (s.runRequestCb fd cb c) := by
  unfold runRequestCb
  split
  · exact (sameShutdown_call s hfinishes hconnects).trans
      ⟨rfl, rfl, rfl, by simp [call], rfl, rfl, rfl⟩
  · exact sameShutdown_purpleRequestClose s fd

theorem sameShutdown_requestFieldsDestroy {fd : Nat}
    (h : s.requestFieldsDestroy fd = .ok s') : SameShutdown s s' := by
  unfold requestFieldsDestroy at h
  split at h
  · cases h
  · cases h
    exact sameShutdown_runRequestCb s fd _ rfl rfl

theorem sameShutdown_requestPasswordCb {fd : Nat} {password : Option String}
    (h : s.requestPasswordCb fd password = .ok s') : SameShutdown s s' := by
  have hcall := sameShutdown_call s (c := .requestPasswordCb fd password) rfl rfl
  simp only [requestPasswordCb] at h
  split at h
  · cases h
  · split at h
    · cases h
      exact hcall.trans (sameShutdown_runRequestCb _ fd _ rfl rfl)
    · cases h
      exact hcall.trans (sameShutdown_runRequestCb _ fd _ rfl rfl)

theorem sameShutdown_promptAsync (s : HazeConnection) (request : Option Nat) :
    SameShutdown s (s.promptAsync request) :=
  (sameShutdown_call s (c := .promptAsync request) rfl rfl).trans
    ⟨rfl, rfl, rfl, Iff.rfl, rfl, rfl, rfl⟩

theorem sameShutdown_requestFields (s : HazeConnection) (password okCb cancelCb : Bool) :
    SameShutdown s (s.requestFields password okCb cancelCb) := by
  have hcall := sameShutdown_call s (c := .requestFields s.nextRequest) rfl rfl
  simp only [requestFields]
  split
  · refine hcall.trans (SameShutdown.trans ?_ (sameShutdown_promptAsync _ _))
    exact ⟨rfl, rfl, rfl, Iff.rfl, rfl, rfl, rfl⟩
  · refine hcall.trans ⟨rfl, rfl, rfl, Iff.rfl, ?_, rfl, rfl⟩
    simp [List.count_append, call]

/-! ## What changes it -/

theorem began_of_empty (hstack : s.stack = []) : Began s ↔ s.connectCalled := by
  simp [Began, hstack]

/-- Nothing is called for a status that changes after the connection began. -/
theorem Owed.status (hs : Owed s) (hbegan : Began s) :
    Owed { s with status := .disconnected } :=
  ⟨hs.outside, hs.connects, fun hno => absurd hbegan hno, hs.connected, fun _ _ => rfl⟩

@[simp] theorem finishes_finishShutdown (s : HazeConnection) :
    s.finishShutdown.finishes = s.finishes ++ [!s.stack.isEmpty] := by
  simp only [finishShutdown, finishes, call, List.filterMap_append]
  rfl

@[simp] theorem connects_finishShutdown (s : HazeConnection) :
    s.finishShutdown.connects = s.connects := by
  simp [finishShutdown, connects, call, ConnectionCall.connects]

/-- The first change of the status to `DISCONNECTED`, by what `shut_down` then does. -/
theorem changeStatus_disconnected_cases (hstatus : s.status ≠ .disconnected) :
    (s.connectCalled = false ∧ s.changeStatus .disconnected
      = { s with status := .disconnected }.finishShutdown) ∨
    (s.connectCalled = true ∧ s.disconnecting = true ∧
      s.changeStatus .disconnected = { s with status := .disconnected }) ∨
    (s.connectCalled = true ∧ s.disconnecting = false ∧ s.changeStatus .disconnected
      = { s with status := .disconnected, disconnecting := true }.purpleAccountDisconnect) := by
  cases hcalled : s.connectCalled with
  | false =>
      refine Or.inl ⟨rfl, ?_⟩
      simp [changeStatus, hstatus, shutDown, hcalled]
  | true =>
      cases hdisconnecting : s.disconnecting with
      | true =>
          refine Or.inr (Or.inl ⟨rfl, rfl, ?_⟩)
          simp [changeStatus, hstatus, shutDown, hcalled, hdisconnecting]
      | false =>
          refine Or.inr (Or.inr ⟨rfl, rfl, ?_⟩)
          simp [changeStatus, hstatus, shutDown, hcalled, hdisconnecting]

theorem changeStatus_of_disconnected (hstatus : s.status = .disconnected)
    (status : TpConnectionStatus) : s.changeStatus status = s := if_pos (Or.inl hstatus)

/-- `shut_down` while libpurple is to disconnect the account anyway. -/
theorem changeStatus_of_disconnecting (hdisconnecting : s.disconnecting = true)
    (hcalled : s.connectCalled = true) :
    s.changeStatus .disconnected = { s with status := .disconnected } := by
  by_cases hstatus : s.status = .disconnected
  · rw [changeStatus_of_disconnected hstatus, ← hstatus]
  · rcases changeStatus_disconnected_cases hstatus with ⟨h, -⟩ | ⟨-, -, h⟩ | ⟨-, h, -⟩
    · rw [hcalled] at h
      cases h
    · exact h
    · rw [hdisconnecting] at h
      cases h

/-- The shutdown is finished from the main loop. -/
theorem Owed.outside_append (hs : Owed s) (hstack : s.stack = []) :
    ∀ inPurple ∈ s.finishes ++ [!s.stack.isEmpty], inPurple = false := by
  intro inPurple hmem
  rcases List.mem_append.mp hmem with hmem | hmem
  · exact hs.outside inPurple hmem
  · rw [List.mem_singleton.mp hmem, hstack]
    rfl

/-- The status becomes `DISCONNECTED` while libpurple is not on the stack. -/
theorem Owed.disconnect (hs : Owed s) (hstack : s.stack = []) :
    Owed (s.changeStatus .disconnected) := by
  -- only the first change of the status shuts the connection down
  by_cases hstatus : s.status = .disconnected
  · rw [changeStatus_of_disconnected hstatus]
    exact hs
  rcases changeStatus_disconnected_cases hstatus with ⟨hcalled, h⟩ | ⟨hcalled, -, h⟩ |
    ⟨hcalled, -, h⟩
  · -- `purple_account_connect` was not called: this is the one place that finishes directly
    have hno : ¬ Began s := by simp [began_of_empty hstack, hcalled]
    obtain ⟨honline, hidle, hlen⟩ := hs.unconnected hno
    rw [if_neg hstatus] at hlen
    rw [h]
    refine ⟨?_, ?_, fun _ => ⟨honline, hidle, ?_⟩, fun hb => absurd hb hno,
      fun hb => absurd hb hno⟩
    · rw [finishes_finishShutdown]
      exact hs.outside_append hstack
    · rw [connects_finishShutdown]
      exact hs.connects
    · rw [finishes_finishShutdown, List.length_append]
      show s.finishes.length + 1 = 1
      omega
  · rw [h]
    exact hs.status (Or.inl hcalled)
  · rw [h]
    refine (hs.status (Or.inl hcalled)).same
      (SameShutdown.trans (sameShutdown_call _ (c := .purpleAccountDisconnect) rfl rfl)
        ⟨rfl, rfl, rfl, ?_, rfl, rfl, rfl⟩)
    simp [purpleAccountDisconnect, call]

/-- `purple_account_connect` is called, for the first time or while libpurple has a
connection. -/
theorem Owed.connect (hs : Owed s) (hstatus : s.status ≠ .disconnected) :
    Owed s.purpleAccountConnect := by
  have hfinishes : s.purpleAccountConnect.finishes = s.finishes := by
    simp [purpleAccountConnect, finishes, call, ConnectionCall.finishes]
  have hbegan : Began s.purpleAccountConnect := Or.inr (by simp [purpleAccountConnect])
  refine ⟨?_, ?_, fun hno => absurd hbegan hno, fun _ => ?_, fun _ hno => absurd rfl hno⟩
  · rw [hfinishes]
    exact hs.outside
  · refine ⟨fun _ => hbegan, fun _ => ?_⟩
    simp [purpleAccountConnect, HazeConnection.connects, call, ConnectionCall.connects]
  · rw [hfinishes]
    show 1 + s.idles.count .finishShutdown + s.finishes.length = 1
    -- called again, it finds the account connected and changes nothing
    by_cases hb : Began s
    · have honline : s.online = true := by
        by_contra hoff
        exact hstatus (hs.offline hb hoff)
      have hcount := hs.connected hb
      rw [honline, Bool.toNat_true] at hcount
      exact hcount
    · obtain ⟨-, hidle, hlen⟩ := hs.unconnected hb
      rw [if_neg hstatus] at hlen
      omega

/-- libpurple reports an error after `purple_account_connect` has returned. -/
theorem Owed.reportDisconnectReason (hs : Owed s) (hcalled : s.connectCalled = true)
    (reason : PurpleConnectionError) (text : String) :
    Owed (s.reportDisconnectReason reason text) := by
  let mapped := mapPurpleErrorToTp (s.status = .connecting) reason
  let s₁ : HazeConnection := { s with disconnecting := true }.call
    (.disconnectWithDBusError mapped.2 mapped.1 (some text))
  have hflag : SameShutdown s { s with disconnecting := true } :=
    ⟨rfl, rfl, rfl, Iff.rfl, rfl, rfl, rfl⟩
  have hs₁ : Owed s₁ := hs.same (hflag.trans (sameShutdown_call _ rfl rfl))
  show Owed (s₁.changeStatus .disconnected)
  rw [changeStatus_of_disconnecting (s := s₁) rfl hcalled]
  exact hs₁.status (Or.inl hcalled)

/-- libpurple disconnects the account: the idle takes the place of the connection. -/
theorem Owed.disconnected (hs : Owed s) (hcalled : s.connectCalled = true)
    (honline : s.online = true) : Owed { s with online := false }.disconnectedCb := by
  have hresult : { s with online := false }.disconnectedCb = { s with
      online := false, disconnecting := true, status := .disconnected,
      idles := s.idles ++ [.finishShutdown] } := by
    simp only [disconnectedCb]
    rw [changeStatus_of_disconnecting
      (s := { s with online := false, disconnecting := true }) rfl hcalled]
    split
    · rfl
    · rename_i hstatus
      rw [← not_not.mp hstatus]
  rw [hresult]
  have hb : Began s := Or.inl hcalled
  refine ⟨hs.outside, hs.connects, fun hno => absurd hb hno, fun _ => ?_, fun _ _ => rfl⟩
  have hcount := hs.connected hb
  rw [honline, Bool.toNat_true] at hcount
  show 0 + (s.idles ++ [Idle.finishShutdown]).count Idle.finishShutdown + s.finishes.length = 1
  rw [List.count_append, List.count_singleton_self]
  omega

/-- The idle that `disconnected_cb` added runs. -/
theorem Owed.idle (hs : Owed s) (hstack : s.stack = []) (hidle : .finishShutdown ∈ s.idles) :
    Owed { s with idles := s.idles.erase .finishShutdown }.finishShutdown := by
  have hpos : 0 < s.idles.count .finishShutdown := List.count_pos_iff.mpr hidle
  have hb : Began s := by
    by_contra hno
    have hzero := (hs.unconnected hno).2.1
    omega
  have hcount := hs.connected hb
  refine ⟨?_, ?_, fun hno => absurd hb hno, fun _ => ?_, fun _ hoff => hs.offline hb hoff⟩
  · rw [finishes_finishShutdown]
    exact hs.outside_append hstack
  · rw [connects_finishShutdown]
    exact hs.connects
  · rw [finishes_finishShutdown, List.length_append]
    show s.online.toNat + (s.idles.erase Idle.finishShutdown).count Idle.finishShutdown +
      (s.finishes.length + 1) = 1
    rw [List.count_erase_self]
    omega

/-- A change to another status does not matter before the shutdown. -/
theorem Owed.changeStatus (hs : Owed s) {status : TpConnectionStatus}
    (hne : status ≠ .disconnected) : Owed (s.changeStatus status) := by
  unfold HazeConnection.changeStatus
  split
  · exact hs
  · rename_i hold
    rw [not_or] at hold
    refine ⟨hs.outside, hs.connects, fun hno => ?_, hs.connected, fun hb hoff => ?_⟩
    · obtain ⟨honline, hidle, hlen⟩ := hs.unconnected hno
      rw [if_neg hold.1] at hlen
      exact ⟨honline, hidle, hlen.trans (if_neg hne).symm⟩
    · exact absurd (hs.offline hb hoff) hold.1

theorem Owed.tpConnect (hs : Owed s) (hstack : s.stack = []) (hnew : s.status = .new)
    (selfHandle : Bool) : Owed (s.connect selfHandle) := by
  unfold HazeConnection.connect startConnecting
  cases selfHandle with
  | false => exact hs.disconnect hstack
  | true =>
      have hconnecting : (s.changeStatus .connecting).status = .connecting := by
        simp [HazeConnection.changeStatus, hnew]
      have hs₁ : Owed ((s.changeStatus .connecting).call .purpleAccountSetCheckMail) :=
        (hs.changeStatus (by decide)).same (sameShutdown_call _ rfl rfl)
      simp only [not_true, if_false]
      split
      · rename_i s₁ hstart
        split at hstart
        · cases hstart
          exact hs₁.same (sameShutdown_promptAsync _ _)
        · cases hstart
          apply (hs₁.same (sameShutdown_call _ (c := .purpleAccountSetEnabled) rfl rfl)).connect
          intro hdisconnected
          have hfalse := hconnecting.symm.trans hdisconnected
          cases hfalse
      · rename_i s₁ hstart
        split at hstart <;> cases hstart

theorem Owed.promptCb (hs : Owed s) (hstack : s.stack = []) {request : Option Nat}
    {result : Except GError String}
    (hsafe : s.passwordRequest = none → result.isOk → s.status ≠ .disconnected)
    (h : s.promptCb request result = .ok s') : Owed s' := by
  have hs₁ : Owed (s.promptFinish request result) := hs.same ((sameShutdown_call s
    (c := .promptFinish request result s.passwordRequest) rfl rfl).trans
      ⟨rfl, rfl, rfl, Iff.rfl, rfl, rfl, rfl⟩)
  cases result with
  | error error =>
      simp only [HazeConnection.promptCb] at h
      split at h
      · exact hs₁.same (sameShutdown_requestPasswordCb h)
      · cases h
        split
        · exact (hs₁.same (sameShutdown_call _ rfl rfl)).disconnect hstack
        · exact hs₁
  | ok password =>
      have hs₂ : Owed { s.promptFinish request (.ok password) with password := some password } :=
        hs₁.same ⟨rfl, rfl, rfl, Iff.rfl, rfl, rfl, rfl⟩
      simp only [HazeConnection.promptCb] at h
      split at h
      · exact hs₂.same (sameShutdown_requestPasswordCb h)
      · rename_i hnone
        cases h
        let s₃ : HazeConnection := { s.promptFinish request (.ok password) with
          password := some password, accountPassword := some password }
        have hs₃ : Owed s₃ := hs₁.same ⟨rfl, rfl, rfl, Iff.rfl, rfl, rfl, rfl⟩
        have hcall : SameShutdown s₃ (s₃.call .purpleAccountSetEnabled) :=
          sameShutdown_call s₃ rfl rfl
        exact (hs₃.same hcall).connect (hsafe hnone rfl)

theorem Owed.ret (hs : Owed s) : Owed s.ret := by
  unfold HazeConnection.ret
  split
  · exact hs
  · -- `connect_called` takes over from the call on the stack
    rename_i stack hstack
    have hb : Began s := Or.inr (by simp [hstack])
    refine ⟨hs.outside, ⟨fun _ => Or.inl rfl, fun _ => hs.connects.mpr hb⟩,
      fun hno => absurd (Or.inl rfl) hno, fun _ => hs.connected hb, fun _ => hs.offline hb⟩
  · rename_i fd stack hstack
    have hpop : SameShutdown s { s with stack := stack } :=
      ⟨rfl, rfl, rfl, by simp [hstack], rfl, rfl, rfl⟩
    exact hs.same (hpop.trans (sameShutdown_purpleRequestClose _ fd))
  · rename_i stack hstack
    exact hs.same ⟨rfl, rfl, rfl, by simp [hstack], rfl, rfl, rfl⟩
  · rename_i stack hstack
    exact hs.same ⟨rfl, rfl, rfl, by simp [hstack], rfl, rfl, rfl⟩

/-! ## Runs -/

/-- The events that do not have the shutdown finished twice or from inside libpurple: no error
is reported from inside the first `purple_account_connect`, and no password arrives to connect
with when the status is `DISCONNECTED`. -/
def ShutdownSafe (s : HazeConnection) : ConnectionEvent → Prop
  | .reportDisconnectReason _ _ => .accountConnect ∈ s.stack → s.connectCalled
  | .promptFinish _ result =>
      s.passwordRequest = none → result.isOk → s.status ≠ .disconnected
  | _ => True

instance (s : HazeConnection) : DecidablePred (ShutdownSafe s)
  | .reportDisconnectReason _ _ =>
      inferInstanceAs (Decidable (.accountConnect ∈ s.stack → s.connectCalled))
  | .promptFinish _ result => inferInstanceAs (Decidable
      (s.passwordRequest = none → result.isOk → s.status ≠ .disconnected))
  | .connect _ => inferInstanceAs (Decidable True)
  | .disconnect => inferInstanceAs (Decidable True)
  | .idle _ => inferInstanceAs (Decidable True)
  | .mainLoop => inferInstanceAs (Decidable True)
  | .ret => inferInstanceAs (Decidable True)
  | .connected => inferInstanceAs (Decidable True)
  | .disconnected => inferInstanceAs (Decidable True)
  | .requestFields _ _ _ => inferInstanceAs (Decidable True)
  | .closeRequest _ => inferInstanceAs (Decidable True)

/-- libpurple has a connection only after it was asked for one. -/
theorem Owed.connectCalled_of_online (hs : Owed s) (honline : s.online = true)
    (hreturned : .accountConnect ∈ s.stack → s.connectCalled) : s.connectCalled = true := by
  by_contra hcalled
  refine (hs.unconnected ?_).1 honline
  rintro (hc | hc)
  · exact hcalled hc
  · exact hcalled (hreturned hc)

/-- Every safe step keeps what is owed. -/
theorem Owed.step (hs : Owed s) {e : ConnectionEvent} (hlegal : Legal s e)
    (hsafe : ShutdownSafe s e) (h : connections.step s e = .ok s') : Owed s' := by
  cases e with
  | connect selfHandle =>
      cases h
      exact hs.tpConnect hlegal.1 hlegal.2 selfHandle
  | disconnect =>
      cases h
      exact hs.disconnect hlegal
  | promptFinish request result => exact hs.promptCb hlegal.1 hsafe h
  | idle source =>
      obtain ⟨hstack, hmem⟩ := hlegal
      change s.runIdle source = .ok s' at h
      cases source with
      | finishShutdown =>
          cases h
          exact hs.idle hstack hmem
      | requestFieldsDestroy fd =>
          have hs₁ : Owed { s with idles := s.idles.erase (.requestFieldsDestroy fd) } :=
            hs.same ⟨rfl, rfl, rfl, Iff.rfl, List.count_erase_of_ne (by simp) , rfl, rfl⟩
          exact hs₁.same (sameShutdown_requestFieldsDestroy h)
  | mainLoop =>
      cases h
      exact hs.same ⟨rfl, rfl, rfl, by simp, rfl, rfl, rfl⟩
  | ret =>
      cases h
      exact hs.ret
  | connected =>
      cases h
      exact hs.changeStatus (by decide)
  | reportDisconnectReason reason text =>
      cases h
      exact hs.reportDisconnectReason (hs.connectCalled_of_online hlegal.2 hsafe) reason text
  | disconnected =>
      cases h
      obtain ⟨-, honline, hreturned⟩ := hlegal
      exact hs.disconnected (hs.connectCalled_of_online honline
        (fun hc => absurd hc hreturned)) honline
  | requestFields password okCb cancelCb =>
      cases h
      exact hs.same (sameShutdown_requestFields s password okCb cancelCb)
  | closeRequest fd =>
      cases h
      exact hs.same (sameShutdown_purpleRequestClose s fd)

/-- **The shutdown is finished once**, outside libpurple, in every run in which no error is
reported from inside `purple_account_connect` and no prompt for connecting ends with a
password after the status has become `DISCONNECTED`. -/
theorem shutdown_finishes_once (prplInfo : PurplePluginProtocolInfo)
    (password : Option String) (es : List ConnectionEvent)
    (hes : connections.Meets (fun s e => Legal s e ∧ ShutdownSafe s e)
      (init prplInfo password) es)
    (hrun : connections.run (init prplInfo password) es = .ok s) : FinishesOnce s := by
  have howed : Owed s := Machine.run_invariant
    (fun _ _ _ hs hok hstep => hs.step hok.1 hok.2 hstep) (owed_init prplInfo password) hes hrun
  exact howed.finishesOnce

/-- libpurple reports an error while connecting, and disconnects the account. -/
theorem shutdown_finishes_once_error :
    ∃ s, connections.run (init ⟨false, false⟩ (some "secret"))
        [.connect true, .ret, .mainLoop, .reportDisconnectReason .networkError "no route", .ret,
          .mainLoop, .disconnected, .ret, .idle .finishShutdown] = .ok s ∧ FinishesOnce s :=
  ⟨_, rfl, shutdown_finishes_once ⟨false, false⟩ (some "secret")
    [.connect true, .ret, .mainLoop, .reportDisconnectReason .networkError "no route", .ret,
      .mainLoop, .disconnected, .ret, .idle .finishShutdown] (by decide) rfl⟩

/-- An error from inside `purple_account_connect` finishes the shutdown there and then. -/
theorem shutdown_finishes_inside :
    ¬ ∀ (es : List ConnectionEvent) (s : HazeConnection),
      connections.Meets Legal (init ⟨false, false⟩ (some "secret")) es →
      connections.run (init ⟨false, false⟩ (some "secret")) es = .ok s → FinishesOnce s := by
  intro hall
  have hfinishes := hall [.connect true, .reportDisconnectReason .networkError "no route"] _
    (by decide) rfl
  have hinside := hfinishes.outside true (by decide)
  cases hinside

end HazeConnection

end Haze
