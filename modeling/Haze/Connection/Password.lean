import Haze.Basic.Log
import Haze.Connection.Shutdown

set_option autoImplicit false

/-! # Whose password

`priv->password_request` is one field for all prompts. A request that libpurple opens puts
itself there, every request that is closed clears it, whatever it holds, and a prompt that
ends gives its result to the request that is there then, or connects when there is none.

The log of calls shows what happens to a request: `haze_request_password_cb`, its callback,
its closing. `Right` says of each entry what the ones before it must be like, and `Orderly`
adds what keeps it so. The events that keep a connection orderly (`PasswordSafe`) are those
that find `password_request` as the claim on it requires.
-/

namespace Haze

namespace ConnectionCall

/-- The request whose callback is run. -/
def callback : ConnectionCall → Option Nat
  | .okCb fd => some fd
  | .cancelCb fd => some fd
  | _ => none

/-- The request that is closed. -/
def closes : ConnectionCall → Option Nat
  | .closeRequest fd _ => some fd
  | _ => none

/-- What `haze_request_password_cb` is given. -/
def hands : ConnectionCall → Option (Nat × Option String)
  | .requestPasswordCb fd password => some (fd, password)
  | _ => none

/-- The result of a prompt, with the request that is to get it. -/
def receives : ConnectionCall → Option (Nat × Option String)
  | .promptFinish _ result (some fd) => some (fd, result.toOption)
  | _ => none

/-- The calls that have to do neither with a request nor with `purple_account_connect`. -/
def quiet : ConnectionCall → Bool
  | .disconnectWithDBusError _ _ _ => true
  | .finishShutdown _ => true
  | .purpleAccountSetCheckMail => true
  | .purpleAccountSetEnabled => true
  | .purpleAccountDisconnect => true
  | .promptAsync _ => true
  | .requestFields _ => true
  | _ => false

end ConnectionCall

namespace HazeConnection

variable {s s' : HazeConnection} {owed : List (Nat × Option String)}

/-- The requests that were closed. -/
def closedIn (l : List ConnectionCall) : List Nat := l.filterMap ConnectionCall.closes

/-- The requests whose callbacks were run. -/
def calledIn (l : List ConnectionCall) : List Nat := l.filterMap ConnectionCall.callback

/-- What was passed to `haze_request_password_cb`. -/
def handed (s : HazeConnection) : List (Nat × Option String) :=
  s.calls.filterMap ConnectionCall.hands

/-- The results of prompts that found a request to go to. -/
def received (s : HazeConnection) : List (Nat × Option String) :=
  s.calls.filterMap ConnectionCall.receives

/-- What must have gone before a call. -/
def Right (l : List ConnectionCall) : ConnectionCall → Prop
  | .promptFinish request _ receiver =>
      receiver = request.filter (fun fd => fd ∉ closedIn l)
  | .okCb fd => fd ∉ calledIn l ∧ fd ∉ closedIn l
  | .cancelCb fd => fd ∉ calledIn l ∧ fd ∉ closedIn l
  | .closeRequest fd passwordRequest => passwordRequest = none ∨ passwordRequest = some fd
  | .purpleAccountConnect status =>
      status ≠ .disconnected ∧ l.filterMap ConnectionCall.connects = []
  | _ => True

/-- A password answer reaches only the request it was asked for. -/
structure AnswersReach (s : HazeConnection) : Prop where
  /-- the result of a prompt goes to the request the prompt was opened for, if that is still
  open, and to no other -/
  receiver : Log.Each (fun l c => ∀ request result receiver,
    c = .promptFinish request result receiver →
      receiver = request.filter (fun fd => fd ∉ closedIn l)) s.calls
  handed : s.handed = s.received
  /-- closing a request leaves another password request in place -/
  inPlace : ∀ fd passwordRequest, .closeRequest fd passwordRequest ∈ s.calls →
    passwordRequest = none ∨ passwordRequest = some fd
  /-- no callback is run twice, or after the request was closed -/
  once : (calledIn s.calls).Nodup
  notClosed : Log.Each (fun l c => ∀ fd, c.callback = some fd → fd ∉ closedIn l) s.calls
  connectsOnce : s.connects.length ≤ 1
  connectsInTime : .disconnected ∉ s.connects

/-! ## The invariant -/

/-- The request is open. -/
def IsOpen (s : HazeConnection) (fd : Nat) : Prop := ∃ d ∈ s.requests, d.ptr = fd

instance (s : HazeConnection) : DecidablePred (IsOpen s) := fun fd =>
  inferInstanceAs (Decidable (∃ d ∈ s.requests, d.ptr = fd))

/-- The log is right, and the results `owed` are on their way to `haze_request_password_cb`. -/
structure Orderly (owed : List (Nat × Option String)) (s : HazeConnection) : Prop where
  right : Log.Each Right s.calls
  handed : s.handed ++ owed = s.received
  isOpen : ∀ fd, IsOpen s fd ↔ fd < s.nextRequest ∧ fd ∉ closedIn s.calls
  called : ∀ fd ∈ calledIn s.calls,
    fd < s.nextRequest ∧ (IsOpen s fd → .requestCb fd ∈ s.stack)
  closed : ∀ fd ∈ closedIn s.calls, fd < s.nextRequest
  prompts : ∀ fd, some fd ∈ s.prompts → fd < s.nextRequest
  outstanding : ∀ fd, some fd ∈ s.prompts → IsOpen s fd → s.passwordRequest = some fd

theorem orderly_init (prplInfo : PurplePluginProtocolInfo) (password : Option String) :
    Orderly [] (init prplInfo password) where
  right := Log.each_nil
  handed := rfl
  isOpen := by simp [IsOpen, init]
  called := by simp [calledIn, init]
  closed := by simp [closedIn, init]
  prompts := by simp [init]
  outstanding := by simp [init]

theorem Orderly.answersReach (hs : Orderly [] s) : AnswersReach s where
  receiver := hs.right.mono (by
    intro l c hright request result receiver heq
    subst heq
    exact hright)
  handed := by simpa using hs.handed
  inPlace := by
    intro fd passwordRequest hmem
    obtain ⟨l, hright⟩ := hs.right.of_mem hmem
    exact hright
  once := hs.right.nodup_filterMap (by
    intro l c fd hright hcb
    cases c <;> simp only [ConnectionCall.callback, Option.some.injEq, reduceCtorEq] at hcb
    · rw [← hcb]
      exact hright.1
    · rw [← hcb]
      exact hright.1)
  notClosed := hs.right.mono (by
    intro l c hright fd hcb
    cases c <;> simp only [ConnectionCall.callback, Option.some.injEq, reduceCtorEq] at hcb
    · rw [← hcb]
      exact hright.2
    · rw [← hcb]
      exact hright.2)
  connectsOnce := hs.right.length_filterMap_le_one (by
    intro l c status hright hconnects
    cases c <;> simp only [ConnectionCall.connects, Option.some.injEq, reduceCtorEq] at hconnects
    exact hright.2)
  connectsInTime := by
    intro hmem
    obtain ⟨c, hc, hconnects⟩ := List.mem_filterMap.mp hmem
    obtain ⟨l, hright⟩ := hs.right.of_mem hc
    cases c <;> simp only [ConnectionCall.connects, Option.some.injEq, reduceCtorEq] at hconnects
    exact hright.1 hconnects

/-! ## What leaves the requests alone -/

/-- Only quiet calls were made, and nothing that matters for the requests has changed. -/
structure Quiet (s s' : HazeConnection) : Prop where
  calls : ∃ l, s'.calls = s.calls ++ l ∧ ∀ c ∈ l, c.quiet = true
  requests : s'.requests = s.requests
  nextRequest : s'.nextRequest = s.nextRequest
  passwordRequest : s'.passwordRequest = s.passwordRequest
  prompts : ∀ fd, some fd ∈ s'.prompts → some fd ∈ s.prompts
  stack : ∀ fd, .requestCb fd ∈ s.stack → .requestCb fd ∈ s'.stack

theorem Quiet.trans {s'' : HazeConnection} (h : Quiet s s') (h' : Quiet s' s'') :
    Quiet s s'' := by
  obtain ⟨l, hl, hquiet⟩ := h.calls
  obtain ⟨l', hl', hquiet'⟩ := h'.calls
  refine ⟨⟨l ++ l', by rw [hl', hl, List.append_assoc], fun c hc => ?_⟩,
    h'.requests.trans h.requests, h'.nextRequest.trans h.nextRequest,
    h'.passwordRequest.trans h.passwordRequest, fun fd hfd => h.prompts fd (h'.prompts fd hfd),
    fun fd hfd => h'.stack fd (h.stack fd hfd)⟩
  exact (List.mem_append.mp hc).elim (hquiet c) (hquiet' c)

/-- The fields that are not about calls and requests may change. -/
theorem Quiet.of_eq (hcalls : s'.calls = s.calls) (hrequests : s'.requests = s.requests)
    (hnext : s'.nextRequest = s.nextRequest) (hrequest : s'.passwordRequest = s.passwordRequest)
    (hprompts : s'.prompts = s.prompts)
    (hstack : ∀ fd, .requestCb fd ∈ s.stack → .requestCb fd ∈ s'.stack) : Quiet s s' :=
  ⟨⟨[], by simp [hcalls]⟩, hrequests, hnext, hrequest, fun _ hfd => hprompts ▸ hfd, hstack⟩

theorem quiet_call (s : HazeConnection) {c : ConnectionCall} (hc : c.quiet = true) :
    Quiet s (s.call c) :=
  ⟨⟨[c], rfl, by simpa using hc⟩, rfl, rfl, rfl, fun _ hfd => hfd, fun _ hfd => hfd⟩

theorem eq_none_of_quiet {c : ConnectionCall} (hc : c.quiet = true) :
    c.closes = none ∧ c.callback = none ∧ c.hands = none ∧ c.receives = none ∧
      c.connects = none := by
  cases c <;> first | exact ⟨rfl, rfl, rfl, rfl, rfl⟩ | cases hc

theorem Right.of_quiet {c : ConnectionCall} (hc : c.quiet = true) (l : List ConnectionCall) :
    Right l c := by
  cases c <;> first | exact trivial | cases hc

/-- What is read off the log is as before. -/
theorem Quiet.filterMap_eq {α : Type*} {f : ConnectionCall → Option α} (h : Quiet s s')
    (hf : ∀ c, c.quiet = true → f c = none) : s'.calls.filterMap f = s.calls.filterMap f := by
  obtain ⟨l, hcalls, hquiet⟩ := h.calls
  have hnil : l.filterMap f = [] :=
    List.filterMap_eq_nil_iff.mpr (fun c hc => hf c (hquiet c hc))
  rw [hcalls, List.filterMap_append, hnil, List.append_nil]

theorem Orderly.quiet (hs : Orderly owed s) (h : Quiet s s') : Orderly owed s' := by
  obtain ⟨l, hcalls, hquiet⟩ := h.calls
  have hopen : ∀ fd, IsOpen s' fd ↔ IsOpen s fd := by
    intro fd
    unfold IsOpen
    rw [h.requests]
  have hclosed : closedIn s'.calls = closedIn s.calls :=
    h.filterMap_eq (fun c hc => (eq_none_of_quiet hc).1)
  have hcalled : calledIn s'.calls = calledIn s.calls :=
    h.filterMap_eq (fun c hc => (eq_none_of_quiet hc).2.1)
  have hhanded : s'.handed = s.handed :=
    h.filterMap_eq (fun c hc => (eq_none_of_quiet hc).2.2.1)
  have hreceived : s'.received = s.received :=
    h.filterMap_eq (fun c hc => (eq_none_of_quiet hc).2.2.2.1)
  refine ⟨?_, ?_, fun fd => ?_, fun fd hfd => ?_, fun fd hfd => ?_, fun fd hfd => ?_,
    fun fd hfd ho => ?_⟩
  · rw [hcalls]
    exact hs.right.append (fun c hc l₁ => Right.of_quiet (hquiet c hc) l₁)
  · rw [hhanded, hreceived]
    exact hs.handed
  · rw [hopen, h.nextRequest, hclosed]
    exact hs.isOpen fd
  · rw [hcalled] at hfd
    obtain ⟨hlt, hstack⟩ := hs.called fd hfd
    rw [h.nextRequest, hopen]
    exact ⟨hlt, fun ho => h.stack fd (hstack ho)⟩
  · rw [hclosed] at hfd
    rw [h.nextRequest]
    exact hs.closed fd hfd
  · rw [h.nextRequest]
    exact hs.prompts fd (h.prompts fd hfd)
  · rw [h.passwordRequest]
    exact hs.outstanding fd (h.prompts fd hfd) ((hopen fd).mp ho)

theorem quiet_changeStatus (s : HazeConnection) (status : TpConnectionStatus) :
    Quiet s (s.changeStatus status) := by
  have hstatus : Quiet s { s with status := status } :=
    Quiet.of_eq rfl rfl rfl rfl rfl (fun _ hfd => hfd)
  by_cases hsame : s.status = .disconnected ∨ s.status = status
  · rw [changeStatus, if_pos hsame]
    exact Quiet.of_eq rfl rfl rfl rfl rfl (fun _ hfd => hfd)
  by_cases hdisconnected : status = .disconnected
  · subst hdisconnected
    rcases changeStatus_disconnected_cases (fun h => hsame (Or.inl h)) with
      ⟨-, h⟩ | ⟨-, -, h⟩ | ⟨-, -, h⟩
    · rw [h]
      exact hstatus.trans (quiet_call _ (c := .finishShutdown (!s.stack.isEmpty)) rfl)
    · rw [h]
      exact hstatus
    · rw [h]
      have hfirst : Quiet s { s with status := .disconnected, disconnecting := true } :=
        Quiet.of_eq rfl rfl rfl rfl rfl (fun _ hfd => hfd)
      apply (hfirst.trans (quiet_call _ (c := .purpleAccountDisconnect) rfl)).trans
      exact Quiet.of_eq rfl rfl rfl rfl rfl (fun _ hfd => List.mem_cons_of_mem _ hfd)
  · rw [changeStatus, if_neg hsame, if_neg hdisconnected]
    exact hstatus

theorem quiet_disconnectWithDBusError (s : HazeConnection) (name : TpErrorName)
    (reason : TpConnectionStatusReason) (debugMessage : Option String) :
    Quiet s (s.disconnectWithDBusError name reason debugMessage) :=
  (quiet_call s (c := .disconnectWithDBusError name reason debugMessage) rfl).trans
    (quiet_changeStatus _ _)

theorem quiet_reportDisconnectReason (s : HazeConnection) (reason : PurpleConnectionError)
    (text : String) : Quiet s (s.reportDisconnectReason reason text) := by
  have hflag : Quiet s { s with disconnecting := true } :=
    Quiet.of_eq rfl rfl rfl rfl rfl (fun _ hfd => hfd)
  exact hflag.trans (quiet_disconnectWithDBusError _ _ _ _)

theorem quiet_disconnectedCb (s : HazeConnection) : Quiet s s.disconnectedCb := by
  have hfirst : Quiet s { s with disconnecting := true } :=
    Quiet.of_eq rfl rfl rfl rfl rfl (fun _ hfd => hfd)
  simp only [disconnectedCb]
  split
  · apply (hfirst.trans (quiet_changeStatus _ .disconnected)).trans
    exact Quiet.of_eq rfl rfl rfl rfl rfl (fun _ hfd => hfd)
  · exact hfirst.trans (Quiet.of_eq rfl rfl rfl rfl rfl (fun _ hfd => hfd))

/-! ## The steps of a request's life -/

/-- Closing the request clears `password_request` of nothing else. -/
def ClearsNothing (s : HazeConnection) (fd : Nat) : Prop :=
  s.passwordRequest = none ∨ s.passwordRequest = some fd

instance (s : HazeConnection) (fd : Nat) : Decidable (ClearsNothing s fd) :=
  inferInstanceAs (Decidable (s.passwordRequest = none ∨ s.passwordRequest = some fd))

/-- A call that neither runs a callback nor closes a request. -/
theorem Orderly.call {owed' : List (Nat × Option String)} {c : ConnectionCall}
    (hs : Orderly owed s) (hright : Right s.calls c) (hcloses : c.closes = none)
    (hcallback : c.callback = none) (howed : c.hands.toList ++ owed' = owed ++ c.receives.toList) :
    Orderly owed' (s.call c) := by
  have hclosed : closedIn (s.call c).calls = closedIn s.calls := Log.filterMap_concat_none hcloses
  have hcalled : calledIn (s.call c).calls = calledIn s.calls :=
    Log.filterMap_concat_none hcallback
  refine ⟨Log.each_concat.mpr ⟨hs.right, hright⟩, ?_, fun fd => ?_, ?_, ?_, hs.prompts,
    hs.outstanding⟩
  · calc (s.call c).handed ++ owed'
        = s.handed ++ (c.hands.toList ++ owed') := by
          rw [HazeConnection.handed, HazeConnection.call, Log.filterMap_concat, List.append_assoc]
          rfl
      _ = s.received ++ c.receives.toList := by
          rw [howed, ← List.append_assoc, hs.handed]
      _ = (s.call c).received := (Log.filterMap_concat _ _ _).symm
  · rw [hclosed]
    exact hs.isOpen fd
  · rw [hcalled]
    exact hs.called
  · rw [hclosed]
    exact hs.closed

theorem isOpen_closeRequest (s : HazeConnection) (fd fd' : Nat) :
    IsOpen (s.closeRequest fd) fd' ↔ IsOpen s fd' ∧ fd' ≠ fd := by
  simp only [IsOpen, closeRequest, cancelPasswordRequest, call, List.mem_filter,
    decide_eq_true_eq]
  constructor
  · rintro ⟨d, ⟨hd, hne⟩, rfl⟩
    exact ⟨⟨d, hd, rfl⟩, hne⟩
  · rintro ⟨⟨d, hd, rfl⟩, hne⟩
    exact ⟨d, ⟨hd, hne⟩, rfl⟩

/-- The request is closed: it is off libpurple's list, and in the log. -/
theorem Orderly.closeRequest (hs : Orderly owed s) {fd : Nat} (hopen : IsOpen s fd)
    (hclears : ClearsNothing s fd) : Orderly owed (s.closeRequest fd) := by
  have hcalls : (s.closeRequest fd).calls = s.calls ++ [.closeRequest fd s.passwordRequest] := rfl
  have hclosed : closedIn (s.closeRequest fd).calls = closedIn s.calls ++ [fd] :=
    Log.filterMap_concat_some rfl
  have hcalled : calledIn (s.closeRequest fd).calls = calledIn s.calls :=
    Log.filterMap_concat_none rfl
  have hlt : fd < s.nextRequest := ((hs.isOpen fd).mp hopen).1
  refine ⟨?_, ?_, fun fd' => ?_, fun fd' hfd' => ?_, fun fd' hfd' => ?_, hs.prompts,
    fun fd' hfd' ho => ?_⟩
  · rw [hcalls]
    exact Log.each_concat.mpr ⟨hs.right, hclears⟩
  · have hhanded : (s.closeRequest fd).handed = s.handed := Log.filterMap_concat_none rfl
    have hreceived : (s.closeRequest fd).received = s.received := Log.filterMap_concat_none rfl
    rw [hhanded, hreceived]
    exact hs.handed
  · rw [isOpen_closeRequest, hs.isOpen, hclosed, List.mem_append, List.mem_singleton, not_or,
      and_assoc]
    rfl
  · rw [hcalled] at hfd'
    obtain ⟨hlt', hstack⟩ := hs.called fd' hfd'
    exact ⟨hlt', fun ho => hstack ((isOpen_closeRequest s fd fd').mp ho).1⟩
  · rw [hclosed, List.mem_append, List.mem_singleton] at hfd'
    rcases hfd' with hfd' | rfl
    · exact hs.closed fd' hfd'
    · exact hlt
  · -- nobody else's prompt was outstanding
    obtain ⟨ho, hne⟩ := (isOpen_closeRequest s fd fd').mp ho
    have hheld := hs.outstanding fd' hfd' ho
    rcases hclears with hnone | hsome
    · rw [hnone] at hheld
      cases hheld
    · rw [hsome, Option.some.injEq] at hheld
      exact absurd hheld.symm hne

theorem Orderly.purpleRequestClose (hs : Orderly owed s) {fd : Nat}
    (hclears : IsOpen s fd → ClearsNothing s fd) : Orderly owed (s.purpleRequestClose fd) := by
  unfold HazeConnection.purpleRequestClose
  split
  · rename_i hopen
    exact hs.closeRequest hopen (hclears hopen)
  · exact hs

/-- The callback of an open request is run for the first time. -/
theorem Orderly.runRequestCb (hs : Orderly owed s) {fd : Nat} (hopen : IsOpen s fd)
    (hfresh : fd ∉ calledIn s.calls) {cb : Bool} (hclears : cb = false → ClearsNothing s fd)
    {c : ConnectionCall} (hc : c = .okCb fd ∨ c = .cancelCb fd) :
    Orderly owed (s.runRequestCb fd cb c) := by
  unfold HazeConnection.runRequestCb
  cases cb with
  | false => exact hs.purpleRequestClose (fun _ => hclears rfl)
  | true =>
      obtain ⟨hlt, hnotclosed⟩ := (hs.isOpen fd).mp hopen
      let s₁ : HazeConnection := { s.call c with stack := .requestCb fd :: s.stack }
      have hclosed : closedIn s₁.calls = closedIn s.calls :=
        Log.filterMap_concat_none (by rcases hc with rfl | rfl <;> rfl)
      have hcalled : calledIn s₁.calls = calledIn s.calls ++ [fd] :=
        Log.filterMap_concat_some (by rcases hc with rfl | rfl <;> rfl)
      have hhanded : s₁.handed = s.handed :=
        Log.filterMap_concat_none (by rcases hc with rfl | rfl <;> rfl)
      have hreceived : s₁.received = s.received :=
        Log.filterMap_concat_none (by rcases hc with rfl | rfl <;> rfl)
      show Orderly owed s₁
      refine ⟨?_, ?_, fun fd' => ?_, fun fd' hfd' => ?_, fun fd' hfd' => ?_, hs.prompts,
        hs.outstanding⟩
      · refine Log.each_concat.mpr ⟨hs.right, ?_⟩
        rcases hc with rfl | rfl
        · exact ⟨hfresh, hnotclosed⟩
        · exact ⟨hfresh, hnotclosed⟩
      · rw [hhanded, hreceived]
        exact hs.handed
      · rw [hclosed]
        exact hs.isOpen fd'
      · rw [hcalled, List.mem_append, List.mem_singleton] at hfd'
        rcases hfd' with hfd' | rfl
        · obtain ⟨hlt', hstack⟩ := hs.called fd' hfd'
          exact ⟨hlt', fun ho => List.mem_cons_of_mem _ (hstack ho)⟩
        · exact ⟨hlt, fun _ => List.mem_cons_self⟩
      · rw [hclosed] at hfd'
        exact hs.closed fd' hfd'

theorem exists_derefFields {fd : Nat} (hopen : IsOpen s fd) :
    ∃ d, s.derefFields fd = some d := by
  refine Option.isSome_iff_exists.mp (List.find?_isSome.mpr ?_)
  simpa [IsOpen] using hopen

/-- The request that has been given the result of a prompt. -/
theorem Orderly.requestPasswordCb {fd : Nat} {password : Option String}
    (hs : Orderly [(fd, password)] s) (hopen : IsOpen s fd) (hfresh : fd ∉ calledIn s.calls)
    (hrequest : s.passwordRequest = some fd) :
    ∃ s', s.requestPasswordCb fd password = .ok s' ∧ Orderly [] s' := by
  let s₁ : HazeConnection := s.call (.requestPasswordCb fd password)
  have hcalled : calledIn s₁.calls = calledIn s.calls := Log.filterMap_concat_none rfl
  have hs₁ : Orderly [] s₁ := hs.call trivial rfl rfl rfl
  obtain ⟨d, hd⟩ := exists_derefFields (s := s₁) hopen
  have hclears : ClearsNothing s₁ fd := Or.inr hrequest
  have hfresh₁ : fd ∉ calledIn s₁.calls := by rwa [hcalled]
  -- a password goes to `ok_cb`, an error to `cancel_cb`
  by_cases hpassword : password.isSome
  · refine ⟨s₁.runRequestCb fd d.okCb (.okCb fd), ?_,
      hs₁.runRequestCb hopen hfresh₁ (fun _ => hclears) (Or.inl rfl)⟩
    simp only [HazeConnection.requestPasswordCb]
    rw [hd]
    exact if_pos hpassword
  · refine ⟨s₁.runRequestCb fd d.cancelCb (.cancelCb fd), ?_,
      hs₁.runRequestCb hopen hfresh₁ (fun _ => hclears) (Or.inr rfl)⟩
    simp only [HazeConnection.requestPasswordCb]
    rw [hd]
    exact if_neg hpassword

theorem Orderly.requestFieldsDestroy (hs : Orderly owed s) {fd : Nat} (hopen : IsOpen s fd)
    (hfresh : fd ∉ calledIn s.calls)
    (hclears : ∀ d ∈ s.derefFields fd, d.cancelCb = false → ClearsNothing s fd) :
    ∃ s', s.requestFieldsDestroy fd = .ok s' ∧ Orderly owed s' := by
  obtain ⟨d, hd⟩ := exists_derefFields hopen
  refine ⟨s.runRequestCb fd d.cancelCb (.cancelCb fd), ?_,
    hs.runRequestCb hopen hfresh (hclears d hd) (Or.inr rfl)⟩
  simp only [HazeConnection.requestFieldsDestroy, hd]

/-- A new request is open and has no history. -/
theorem Orderly.newRequest (hs : Orderly owed s) (password okCb cancelCb : Bool) :
    Orderly owed { s.call (.requestFields s.nextRequest) with
      requests := s.requests ++ [⟨s.nextRequest, password, okCb, cancelCb⟩]
      nextRequest := s.nextRequest + 1 } := by
  let fd := s.nextRequest
  let s₁ : HazeConnection := { s.call (.requestFields fd) with
    requests := s.requests ++ [⟨fd, password, okCb, cancelCb⟩]
    nextRequest := s.nextRequest + 1 }
  have hcall : Orderly owed (s.call (.requestFields fd)) :=
    hs.call trivial rfl rfl (List.append_nil owed).symm
  have hopen : ∀ fd', IsOpen s₁ fd' ↔ IsOpen s fd' ∨ fd' = fd := by
    intro fd'
    simp only [IsOpen, s₁, List.mem_append, List.mem_singleton]
    constructor
    · rintro ⟨d, hd | rfl, rfl⟩
      · exact Or.inl ⟨d, hd, rfl⟩
      · exact Or.inr rfl
    · rintro (⟨d, hd, rfl⟩ | rfl)
      · exact ⟨d, Or.inl hd, rfl⟩
      · exact ⟨_, Or.inr rfl, rfl⟩
  -- a request that something is known of was there before
  have hold : ∀ fd', fd' < s.nextRequest → IsOpen s₁ fd' → IsOpen s fd' := by
    intro fd' hlt ho
    rcases (hopen fd').mp ho with ho | rfl
    · exact ho
    · exact absurd hlt (Nat.lt_irrefl _)
  show Orderly owed s₁
  refine ⟨hcall.right, hcall.handed, fun fd' => ?_, fun fd' hfd' => ?_,
    fun fd' hfd' => Nat.lt_succ_of_lt (hcall.closed fd' hfd'),
    fun fd' hfd' => Nat.lt_succ_of_lt (hs.prompts fd' hfd'),
    fun fd' hfd' ho => hs.outstanding fd' hfd' (hold fd' (hs.prompts fd' hfd') ho)⟩
  · have hiff : IsOpen s fd' ↔ fd' < s.nextRequest ∧ fd' ∉ closedIn s₁.calls :=
      hcall.isOpen fd'
    rw [hopen, hiff]
    show _ ↔ fd' < s.nextRequest + 1 ∧ _
    constructor
    · rintro (⟨hlt, hnot⟩ | rfl)
      · exact ⟨Nat.lt_succ_of_lt hlt, hnot⟩
      · exact ⟨Nat.lt_succ_self _,
          fun hmem => absurd (hcall.closed fd hmem) (Nat.lt_irrefl _)⟩
    · rintro ⟨hlt, hnot⟩
      rcases Nat.lt_succ_iff_lt_or_eq.mp hlt with hlt | rfl
      · exact Or.inl ⟨hlt, hnot⟩
      · exact Or.inr rfl
  · obtain ⟨hlt, hstack⟩ := hcall.called fd' hfd'
    exact ⟨Nat.lt_succ_of_lt hlt, fun ho => hstack (hold fd' hlt ho)⟩

/-- The prompt of a password request is the only one outstanding. -/
theorem Orderly.requestFields (hs : Orderly owed s) {password : Bool} (okCb cancelCb : Bool)
    (hfree : password → s.passwordRequest = none) :
    Orderly owed (s.requestFields password okCb cancelCb) := by
  have hs₁ := hs.newRequest password (password && okCb) cancelCb
  cases password with
  | false =>
      exact hs₁.quiet (Quiet.of_eq rfl rfl rfl rfl rfl (fun _ hfd => hfd))
  | true =>
      have hprompt := hs₁.quiet (quiet_call _ (c := .promptAsync (some s.nextRequest)) rfl)
      refine ⟨hprompt.right, hprompt.handed, hprompt.isOpen, hprompt.called, hprompt.closed,
        fun fd hfd => ?_, fun fd hfd ho => ?_⟩
      · rcases List.mem_append.mp hfd with hfd | hfd
        · exact hprompt.prompts fd hfd
        · rw [List.mem_singleton, Option.some.injEq] at hfd
          rw [hfd]
          exact Nat.lt_succ_self _
      · rcases List.mem_append.mp hfd with hfd | hfd
        · -- nothing was held, so no prompt of an open request was outstanding
          have hheld : s.passwordRequest = some fd := hprompt.outstanding fd hfd ho
          rw [hfree rfl] at hheld
          cases hheld
        · exact (List.mem_singleton.mp hfd).symm

/-- `purple_account_connect` is called for the first time, in time. -/
theorem Orderly.connect (hs : Orderly owed s) (hstatus : s.status ≠ .disconnected)
    (hconnects : s.connects = []) : Orderly owed s.purpleAccountConnect := by
  have hcall : Orderly owed (s.call (.purpleAccountConnect s.status)) :=
    hs.call ⟨hstatus, hconnects⟩ rfl rfl (List.append_nil owed).symm
  exact hcall.quiet
    (Quiet.of_eq rfl rfl rfl rfl rfl (fun _ hfd => List.mem_cons_of_mem _ hfd))

/-- The account is connected after what concerns no request. -/
theorem Orderly.connect_of_quiet (hs : Orderly owed s) (hquiet : Quiet s s')
    (hstatus : s'.status ≠ .disconnected) (hconnects : s.connects = []) :
    Orderly owed s'.purpleAccountConnect := by
  have hsame : s'.connects = s.connects :=
    hquiet.filterMap_eq (fun c hc => (eq_none_of_quiet hc).2.2.2.2)
  exact (hs.quiet hquiet).connect hstatus (hsame.trans hconnects)

theorem Orderly.tpConnect (hs : Orderly owed s) (hnew : s.status = .new) (selfHandle : Bool)
    (hconnects : selfHandle → s.connects = []) : Orderly owed (s.connect selfHandle) := by
  unfold HazeConnection.connect startConnecting
  cases selfHandle with
  | false => exact hs.quiet (quiet_changeStatus s .disconnected)
  | true =>
      have hconnecting : s.changeStatus .connecting = { s with status := .connecting } := by
        simp [changeStatus, hnew]
      let s₁ := (s.changeStatus .connecting).call .purpleAccountSetCheckMail
      have hquiet : Quiet s s₁ := (quiet_changeStatus s .connecting).trans (quiet_call _ rfl)
      have hs₁ : Orderly owed s₁ := hs.quiet hquiet
      simp only [not_true, if_false]
      split
      · rename_i s₂ hstart
        split at hstart
        · cases hstart
          refine hs₁.quiet ((quiet_call s₁ (c := .promptAsync none) rfl).trans ?_)
          refine ⟨⟨[], (List.append_nil _).symm, by simp⟩, rfl, rfl, rfl, fun fd hfd => ?_,
            fun _ hfd => hfd⟩
          rcases List.mem_append.mp hfd with hfd | hfd
          · exact hfd
          · rw [List.mem_singleton] at hfd
            cases hfd
        · cases hstart
          have hquiet₂ : Quiet s (s₁.call .purpleAccountSetEnabled) :=
            hquiet.trans (quiet_call _ rfl)
          refine hs.connect_of_quiet hquiet₂ ?_ (hconnects rfl)
          show (s.changeStatus .connecting).status ≠ .disconnected
          rw [hconnecting]
          simp
      · rename_i s₂ hstart
        split at hstart <;> cases hstart

/-- A prompt ends while `password_request` holds what it was opened for, if that is open. -/
theorem Orderly.promptFinish (hs : Orderly [] s) {request : Option Nat}
    (hprompt : request ∈ s.prompts) (result : Except GError String)
    (hrequest : s.passwordRequest = request.filter (fun fd => IsOpen s fd)) :
    Orderly (ConnectionCall.promptFinish request result s.passwordRequest).receives.toList
      (s.promptFinish request result) := by
  have hreceiver : s.passwordRequest = request.filter (fun fd => fd ∉ closedIn s.calls) := by
    cases request with
    | none => exact hrequest
    | some fd =>
        have hiff : IsOpen s fd ↔ fd ∉ closedIn s.calls :=
          (hs.isOpen fd).trans (and_iff_right (hs.prompts fd hprompt))
        rw [hrequest, Option.filter_some, Option.filter_some]
        simp only [hiff]
  have hcall : Orderly _ (s.call (.promptFinish request result s.passwordRequest)) :=
    hs.call hreceiver rfl rfl rfl
  exact ⟨hcall.right, hcall.handed, hcall.isOpen, hcall.called, hcall.closed,
    fun fd hfd => hcall.prompts fd (List.mem_of_mem_erase hfd),
    fun fd hfd => hcall.outstanding fd (List.mem_of_mem_erase hfd)⟩

/-- The callback of an open request has not been run, unless it is on the stack. -/
theorem Orderly.not_called (hs : Orderly owed s) (hstack : s.stack = []) {fd : Nat}
    (hopen : IsOpen s fd) : fd ∉ calledIn s.calls := by
  intro hmem
  have hframe := (hs.called fd hmem).2 hopen
  rw [hstack] at hframe
  cases hframe

theorem promptCb_refused {request : Option Nat} {fd : Nat}
    (hrequest : s.passwordRequest = some fd) (error : GError) :
    s.promptCb request (.error error) =
      (s.promptFinish request (.error error)).requestPasswordCb fd none := by
  simp only [HazeConnection.promptCb, HazeConnection.promptFinish, call, hrequest]

theorem promptCb_answered {request : Option Nat} {fd : Nat}
    (hrequest : s.passwordRequest = some fd) (password : String) :
    s.promptCb request (.ok password) =
      { s.promptFinish request (.ok password) with
        password := some password }.requestPasswordCb fd (some password) := by
  simp only [HazeConnection.promptCb, HazeConnection.promptFinish, call, hrequest]

theorem promptCb_failed {request : Option Nat} (hrequest : s.passwordRequest = none)
    (error : GError) :
    s.promptCb request (.error error) =
      .ok (if s.status ≠ .disconnected then
        (s.promptFinish request (.error error)).disconnectWithDBusError
          (.ofError error.code) .authenticationFailed none
        else s.promptFinish request (.error error)) := by
  simp only [HazeConnection.promptCb, HazeConnection.promptFinish, call, hrequest]

theorem promptCb_connect {request : Option Nat} (hrequest : s.passwordRequest = none)
    (password : String) :
    s.promptCb request (.ok password) =
      .ok ({ s.promptFinish request (.ok password) with
        password := some password, accountPassword := some password }.call
          .purpleAccountSetEnabled).purpleAccountConnect := by
  simp only [HazeConnection.promptCb, HazeConnection.promptFinish, call, hrequest]

/-- The request that a prompt was opened for is still open. -/
def Awaits (s : HazeConnection) (request : Option Nat) : Prop := ∃ fd ∈ request, IsOpen s fd

instance (s : HazeConnection) (request : Option Nat) : Decidable (Awaits s request) :=
  inferInstanceAs (Decidable (∃ fd ∈ request, IsOpen s fd))

/-- `password_request` is right for a prompt whose request is open, and right for any other
if it holds nothing. -/
theorem Orderly.passwordRequest_eq (hs : Orderly owed s) {request : Option Nat}
    (hprompt : request ∈ s.prompts) (hsafe : Awaits s request ∨ s.passwordRequest = none) :
    s.passwordRequest = request.filter (fun fd => IsOpen s fd) := by
  by_cases hawaits : Awaits s request
  · obtain ⟨fd, rfl, hopen⟩ := hawaits
    rw [hs.outstanding fd hprompt hopen, Option.filter_some, if_pos (decide_eq_true hopen)]
  · rw [hsafe.resolve_left hawaits, eq_comm, Option.filter_eq_none_iff]
    intro fd hfd hopen
    exact hawaits ⟨fd, hfd, of_decide_eq_true hopen⟩

theorem Orderly.promptCb (hs : Orderly [] s) (hstack : s.stack = []) {request : Option Nat}
    (hprompt : request ∈ s.prompts) {result : Except GError String}
    (hsafe : Awaits s request ∨ s.passwordRequest = none ∧
      (result.isOk → s.status ≠ .disconnected ∧ s.connects = [])) :
    ∃ s', s.promptCb request result = .ok s' ∧ Orderly [] s' := by
  have hrequest := hs.passwordRequest_eq hprompt (hsafe.imp_right And.left)
  have hs₁ := hs.promptFinish hprompt result hrequest
  have hcalled : calledIn (s.promptFinish request result).calls = calledIn s.calls :=
    Log.filterMap_concat_none rfl
  cases hreq : s.passwordRequest with
  | some fd =>
      -- the request that gets the result is open, and nothing of Haze's is on the stack
      have hopen : IsOpen s fd := by
        rw [hrequest, Option.filter_eq_some_iff] at hreq
        exact of_decide_eq_true hreq.2
      have hfresh : fd ∉ calledIn (s.promptFinish request result).calls :=
        hcalled ▸ hs.not_called hstack hopen
      rw [hreq] at hs₁
      cases result with
      | error error =>
          rw [promptCb_refused hreq]
          exact Orderly.requestPasswordCb hs₁ hopen hfresh hreq
      | ok password =>
          rw [promptCb_answered hreq]
          have hs₂ : Orderly [(fd, some password)]
              { s.promptFinish request (.ok password) with password := some password } :=
            hs₁.quiet (Quiet.of_eq rfl rfl rfl rfl rfl (fun _ hfd => hfd))
          exact hs₂.requestPasswordCb hopen hfresh hreq
  | none =>
      rw [hreq] at hs₁
      cases result with
      | error error =>
          rw [promptCb_failed hreq]
          refine ⟨_, rfl, ?_⟩
          split
          · exact hs₁.quiet (quiet_disconnectWithDBusError _ _ _ _)
          · exact hs₁
      | ok password =>
          rw [promptCb_connect hreq]
          have hnot : ¬ Awaits s request := by
            rintro ⟨fd, rfl, hopen⟩
            rw [hs.outstanding fd hprompt hopen] at hreq
            cases hreq
          obtain ⟨hstatus, hconnects⟩ := (hsafe.resolve_left hnot).2 rfl
          let s₂ : HazeConnection := { s.promptFinish request (.ok password) with
            password := some password, accountPassword := some password }
          have hs₂ : Quiet (s.promptFinish request (.ok password)) s₂ :=
            Quiet.of_eq rfl rfl rfl rfl rfl (fun _ hfd => hfd)
          have hquiet : Quiet (s.promptFinish request (.ok password))
              (s₂.call .purpleAccountSetEnabled) := hs₂.trans (quiet_call s₂ rfl)
          have hfirst : (s.promptFinish request (.ok password)).connects = [] :=
            (Log.filterMap_concat_none rfl).trans hconnects
          exact ⟨_, rfl, hs₁.connect_of_quiet hquiet hstatus hfirst⟩

/-- A call returns that is not the callback of an open request. -/
theorem Orderly.pop (hs : Orderly owed s) {frame : Frame} {stack : List Frame}
    (hstack : s.stack = frame :: stack) (hframe : ∀ fd, frame = .requestCb fd → ¬ IsOpen s fd) :
    Orderly owed { s with stack := stack } := by
  refine ⟨hs.right, hs.handed, hs.isOpen, fun fd hfd => ?_, hs.closed, hs.prompts,
    hs.outstanding⟩
  obtain ⟨hlt, hmem⟩ := hs.called fd hfd
  refine ⟨hlt, fun hopen => ?_⟩
  have hold := hmem hopen
  rw [hstack] at hold
  rcases List.mem_cons.mp hold with heq | hold
  · exact absurd hopen (hframe fd heq.symm)
  · exact hold

/-- The return of a call does not close a request while another one is outstanding. -/
def ReturnsSafe (s : HazeConnection) : List Frame → Prop
  | .requestCb fd :: _ => IsOpen s fd → ClearsNothing s fd
  | _ => True

instance (s : HazeConnection) : DecidablePred (ReturnsSafe s)
  | [] => isTrue trivial
  | .requestCb fd :: _ => inferInstanceAs (Decidable (IsOpen s fd → ClearsNothing s fd))
  | .mainLoop :: _ => isTrue trivial
  | .accountConnect :: _ => isTrue trivial
  | .accountDisconnect :: _ => isTrue trivial

theorem Orderly.ret (hs : Orderly owed s) (hsafe : ReturnsSafe s s.stack) :
    Orderly owed s.ret := by
  unfold HazeConnection.ret
  split
  · exact hs
  · rename_i stack hstack
    exact (hs.pop hstack (by simp)).quiet (Quiet.of_eq rfl rfl rfl rfl rfl (fun _ hfd => hfd))
  · rename_i fd stack hstack
    rw [hstack] at hsafe
    by_cases hopen : IsOpen s fd
    · have hclose : { s with stack := stack }.purpleRequestClose fd =
          { s.closeRequest fd with stack := stack } := if_pos hopen
      rw [hclose]
      apply Orderly.pop (hs.closeRequest hopen (hsafe hopen)) hstack
      intro fd' heq
      rw [Frame.requestCb.injEq] at heq
      rw [isOpen_closeRequest, ← heq]
      exact fun h => h.2 rfl
    · have hclosed : { s with stack := stack }.purpleRequestClose fd =
          { s with stack := stack } := if_neg hopen
      rw [hclosed]
      apply hs.pop hstack
      intro fd' heq
      rw [Frame.requestCb.injEq] at heq
      rwa [← heq]
  · rename_i stack hstack
    exact hs.pop hstack (by simp)
  · rename_i stack hstack
    exact hs.pop hstack (by simp)

/-! ## Every run -/

/-- One password request at a time: none is opened, and no other request is closed, while one
is outstanding. A prompt ends while the request it was opened for is open, or while no
password request is outstanding; and then, if there is a password, the account has not been
connected and the connection is not disconnected. An ignored request is still open when its
idle runs. -/
def PasswordSafe (s : HazeConnection) : ConnectionEvent → Prop
  | .connect selfHandle => selfHandle → s.connects = []
  | .promptFinish request result =>
      Awaits s request ∨ s.passwordRequest = none ∧
        (result.isOk → s.status ≠ .disconnected ∧ s.connects = [])
  | .idle (.requestFieldsDestroy fd) =>
      IsOpen s fd ∧ ∀ d ∈ s.derefFields fd, d.cancelCb = false → ClearsNothing s fd
  | .ret => ReturnsSafe s s.stack
  | .requestFields password _ _ => password → s.passwordRequest = none
  | .closeRequest fd => ClearsNothing s fd
  | _ => True

theorem Orderly.step (hs : Orderly [] s) {e : ConnectionEvent} (hlegal : Legal s e)
    (hsafe : PasswordSafe s e) : ∃ s', connections.step s e = .ok s' ∧ Orderly [] s' := by
  cases e with
  | connect selfHandle => exact ⟨_, rfl, hs.tpConnect hlegal.2 selfHandle hsafe⟩
  | disconnect => exact ⟨_, rfl, hs.quiet (quiet_changeStatus s .disconnected)⟩
  | promptFinish request result => exact hs.promptCb hlegal.1 hlegal.2 hsafe
  | idle source =>
      have hidle : Orderly [] { s with idles := s.idles.erase source } :=
        hs.quiet (Quiet.of_eq rfl rfl rfl rfl rfl (fun _ hfd => hfd))
      cases source with
      | finishShutdown =>
          exact ⟨_, rfl, hidle.quiet (quiet_call _ (c := .finishShutdown _) rfl)⟩
      | requestFieldsDestroy fd =>
          exact hidle.requestFieldsDestroy hsafe.1 (hs.not_called hlegal.1 hsafe.1) hsafe.2
  | mainLoop =>
      refine ⟨_, rfl, hs.quiet (Quiet.of_eq rfl rfl rfl rfl rfl (fun fd hfd => ?_))⟩
      exact List.mem_cons_of_mem _ hfd
  | ret => exact ⟨_, rfl, hs.ret hsafe⟩
  | connected => exact ⟨_, rfl, hs.quiet (quiet_changeStatus s .connected)⟩
  | reportDisconnectReason reason text =>
      exact ⟨_, rfl, hs.quiet (quiet_reportDisconnectReason s reason text)⟩
  | disconnected =>
      have hoffline : Orderly [] { s with online := false } :=
        hs.quiet (Quiet.of_eq rfl rfl rfl rfl rfl (fun _ hfd => hfd))
      exact ⟨_, rfl, hoffline.quiet (quiet_disconnectedCb _)⟩
  | requestFields password okCb cancelCb =>
      exact ⟨_, rfl, hs.requestFields okCb cancelCb hsafe⟩
  | closeRequest fd =>
      exact ⟨_, rfl, hs.purpleRequestClose (fun _ => hsafe)⟩

instance (s : HazeConnection) : DecidablePred (PasswordSafe s)
  | .connect selfHandle => inferInstanceAs (Decidable (selfHandle → s.connects = []))
  | .promptFinish request result => inferInstanceAs (Decidable (Awaits s request ∨
      s.passwordRequest = none ∧ (result.isOk → s.status ≠ .disconnected ∧ s.connects = [])))
  | .idle (.requestFieldsDestroy fd) => inferInstanceAs (Decidable (IsOpen s fd ∧
      ∀ d ∈ s.derefFields fd, d.cancelCb = false → ClearsNothing s fd))
  | .idle .finishShutdown => isTrue trivial
  | .ret => inferInstanceAs (Decidable (ReturnsSafe s s.stack))
  | .requestFields password _ _ =>
      inferInstanceAs (Decidable (password → s.passwordRequest = none))
  | .closeRequest fd => inferInstanceAs (Decidable (ClearsNothing s fd))
  | .disconnect => isTrue trivial
  | .mainLoop => isTrue trivial
  | .connected => isTrue trivial
  | .reportDisconnectReason _ _ => isTrue trivial
  | .disconnected => isTrue trivial

/-- **A password answer reaches its request.** Every run with one password request at a time,
in which no prompt without a request ends with a password once the account was connected or
the connection is down, and no ignored request is closed before its idle, goes through, and
its answers reach the requests they were asked for. -/
theorem answers_reach (prplInfo : PurplePluginProtocolInfo) (password : Option String)
    (es : List ConnectionEvent)
    (hes : connections.Meets (fun s e => Legal s e ∧ PasswordSafe s e)
      (init prplInfo password) es) :
    ∃ s, connections.run (init prplInfo password) es = .ok s ∧ AnswersReach s := by
  obtain ⟨s, hrun, hs⟩ := Machine.run_ok_of_invariant
    (fun _ _ hs hok => hs.step hok.1 hok.2) (orderly_init prplInfo password) hes
  exact ⟨s, hrun, hs.answersReach⟩

/-- The account has no password: a prompt is answered to connect, libpurple finds the password
wrong and asks again, and its request is answered and closed. -/
theorem answers_reach_again :
    ∃ s, connections.run (init ⟨false, false⟩ none)
        [.connect true, .promptFinish none (.ok "secert"), .requestFields true true true, .ret,
          .promptFinish (some 0) (.ok "secret"), .ret] = .ok s ∧ AnswersReach s :=
  answers_reach ⟨false, false⟩ none
    [.connect true, .promptFinish none (.ok "secert"), .requestFields true true true, .ret,
      .promptFinish (some 0) (.ok "secret"), .ret] (by decide)

/-- Closing an ignored request loses the password request that is outstanding, whose answer
then connects the account again. -/
theorem answers_lost_by_close :
    ¬ ∀ (es : List ConnectionEvent) (s : HazeConnection),
      connections.Meets Legal (init ⟨false, false⟩ (some "secert")) es →
      connections.run (init ⟨false, false⟩ (some "secert")) es = .ok s → AnswersReach s := by
  intro hall
  have hreach := hall [.connect true, .requestFields true true true,
    .requestFields false false true, .closeRequest 1, .ret, .promptFinish (some 0) (.ok "secret")]
    _ (by decide) rfl
  have honce := hreach.connectsOnce
  revert honce
  decide

end HazeConnection

end Haze
