import Haze.Basic.Runs
import Haze.Telepathy.Types

set_option autoImplicit false

/-! # `connection.c` and `request.c`

A connection from `Connect` to `finish_shutdown`, with libpurple's requests for passwords.
libpurple and Haze call each other back: libpurple reports errors, opens and closes requests
while a call that Haze made is under way. The calls into libpurple that have not returned yet
are kept on a `stack`. What libpurple does is a step of its own, taken while it is on the
stack, and so is the return of a call (`ret`), after which Haze goes on with what the C
function does next.

The main loop calls Haze (a D-Bus method, the end of a prompt, an idle source) when the stack
is empty, or libpurple (`mainLoop`).
-/

namespace Haze

/-- `PurpleConnectionError`; any other number is `invalid`. -/
inductive PurpleConnectionError where
  | networkError
  | invalidUsername
  | authenticationFailed
  | authenticationImpossible
  | noSslSupport
  | encryptionError
  | nameInUse
  | invalidSettings
  | certNotProvided
  | certUntrusted
  | certExpired
  | certNotActivated
  | certHostnameMismatch
  | certFingerprintMismatch
  | certSelfSigned
  | certOtherError
  | otherError
  | invalid (n : Nat)
  deriving DecidableEq

/-- `map_purple_error_to_tp` -/
def mapPurpleErrorToTp (whileConnecting : Bool) :
    PurpleConnectionError → TpConnectionStatusReason × TpErrorName
  | .networkError =>
      (.networkError, if whileConnecting then .connectionFailed else .connectionLost)
  | .authenticationFailed => (.authenticationFailed, .authenticationFailed)
  | .invalidUsername => (.authenticationFailed, .authenticationFailed)
  | .authenticationImpossible => (.authenticationFailed, .authenticationFailed)
  | .invalidSettings => (.authenticationFailed, .authenticationFailed)
  | .otherError => (.authenticationFailed, .authenticationFailed)
  | .noSslSupport => (.encryptionError, .encryptionNotAvailable)
  | .nameInUse => (.nameInUse, if whileConnecting then .alreadyConnected else .connectionReplaced)
  | .certOtherError => (.certOtherError, .certInvalid)
  | .encryptionError => (.encryptionError, .encryptionError)
  | .certNotProvided => (.certNotProvided, .certNotProvided)
  | .certUntrusted => (.certUntrusted, .certUntrusted)
  | .certExpired => (.certExpired, .certExpired)
  | .certNotActivated => (.certNotActivated, .certNotActivated)
  | .certHostnameMismatch => (.certHostnameMismatch, .certHostnameMismatch)
  | .certFingerprintMismatch => (.certFingerprintMismatch, .certFingerprintMismatch)
  | .certSelfSigned => (.certSelfSigned, .certSelfSigned)
  | .invalid _ => (.noneSpecified, .disconnected)

/-! ## The state -/

/-- A `struct fields_data`, with its address: whether `password`, `ok_cb` and `cancel_cb` are
set. The account, the fields and `user_data` are libpurple's own. -/
structure FieldsData where
  ptr : Nat
  password : Bool
  okCb : Bool
  cancelCb : Bool
  deriving DecidableEq

/-- A call into libpurple that has not returned. -/
inductive Frame where
  /-- libpurple runs from the main loop -/
  | mainLoop
  /-- `purple_account_connect` -/
  | accountConnect
  /-- `purple_account_disconnect` -/
  | accountDisconnect
  /-- the `ok_cb` or `cancel_cb` of a request, before `purple_request_close` -/
  | requestCb (fd : Nat)
  deriving DecidableEq

/-- The idle sources that Haze adds. -/
inductive Idle where
  /-- `idle_finish_shutdown` -/
  | finishShutdown
  /-- `haze_request_fields_destroy` -/
  | requestFieldsDestroy (fd : Nat)
  deriving DecidableEq

/-- The calls that Haze makes, and the steps of a request's life, with what they found. -/
inductive ConnectionCall where
  | disconnectWithDBusError (name : TpErrorName) (reason : TpConnectionStatusReason)
      (debugMessage : Option String)
  /-- `tp_base_connection_finish_shutdown`, and whether libpurple is on the stack -/
  | finishShutdown (inPurple : Bool)
  | purpleAccountSetCheckMail
  | purpleAccountSetEnabled
  /-- `purple_account_connect`, and the status in which it is called -/
  | purpleAccountConnect (status : TpConnectionStatus)
  | purpleAccountDisconnect
  /-- a prompt is opened, for a request of libpurple's or to connect -/
  | promptAsync (request : Option Nat)
  /-- the end of the prompt that was opened for `request`, and `priv->password_request` then -/
  | promptFinish (request : Option Nat) (result : Except GError String)
      (passwordRequest : Option Nat)
  /-- `haze_request_password_cb` -/
  | requestPasswordCb (fd : Nat) (password : Option String)
  | requestFields (fd : Nat)
  | okCb (fd : Nat)
  | cancelCb (fd : Nat)
  /-- `haze_close_request`, and `priv->password_request` before it -/
  | closeRequest (fd : Nat) (passwordRequest : Option Nat)

/-- What `start_connecting` asks of the protocol plugin's options. -/
structure PurplePluginProtocolInfo where
  /-- `OPT_PROTO_NO_PASSWORD` -/
  noPassword : Bool
  /-- `OPT_PROTO_PASSWORD_OPTIONAL` -/
  passwordOptional : Bool
  deriving DecidableEq

/-- A connection. -/
structure HazeConnection where
  prplInfo : PurplePluginProtocolInfo
  /-- `base->status` -/
  status : TpConnectionStatus
  /-- `priv->password` -/
  password : Option String
  /-- "Set if purple_account_request_password() was called" -/
  passwordRequest : Option Nat
  /-- "Set if purple_account_disconnect has been called or is scheduled to be called, so
  should not be called again." -/
  disconnecting : Bool
  /-- "Set to TRUE when purple_account_connect has been called." -/
  connectCalled : Bool
  /-- the account's password -/
  accountPassword : Option String
  /-- libpurple has a `PurpleConnection` for the account -/
  online : Bool
  /-- libpurple's open requests -/
  requests : List FieldsData
  /-- the address of the next `struct fields_data` -/
  nextRequest : Nat
  /-- the prompts that have not ended, by what they were opened for -/
  prompts : List (Option Nat)
  /-- the idle sources that have not run -/
  idles : List Idle
  /-- the calls into libpurple that have not returned, the innermost first -/
  stack : List Frame
  calls : List ConnectionCall

namespace HazeConnection

/-- A new connection, whose account has the stored password if there is one. -/
def init (prplInfo : PurplePluginProtocolInfo) (password : Option String) :
    HazeConnection where
  prplInfo := prplInfo
  status := .new
  password := password
  passwordRequest := none
  disconnecting := false
  connectCalled := false
  accountPassword := password
  online := false
  requests := []
  nextRequest := 0
  prompts := []
  idles := []
  stack := []
  calls := []

/-- Record a call. -/
def call (s : HazeConnection) (c : ConnectionCall) : HazeConnection :=
  { s with calls := s.calls ++ [c] }

/-! ## libpurple's entry points -/

/-- `purple_account_connect`: libpurple makes a `PurpleConnection`, unless it has one. -/
def purpleAccountConnect (s : HazeConnection) : HazeConnection :=
  { s.call (.purpleAccountConnect s.status) with
    online := true
    stack := .accountConnect :: s.stack }

/-- `purple_account_disconnect`: libpurple calls `disconnected_cb` before this returns, or
later. -/
def purpleAccountDisconnect (s : HazeConnection) : HazeConnection :=
  { s.call .purpleAccountDisconnect with stack := .accountDisconnect :: s.stack }

/-! ## Shutting down -/

/-- `tp_base_connection_finish_shutdown` -/
def finishShutdown (s : HazeConnection) : HazeConnection :=
  s.call (.finishShutdown (!s.stack.isEmpty))

/-- `_haze_connection_shut_down` -/
def shutDown (s : HazeConnection) : HazeConnection :=
  if ¬ s.disconnecting ∧ s.connectCalled then
    { s with disconnecting := true }.purpleAccountDisconnect
  else if ¬ s.connectCalled then
    -- nobody will call `disconnected_cb`
    s.finishShutdown
  else s

/-- `tp_base_connection_change_status`, which calls `shut_down` when the status becomes
`DISCONNECTED`, and then never changes it again. -/
def changeStatus (s : HazeConnection) (status : TpConnectionStatus) : HazeConnection :=
  if s.status = .disconnected ∨ s.status = status then s
  else if status = .disconnected then { s with status := status }.shutDown
  else { s with status := status }

/-- `tp_base_connection_disconnect_with_dbus_error` -/
def disconnectWithDBusError (s : HazeConnection) (name : TpErrorName)
    (reason : TpConnectionStatusReason) (debugMessage : Option String) : HazeConnection :=
  (s.call (.disconnectWithDBusError name reason debugMessage)).changeStatus .disconnected

/-- `haze_report_disconnect_reason` -/
def reportDisconnectReason (s : HazeConnection) (reason : PurpleConnectionError)
    (text : String) : HazeConnection :=
  let s := { s with disconnecting := true }
  let (tpReason, tpErrorName) := mapPurpleErrorToTp (s.status = .connecting) reason
  s.disconnectWithDBusError tpErrorName tpReason (some text)

/-- `disconnected_cb`; `finish_shutdown` waits for an idle, as "we're currently inside
libpurple code". -/
def disconnectedCb (s : HazeConnection) : HazeConnection :=
  let s := { s with disconnecting := true }
  let s := if s.status ≠ .disconnected then s.changeStatus .disconnected else s
  { s with idles := s.idles ++ [.finishShutdown] }

/-- `connected_cb`, as far as the status is concerned. -/
def connectedCb (s : HazeConnection) : HazeConnection := s.changeStatus .connected

/-! ## Requests -/

/-- `tp_simple_password_manager_prompt_async` -/
def promptAsync (s : HazeConnection) (request : Option Nat) : HazeConnection :=
  { s.call (.promptAsync request) with prompts := s.prompts ++ [request] }

/-- `haze_connection_request_password` -/
def requestPassword (s : HazeConnection) (fd : Nat) : HazeConnection :=
  { s with passwordRequest := some fd }.promptAsync (some fd)

/-- `haze_connection_cancel_password_request` -/
def cancelPasswordRequest (s : HazeConnection) : HazeConnection :=
  { s with passwordRequest := none }

/-- `haze_close_request`, which frees the `struct fields_data`. -/
def closeRequest (s : HazeConnection) (fd : Nat) : HazeConnection :=
  let s := s.call (.closeRequest fd s.passwordRequest)
  -- `password_request` is cleared whichever request it holds
  { s.cancelPasswordRequest with requests := s.requests.filter (fun d => d.ptr ≠ fd) }

/-- `purple_request_close`, which does nothing when the request is closed already. -/
def purpleRequestClose (s : HazeConnection) (fd : Nat) : HazeConnection :=
  if ∃ d ∈ s.requests, d.ptr = fd then s.closeRequest fd else s

/-- The `struct fields_data` at an address, which lives until the request is closed. -/
def derefFields (s : HazeConnection) (fd : Nat) : Option FieldsData :=
  s.requests.find? (fun d => d.ptr = fd)

/-- Run a callback of the request; `purple_request_close` follows when it returns, or at once
if there is no callback. -/
def runRequestCb (s : HazeConnection) (fd : Nat) (cb : Bool) (c : ConnectionCall) :
    HazeConnection :=
  if cb then { s.call c with stack := .requestCb fd :: s.stack }
  else s.purpleRequestClose fd

/-- `haze_request_password_cb` -/
def requestPasswordCb (s : HazeConnection) (fd : Nat) (password : Option String) :
    Except Fault HazeConnection :=
  let s := s.call (.requestPasswordCb fd password)
  match s.derefFields fd with
  | none => .error .useAfterFree
  | some d =>
      if password.isSome then .ok (s.runRequestCb fd d.okCb (.okCb fd))
      else .ok (s.runRequestCb fd d.cancelCb (.cancelCb fd))

/-- `haze_request_fields_destroy` -/
def requestFieldsDestroy (s : HazeConnection) (fd : Nat) : Except Fault HazeConnection :=
  match s.derefFields fd with
  | none => .error .useAfterFree
  | some d => .ok (s.runRequestCb fd d.cancelCb (.cancelCb fd))

/-- `haze_request_fields`; a request with the fields "password" and "remember" is a password
request, any other is ignored. -/
def requestFields (s : HazeConnection) (password okCb cancelCb : Bool) : HazeConnection :=
  let fd := s.nextRequest
  let s : HazeConnection := { s.call (.requestFields fd) with
    requests := s.requests ++ [⟨fd, password, password && okCb, cancelCb⟩]
    nextRequest := s.nextRequest + 1 }
  if password then s.requestPassword fd
  -- an ignored request is destroyed in an idle
  else { s with idles := s.idles ++ [.requestFieldsDestroy fd] }

/-! ## Connecting -/

/-- `tp_simple_password_manager_prompt_finish`, for the prompt that was opened for
`request`. -/
def promptFinish (s : HazeConnection) (request : Option Nat) (result : Except GError String) :
    HazeConnection :=
  { s.call (.promptFinish request result s.passwordRequest) with
    prompts := s.prompts.erase request }

/-- `_haze_connection_password_manager_prompt_cb` -/
def promptCb (s : HazeConnection) (request : Option Nat) (result : Except GError String) :
    Except Fault HazeConnection :=
  let s := s.promptFinish request result
  match result with
  | .error error =>
      match s.passwordRequest with
      | some fd => s.requestPasswordCb fd none
      | none =>
          -- no need to disconnect the account: `purple_account_connect` was never called
          .ok (if s.status ≠ .disconnected then
            s.disconnectWithDBusError (.ofError error.code) .authenticationFailed none else s)
  | .ok password =>
      let s := { s with password := some password }
      match s.passwordRequest with
      | some fd => s.requestPasswordCb fd (some password)
      -- taken to be the prompt that `start_connecting` opened
      | none =>
          .ok ({ s with accountPassword := some password }.call
            .purpleAccountSetEnabled).purpleAccountConnect

/-- `_haze_connection_start_connecting`, with whether it succeeds; `selfHandle` is whether
`tp_handle_ensure` accepts the account's name. -/
def startConnecting (s : HazeConnection) (selfHandle : Bool) : HazeConnection × Bool :=
  if ¬ selfHandle then (s, false)
  else
    let s := s.changeStatus .connecting
    let s := s.call .purpleAccountSetCheckMail
    if s.accountPassword = none ∧ ¬ s.prplInfo.noPassword ∧ ¬ s.prplInfo.passwordOptional then
      -- pop up auth channel
      (s.promptAsync none, true)
    else ((s.call .purpleAccountSetEnabled).purpleAccountConnect, true)

/-- telepathy-glib's `Connect`, which calls `start_connecting` on a new connection. -/
def connect (s : HazeConnection) (selfHandle : Bool) : HazeConnection :=
  match s.startConnecting selfHandle with
  | (s, true) => s
  | (s, false) => s.changeStatus .disconnected

/-- A call into libpurple returns. -/
def ret (s : HazeConnection) : HazeConnection :=
  match s.stack with
  | [] => s
  -- the flag is set after the call
  | .accountConnect :: stack => { s with stack := stack, connectCalled := true }
  | .requestCb fd :: stack => { s with stack := stack }.purpleRequestClose fd
  | .accountDisconnect :: stack => { s with stack := stack }
  | .mainLoop :: stack => { s with stack := stack }

/-! ## Events -/

/-- What the main loop and libpurple do. -/
inductive ConnectionEvent where
  | connect (selfHandle : Bool)
  | disconnect
  | promptFinish (request : Option Nat) (result : Except GError String)
  | idle (source : Idle)
  | mainLoop
  | ret
  | connected
  | reportDisconnectReason (reason : PurpleConnectionError) (text : String)
  | disconnected
  | requestFields (password okCb cancelCb : Bool)
  | closeRequest (fd : Nat)

/-- An idle source runs. -/
def runIdle (s : HazeConnection) (source : Idle) : Except Fault HazeConnection :=
  let s := { s with idles := s.idles.erase source }
  match source with
  | .finishShutdown => .ok s.finishShutdown
  | .requestFieldsDestroy fd => s.requestFieldsDestroy fd

end HazeConnection

open HazeConnection in
/-- A connection as a machine. -/
def connections : Machine HazeConnection ConnectionEvent Fault where
  step
    | s, .connect selfHandle => .ok (s.connect selfHandle)
    | s, .disconnect => .ok (s.changeStatus .disconnected)
    | s, .promptFinish request result => s.promptCb request result
    | s, .idle source => s.runIdle source
    | s, .mainLoop => .ok { s with stack := .mainLoop :: s.stack }
    | s, .ret => .ok s.ret
    | s, .connected => .ok s.connectedCb
    | s, .reportDisconnectReason reason text => .ok (s.reportDisconnectReason reason text)
    | s, .disconnected => .ok { s with online := false }.disconnectedCb
    | s, .requestFields password okCb cancelCb =>
        .ok (s.requestFields password okCb cancelCb)
    | s, .closeRequest fd => .ok (s.purpleRequestClose fd)

namespace HazeConnection

/-- What the main loop, telepathy-glib and libpurple promise: the main loop is at the bottom of
the stack; `Connect` starts a new connection only; a prompt ends once, an idle source runs
once; libpurple acts while it is on the stack, reports on a `PurpleConnection` only while it
has one, and does not disconnect the account from inside `purple_account_connect`. -/
def Legal (s : HazeConnection) : ConnectionEvent → Prop
  | .connect _ => s.stack = [] ∧ s.status = .new
  | .disconnect => s.stack = []
  | .promptFinish request _ => s.stack = [] ∧ request ∈ s.prompts
  | .idle source => s.stack = [] ∧ source ∈ s.idles
  | .mainLoop => s.stack = []
  | .ret => s.stack ≠ []
  | .connected => s.stack ≠ [] ∧ s.online
  | .reportDisconnectReason _ _ => s.stack ≠ [] ∧ s.online
  | .disconnected => s.stack ≠ [] ∧ s.online ∧ .accountConnect ∉ s.stack
  | .requestFields _ _ _ => s.stack ≠ []
  | .closeRequest fd => s.stack ≠ [] ∧ ∃ d ∈ s.requests, d.ptr = fd

instance (s : HazeConnection) : DecidablePred (Legal s)
  | .connect _ => inferInstanceAs (Decidable (s.stack = [] ∧ s.status = .new))
  | .disconnect => inferInstanceAs (Decidable (s.stack = []))
  | .promptFinish request _ => inferInstanceAs (Decidable (s.stack = [] ∧ request ∈ s.prompts))
  | .idle source => inferInstanceAs (Decidable (s.stack = [] ∧ source ∈ s.idles))
  | .mainLoop => inferInstanceAs (Decidable (s.stack = []))
  | .ret => inferInstanceAs (Decidable (s.stack ≠ []))
  | .connected => inferInstanceAs (Decidable (s.stack ≠ [] ∧ s.online))
  | .reportDisconnectReason _ _ => inferInstanceAs (Decidable (s.stack ≠ [] ∧ s.online))
  | .disconnected =>
      inferInstanceAs (Decidable (s.stack ≠ [] ∧ s.online ∧ .accountConnect ∉ s.stack))
  | .requestFields _ _ _ => inferInstanceAs (Decidable (s.stack ≠ []))
  | .closeRequest fd =>
      inferInstanceAs (Decidable (s.stack ≠ [] ∧ ∃ d ∈ s.requests, d.ptr = fd))

end HazeConnection

end Haze
