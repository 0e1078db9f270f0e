import Haze.Basic.Runs
import Haze.Protocol.Parameters
import Mathlib.Data.List.Forall2

set_option autoImplicit false

/-! # The connections of the process and libpurple's accounts

Every connection makes an account in libpurple when it is made (`haze_protocol_new_connection`) and
deletes it with itself (`haze_connection_finalize`). The account says which connection it belongs
to, in its `ui_data`, and the connection keeps a pointer to it. libpurple tells accounts apart by
the plugin and the normalised user name, which for two tables of parameters is what
`haze_protocol_identify_account` tells a client beforehand.
-/

namespace Haze

/-! ## The user name beforehand -/

namespace HazeProtocol

variable {p : HazeProtocol} {asv params params' : Asv}

/-- `haze_protocol_identify_account` -/
def identifyAccount (p : HazeProtocol) (asv : Asv) : Except Fault (Option String) :=
  match p.translateParameters asv with
  | .error fault => .error fault
  | .ok purpleParams => (getUsername purpleParams p.prplInfo false).map Prod.fst

/-- The splits are read in turn, so it does not matter whether they are taken out of the table. -/
theorem usernameLoop_keep {splits : List PurpleAccountUserSplit} {i : Nat} {string : String}
    (hsame : ∀ j, i ≤ j → params'.lookup (usersplit j) = params.lookup (usersplit j)) :
    (usernameLoop true splits i string params').map Prod.fst =
      (usernameLoop false splits i string params).map Prod.fst := by
  induction splits generalizing i string params' with
  | nil => rfl
  | cons split splits ih =>
      have hrest : ∀ j, i + 1 ≤ j →
          (params'.erase (usersplit i)).lookup (usersplit j) = params.lookup (usersplit j) := by
        intro j hj
        have hne : usersplit j ≠ usersplit i := by
          intro h
          have hij := usersplit_injective h
          omega
        rw [lookup_erase_eq, if_neg hne]
        exact hsame j (by omega)
      unfold usernameLoop
      rw [hsame i le_rfl, if_pos rfl, if_neg Bool.false_ne_true]
      cases params.lookup (usersplit i) with
      | none => exact ih hrest
      | some value =>
          cases value with
          | string s => exact ih hrest
          | _ => rfl

/-- What is left of the table does not matter for the name. -/
theorem map_fst_named {taken kept : Except Fault (String × Asv)}
    (h : taken.map Prod.fst = kept.map Prod.fst) (f g : Asv → Asv) :
    (match taken with
      | .error fault => Except.error fault
      | .ok (username, params) => Except.ok (some username, f params)).map Prod.fst =
    (match kept with
      | .error fault => Except.error fault
      | .ok (username, params) => Except.ok (some username, g params)).map Prod.fst := by
  cases taken with
  | error fault =>
      cases kept with
      | error fault' =>
          cases h
          rfl
      | ok named => cases h
  | ok named =>
      cases kept with
      | error fault' => cases h
      | ok named' =>
          have hname : named.1 = named'.1 := Except.ok.inj h
          exact congrArg (fun name => Except.ok (some name)) hname

theorem getUsername_keep (params : Asv) (prplInfo : PurpleProtocolParameters) :
    (getUsername params prplInfo true).map Prod.fst =
      (getUsername params prplInfo false).map Prod.fst := by
  unfold getUsername
  cases params.tpAsvGetString "account" with
  | none => rfl
  | some account =>
      refine map_fst_named ?_ (fun params => params.erase "account") (fun params => params)
      by_cases hsplits : prplInfo.userSplits ≠ [] ∧ params.lookup (usersplit 1) ≠ none
      · rw [if_pos hsplits, if_pos hsplits]
        exact usernameLoop_keep (fun _ _ => rfl)
      · rw [if_neg hsplits, if_neg hsplits]

/-- What identifies the account is the user name of the connection that is made. -/
theorem newConnection_of_identify {username : String} (purpleAccountsFind : String → String → Bool)
    (h : p.identifyAccount asv = .ok (some username)) :
    ∃ password params, newConnection purpleAccountsFind p asv =
      .ok ((createAccount purpleAccountsFind p username password params).mapError some) := by
  unfold identifyAccount at h
  unfold newConnection
  cases htranslate : p.translateParameters asv with
  | error fault =>
      rw [htranslate] at h
      cases h
  | ok params =>
      rw [htranslate] at h
      dsimp only at h
      rw [← getUsername_keep] at h
      obtain ⟨⟨name, rest⟩, hname, hsome⟩ := Except.map_eq_ok.mp h
      cases hsome
      dsimp only
      rw [hname]
      exact ⟨_, _, rfl⟩

/-- Options do not rename the account. -/
theorem setOptions_names {options : List PurpleAccountOption} {account : PurpleAccountRecord} :
    (setOptions options account params).1.username = account.username ∧
      (setOptions options account params).1.protocolId = account.protocolId := by
  induction options generalizing account params with
  | nil => exact ⟨rfl, rfl⟩
  | cons option options ih =>
      have hfirst := stored_setOption option account params
      obtain ⟨husername, hprotocol⟩ :
          (setOptions (option :: options) account params).1.username =
              (setOption account option params).1.username ∧
            (setOptions (option :: options) account params).1.protocolId =
              (setOption account option params).1.protocolId := ih
      exact ⟨husername.trans hfirst.username, hprotocol.trans hfirst.protocolId⟩

theorem createAccount_names {purpleAccountsFind : String → String → Bool} {username : String}
    {password : Option String} {record : PurpleAccountRecord} {left : Asv}
    (h : createAccount purpleAccountsFind p username password params = .ok (record, left)) :
    purpleAccountsFind username p.prplId = false ∧ record.username = username ∧
      record.protocolId = p.prplId := by
  unfold createAccount at h
  split at h
  · cases h
  · rename_i hfind
    have hrecord : (setOptions p.prplInfo.protocolOptions
        { PurpleAccountRecord.new username p.prplId with password := password } params).1 =
        record := congrArg Prod.fst (Except.ok.inj h)
    rw [← hrecord]
    exact ⟨eq_false_of_ne_true hfind, setOptions_names⟩

/-- A connection that is made is to an account that was not there. -/
theorem newConnection_names {purpleAccountsFind : String → String → Bool}
    {record : PurpleAccountRecord} {left : Asv}
    (h : newConnection purpleAccountsFind p asv = .ok (.ok (record, left))) :
    purpleAccountsFind record.username p.prplId = false ∧ record.protocolId = p.prplId := by
  unfold newConnection at h
  split at h
  · cases h
  · split at h
    · cases h
    · cases h
    · rename_i params _ _ username rest _
      cases hmade : createAccount purpleAccountsFind p username (rest.tpAsvGetString "password")
          (if rest.tpAsvGetString "password" ≠ none then rest.erase "password" else rest) with
      | error error =>
          dsimp only at h
          rw [hmade] at h
          cases h
      | ok made =>
          dsimp only at h
          rw [hmade] at h
          cases h
          obtain ⟨hfind, husername, hprotocol⟩ := createAccount_names hmade
          rw [husername]
          exact ⟨hfind, hprotocol⟩

end HazeProtocol

/-! ## The process -/

/-- A `HazeConnection` that has not been finalized. -/
structure LiveConnection where
  ptr : Nat
  /-- `priv->prpl_id` -/
  prplId : String
  /-- `priv->username` -/
  username : String
  /-- `self->account` -/
  account : Option Nat
  deriving DecidableEq

/-- A `PurpleAccount` in libpurple's list. -/
structure LiveAccount where
  ptr : Nat
  record : PurpleAccountRecord
  /-- `account->ui_data` -/
  uiData : Option Nat

/-- The connections, libpurple's accounts, and the next address. -/
structure HazeProcess where
  connections : List LiveConnection
  accounts : List LiveAccount
  nextPtr : Nat

namespace HazeProcess

/-- The process before any connection is made. -/
def init : HazeProcess := ⟨[], [], 0⟩

variable (normalize : String → String → String)

/-- `purple_accounts_find`. It compares user names normalised for the plugin. -/
def purpleAccountsFind (s : HazeProcess) (name prplId : String) : Bool :=
  s.accounts.any (fun account => account.record.protocolId = prplId ∧
    normalize prplId account.record.username = normalize prplId name)

/-- `haze_protocol_new_connection`, with the address of the connection. -/
def newConnection (s : HazeProcess) (p : HazeProtocol) (asv : Asv) :
    Except Fault (HazeProcess × Except (Option GError) Nat) :=
  match HazeProtocol.newConnection (s.purpleAccountsFind normalize) p asv with
  | .error fault => .error fault
  -- a connection without an account is let go, and there is no account to delete
  | .ok (.error error) => .ok (s, .error error)
  | .ok (.ok (record, _)) =>
      let conn := s.nextPtr
      let account := s.nextPtr + 1
      .ok ({ connections := s.connections ++ [⟨conn, p.prplId, record.username, some account⟩]
             accounts := s.accounts ++ [⟨account, record, some conn⟩]
             nextPtr := s.nextPtr + 2 }, .ok conn)

/-- `purple_accounts_delete` -/
def purpleAccountsDelete (s : HazeProcess) (account : Nat) : HazeProcess :=
  { s with accounts := s.accounts.filter (fun acc => acc.ptr ≠ account) }

/-- `haze_connection_finalize` -/
def hazeConnectionFinalize (s : HazeProcess) (conn : LiveConnection) : HazeProcess :=
  let s := { s with connections := s.connections.filter (fun c => c.ptr ≠ conn.ptr) }
  match conn.account with
  | none => s
  | some account => s.purpleAccountsDelete account

/-- `haze_connection_get_unique_connection_name`: the user name of the account. -/
def getUniqueConnectionName (s : HazeProcess) (conn : LiveConnection) : Option String :=
  (s.accounts.find? (fun account => conn.account = some account.ptr)).map
    (fun account => account.record.username)

/-- A connection is asked for, or the last reference to one is dropped. -/
inductive ProcessEvent where
  | newConnection (p : HazeProtocol) (asv : Asv)
  | lastUnref (conn : LiveConnection)

/-- The process as a machine. -/
def process : Machine HazeProcess ProcessEvent Fault where
  step
    | s, .newConnection p asv => (s.newConnection normalize p asv).map Prod.fst
    | s, .lastUnref conn => .ok (s.hazeConnectionFinalize conn)

/-- A reference is dropped to a connection that is there. -/
def ProcessEvent.Legal (s : HazeProcess) : ProcessEvent → Prop
  | .newConnection _ _ => True
  | .lastUnref conn => conn ∈ s.connections

/-- To libpurple, the connections are to the same account. -/
def SameAccount (conn conn' : LiveConnection) : Prop :=
  conn.prplId = conn'.prplId ∧
    normalize conn.prplId conn.username = normalize conn.prplId conn'.username

/-- The account belongs to the connection. -/
def Owns (conn : LiveConnection) (account : LiveAccount) : Prop :=
  conn.account = some account.ptr ∧ account.uiData = some conn.ptr ∧
    account.record.username = conn.username ∧ account.record.protocolId = conn.prplId

/-- **The invariant.** The accounts are those of the connections, in the same order, and no two
connections are to the same account. -/
structure Paired (s : HazeProcess) : Prop where
  fresh : ∀ conn ∈ s.connections, conn.ptr + 1 < s.nextPtr
  nodup : (s.connections.map LiveConnection.ptr).Nodup
  owns : List.Forall₂ (fun conn account => account.ptr = conn.ptr + 1 ∧ Owns conn account)
    s.connections s.accounts
  distinct : s.connections.Pairwise (fun conn conn' => ¬ SameAccount normalize conn conn')

variable {normalize} {s s' : HazeProcess} {p : HazeProtocol} {asv : Asv} {username : String}

theorem exists_of_forall₂ {α β : Type*} {R : α → β → Prop} {l₁ : List α} {l₂ : List β}
    (h : List.Forall₂ R l₁ l₂) {x : α} (hx : x ∈ l₁) : ∃ y ∈ l₂, R x y := by
  induction h with
  | nil => cases hx
  | cons hxy _ ih =>
      rcases List.mem_cons.mp hx with rfl | hx
      · exact ⟨_, List.mem_cons_self, hxy⟩
      · obtain ⟨y, hy, hR⟩ := ih hx
        exact ⟨y, List.mem_cons_of_mem _ hy, hR⟩

theorem Paired.account_of (hs : s.Paired normalize) {conn : LiveConnection}
    (hconn : conn ∈ s.connections) :
    ∃ account ∈ s.accounts, account.ptr = conn.ptr + 1 ∧ Owns conn account :=
  exists_of_forall₂ hs.owns hconn

theorem Paired.connection_of (hs : s.Paired normalize) {account : LiveAccount}
    (haccount : account ∈ s.accounts) :
    ∃ conn ∈ s.connections, account.ptr = conn.ptr + 1 ∧ Owns conn account :=
  exists_of_forall₂ (List.Forall₂.flip hs.owns) haccount

theorem Paired.eq_of_ptr (hs : s.Paired normalize) {conn conn' : LiveConnection}
    (hconn : conn ∈ s.connections) (hconn' : conn' ∈ s.connections) (h : conn.ptr = conn'.ptr) :
    conn = conn' :=
  List.inj_on_of_nodup_map hs.nodup hconn hconn' h

/-- libpurple finds the account of a connection. -/
theorem Paired.find_iff (hs : s.Paired normalize) (name prplId : String) :
    s.purpleAccountsFind normalize name prplId = true ↔ ∃ conn ∈ s.connections,
      conn.prplId = prplId ∧ normalize prplId conn.username = normalize prplId name := by
  unfold purpleAccountsFind
  rw [List.any_eq_true]
  constructor
  · rintro ⟨account, haccount, hfound⟩
    obtain ⟨conn, hconn, -, -, -, hname, hprpl⟩ := hs.connection_of haccount
    obtain ⟨hprpl', hname'⟩ := of_decide_eq_true hfound
    rw [hname] at hname'
    exact ⟨conn, hconn, hprpl.symm.trans hprpl', hname'⟩
  · rintro ⟨conn, hconn, hprpl', hname'⟩
    obtain ⟨account, haccount, -, -, -, hname, hprpl⟩ := hs.account_of hconn
    refine ⟨account, haccount, decide_eq_true ⟨hprpl.trans hprpl', ?_⟩⟩
    rw [hname]
    exact hname'

/-! ## One step -/

/-- What a request for a connection comes to: a fault, no connection, or one for the name that
identifies the account. -/
theorem newConnection_spec {reply : Except (Option GError) Nat}
    (h : s.newConnection normalize p asv = .ok (s', reply)) :
    (∃ error, reply = .error error ∧ s' = s) ∨
    ∃ record, s.purpleAccountsFind normalize record.username p.prplId = false ∧
      record.protocolId = p.prplId ∧ reply = .ok s.nextPtr ∧
      s' = { connections := s.connections ++
               [⟨s.nextPtr, p.prplId, record.username, some (s.nextPtr + 1)⟩]
             accounts := s.accounts ++ [⟨s.nextPtr + 1, record, some s.nextPtr⟩]
             nextPtr := s.nextPtr + 2 } := by
  unfold newConnection at h
  cases hnew : HazeProtocol.newConnection (s.purpleAccountsFind normalize) p asv with
  | error fault =>
      rw [hnew] at h
      cases h
  | ok result =>
      cases result with
      | error error =>
          rw [hnew] at h
          cases h
          exact Or.inl ⟨error, rfl, rfl⟩
      | ok made =>
          obtain ⟨record, left⟩ := made
          rw [hnew] at h
          cases h
          right
          obtain ⟨hfind, hprotocol⟩ := HazeProtocol.newConnection_names hnew
          exact ⟨record, hfind, hprotocol, rfl, rfl⟩

theorem Paired.newConnection (hs : s.Paired normalize) {reply : Except (Option GError) Nat}
    (h : s.newConnection normalize p asv = .ok (s', reply)) : s'.Paired normalize := by
  rcases newConnection_spec h with ⟨error, -, rfl⟩ | ⟨record, hfind, hprotocol, -, rfl⟩
  · exact hs
  · have hnew : ∀ conn ∈ s.connections, conn.ptr ≠ s.nextPtr := by
      intro conn hconn heq
      have hlt := hs.fresh conn hconn
      omega
    refine
      { fresh := fun conn hconn => ?_
        nodup := ?_
        owns := List.rel_append hs.owns (.cons ⟨rfl, rfl, rfl, rfl, hprotocol⟩ .nil)
        distinct := ?_ }
    · rcases List.mem_append.mp hconn with hconn | hconn
      · have hlt := hs.fresh conn hconn
        show conn.ptr + 1 < s.nextPtr + 2
        omega
      · rw [List.mem_singleton.mp hconn]
        show s.nextPtr + 1 < s.nextPtr + 2
        omega
    · rw [List.map_append, List.map_singleton]
      refine List.nodup_append.mpr ⟨hs.nodup, List.nodup_singleton _, ?_⟩
      intro ptr hptr ptr' hptr'
      obtain ⟨conn, hconn, rfl⟩ := List.mem_map.mp hptr
      rw [List.mem_singleton.mp hptr']
      exact hnew conn hconn
    · refine List.pairwise_append.mpr ⟨hs.distinct, List.pairwise_singleton _ _, ?_⟩
      intro conn hconn conn' hconn' hsame
      rw [List.mem_singleton.mp hconn'] at hsame
      obtain ⟨hprpl, hname⟩ := hsame
      dsimp only at hprpl hname
      rw [hprpl] at hname
      -- libpurple would have found the account of that connection
      have hfound := (hs.find_iff record.username p.prplId).mpr ⟨conn, hconn, hprpl, hname⟩
      rw [hfind] at hfound
      cases hfound

theorem Paired.finalize (hs : s.Paired normalize) {conn : LiveConnection}
    (hconn : conn ∈ s.connections) : (s.hazeConnectionFinalize conn).Paired normalize := by
  obtain ⟨account, haccount, hptr, howns, -⟩ := hs.account_of hconn
  have hfinal : s.hazeConnectionFinalize conn =
      { s with
        connections := s.connections.filter (fun c => c.ptr ≠ conn.ptr)
        accounts := s.accounts.filter (fun acc => acc.ptr ≠ conn.ptr + 1) } := by
    unfold hazeConnectionFinalize
    rw [howns, hptr]
    rfl
  rw [hfinal]
  refine
    { fresh := fun c hc => hs.fresh c (List.mem_of_mem_filter hc)
      nodup := hs.nodup.sublist (List.Sublist.map _ List.filter_sublist)
      owns := List.rel_filter (fun c acc hacc => ?_) hs.owns
      distinct := hs.distinct.sublist List.filter_sublist }
  show decide (c.ptr ≠ conn.ptr) = true ↔ decide (acc.ptr ≠ conn.ptr + 1) = true
  rw [decide_eq_true_iff, decide_eq_true_iff, hacc.1]
  exact not_congr (Nat.succ_inj).symm

theorem paired_init : init.Paired normalize where
  fresh _ h := by cases h
  nodup := List.nodup_nil
  owns := .nil
  distinct := .nil

theorem Paired.step (hs : s.Paired normalize) {e : ProcessEvent} (hlegal : e.Legal s)
    (h : (process normalize).step s e = .ok s') : s'.Paired normalize := by
  cases e with
  | newConnection p asv =>
      obtain ⟨⟨t, reply⟩, hnew, rfl⟩ := Except.map_eq_ok.mp h
      exact hs.newConnection hnew
  | lastUnref conn =>
      cases h
      exact hs.finalize hlegal

/-- In every state that is reached. -/
theorem paired_run {es : List ProcessEvent}
    (hes : (process normalize).Meets (fun s e => e.Legal s) init es)
    (hrun : (process normalize).run init es = .ok s) : s.Paired normalize :=
  Machine.run_invariant (fun _ _ _ hs hlegal h => Paired.step hs hlegal h) paired_init hes hrun

/-! ## What the invariant says -/

theorem SameAccount.symm {conn conn' : LiveConnection} (h : SameAccount normalize conn conn') :
    SameAccount normalize conn' conn := by
  obtain ⟨hprpl, hname⟩ := h
  refine ⟨hprpl.symm, ?_⟩
  rw [← hprpl]
  exact hname.symm

/-- No two connections are to the same account. -/
theorem Paired.eq_of_same (hs : s.Paired normalize) {conn conn' : LiveConnection}
    (hconn : conn ∈ s.connections) (hconn' : conn' ∈ s.connections)
    (h : SameAccount normalize conn conn') : conn = conn' := by
  by_contra hne
  have hsymm : Std.Symm (fun conn conn' => ¬ SameAccount normalize conn conn') :=
    ⟨fun _ _ hnot hsame => hnot hsame.symm⟩
  exact hs.distinct.forall hconn hconn' hne h

/-- The name of a connection is its user name. -/
theorem Paired.getUniqueConnectionName_eq (hs : s.Paired normalize) {conn : LiveConnection}
    (hconn : conn ∈ s.connections) : s.getUniqueConnectionName conn = some conn.username := by
  obtain ⟨account, haccount, hptr, howns⟩ := hs.account_of hconn
  unfold getUniqueConnectionName
  cases hfind : s.accounts.find? (fun account => conn.account = some account.ptr) with
  | none =>
      have hnot := List.find?_eq_none.mp hfind account haccount
      simp [howns.1] at hnot
  | some found =>
      have hfound : conn.account = some found.ptr := by
        simpa using List.find?_some hfind
      obtain ⟨conn', hconn', hptr', howns'⟩ :=
        hs.connection_of (List.mem_of_find?_eq_some hfind)
      have hsame : conn' = conn := by
        refine hs.eq_of_ptr hconn' hconn ?_
        have hptrs : account.ptr = found.ptr := Option.some.inj (howns.1.symm.trans hfound)
        omega
      rw [Option.map_some, howns'.2.2.1, hsame]

/-- **Connections and accounts belong together.** In every state that is reached, every connection
has an account of its own, which points back to it, libpurple has no other accounts, no two
connections are to the same account, and connections of one plugin have different names. -/
theorem accounts_belong {es : List ProcessEvent}
    (hes : (process normalize).Meets (fun s e => e.Legal s) init es)
    (hrun : (process normalize).run init es = .ok s) :
    (∀ conn ∈ s.connections, ∃ account ∈ s.accounts, Owns conn account) ∧
    (∀ account ∈ s.accounts, ∃ conn ∈ s.connections, Owns conn account) ∧
    (∀ conn ∈ s.connections, ∀ conn' ∈ s.connections,
      SameAccount normalize conn conn' → conn = conn') ∧
    ∀ conn ∈ s.connections, ∀ conn' ∈ s.connections, conn.prplId = conn'.prplId →
      s.getUniqueConnectionName conn = s.getUniqueConnectionName conn' → conn = conn' := by
  have hs := paired_run hes hrun
  refine ⟨fun conn hconn => ?_, fun account haccount => ?_, fun conn hconn conn' hconn' hsame => ?_,
    fun conn hconn conn' hconn' hprpl hname => ?_⟩
  · obtain ⟨account, haccount, -, howns⟩ := hs.account_of hconn
    exact ⟨account, haccount, howns⟩
  · obtain ⟨conn, hconn, -, howns⟩ := hs.connection_of haccount
    exact ⟨conn, hconn, howns⟩
  · exact hs.eq_of_same hconn hconn' hsame
  · rw [hs.getUniqueConnectionName_eq hconn, hs.getUniqueConnectionName_eq hconn'] at hname
    refine hs.eq_of_same hconn hconn' ⟨hprpl, ?_⟩
    rw [Option.some.inj hname]

/-- A connection to IRC. -/
def ircConnection : ProcessEvent :=
  .newConnection (.ofPlugin "prpl-irc" HazeProtocol.ircParameters) HazeProtocol.ircTable

theorem legal_ircConnection :
    (process fun _ name => name).Meets (fun s e => e.Legal s) init [ircConnection] := by
  refine ⟨trivial, ?_⟩
  split
  · trivial
  · trivial

theorem accounts_belong_irc :
    ∃ s, (process fun _ name => name).run init [ircConnection] = .ok s ∧
      s.connections.map LiveConnection.username = ["alice@irc.example.org"] ∧
      ∀ conn ∈ s.connections, ∃ account ∈ s.accounts, Owns conn account := by
  have hrun : ∃ s, (process fun _ name => name).run init [ircConnection] = .ok s ∧
      s.connections.map LiveConnection.username = ["alice@irc.example.org"] := ⟨_, rfl, by decide⟩
  obtain ⟨s, hrun, hnames⟩ := hrun
  exact ⟨s, hrun, hnames, (accounts_belong legal_ircConnection hrun).1⟩

/-- **When a connection is refused.** In every state that is reached, a table of parameters that
identifies an account is refused, and nothing changes, exactly when a connection to this account is
there; otherwise it gets a connection under the name that identifies the account. -/
theorem newConnection_refused_iff {es : List ProcessEvent}
    (hes : (process normalize).Meets (fun s e => e.Legal s) init es)
    (hrun : (process normalize).run init es = .ok s)
    (hid : p.identifyAccount asv = .ok (some username)) :
    ∃ s' reply, s.newConnection normalize p asv = .ok (s', reply) ∧
      ((∃ conn ∈ s.connections, conn.prplId = p.prplId ∧
          normalize p.prplId conn.username = normalize p.prplId username) →
        s' = s ∧ reply = .error (some ⟨.notAvailable,
          "a connection already exists to " ++ username ++ " on " ++ p.prplId⟩)) ∧
      ((∀ conn ∈ s.connections, conn.prplId = p.prplId →
          normalize p.prplId conn.username ≠ normalize p.prplId username) →
        ∃ conn, s'.connections = s.connections ++ [conn] ∧ reply = .ok conn.ptr ∧
          conn.prplId = p.prplId ∧ conn.username = username) := by
  have hs := paired_run hes hrun
  obtain ⟨password, params, hnew⟩ :=
    HazeProtocol.newConnection_of_identify (s.purpleAccountsFind normalize) hid
  unfold newConnection
  rw [hnew]
  cases hmade : HazeProtocol.createAccount (s.purpleAccountsFind normalize) p username password
      params with
  | error error =>
      refine ⟨_, _, rfl, fun _ => ?_, fun hnone => ?_⟩
      · unfold HazeProtocol.createAccount at hmade
        split at hmade
        · cases hmade
          exact ⟨rfl, rfl⟩
        · cases hmade
      · unfold HazeProtocol.createAccount at hmade
        split at hmade
        · rename_i hfind
          obtain ⟨conn, hconn, hprpl, hname⟩ := (hs.find_iff username p.prplId).mp hfind
          exact absurd hname (hnone conn hconn hprpl)
        · cases hmade
  | ok made =>
      obtain ⟨hfind, husername, -⟩ := HazeProtocol.createAccount_names hmade
      refine ⟨_, _, rfl, fun hsome => ?_, fun _ => ⟨_, rfl, rfl, rfl, husername⟩⟩
      have hfound := (hs.find_iff username p.prplId).mpr hsome
      rw [hfind] at hfound
      cases hfound

/-- A second connection to the same account is refused. -/
theorem newConnection_refused_irc :
    ∃ s, (process fun _ name => name).run init [ircConnection] = .ok s ∧
      s.newConnection (fun _ name => name) (.ofPlugin "prpl-irc" HazeProtocol.ircParameters)
        HazeProtocol.ircTable = .ok (s, .error (some ⟨.notAvailable,
          "a connection already exists to alice@irc.example.org on prpl-irc"⟩)) := by
  have hrun : ∃ s, (process fun _ name => name).run init [ircConnection] = .ok s ∧
      ∃ conn ∈ s.connections, conn.prplId = "prpl-irc" ∧
        conn.username = "alice@irc.example.org" := ⟨_, rfl, _, List.mem_singleton_self _, rfl, rfl⟩
  have hid : (HazeProtocol.ofPlugin "prpl-irc" HazeProtocol.ircParameters).identifyAccount
      HazeProtocol.ircTable = .ok (some "alice@irc.example.org") := by decide
  obtain ⟨s, hrun, hthere⟩ := hrun
  obtain ⟨s', reply, hnew, hrefused, -⟩ :=
    newConnection_refused_iff legal_ircConnection hrun hid
  obtain ⟨rfl, rfl⟩ := hrefused hthere
  exact ⟨s', hrun, hnew⟩

end HazeProcess

end Haze
