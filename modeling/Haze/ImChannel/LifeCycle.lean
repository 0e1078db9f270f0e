import Haze.Basic.Ledger
import Haze.Basic.Log
import Haze.ImChannel.Changes

set_option autoImplicit false

/-! # The life cycle of IM channels

What holds of the channels in every state that a connected connection reaches: the table and
the objects agree, a channel is announced and retracted in turn, a message that was received
is pending until it is acknowledged or cleared, and an accepted request has its answer. Each
is proved for the seven changes, and so for the events, which are made of them.
-/

namespace Haze

namespace ImCall

/-- The channel at a path is announced. -/
def announces (path : String) : ImCall → Bool
  | .newChannel _ path' _ _ _ _ => path' = path
  | _ => false

/-- The channel at a path is announced to be closed. -/
def retracts (path : String) : ImCall → Bool
  | .channelClosed path' => path' = path
  | _ => false

/-- The message that is taken into a queue. -/
def takes : ImCall → Option TpMessage
  | .messageReceived _ _ message => some message
  | _ => none

/-- The message that is taken into the queue of a channel, with its id. -/
def receives (chan : Nat) : ImCall → Option (Nat × TpMessage)
  | .messageReceived chan' id message => if chan' = chan then some (id, message) else none
  | _ => none

/-- The messages that leave the queue of a channel. -/
def drops (chan : Nat) (c : ImCall) : List (Nat × TpMessage) :=
  match c.removes with
  | some (chan', messages) => if chan' = chan then messages else []
  | none => []

/-- The token of a request that is accepted. -/
def accepts : ImCall → List Nat
  | .requestReturns token true => [token]
  | _ => []

end ImCall

namespace HazeImChannelFactory

variable {E : ImConnection} {s s' : HazeImChannelFactory} {t : AList (fun _ : Nat => Nat)}
  {tokens : List Nat} {messages : List TpMessage}

/-- The messages that libpurple's writes carried. -/
def carried (E : ImConnection) (s : HazeImChannelFactory) : List TpMessage :=
  s.calls.filterMap (ImCall.carries E)

/-- The messages that were taken into a queue. -/
def taken (s : HazeImChannelFactory) : List TpMessage := s.calls.filterMap ImCall.takes

/-- The messages that were taken into the queue of a channel. -/
def received (s : HazeImChannelFactory) (chan : Nat) : List (Nat × TpMessage) :=
  s.calls.filterMap (ImCall.receives chan)

/-- The messages of a channel that were acknowledged, or cleared by `Destroy`. -/
def removed (s : HazeImChannelFactory) (chan : Nat) : List (Nat × TpMessage) :=
  s.calls.flatMap (ImCall.drops chan)

/-- The tokens that were answered. -/
def answered (s : HazeImChannelFactory) : List Nat := s.calls.flatMap ImCall.answers

/-- The tokens of the requests that were accepted. -/
def accepted (s : HazeImChannelFactory) : List Nat := s.calls.flatMap ImCall.accepts

/-- There is an open channel at the path. -/
def OpenAt (s : HazeImChannelFactory) (path : String) : Prop :=
  ∃ (chan : Nat) (c : HazeIMChannel),
    s.objects[chan]? = some c ∧ c.objectPath = path ∧ c.closed = false

/-- The life cycle of the channels. -/
structure ImLifeCycle (E : ImConnection) (s : HazeImChannelFactory) : Prop where
  /-- the table has a channel under a handle if and only if it is the channel's own and the
  channel is not closed -/
  table : ∃ t, s.channels = some t ∧ ∀ (handle chan : Nat), t.lookup handle = some chan ↔
    ∃ c, s.objects[chan]? = some c ∧ c.handle = handle ∧ c.closed = false
  conv : ∀ (chan : Nat) c, s.objects[chan]? = some c → (c.closed = false ↔ c.conv.isSome)
  path : ∀ (chan : Nat) c, s.objects[chan]? = some c → c.objectPath = channelPath E c.handle
  /-- the announcements of a path come in turn, and the last of them tells whether there is an
  open channel -/
  turns : ∀ path, Log.Turn (ImCall.announces path) (ImCall.retracts path) (s.OpenAt path) s.calls
  /-- every message is taken into a queue: that of a channel to its sender -/
  taken : s.taken = s.carried E
  sender : ∀ chan, ∀ m ∈ s.received chan,
    ∃ c, s.objects[chan]? = some c ∧ c.handle = m.2.messageSender
  /-- the messages of a channel are pending, but for those that were acknowledged or cleared -/
  kept : ∀ (chan : Nat) c, s.objects[chan]? = some c →
    Ledger.Balanced (s.received chan) (c.pending.map PendingMessage.entry) (s.removed chan)
  distinct : ∀ chan, ((s.received chan).map Prod.fst).Nodup
  /-- no message is left behind in a closed channel -/
  cleared : ∀ (chan : Nat) c, s.objects[chan]? = some c → c.closed = true → c.pending = []
  /-- `Close` with messages pending announces the channel again, with them -/
  rescued : ∀ (chan : Nat) c, s.objects[chan]? = some c → c.closed = false → c.pending ≠ [] →
    (imChannels E).step s (.close chan) = .ok (rescueChannel E s chan c)
  /-- an accepted request is answered, once -/
  answered : s.answered = s.accepted

/-! ## Announcements -/

/-- The announcements of every path come in turn. -/
def Announced (s : HazeImChannelFactory) : Prop :=
  ∀ path, Log.Turn (ImCall.announces path) (ImCall.retracts path) (s.OpenAt path) s.calls

theorem announced_init : Announced init := by
  intro path
  apply Log.Turn.nil
  simp [OpenAt, init]

/-- A call that announces nothing, while the open channels stay where they are. -/
theorem Announced.silent (ha : Announced s) {c : ImCall}
    (hc : ∀ path, c.announces path = false ∧ c.retracts path = false) : Announced (s.call c) :=
  fun path => (ha path).other (hc path).1 (hc path).2

theorem openAt_setObject {chan : Nat} {c : HazeIMChannel} (hc : s.objects[chan]? = some c)
    (c' : HazeIMChannel) (hpath : c'.objectPath = c.objectPath) (hclosed : c'.closed = c.closed)
    (path : String) :
    (s.setObject chan c').OpenAt path ↔ s.OpenAt path := by
  constructor
  · rintro ⟨chan', d, hd, hdpath, hdopen⟩
    rcases (getElem?_set_eq_some hc).mp hd with ⟨-, rfl⟩ | ⟨-, hd⟩
    · exact ⟨chan, c, hc, hpath.symm.trans hdpath, hclosed.symm.trans hdopen⟩
    · exact ⟨chan', d, hd, hdpath, hdopen⟩
  · rintro ⟨chan', d, hd, hdpath, hdopen⟩
    by_cases hchan : chan' = chan
    · subst hchan
      rw [hc] at hd
      cases hd
      exact ⟨chan', c', (getElem?_set_eq_some hc).mpr (Or.inl ⟨rfl, rfl⟩),
        hpath.trans hdpath, hclosed.trans hdopen⟩
    · exact ⟨chan', d, (getElem?_set_eq_some hc).mpr (Or.inr ⟨hchan, hd⟩), hdpath, hdopen⟩

theorem Announced.setObject (ha : Announced s) {chan : Nat} {c c' : HazeIMChannel}
    (hc : s.objects[chan]? = some c) (hpath : c'.objectPath = c.objectPath)
    (hclosed : c'.closed = c.closed) : Announced (s.setObject chan c') :=
  fun path => (ha path).congr (openAt_setObject hc _ hpath hclosed path).symm

/-- Two open channels have different paths. -/
theorem Sound.path_inj (hs : Sound E t s) {chan chan' : Nat} {c c' : HazeIMChannel}
    (hc : s.objects[chan]? = some c) (hc' : s.objects[chan']? = some c')
    (hopen : c.closed = false) (hopen' : c'.closed = false)
    (hpath : c.objectPath = c'.objectPath) : chan = chan' := by
  refine hs.handle_inj hc hc' hopen hopen' (channelPath_injective E ?_)
  rw [← (hs.well chan c hc).path, ← (hs.well chan' c' hc').path, hpath]

theorem Announced.openChannel (hs : Sound E t s) (ha : Announced s) {handle : Nat}
    (initiator conv : Nat) (tokens : List Nat) (hfree : t.lookup handle = none) :
    Announced (openChannel E s t handle initiator conv tokens) := by
  intro path
  have hopenAt : (HazeImChannelFactory.openChannel E s t handle initiator conv tokens).OpenAt path ↔
      s.OpenAt path ∨ channelPath E handle = path := by
    constructor
    · rintro ⟨chan, c, hc, hpath, hopen⟩
      rcases getElem?_concat_eq_some.mp hc with hc | ⟨-, rfl⟩
      · exact Or.inl ⟨chan, c, hc, hpath, hopen⟩
      · exact Or.inr hpath
    · rintro (⟨chan, c, hc, hpath, hopen⟩ | hpath)
      · exact ⟨chan, c, getElem?_concat_eq_some.mpr (Or.inl hc), hpath, hopen⟩
      · exact ⟨_, _, getElem?_concat_eq_some.mpr (Or.inr ⟨rfl, rfl⟩), hpath, rfl⟩
  by_cases hpath : channelPath E handle = path
  · have hdown : ¬ s.OpenAt path := by
      rintro ⟨chan, c, hc, hcpath, hopen⟩
      have hhandle : c.handle = handle := by
        apply channelPath_injective E
        rw [← (hs.well chan c hc).path, hcpath, hpath]
      rw [(hs.lookup handle chan).mpr ⟨c, hc, hhandle, hopen⟩] at hfree
      cases hfree
    exact (ha path).push hdown (hopenAt.mpr (Or.inr hpath)) (by simp [ImCall.announces, hpath])
      rfl
  · apply Log.Turn.congr ((ha path).other (by simp [ImCall.announces, hpath]) rfl)
    rw [hopenAt]
    simp [hpath]

/-- The channel is retracted, and announced again. -/
theorem Announced.rescueChannel (ha : Announced s) {chan : Nat} {c : HazeIMChannel}
    (hc : s.objects[chan]? = some c) (hopen : c.closed = false) :
    Announced (rescueChannel E s chan c) := by
  intro path
  have hopenAt : (HazeImChannelFactory.rescueChannel E s chan c).OpenAt path ↔ s.OpenAt path :=
    openAt_setObject hc (rescuedChannel c) rfl rfl path
  have hclosed := (ha path).other (c := .closed c.objectPath) rfl rfl
  refine Log.Turn.congr ?_ hopenAt.symm
  by_cases hpath : c.objectPath = path
  · have hup : s.OpenAt path := ⟨chan, c, hc, hpath, hopen⟩
    -- `ChannelClosed` and `NewChannel` follow each other on the same path
    have hdown : Log.Turn (ImCall.announces path) (ImCall.retracts path) False
        (s.calls ++ [.closed c.objectPath] ++ [.channelClosed c.objectPath]) :=
      hclosed.pop hup id rfl (by simp [ImCall.retracts, hpath])
    exact hdown.push id hup (by simp [ImCall.announces, hpath]) rfl
  · exact (hclosed.other rfl (by simp [ImCall.retracts, hpath])).other
      (by simp [ImCall.announces, hpath]) rfl

theorem Announced.closeChannel (hs : Sound E t s) (ha : Announced s) {chan : Nat}
    {c : HazeIMChannel} (hc : s.objects[chan]? = some c) (hopen : c.closed = false)
    (conv : Nat) : Announced (closeChannel s t chan c conv) := by
  intro path
  have hopenAt : (HazeImChannelFactory.closeChannel s t chan c conv).OpenAt path ↔
      s.OpenAt path ∧ c.objectPath ≠ path := by
    constructor
    · rintro ⟨chan', d, hd, hdpath, hdopen⟩
      rcases (getElem?_set_eq_some hc).mp hd with ⟨-, rfl⟩ | ⟨hne, hd⟩
      · cases hdopen
      · refine ⟨⟨chan', d, hd, hdpath, hdopen⟩, fun hpath => hne ?_⟩
        exact hs.path_inj hd hc hdopen hopen (hdpath.trans hpath.symm)
    · rintro ⟨⟨chan', d, hd, hdpath, hdopen⟩, hpath⟩
      refine ⟨chan', d, (getElem?_set_eq_some hc).mpr (Or.inr ⟨?_, hd⟩), hdpath, hdopen⟩
      rintro rfl
      rw [hc] at hd
      cases hd
      exact hpath hdpath
  have hclosed := (ha path).other (c := .closed c.objectPath) rfl rfl
  by_cases hpath : c.objectPath = path
  · exact hclosed.pop ⟨chan, c, hc, hpath, hopen⟩ (fun h => (hopenAt.mp h).2 hpath) rfl
      (by simp [ImCall.retracts, hpath])
  · apply (hclosed.other rfl (by simp [ImCall.retracts, hpath])).congr
    rw [hopenAt]
    exact (and_iff_left hpath).symm

theorem Announced.change (hs : Sound E t s) (ha : Announced s)
    (h : Change E s tokens messages s') : Announced s' := by
  cases h with
  | log call hplain =>
      apply ha.silent
      intro path
      cases call <;> first | exact ⟨rfl, rfl⟩ | cases hplain
  | conversation type name uiData huiData => exact ha
  | opened t' handle initiator d _ hchannels hfree =>
      rw [hs.channels] at hchannels
      cases hchannels
      exact ha.openChannel hs initiator d.ptr tokens hfree
  | received chan c message hc =>
      have hset : Announced (s.setObject chan { c with
          pending := c.pending ++ [⟨c.recvId, false, message⟩], recvId := c.recvId + 1 }) :=
        ha.setObject hc rfl rfl
      simp only [takeReceived, hc]
      exact hset.silent (c := .messageReceived chan c.recvId message) (fun _ => ⟨rfl, rfl⟩)
  | removed chan c p call hc hremoves =>
      have hset : Announced (s.setObject chan { c with
          pending := c.pending.filter (fun m => !p m) }) := ha.setObject hc rfl rfl
      apply hset.silent
      intro path
      cases call <;> first | exact ⟨rfl, rfl⟩ | cases hremoves
  | rescued chan c hc hopen => exact ha.rescueChannel hc hopen
  | closed t' chan c conv hchannels hc hopen =>
      rw [hs.channels] at hchannels
      cases hchannels
      exact ha.closeChannel hs hc hopen conv

/-! ## Messages -/

/-- What becomes of the messages of each channel. -/
structure Kept (s : HazeImChannelFactory) : Prop where
  balanced : ∀ (chan : Nat) c, s.objects[chan]? = some c →
    Ledger.Balanced (s.received chan) (c.pending.map PendingMessage.entry) (s.removed chan)
  id_lt : ∀ (chan : Nat) c, s.objects[chan]? = some c → ∀ m ∈ s.received chan, m.1 < c.recvId
  sender : ∀ chan, ∀ m ∈ s.received chan,
    ∃ c, s.objects[chan]? = some c ∧ c.handle = m.2.messageSender
  distinct : ∀ chan, ((s.received chan).map Prod.fst).Nodup
  unborn : ∀ chan, s.objects.length ≤ chan → s.received chan = [] ∧ s.removed chan = []

theorem kept_init : Kept init where
  balanced := by simp [init]
  id_lt := by simp [init]
  sender := by simp [received, init]
  distinct := by simp [received, init]
  unborn := by simp [received, removed, init]

/-- The object is that of a channel whose queue has the same messages, or it is new. -/
def SameQueue (s : HazeImChannelFactory) (chan : Nat) (c' : HazeIMChannel) : Prop :=
  (∃ c, s.objects[chan]? = some c ∧ c'.handle = c.handle ∧ c'.recvId = c.recvId ∧
    c'.pending.map PendingMessage.entry = c.pending.map PendingMessage.entry) ∨
  (s.objects.length ≤ chan ∧ c'.pending = [])

/-- Calls that move no message, while the queues stay as they are. -/
theorem Kept.silent (hk : Kept s) {l : List ImCall} (hcalls : s'.calls = s.calls ++ l)
    (hl : ∀ c ∈ l, ∀ chan, c.receives chan = none ∧ c.drops chan = [])
    (hlength : s.objects.length ≤ s'.objects.length)
    (hqueue : ∀ (chan : Nat) c', s'.objects[chan]? = some c' → SameQueue s chan c') : Kept s' := by
  have hreceived : ∀ chan, s'.received chan = s.received chan := by
    intro chan
    have hnil : l.filterMap (ImCall.receives chan) = [] :=
      List.filterMap_eq_nil_iff.mpr (fun c hc => (hl c hc chan).1)
    rw [received, hcalls, List.filterMap_append, hnil, List.append_nil]
    rfl
  have hremoved : ∀ chan, s'.removed chan = s.removed chan := by
    intro chan
    have hnil : l.flatMap (ImCall.drops chan) = [] :=
      List.flatMap_eq_nil_iff.mpr (fun c hc => (hl c hc chan).2)
    rw [removed, hcalls, List.flatMap_append, hnil, List.append_nil]
    rfl
  refine ⟨fun chan c' hc' => ?_, fun chan c' hc' m hm => ?_, fun chan m hm => ?_,
    fun chan => ?_, fun chan hchan => ?_⟩
  · rw [hreceived, hremoved]
    rcases hqueue chan c' hc' with ⟨c, hc, -, -, hpending⟩ | ⟨hnew, hpending⟩
    · rw [hpending]
      exact hk.balanced chan c hc
    · rw [(hk.unborn chan hnew).1, (hk.unborn chan hnew).2, hpending]
      exact Ledger.Balanced.nil
  · rw [hreceived] at hm
    rcases hqueue chan c' hc' with ⟨c, hc, -, hid, -⟩ | ⟨hnew, -⟩
    · rw [hid]
      exact hk.id_lt chan c hc m hm
    · rw [(hk.unborn chan hnew).1] at hm
      cases hm
  · rw [hreceived] at hm
    obtain ⟨c, hc, hsender⟩ := hk.sender chan m hm
    have hlt : chan < s'.objects.length :=
      Nat.lt_of_lt_of_le (List.getElem?_eq_some_iff.mp hc).1 hlength
    have hc' := List.getElem?_eq_getElem hlt
    rcases hqueue chan _ hc' with ⟨d, hd, hhandle, -⟩ | ⟨hnew, -⟩
    · rw [hc] at hd
      cases hd
      exact ⟨_, hc', hhandle.trans hsender⟩
    · rw [(hk.unborn chan hnew).1] at hm
      cases hm
  · rw [hreceived]
    exact hk.distinct chan
  · rw [hreceived, hremoved]
    exact hk.unborn chan (Nat.le_trans hlength hchan)

/-- A queue with the same messages, in a list of objects where one is replaced. -/
theorem sameQueue_of_set {chan chan' : Nat} {c d : HazeIMChannel}
    (hc : s.objects[chan]? = some c) (c' : HazeIMChannel) (hhandle : c'.handle = c.handle)
    (hid : c'.recvId = c.recvId)
    (hpending : c'.pending.map PendingMessage.entry = c.pending.map PendingMessage.entry)
    (hd : (s.objects.set chan c')[chan']? = some d) : SameQueue s chan' d := by
  rcases (getElem?_set_eq_some hc).mp hd with ⟨rfl, rfl⟩ | ⟨-, hd⟩
  · exact Or.inl ⟨c, hc, hhandle, hid, hpending⟩
  · exact Or.inl ⟨d, hd, rfl, rfl, rfl⟩

theorem removed_call (s : HazeImChannelFactory) (c : ImCall) (chan : Nat) :
    (s.call c).removed chan = s.removed chan ++ c.drops chan := by
  rw [removed, call, List.flatMap_append, List.flatMap_singleton]
  rfl

/-- The queue of one channel changes: messages with new ids are taken in, others leave. -/
theorem Kept.set (hk : Kept s) {chan : Nat} {c : HazeIMChannel}
    (hc : s.objects[chan]? = some c) (d : HazeIMChannel) (taken gone : List (Nat × TpMessage))
    (hobjects : s'.objects = s.objects.set chan d) (hhandle : d.handle = c.handle)
    (hreceived : ∀ chan', s'.received chan' =
      if chan' = chan then s.received chan ++ taken else s.received chan')
    (hremoved : ∀ chan', s'.removed chan' =
      if chan' = chan then s.removed chan ++ gone else s.removed chan')
    (hqueue : Ledger.Balanced (s.received chan ++ taken) (d.pending.map PendingMessage.entry)
      (s.removed chan ++ gone))
    (hid : c.recvId ≤ d.recvId) (htaken : ∀ m ∈ taken, c.recvId ≤ m.1 ∧ m.1 < d.recvId)
    (hsender : ∀ m ∈ taken, m.2.messageSender = c.handle)
    (hdistinct : (taken.map Prod.fst).Nodup) : Kept s' := by
  have hlookup : ∀ {chan' : Nat} {c' : HazeIMChannel}, s'.objects[chan']? = some c' →
      (chan' = chan ∧ c' = d) ∨ (chan' ≠ chan ∧ s.objects[chan']? = some c') := by
    intro chan' c' hc'
    rw [hobjects] at hc'
    exact ((getElem?_set_eq_some hc).mp hc').imp_left (And.imp_right Eq.symm)
  refine ⟨fun chan' c' hc' => ?_, fun chan' c' hc' m hm => ?_, fun chan' m hm => ?_,
    fun chan' => ?_, fun chan' hchan' => ?_⟩
  · rw [hreceived, hremoved]
    rcases hlookup hc' with ⟨rfl, rfl⟩ | ⟨hne, hc'⟩
    · rw [if_pos rfl, if_pos rfl]
      exact hqueue
    · rw [if_neg hne, if_neg hne]
      exact hk.balanced chan' c' hc'
  · rw [hreceived] at hm
    rcases hlookup hc' with ⟨rfl, rfl⟩ | ⟨hne, hc'⟩
    · rw [if_pos rfl] at hm
      rcases List.mem_append.mp hm with hm | hm
      · exact Nat.lt_of_lt_of_le (hk.id_lt chan' c hc m hm) hid
      · exact (htaken m hm).2
    · rw [if_neg hne] at hm
      exact hk.id_lt chan' c' hc' m hm
  · rw [hreceived] at hm
    rw [hobjects]
    by_cases hchan : chan' = chan
    · subst hchan
      refine ⟨d, (getElem?_set_eq_some hc).mpr (Or.inl ⟨rfl, rfl⟩), hhandle.trans ?_⟩
      rw [if_pos rfl] at hm
      rcases List.mem_append.mp hm with hm | hm
      · obtain ⟨c', hc', hc'sender⟩ := hk.sender chan' m hm
        rw [hc] at hc'
        cases hc'
        exact hc'sender
      · exact (hsender m hm).symm
    · rw [if_neg hchan] at hm
      obtain ⟨c', hc', hc'sender⟩ := hk.sender chan' m hm
      exact ⟨c', (getElem?_set_eq_some hc).mpr (Or.inr ⟨hchan, hc'⟩), hc'sender⟩
  · rw [hreceived]
    by_cases hchan : chan' = chan
    · subst hchan
      rw [if_pos rfl, List.map_append]
      refine List.nodup_append.mpr ⟨hk.distinct chan', hdistinct, fun n hn n' hn' heq => ?_⟩
      -- the ids so far are smaller
      obtain ⟨m, hm, rfl⟩ := List.mem_map.mp hn
      obtain ⟨m', hm', rfl⟩ := List.mem_map.mp hn'
      have hlt := hk.id_lt chan' c hc m hm
      have hle := (htaken m' hm').1
      omega
    · rw [if_neg hchan]
      exact hk.distinct chan'
  · have hle : s.objects.length ≤ chan' := by simpa [hobjects] using hchan'
    have hchan : chan' ≠ chan := by
      have hlt := (List.getElem?_eq_some_iff.mp hc).1
      omega
    rw [hreceived, hremoved, if_neg hchan, if_neg hchan]
    exact hk.unborn chan' hle

/-- A message is taken into the queue of a channel. -/
theorem Kept.takeReceived (hk : Kept s) {chan : Nat} {c : HazeIMChannel} {message : TpMessage}
    (hc : s.objects[chan]? = some c) (hsender : message.messageSender = c.handle) :
    Kept (s.takeReceived chan message) := by
  let d : HazeIMChannel := { c with
    pending := c.pending ++ [⟨c.recvId, false, message⟩]
    recvId := c.recvId + 1 }
  have htake : s.takeReceived chan message =
      (s.setObject chan d).call (.messageReceived chan c.recvId message) := by
    simp only [HazeImChannelFactory.takeReceived, hc, d]
  rw [htake]
  refine hk.set hc d [(c.recvId, message)] [] rfl rfl (fun chan' => ?_) (fun chan' => ?_) ?_
    (Nat.le_succ _) (fun m hm => ?_) (fun m hm => ?_) (List.nodup_singleton _)
  · split
    · rename_i hchan
      subst hchan
      exact Log.filterMap_concat_some (by simp [ImCall.receives])
    · rename_i hchan
      exact Log.filterMap_concat_none (by simp [ImCall.receives, Ne.symm hchan])
  · rw [removed_call, List.append_nil]
    show s.removed chan' ++ [] = _
    split
    · rename_i hchan
      rw [hchan, List.append_nil]
    · rw [List.append_nil]
  · rw [List.map_append, List.append_nil]
    exact (hk.balanced chan c hc).push (c.recvId, message)
  · rw [List.mem_singleton] at hm
    subst hm
    exact ⟨Nat.le_refl _, Nat.lt_succ_self _⟩
  · rw [List.mem_singleton] at hm
    subst hm
    exact hsender

/-- Some messages leave the queue of a channel. -/
theorem Kept.remove (hk : Kept s) {chan : Nat} {c : HazeIMChannel} {p : PendingMessage → Bool}
    {c₁ : ImCall} (hc : s.objects[chan]? = some c)
    (hremoves : c₁.removes = some (chan, (c.pending.filter p).map PendingMessage.entry)) :
    Kept ((s.setObject chan { c with pending := c.pending.filter (fun m => !p m) }).call c₁) := by
  have hreceives : ∀ chan', c₁.receives chan' = none := by
    intro chan'
    cases c₁ <;> first | rfl | cases hremoves
  have hdrops : ∀ chan', c₁.drops chan' =
      if chan' = chan then (c.pending.filter p).map PendingMessage.entry else [] := by
    intro chan'
    by_cases hchan : chan' = chan
    · simp [ImCall.drops, hremoves, hchan]
    · simp [ImCall.drops, hremoves, hchan, Ne.symm hchan]
  have hperm : (c.pending.map PendingMessage.entry).Perm
      ((c.pending.filter (fun m => !p m)).map PendingMessage.entry ++
        (c.pending.filter p).map PendingMessage.entry) := by
    rw [← List.map_append]
    exact ((List.perm_append_comm.trans (List.filter_append_perm p c.pending)).map _).symm
  refine hk.set hc _ [] ((c.pending.filter p).map PendingMessage.entry) rfl rfl
    (fun chan' => ?_) (fun chan' => ?_) ?_ (Nat.le_refl _) (by simp) (by simp) List.nodup_nil
  · rw [List.append_nil]
    have hsame := Log.filterMap_concat_none (hreceives chan') (l := s.calls)
    split
    · rename_i hchan
      subst hchan
      exact hsame
    · exact hsame
  · rw [removed_call, hdrops]
    split
    · rename_i hchan
      subst hchan
      rfl
    · exact List.append_nil _
  · rw [List.append_nil]
    exact (hk.balanced chan c hc).settle_some hperm

theorem Kept.change (hk : Kept s) (h : Change E s tokens messages s') : Kept s' := by
  cases h with
  | log call hplain =>
      refine hk.silent (l := [call]) rfl (fun c hc chan => ?_) (Nat.le_refl _)
        (fun chan c hc => Or.inl ⟨c, hc, rfl, rfl, rfl⟩)
      rw [List.mem_singleton] at hc
      subst hc
      cases c <;> first | exact ⟨rfl, rfl⟩ | cases hplain
  | conversation type name uiData huiData =>
      exact hk.silent (l := []) (List.append_nil _).symm (by simp) (Nat.le_refl _)
        (fun chan c hc => Or.inl ⟨c, hc, rfl, rfl, rfl⟩)
  | opened t' handle initiator d =>
      refine hk.silent rfl (by simp [ImCall.receives, ImCall.drops, ImCall.removes])
        (by simp [openChannel]) (fun chan c hc => ?_)
      rcases getElem?_concat_eq_some.mp hc with hc | ⟨rfl, rfl⟩
      · exact Or.inl ⟨c, hc, rfl, rfl, rfl⟩
      · exact Or.inr ⟨Nat.le_refl _, rfl⟩
  | received chan c message hc hopen hsender => exact hk.takeReceived hc hsender
  | removed chan c p call hc hremoves => exact hk.remove hc hremoves
  | rescued chan c hc hopen =>
      refine hk.silent (by rw [rescueChannel, List.append_assoc, List.append_assoc])
        (by simp [ImCall.receives, ImCall.drops, ImCall.removes])
        (by simp [rescueChannel, setObject]) (fun chan' d hd => ?_)
      refine sameQueue_of_set hc (rescuedChannel c) rfl rfl ?_ hd
      simp [rescuedChannel, PendingMessage.entry]
  | closed t' chan c conv hchannels hc =>
      refine hk.silent (by rw [closeChannel, List.append_assoc])
        (by simp [ImCall.receives, ImCall.drops, ImCall.removes])
        (by simp [closeChannel, setObject]) (fun chan' d hd => ?_)
      exact sameQueue_of_set hc { c with conv := none, closed := true } rfl rfl rfl hd

/-! ## Tokens and writes -/

/-- What is read off the log after changes: the tokens are answered, the messages are taken
in, and no request returns and nothing is written. -/
structure Reckoned (E : ImConnection) (s : HazeImChannelFactory) (tokens : List Nat)
    (messages : List TpMessage) (s' : HazeImChannelFactory) : Prop where
  answered : s'.answered = s.answered ++ tokens
  accepted : s'.accepted = s.accepted
  taken : s'.taken = s.taken ++ messages
  carried : s'.carried E = s.carried E

theorem Reckoned.of_calls {l : List ImCall} (hcalls : s'.calls = s.calls ++ l)
    (hanswers : l.flatMap ImCall.answers = tokens) (haccepts : l.flatMap ImCall.accepts = [])
    (htakes : l.filterMap ImCall.takes = messages)
    (hcarries : l.filterMap (ImCall.carries E) = []) : Reckoned E s tokens messages s' where
  answered := by
    rw [HazeImChannelFactory.answered, hcalls, List.flatMap_append, hanswers]
    rfl
  accepted := by
    rw [HazeImChannelFactory.accepted, hcalls, List.flatMap_append, haccepts, List.append_nil]
    rfl
  taken := by
    rw [HazeImChannelFactory.taken, hcalls, List.filterMap_append, htakes]
    rfl
  carried := by
    rw [HazeImChannelFactory.carried, hcalls, List.filterMap_append, hcarries, List.append_nil]
    rfl

theorem Change.reckoned (h : Change E s tokens messages s') :
    Reckoned E s tokens messages s' := by
  cases h with
  | log call hplain =>
      cases call <;> first | exact Reckoned.of_calls rfl rfl rfl rfl rfl | cases hplain
  | conversation type name uiData huiData =>
      exact Reckoned.of_calls (l := []) (List.append_nil _).symm rfl rfl rfl rfl
  | opened t' handle initiator d =>
      exact Reckoned.of_calls rfl (List.append_nil _) rfl rfl rfl
  | received chan c message hc =>
      refine Reckoned.of_calls (l := [.messageReceived chan c.recvId message]) ?_ rfl rfl rfl rfl
      simp only [takeReceived, hc]
      rfl
  | removed chan c p call hc hremoves =>
      cases call <;> first | exact Reckoned.of_calls rfl rfl rfl rfl rfl | cases hremoves
  | rescued chan c =>
      exact Reckoned.of_calls (by rw [rescueChannel, List.append_assoc, List.append_assoc])
        rfl rfl rfl rfl
  | closed t' chan c =>
      exact Reckoned.of_calls (by rw [closeChannel, List.append_assoc]) rfl rfl rfl rfl

theorem Changes.reckoned (h : Changes E s tokens messages s') :
    Reckoned E s tokens messages s' := by
  induction h with
  | none => exact Reckoned.of_calls (l := []) (List.append_nil _).symm rfl rfl rfl rfl
  | next _ h' ih =>
      have hlast := h'.reckoned
      refine ⟨?_, hlast.accepted.trans ih.accepted, ?_, hlast.carried.trans ih.carried⟩
      · rw [hlast.answered, ih.answered, List.append_assoc]
      · rw [hlast.taken, ih.taken, List.append_assoc]

/-! ## Every run -/

/-- What every event keeps. -/
structure Alive (E : ImConnection) (s : HazeImChannelFactory) : Prop where
  sound : ∃ t, Sound E t s
  announced : Announced s
  kept : Kept s

theorem Alive.changes (hs : Alive E s) (h : Changes E s tokens messages s') : Alive E s' := by
  induction h with
  | none => exact hs
  | next _ h' ih =>
      obtain ⟨t, hsound⟩ := ih.sound
      exact ⟨hsound.change h', ih.announced.change hsound h', ih.kept.change h'⟩

/-- A call that is none of a channel's. -/
theorem Alive.call (hs : Alive E s) {c : ImCall}
    (hc : ∀ path chan, c.announces path = false ∧ c.retracts path = false ∧
      c.receives chan = none ∧ c.drops chan = []) : Alive E (s.call c) := by
  obtain ⟨t, hsound⟩ := hs.sound
  refine ⟨⟨t, hsound.call c⟩, hs.announced.silent (fun path => ?_),
    hs.kept.silent (l := [c]) rfl (fun d hd chan => ?_) (Nat.le_refl _)
      (fun chan d hd => Or.inl ⟨d, hd, rfl, rfl, rfl⟩)⟩
  · exact ⟨(hc path 0).1, (hc path 0).2.1⟩
  · rw [List.mem_singleton] at hd
    rw [hd]
    exact (hc "" chan).2.2

/-- Between events the tokens are answered and the messages are taken in. -/
structure Settled (E : ImConnection) (s : HazeImChannelFactory) : Prop where
  alive : Alive E s
  answered : s.answered = s.accepted
  taken : s.taken = s.carried E

theorem settled_init (E : ImConnection) : Settled E init where
  alive := ⟨⟨∅, sound_init E⟩, announced_init, kept_init⟩
  answered := rfl
  taken := rfl

theorem Settled.outcome (hs : Settled E s) (h : Outcome E s s') : Settled E s' := by
  cases h with
  | changes h =>
      have hreckoned := h.reckoned
      refine ⟨hs.alive.changes h, ?_, ?_⟩
      · rw [hreckoned.answered, hreckoned.accepted, List.append_nil]
        exact hs.answered
      · rw [hreckoned.taken, hreckoned.carried, List.append_nil]
        exact hs.taken
  | requested s₁ token accepted h hs' =>
      subst hs'
      have hreckoned := h.reckoned
      refine ⟨(hs.alive.changes h).call (fun _ _ => ⟨rfl, rfl, rfl, rfl⟩), ?_, ?_⟩
      · calc (s₁.call (.requestReturns token accepted)).answered
            = s₁.answered := by simp [HazeImChannelFactory.answered, HazeImChannelFactory.call,
                ImCall.answers]
          _ = s.accepted ++ (if accepted then [token] else []) := by
              rw [hreckoned.answered, hs.answered]
          _ = (s₁.call (.requestReturns token accepted)).accepted := by
              rw [← hreckoned.accepted]
              cases accepted <;> simp [HazeImChannelFactory.accepted,
                HazeImChannelFactory.call, ImCall.accepts]
      · have htaken : (s₁.call (.requestReturns token accepted)).taken = s₁.taken :=
          Log.filterMap_concat_none rfl
        have hcarried : (s₁.call (.requestReturns token accepted)).carried E = s₁.carried E :=
          Log.filterMap_concat_none rfl
        rw [htaken, hcarried, hreckoned.taken, hreckoned.carried, List.append_nil]
        exact hs.taken
  | written handle message flags mtime now h =>
      let c : ImCall := .writeIm handle message flags mtime now
      have hreckoned := h.reckoned
      refine ⟨(hs.alive.call (c := c) (fun _ _ => ⟨rfl, rfl, rfl, rfl⟩)).changes h, ?_, ?_⟩
      · have hanswered : (s.call c).answered = s.answered := by
          simp [HazeImChannelFactory.answered, HazeImChannelFactory.call, ImCall.answers, c]
        have haccepted : (s.call c).accepted = s.accepted := by
          simp [HazeImChannelFactory.accepted, HazeImChannelFactory.call, ImCall.accepts, c]
        rw [hreckoned.answered, hreckoned.accepted, List.append_nil, hanswered, haccepted]
        exact hs.answered
      · have htaken : (s.call c).taken = s.taken := Log.filterMap_concat_none rfl
        have hcarried : (s.call c).carried E = s.carried E ++ (c.carries E).toList :=
          Log.filterMap_concat _ _ _
        rw [hreckoned.taken, hreckoned.carried, htaken, hcarried, hs.taken]

theorem Settled.imLifeCycle (hs : Settled E s) : ImLifeCycle E s := by
  obtain ⟨t, hsound⟩ := hs.alive.sound
  refine ⟨⟨t, hsound.channels, hsound.lookup⟩, fun chan c hc => ?_,
    fun chan c hc => (hsound.well chan c hc).path, hs.alive.announced, hs.taken,
    hs.alive.kept.sender, hs.alive.kept.balanced, hs.alive.kept.distinct,
    fun chan c hc hclosed => ((hsound.well chan c hc).closed hclosed).2,
    fun chan c hc hopen hpending => hazeImChannelClose_rescued hsound hc hopen hpending,
    hs.answered⟩
  have hwell := hsound.well chan c hc
  constructor
  · intro hopen
    obtain ⟨d, -, hconv, -⟩ := hwell.conv hopen
    rw [hconv]
    rfl
  · intro hconv
    by_contra hclosed
    rw [Bool.not_eq_false] at hclosed
    rw [(hwell.closed hclosed).1] at hconv
    cases hconv

theorem run_settled (E : ImConnection) (es : List ImEvent)
    (hes : (imChannels E).Meets (Legal E) init es) :
    ∃ s, (imChannels E).run init es = .ok s ∧ Settled E s := by
  refine Machine.run_ok_of_invariant (M := imChannels E) (I := Settled E)
    (fun s e hs hlegal => ?_) (settled_init E) hes
  obtain ⟨t, hsound⟩ := hs.alive.sound
  obtain ⟨s', hstep, houtcome⟩ := step_outcome hsound hlegal
  exact ⟨s', hstep, hs.outcome houtcome⟩

/-- **The life cycle of IM channels.** Every run of a connected connection goes through, and
in every state the table, the announcements, the queues and the answers are right. -/
theorem im_life_cycle (E : ImConnection) (es : List ImEvent)
    (hes : (imChannels E).Meets (Legal E) init es) :
    ∃ s, (imChannels E).run init es = .ok s ∧ ImLifeCycle E s := by
  obtain ⟨s, hrun, hs⟩ := run_settled E es hes
  exact ⟨s, hrun, hs.imLifeCycle⟩

/-- A connection of the user 1, whose contact 2 is "juliet". -/
def balcony : ImConnection where
  objectPath := "/conn"
  selfHandle := 1
  ensure name := if name = "juliet" then 2 else 1
  inspect handle := if handle = 2 then "juliet" else "romeo"
  purpleStrdupWithhtml := id
  purpleMarkupStripHtml := id
  purpleMessageMeify _ := none
  selfHandle_ne_zero := by decide
  ensure_ne_zero := by
    intro name
    split <;> decide
  ensure_inspect := by
    intro name
    split <;> rfl

/-- A request for a text channel to a contact. -/
def textRequest (handle : Nat) : Asv :=
  [⟨tpIfaceChannel ++ ".ChannelType", .string tpIfaceChannelTypeText⟩,
    ⟨tpIfaceChannel ++ ".TargetHandleType", .uint tpHandleTypeContact⟩,
    ⟨tpIfaceChannel ++ ".TargetHandle", .uint handle⟩].toAList

/-- A message comes in on the channel that was asked for, which then survives being closed,
until the message is acknowledged. -/
theorem im_life_cycle_respawn :
    ∃ s, (imChannels balcony).run init
        [.request 0 (textRequest 2) true, .writeIm 0 "hello" { recv := true } 5 5, .close 0,
          .request 1 (textRequest 2) false, .acknowledge 0 [0], .close 0] = .ok s ∧
      ImLifeCycle balcony s :=
  im_life_cycle balcony
    [.request 0 (textRequest 2) true, .writeIm 0 "hello" { recv := true } 5 5, .close 0,
      .request 1 (textRequest 2) false, .acknowledge 0 [0], .close 0] (by decide)

/-- The channel to oneself is announced again as requested, and what is flagged as an error and
as sent is in no queue. -/
theorem im_life_cycle_self :
    (¬ ∀ es s, (imChannels balcony).Meets (Legal balcony) init es →
      (imChannels balcony).run init es = .ok s →
      ∀ c s', s.objects[0]? = some c → c.closed = false → c.pending ≠ [] →
        (imChannels balcony).step s (.close 0) = .ok s' →
        .newChannel 0 c.objectPath c.handle c.handle false [] ∈ s'.calls) ∧
    ¬ ∀ es s, (imChannels balcony).Meets (Legal balcony) init es →
      (imChannels balcony).run init es = .ok s →
      ∀ handle message flags mtime now, .writeIm handle message flags mtime now ∈ s.calls →
        flags.recv ∨ flags.error → s.taken ≠ [] := by
  constructor
  · intro hall
    have hannounced := hall
      [.request 0 (textRequest 1) true, .writeIm 0 "note" { recv := true } 5 5] _ (by decide) rfl
      _ _ rfl (by decide) (by decide) rfl
    revert hannounced
    decide
  · intro hall
    have htaken := hall [.conversationNew .im "juliet",
      .writeIm 0 "not delivered" { send := true, error := true } 5 5] _ (by decide) rfl
      2 "not delivered" { send := true, error := true } 5 5 (by decide) (by decide)
    revert htaken
    decide

end HazeImChannelFactory

end Haze
