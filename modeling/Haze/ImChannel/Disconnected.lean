import Haze.ImChannel.LifeCycle

set_option autoImplicit false

/-! # After the connection is lost

When the status becomes `DISCONNECTED`, `close_all` closes every channel and takes the table
away. libpurple keeps its connection until an idle source runs, and may call back until then.
The entry points do not look at the status: one that needs a channel looks it up in the table
that is not there, makes a channel and announces it. So nothing comes of the late callbacks
exactly as long as none of them needs a channel (`no_channel_after_disconnection_iff`).
-/

namespace Haze

/-- A use of a `NULL` table or conversation, or the announcement of a channel. -/
def ImCall.stirs : ImCall → Bool
  | .critical => true
  | .newChannel _ _ _ _ _ _ => true
  | _ => false

namespace HazeImChannelFactory

variable {E : ImConnection} {s s' : HazeImChannelFactory} {t : AList (fun _ : Nat => Nat)}

/-! ## Closing all channels -/

/-- The table is gone, and libpurple's conversations belong to the contacts that their names
are the names of. -/
structure Adrift (E : ImConnection) (s : HazeImChannelFactory) : Prop where
  channels : s.channels = none
  uiData : ∀ d ∈ s.conversations, d.type = .im → d.uiData = some ⟨E.ensure d.name⟩

/-- The channel is open, for the contact, and has the conversation with the contact. -/
def Owns (s : HazeImChannelFactory) (handle chan : Nat) : Prop :=
  ∃ c d, s.objects[chan]? = some c ∧ c.handle = handle ∧ c.closed = false ∧
    d ∈ s.conversations ∧ c.conv = some d.ptr ∧ d.uiData = some ⟨handle⟩

/-- What is left when a channel has been disposed of. -/
def disposed (s : HazeImChannelFactory) (chan : Nat) (c : HazeIMChannel) (conv : Nat) :
    HazeImChannelFactory :=
  { s with
    objects := s.objects.set chan { c with conv := none, closed := true, pending := [] }
    conversations := s.conversations.filter (fun d => d.ptr ≠ conv)
    calls := s.calls ++ [.closed c.objectPath] ++ [.channelClosed c.objectPath] }

theorem hazeImChannelDispose_eq (hs : Adrift E s) {chan conv : Nat} {c : HazeIMChannel}
    (hc : s.objects[chan]? = some c) (hopen : c.closed = false) (hconv : c.conv = some conv)
    (hd : ∃ d ∈ s.conversations, d.ptr = conv) :
    s.hazeImChannelDispose E chan = .ok (disposed s chan c conv) := by
  have hdestroy : s.purpleConversationDestroy (some conv) =
      .ok { s with conversations := s.conversations.filter (fun d => d.ptr ≠ conv) } :=
    if_pos hd
  unfold hazeImChannelDispose
  simp only [hc, hopen, hconv, hdestroy, Bool.false_eq_true, if_false, emitClosed,
    imChannelClosedCb, call, setObject, hs.channels, List.set_set, disposed]

/-- An open channel goes with its conversation, and the others stay as they are. -/
theorem disposed_spec (hs : Adrift E s)
    (hinj : ∀ d ∈ s.conversations, ∀ d' ∈ s.conversations, d.ptr = d'.ptr → d = d')
    {handle chan conv : Nat} {c : HazeIMChannel} {d : PurpleConversation}
    (hc : s.objects[chan]? = some c) (hhandle : c.handle = handle)
    (hd : d ∈ s.conversations) (hptr : d.ptr = conv) (hdata : d.uiData = some ⟨handle⟩) :
    Adrift E (disposed s chan c conv) ∧
      ∀ handle' chan', handle' ≠ handle → Owns s handle' chan' →
        Owns (disposed s chan c conv) handle' chan' := by
  refine ⟨⟨hs.channels, fun d' hd' => hs.uiData d' (List.mem_of_mem_filter hd')⟩, ?_⟩
  rintro handle' chan' hne ⟨c', d', hc', hhandle', hopen', hd', hconv', hdata'⟩
  have hchan : chan' ≠ chan := by
    rintro rfl
    rw [hc] at hc'
    cases hc'
    exact hne (hhandle'.symm.trans hhandle)
  have hobject : (s.objects.set chan
      { c with conv := none, closed := true, pending := [] })[chan']? = some c' := by
    rw [List.getElem?_set_ne hchan.symm, hc']
  have hkept : d'.ptr ≠ conv := by
    intro heq
    have hsame := hinj d' hd' d hd (heq.trans hptr.symm)
    rw [hsame, hdata] at hdata'
    cases hdata'
    exact hne rfl
  exact ⟨c', d', hobject, hhandle', hopen', List.mem_filter.mpr ⟨hd', by simpa using hkept⟩,
    hconv', hdata'⟩

/-- All channels of a table are closed. -/
theorem foldlM_hazeImChannelDispose (hs : Adrift E s)
    (hinj : ∀ d ∈ s.conversations, ∀ d' ∈ s.conversations, d.ptr = d'.ptr → d = d')
    (entries : List (Sigma (fun _ : Nat => Nat))) (hkeys : entries.NodupKeys)
    (hown : ∀ e ∈ entries, Owns s e.1 e.2) :
    ∃ s', (entries.map Sigma.snd).foldlM (hazeImChannelDispose E) s = .ok s' ∧ Adrift E s' := by
  induction entries generalizing s with
  | nil => exact ⟨s, rfl, hs⟩
  | cons e entries ih =>
      obtain ⟨hfresh, hrest⟩ := List.nodupKeys_cons.mp hkeys
      obtain ⟨c, d, hc, hhandle, hopen, hd, hconv, hdata⟩ := hown e List.mem_cons_self
      have hstep := hazeImChannelDispose_eq hs hc hopen hconv ⟨d, hd, rfl⟩
      obtain ⟨hadrift, hothers⟩ := disposed_spec hs hinj hc hhandle hd rfl hdata
      have hinj' : ∀ d₁ ∈ (disposed s e.2 c d.ptr).conversations,
          ∀ d₂ ∈ (disposed s e.2 c d.ptr).conversations, d₁.ptr = d₂.ptr → d₁ = d₂ :=
        fun d₁ h₁ d₂ h₂ => hinj d₁ (List.mem_of_mem_filter h₁) d₂ (List.mem_of_mem_filter h₂)
      obtain ⟨s', hs', hadrift'⟩ := ih hadrift hinj' hrest (fun e' he' => by
        have hne : e'.1 ≠ e.1 := by
          intro heq
          exact hfresh (heq ▸ List.mem_keys_of_mem he')
        exact hothers e'.1 e'.2 hne (hown e' (List.mem_cons_of_mem _ he')))
      refine ⟨s', ?_, hadrift'⟩
      rw [List.map_cons, List.foldlM_cons, hstep]
      exact hs'

/-- The connection is lost: no table is left. -/
theorem closeAll_spec (hs : Sound E t s) : ∃ s', s.closeAll E = .ok s' ∧ Adrift E s' := by
  have hnone : Adrift E { s with channels := none } := ⟨rfl, hs.uiData⟩
  unfold closeAll
  simp only [hs.channels]
  refine foldlM_hazeImChannelDispose hnone hs.ptr_inj t.entries t.nodupKeys (fun e he => ?_)
  obtain ⟨c, hc, hhandle, hopen⟩ := (hs.lookup e.1 e.2).mp (AList.mem_lookup_iff.mpr he)
  obtain ⟨d, hd, hconv, hdata⟩ := (hs.well e.2 c hc).conv hopen
  rw [hhandle] at hdata
  exact ⟨c, d, hc, hhandle, hopen, hd, hconv, hdata⟩

/-! ## Late callbacks -/

/-- What libpurple and telepathy-glib may still call: libpurple about conversations that exist,
with `write_im` about those with a contact. -/
def Late (s : HazeImChannelFactory) : ImEvent → Prop
  | .conversationNew _ _ => True
  | .foreachChannel => True
  | .writeIm conv _ _ _ _ => ∃ d ∈ s.conversation conv, d.type = .im
  | .writeConv conv _ _ _ _ => (s.conversation conv).isSome
  | .conversationUpdated conv _ _ => (s.conversation conv).isSome
  | _ => False

/-- The callback needs no channel and no table: a new conversation, a message to a conversation
that is not with a contact, an update other than one of typing or of such a conversation. -/
def NeedsNoChannel (s : HazeImChannelFactory) : ImEvent → Prop
  | .conversationNew _ _ => True
  | .writeConv conv _ _ _ _ => ∀ d ∈ s.conversation conv, d.type ≠ .im
  | .conversationUpdated conv type _ =>
      type = .typing → ∀ d ∈ s.conversation conv, d.type ≠ .im
  | _ => False

/-- Between the two states no `NULL` table is used, no channel is made and none is announced. -/
def Quiet (s s' : HazeImChannelFactory) : Prop :=
  s'.objects = s.objects ∧ ∀ c ∈ s'.calls.drop s.calls.length, c.stirs = false

theorem quiet_refl (s : HazeImChannelFactory) : Quiet s s := by
  refine ⟨rfl, fun c hc => ?_⟩
  rw [List.drop_length] at hc
  cases hc

theorem not_quiet {l : List ImCall} (hcalls : s'.calls = s.calls ++ l) {c : ImCall} (hc : c ∈ l)
    (hstirs : c.stirs = true) : ¬ Quiet s s' := by
  rintro ⟨-, hquiet⟩
  rw [hcalls, List.drop_left] at hquiet
  rw [hquiet c hc] at hstirs
  cases hstirs

/-- A channel is looked up in the table that is not there, made and announced. -/
theorem getImChannel_adrift (hs : Adrift E s) {handle : Nat} (hhandle : handle ≠ 0) :
    ∃ s' chan l, s.getImChannel E handle handle none = .ok (s', chan, true) ∧ Adrift E s' ∧
      s'.calls = s.calls ++ ImCall.critical :: l := by
  -- two lookups and an insertion
  let s₁ : HazeImChannelFactory := ((s.call .critical).call .critical).call .critical
  obtain ⟨cs, n, d, -, -, hdata, -, hnew⟩ :=
    purpleConversationNew_spec (s := s₁) E hs.uiData .im (E.inspect handle)
  let c : HazeIMChannel :=
    { objectPath := E.objectPath ++ "/ImChannel" ++ toString handle
      handle := handle
      initiator := handle }
  let s₂ : HazeImChannelFactory :=
    { s₁ with objects := s.objects ++ [c], conversations := cs, nextConversation := n }
  have hlookup : ∀ s₃ : HazeImChannelFactory, s₃.channels = none →
      s₃.lookup handle = (s₃.call .critical, none) := by
    intro s₃ h₃
    simp only [lookup, h₃]
  have hstart : ({ (s.call .critical).call .critical with objects := s.objects ++ [c] }.insert
      handle s.objects.length).hazeImChannelStart E s.objects.length c =
        .ok (s₂.setObject s.objects.length { c with conv := some d.ptr }) := by
    have hinsert : { (s.call .critical).call .critical with objects := s.objects ++ [c] }.insert
        handle s.objects.length = { s₁ with objects := s.objects ++ [c] } := by
      simp only [insert, call, hs.channels, s₁]
    rw [hinsert]
    unfold hazeImChannelStart
    rw [hnew s₁.channels (s.objects ++ [c])]
  refine ⟨(s₂.setObject s.objects.length { c with conv := some d.ptr }).emitNewChannel E
    s.objects.length c [], s.objects.length,
    [.critical, .critical, .newChannel s.objects.length c.objectPath handle handle
      (handle = E.selfHandle) []], ?_, ⟨hs.channels, hdata⟩, ?_⟩
  · unfold getImChannel newImChannel
    rw [hlookup s hs.channels]
    dsimp only
    rw [hlookup (s.call .critical) hs.channels]
    dsimp only
    rw [if_neg (not_not.mpr rfl), if_neg hhandle]
    have hobjects : ((s.call .critical).call .critical).objects = s.objects := rfl
    rw [hobjects, hstart]
    rfl
  · simp [s₂, s₁, emitNewChannel, setObject, call, c]

theorem hazeImChannelReceive_frame (s : HazeImChannelFactory) (chan handle : Nat)
    (xhtmlMessage : String) (flags : PurpleMessageFlags) (mtime now : Int) :
    ∃ objects l, s.hazeImChannelReceive E chan handle xhtmlMessage flags mtime now =
      { s with objects := objects, calls := s.calls ++ l } := by
  have htake : ∀ message, ∃ objects l, s.takeReceived chan message =
      { s with objects := objects, calls := s.calls ++ l } := by
    intro message
    unfold takeReceived
    split
    · exact ⟨s.objects, [], by rw [List.append_nil]⟩
    · exact ⟨_, _, rfl⟩
  have hsame : ∃ objects l, s = { s with objects := objects, calls := s.calls ++ l } :=
    ⟨s.objects, [], by rw [List.append_nil]⟩
  unfold hazeImChannelReceive
  dsimp only
  split
  · exact htake _
  · split
    · exact hsame
    · split
      · exact htake _
      · exact hsame

/-- A message to a contact uses the table that is not there. -/
theorem hazeWriteIm_adrift (hs : Adrift E s) {d : PurpleConversation}
    (hd : d ∈ s.conversations) (him : d.type = .im) (xhtmlMessage : String)
    (flags : PurpleMessageFlags) (mtime now : Int) :
    ∃ s', s.hazeWriteIm E d xhtmlMessage flags mtime now = .ok s' ∧ Adrift E s' ∧
      ¬ Quiet s s' := by
  have hdata := hs.uiData d hd him
  let written : ImCall := .writeIm (E.ensure d.name) xhtmlMessage flags mtime now
  have hcalled : Adrift E (s.call written) := ⟨hs.channels, hs.uiData⟩
  obtain ⟨s₁, chan, l, hget, h₁, hcalls⟩ := getImChannel_adrift hcalled (E.ensure_ne_zero d.name)
  obtain ⟨objects, l', hreceive⟩ := hazeImChannelReceive_frame (E := E) s₁ chan
    (E.ensure d.name) xhtmlMessage flags mtime now
  refine ⟨{ s₁ with objects := objects, calls := s₁.calls ++ l' }, ?_,
    ⟨h₁.channels, h₁.uiData⟩, ?_⟩
  · unfold hazeWriteIm
    simp only [hdata, hget, hreceive, written]
  · have hall : s₁.calls ++ l' = s.calls ++ (written :: .critical :: (l ++ l')) := by
      rw [hcalls, call]
      simp
    exact not_quiet (c := .critical) hall (by simp) rfl

/-- Every late callback goes through, and it is quiet exactly when it needs no channel. -/
theorem late_step (hs : Adrift E s) {e : ImEvent} (hlate : Late s e) :
    ∃ s', (imChannels E).step s e = .ok s' ∧ Adrift E s' ∧ (Quiet s s' ↔ NeedsNoChannel s e) := by
  cases e with
  | conversationNew type name =>
      obtain ⟨cs, n, d, -, -, hdata, -, hnew⟩ := purpleConversationNew_spec E hs.uiData type name
      refine ⟨{ s with conversations := cs, nextConversation := n }, ?_, ⟨hs.channels, hdata⟩, ?_⟩
      · have hnew' := hnew s.channels s.objects
        simp only [imChannels, step]
        rw [hnew']
      · exact iff_of_true (quiet_refl s) trivial
  | foreachChannel =>
      refine ⟨s.call .critical, ?_, ⟨hs.channels, hs.uiData⟩, ?_⟩
      · simp only [imChannels, step, foreachChannel, hs.channels]
      · exact iff_of_false (not_quiet (c := .critical) rfl (by simp) rfl) id
  | writeIm conv message flags mtime now =>
      obtain ⟨d, hd, him⟩ := hlate
      obtain ⟨s', hwrite, hadrift, hnot⟩ :=
        hazeWriteIm_adrift hs (mem_of_conversation hd) him message flags mtime now
      refine ⟨s', ?_, hadrift, iff_of_false hnot id⟩
      simp only [imChannels, step, withConversation, Option.mem_def.mp hd, hwrite]
  | writeConv conv message flags mtime now =>
      obtain ⟨d, hd⟩ := Option.isSome_iff_exists.mp hlate
      have hneeds : NeedsNoChannel s (.writeConv conv message flags mtime now) ↔ d.type ≠ .im := by
        simp [NeedsNoChannel, hd]
      simp only [imChannels, step, withConversation, hd, hazeWriteConv]
      by_cases him : d.type = .im
      · obtain ⟨s', hwrite, hadrift, hnot⟩ :=
          hazeWriteIm_adrift hs (mem_of_conversation hd) him message flags mtime now
        refine ⟨s', by rw [if_pos him, hwrite], hadrift, iff_of_false hnot ?_⟩
        exact fun h => hneeds.mp h him
      · exact ⟨s, if_neg him, hs, iff_of_true (quiet_refl s) (hneeds.mpr him)⟩
  | conversationUpdated conv type state =>
      obtain ⟨d, hd⟩ := Option.isSome_iff_exists.mp hlate
      have hneeds : NeedsNoChannel s (.conversationUpdated conv type state) ↔
          (type = .typing → d.type ≠ .im) := by
        simp [NeedsNoChannel, hd]
      simp only [imChannels, step, withConversation, hd]
      unfold conversationUpdatedCb
      by_cases htyping : type = .typing
      · by_cases him : d.type = .im
        · have hdata := hs.uiData d (mem_of_conversation hd) him
          obtain ⟨s₁, chan, l, hget, h₁, hcalls⟩ :=
            getImChannel_adrift hs (E.ensure_ne_zero d.name)
          have hall : (s₁.call (.chatStateChanged chan (E.ensure d.name) state)).calls = s.calls ++
              (.critical :: (l ++ [.chatStateChanged chan (E.ensure d.name) state])) := by
            rw [call, hcalls]
            simp
          refine ⟨s₁.call (.chatStateChanged chan (E.ensure d.name) state), ?_,
            ⟨h₁.channels, h₁.uiData⟩, iff_of_false ?_ ?_⟩
          · rw [if_neg (not_not.mpr htyping), if_neg (not_not.mpr him)]
            simp only [hdata, hget]
          · exact not_quiet (c := .critical) hall (by simp) rfl
          · exact fun h => hneeds.mp h htyping him
        · refine ⟨s, ?_, hs, iff_of_true (quiet_refl s) (hneeds.mpr (fun _ => him))⟩
          rw [if_neg (not_not.mpr htyping), if_pos him]
      · refine ⟨s, if_pos htyping, hs, iff_of_true (quiet_refl s) (hneeds.mpr ?_)⟩
        exact fun h => absurd h htyping
  | request => exact absurd hlate id
  | acknowledge => exact absurd hlate id
  | close => exact absurd hlate id
  | destroy => exact absurd hlate id
  | disconnected => exact absurd hlate id

/-- **After the connection is lost.** However a connection has run, losing it leaves no table;
every order of late callbacks goes through; and the factory uses no `NULL` table, makes no
channel and announces none in any of them if and only if none of them needs a channel. -/
theorem no_channel_after_disconnection_iff (E : ImConnection) (es : List ImEvent)
    (hes : (imChannels E).Meets (Legal E) init es) :
    ∃ s, (imChannels E).run init (es ++ [.disconnected]) = .ok s ∧ s.channels = none ∧
      ∀ late, (imChannels E).Meets Late s late →
        (∃ s', (imChannels E).run s late = .ok s') ∧
        ((imChannels E).Meets (fun s e => ∀ s', (imChannels E).step s e = .ok s' → Quiet s s')
            s late ↔
          (imChannels E).Meets NeedsNoChannel s late) := by
  obtain ⟨s₁, hrun, hsettled⟩ := run_settled E es hes
  obtain ⟨t, hsound⟩ := hsettled.alive.sound
  obtain ⟨s, hclose, hadrift⟩ := closeAll_spec hsound
  refine ⟨s, ?_, hadrift.channels, fun late hlate => ?_⟩
  · have hstep : (imChannels E).step s₁ .disconnected = .ok s := hclose
    rw [Machine.run_append_ok _ hrun, Machine.run_cons_ok _ [] hstep, Machine.run_nil]
  · obtain ⟨s', hrun', -⟩ := Machine.run_ok_of_invariant (M := imChannels E) (I := Adrift E)
      (fun s e hs he => by
        obtain ⟨s', hstep, hs', -⟩ := late_step hs he
        exact ⟨s', hstep, hs'⟩) hadrift hlate
    refine ⟨⟨s', hrun'⟩, ?_⟩
    refine Machine.meets_iff_of_invariant (I := Adrift E) (fun s e s' hs he hstep => ?_) hadrift
      hlate hrun'
    obtain ⟨s₂, hstep₂, hs₂, hquiet⟩ := late_step hs he
    rw [hstep] at hstep₂
    cases hstep₂
    exact ⟨(Machine.forall_step_iff hstep).trans hquiet, fun _ => hs₂⟩

/-- A channel is open when the connection is lost; a conversation is begun afterwards. -/
theorem no_channel_after_disconnection_iff_open :
    ∃ s, (imChannels balcony).run init
        ([.request 0 (textRequest 2) true, .writeIm 0 "hello" { recv := true } 5 5] ++
          [.disconnected]) = .ok s ∧ s.channels = none ∧
      ∀ late, (imChannels balcony).Meets Late s late →
        (∃ s', (imChannels balcony).run s late = .ok s') ∧
        ((imChannels balcony).Meets
            (fun s e => ∀ s', (imChannels balcony).step s e = .ok s' → Quiet s s') s late ↔
          (imChannels balcony).Meets NeedsNoChannel s late) :=
  no_channel_after_disconnection_iff balcony
    [.request 0 (textRequest 2) true, .writeIm 0 "hello" { recv := true } 5 5] (by decide)

/-- A message that comes in after the connection is lost opens a channel. -/
theorem late_message_opens_channel :
    ∃ s s', (imChannels balcony).run init [.conversationNew .im "juliet", .disconnected] = .ok s ∧
      s.channels = none ∧ Late s (.writeIm 0 "hello" { recv := true } 5 5) ∧
      (imChannels balcony).step s (.writeIm 0 "hello" { recv := true } 5 5) = .ok s' ∧
      ImCall.critical ∈ s'.calls ∧
      .newChannel 0 "/conn/ImChannel2" 2 2 false [] ∈ s'.calls ∧ ¬ Quiet s s' := by
  refine ⟨_, _, rfl, rfl, ⟨_, rfl, rfl⟩, rfl, by decide, by decide, ?_⟩
  rintro ⟨hobjects, -⟩
  revert hobjects
  decide

end HazeImChannelFactory

end Haze
