import Haze.ImChannel.LifeCycle
import Haze.ImChannel.Sending

set_option autoImplicit false

/-! # What is sent and what arrives

The contacts of a user send their messages from Haze too: `haze_im_channel_send` writes the text of
a message in HTML, libpurple brings it to the user's side, and `haze_im_channel_receive` makes a
message of it. Over every run each accepted message is received once and in its turn. It arrives
with its type and its text, unless it is an ordinary message whose text libpurple takes for an
action (`messages_arrive_iff`).
-/

namespace Haze

/-- The number of a type on the bus. -/
def TpChannelTextMessageType.toNat : TpChannelTextMessageType → Nat
  | .normal => 0
  | .action => 1
  | .autoReply => 3
  | .deliveryReport => 4

/-- The sender, the type and the text of a message. -/
def TpMessage.said (m : TpMessage) : Nat × Nat × String :=
  (m.messageSender, m.messageType.toNat, m.content)

/-- libpurple's text functions, on what Haze sends: text is read back, apart from white space that
HTML does not keep, and "/me " makes an action. -/
structure ReadsBack (E : ImConnection) : Prop where
  strips : ∀ text : String, '\t' ∉ text.toList → '\r' ∉ text.toList →
    E.purpleMarkupStripHtml (E.purpleStrdupWithhtml (escapeForPurple text)) = text
  meifies : ∀ text, E.purpleMessageMeify ("/me " ++ text) = some text

/-- What happens between a user and the contacts. -/
inductive DialogueEvent where
  /-- the contact sends the message, and libpurple writes it in the user's conversation -/
  | sends (handle conv : Nat) (message : List Asv) (mtime now : Int)
  /-- something else on the user's side -/
  | here (e : HazeImChannelFactory.ImEvent)

namespace DialogueEvent

open HazeImChannelFactory

/-- What the sender means, when the message is accepted. -/
def meant : DialogueEvent → Option (Nat × Nat × String)
  | .sends handle _ message _ _ =>
      match message, hazeImChannelSend message with
      | [header, body], .ok _ => (body.tpAsvGetString "content").map fun text =>
          (handle, header.tpAsvGetUint32 "message-type", text)
      | _, _ => none
  | .here _ => none

/-- What the user's Haze makes of it. -/
def arrives (E : ImConnection) : DialogueEvent → Option (Nat × Nat × String)
  | .sends handle _ message mtime now =>
      match hazeImChannelSend message with
      | .ok (html, flags) => some (makeMessage E handle
          (E.purpleMarkupStripHtml (E.purpleStrdupWithhtml html)) { flags with recv := true }
          mtime now).said
      | .error _ => none
  | .here _ => none

/-- The text has no white space that is lost. -/
def Readable : DialogueEvent → Prop
  | .sends _ _ [_, body] _ _ => ∀ text ∈ body.tpAsvGetString "content",
      '\t' ∉ text.toList ∧ '\r' ∉ text.toList
  | _ => True

/-- The message is not an ordinary one whose text libpurple takes for an action. -/
def Unmistakable (E : ImConnection) (e : DialogueEvent) : Prop :=
  ∀ m ∈ e.meant, m.2.1 = 0 → E.purpleMessageMeify m.2.2 = none

/-- libpurple writes no message from the contact, and no error. -/
def Wordless : ImEvent → Prop
  | .writeIm _ _ flags _ _ => flags.recv = false ∧ (flags.error = true → flags.send = true)
  | .writeConv _ _ flags _ _ => flags.recv = false ∧ (flags.error = true → flags.send = true)
  | _ => True

/-- A message is written in a conversation with its sender; besides, libpurple writes nothing. -/
def Legal (E : ImConnection) (s : HazeImChannelFactory) : DialogueEvent → Prop
  | .sends handle conv _ _ _ =>
      ∃ d ∈ s.conversation conv, d.type = .im ∧ E.ensure d.name = handle
  | .here e => HazeImChannelFactory.Legal E s e ∧ Wordless e

instance : DecidablePred Readable
  | .sends _ _ [_, body] _ _ => inferInstanceAs (Decidable (∀ text ∈ body.tpAsvGetString "content",
      '\t' ∉ text.toList ∧ '\r' ∉ text.toList))
  | .sends _ _ [] _ _ => isTrue trivial
  | .sends _ _ [_] _ _ => isTrue trivial
  | .sends _ _ (_ :: _ :: _ :: _) _ _ => isTrue trivial
  | .here _ => isTrue trivial

instance (E : ImConnection) : DecidablePred (Unmistakable E) := fun e =>
  inferInstanceAs (Decidable (∀ m ∈ e.meant, m.2.1 = 0 → E.purpleMessageMeify m.2.2 = none))

instance : DecidablePred Wordless
  | .writeIm _ _ flags _ _ => inferInstanceAs
      (Decidable (flags.recv = false ∧ (flags.error = true → flags.send = true)))
  | .writeConv _ _ flags _ _ => inferInstanceAs
      (Decidable (flags.recv = false ∧ (flags.error = true → flags.send = true)))
  | .request _ _ _ => isTrue trivial
  | .foreachChannel => isTrue trivial
  | .conversationNew _ _ => isTrue trivial
  | .conversationUpdated _ _ _ => isTrue trivial
  | .acknowledge _ _ => isTrue trivial
  | .close _ => isTrue trivial
  | .destroy _ => isTrue trivial
  | .disconnected => isTrue trivial

instance (E : ImConnection) (s : HazeImChannelFactory) : DecidablePred (Legal E s)
  | .sends handle conv _ _ _ => inferInstanceAs
      (Decidable (∃ d ∈ s.conversation conv, d.type = .im ∧ E.ensure d.name = handle))
  | .here e => inferInstanceAs (Decidable (HazeImChannelFactory.Legal E s e ∧ Wordless e))

end DialogueEvent

/-- The IM channels of the user as a machine, with the contacts. -/
def dialogues (E : ImConnection) : Machine HazeImChannelFactory DialogueEvent Fault where
  step
    | s, .sends _ conv message mtime now =>
        match hazeImChannelSend message with
        | .ok (html, flags) =>
            (imChannels E).step s (.writeIm conv html { flags with recv := true } mtime now)
        | .error _ => .ok s
    | s, .here e => (imChannels E).step s e

namespace DialogueEvent

open HazeImChannelFactory

variable {E : ImConnection} {s s' : HazeImChannelFactory} {t : AList (fun _ : Nat => Nat)}
  {e : DialogueEvent} {es : List DialogueEvent}

/-! ## One message -/

/-- What is accepted: its type, and what libpurple is given. -/
theorem hazeImChannelSend_cases {message : List Asv} {html : String} {flags : PurpleMessageFlags}
    (h : hazeImChannelSend message = .ok (html, flags)) :
    ∃ header body text, message = [header, body] ∧ body.tpAsvGetString "content" = some text ∧
      (header.tpAsvGetUint32 "message-type" = 1 ∧ html = escapeForPurple ("/me " ++ text) ∧
          flags = {} ∨
        header.tpAsvGetUint32 "message-type" = 3 ∧ html = escapeForPurple text ∧
          flags = { autoResp := true } ∨
        header.tpAsvGetUint32 "message-type" = 0 ∧ html = escapeForPurple text ∧ flags = {}) := by
  match message with
  | [] => cases h
  | [_] => cases h
  | _ :: _ :: _ :: _ => cases h
  | [header, body] =>
      simp only [hazeImChannelSend] at h
      cases hcontent : body.tpAsvGetString "content" with
      | none =>
          rw [hcontent] at h
          split_ifs at h
      | some text =>
          rw [hcontent] at h
          refine ⟨header, body, text, rfl, hcontent, ?_⟩
          split_ifs at h with htype haction hauto hnormal
          · obtain ⟨hhtml, hflags⟩ := Prod.mk.inj (Except.ok.inj h)
            exact Or.inl ⟨haction, hhtml.symm, hflags.symm⟩
          · obtain ⟨hhtml, hflags⟩ := Prod.mk.inj (Except.ok.inj h)
            exact Or.inr (Or.inl ⟨hauto, hhtml.symm, hflags.symm⟩)
          · obtain ⟨hhtml, hflags⟩ := Prod.mk.inj (Except.ok.inj h)
            exact Or.inr (Or.inr ⟨hnormal, hhtml.symm, hflags.symm⟩)

/-- The prefix of an action has no white space that is lost. -/
theorem notMem_me {text : String} {c : Char} (hme : c ∉ "/me ".toList) (h : c ∉ text.toList) :
    c ∉ ("/me " ++ text).toList := by
  rw [String.toList_append, List.mem_append]
  exact not_or.mpr ⟨hme, h⟩

theorem said_makeMessage_autoResp (E : ImConnection) {flags : PurpleMessageFlags}
    (h : flags.autoResp = true) (handle : Nat) (text : String) (mtime now : Int) :
    (makeMessage E handle text flags mtime now).said = (handle, 3, text) := by
  simp [makeMessage, h, TpMessage.said, TpChannelTextMessageType.toNat]

theorem said_makeMessage_action {flags : PurpleMessageFlags} (h : flags.autoResp = false)
    {text rest : String} (hmeify : E.purpleMessageMeify text = some rest) (handle : Nat)
    (mtime now : Int) :
    (makeMessage E handle text flags mtime now).said = (handle, 1, rest) := by
  simp [makeMessage, h, hmeify, TpMessage.said, TpChannelTextMessageType.toNat]

theorem said_makeMessage_normal {flags : PurpleMessageFlags} (h : flags.autoResp = false)
    {text : String} (hmeify : E.purpleMessageMeify text = none) (handle : Nat)
    (mtime now : Int) :
    (makeMessage E handle text flags mtime now).said = (handle, 0, text) := by
  simp [makeMessage, h, hmeify, TpMessage.said, TpChannelTextMessageType.toNat]

/-- **A message arrives as it was meant** unless it is ordinary and taken for an action. -/
theorem arrives_eq_meant_iff (hE : ReadsBack E) (hreadable : e.Readable) :
    e.arrives E = e.meant ↔ e.Unmistakable E := by
  cases e with
  | here e => exact iff_of_true rfl (fun m hm => by cases hm)
  | sends handle conv message mtime now =>
      cases hsend : hazeImChannelSend message with
      | error error =>
          have hmeant : meant (.sends handle conv message mtime now) = none := by
            simp only [meant, hsend]
          have harrives : arrives E (.sends handle conv message mtime now) = none := by
            simp only [arrives, hsend]
          refine iff_of_true (harrives.trans hmeant.symm) (fun m hm => ?_)
          rw [hmeant] at hm
          cases hm
      | ok out =>
          obtain ⟨html, flags⟩ := out
          obtain ⟨header, body, text, rfl, htext, hcases⟩ := hazeImChannelSend_cases hsend
          obtain ⟨htab, hreturn⟩ := hreadable text htext
          have hmeant : meant (.sends handle conv [header, body] mtime now) =
              some (handle, header.tpAsvGetUint32 "message-type", text) := by
            simp only [meant, hsend, htext, Option.map_some]
          have harrives : arrives E (.sends handle conv [header, body] mtime now) =
              some (makeMessage E handle (E.purpleMarkupStripHtml (E.purpleStrdupWithhtml html))
                { flags with recv := true } mtime now).said := by
            simp only [arrives, hsend]
          have hmistake : Unmistakable E (.sends handle conv [header, body] mtime now) ↔
              (header.tpAsvGetUint32 "message-type" = 0 → E.purpleMessageMeify text = none) := by
            simp only [Unmistakable, hmeant, Option.mem_def, Option.some.injEq, forall_eq']
          rw [harrives, hmeant, hmistake]
          rcases hcases with ⟨htype, rfl, rfl⟩ | ⟨htype, rfl, rfl⟩ | ⟨htype, rfl, rfl⟩
          · rw [hE.strips _ (notMem_me (by decide) htab) (notMem_me (by decide) hreturn), htype,
              said_makeMessage_action rfl (hE.meifies text)]
            exact iff_of_true rfl (by simp)
          · rw [hE.strips _ htab hreturn, htype, said_makeMessage_autoResp E rfl]
            exact iff_of_true rfl (by simp)
          · rw [hE.strips _ htab hreturn, htype]
            cases hmeify : E.purpleMessageMeify text with
            | none =>
                rw [said_makeMessage_normal rfl hmeify]
                exact iff_of_true rfl (fun _ => rfl)
            | some rest =>
                -- it arrives as an action
                rw [said_makeMessage_action rfl hmeify]
                exact iff_of_false (by simp) (by simp)

theorem arrives_isSome (E : ImConnection) (e : DialogueEvent) :
    (e.arrives E).isSome = e.meant.isSome := by
  cases e with
  | here e => rfl
  | sends handle conv message mtime now =>
      cases hsend : hazeImChannelSend message with
      | error error => simp only [meant, arrives, hsend]
      | ok out =>
          obtain ⟨html, flags⟩ := out
          obtain ⟨header, body, text, rfl, htext, -⟩ := hazeImChannelSend_cases hsend
          simp only [meant, arrives, hsend, htext, Option.map_some, Option.isSome_some]

/-! ## One event -/

/-- What is taken in: the messages, as they arrive. -/
def heard (s : HazeImChannelFactory) : List (Nat × Nat × String) := s.taken.map TpMessage.said

theorem taken_written (hs : Sound E t s) {d : PurpleConversation} (hd : d ∈ s.conversations)
    (him : d.type = .im) {message : String} {flags : PurpleMessageFlags} {mtime now : Int}
    (hstep : s.hazeWriteIm E d message flags mtime now = .ok s') :
    s'.taken = s.taken ++
      ((ImCall.writeIm (E.ensure d.name) message flags mtime now).carries E).toList := by
  obtain ⟨s₁, hwrite, hchanges⟩ := hazeWriteIm_spec hs hd him message flags mtime now
  rw [hwrite] at hstep
  cases hstep
  rw [hchanges.reckoned.taken]
  congr 1
  exact Log.filterMap_concat_none rfl

theorem taken_changes (h : Changes E s [] [] s') : s'.taken = s.taken := by
  rw [h.reckoned.taken, List.append_nil]

theorem carries_wordless {flags : PurpleMessageFlags} {handle : Nat} {message : String}
    {mtime now : Int} (h : flags.recv = false ∧ (flags.error = true → flags.send = true)) :
    (ImCall.writeIm handle message flags mtime now).carries E = none := by
  obtain ⟨hrecv, herror⟩ := h
  simp only [ImCall.carries, hrecv, Bool.false_eq_true, if_false]
  exact if_neg (fun hboth => hboth.2 (herror hboth.1))

/-- Without words nothing is taken in. -/
theorem taken_wordless (hs : Sound E t s) {e : ImEvent} (hlegal : HazeImChannelFactory.Legal E s e)
    (he : Wordless e) (hstep : (imChannels E).step s e = .ok s') : s'.taken = s.taken := by
  cases e with
  | request token properties requireNew =>
      obtain ⟨s₁, accepted, hrequest, hchanges⟩ :=
        hazeImChannelFactoryRequest_spec hs token requireNew hlegal
      simp only [imChannels, step, hrequest] at hstep
      cases hstep
      have htaken : (s₁.call (.requestReturns token accepted)).taken = s₁.taken :=
        Log.filterMap_concat_none rfl
      rw [htaken, hchanges.reckoned.taken, List.append_nil]
  | foreachChannel =>
      simp only [imChannels, step, foreachChannel, hs.channels] at hstep
      cases hstep
      rfl
  | conversationNew type name =>
      obtain ⟨cs, n, d, -, -, -, hchanges, hnew⟩ :=
        purpleConversationNew_spec E hs.uiData type name
      have hnew' := hnew s.channels s.objects
      simp only [imChannels, step] at hstep
      rw [hnew'] at hstep
      cases hstep
      exact taken_changes hchanges
  | writeIm conv message flags mtime now =>
      obtain ⟨d, hd, him⟩ := hlegal
      simp only [imChannels, step, withConversation, Option.mem_def.mp hd] at hstep
      rw [taken_written hs (mem_of_conversation hd) him hstep, carries_wordless he]
      exact List.append_nil _
  | writeConv conv message flags mtime now =>
      obtain ⟨d, hd⟩ := Option.isSome_iff_exists.mp hlegal
      simp only [imChannels, step, withConversation, hd, hazeWriteConv] at hstep
      split_ifs at hstep with him
      · rw [taken_written hs (mem_of_conversation hd) him hstep, carries_wordless he]
        exact List.append_nil _
      · cases hstep
        rfl
  | conversationUpdated conv type state =>
      obtain ⟨d, hd⟩ := Option.isSome_iff_exists.mp hlegal
      obtain ⟨s₁, hupdated, hchanges⟩ :=
        conversationUpdatedCb_spec hs (mem_of_conversation hd) type state
      simp only [imChannels, step, withConversation, hd, hupdated] at hstep
      cases hstep
      exact taken_changes hchanges
  | acknowledge chan ids =>
      cases hstep
      exact taken_changes (acknowledgePendingMessages_spec (E := E) s chan ids)
  | close chan =>
      obtain ⟨s₁, hclose, hchanges⟩ := hazeImChannelClose_spec hs chan
      rw [show (imChannels E).step s (.close chan) = s.hazeImChannelClose E chan from rfl,
        hclose] at hstep
      cases hstep
      exact taken_changes hchanges
  | destroy chan =>
      obtain ⟨s₁, hdestroy, hchanges⟩ := hazeImChannelDestroy_spec hs chan
      rw [show (imChannels E).step s (.destroy chan) = s.hazeImChannelDestroy E chan from rfl,
        hdestroy] at hstep
      cases hstep
      exact taken_changes hchanges
  | disconnected => exact absurd hlegal id

/-- A step goes through, and what arrives is heard. -/
theorem step_heard (hs : Settled E s) (hlegal : Legal E s e) :
    ∃ s', (dialogues E).step s e = .ok s' ∧ Settled E s' ∧
      heard s' = heard s ++ (e.arrives E).toList := by
  obtain ⟨t, hsound⟩ := hs.alive.sound
  cases e with
  | here e =>
      obtain ⟨hlegal, hwordless⟩ := hlegal
      obtain ⟨s', hstep, houtcome⟩ := step_outcome hsound hlegal
      refine ⟨s', hstep, hs.outcome houtcome, ?_⟩
      rw [heard, taken_wordless hsound hlegal hwordless hstep]
      exact (List.append_nil _).symm
  | sends handle conv message mtime now =>
      obtain ⟨d, hd, him, rfl⟩ := hlegal
      cases hsend : hazeImChannelSend message with
      | error error =>
          refine ⟨s, by simp only [dialogues, hsend], hs, ?_⟩
          simp only [arrives, hsend]
          exact (List.append_nil _).symm
      | ok out =>
          obtain ⟨html, flags⟩ := out
          have hwrites : HazeImChannelFactory.Legal E s
            (.writeIm conv html { flags with recv := true } mtime now) := ⟨d, hd, him⟩
          obtain ⟨s', hstep, houtcome⟩ := step_outcome hsound hwrites
          refine ⟨s', by simp only [dialogues, hsend, hstep], hs.outcome houtcome, ?_⟩
          simp only [imChannels, step, withConversation, Option.mem_def.mp hd] at hstep
          rw [heard, taken_written hsound (mem_of_conversation hd) him hstep, List.map_append]
          simp only [arrives, hsend, ImCall.carries, if_true]
          rfl

/-! ## Every run -/

/-- What arrives is heard, once and in its turn, whatever else happens. -/
theorem heard_run (hlegal : (dialogues E).Meets (Legal E) init es) :
    ∃ s, (dialogues E).run init es = .ok s ∧ heard s = es.filterMap (arrives E) := by
  have hevery : ∃ s, (dialogues E).run init es = .ok s ∧
      (Settled E s ∧ heard s = es.filterMap (arrives E)) := by
    refine Machine.run_ok_of_history (M := dialogues E)
      (I := fun es s => Settled E s ∧ heard s = es.filterMap (arrives E))
      (fun past s e hs hlegal => ?_) ⟨settled_init E, rfl⟩ hlegal
    obtain ⟨hsettled, hheard⟩ := hs
    obtain ⟨s', hstep, hsettled', hheard'⟩ := step_heard hsettled hlegal
    refine ⟨s', hstep, hsettled', ?_⟩
    rw [hheard', hheard, List.filterMap_append]
    cases harrives : e.arrives E <;> simp [harrives]
  obtain ⟨s, hrun, -, hheard⟩ := hevery
  exact ⟨s, hrun, hheard⟩

/-- Two readings of a list that skip the same elements are as long, and the same where they agree on
each. -/
theorem filterMap_eq_iff {α β : Type*} {f g : α → Option β} {l : List α}
    (h : ∀ x ∈ l, (f x).isSome = (g x).isSome) :
    (l.filterMap f).length = (l.filterMap g).length ∧
      (l.filterMap f = l.filterMap g ↔ ∀ x ∈ l, f x = g x) := by
  induction l with
  | nil => simp
  | cons x l ih =>
      obtain ⟨hlength, hiff⟩ := ih (fun y hy => h y (List.mem_cons_of_mem _ hy))
      have hx := h x List.mem_cons_self
      rw [List.forall_mem_cons, ← hiff]
      cases hf : f x with
      | none =>
          rw [hf] at hx
          have hg : g x = none := Option.not_isSome_iff_eq_none.mp (by simp [← hx])
          rw [List.filterMap_cons_none hf, List.filterMap_cons_none hg, hg]
          exact ⟨hlength, (and_iff_right rfl).symm⟩
      | some y =>
          rw [hf] at hx
          obtain ⟨z, hg⟩ := Option.isSome_iff_exists.mp hx.symm
          rw [List.filterMap_cons_some hf, List.filterMap_cons_some hg, hg]
          refine ⟨congrArg Nat.succ hlength, ?_⟩
          rw [List.cons.injEq, Option.some.injEq]

/-- **Messages arrive** over every run, each accepted one once and in its turn, and all as they were
meant exactly when none is ordinary and taken for an action. -/
theorem messages_arrive_iff (hE : ReadsBack E) (es : List DialogueEvent)
    (hlegal : (dialogues E).Meets (Legal E) init es) (hreadable : ∀ e ∈ es, e.Readable) :
    ∃ s, (dialogues E).run init es = .ok s ∧ (heard s).length = (es.filterMap meant).length ∧
      (heard s = es.filterMap meant ↔ ∀ e ∈ es, e.Unmistakable E) := by
  obtain ⟨s, hrun, hheard⟩ := heard_run hlegal
  obtain ⟨hlength, hiff⟩ := filterMap_eq_iff (l := es) (fun e _ => arrives_isSome E e)
  refine ⟨s, hrun, ?_, ?_⟩
  · rw [hheard, hlength]
  · rw [hheard, hiff]
    exact forall₂_congr (fun e he => arrives_eq_meant_iff hE (hreadable e he))

/-! ## Two lovers -/

/-- The connection with the balcony, and libpurple's reading of HTML. -/
def verona : ImConnection :=
  { balcony with
    purpleMarkupStripHtml := fun html => String.ofList ((decode .text html.toList).getD [])
    purpleMessageMeify := fun text =>
      if "/me ".toList.isPrefixOf text.toList then some (String.ofList (text.toList.drop 4))
      else none }

theorem readsBack_verona : ReadsBack verona where
  strips text _ _ := by
    show String.ofList ((decode .text (escapeForPurple text).toList).getD []) = text
    rw [decode_escapeForPurple, Option.getD_some, String.ofList_toList]
  meifies text := by
    have hprefix : "/me ".toList.isPrefixOf ("/me " ++ text).toList = true := by
      rw [String.toList_append, List.isPrefixOf_iff_prefix]
      exact List.prefix_append _ _
    show (if _ then _ else _) = _
    rw [if_pos hprefix, String.toList_append]
    exact congrArg some String.ofList_toList

/-- A message with the type and the text. -/
def plainMessage (type : Nat) (text : String) : List Asv :=
  [[⟨"message-type", .uint type⟩].toAList,
    [⟨"content-type", .string "text/plain"⟩, ⟨"content", .string text⟩].toAList]

/-- Juliet waves and speaks; the channel is closed in between. -/
def balconyScene : List DialogueEvent :=
  [.here (.request 0 (textRequest 2) true), .sends 2 0 (plainMessage 1 "waves") 5 5,
    .here (.close 0), .sends 2 0 (plainMessage 0 "O Romeo,\nRomeo!") 6 6,
    .here (.acknowledge 0 [0])]

theorem messages_arrive_balcony :
    ∃ s, (dialogues verona).run init balconyScene = .ok s ∧
      heard s = [(2, 1, "waves"), (2, 0, "O Romeo,\nRomeo!")] := by
  have hmeant : balconyScene.filterMap meant = [(2, 1, "waves"), (2, 0, "O Romeo,\nRomeo!")] := by
    decide +kernel
  obtain ⟨s, hrun, -, hiff⟩ := messages_arrive_iff readsBack_verona balconyScene
    (by decide +kernel) (by decide +kernel)
  refine ⟨s, hrun, ?_⟩
  rw [hiff.mpr (by decide +kernel), hmeant]

end DialogueEvent

end Haze
