import Haze.Basic.Rewriting
import Haze.ImChannel.Model
import Haze.Telepathy.Asv

set_option autoImplicit false

/-! # Sending a message

`haze_im_channel_send`: the text of the message is escaped for libpurple, which takes HTML, by
three passes of rewriting one after the other. The later two look for words in what the earlier
ones wrote. `piece` says what becomes of each character in the end, and the decoder reads the
pieces back.

A text is a list of characters; as a C string it has no NUL.
-/

namespace Haze

/-! ## The function -/

/-- `%x` -/
def hex (n : Nat) : List Char := Nat.toDigits 16 n

/-- The control characters that `g_markup_escape_text` writes by their numbers: all but tab,
line feed, carriage return and U+0085. -/
def isEscapedControl (c : Char) : Bool :=
  let n := c.toNat
  (0x1 ≤ n ∧ n ≤ 0x8) ∨ (0xb ≤ n ∧ n ≤ 0xc) ∨ (0xe ≤ n ∧ n ≤ 0x1f) ∨ (0x7f ≤ n ∧ n ≤ 0x84) ∨
    (0x86 ≤ n ∧ n ≤ 0x9f)

/-- One character under `g_markup_escape_text`. -/
def gMarkupEscapeChar (c : Char) : List Char :=
  if c = '&' then "&amp;".toList
  else if c = '<' then "&lt;".toList
  else if c = '>' then "&gt;".toList
  else if c = '\'' then "&apos;".toList
  else if c = '"' then "&quot;".toList
  else if isEscapedControl c then "&#x".toList ++ hex c.toNat ++ [';']
  else [c]

/-- `g_markup_escape_text` -/
def gMarkupEscapeText (text : String) : String :=
  String.ofList (text.toList.flatMap gMarkupEscapeChar)

/-- `purple_strreplace` -/
def purpleStrreplace (string delimiter replacement : String) : String :=
  String.ofList (Rewriting.replace delimiter.toList replacement.toList string.toList)

/-- The three passes of `haze_im_channel_send`. -/
def escapeForPurple (text : String) : String :=
  let escaped := gMarkupEscapeText text
  -- "avoid line breaks being swallowed!"
  let lineBroken := purpleStrreplace escaped "\n" "<br>"
  -- "prpl-yahoo [...] could not deal with &apos; and would send it literally"
  purpleStrreplace lineBroken "&apos;" "'"

/-- `haze_im_channel_send`: what is passed to `purple_conv_im_send_with_flags`, or the error
that the message mixin is told. A `TpMessage` is the list of its parts. -/
def hazeImChannelSend (message : List Asv) : Except GError (String × PurpleMessageFlags) :=
  match message with
  | [header, body] =>
      let type := header.tpAsvGetUint32 "message-type"
      let contentType := body.tpAsvGetString "content-type"
      let text := body.tpAsvGetString "content"
      if contentType ≠ some "text/plain" then
        .error ⟨.invalidArgument, "messages must have a single plain-text part"⟩
      else match text with
        | none => .error ⟨.invalidArgument, "message body must be a UTF-8 string"⟩
        | some text =>
            -- `TP_CHANNEL_TEXT_MESSAGE_TYPE_ACTION`
            if type = 1 then .ok (escapeForPurple ("/me " ++ text), {})
            -- `TP_CHANNEL_TEXT_MESSAGE_TYPE_AUTO_REPLY`
            else if type = 3 then .ok (escapeForPurple text, { autoResp := true })
            -- `TP_CHANNEL_TEXT_MESSAGE_TYPE_NORMAL`
            else if type = 0 then .ok (escapeForPurple text, {})
            else .error ⟨.notImplemented, "unsupported message type: " ++ toString type⟩
  | _ => .error ⟨.invalidArgument, "messages must have a single plain-text part"⟩

/-! ## What becomes of a character -/

/-- What stands for the character in the string that libpurple gets. -/
def piece (c : Char) : List Char :=
  if c = '\n' then "<br>".toList else if c = '\'' then ['\''] else gMarkupEscapeChar c

/-- A character that has an entity of its own. -/
def HasEntity (c : Char) : Prop :=
  c = '&' ∨ c = '<' ∨ c = '>' ∨ c = '"' ∨ isEscapedControl c = true

/-- A character that has an entity without a name is a control character. -/
theorem HasEntity.control {c : Char} (h : HasEntity c) (hamp : c ≠ '&') (hlt : c ≠ '<')
    (hgt : c ≠ '>') (hquot : c ≠ '"') : isEscapedControl c = true := by
  rcases h with h | h | h | h | h
  · exact absurd h hamp
  · exact absurd h hlt
  · exact absurd h hgt
  · exact absurd h hquot
  · exact h

/-- What stands between the `&` and the `;` of an entity, and which character it stands for. -/
def entityName (c : Char) : List Char :=
  if c = '&' then "amp".toList
  else if c = '<' then "lt".toList
  else if c = '>' then "gt".toList
  else if c = '"' then "quot".toList
  else "#x".toList ++ hex c.toNat

theorem gMarkupEscapeChar_of_hasEntity {c : Char} (h : HasEntity c) :
    gMarkupEscapeChar c = '&' :: (entityName c ++ [';']) := by
  by_cases hapos : c = '\''
  · subst hapos
    rcases h with h | h | h | h | h <;> exact absurd h (by decide)
  unfold gMarkupEscapeChar entityName
  split_ifs with h1 h2 h3 h4 h5
  · rfl
  · rfl
  · rfl
  · rfl
  · rfl
  · rcases h with h | h | h | h | h <;> contradiction

theorem escapedControl_lt {c : Char} (h : isEscapedControl c = true) : c.toNat < 0xa0 := by
  simp only [isEscapedControl, decide_eq_true_eq] at h
  omega

/-- The digits of a character that is written by its number. -/
theorem hex_digits : ∀ n < 0xa0, '&' ∉ hex n ∧ '<' ∉ hex n ∧ ';' ∉ hex n ∧ '\n' ∉ hex n := by
  decide +kernel

/-- An entity has none of the letters that mean something to the decoder or to a later pass. -/
theorem entityName_letters {c : Char} (h : HasEntity c) :
    '&' ∉ entityName c ∧ '<' ∉ entityName c ∧ ';' ∉ entityName c ∧ '\n' ∉ entityName c := by
  unfold entityName
  split_ifs with h1 h2 h3 h4
  · decide
  · decide
  · decide
  · decide
  · have hcontrol := h.control h1 h2 h3 h4
    obtain ⟨hamp, hlt, hsemi, hnl⟩ := hex_digits c.toNat (escapedControl_lt hcontrol)
    simp [hamp, hlt, hsemi, hnl]

theorem gMarkupEscapeChar_newline : gMarkupEscapeChar '\n' = ['\n'] := by decide

theorem gMarkupEscapeChar_apostrophe : gMarkupEscapeChar '\'' = "&apos;".toList := by decide

/-- A character that is left alone. -/
theorem gMarkupEscapeChar_plain {c : Char} (h : ¬ HasEntity c) (hapos : c ≠ '\'') :
    gMarkupEscapeChar c = [c] := by
  simp only [HasEntity, not_or] at h
  obtain ⟨hamp, hlt, hgt, hquot, hcontrol⟩ := h
  unfold gMarkupEscapeChar
  rw [if_neg hamp, if_neg hlt, if_neg hgt, if_neg hapos, if_neg hquot, if_neg hcontrol]

theorem not_hasEntity_newline : ¬ HasEntity '\n' := by
  rintro (h | h | h | h | h) <;> exact absurd h (by decide)

theorem not_hasEntity_apostrophe : ¬ HasEntity '\'' := by
  rintro (h | h | h | h | h) <;> exact absurd h (by decide)

theorem piece_of_hasEntity {c : Char} (h : HasEntity c) :
    piece c = '&' :: (entityName c ++ [';']) := by
  have hnl : c ≠ '\n' := fun heq => not_hasEntity_newline (heq ▸ h)
  have hapos : c ≠ '\'' := fun heq => not_hasEntity_apostrophe (heq ▸ h)
  unfold piece
  rw [if_neg hnl, if_neg hapos, gMarkupEscapeChar_of_hasEntity h]

theorem piece_newline : piece '\n' = "<br>".toList := rfl

theorem piece_plain {c : Char} (h : ¬ HasEntity c) (hnl : c ≠ '\n') : piece c = [c] := by
  unfold piece
  rw [if_neg hnl]
  split_ifs with hapos
  · rw [hapos]
  · exact gMarkupEscapeChar_plain h hapos

/-! ## The passes -/

/-- What becomes of a character in the first two passes. -/
def lineBrokenChar (c : Char) : List Char :=
  if c = '\n' then "<br>".toList else gMarkupEscapeChar c

/-- The second pass: a line feed in the escaped text is a line feed of the text. -/
theorem replace_newline (l : List Char) :
    Rewriting.replace ['\n'] "<br>".toList (l.flatMap gMarkupEscapeChar) =
      l.flatMap lineBrokenChar := by
  refine Rewriting.replace_flatMap (by simp) _ (fun c _ => ?_)
  by_cases hnl : c = '\n'
  · subst hnl
    exact Or.inl ⟨gMarkupEscapeChar_newline, rfl⟩
  · right
    have hnot : '\n' ∉ gMarkupEscapeChar c := by
      by_cases hentity : HasEntity c
      · rw [gMarkupEscapeChar_of_hasEntity hentity]
        have hname := (entityName_letters hentity).2.2.2
        simp [hname]
      · by_cases hapos : c = '\''
        · subst hapos
          decide
        · rw [gMarkupEscapeChar_plain hentity hapos]
          simpa using fun h : '\n' = c => hnl h.symm
    exact ⟨Rewriting.inert_of_notMem hnot, if_neg hnl⟩

/-- No entity can be taken for `&apos;`. -/
theorem inert_entity {c : Char} (h : HasEntity c) :
    Rewriting.Inert "&apos;".toList ('&' :: (entityName c ++ [';'])) := by
  have hamp : '&' ∉ entityName c ++ [';'] := by
    have hname := (entityName_letters h).1
    simp [hname]
  have hpattern : "&apos;".toList = ['&', 'a', 'p', 'o', 's', ';'] := rfl
  rw [hpattern]
  -- they part at the first letter of the name or, for `&amp;`, at the second
  refine Rewriting.inert_of_head hamp ?_ ?_
  · unfold entityName
    split_ifs
    all_goals simp [List.cons_prefix_cons]
  · unfold entityName
    split_ifs
    all_goals simp [List.cons_prefix_cons]

/-- The third pass: an `&apos;` in the text so far is an apostrophe of the text. -/
theorem replace_apostrophe (l : List Char) :
    Rewriting.replace "&apos;".toList "'".toList (l.flatMap lineBrokenChar) =
      l.flatMap piece := by
  refine Rewriting.replace_flatMap (by simp) _ (fun c _ => ?_)
  by_cases hnl : c = '\n'
  · subst hnl
    exact Or.inr ⟨Rewriting.inert_of_notMem (by decide), rfl⟩
  have hbroken : lineBrokenChar c = gMarkupEscapeChar c := if_neg hnl
  by_cases hapos : c = '\''
  · subst hapos
    exact Or.inl ⟨by rw [hbroken, gMarkupEscapeChar_apostrophe], rfl⟩
  right
  by_cases hentity : HasEntity c
  · rw [hbroken, gMarkupEscapeChar_of_hasEntity hentity]
    exact ⟨inert_entity hentity, piece_of_hasEntity hentity⟩
  · rw [hbroken, gMarkupEscapeChar_plain hentity hapos]
    have hamp : '&' ∉ [c] := by
      simpa using fun h : '&' = c => hentity (Or.inl h.symm)
    exact ⟨Rewriting.inert_of_notMem hamp, piece_plain hentity hnl⟩

/-- **The three passes write one piece for each character.** -/
theorem escapeForPurple_toList (text : String) :
    (escapeForPurple text).toList = text.toList.flatMap piece := by
  unfold escapeForPurple purpleStrreplace gMarkupEscapeText
  simp only [String.toList_ofList]
  rw [show "\n".toList = ['\n'] from rfl, replace_newline, replace_apostrophe]

/-! ## Reading it back -/

/-- A hexadecimal digit. -/
def digitValue (c : Char) : Nat :=
  if c.toNat < 0x3a then c.toNat - 0x30 else c.toNat - 0x57

/-- The number that `%x` wrote. -/
def ofHex (digits : List Char) : Nat := digits.foldl (fun n d => 16 * n + digitValue d) 0

/-- The character that an entity stands for, from what stands between `&` and `;`. -/
def entityChar : List Char → Option Char
  | '#' :: 'x' :: digits => some (Char.ofNat (ofHex digits))
  | name =>
      if name = "amp".toList then some '&'
      else if name = "lt".toList then some '<'
      else if name = "gt".toList then some '>'
      else if name = "quot".toList then some '"'
      else if name = "apos".toList then some '\''
      else none

/-- Where the decoder is: between pieces, in a tag or in an entity, of which it has read so
much. -/
inductive Reading where
  | text
  | tag (seen : List Char)
  | entity (seen : List Char)

/-- The text that a string of HTML stands for: `<br>` is a line feed, an entity is its
character. There is no other tag. -/
def decode : Reading → List Char → Option (List Char)
  | .text, [] => some []
  | .tag _, [] => none
  | .entity _, [] => none
  | .text, c :: s =>
      if c = '<' then decode (.tag []) s
      else if c = '&' then decode (.entity []) s
      else (decode .text s).map (c :: ·)
  | .tag seen, c :: s =>
      if c = '>' then
        if seen = "br".toList then (decode .text s).map ('\n' :: ·) else none
      else decode (.tag (seen ++ [c])) s
  | .entity seen, c :: s =>
      if c = ';' then
        match entityChar seen with
        | some d => (decode .text s).map (d :: ·)
        | none => none
      else decode (.entity (seen ++ [c])) s

theorem decode_entity {w : List Char} (hw : ';' ∉ w) (seen s : List Char) :
    decode (.entity seen) (w ++ ';' :: s) =
      match entityChar (seen ++ w) with
      | some d => (decode .text s).map (d :: ·)
      | none => none := by
  induction w generalizing seen with
  | nil =>
      rw [List.append_nil]
      rfl
  | cons c w ih =>
      obtain ⟨hc, hw⟩ : ';' ≠ c ∧ ';' ∉ w := by simpa using hw
      have hstep : decode (.entity seen) (c :: (w ++ ';' :: s)) =
          decode (.entity (seen ++ [c])) (w ++ ';' :: s) := if_neg (Ne.symm hc)
      rw [List.cons_append, hstep, ih hw, List.append_assoc, List.singleton_append]

theorem ofHex_hex : ∀ n < 0xa0, ofHex (hex n) = n := by decide +kernel

/-- The name of the entity of a character stands for the character. -/
theorem entityChar_entityName {c : Char} (h : HasEntity c) :
    entityChar (entityName c) = some c := by
  unfold entityName
  split_ifs with h1 h2 h3 h4
  · rw [h1]
    rfl
  · rw [h2]
    rfl
  · rw [h3]
    rfl
  · rw [h4]
    rfl
  · have hcontrol := h.control h1 h2 h3 h4
    show some (Char.ofNat (ofHex (hex c.toNat))) = some c
    rw [ofHex_hex _ (escapedControl_lt hcontrol), Char.ofNat_toNat]

/-- Each piece is read back as its character. -/
theorem decode_piece (c : Char) (s : List Char) :
    decode .text (piece c ++ s) = (decode .text s).map (c :: ·) := by
  by_cases hnl : c = '\n'
  · subst hnl
    rfl
  by_cases hentity : HasEntity c
  · rw [piece_of_hasEntity hentity]
    have hsemi := (entityName_letters hentity).2.2.1
    have hstep : decode .text ('&' :: (entityName c ++ [';']) ++ s) =
        decode (.entity []) (entityName c ++ ';' :: s) := by
      rw [List.cons_append, List.append_assoc]
      rfl
    rw [hstep, decode_entity hsemi, List.nil_append, entityChar_entityName hentity]
  · rw [piece_plain hentity hnl]
    have hlt : c ≠ '<' := fun h => hentity (Or.inr (Or.inl h))
    have hamp : c ≠ '&' := fun h => hentity (Or.inl h)
    show (if c = '<' then _ else if c = '&' then _ else _) = _
    rw [if_neg hlt, if_neg hamp]
    rfl

theorem decode_pieces (l : List Char) : decode .text (l.flatMap piece) = some l := by
  induction l with
  | nil => rfl
  | cons c l ih =>
      rw [List.flatMap_cons, decode_piece, ih]
      rfl

/-- **Nothing is lost.** -/
theorem decode_escapeForPurple (text : String) :
    decode .text (escapeForPurple text).toList = some text.toList := by
  rw [escapeForPurple_toList, decode_pieces]

/-- Two texts are never written alike. -/
theorem escapeForPurple_injective {t t' : String} (h : escapeForPurple t = escapeForPurple t') :
    t = t' := by
  have hl : some t.toList = some t'.toList := by
    rw [← decode_escapeForPurple, ← decode_escapeForPurple, h]
  exact String.toList_injective (Option.some.inj hl)

/-! ## What is sent -/

/-- What a message says: its text, after "/me " for an action. -/
def messageText : List Asv → Option String
  | [header, body] =>
      (body.tpAsvGetString "content").map fun text =>
        if header.tpAsvGetUint32 "message-type" = 1 then "/me " ++ text else text
  | _ => none

/-- `s` is the text `t` in HTML: it is decoded to `t`, a `<` in it begins the `<br>` of a line
feed of `t`, and an `&` in it begins the entity that a character of `t` was escaped to. -/
structure Escapes (t s : String) : Prop where
  decodes : decode .text s.toList = some t.toList
  tags : ∀ u v, s = u ++ "<" ++ v → ∃ a b, t = a ++ "\n" ++ b ∧ u = escapeForPurple a ∧
    "<" ++ v = "<br>" ++ escapeForPurple b
  entities : ∀ u v, s = u ++ "&" ++ v → ∃ a c b w, t = a ++ String.singleton c ++ b ∧
    u = escapeForPurple a ∧ "&" ++ v = "&" ++ String.ofList w ++ ";" ++ escapeForPurple b ∧
    gMarkupEscapeChar c = '&' :: (w ++ [';']) ∧ ';' ∉ w ∧ entityChar w = some c

/-- The only pieces with a `<` are those of line feeds. -/
theorem piece_lt {c : Char} {w : List Char} (h : piece c = '<' :: w) : c = '\n' := by
  by_contra hnl
  by_cases hentity : HasEntity c
  · rw [piece_of_hasEntity hentity] at h
    exact absurd (List.cons.inj h).1 (by decide)
  · rw [piece_plain hentity hnl] at h
    exact hentity (Or.inr (Or.inl (List.cons.inj h).1))

/-- The only pieces with an `&` are entities. -/
theorem piece_amp {c : Char} {w : List Char} (h : piece c = '&' :: w) : HasEntity c := by
  by_contra hentity
  by_cases hnl : c = '\n'
  · subst hnl
    exact absurd (List.cons.inj h).1 (by decide)
  · rw [piece_plain hentity hnl] at h
    exact hentity (Or.inl (List.cons.inj h).1)

theorem lt_notMem_tail_piece (c : Char) : '<' ∉ (piece c).tail := by
  by_cases hnl : c = '\n'
  · subst hnl
    decide
  by_cases hentity : HasEntity c
  · rw [piece_of_hasEntity hentity]
    have hname := (entityName_letters hentity).2.1
    simp [hname]
  · rw [piece_plain hentity hnl]
    simp

theorem amp_notMem_tail_piece (c : Char) : '&' ∉ (piece c).tail := by
  by_cases hnl : c = '\n'
  · subst hnl
    decide
  by_cases hentity : HasEntity c
  · rw [piece_of_hasEntity hentity]
    have hname := (entityName_letters hentity).1
    simp [hname]
  · rw [piece_plain hentity hnl]
    simp

/-- A place in the string that begins a piece: the text before it, the character and the text
after it. -/
theorem escapeForPurple_split {t u v : String} {x : Char} (hx : ∀ c, x ∉ (piece c).tail)
    (h : escapeForPurple t = u ++ String.singleton x ++ v) :
    ∃ a c b w, t = a ++ String.singleton c ++ b ∧ u = escapeForPurple a ∧
      piece c = x :: w ∧
      String.singleton x ++ v = String.ofList (piece c) ++ escapeForPurple b := by
  have hlist : t.toList.flatMap piece = u.toList ++ x :: v.toList := by
    rw [← escapeForPurple_toList, h]
    simp
  obtain ⟨a, c, b, ht, hu, hv, w, hw⟩ := Rewriting.flatMap_eq_append_cons hx hlist
  refine ⟨String.ofList a, c, String.ofList b, w, ?_, ?_, hw, ?_⟩
  · apply String.toList_injective
    simp [ht]
  · apply String.toList_injective
    rw [escapeForPurple_toList, String.toList_ofList, hu]
  · apply String.toList_injective
    simpa [escapeForPurple_toList] using hv

theorem escapes_escapeForPurple (t : String) : Escapes t (escapeForPurple t) where
  decodes := decode_escapeForPurple t
  tags := by
    intro u v h
    rw [show "<" = String.singleton '<' from rfl] at h
    obtain ⟨a, c, b, w, ht, hu, hw, hv⟩ := escapeForPurple_split lt_notMem_tail_piece h
    obtain rfl := piece_lt hw
    rw [piece_newline, String.ofList_toList] at hv
    exact ⟨a, b, ht, hu, hv⟩
  entities := by
    intro u v h
    rw [show "&" = String.singleton '&' from rfl] at h
    obtain ⟨a, c, b, w, ht, hu, hw, hv⟩ := escapeForPurple_split amp_notMem_tail_piece h
    have hentity := piece_amp hw
    refine ⟨a, c, b, entityName c, ht, hu, ?_, gMarkupEscapeChar_of_hasEntity hentity,
      (entityName_letters hentity).2.2.1, entityChar_entityName hentity⟩
    rw [piece_of_hasEntity hentity] at hv
    apply String.toList_injective
    simpa using congrArg String.toList hv

/-- What libpurple is passed is the text of the message, escaped. -/
theorem hazeImChannelSend_ok {message : List Asv} {s : String} {flags : PurpleMessageFlags}
    (h : hazeImChannelSend message = .ok (s, flags)) :
    ∃ t, messageText message = some t ∧ s = escapeForPurple t := by
  match message with
  | [] => cases h
  | [_] => cases h
  | _ :: _ :: _ :: _ => cases h
  | [header, body] =>
      simp only [hazeImChannelSend, messageText] at h ⊢
      cases hcontent : body.tpAsvGetString "content" with
      | none =>
          rw [hcontent] at h
          split_ifs at h
      | some text =>
          rw [hcontent] at h
          simp only [Option.map_some, Option.some.injEq, exists_eq_left']
          split_ifs at h with htype haction hauto hnormal
          · rw [if_pos haction]
            exact (Prod.mk.inj (Except.ok.inj h)).1.symm
          · rw [if_neg haction]
            exact (Prod.mk.inj (Except.ok.inj h)).1.symm
          · rw [if_neg haction]
            exact (Prod.mk.inj (Except.ok.inj h)).1.symm

/-- A message of plain text that says something, does something or answers by itself. -/
def IsPlainText (message : List Asv) : Prop :=
  ∃ header body text, message = [header, body] ∧
    header.tpAsvGetUint32 "message-type" ∈ [0, 1, 3] ∧
    body.tpAsvGetString "content-type" = some "text/plain" ∧
    body.tpAsvGetString "content" = some text

/-- Plain text is passed to libpurple, and nothing else is. -/
theorem hazeImChannelSend_isOk_iff (message : List Asv) :
    (∃ s flags, hazeImChannelSend message = .ok (s, flags)) ↔ IsPlainText message := by
  constructor
  · rintro ⟨s, flags, h⟩
    match message with
    | [] => cases h
    | [_] => cases h
    | _ :: _ :: _ :: _ => cases h
    | [header, body] =>
        unfold hazeImChannelSend at h
        dsimp only at h
        by_cases htype : body.tpAsvGetString "content-type" = some "text/plain"
        · rw [if_neg (not_not_intro htype)] at h
          cases hcontent : body.tpAsvGetString "content" with
          | none =>
              rw [hcontent] at h
              cases h
          | some text =>
              rw [hcontent] at h
              dsimp only at h
              refine ⟨header, body, text, rfl, ?_, htype, hcontent⟩
              split_ifs at h with haction hauto hnormal
              · simp [haction]
              · simp [hauto]
              · simp [hnormal]
        · rw [if_pos htype] at h
          cases h
  · rintro ⟨header, body, text, rfl, htype, hcontentType, hcontent⟩
    unfold hazeImChannelSend
    dsimp only
    rw [if_neg (not_not_intro hcontentType), hcontent]
    simp only [List.mem_cons, List.not_mem_nil, or_false] at htype
    rcases htype with htype | htype | htype <;> rw [htype] <;> exact ⟨_, _, rfl⟩

/-- **Sending escapes text losslessly.** Plain text is passed to libpurple. What is passed is the
text of the message in HTML, nothing in it is markup but the line breaks and the entities of the
escaping, and no message that says something else is passed as the same string. -/
theorem hazeImChannelSend_lossless (message : List Asv) :
    ((∃ s flags, hazeImChannelSend message = .ok (s, flags)) ↔ IsPlainText message) ∧
    ∀ s flags, hazeImChannelSend message = .ok (s, flags) →
      ∃ t, messageText message = some t ∧ Escapes t s ∧
        ∀ message' flags', hazeImChannelSend message' = .ok (s, flags') →
          messageText message' = some t := by
  refine ⟨hazeImChannelSend_isOk_iff message, fun s flags h => ?_⟩
  obtain ⟨t, ht, rfl⟩ := hazeImChannelSend_ok h
  refine ⟨t, ht, escapes_escapeForPurple t, fun message' flags' h' => ?_⟩
  obtain ⟨t', ht', hs⟩ := hazeImChannelSend_ok h'
  rw [ht', escapeForPurple_injective hs]

/-- An action whose text has all that is escaped, and what looks like the result of escaping. -/
def trickyMessage : List Asv :=
  [[⟨"message-type", .uint 1⟩].toAList,
    [⟨"content-type", .string "text/plain"⟩,
      ⟨"content", .string "<br>&apos;'\"\n&amp;apos;"⟩].toAList]

theorem hazeImChannelSend_lossless_tricky :
    IsPlainText trickyMessage ∧
    hazeImChannelSend trickyMessage =
      .ok ("/me &lt;br&gt;&amp;apos;'&quot;<br>&amp;amp;apos;", {}) ∧
    ∃ t, messageText trickyMessage = some t ∧
      Escapes t "/me &lt;br&gt;&amp;apos;'&quot;<br>&amp;amp;apos;" ∧
      ∀ message' flags', hazeImChannelSend message' =
          .ok ("/me &lt;br&gt;&amp;apos;'&quot;<br>&amp;amp;apos;", flags') →
        messageText message' = some t := by
  have hsent : hazeImChannelSend trickyMessage =
      .ok ("/me &lt;br&gt;&amp;apos;'&quot;<br>&amp;amp;apos;", {}) := by decide +kernel
  obtain ⟨hplain, hlossless⟩ := hazeImChannelSend_lossless trickyMessage
  exact ⟨hplain.mp ⟨_, _, hsent⟩, hsent, hlossless _ _ hsent⟩

end Haze
