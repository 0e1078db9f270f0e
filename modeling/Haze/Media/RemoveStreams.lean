import Haze.Media.Streams

set_option autoImplicit false

/-! # RemoveStreams

`haze_media_channel_remove_streams` looks the ids up in the backend, takes what was asked for
twice out of the list, and asks libpurple to end the streams that are left. It asks the session
for the backend before anything else, and does not look whether there is a session.
-/

namespace Haze

/-! ## Taking duplicates out of an array -/

section

variable {α : Type*} [DecidableEq α]

/-- The inner loop: the elements from `j` on that are equal to the one at `i` are removed. After
an element is removed, `--j` is undone by the `++j` of the loop. -/
def removeCopies (i j : Nat) (l : List α) : List α :=
  if j < l.length then
    if l[i]? = l[j]? then removeCopies i j (l.eraseIdx j)
    else removeCopies i (j + 1) l
  else l
termination_by l.length - j
decreasing_by
  · rw [List.length_eraseIdx_of_lt ‹j < l.length›]
    omega
  · omega

theorem length_removeCopies_le (i j : Nat) (l : List α) :
    (removeCopies i j l).length ≤ l.length := by
  fun_induction removeCopies i j l with
  | case1 j l hlt heq ih => exact ih.trans (List.length_eraseIdx_le l j)
  | case2 j l hlt hne ih => exact ih
  | case3 j l hge => exact Nat.le_refl _

/-- The outer loop, from `i` on. -/
def removeDuplicates (i : Nat) (l : List α) : List α :=
  if i < l.length then removeDuplicates (i + 1) (removeCopies i (i + 1) l) else l
termination_by l.length - i
decreasing_by
  have hle := length_removeCopies_le i (i + 1) l
  omega

/-- The loop invariant of the inner loop: what lies between the two indices is no copy. -/
theorem removeCopies_append (front mid rest : List α) (x : α) :
    removeCopies front.length (front.length + 1 + mid.length) (front ++ x :: (mid ++ rest)) =
      front ++ x :: (mid ++ rest.filter (fun y => y ≠ x)) := by
  induction rest generalizing mid with
  | nil =>
      rw [removeCopies, if_neg (by simp; omega)]
      simp
  | cons y rest ih =>
      have hlength : front.length + 1 + mid.length <
          (front ++ x :: (mid ++ y :: rest)).length := by
        simp
        omega
      have hi : (front ++ x :: (mid ++ y :: rest))[front.length]? = some x := by simp
      have hj : (front ++ x :: (mid ++ y :: rest))[front.length + 1 + mid.length]? = some y := by
        rw [List.getElem?_append_right (by omega)]
        have hsub : front.length + 1 + mid.length - front.length = mid.length + 1 := by omega
        rw [hsub, List.getElem?_cons_succ, List.getElem?_append_right (Nat.le_refl _)]
        simp
      rw [removeCopies, if_pos hlength, hi, hj]
      by_cases hyx : y = x
      · -- a copy goes, and the next element takes its place
        have herase : (front ++ x :: (mid ++ y :: rest)).eraseIdx
            (front.length + 1 + mid.length) = front ++ x :: (mid ++ rest) := by
          rw [List.eraseIdx_append_of_length_le (by omega)]
          have hsub : front.length + 1 + mid.length - front.length = mid.length + 1 := by omega
          rw [hsub, List.eraseIdx_cons_succ, List.eraseIdx_append_of_length_le (Nat.le_refl _)]
          simp
        rw [if_pos (by rw [hyx]), herase, ih mid]
        simp [hyx]
      · have hmid := ih (mid ++ [y])
        rw [List.length_append, List.length_singleton, ← Nat.add_assoc, List.append_assoc,
          List.singleton_append] at hmid
        rw [if_neg (fun h => hyx (Option.some.inj h).symm), hmid]
        simp [hyx]

/-- The loops keep the first of every element, in order. -/
theorem removeDuplicates_append (front rest : List α) :
    removeDuplicates front.length (front ++ rest) = front ++ rest.eraseDups := by
  induction hn : rest.length using Nat.strong_induction_on generalizing front rest with
  | _ n ih =>
      cases rest with
      | nil =>
          rw [removeDuplicates, if_neg (by simp)]
          simp
      | cons x rest =>
          rw [removeDuplicates, if_pos (by simp)]
          have hcopies := removeCopies_append front [] rest x
          simp only [List.length_nil, Nat.add_zero, List.nil_append] at hcopies
          have hshorter : (rest.filter (fun y => y ≠ x)).length < n := by
            have hle := List.length_filter_le (fun y => decide (y ≠ x)) rest
            simp only [List.length_cons] at hn
            omega
          have hrest := ih _ hshorter (front ++ [x]) (rest.filter (fun y => y ≠ x)) rfl
          rw [List.length_append, List.length_singleton, List.append_assoc,
            List.singleton_append] at hrest
          rw [hcopies, hrest, List.eraseDups_cons, List.append_assoc, List.singleton_append]
          congr 3
          apply List.filter_congr
          intro y _
          by_cases hyx : y = x <;> simp [hyx]

theorem removeDuplicates_eq (l : List α) : removeDuplicates 0 l = l.eraseDups :=
  removeDuplicates_append [] l

/-- Renaming the elements of an array that it distinguishes. -/
theorem eraseDups_map {β : Type*} [DecidableEq β] (f : α → β) (l : List α)
    (hinj : ∀ x ∈ l, ∀ y ∈ l, f x = f y → x = y) :
    (l.map f).eraseDups = l.eraseDups.map f := by
  induction hn : l.length using Nat.strong_induction_on generalizing l with
  | _ n ih =>
      cases l with
      | nil => rfl
      | cons x l =>
          have hfilter : (l.map f).filter (fun y => !y == f x) =
              (l.filter (fun y => !y == x)).map f := by
            rw [List.filter_map]
            congr 1
            apply List.filter_congr
            intro y hy
            by_cases hyx : y = x
            · simp [hyx]
            · have hne : f y ≠ f x := fun h =>
                hyx (hinj y (List.mem_cons_of_mem x hy) x List.mem_cons_self h)
              simp [hyx, hne]
          have hshorter : (l.filter (fun y => !y == x)).length < n := by
            have hle := List.length_filter_le (fun y => !y == x) l
            simp only [List.length_cons] at hn
            omega
          have hrest := ih _ hshorter (l.filter (fun y => !y == x)) (fun y hy z hz =>
            hinj y (List.mem_cons_of_mem x (List.mem_of_mem_filter hy)) z
              (List.mem_cons_of_mem x (List.mem_of_mem_filter hz))) rfl
          rw [List.map_cons, List.eraseDups_cons, hfilter, hrest, List.eraseDups_cons,
            List.map_cons]

theorem nodup_eraseDups (l : List α) : l.eraseDups.Nodup := by
  induction hn : l.length using Nat.strong_induction_on generalizing l with
  | _ n ih =>
      cases l with
      | nil => exact List.nodup_nil
      | cons x l =>
          have hshorter : (l.filter (fun y => !y == x)).length < n := by
            have hle := List.length_filter_le (fun y => !y == x) l
            simp only [List.length_cons] at hn
            omega
          rw [List.eraseDups_cons, List.nodup_cons]
          refine ⟨fun hmem => ?_, ih _ hshorter _ rfl⟩
          have hx := (List.mem_filter.mp (List.mem_eraseDups.mp hmem)).2
          simp at hx

end

/-! ## The method -/

/-- How `RemoveStreams` returns: the session, the names for which `purple_media_end` was called,
and the error of the reply. -/
structure RemoveStreamsReply where
  session : MediaSession
  ended : List String
  error : Option GError

namespace MediaSession

/-- The loop over the ids, which are the numbers of streams. The array takes the names of the
streams, as pointers into the streams: two of them are equal when the streams are. -/
def lookUpStreams (backendStreams : List NamedStream) :
    List Nat → Except GError (List NamedStream)
  | [] => .ok []
  | id :: ids =>
      match backendStreams.find? (fun stream => stream.id = id) with
      | none => .error ⟨.invalidArgument, "Requested stream wasn't found"⟩
      | some stream =>
          match lookUpStreams backendStreams ids with
          | .error error => .error error
          | .ok mediaIds => .ok (stream :: mediaIds)

/-- The loop that ends the streams. `purple_media_end` calls back before it returns, and a stream
whose session has ended is freed with its name. -/
def endStreams (purpleMediaEnd : MediaSession → String → MediaSession) :
    MediaSession → List NamedStream → Except Fault (MediaSession × List String)
  | m, [] => .ok (m, [])
  | m, stream :: mediaIds =>
      if stream ∉ m.backend.streams then .error .useAfterFree
      -- libpurple ignores a call without a session
      else if ¬ m.chan.media then endStreams purpleMediaEnd m mediaIds
      else
        match endStreams purpleMediaEnd (purpleMediaEnd m stream.name) mediaIds with
        | .error fault => .error fault
        | .ok (m, ended) => .ok (m, stream.name :: ended)

/-- `haze_media_channel_remove_streams`, for a contact with the given capabilities. -/
def hazeMediaChannelRemoveStreams (m : MediaSession)
    (purpleMediaEnd : MediaSession → String → MediaSession) (caps : PurpleMediaCaps)
    (streams : List Nat) : Except Fault RemoveStreamsReply :=
  -- the error is not set to NULL before it is passed to "g_set_error"
  if ¬ caps.modifySession then .error .uninitialized
  -- without a session nothing is stored in the variable for the backend
  else if ¬ m.chan.media then .error .uninitialized
  else
    match lookUpStreams m.backend.streams streams with
    | .error error => .ok ⟨m, [], some error⟩
    | .ok mediaIds =>
        match endStreams purpleMediaEnd m (removeDuplicates 0 mediaIds) with
        | .error fault => .error fault
        | .ok (m, ended) => .ok ⟨m, ended, none⟩

/-! ## What libpurple does -/

/-- What libpurple promises of `purple_media_end`: the streams of the other sessions stay, and as
long as there is one, so does the call. -/
structure EndsSession (purpleMediaEnd : MediaSession → String → MediaSession) : Prop where
  streams : ∀ m sid, ∀ stream ∈ m.backend.streams, stream.name ≠ sid →
    stream ∈ (purpleMediaEnd m sid).backend.streams
  media : ∀ m sid, m.chan.media → (∃ stream ∈ m.backend.streams, stream.name ≠ sid) →
    (purpleMediaEnd m sid).chan.media

/-- No two streams of the backend share their names or their ids. -/
structure StreamsDistinct (b : HazeMediaBackend) : Prop extends BackendStreams.Distinct b where
  names : (b.streams.map NamedStream.name).Nodup

variable {m m' m₀ : MediaSession} {b : HazeMediaBackend} {sid : String} {ids : List Nat}
variable {purpleMediaEnd : MediaSession → String → MediaSession} {caps : PurpleMediaCaps}

theorem streamsDistinct_init : StreamsDistinct .init :=
  ⟨BackendStreams.distinct_init, List.nodup_nil⟩

theorem StreamsDistinct.addStream (hb : StreamsDistinct b) (type : PurpleMediaSessionType)
    (hfree : b.getStreamByName sid = none) : StreamsDistinct (b.addStream sid type) :=
  ⟨hb.toDistinct.addStream sid type (fun _ => rfl),
    BackendStreams.nodup_name_addStream hb.names (fun _ => rfl) hfree⟩

theorem StreamsDistinct.stateChangedCb (hb : StreamsDistinct b) (state : PurpleMediaState)
    (sid name : Option String) : StreamsDistinct (b.stateChangedCb state sid name) :=
  ⟨hb.toDistinct.stateChangedCb state sid name,
    BackendStreams.nodup_name_stateChangedCb hb.names state sid name⟩

/-- Whatever handlers run, the streams stay distinct. -/
theorem streamsDistinct_handlers {state : PurpleMediaState} {sid name : Option String}
    (handlers : List StateChangedHandler) (hb : StreamsDistinct m.backend)
    (hrun : handlers.foldlM (handle state sid name) m = .ok m') :
    StreamsDistinct m'.backend := by
  induction handlers generalizing m with
  | nil =>
      cases hrun
      exact hb
  | cons handler handlers ih =>
      rw [List.foldlM_cons] at hrun
      cases hfirst : handle state sid name m handler with
      | error fault =>
          rw [hfirst] at hrun
          cases hrun
      | ok m₁ =>
          rw [hfirst] at hrun
          apply ih _ hrun
          cases handler with
          | backend =>
              cases hfirst
              exact hb.stateChangedCb state sid name
          | channel =>
              cases hchan : m.chan.mediaStateChangedCb m.backend state sid name with
              | error fault =>
                  simp only [handle, hchan] at hfirst
                  cases hfirst
              | ok chan =>
                  simp only [handle, hchan] at hfirst
                  cases hfirst
                  exact hb

theorem StreamsDistinct.step {e : Event} (hb : StreamsDistinct m.backend) (hlegal : Legal m e)
    (hstep : mediaSessions.step m e = .ok m') : StreamsDistinct m'.backend := by
  cases e with
  | addStream sid type =>
      cases hstep
      exact hb.addStream type hlegal
  | stateChanged state sid name =>
      exact @streamsDistinct_handlers { m with reported := m.reported ++ m.reports state sid name }
        m' state sid name m.handlers hb hstep
  | channel e =>
      cases hchan : mediaChannels.step m.chan e with
      | error fault =>
          simp only [mediaSessions, hchan] at hstep
          cases hstep
      | ok chan =>
          simp only [mediaSessions, hchan] at hstep
          cases hstep
          exact hb

/-! ## The loops -/

/-- A stream of the session is asked for. -/
def HasStream (m : MediaSession) (id : Nat) : Prop := ∃ stream ∈ m.backend.streams, stream.id = id

/-- Either every id is found, or there is an error. -/
theorem lookUpStreams_cases (m : MediaSession) (ids : List Nat) :
    ((∀ id ∈ ids, m.HasStream id) ∧ ∃ mediaIds,
      lookUpStreams m.backend.streams ids = .ok mediaIds ∧
        (∀ stream ∈ mediaIds, stream ∈ m.backend.streams) ∧ mediaIds.map (·.id) = ids) ∨
    ((∃ id ∈ ids, ¬ m.HasStream id) ∧ ∃ error,
      lookUpStreams m.backend.streams ids = .error error) := by
  induction ids with
  | nil => exact Or.inl ⟨by simp, [], rfl, by simp, rfl⟩
  | cons id ids ih =>
      cases hfind : m.backend.streams.find? (fun stream => stream.id = id) with
      | none =>
          have hnot : ¬ m.HasStream id := by
            rintro ⟨stream, hstream, hid⟩
            have hne := List.find?_eq_none.mp hfind stream hstream
            simp [hid] at hne
          refine Or.inr ⟨⟨id, List.mem_cons_self, hnot⟩,
            ⟨.invalidArgument, "Requested stream wasn't found"⟩, ?_⟩
          simp only [lookUpStreams, hfind]
      | some stream =>
          have hmem := List.mem_of_find?_eq_some hfind
          have hid : stream.id = id := by simpa using List.find?_some hfind
          rcases ih with ⟨hall, mediaIds, hlook, hsub, hids⟩ | ⟨⟨id', hid', hnot⟩, error, hlook⟩
          · refine Or.inl ⟨?_, stream :: mediaIds, ?_, ?_, ?_⟩
            · intro id' hid'
              rcases List.mem_cons.mp hid' with rfl | hid'
              · exact ⟨stream, hmem, hid⟩
              · exact hall id' hid'
            · simp only [lookUpStreams, hfind, hlook]
            · intro other hother
              rcases List.mem_cons.mp hother with rfl | hother
              · exact hmem
              · exact hsub other hother
            · rw [List.map_cons, hids, hid]
          · refine Or.inr ⟨⟨id', List.mem_cons_of_mem id hid', hnot⟩, error, ?_⟩
            simp only [lookUpStreams, hfind, hlook]

/-- Streams of different names are ended one after the other: what happens on the way frees none
of those to come. -/
theorem endStreams_ok (hend : EndsSession purpleMediaEnd) (mediaIds : List NamedStream)
    (hnames : (mediaIds.map NamedStream.name).Nodup)
    (hsub : ∀ stream ∈ mediaIds, stream ∈ m.backend.streams)
    (hmedia : mediaIds ≠ [] → m.chan.media) :
    ∃ m', endStreams purpleMediaEnd m mediaIds = .ok (m', mediaIds.map NamedStream.name) := by
  induction mediaIds generalizing m with
  | nil => exact ⟨m, rfl⟩
  | cons stream mediaIds ih =>
      rw [List.map_cons, List.nodup_cons] at hnames
      have hin := hsub stream List.mem_cons_self
      have hother : ∀ other ∈ mediaIds, other.name ≠ stream.name := fun other hmem heq =>
        hnames.1 (heq ▸ List.mem_map_of_mem hmem)
      have hmedia' := hmedia (List.cons_ne_nil _ _)
      obtain ⟨m', hm'⟩ := @ih (purpleMediaEnd m stream.name) hnames.2
        (fun other hmem => hend.streams m stream.name other
          (hsub other (List.mem_cons_of_mem _ hmem)) (hother other hmem))
        (fun hne => by
          obtain ⟨other, hmem⟩ := List.exists_mem_of_ne_nil _ hne
          exact hend.media m stream.name hmedia'
            ⟨other, hsub other (List.mem_cons_of_mem _ hmem), hother other hmem⟩)
      refine ⟨m', ?_⟩
      rw [endStreams, if_neg (not_not.mpr hin), if_neg (not_not.mpr hmedia'), hm']
      rfl

/-! ## All or nothing -/

/-- The id is the id of a current stream of the call. -/
def IsStream (m : MediaSession) (id : Nat) : Prop := m.chan.media ∧ m.HasStream id

/-- With an id that is no stream's there is an error and nothing else happens; otherwise each of
the streams is ended once, in the order in which they are first named. -/
def RemovesStreams (m : MediaSession) (ids : List Nat) (r : Except Fault RemoveStreamsReply) :
    Prop :=
  ((∃ id ∈ ids, ¬ m.IsStream id) → ∃ error, r = .ok ⟨m, [], some error⟩) ∧
    ((∀ id ∈ ids, m.IsStream id) → ∃ (m' : MediaSession) (streams : List NamedStream),
      r = .ok ⟨m', streams.map NamedStream.name, none⟩ ∧
        (∀ stream ∈ streams, stream ∈ m.backend.streams) ∧
        streams.map (·.id) = ids.eraseDups)

theorem removesStreams_of_media (hb : StreamsDistinct m.backend)
    (hend : EndsSession purpleMediaEnd) (hcaps : caps.modifySession) (hmedia : m.chan.media) :
    RemovesStreams m ids (m.hazeMediaChannelRemoveStreams purpleMediaEnd caps ids) := by
  unfold hazeMediaChannelRemoveStreams
  rw [if_neg (not_not.mpr hcaps), if_neg (not_not.mpr hmedia)]
  rcases lookUpStreams_cases m ids with
    ⟨hall, mediaIds, hlook, hsub, hids⟩ | ⟨⟨id, hid, hnot⟩, error, hlook⟩
  · rw [hlook]
    have hsub' : ∀ stream ∈ mediaIds.eraseDups, stream ∈ m.backend.streams :=
      fun stream hmem => hsub stream (List.mem_eraseDups.mp hmem)
    have hnames : (mediaIds.eraseDups.map NamedStream.name).Nodup := by
      refine List.Nodup.map_on (fun x hx y hy hxy => ?_) (nodup_eraseDups mediaIds)
      exact List.inj_on_of_nodup_map hb.names (hsub' x hx) (hsub' y hy) hxy
    obtain ⟨m', hm'⟩ := endStreams_ok hend mediaIds.eraseDups hnames hsub' (fun _ => hmedia)
    refine ⟨fun ⟨id, hid, hnot⟩ => absurd ⟨hmedia, hall id hid⟩ hnot,
      fun _ => ⟨m', mediaIds.eraseDups, ?_, hsub', ?_⟩⟩
    · simp only [removeDuplicates_eq, hm']
    · rw [← hids, eraseDups_map]
      intro x hx y hy hxy
      exact hb.eq_of_id (hsub x hx) (hsub y hy) hxy
  · rw [hlook]
    exact ⟨fun _ => ⟨error, rfl⟩, fun hall => absurd (hall id hid).2 hnot⟩

/-- Without a session the variable for the backend is read although nothing was stored in it. -/
theorem not_removesStreams_of_no_media (hmedia : ¬ m.chan.media) :
    ¬ RemovesStreams m ids (m.hazeMediaChannelRemoveStreams purpleMediaEnd caps ids) := by
  have hfault : m.hazeMediaChannelRemoveStreams purpleMediaEnd caps ids =
      .error .uninitialized := by
    unfold hazeMediaChannelRemoveStreams
    by_cases hcaps : caps.modifySession
    · rw [if_neg (not_not.mpr hcaps), if_pos hmedia]
    · rw [if_pos hcaps]
  rw [hfault]
  rintro ⟨hbad, hgood⟩
  by_cases hex : ∃ id ∈ ids, ¬ m.IsStream id
  · obtain ⟨error, herror⟩ := hbad hex
    cases herror
  · push Not at hex
    obtain ⟨m', streams, hok, -⟩ := hgood hex
    cases hok

/-- **RemoveStreams is all or nothing**, and ends each stream once, if and only if the channel has
a session. -/
theorem removesStreams_iff (hnew : m₀.backend = .init) (es : List Event)
    (hlegal : mediaSessions.Meets Legal m₀ es) (hrun : mediaSessions.run m₀ es = .ok m)
    (hend : EndsSession purpleMediaEnd) (hcaps : caps.modifySession) (ids : List Nat) :
    RemovesStreams m ids (m.hazeMediaChannelRemoveStreams purpleMediaEnd caps ids) ↔
      m.chan.media := by
  have hb : StreamsDistinct m.backend :=
    Machine.run_invariant (I := fun m => StreamsDistinct m.backend)
      (fun _ _ _ hb hok hstep => hb.step hok hstep) (hnew ▸ streamsDistinct_init) hlegal hrun
  constructor
  · intro hremoves
    by_contra hmedia
    exact not_removesStreams_of_no_media hmedia hremoves
  · exact removesStreams_of_media hb hend hcaps

/-! ## A call with two streams -/

/-- The session ends, which its backend is told. -/
def endSession (m : MediaSession) (sid : String) : MediaSession :=
  { m with backend := m.backend.stateChangedCb .end (some sid) none }

theorem endsSession_endSession : EndsSession endSession := by
  refine ⟨fun m sid stream hstream hname => ?_, fun _ _ hmedia _ => hmedia⟩
  show stream ∈ (m.backend.stateChangedCb .end (some sid) none).streams
  simp only [BackendStreams.stateChangedCb]
  cases hfind : m.backend.getStreamByName sid with
  | none => exact hstream
  | some ended =>
      have hne : stream ≠ ended := fun heq =>
        hname (heq ▸ (BackendStreams.mem_of_getStreamByName hfind).2)
      exact (gPtrArrayRemoveFast_perm _ _).mem_iff.mpr ((List.mem_erase_of_ne hne).mpr hstream)

/-- A call with sound and a picture: the picture is ended, although it is named twice. -/
theorem removesStreams_iff_picture :
    ∃ m, mediaSessions.run (new (.init "jabber" 2 true)).latchToSession
        [.addStream "audio" ⟨true, false⟩, .addStream "video" ⟨false, true⟩] = .ok m ∧
      (RemovesStreams m [2, 2]
          (m.hazeMediaChannelRemoveStreams endSession ⟨true, true, true⟩ [2, 2]) ↔
        m.chan.media) :=
  ⟨_, rfl, removesStreams_iff rfl
    [.addStream "audio" ⟨true, false⟩, .addStream "video" ⟨false, true⟩] (by decide) rfl
    endsSession_endSession rfl [2, 2]⟩

/-- A channel whose session has not begun, and has no streams. -/
theorem removeStreams_before_session :
    (new (.init "jabber" 2 false)).hazeMediaChannelRemoveStreams endSession ⟨true, true, true⟩ [1]
        = .error .uninitialized ∧
      ¬ RemovesStreams (new (.init "jabber" 2 false)) [1]
        ((new (.init "jabber" 2 false)).hazeMediaChannelRemoveStreams endSession
          ⟨true, true, true⟩ [1]) :=
  ⟨rfl, not_removesStreams_of_no_media (by decide)⟩

end MediaSession

end Haze
