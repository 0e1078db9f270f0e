import Haze.Media.Model
import Mathlib.Data.List.Nodup
import Mathlib.Data.List.Perm.Subperm

set_option autoImplicit false

/-! # The streams of `media-backend.c`

A backend numbers the streams that libpurple adds, looks them up by the id of their session, and
drops a stream when its session ends. What else a stream has does not matter to that: the modules
about its parameters, its direction and its codecs each take their own streams, and the operations
and the invariant `Distinct` from here.

The number of a stream says which stream it is. The bus has its guint, which is the number itself
until 2^32 streams have been added, and tells the streams apart (`Distinct.nodup_guint`).
-/

namespace Haze

/-- `PurpleMediaState` -/
inductive PurpleMediaState where
  | new
  | connected
  | end
  deriving DecidableEq

/-- A stream with its name, which is the id of its session. -/
structure NamedStream extends HazeMediaStream where
  name : String
  deriving DecidableEq

/-- What a counter of type guint shows after so many. -/
def guint (n : Nat) : Nat := n % 2 ^ 32

theorem guint_of_lt {n : Nat} (h : n < 2 ^ 32) : guint n = n := Nat.mod_eq_of_lt h

/-! ## Removing from an array -/

section

variable {α β : Type*}

theorem nodup_map_of_subperm {f : α → β} {l l' : List α} (hsub : List.Subperm l l')
    (h : (l'.map f).Nodup) : (l.map f).Nodup := by
  obtain ⟨kept, hperm, hle⟩ := hsub
  exact (hperm.map f).nodup_iff.mp (h.sublist (hle.map f))

variable [DecidableEq α] [DecidableEq β]

/-- `g_ptr_array_remove_fast`: the last element takes the place of the one that is removed. -/
def gPtrArrayRemoveFast : List α → α → List α
  | [], _ => []
  | y :: l, x =>
      if y = x then
        match l.getLast? with
        | none => []
        | some last => last :: l.dropLast
      else y :: gPtrArrayRemoveFast l x

theorem gPtrArrayRemoveFast_perm (l : List α) (x : α) :
    (gPtrArrayRemoveFast l x).Perm (l.erase x) := by
  induction l with
  | nil => exact List.Perm.refl _
  | cons y l ih =>
      rw [gPtrArrayRemoveFast, List.erase_cons]
      by_cases hyx : y = x
      · rw [if_pos hyx, if_pos (beq_iff_eq.mpr hyx)]
        cases hlast : l.getLast? with
        | none =>
            rw [List.getLast?_eq_none_iff.mp hlast]
        | some last =>
            obtain ⟨front, rfl⟩ := List.getLast?_eq_some_iff.mp hlast
            rw [List.dropLast_concat]
            exact (List.perm_append_singleton last front).symm
      · rw [if_neg hyx, if_neg (fun h => hyx (beq_iff_eq.mp h))]
        exact ih.cons y

/-- To look an element up by its image is as good, where no other has that image. -/
theorem map_gPtrArrayRemoveFast (f : α → β) : ∀ (l : List α) {x : α},
    (∀ y ∈ l, f y = f x → y = x) →
      (gPtrArrayRemoveFast l x).map f = gPtrArrayRemoveFast (l.map f) (f x)
  | [], _, _ => rfl
  | y :: l, x, h => by
      rw [List.map_cons, gPtrArrayRemoveFast, gPtrArrayRemoveFast]
      by_cases hyx : y = x
      · rw [if_pos hyx, if_pos (congrArg f hyx), List.getLast?_map]
        cases l.getLast? with
        | none => rfl
        | some last => simp [List.map_dropLast]
      · rw [if_neg hyx, if_neg (fun hf => hyx (h y List.mem_cons_self hf)), List.map_cons,
          map_gPtrArrayRemoveFast f l fun z hz => h z (List.mem_cons_of_mem _ hz)]

end

/-! ## The streams -/

/-- A stream of a backend: whatever else it has, it has a number, a type and a name. -/
class BackendStream (α : Type*) where
  toNamedStream : α → NamedStream

instance : BackendStream NamedStream := ⟨id⟩

/-- The part of a `HazeMediaBackend` that the streams are in. -/
structure BackendStreams (α : Type*) where
  streams : List α
  /-- the number of the next stream, from 1 on; `priv->next_stream_id` is its guint -/
  nextStreamId : Nat

namespace BackendStreams

open BackendStream (toNamedStream)

variable {α : Type*}

/-- `haze_media_backend_init` -/
def init : BackendStreams α where
  streams := []
  nextStreamId := 1

/-- What `haze_media_backend_add_stream` gives to every new stream. -/
def newStream (b : BackendStreams α) (sid : String) (type : PurpleMediaSessionType) :
    NamedStream where
  id := b.nextStreamId
  mediaType := if type.audio then tpMediaStreamTypeAudio else tpMediaStreamTypeVideo
  name := sid

/-- `haze_media_backend_add_stream`, for what `haze_media_stream_new` makes of a new stream. -/
def addStream (b : BackendStreams α) (sid : String) (type : PurpleMediaSessionType)
    (hazeMediaStreamNew : NamedStream → α) : BackendStreams α where
  streams := b.streams ++ [hazeMediaStreamNew (b.newStream sid type)]
  nextStreamId := b.nextStreamId + 1

variable {b : BackendStreams α} {stream other : α} {sid : String}
  {hazeMediaStreamNew : NamedStream → α}

theorem mem_addStream {type : PurpleMediaSessionType} :
    stream ∈ (b.addStream sid type hazeMediaStreamNew).streams ↔
      stream ∈ b.streams ∨ stream = hazeMediaStreamNew (b.newStream sid type) := by
  rw [addStream, List.mem_append, List.mem_singleton]

variable [BackendStream α]

/-- `haze_media_backend_get_stream_by_name` -/
def getStreamByName (b : BackendStreams α) (sid : String) : Option α :=
  b.streams.find? (fun stream => (toNamedStream stream).name = sid)

/-- `haze_backend_state_changed_cb` -/
def stateChangedCb [DecidableEq α] (b : BackendStreams α) (state : PurpleMediaState)
    (sid name : Option String) : BackendStreams α :=
  match state, sid, name with
  | .end, some sid, none =>
      match b.getStreamByName sid with
      | none => b
      | some stream => { b with streams := gPtrArrayRemoveFast b.streams stream }
  | _, _, _ => b

/-- A stream has changed. -/
def setStream (b : BackendStreams α) (stream : α) : BackendStreams α :=
  { b with
    streams := b.streams.map (fun other =>
      if (toNamedStream other).id = (toNamedStream stream).id then stream else other) }

/-- The streams, as the channel looks at them. -/
def named (b : BackendStreams α) : BackendStreams NamedStream where
  streams := b.streams.map toNamedStream
  nextStreamId := b.nextStreamId

theorem mem_of_getStreamByName (h : b.getStreamByName sid = some stream) :
    stream ∈ b.streams ∧ (toNamedStream stream).name = sid :=
  ⟨List.mem_of_find?_eq_some h, by simpa using List.find?_some h⟩

theorem getStreamByName_eq_none :
    b.getStreamByName sid = none ↔ ∀ stream ∈ b.streams, (toNamedStream stream).name ≠ sid := by
  rw [getStreamByName, List.find?_eq_none]
  simp

/-- All that a report of libpurple may do is to take streams out. -/
theorem stateChangedCb_spec [DecidableEq α] (b : BackendStreams α) (state : PurpleMediaState)
    (sid name : Option String) :
    ∃ streams : List α, List.Subperm streams b.streams ∧
      b.stateChangedCb state sid name = { b with streams := streams } := by
  unfold stateChangedCb
  split
  · split
    · exact ⟨b.streams, List.Subperm.refl _, rfl⟩
    · rename_i stream _
      refine ⟨_, ?_, rfl⟩
      exact (gPtrArrayRemoveFast_perm b.streams stream).subperm.trans (List.erase_subperm _ _)
  · exact ⟨b.streams, List.Subperm.refl _, rfl⟩

theorem mem_of_mem_stateChangedCb [DecidableEq α] {state : PurpleMediaState}
    {sid name : Option String} (h : stream ∈ (b.stateChangedCb state sid name).streams) :
    stream ∈ b.streams := by
  obtain ⟨streams, hsub, heq⟩ := b.stateChangedCb_spec state sid name
  rw [heq] at h
  exact hsub.subset h

@[simp] theorem nextStreamId_stateChangedCb [DecidableEq α] (b : BackendStreams α)
    (state : PurpleMediaState) (sid name : Option String) :
    (b.stateChangedCb state sid name).nextStreamId = b.nextStreamId := by
  obtain ⟨streams, -, heq⟩ := b.stateChangedCb_spec state sid name
  rw [heq]

theorem map_id_setStream :
    (b.setStream stream).streams.map (fun other => (toNamedStream other).id) =
      b.streams.map (fun other => (toNamedStream other).id) := by
  rw [setStream, List.map_map]
  refine List.map_congr_left (fun other _ => ?_)
  show (toNamedStream (if _ then stream else other)).id = (toNamedStream other).id
  split_ifs with h
  · exact h.symm
  · rfl

/-- The streams after one of them has changed. -/
theorem mem_setStream (h : other ∈ (b.setStream stream).streams) :
    other = stream ∨
      (other ∈ b.streams ∧ (toNamedStream other).id ≠ (toNamedStream stream).id) := by
  obtain ⟨old, hold, heq⟩ := List.mem_map.mp h
  by_cases hid : (toNamedStream old).id = (toNamedStream stream).id
  · rw [if_pos hid] at heq
    exact Or.inl heq.symm
  · rw [if_neg hid] at heq
    subst heq
    exact Or.inr ⟨hold, hid⟩

/-! ## Numbers of their own -/

/-- **The invariant.** Each stream has a number of its own, which was given out. -/
structure Distinct (b : BackendStreams α) : Prop where
  nodup : (b.streams.map (fun stream => (toNamedStream stream).id)).Nodup
  lt : ∀ stream ∈ b.streams, (toNamedStream stream).id < b.nextStreamId

theorem distinct_init : Distinct (init : BackendStreams α) where
  nodup := List.nodup_nil
  lt _ h := by cases h

/-- The number of a stream is what the bus has for it, as long as not too many were added. -/
theorem Distinct.guint_id (hb : b.Distinct) (hfew : b.nextStreamId ≤ 2 ^ 32)
    (hmem : stream ∈ b.streams) : guint (toNamedStream stream).id = (toNamedStream stream).id :=
  guint_of_lt (Nat.lt_of_lt_of_le (hb.lt stream hmem) hfew)

/-- The bus tells the streams apart. -/
theorem Distinct.nodup_guint (hb : b.Distinct) (hfew : b.nextStreamId ≤ 2 ^ 32) :
    (b.streams.map (fun stream => guint (toNamedStream stream).id)).Nodup := by
  rw [List.map_congr_left (fun stream hmem => hb.guint_id hfew hmem)]
  exact hb.nodup

theorem Distinct.eq_of_id (hb : b.Distinct) (hstream : stream ∈ b.streams)
    (hother : other ∈ b.streams) (hid : (toNamedStream stream).id = (toNamedStream other).id) :
    stream = other :=
  List.inj_on_of_nodup_map hb.nodup hstream hother hid

theorem Distinct.addStream (hb : b.Distinct) (sid : String) (type : PurpleMediaSessionType)
    (hnew : ∀ stream, toNamedStream (hazeMediaStreamNew stream) = stream) :
    (b.addStream sid type hazeMediaStreamNew).Distinct := by
  have hid : (toNamedStream (hazeMediaStreamNew (b.newStream sid type))).id = b.nextStreamId := by
    rw [hnew]
    rfl
  refine ⟨?_, fun stream hmem => ?_⟩
  · rw [BackendStreams.addStream, List.map_append]
    refine List.Nodup.append hb.nodup (List.nodup_singleton _) ?_
    intro id hold hmem
    obtain ⟨stream, hstream, rfl⟩ := List.mem_map.mp hold
    exact (hb.lt stream hstream).ne ((List.mem_singleton.mp hmem).trans hid)
  · rcases mem_addStream.mp hmem with hold | rfl
    · exact Nat.lt_succ_of_lt (hb.lt stream hold)
    · exact hid ▸ Nat.lt_succ_self _

theorem Distinct.stateChangedCb [DecidableEq α] (hb : b.Distinct) (state : PurpleMediaState)
    (sid name : Option String) : (b.stateChangedCb state sid name).Distinct := by
  obtain ⟨streams, hsub, heq⟩ := b.stateChangedCb_spec state sid name
  rw [heq]
  exact
    { nodup := nodup_map_of_subperm hsub hb.nodup
      lt := fun stream hmem => hb.lt stream (hsub.subset hmem) }

/-- A stream that has changed is still the stream of its number. -/
theorem Distinct.setStream (hb : b.Distinct)
    (hmem : ∃ old ∈ b.streams, (toNamedStream old).id = (toNamedStream stream).id) :
    (b.setStream stream).Distinct := by
  obtain ⟨old, hold, hid⟩ := hmem
  refine ⟨?_, fun other hother => ?_⟩
  · rw [map_id_setStream]
    exact hb.nodup
  · rcases mem_setStream hother with rfl | ⟨hother, -⟩
    · exact hid ▸ hb.lt old hold
    · exact hb.lt other hother

/-! ## Names of their own -/

theorem nodup_name_addStream {type : PurpleMediaSessionType}
    (hnames : (b.streams.map (fun stream => (toNamedStream stream).name)).Nodup)
    (hnew : ∀ stream, toNamedStream (hazeMediaStreamNew stream) = stream)
    (hfree : b.getStreamByName sid = none) :
    ((b.addStream sid type hazeMediaStreamNew).streams.map
      (fun stream => (toNamedStream stream).name)).Nodup := by
  rw [addStream, List.map_append]
  refine List.Nodup.append hnames (List.nodup_singleton _) ?_
  intro name hold hmem
  obtain ⟨other, hother, rfl⟩ := List.mem_map.mp hold
  have hname : (toNamedStream (hazeMediaStreamNew (b.newStream sid type))).name = sid := by
    rw [hnew]
    rfl
  exact getStreamByName_eq_none.mp hfree other hother ((List.mem_singleton.mp hmem).trans hname)

theorem nodup_name_stateChangedCb [DecidableEq α]
    (hnames : (b.streams.map (fun stream => (toNamedStream stream).name)).Nodup)
    (state : PurpleMediaState) (sid name : Option String) :
    ((b.stateChangedCb state sid name).streams.map
      (fun stream => (toNamedStream stream).name)).Nodup := by
  obtain ⟨streams, hsub, heq⟩ := b.stateChangedCb_spec state sid name
  rw [heq]
  exact nodup_map_of_subperm hsub hnames

/-! ## What the channel sees -/

theorem named_addStream (b : BackendStreams α) (sid : String) (type : PurpleMediaSessionType)
    (hnew : ∀ stream, toNamedStream (hazeMediaStreamNew stream) = stream) :
    (b.addStream sid type hazeMediaStreamNew).named = b.named.addStream sid type id := by
  simp only [named, addStream, List.map_append, List.map_singleton, hnew]
  rfl

theorem named_getStreamByName (b : BackendStreams α) (sid : String) :
    b.named.getStreamByName sid = (b.getStreamByName sid).map toNamedStream := by
  simp only [getStreamByName, named, List.find?_map]
  rfl

/-- A stream changes in what the channel does not look at. -/
theorem Distinct.named_setStream (hb : b.Distinct) (hmem : other ∈ b.streams)
    (hsame : toNamedStream stream = toNamedStream other) :
    (b.setStream stream).named = b.named := by
  have hstreams : (b.setStream stream).streams.map toNamedStream =
      b.streams.map toNamedStream := by
    rw [BackendStreams.setStream, List.map_map]
    refine List.map_congr_left (fun old hold => ?_)
    show toNamedStream (if _ then stream else old) = toNamedStream old
    split_ifs with hid
    · rw [hsame] at hid ⊢
      rw [hb.eq_of_id hold hmem hid]
    · rfl
  simp only [named, hstreams]
  rfl

theorem Distinct.named_stateChangedCb [DecidableEq α] (hb : b.Distinct) (state : PurpleMediaState)
    (sid name : Option String) :
    (b.stateChangedCb state sid name).named = b.named.stateChangedCb state sid name := by
  -- only the end of a session matters
  rcases state with _ | _ | _ <;> rcases sid with _ | sid <;> rcases name with _ | name <;> try rfl
  simp only [BackendStreams.stateChangedCb, named_getStreamByName]
  cases hstream : b.getStreamByName sid with
  | none => rfl
  | some stream =>
      have hmem := (mem_of_getStreamByName hstream).1
      have hstreams := map_gPtrArrayRemoveFast toNamedStream b.streams
        fun other hother (heq : toNamedStream other = toNamedStream stream) =>
          hb.eq_of_id hother hmem (congrArg (·.id) heq)
      simp only [named, hstreams, Option.map_some]

end BackendStreams

end Haze
