import Haze.Basic.Slots
import Haze.Media.Model

set_option autoImplicit false

/-! # What a new stream does to the pending requests

`pending_stream_request_maybe_satisfy` runs over all slots of a request and
`media_state_changed_cb` over all requests. When no slot of the stream's type is filled, every
slot of that type takes the stream (`FilledFrom`), and each request goes on waiting or is
replied to and dropped (`SatisfiesAll`). The one thing that can go wrong is that a stream in
another slot is gone.
-/

namespace Haze

/-- The context that a reply is sent to. -/
def MediaCall.replies : MediaCall → Option Nat
  | .succeeded context _ => some context
  | .failed context _ => some context
  | _ => none

namespace HazeMediaChannel

variable {live : List HazeMediaStream} {stream : HazeMediaStream}
variable {p p' : PendingStreamRequest} {ps ps' : List PendingStreamRequest}
variable {calls : List MediaCall}

/-- No slot of the type is filled. -/
def TypeFree (mediaType : Nat) (p : PendingStreamRequest) : Prop :=
  ∀ slot ∈ p.types.zip p.streams, slot.1 = mediaType → slot.2 = none

instance (mediaType : Nat) : DecidablePred (TypeFree mediaType) := fun p =>
  inferInstanceAs (Decidable (∀ slot ∈ p.types.zip p.streams, slot.1 = mediaType → slot.2 = none))

/-- The counter of a request that waits for its reply is right. -/
structure Counted (p : PendingStreamRequest) : Prop where
  length : p.streams.length = p.types.length
  satisfied : p.satisfied = p.streams.countP Option.isSome
  context : p.context.isSome

/-- The loop over the slots has put the stream in every slot of its type from `i` on. -/
structure FilledFrom (stream : HazeMediaStream) (i : Nat) (p p' : PendingStreamRequest) : Prop
    where
  types : p'.types = p.types
  context : p'.context = p.context
  slots : ∀ j, p'.streams[j]? =
    if i ≤ j ∧ p.types[j]? = some stream.mediaType then some (some stream) else p.streams[j]?
  satisfied : p'.satisfied = p'.streams.countP Option.isSome

theorem FilledFrom.streams_eq (h : FilledFrom stream 0 p p')
    (hlength : p.streams.length = p.types.length) :
    p'.streams = Slots.fill stream.mediaType stream p.types p.streams := by
  apply List.ext_getElem?
  intro j
  rw [h.slots, Slots.getElem?_fill hlength]
  simp

theorem FilledFrom.counted (h : FilledFrom stream 0 p p') (hp : Counted p) : Counted p' where
  length := by rw [h.streams_eq hp.length, Slots.length_fill hp.length, h.types]
  satisfied := h.satisfied
  context := by rw [h.context]; exact hp.context

/-- What a slot holds after the loop is the new stream or was there before. -/
theorem FilledFrom.mem_streams (h : FilledFrom stream 0 p p') {held : HazeMediaStream}
    (hheld : some held ∈ p'.streams) : held = stream ∨ some held ∈ p.streams := by
  obtain ⟨j, hj⟩ := List.mem_iff_getElem?.mp hheld
  rw [h.slots] at hj
  split at hj
  · rw [Option.some.injEq, Option.some.injEq] at hj
    exact Or.inl hj.symm
  · exact Or.inr (List.mem_of_getElem? hj)

theorem countP_set_isSome {α : Type*} {l : List (Option α)} {i : Nat} {x : α}
    (hi : l[i]? = some none) : (l.set i (some x)).countP Option.isSome =
      l.countP Option.isSome + 1 := by
  obtain ⟨hlt, hnone⟩ := List.getElem?_eq_some_iff.mp hi
  rw [List.countP_set hlt, hnone]
  simp

/-- There is no slot of the type from `i` on. -/
theorem filledFrom_self {i : Nat} (hp : Counted p)
    (hnone : ∀ j : Nat, i ≤ j → p.types[j]? ≠ some stream.mediaType) : FilledFrom stream i p p := by
  refine ⟨rfl, rfl, fun j => ?_, hp.satisfied⟩
  rw [if_neg]
  rintro ⟨hj, htype⟩
  exact hnone j hj htype

/-- The slot `i` is of another type. -/
theorem FilledFrom.skip {i : Nat} (h : FilledFrom stream (i + 1) p p')
    (htype : p.types[i]? ≠ some stream.mediaType) : FilledFrom stream i p p' := by
  refine ⟨h.types, h.context, fun j => ?_, h.satisfied⟩
  have hiff : (i + 1 ≤ j ∧ p.types[j]? = some stream.mediaType) ↔
      (i ≤ j ∧ p.types[j]? = some stream.mediaType) := by
    constructor
    · rintro ⟨hj, hj'⟩
      exact ⟨by omega, hj'⟩
    · rintro ⟨hj, hj'⟩
      have hne : j ≠ i := fun h => htype (h ▸ hj')
      exact ⟨by omega, hj'⟩
  rw [h.slots]
  simp only [hiff]

/-- The request with the stream in the slot `i`. -/
def put (stream : HazeMediaStream) (i : Nat) (p : PendingStreamRequest) : PendingStreamRequest :=
  { p with
    streams := p.streams.set i (some stream)
    satisfied := p.satisfied + 1 }

theorem getElem?_put {i : Nat} (hempty : p.streams[i]? = some none) (j : Nat) :
    (put stream i p).streams[j]? = if j = i then some (some stream) else p.streams[j]? := by
  have hlt := (List.getElem?_eq_some_iff.mp hempty).1
  show (p.streams.set i (some stream))[j]? = _
  rw [List.getElem?_set]
  by_cases hj : i = j
  · simp [hj, hj ▸ hlt]
  · rw [if_neg hj, if_neg (fun h => hj h.symm)]

theorem Counted.put {i : Nat} (hp : Counted p) (hempty : p.streams[i]? = some none) :
    Counted (put stream i p) := by
  refine ⟨(List.length_set ..).trans hp.length, ?_, hp.context⟩
  show p.satisfied + 1 = (p.streams.set i (some stream)).countP Option.isSome
  rw [countP_set_isSome hempty, ← hp.satisfied]

/-- The slot `i` takes the stream. -/
theorem FilledFrom.of_put {i : Nat} (h : FilledFrom stream (i + 1) (put stream i p) p')
    (hempty : p.streams[i]? = some none) (htype : p.types[i]? = some stream.mediaType) :
    FilledFrom stream i p p' := by
  refine ⟨h.types, h.context, fun j => ?_, h.satisfied⟩
  have htypes : (put stream i p).types = p.types := rfl
  rw [h.slots, getElem?_put hempty, htypes]
  by_cases hj : j = i
  · rw [if_neg (by omega), if_pos hj, if_pos ⟨by omega, hj ▸ htype⟩]
  · have hiff : i + 1 ≤ j ↔ i ≤ j := by omega
    rw [if_neg hj]
    simp only [hiff]

/-- From the slot `i` on, the loop fills the slots of the stream's type when they are empty. -/
theorem fillSlots_spec (n i : Nat) (hi : i + n = p.types.length) (hp : Counted p)
    (hfree : ∀ j, i ≤ j → p.types[j]? = some stream.mediaType → p.streams[j]? = some none) :
    ∃ p' done, fillSlots stream n i p = .ok (p', done) ∧ FilledFrom stream i p p' ∧
      (done = true → p'.satisfied = p'.types.length) ∧
      (done = false → p.satisfied < p.types.length → p'.satisfied < p'.types.length) := by
  induction n generalizing i p with
  | zero =>
      refine ⟨p, false, rfl, filledFrom_self hp fun j hj hj' => ?_, by simp, fun _ h => h⟩
      have hlt := (List.getElem?_eq_some_iff.mp hj').1
      omega
  | succ n ih =>
      by_cases htype : p.types[i]? = some stream.mediaType
      · have hempty := hfree i (Nat.le_refl i) htype
        have hput : Counted (put stream i p) := hp.put hempty
        have hfree' : ∀ j, i + 1 ≤ j → (put stream i p).types[j]? = some stream.mediaType →
            (put stream i p).streams[j]? = some none := by
          intro j hj hj'
          rw [getElem?_put hempty, if_neg (by omega)]
          exact hfree j (by omega) hj'
        have hloop : fillSlots stream (n + 1) i p =
            if (put stream i p).satisfied = (put stream i p).types.length ∧
                (put stream i p).context.isSome then .ok (put stream i p, true)
            else fillSlots stream n (i + 1) (put stream i p) := by
          rw [fillSlots, if_pos htype, if_neg (not_not.mpr hempty)]
          rfl
        by_cases hdone : (put stream i p).satisfied = (put stream i p).types.length ∧
            (put stream i p).context.isSome
        · -- the loop stops early, but no slot of the type is left
          have hfull : ∀ slot ∈ (put stream i p).streams, slot.isSome := by
            apply List.countP_eq_length.mp
            rw [← hput.satisfied, hdone.1, hput.length]
          have hself : FilledFrom stream (i + 1) (put stream i p) (put stream i p) := by
            refine filledFrom_self hput fun j hj hj' => ?_
            have hnone := hfree' j hj hj'
            exact absurd (hfull none (List.mem_of_getElem? hnone)) (by simp)
          refine ⟨put stream i p, true, ?_, hself.of_put hempty htype, fun _ => hdone.1, by simp⟩
          rw [hloop, if_pos hdone]
        · obtain ⟨p', done, hrest, hfilled, hfull, hopen⟩ :=
            ih (i + 1) (by show i + 1 + n = p.types.length; omega) hput hfree'
          refine ⟨p', done, ?_, hfilled.of_put hempty htype, hfull, fun h hlt => hopen h ?_⟩
          · rw [hloop, if_neg hdone, hrest]
          · have hne : p.satisfied + 1 ≠ p.types.length := fun h => hdone ⟨h, hp.context⟩
            show p.satisfied + 1 < p.types.length
            omega
      · obtain ⟨p', done, hrest, hfilled, hfull, hopen⟩ :=
          ih (i + 1) (by omega) hp (fun j hj => hfree j (by omega))
        refine ⟨p', done, ?_, hfilled.skip htype, hfull, hopen⟩
        rw [fillSlots, if_neg htype, hrest]

/-- When the slots of the type are filled, the loop fails at the first of them. -/
theorem fillSlots_assertion (stream : HazeMediaStream) (n i : Nat)
    (hfilled : ∀ j : Nat, p.types[j]? = some stream.mediaType → p.streams[j]? ≠ some none)
    (hsome : ∃ j : Nat, i ≤ j ∧ j < i + n ∧ p.types[j]? = some stream.mediaType) :
    fillSlots stream n i p = .error .assertion := by
  induction n generalizing i with
  | zero =>
      obtain ⟨j, hij, hj, -⟩ := hsome
      omega
  | succ n ih =>
      rw [fillSlots]
      by_cases htype : p.types[i]? = some stream.mediaType
      · rw [if_pos htype, if_pos (hfilled i htype)]
      · rw [if_neg htype]
        obtain ⟨j, hij, hj, hj'⟩ := hsome
        have hne : j ≠ i := fun h => htype (h ▸ hj')
        exact ih (i + 1) ⟨j, by omega, by omega, hj'⟩

/-! ## The reply -/

theorem makeStreamList_ok {slots : List (Option HazeMediaStream)} {streams : List HazeMediaStream}
    (h : makeStreamList live slots = .ok streams) : slots = streams.map some := by
  induction slots generalizing streams with
  | nil =>
      cases h
      rfl
  | cons slot slots ih =>
      cases slot with
      | none => cases h
      | some held =>
          simp only [makeStreamList] at h
          split at h
          · cases h
          · cases hrest : makeStreamList live slots with
            | error fault =>
                rw [hrest] at h
                cases h
            | ok rest =>
                rw [hrest] at h
                cases h
                rw [List.map_cons, ← ih hrest]

/-- All slots are filled: the list is made, unless a stream is gone. -/
theorem makeStreamList_cases (live : List HazeMediaStream) {slots : List (Option HazeMediaStream)}
    (hfull : ∀ slot ∈ slots, slot.isSome) :
    (∃ streams, makeStreamList live slots = .ok streams) ∨
      makeStreamList live slots = .error .useAfterFree ∧
        ∃ held, some held ∈ slots ∧ held ∉ live := by
  induction slots with
  | nil => exact Or.inl ⟨[], rfl⟩
  | cons slot slots ih =>
      obtain ⟨held, rfl⟩ := Option.isSome_iff_exists.mp (hfull slot List.mem_cons_self)
      by_cases hheld : held ∈ live
      · rcases ih (fun slot' h => hfull slot' (List.mem_cons_of_mem _ h)) with
          ⟨streams, hrest⟩ | ⟨hrest, held', hmem, hgone⟩
        · refine Or.inl ⟨held :: streams, ?_⟩
          rw [makeStreamList, if_neg (not_not.mpr hheld), hrest]
        · refine Or.inr ⟨?_, held', List.mem_cons_of_mem _ hmem, hgone⟩
          rw [makeStreamList, if_neg (not_not.mpr hheld), hrest]
      · refine Or.inr ⟨?_, held, List.mem_cons_self, hheld⟩
        rw [makeStreamList, if_pos hheld]

theorem fillSlots_context {n i : Nat} {done : Bool}
    (h : fillSlots stream n i p = .ok (p', done)) : p'.context = p.context := by
  induction n generalizing i p with
  | zero =>
      cases h
      rfl
  | succ n ih =>
      unfold fillSlots at h
      split at h
      · split at h
        · cases h
        · dsimp only at h
          split at h
          · cases h
            rfl
          · have hrest := ih h
            exact hrest
      · exact ih h

/-- A request keeps its context, or is replied to and loses it. -/
theorem pendingStreamRequestMaybeSatisfy_cases {reply : Option MediaCall}
    (h : pendingStreamRequestMaybeSatisfy live stream p = .ok (p', reply)) :
    reply = none ∧ p'.context = p.context ∨ ∃ context streams,
      reply = some (.succeeded context streams) ∧ p.context = some context ∧ p'.context = none := by
  unfold pendingStreamRequestMaybeSatisfy at h
  split at h
  · cases h
  · rename_i hloop
    cases h
    exact Or.inl ⟨rfl, fillSlots_context hloop⟩
  · rename_i p₁ hloop
    have hcontext : p₁.context = p.context := fillSlots_context hloop
    split at h
    · cases h
    · cases h
      exact Or.inl ⟨rfl, hcontext⟩
    · rename_i context _ hsome
      cases h
      exact Or.inr ⟨context, _, rfl, hcontext.symm.trans hsome, rfl⟩

/-- The contexts of the requests are those that still wait and those that are replied to. -/
theorem satisfyRequests_contexts (h : satisfyRequests live stream ps = .ok (ps', calls))
    (hps : ∀ p ∈ ps, p.context.isSome) :
    (ps.filterMap PendingStreamRequest.context).Perm
      (ps'.filterMap PendingStreamRequest.context ++ calls.filterMap MediaCall.replies) ∧
    (∀ p ∈ ps', p.context.isSome) := by
  induction ps generalizing ps' calls with
  | nil =>
      cases h
      exact ⟨List.Perm.refl _, by simp⟩
  | cons p ps ih =>
      have hrest : ∀ q ∈ ps, q.context.isSome := fun q hq => hps q (List.mem_cons_of_mem _ hq)
      unfold satisfyRequests at h
      split at h
      · cases h
      · rename_i p₁ reply hfirst
        split at h
        · cases h
        · rename_i ps₁ calls₁ hloop
          obtain ⟨hperm, hsome⟩ := ih hloop hrest
          rcases pendingStreamRequestMaybeSatisfy_cases hfirst with
            ⟨rfl, hcontext⟩ | ⟨context, streams, rfl, hcontext, hfreed⟩
          · cases h
            obtain ⟨context, hp⟩ := Option.isSome_iff_exists.mp (hps p List.mem_cons_self)
            rw [List.filterMap_cons_some hp, List.filterMap_cons_some (hcontext.trans hp)]
            refine ⟨hperm.cons context, List.forall_mem_cons.mpr ⟨?_, hsome⟩⟩
            rw [hcontext, hp]
            rfl
          · -- freeing it sends no second reply
            simp only [pendingStreamRequestFree, hfreed] at h
            cases h
            rw [List.filterMap_cons_some hcontext]
            exact ⟨(hperm.cons context).trans List.perm_middle.symm, hsome⟩

/-- All replies are replies of success. -/
theorem satisfyRequests_succeeded (h : satisfyRequests live stream ps = .ok (ps', calls)) :
    ∀ c ∈ calls, ∃ context streams, c = .succeeded context streams := by
  induction ps generalizing ps' calls with
  | nil =>
      cases h
      simp
  | cons p ps ih =>
      unfold satisfyRequests at h
      split at h
      · cases h
      · rename_i p₁ reply hfirst
        split at h
        · cases h
        · rename_i ps₁ calls₁ hloop
          rcases pendingStreamRequestMaybeSatisfy_cases hfirst with
            ⟨rfl, -⟩ | ⟨context, streams, rfl, -, hfreed⟩
          · cases h
            exact ih hloop
          · simp only [pendingStreamRequestFree, hfreed] at h
            cases h
            exact List.forall_mem_cons.mpr ⟨⟨context, streams, rfl⟩, ih hloop⟩

/-- What a new stream makes of one request: it goes on waiting, or it is replied to, or the reply
would list a stream that is gone. -/
inductive Satisfies (live : List HazeMediaStream) (stream : HazeMediaStream)
    (p : PendingStreamRequest) : Except Fault (PendingStreamRequest × Option MediaCall) → Prop
  | waits {p' : PendingStreamRequest} (hfilled : FilledFrom stream 0 p p')
      (hopen : p.satisfied < p.types.length → p'.satisfied < p'.types.length) :
      Satisfies live stream p (.ok (p', none))
  | replies {p' : PendingStreamRequest} {context : Nat} {streams : List HazeMediaStream}
      (hfilled : FilledFrom stream 0 p p') (hcontext : p.context = some context)
      (hstreams : p'.streams = streams.map some) :
      Satisfies live stream p (.ok ({ p' with context := none },
        some (.succeeded context streams)))
  | dangles {p' : PendingStreamRequest} {held : HazeMediaStream}
      (hfilled : FilledFrom stream 0 p p') (hheld : some held ∈ p'.streams)
      (hgone : held ∉ live) : Satisfies live stream p (.error .useAfterFree)

theorem pendingStreamRequestMaybeSatisfy_spec (live : List HazeMediaStream) (hp : Counted p)
    (hfree : TypeFree stream.mediaType p) :
    Satisfies live stream p (pendingStreamRequestMaybeSatisfy live stream p) := by
  have hslots : ∀ j, 0 ≤ j → p.types[j]? = some stream.mediaType → p.streams[j]? = some none :=
    fun j _ hj => Slots.Free.getElem? hfree hp.length hj
  obtain ⟨p', done, hloop, hfilled, hfull, hopen⟩ :=
    fillSlots_spec p.types.length 0 (Nat.zero_add _) hp hslots
  unfold pendingStreamRequestMaybeSatisfy
  rw [hloop]
  cases done with
  | false => exact Satisfies.waits hfilled (hopen rfl)
  | true =>
      have hp' : Counted p' := hfilled.counted hp
      have hall : ∀ slot ∈ p'.streams, slot.isSome := by
        apply List.countP_eq_length.mp
        rw [← hp'.satisfied, hfull rfl, hp'.length]
      obtain ⟨context, hcontext⟩ := Option.isSome_iff_exists.mp hp'.context
      have hold : p.context = some context := hfilled.context.symm.trans hcontext
      rcases makeStreamList_cases live hall with
        ⟨streams, hstreams⟩ | ⟨hgone, held, hmem, hdead⟩
      · simp only [hstreams, hcontext]
        exact Satisfies.replies hfilled hold (makeStreamList_ok hstreams)
      · simp only [hgone]
        exact Satisfies.dangles hfilled hmem hdead

/-- What a new stream makes of the requests: some go on waiting, the others are replied to and
dropped. -/
inductive SatisfiesAll (stream : HazeMediaStream) :
    List PendingStreamRequest → List PendingStreamRequest → List MediaCall → Prop
  | nil : SatisfiesAll stream [] [] []
  | waits {p p' : PendingStreamRequest} {ps ps' : List PendingStreamRequest}
      {calls : List MediaCall} (hfilled : FilledFrom stream 0 p p')
      (hopen : p.satisfied < p.types.length → p'.satisfied < p'.types.length)
      (hrest : SatisfiesAll stream ps ps' calls) :
      SatisfiesAll stream (p :: ps) (p' :: ps') calls
  | replies {p p' : PendingStreamRequest} {ps ps' : List PendingStreamRequest}
      {calls : List MediaCall} {context : Nat} {streams : List HazeMediaStream}
      (hfilled : FilledFrom stream 0 p p') (hcontext : p.context = some context)
      (hstreams : p'.streams = streams.map some) (hrest : SatisfiesAll stream ps ps' calls) :
      SatisfiesAll stream (p :: ps) ps' (.succeeded context streams :: calls)

theorem SatisfiesAll.waits_of_mem (h : SatisfiesAll stream ps ps' calls) (hp' : p' ∈ ps') :
    ∃ p ∈ ps, FilledFrom stream 0 p p' ∧
      (p.satisfied < p.types.length → p'.satisfied < p'.types.length) := by
  induction h with
  | nil => cases hp'
  | waits hfilled hopen _ ih =>
      rcases List.mem_cons.mp hp' with rfl | hmem
      · exact ⟨_, List.mem_cons_self, hfilled, hopen⟩
      · obtain ⟨p, hp, hrest⟩ := ih hmem
        exact ⟨p, List.mem_cons_of_mem _ hp, hrest⟩
  | replies _ _ _ _ ih =>
      obtain ⟨p, hp, hrest⟩ := ih hp'
      exact ⟨p, List.mem_cons_of_mem _ hp, hrest⟩

theorem SatisfiesAll.replies_of_mem (h : SatisfiesAll stream ps ps' calls) {c : MediaCall}
    (hc : c ∈ calls) : ∃ p ∈ ps, ∃ p' context streams, c = .succeeded context streams ∧
      FilledFrom stream 0 p p' ∧ p.context = some context ∧ p'.streams = streams.map some := by
  induction h with
  | nil => cases hc
  | waits _ _ _ ih =>
      obtain ⟨p, hp, hrest⟩ := ih hc
      exact ⟨p, List.mem_cons_of_mem _ hp, hrest⟩
  | replies hfilled hcontext hstreams _ ih =>
      rcases List.mem_cons.mp hc with rfl | hmem
      · exact ⟨_, List.mem_cons_self, _, _, _, rfl, hfilled, hcontext, hstreams⟩
      · obtain ⟨p, hp, hrest⟩ := ih hmem
        exact ⟨p, List.mem_cons_of_mem _ hp, hrest⟩

/-- The loop over the requests goes through, unless a stream in a slot is gone. -/
theorem satisfyRequests_spec (live : List HazeMediaStream) (stream : HazeMediaStream)
    (hps : ∀ p ∈ ps, Counted p)
    (hfree : ∀ p ∈ ps, TypeFree stream.mediaType p) :
    (∃ ps' calls, satisfyRequests live stream ps = .ok (ps', calls) ∧
      SatisfiesAll stream ps ps' calls) ∨
    satisfyRequests live stream ps = .error .useAfterFree ∧
      ∃ p ∈ ps, ∃ p' held, FilledFrom stream 0 p p' ∧ some held ∈ p'.streams ∧ held ∉ live := by
  induction ps with
  | nil => exact Or.inl ⟨[], [], rfl, SatisfiesAll.nil⟩
  | cons p ps ih =>
      have hrest := ih (fun q hq => hps q (List.mem_cons_of_mem _ hq))
        (fun q hq => hfree q (List.mem_cons_of_mem _ hq))
      have hfirst := pendingStreamRequestMaybeSatisfy_spec live (hps p List.mem_cons_self)
        (hfree p List.mem_cons_self)
      simp only [satisfyRequests]
      generalize pendingStreamRequestMaybeSatisfy live stream p = outcome at hfirst
      cases hfirst with
      | waits hfilled hopen =>
          rcases hrest with ⟨ps', calls, hloop, hall⟩ | ⟨hloop, q, hq, hdead⟩
          · exact Or.inl ⟨_, _, by simp only [hloop], SatisfiesAll.waits hfilled hopen hall⟩
          · exact Or.inr ⟨by simp only [hloop], q, List.mem_cons_of_mem _ hq, hdead⟩
      | replies hfilled hcontext hstreams =>
          rcases hrest with ⟨ps', calls, hloop, hall⟩ | ⟨hloop, q, hq, hdead⟩
          · -- freeing it sends no second reply, since its context has been cleared
            refine Or.inl ⟨_, _, ?_, SatisfiesAll.replies hfilled hcontext hstreams hall⟩
            simp only [hloop, pendingStreamRequestFree]
            rfl
          · exact Or.inr ⟨by simp only [hloop], q, List.mem_cons_of_mem _ hq, hdead⟩
      | dangles hfilled hheld hgone =>
          exact Or.inr ⟨rfl, p, List.mem_cons_self, _, _, hfilled, hheld, hgone⟩

theorem streamNew_eq {s : HazeMediaChannel} {mediaType : Nat}
    (h : satisfyRequests (s.streams ++ [⟨s.nextStreamId, mediaType⟩]) ⟨s.nextStreamId, mediaType⟩
      s.pendingStreamRequests = .ok (ps, calls)) :
    s.streamNew mediaType = .ok ({ s with
      streams := s.streams ++ [(⟨s.nextStreamId, mediaType⟩ : HazeMediaStream)]
      nextStreamId := s.nextStreamId + 1
      pendingStreamRequests := ps }.log
        (calls ++ [MediaCall.streamAdded s.nextStreamId s.initialPeer mediaType])) := by
  simp only [HazeMediaChannel.streamNew, h]

theorem streamNew_error {s : HazeMediaChannel} {mediaType : Nat} {fault : Fault}
    (h : satisfyRequests (s.streams ++ [⟨s.nextStreamId, mediaType⟩]) ⟨s.nextStreamId, mediaType⟩
      s.pendingStreamRequests = .error fault) : s.streamNew mediaType = .error fault := by
  simp only [HazeMediaChannel.streamNew, h]

end HazeMediaChannel

end Haze
