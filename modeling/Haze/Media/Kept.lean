import Haze.Media.Callbacks
import Haze.Media.Replies

set_option autoImplicit false

/-! # What the media manager keeps

The invariant of the manager (`Keeping`). The contexts that a channel waits for are its own, and no
two channels wait for one; a channel is not announced while the context of the request that it was
created for is there, and that is the only one of its kind. So a channel on the list is announced,
waits for its streams, or is being closed (`Kept.listed`). A step of a channel keeps this because of
what it settles (`Keeping.withChannel`).
-/

namespace Haze

namespace HazeMediaManager

open HazeMediaChannel (Settles Ends Closing)

variable {m m' : HazeMediaManager} {channel : Nat} {own : Nat → List Nat} {new : List MediaCall}

/-- What holds of a channel when the contexts `own` have been opened for it. -/
structure Kept (m : HazeMediaManager) (own : List Nat) (channel : Nat) (o : MediaChannelObject) :
    Prop where
  waiting : ∀ p ∈ o.chan.pendingStreamRequests, p.context.isSome
  contexts : ∀ x ∈ own ++ o.chan.outstanding, ∃ context, m.contexts[x]? = some context ∧
    context.owner = some channel
  nodup : (own ++ o.chan.outstanding).Nodup
  closed : channel ∈ m.channels → o.chan.closed = true → o.chan.Closing
  listed : channel ∈ m.channels → m.Announced channel ∨
    (∃ x ∈ own ++ o.chan.outstanding, m.IsCreation channel x) ∨ o.chan.Closing

/-- What holds of the manager when the contexts `own` have been opened for its channels. -/
structure Keeping (own : Nat → List Nat) (m : HazeMediaManager) : Prop where
  nodup : m.channels.Nodup
  listed : ∀ y ∈ m.channels, y < m.objects.length
  announced : ∀ y, m.Announced y → y < m.objects.length
  /-- a channel is announced when the request that it was created for succeeds, not before -/
  creation : ∀ y x, m.IsCreation y x → y < m.objects.length ∧ ¬ m.Announced y
  once : ∀ y x x', m.IsCreation y x → m.IsCreation y x' → x = x'
  kept : ∀ y o, m.objects[y]? = some o → Kept m (own y) y o

theorem keeping_init (protocol : String) (selfHandle : Nat) :
    Keeping (fun _ => []) (.init protocol selfHandle) where
  nodup := List.nodup_nil
  listed := fun _ h => absurd h List.not_mem_nil
  announced := fun _ h => absurd h List.not_mem_nil
  creation := fun _ _ h => by cases h
  once := fun _ _ _ h => by cases h
  kept := fun _ _ h => by cases h

theorem replies_eq_some {c : MediaCall} {x : Nat} (h : c.replies = some x) :
    (∃ streams, c = .succeeded x streams) ∨ ∃ error, c = .failed x error := by
  cases c with
  | succeeded y streams =>
      cases h
      exact Or.inl ⟨streams, rfl⟩
  | failed y error =>
      cases h
      exact Or.inr ⟨error, rfl⟩
  | _ => cases h

theorem not_freed_of_owner {context : MediaContext} {y : Nat} (h : context.owner = some y) :
    context ≠ .freed := by
  rintro rfl
  cases h

/-- A step of another channel. -/
theorem Kept.other {y : Nat} {o : MediaChannelObject} (h : Kept m [] y o)
    (hback : CalledBack channel m new m') (hy : y ≠ channel)
    (hnew : ∀ x ∈ new.filterMap MediaCall.replies, ∃ context, m.contexts[x]? = some context ∧
      context.owner = some channel) : Kept m' [] y o := by
  have hnot : ∀ x ∈ o.chan.outstanding, x ∉ new.filterMap MediaCall.replies := by
    intro x hx hreply
    obtain ⟨context, hcontext, howner⟩ := h.contexts x hx
    obtain ⟨context', hcontext', howner'⟩ := hnew x hreply
    rw [hcontext] at hcontext'
    cases hcontext'
    rw [howner] at howner'
    cases howner'
    exact hy rfl
  refine ⟨h.waiting, fun x hx => ?_, h.nodup, fun hlisted => h.closed (hback.channels y hlisted),
    fun hlisted => ?_⟩
  · obtain ⟨context, hcontext, howner⟩ := h.contexts x hx
    have hfreed := not_freed_of_owner howner
    exact ⟨context, (hback.contexts x context hfreed).mpr ⟨hcontext, hnot x hx⟩, howner⟩
  · rcases h.listed (hback.channels y hlisted) with hannounced | ⟨x, hx, hcreation⟩ | hclosing
    · exact Or.inl ((hback.announced y).mpr (Or.inl hannounced))
    · exact Or.inr (Or.inl ⟨x, hx, hback.isCreation_iff.mpr ⟨hcreation, hnot x hx⟩⟩)
    · exact Or.inr (Or.inr hclosing)

/-- A step of the channel itself. The request that it was created for may fail only with the end of
the channel. -/
theorem Kept.settle {own : List Nat} {o : MediaChannelObject} {chan : HazeMediaChannel}
    (h : Kept m own channel o) (hm : m.channels.Nodup) (hback : CalledBack channel m new m')
    (hsettles : Settles own o.chan chan new)
    (hfailed : ∀ x error, .failed x error ∈ new → x ∈ own → ¬ m.IsCreation channel x) :
    Kept m' [] channel { o with chan := chan } := by
  have hnodup := hsettles.contexts.nodup_iff.mp h.nodup
  have hmem : ∀ x, x ∈ own ++ o.chan.outstanding ↔
      x ∈ chan.outstanding ∨ x ∈ new.filterMap MediaCall.replies := by
    intro x
    rw [hsettles.contexts.mem_iff, List.mem_append]
  have hnot : ∀ x ∈ chan.outstanding, x ∉ new.filterMap MediaCall.replies := by
    intro x hx hreply
    exact (List.nodup_append.mp hnodup).2.2 x hx x hreply rfl
  have hclosing : channel ∈ m'.channels → o.chan.Closing → chan.Closing := by
    intro hlisted hbefore
    rcases hsettles.closing hbefore with hclosed | hafter
    · exact absurd hlisted (hback.closed hm hclosed)
    · exact hafter
  have hends : channel ∈ m'.channels → Ends o.chan chan new → chan.Closing := by
    rintro hlisted (hclosed | hclosed | hafter)
    · exact hclosing hlisted (h.closed (hback.channels channel hlisted) hclosed)
    · exact absurd hlisted (hback.closed hm hclosed)
    · exact hafter
  refine ⟨hsettles.waiting h.waiting, fun x hx => ?_, (List.nodup_append.mp hnodup).1,
    fun hlisted hclosed => hends hlisted (hsettles.closed hclosed), fun hlisted => ?_⟩
  · obtain ⟨context, hcontext, howner⟩ := h.contexts x ((hmem x).mpr (Or.inl hx))
    have hfreed := not_freed_of_owner howner
    exact ⟨context, (hback.contexts x context hfreed).mpr ⟨hcontext, hnot x hx⟩, howner⟩
  · rcases h.listed (hback.channels channel hlisted) with
      hannounced | ⟨x, hx, hcreation⟩ | hbefore
    · exact Or.inl ((hback.announced channel).mpr (Or.inl hannounced))
    · rcases (hmem x).mp hx with hx | hx
      · exact Or.inr (Or.inl ⟨x, hx, hback.isCreation_iff.mpr ⟨hcreation, hnot x hx⟩⟩)
      · obtain ⟨c, hc, hreplies⟩ := List.mem_filterMap.mp hx
        rcases replies_eq_some hreplies with ⟨streams, rfl⟩ | ⟨error, rfl⟩
        · exact Or.inl ((hback.announced channel).mpr (Or.inr ⟨x, streams, hc, hcreation⟩))
        · rcases hsettles.failed x error hc with hown | hend
          · exact absurd hcreation (hfailed x error hc hown)
          · exact Or.inr (Or.inr (hends hlisted hend))
    · exact Or.inr (Or.inr (hclosing hlisted hbefore))

/-- A step of a channel, with its calls. -/
theorem withChannel_ok {f : HazeMediaChannel → Except Fault HazeMediaChannel}
    (h : m.withChannel channel f = .ok m') : ∃ o chan, m.objects[channel]? = some o ∧
      f o.chan = .ok chan ∧ CalledBack channel
        { m with objects := m.objects.set channel { o with chan := chan } }
        (chan.calls.drop o.chan.calls.length) m' := by
  unfold withChannel at h
  split at h
  · cases h
  · rename_i o ho
    split at h
    · cases h
    · rename_i chan hchan
      exact ⟨o, chan, ho, hchan, calledBack_foldlM h⟩

/-- The rule for a step of a channel: it settles what it opened, or it replies to a context twice,
which is a fault. -/
theorem Keeping.withChannel {f : HazeMediaChannel → Except Fault HazeMediaChannel}
    (hm : Keeping own m) (hown : ∀ y, y ≠ channel → own y = [])
    (hf : ∀ o chan, m.objects[channel]? = some o → f o.chan = .ok chan → ∃ new,
      chan.calls = o.chan.calls ++ new ∧ ((new.filterMap MediaCall.replies).Nodup →
        Settles (own channel) o.chan chan new ∧
          ∀ x error, .failed x error ∈ new → x ∈ own channel → ¬ m.IsCreation channel x))
    (h : m.withChannel channel f = .ok m') : Keeping (fun _ => []) m' := by
  obtain ⟨o, chan, ho, hchan, hback⟩ := withChannel_ok h
  obtain ⟨new, hnew, hsettles⟩ := hf o chan ho hchan
  rw [hnew, List.drop_left] at hback
  obtain ⟨hsettles, hfailed⟩ := hsettles hback.once
  let t : HazeMediaManager := { m with objects := m.objects.set channel { o with chan := chan } }
  have hlength : m'.objects.length = m.objects.length := by
    rw [hback.objects, List.length_set]
  have hcreation : ∀ y x, m'.IsCreation y x → m.IsCreation y x ∧
      x ∉ new.filterMap MediaCall.replies := fun y x hx => hback.isCreation_iff.mp hx
  have hreplied : ∀ x ∈ new.filterMap MediaCall.replies, ∃ context,
      m.contexts[x]? = some context ∧ context.owner = some channel := by
    intro x hx
    have hmem : x ∈ own channel ++ o.chan.outstanding :=
      hsettles.contexts.mem_iff.mpr (List.mem_append_right _ hx)
    exact (hm.kept channel o ho).contexts x hmem
  refine
    { nodup := hback.nodup hm.nodup
      listed := fun y hy => ?_
      announced := fun y hy => ?_
      creation := fun y x hx => ?_
      once := fun y x x' hx hx' => hm.once y x x' (hcreation y x hx).1 (hcreation y x' hx').1
      kept := fun y o' ho' => ?_ }
  · rw [hlength]
    exact hm.listed y (hback.channels y hy)
  · rw [hlength]
    rcases (hback.announced y).mp hy with hbefore | ⟨x, streams, -, hx⟩
    · exact hm.announced y hbefore
    · exact (hm.creation y x hx).1
  · obtain ⟨hbefore, hnot⟩ := hcreation y x hx
    refine ⟨by rw [hlength]; exact (hm.creation y x hbefore).1, fun hannounced => ?_⟩
    rcases (hback.announced y).mp hannounced with hearlier | ⟨z, streams, hmem, hz⟩
    · exact (hm.creation y x hbefore).2 hearlier
    · rw [hm.once y x z hbefore hz] at hnot
      exact hnot (mem_replies_of_succeeded hmem)
  · rw [hback.objects, List.getElem?_set] at ho'
    by_cases hy : channel = y
    · subst hy
      rw [if_pos rfl, if_pos (List.getElem?_eq_some_iff.mp ho).1] at ho'
      cases ho'
      have hkept : Kept t (own channel) channel o := ⟨(hm.kept channel o ho).waiting,
        (hm.kept channel o ho).contexts, (hm.kept channel o ho).nodup,
        (hm.kept channel o ho).closed, (hm.kept channel o ho).listed⟩
      exact hkept.settle hm.nodup hback hsettles hfailed
    · rw [if_neg hy] at ho'
      have hbefore := hm.kept y o' ho'
      rw [hown y (Ne.symm hy)] at hbefore
      have hkept : Kept t [] y o' := ⟨hbefore.waiting, hbefore.contexts, hbefore.nodup,
        hbefore.closed, hbefore.listed⟩
      exact hkept.other hback (Ne.symm hy) hreplied

/-! ## New channels and contexts -/

/-- Nothing is taken from a channel. -/
theorem Kept.mono {own : List Nat} {y : Nat} {o : MediaChannelObject} (h : Kept m own y o)
    (hcontexts : ∀ (x : Nat) (context : MediaContext), m.contexts[x]? = some context →
      m'.contexts[x]? = some context) (hannounced : m.Announced y → m'.Announced y)
    (hchannels : y ∈ m'.channels → y ∈ m.channels) : Kept m' own y o := by
  refine ⟨h.waiting, fun x hx => ?_, h.nodup, fun hlisted => h.closed (hchannels hlisted),
    fun hlisted => ?_⟩
  · obtain ⟨context, hcontext, howner⟩ := h.contexts x hx
    exact ⟨context, hcontexts x context hcontext, howner⟩
  · rcases h.listed (hchannels hlisted) with hbefore | ⟨x, hx, hcreation⟩ | hclosing
    · exact Or.inl (hannounced hbefore)
    · obtain ⟨token, htoken⟩ := isCreation_iff.mp hcreation
      exact Or.inr (Or.inl ⟨x, hx, isCreation_iff.mpr ⟨token, hcontexts x _ htoken⟩⟩)
    · exact Or.inr (Or.inr hclosing)

/-- A signal that announces no channel. -/
theorem Keeping.emit {call : MediaManagerCall} (hm : Keeping own m)
    (hcall : call.announces = none) : Keeping own (m.emit call) := by
  have hsame : ∀ y, (m.emit call).Announced y ↔ m.Announced y := by
    intro y
    rw [announced_emit, hcall]
    simp
  exact
    { nodup := hm.nodup
      listed := hm.listed
      announced := fun y hy => hm.announced y ((hsame y).mp hy)
      creation := fun y x hx => ⟨(hm.creation y x hx).1,
        fun hy => (hm.creation y x hx).2 ((hsame y).mp hy)⟩
      once := hm.once
      kept := fun y o ho => (hm.kept y o ho).mono (fun _ _ h => h) (hsame y).mpr id }

theorem getElem?_concat_of_some {α : Type*} {l : List α} {i : Nat} {a b : α}
    (h : l[i]? = some a) : (l ++ [b])[i]? = some a := by
  rw [List.getElem?_append_left (List.getElem?_eq_some_iff.mp h).1]
  exact h

theorem getElem?_concat_cases {α : Type*} {l : List α} {i : Nat} {a b : α}
    (h : (l ++ [b])[i]? = some a) : l[i]? = some a ∨ i = l.length ∧ a = b := by
  rw [List.getElem?_append] at h
  split at h
  · exact Or.inl h
  · rw [List.getElem?_singleton] at h
    split at h
    · cases h
      exact Or.inr ⟨by omega, rfl⟩
    · cases h

/-- The contexts that a channel waits for are not new. -/
theorem Kept.ne_of_mem {own : List Nat} {y x : Nat} {o : MediaChannelObject} (h : Kept m own y o)
    (hx : x ∈ own ++ o.chan.outstanding) : x < m.contexts.length := by
  obtain ⟨context, hcontext, -⟩ := h.contexts x hx
  exact (List.getElem?_eq_some_iff.mp hcontext).1

/-- A context is opened for one channel. -/
def opened (channel context y : Nat) : List Nat := if y = channel then [context] else []

theorem opened_self (channel context : Nat) : opened channel context channel = [context] :=
  if_pos rfl

theorem opened_of_ne {channel context y : Nat} (h : y ≠ channel) : opened channel context y = [] :=
  if_neg h

/-- A D-Bus call opens a context. -/
theorem Keeping.invocation (hm : Keeping (fun _ => []) m) (channel : Nat) :
    Keeping (opened channel m.contexts.length) (m.allocate (.invocation channel)).1 := by
  have hcreation : ∀ y x, (m.allocate (.invocation channel)).1.IsCreation y x →
      m.IsCreation y x := by
    intro y x hx
    obtain ⟨token, htoken⟩ := isCreation_iff.mp hx
    refine isCreation_iff.mpr ⟨token, ?_⟩
    have hconcat : (m.contexts ++ [.invocation channel])[x]? = some (.request y token) := htoken
    rcases getElem?_concat_cases hconcat with hbefore | ⟨-, hnew⟩
    · exact hbefore
    · cases hnew
  have hkept : ∀ y o, m.objects[y]? = some o →
      Kept (m.allocate (.invocation channel)).1 [] y o :=
    fun y o ho => (hm.kept y o ho).mono (fun _ _ h => getElem?_concat_of_some h) id id
  refine
    { nodup := hm.nodup
      listed := hm.listed
      announced := hm.announced
      creation := fun y x hx => hm.creation y x (hcreation y x hx)
      once := fun y x x' hx hx' => hm.once y x x' (hcreation y x hx) (hcreation y x' hx')
      kept := fun y o ho => ?_ }
  have hy := hkept y o ho
  by_cases heq : y = channel
  · subst heq
    rw [opened_self]
    refine ⟨hy.waiting, fun x hx => ?_, ?_, hy.closed, fun hlisted => ?_⟩
    · rcases List.mem_cons.mp hx with rfl | hx
      · exact ⟨.invocation y, List.getElem?_concat_length, rfl⟩
      · exact hy.contexts x hx
    · refine List.nodup_cons.mpr ⟨fun hmem => ?_, hy.nodup⟩
      exact absurd ((hm.kept y o ho).ne_of_mem hmem) (Nat.lt_irrefl _)
    · rcases hy.listed hlisted with hannounced | ⟨x, hx, hx'⟩ | hclosing
      · exact Or.inl hannounced
      · exact Or.inr (Or.inl ⟨x, List.mem_cons_of_mem _ hx, hx'⟩)
      · exact Or.inr (Or.inr hclosing)
  · rw [opened_of_ne heq]
    exact hy

/-- A channel that is put on the list is the last one. -/
theorem mem_concat_length {l : List Nat} {n y : Nat} (h : y ∈ l ++ [n]) :
    y ∈ l ∨ y = n := by
  rcases List.mem_append.mp h with h | h
  · exact Or.inl h
  · exact Or.inr (List.mem_singleton.mp h)

theorem Keeping.nodup_concat (hm : Keeping own m) :
    (m.channels ++ [m.objects.length]).Nodup := by
  refine List.nodup_append.mpr ⟨hm.nodup, List.nodup_singleton _, fun y hy z hz heq => ?_⟩
  have hlt := hm.listed y hy
  rw [heq, List.mem_singleton.mp hz] at hlt
  exact absurd hlt (Nat.lt_irrefl _)

/-- A channel for a call that comes in. -/
theorem Keeping.initMediaCb (hm : Keeping (fun _ => []) m) (initiator : Bool) (contact : Nat) :
    Keeping (fun _ => []) (m.initMediaCb initiator contact) := by
  unfold HazeMediaManager.initMediaCb
  split
  · exact hm
  dsimp only
  let n := m.objects.length
  let t := m.newMediaChannel true contact false false
  have hannounced : ∀ y, (t.1.emit (.newChannel t.2 [])).Announced y ↔ m.Announced y ∨ y = n := by
    intro y
    rw [announced_emit]
    exact or_congr_right (by simp [MediaManagerCall.announces, t, n, newMediaChannel, eq_comm])
  have hlength : (t.1.emit (.newChannel t.2 [])).objects.length = n + 1 := List.length_append
  refine
    { nodup := hm.nodup_concat
      listed := fun y hy => ?_
      announced := fun y hy => ?_
      creation := fun y x hx => ?_
      once := hm.once
      kept := fun y o ho => ?_ }
  · rw [hlength]
    rcases mem_concat_length hy with hy | rfl
    · exact Nat.lt_succ_of_lt (hm.listed y hy)
    · exact Nat.lt_succ_self n
  · rw [hlength]
    rcases (hannounced y).mp hy with hy | rfl
    · exact Nat.lt_succ_of_lt (hm.announced y hy)
    · exact Nat.lt_succ_self n
  · rw [hlength]
    obtain ⟨hlt, hnot⟩ := hm.creation y x hx
    refine ⟨Nat.lt_succ_of_lt hlt, fun hy => ?_⟩
    rcases (hannounced y).mp hy with hy | rfl
    · exact hnot hy
    · exact Nat.lt_irrefl _ hlt
  · rcases getElem?_concat_cases ho with hbefore | ⟨rfl, rfl⟩
    · refine (hm.kept y o hbefore).mono (fun _ _ h => h)
        (fun hy => (hannounced y).mpr (Or.inl hy)) (fun hlisted => ?_)
      rcases mem_concat_length hlisted with hlisted | rfl
      · exact hlisted
      · exact absurd (List.getElem?_eq_some_iff.mp hbefore).1 (Nat.lt_irrefl _)
    · exact ⟨by simp [HazeMediaChannel.init],
        by simp [HazeMediaChannel.outstanding, HazeMediaChannel.init],
        by simp [HazeMediaChannel.outstanding, HazeMediaChannel.init],
        fun _ h => (by cases h), fun _ => Or.inl ((hannounced _).mpr (Or.inr rfl))⟩

/-- A channel for a request, with the context of the request. -/
theorem Keeping.create (hm : Keeping (fun _ => []) m) (handle requestToken : Nat)
    (initialAudio initialVideo : Bool) : Keeping (opened m.objects.length m.contexts.length)
      ((m.newMediaChannel false handle initialAudio initialVideo).1.allocate
        (.request m.objects.length requestToken)).1 := by
  let n := m.objects.length
  let t := ((m.newMediaChannel false handle initialAudio initialVideo).1.allocate
    (.request n requestToken)).1
  have hlength : t.objects.length = n + 1 := List.length_append
  have hnew : t.IsCreation n m.contexts.length :=
    isCreation_iff.mpr ⟨requestToken, List.getElem?_concat_length⟩
  have hcreation : ∀ y x, t.IsCreation y x →
      m.IsCreation y x ∨ y = n ∧ x = m.contexts.length := by
    intro y x hx
    obtain ⟨token, htoken⟩ := isCreation_iff.mp hx
    rcases getElem?_concat_cases htoken with hbefore | ⟨rfl, heq⟩
    · exact Or.inl (isCreation_iff.mpr ⟨token, hbefore⟩)
    · cases heq
      exact Or.inr ⟨rfl, rfl⟩
  have hfresh : ¬ m.Announced n := fun hy => Nat.lt_irrefl _ (hm.announced n hy)
  refine
    { nodup := hm.nodup_concat
      listed := fun y hy => ?_
      announced := fun y hy => ?_
      creation := fun y x hx => ?_
      once := fun y x x' hx hx' => ?_
      kept := fun y o ho => ?_ }
  · rw [hlength]
    rcases mem_concat_length hy with hy | rfl
    · exact Nat.lt_succ_of_lt (hm.listed y hy)
    · exact Nat.lt_succ_self n
  · rw [hlength]
    exact Nat.lt_succ_of_lt (hm.announced y hy)
  · rw [hlength]
    rcases hcreation y x hx with hbefore | ⟨rfl, -⟩
    · exact ⟨Nat.lt_succ_of_lt (hm.creation y x hbefore).1, (hm.creation y x hbefore).2⟩
    · exact ⟨Nat.lt_succ_self n, hfresh⟩
  · rcases hcreation y x hx with hbefore | ⟨rfl, rfl⟩
    · rcases hcreation y x' hx' with hbefore' | ⟨rfl, -⟩
      · exact hm.once y x x' hbefore hbefore'
      · exact absurd (hm.creation n x hbefore).1 (Nat.lt_irrefl _)
    · rcases hcreation n x' hx' with hbefore' | ⟨-, rfl⟩
      · exact absurd (hm.creation n x' hbefore').1 (Nat.lt_irrefl _)
      · rfl
  · rcases getElem?_concat_cases ho with hbefore | ⟨rfl, rfl⟩
    · have hlt : y < n := (List.getElem?_eq_some_iff.mp hbefore).1
      rw [opened_of_ne (Nat.ne_of_lt hlt)]
      refine (hm.kept y o hbefore).mono (fun _ _ h => getElem?_concat_of_some h) id
        (fun hlisted => ?_)
      rcases mem_concat_length hlisted with hlisted | rfl
      · exact hlisted
      · exact absurd hlt (Nat.lt_irrefl _)
    · rw [opened_self]
      have hnone : (HazeMediaChannel.init m.protocol handle false).outstanding = [] := rfl
      refine ⟨by simp [HazeMediaChannel.init], fun x hx => ?_, ?_,
        fun _ h => (by cases h), fun _ => Or.inr (Or.inl ⟨_, List.mem_cons_self, hnew⟩)⟩
      · rw [hnone, List.append_nil, List.mem_singleton] at hx
        rw [hx]
        exact ⟨_, List.getElem?_concat_length, rfl⟩
      · rw [hnone, List.append_nil]
        exact List.nodup_singleton _

/-! ## Steps -/

/-- A request for streams settles, unless it is replied to twice. -/
theorem settles_of_requestStreams {s s' : HazeMediaChannel} {contactHandle context : Nat}
    {types : List Nat} {caps : PurpleMediaCaps}
    (h : s.mediaChannelRequestStreams contactHandle types caps context = .ok s') :
    ∃ new, s'.calls = s.calls ++ new ∧ ((new.filterMap MediaCall.replies).Nodup →
      Settles [context] s s' new ∧ ∀ error, .failed context error ∈ new → s.media = true) := by
  rcases HazeMediaChannel.requestStreams_settles h with
    ⟨new, hsettles, hfailed⟩ | ⟨new, hcalls, htwice⟩
  · exact ⟨new, hsettles.calls, fun _ => ⟨hsettles, hfailed⟩⟩
  · refine ⟨new, hcalls, fun hnodup => ?_⟩
    rw [htwice] at hnodup
    simp at hnodup

/-- A channel that is made for a request is asked for its streams. -/
theorem createChannel_ok {requestToken handle : Nat} {properties : Asv} {caps : PurpleMediaCaps}
    (h : m.createChannel requestToken properties handle caps = .ok m') :
    ∃ initialAudio initialVideo types,
      ((m.newMediaChannel false handle initialAudio initialVideo).1.allocate
        (.request m.objects.length requestToken)).1.withChannel m.objects.length (fun chan =>
          chan.mediaChannelRequestStreams chan.initialPeer types caps m.contexts.length) =
        .ok m' := by
  unfold HazeMediaManager.createChannel at h
  dsimp only at h
  unfold requestInitialStreams at h
  split at h
  · cases h
  split at h
  · cases h
  exact ⟨_, _, _, h⟩

/-- A step for a request is what `requestotron` does. -/
theorem step_request_ok {method : RequestMethod} {requestToken : Nat} {properties : Asv}
    {caps : PurpleMediaCaps}
    (h : mediaManagers.step m (.request method requestToken properties caps) = .ok m') :
    ∃ handled, m.requestotron requestToken properties method caps = .ok (m', handled) := by
  have hmap : (m.requestotron requestToken properties method caps).map Prod.fst = .ok m' := h
  cases hrequest : m.requestotron requestToken properties method caps with
  | error fault =>
      rw [hrequest] at hmap
      cases hmap
  | ok result =>
      rw [hrequest] at hmap
      cases hmap
      exact ⟨result.2, rfl⟩

/-- A request is not for this manager, or is refused, or there is a channel for it already, or one
is made. -/
theorem requestotron_ok {requestToken : Nat} {properties : Asv} {method : RequestMethod}
    {caps : PurpleMediaCaps} {handled : Bool}
    (h : m.requestotron requestToken properties method caps = .ok (m', handled)) :
    (requested properties = .ok .other ∧ m' = m) ∨
    (∃ error, requested properties = .ok (.refused error) ∧
      m' = m.emit (.requestFailed requestToken error)) ∨
    ∃ handle, requested properties = .ok (.contact handle) ∧
      ((∃ channel, (if method = .ensure then m.findPeer handle else none) = some channel ∧
          m' = m.emit (.requestAlreadySatisfied requestToken channel)) ∨
        ((if method = .ensure then m.findPeer handle else none) = none ∧
          m.createChannel requestToken properties handle caps = .ok m')) := by
  unfold HazeMediaManager.requestotron at h
  split at h
  · cases h
  · rename_i hrequested
    cases h
    exact Or.inl ⟨hrequested, rfl⟩
  · rename_i error hrequested
    cases h
    exact Or.inr (Or.inl ⟨error, hrequested, rfl⟩)
  · rename_i handle hrequested
    refine Or.inr (Or.inr ⟨handle, hrequested, ?_⟩)
    split at h
    · rename_i y hy
      cases h
      exact Or.inl ⟨y, hy, rfl⟩
    · rename_i hnone
      split at h
      · cases h
      · rename_i hcreate
        cases h
        exact Or.inr ⟨hnone, hcreate⟩

/-- A channel that is created for a request waits for its streams, or has been announced. -/
theorem Keeping.createChannel (hm : Keeping (fun _ => []) m) {requestToken handle : Nat}
    {properties : Asv} {caps : PurpleMediaCaps}
    (h : m.createChannel requestToken properties handle caps = .ok m') :
    Keeping (fun _ => []) m' := by
  obtain ⟨initialAudio, initialVideo, types, hwith⟩ := createChannel_ok h
  refine (hm.create handle requestToken _ _).withChannel (fun y hy => opened_of_ne hy) ?_ hwith
  intro o' chan ho' hchan
  obtain ⟨new, hcalls, hsettles⟩ := settles_of_requestStreams hchan
  refine ⟨new, hcalls, fun hnodup => ?_⟩
  obtain ⟨hsettles, hfailed⟩ := hsettles hnodup
  have hself := opened_self m.objects.length m.contexts.length
  -- the channel is new, and has no session that could refuse the request
  have hmedia : o'.chan.media = false := by
    rcases getElem?_concat_cases ho' with hbefore | ⟨-, rfl⟩
    · exact absurd (List.getElem?_eq_some_iff.mp hbefore).1 (Nat.lt_irrefl _)
    · rfl
  refine ⟨hself.symm ▸ hsettles, fun x error hmem hx => ?_⟩
  have hx' : x ∈ opened m.objects.length m.contexts.length m.objects.length := hx
  rw [hself] at hx'
  rw [List.mem_singleton.mp hx'] at hmem
  have htrue := hfailed error hmem
  rw [hmedia] at htrue
  cases htrue

theorem Keeping.requestStreams (hm : Keeping (fun _ => []) m) {contactHandle : Nat}
    {types : List Nat} {caps : PurpleMediaCaps}
    (h : m.requestStreams channel contactHandle types caps = .ok m') :
    Keeping (fun _ => []) m' := by
  have hchannel : (m.allocate (.invocation channel)).1.withChannel channel (fun chan =>
      chan.mediaChannelRequestStreams contactHandle types caps m.contexts.length) = .ok m' := h
  refine (hm.invocation channel).withChannel (fun y hy => opened_of_ne hy) ?_ hchannel
  intro o chan ho hchan
  obtain ⟨new, hcalls, hsettles⟩ := settles_of_requestStreams hchan
  refine ⟨new, hcalls, fun hnodup => ?_⟩
  have hself := opened_self channel m.contexts.length
  refine ⟨hself.symm ▸ (hsettles hnodup).1, fun x error hmem hx hcreation => ?_⟩
  rw [hself] at hx
  rw [List.mem_singleton.mp hx] at hcreation
  obtain ⟨token, htoken⟩ := isCreation_iff.mp hcreation
  have hlast : (m.contexts ++ [.invocation channel])[m.contexts.length]? =
      some (.invocation channel) := List.getElem?_concat_length
  have hsame : some (.invocation channel) = some (MediaContext.request channel token) :=
    hlast.symm.trans htoken
  cases hsame

theorem Keeping.requestotron (hm : Keeping (fun _ => []) m) {requestToken : Nat}
    {properties : Asv} {method : RequestMethod} {caps : PurpleMediaCaps} {handled : Bool}
    (h : m.requestotron requestToken properties method caps = .ok (m', handled)) :
    Keeping (fun _ => []) m' := by
  rcases requestotron_ok h with
    ⟨-, rfl⟩ | ⟨error, -, rfl⟩ | ⟨handle, -, ⟨y, -, rfl⟩ | ⟨-, hcreate⟩⟩
  · exact hm
  · exact hm.emit rfl
  · exact hm.emit rfl
  · exact hm.createChannel hcreate

end HazeMediaManager

end Haze
