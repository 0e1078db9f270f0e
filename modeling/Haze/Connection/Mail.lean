import Haze.Telepathy.Types
import Mathlib.Data.List.Range

set_option autoImplicit false

/-! # `connection-mail.c`

`haze_connection_mail_notify_emails` goes through four arrays of `count` strings with one
pointer into each, and puts a mail together from what the pointers point at. Where the fields
of a mail were read is kept beside the mail, so that it can be said of which entry they are.
-/

namespace Haze

/-! ## The notification -/

/-- The arrays that libpurple passes, `NULL` or with `count` entries, each `NULL` or a
string. -/
structure MailArrays (count : Nat) where
  subjects : Option (Fin count → Option String)
  froms : Option (Fin count → Option String)
  tos : Option (Fin count → Option String)
  urls : Option (Fin count → Option String)

/-- Where the four pointers point, counted from the beginning of their arrays. -/
structure MailPlace where
  subjects : Nat
  froms : Nat
  tos : Nat
  urls : Nat
  deriving DecidableEq

/-- A mail of `MailsReceived`: "url-data", "senders", "to-address" and "subject". An address is
a name and the address proper. -/
structure Mail where
  urlData : String
  senders : List (String × String)
  toAddress : List (String × String)
  subject : String
  deriving DecidableEq

/-- `a[i]` -/
def readAt {n : Nat} (a : Option (Fin n → Option String)) (i : Nat) :
    Except Fault (Option String) :=
  match a with
  | none => .error .nullDereference
  | some a => if h : i < n then .ok (a ⟨i, h⟩) else .error .outOfBounds

/-- `wrap_mail_address` -/
def wrapMailAddress (nameStr addrStr : String) : List (String × String) := [(nameStr, addrStr)]

/-- The mail that is put together from the strings. -/
def Mail.new (subject sender recipient url : String) : Mail where
  urlData := url
  senders :=
    if '@' ∈ sender.toList then wrapMailAddress "" sender else wrapMailAddress sender ""
  toAddress :=
    if '@' ∈ recipient.toList then wrapMailAddress "" recipient else wrapMailAddress recipient ""
  subject := subject

variable {n : Nat}

/-- The loop of `haze_connection_mail_notify_emails`, with `count` entries to go. -/
def mailLoop (A : MailArrays n) : Nat → MailPlace → Except Fault (List (MailPlace × Mail))
  | 0, _ => .ok []
  | count + 1, p => do
      let sender ← readAt A.froms p.froms
      let recipient ← readAt A.tos p.tos
      let subject ← readAt A.subjects p.subjects
      let url ← readAt A.urls p.urls
      -- "Filter out any aberations"
      match sender, recipient, subject, url with
      | some sender, some recipient, some subject, some url =>
          -- "reuse previous URL if next one does not exist"
          let next ← if count + 1 > 1 then readAt A.urls (p.urls + 1) else .ok none
          let mails ← mailLoop A count
            { froms := p.froms + 1
              tos := p.tos + 1
              -- `subject++` moves the pointer into the string, not the one into the array
              subjects := p.subjects
              urls := if next.isSome then p.urls + 1 else p.urls }
          return (p, Mail.new subject sender recipient url) :: mails
      | _, _, _, _ => mailLoop A count p

/-- `haze_connection_mail_notify_emails`: the mails of the `MailsReceived` that is emitted, if
it is, and where their fields were read. -/
def hazeConnectionMailNotifyEmails (detailed : Bool) (A : MailArrays n) :
    Except Fault (Option (List (MailPlace × Mail))) := do
  -- "just ignore messages wihout details"
  if detailed = false then return none
  if A.subjects.isNone ∨ A.froms.isNone ∨ A.urls.isNone then return none
  let mails ← mailLoop A n ⟨0, 0, 0, 0⟩
  return some mails

/-- `haze_connection_mail_notify_email` -/
def hazeConnectionMailNotifyEmail (subject sender recipient url : Option String) :
    Except Fault (Option (List (MailPlace × Mail))) :=
  hazeConnectionMailNotifyEmails true
    (⟨some fun _ => subject, some fun _ => sender, some fun _ => recipient, some fun _ => url⟩ :
      MailArrays 1)

/-! ## What is to be reported -/

/-- The array has a string at the place. -/
def Present (a : Option (Fin n → Option String)) (i : Nat) : Prop :=
  ∃ s, readAt a i = .ok (some s)

instance (a : Option (Fin n → Option String)) (i : Nat) : Decidable (Present a i) :=
  match h : readAt a i with
  | .ok (some s) => .isTrue ⟨s, h⟩
  | .ok none => .isFalse fun ⟨_, hs⟩ => by rw [h] at hs; cases hs
  | .error _ => .isFalse fun ⟨_, hs⟩ => by rw [h] at hs; cases hs

/-- The place of the url of the entry: its own or, when there is none, the most recent earlier
one. -/
def urlPlace (urls : Option (Fin n → Option String)) : Nat → Option Nat
  | 0 => if Present urls 0 then some 0 else none
  | i + 1 => if Present urls (i + 1) then some (i + 1) else urlPlace urls i

/-- The places of the fields of the `i`th entry, when it has them all. -/
def ownPlace (A : MailArrays n) (i : Nat) : Option MailPlace :=
  if Present A.froms i ∧ Present A.tos i ∧ Present A.subjects i then
    (urlPlace A.urls i).map fun j => ⟨i, i, i, j⟩
  else none

/-- The entry has all its fields. -/
def Complete (A : MailArrays n) (i : Nat) : Prop := (ownPlace A i).isSome = true

instance (A : MailArrays n) (i : Nat) : Decidable (Complete A i) :=
  inferInstanceAs (Decidable ((ownPlace A i).isSome = true))

/-- The mail that is put together from the strings at the places. -/
def MailAt (A : MailArrays n) (p : MailPlace) (m : Mail) : Prop :=
  ∃ subject sender recipient url, readAt A.subjects p.subjects = .ok (some subject) ∧
    readAt A.froms p.froms = .ok (some sender) ∧ readAt A.tos p.tos = .ok (some recipient) ∧
    readAt A.urls p.urls = .ok (some url) ∧ m = Mail.new subject sender recipient url

/-- One mail is emitted for each complete entry, in order and with the entry's own fields. -/
def ReportsEveryMail (A : MailArrays n) : Prop :=
  ∃ mails, hazeConnectionMailNotifyEmails true A = .ok (some mails) ∧
    mails.map Prod.fst = (List.range n).filterMap (ownPlace A) ∧
    ∀ p m, (p, m) ∈ mails → MailAt A p m

/-! ## The pointers stay in the arrays -/

/-- All four pointers point at strings. -/
def Ready (A : MailArrays n) (p : MailPlace) : Prop :=
  Present A.froms p.froms ∧ Present A.tos p.tos ∧ Present A.subjects p.subjects ∧
    Present A.urls p.urls

instance (A : MailArrays n) (p : MailPlace) : Decidable (Ready A p) :=
  inferInstanceAs (Decidable (_ ∧ _ ∧ _ ∧ _))

/-- The arrays are there, and the pointers can go on for `count` entries. -/
structure InRange (A : MailArrays n) (count : Nat) (p : MailPlace) : Prop where
  subjects_ne : A.subjects ≠ none
  froms_ne : A.froms ≠ none
  tos_ne : A.tos ≠ none
  urls_ne : A.urls ≠ none
  subjects_le : p.subjects ≤ p.froms
  froms_le : p.froms + count ≤ n
  tos_le : p.tos + count ≤ n
  urls_le : p.urls + count ≤ n

theorem exists_readAt {a : Option (Fin n → Option String)} {i : Nat} (ha : a ≠ none)
    (hi : i < n) : ∃ o, readAt a i = .ok o := by
  obtain ⟨a, rfl⟩ := Option.ne_none_iff_exists'.mp ha
  exact ⟨a ⟨i, hi⟩, dif_pos hi⟩

theorem not_present_of_le {a : Option (Fin n → Option String)} {i : Nat} (hi : n ≤ i) :
    ¬ Present a i := by
  rintro ⟨s, hs⟩
  cases a with
  | none => cases hs
  | some a =>
      have hout : readAt (some a) i = .error .outOfBounds := dif_neg (by omega)
      rw [hout] at hs
      cases hs

theorem InRange.fewer {A : MailArrays n} {count : Nat} {p : MailPlace}
    (h : InRange A (count + 1) p) : InRange A count p :=
  { h with
    froms_le := by have := h.froms_le; omega
    tos_le := by have := h.tos_le; omega
    urls_le := by have := h.urls_le; omega }

/-- Where the pointers go after a mail. -/
theorem InRange.next {A : MailArrays n} {count u : Nat} {p : MailPlace}
    (h : InRange A (count + 1) p) (hu : u + count ≤ n) :
    InRange A count ⟨p.subjects, p.froms + 1, p.tos + 1, u⟩ :=
  { h with
    subjects_le := by have := h.subjects_le; show p.subjects ≤ p.froms + 1; omega
    froms_le := by have := h.froms_le; show p.froms + 1 + count ≤ n; omega
    tos_le := by have := h.tos_le; show p.tos + 1 + count ≤ n; omega
    urls_le := hu }

/-- A round in which a field is missing: no pointer advances. -/
theorem mailLoop_not_ready {A : MailArrays n} {count : Nat} {p : MailPlace}
    (h : InRange A (count + 1) p) (hp : ¬ Ready A p) :
    mailLoop A (count + 1) p = mailLoop A count p := by
  have hfroms_le := h.froms_le
  have htos_le := h.tos_le
  have hurls_le := h.urls_le
  have hsubjects_le := h.subjects_le
  obtain ⟨sender, hfrom⟩ := exists_readAt h.froms_ne (i := p.froms) (by omega)
  obtain ⟨recipient, hto⟩ := exists_readAt h.tos_ne (i := p.tos) (by omega)
  obtain ⟨subject, hsubject⟩ := exists_readAt h.subjects_ne (i := p.subjects) (by omega)
  obtain ⟨url, hurl⟩ := exists_readAt h.urls_ne (i := p.urls) (by omega)
  rw [mailLoop, hfrom, hto, hsubject, hurl]
  cases sender with
  | none => rfl
  | some sender =>
      cases recipient with
      | none => rfl
      | some recipient =>
          cases subject with
          | none => rfl
          | some subject =>
              cases url with
              | none => rfl
              | some url => exact absurd ⟨⟨_, hfrom⟩, ⟨_, hto⟩, ⟨_, hsubject⟩, _, hurl⟩ hp

/-- A round in which a mail is put together. -/
theorem mailLoop_ready {A : MailArrays n} {count : Nat} {p : MailPlace}
    (h : InRange A (count + 1) p) (hp : Ready A p) :
    ∃ u m, Present A.urls u ∧ u + count ≤ n ∧ MailAt A p m ∧
      mailLoop A (count + 1) p =
        (mailLoop A count ⟨p.subjects, p.froms + 1, p.tos + 1, u⟩).map ((p, m) :: ·) := by
  have hurls_le := h.urls_le
  obtain ⟨⟨sender, hfrom⟩, ⟨recipient, hto⟩, ⟨subject, hsubject⟩, ⟨url, hurl⟩⟩ := hp
  have hmail : MailAt A p (Mail.new subject sender recipient url) :=
    ⟨subject, sender, recipient, url, hsubject, hfrom, hto, hurl, rfl⟩
  by_cases hlast : count = 0
  · have hnomore : ¬ count + 1 > 1 := by omega
    refine ⟨p.urls, _, ⟨url, hurl⟩, by omega, hmail, ?_⟩
    rw [mailLoop, hfrom, hto, hsubject, hurl]
    simp only [bind, Except.bind, if_neg hnomore]
    rfl
  · obtain ⟨next, hnext⟩ := exists_readAt h.urls_ne (i := p.urls + 1) (by omega)
    have hmore : count + 1 > 1 := by omega
    cases next with
    | none =>
        refine ⟨p.urls, _, ⟨url, hurl⟩, by omega, hmail, ?_⟩
        rw [mailLoop, hfrom, hto, hsubject, hurl]
        simp only [bind, Except.bind, if_pos hmore, hnext]
        rfl
    | some next =>
        refine ⟨p.urls + 1, _, ⟨next, hnext⟩, by omega, hmail, ?_⟩
        rw [mailLoop, hfrom, hto, hsubject, hurl]
        simp only [bind, Except.bind, if_pos hmore, hnext]
        rfl

/-- **The loop reads no array out of range**, and it stops emitting for good at the first entry
that it does not take. -/
theorem mailLoop_spec {A : MailArrays n} {count : Nat} {p : MailPlace} (h : InRange A count p) :
    ∃ mails, mailLoop A count p = .ok mails ∧ (∀ q m, (q, m) ∈ mails → MailAt A q m) ∧
      (∀ q ∈ (mails.map Prod.fst).head?, q = p) ∧ (mails = [] ↔ count = 0 ∨ ¬ Ready A p) := by
  induction count generalizing p with
  | zero => exact ⟨[], rfl, by simp, by simp, by simp⟩
  | succ count ih =>
      by_cases hp : Ready A p
      · obtain ⟨u, m, hu, hule, hm, heq⟩ := mailLoop_ready h hp
        obtain ⟨mails, hmails, hat, -, -⟩ := ih (h.next hule)
        refine ⟨(p, m) :: mails, by rw [heq, hmails]; rfl, ?_, by simp, by simp [hp]⟩
        intro q m' hmem
        rcases List.mem_cons.mp hmem with hhead | htail
        · obtain ⟨rfl, rfl⟩ := Prod.mk.inj hhead
          exact hm
        · exact hat q m' htail
      · obtain ⟨mails, hmails, hat, hhead, hnil⟩ := ih h.fewer
        refine ⟨mails, by rw [mailLoop_not_ready h hp, hmails], hat, hhead, ?_⟩
        simp [hnil, hp]

/-! ## When every mail is reported -/

theorem ownPlace_eq {A : MailArrays n} {i : Nat} {p : MailPlace} (h : ownPlace A i = some p) :
    p.froms = i ∧ p.subjects = i := by
  unfold ownPlace at h
  split_ifs at h
  obtain ⟨j, -, rfl⟩ := Option.map_eq_some_iff.mp h
  exact ⟨rfl, rfl⟩

/-- The first entry has no earlier url to take. -/
theorem ownPlace_zero (A : MailArrays n) :
    ownPlace A 0 = if Ready A ⟨0, 0, 0, 0⟩ then some ⟨0, 0, 0, 0⟩ else none := by
  unfold ownPlace urlPlace Ready
  by_cases hfrom : Present A.froms 0 <;> by_cases hto : Present A.tos 0 <;>
    by_cases hsubject : Present A.subjects 0 <;> by_cases hurl : Present A.urls 0 <;>
    simp [hfrom, hto, hsubject, hurl]

theorem complete_zero_iff (A : MailArrays n) : Complete A 0 ↔ Ready A ⟨0, 0, 0, 0⟩ := by
  unfold Complete
  rw [ownPlace_zero]
  split_ifs with h <;> simp [h]

theorem not_complete_of_le {A : MailArrays n} {i : Nat} (hi : n ≤ i) : ¬ Complete A i := by
  intro h
  unfold Complete ownPlace at h
  rw [if_neg (fun hpresent => not_present_of_le hi hpresent.1)] at h
  cases h

/-- The places of the entries after the first. -/
theorem filterMap_ownPlace_succ (A : MailArrays n) (k : Nat) :
    (List.range (k + 1)).filterMap (ownPlace A) =
      (ownPlace A 0).toList ++ (List.range k).filterMap (fun i => ownPlace A (i + 1)) := by
  rw [List.range_succ_eq_map, List.filterMap_cons, List.filterMap_map]
  cases ownPlace A 0 <;> rfl

/-- The mails after the first are not those of the entries after the first: the pointer into
the subjects stays behind. -/
theorem rest_iff {A : MailArrays n} {k u : Nat} {mails : List (MailPlace × Mail)}
    (hhead : ∀ q ∈ (mails.map Prod.fst).head?, q = ⟨0, 1, 1, u⟩) :
    mails.map Prod.fst = (List.range k).filterMap (fun i => ownPlace A (i + 1)) ↔
      mails = [] ∧ ∀ i < k, ¬ Complete A (i + 1) := by
  constructor
  · intro heq
    have hnil : mails = [] := by
      cases mails with
      | nil => rfl
      | cons qm mails =>
          have hq : qm.1 = ⟨0, 1, 1, u⟩ := hhead qm.1 (by simp)
          have hmem : qm.1 ∈ (List.range k).filterMap (fun i => ownPlace A (i + 1)) := by
            rw [← heq]
            simp
          obtain ⟨i, -, hi⟩ := List.mem_filterMap.mp hmem
          obtain ⟨-, hsubjects⟩ := ownPlace_eq hi
          rw [hq] at hsubjects
          exact absurd hsubjects (by simp)
    refine ⟨hnil, fun i hi hcomplete => ?_⟩
    obtain ⟨p, hp⟩ := Option.isSome_iff_exists.mp hcomplete
    have hmem : p ∈ (List.range k).filterMap (fun i => ownPlace A (i + 1)) :=
      List.mem_filterMap.mpr ⟨i, List.mem_range.mpr hi, hp⟩
    rw [← heq, hnil] at hmem
    cases hmem
  · rintro ⟨rfl, hnone⟩
    symm
    rw [List.map_nil, List.filterMap_eq_nil_iff]
    intro i hi
    exact Option.not_isSome_iff_eq_none.mp (hnone i (List.mem_range.mp hi))

theorem notifyEmails_eq (subjects froms urls : Fin n → Option String)
    (tos : Option (Fin n → Option String)) :
    hazeConnectionMailNotifyEmails true ⟨some subjects, some froms, tos, some urls⟩ =
      (mailLoop ⟨some subjects, some froms, tos, some urls⟩ n ⟨0, 0, 0, 0⟩).map some := by
  unfold hazeConnectionMailNotifyEmails
  cases mailLoop ⟨some subjects, some froms, tos, some urls⟩ n ⟨0, 0, 0, 0⟩ <;> rfl

/-- The entries after the last one are not complete. -/
theorem forall_later_iff {A : MailArrays n} {k : Nat} (hn : n = k + 1) :
    (∀ i, 0 < i → ¬ Complete A i) ↔ ∀ i < k, ¬ Complete A (i + 1) := by
  constructor
  · intro h i _
    exact h (i + 1) (Nat.succ_pos i)
  · intro h i hi
    obtain ⟨j, rfl⟩ := Nat.exists_eq_succ_of_ne_zero (Nat.pos_iff_ne_zero.mp hi)
    by_cases hj : j < k
    · exact h j hj
    · exact not_complete_of_le (by omega)

/-- Where the first entry gives a mail, the pointers go on. -/
theorem reportsEveryMail_of_ready {k : Nat} {A : MailArrays (k + 1)}
    (hnotify : hazeConnectionMailNotifyEmails true A =
      (mailLoop A (k + 1) ⟨0, 0, 0, 0⟩).map some)
    (hrange : InRange A (k + 1) ⟨0, 0, 0, 0⟩) (hready : Ready A ⟨0, 0, 0, 0⟩) :
    ReportsEveryMail A ↔
      (∀ i < k, ¬ Complete A (i + 1)) ∧ ¬ (Present A.froms 1 ∧ Present A.tos 1) := by
  obtain ⟨u, m, hu, hule, hm, hloop⟩ := mailLoop_ready hrange hready
  obtain ⟨mails, hmails, hat, hhead, hnil⟩ := mailLoop_spec (hrange.next hule)
  have hsecond : mails = [] ↔ ¬ (Present A.froms 1 ∧ Present A.tos 1) := by
    rw [hnil]
    constructor
    · rintro (hk | hnot) ⟨hfrom, hto⟩
      · exact not_present_of_le (by omega) hfrom
      · exact hnot ⟨hfrom, hto, hready.2.2.1, hu⟩
    · intro hnot
      exact Or.inr fun hp => hnot ⟨hp.1, hp.2.1⟩
  unfold ReportsEveryMail
  rw [hnotify, filterMap_ownPlace_succ, ownPlace_zero, hloop, hmails, if_pos hready]
  have hrest := rest_iff (A := A) (k := k) hhead
  constructor
  · rintro ⟨mails', heq, hplaces, -⟩
    obtain rfl : (⟨0, 0, 0, 0⟩, m) :: mails = mails' :=
      Option.some.inj (Except.ok.inj heq)
    obtain ⟨hempty, hnone⟩ := hrest.mp (List.cons.inj hplaces).2
    exact ⟨hnone, hsecond.mp hempty⟩
  · rintro ⟨hnone, hnot⟩
    refine ⟨(⟨0, 0, 0, 0⟩, m) :: mails, rfl, ?_, ?_⟩
    · rw [List.map_cons, hrest.mpr ⟨hsecond.mpr hnot, hnone⟩]
      rfl
    · intro q m' hmem
      rcases List.mem_cons.mp hmem with hq | hq
      · obtain ⟨rfl, rfl⟩ := Prod.mk.inj hq
        exact hm
      · exact hat q m' hq

/-- Where the first entry gives no mail, nothing is emitted, whatever follows. -/
theorem reportsEveryMail_of_not_ready {k : Nat} {A : MailArrays (k + 1)}
    (hnotify : hazeConnectionMailNotifyEmails true A =
      (mailLoop A (k + 1) ⟨0, 0, 0, 0⟩).map some)
    (hrange : InRange A (k + 1) ⟨0, 0, 0, 0⟩) (hready : ¬ Ready A ⟨0, 0, 0, 0⟩) :
    ReportsEveryMail A ↔ ∀ i < k, ¬ Complete A (i + 1) := by
  obtain ⟨mails, hmails, hat, -, hnil⟩ := mailLoop_spec hrange
  obtain rfl : mails = [] := hnil.mpr (Or.inr hready)
  have hrest := @rest_iff (k + 1) A k 0 [] (by simp)
  unfold ReportsEveryMail
  rw [hnotify, filterMap_ownPlace_succ, ownPlace_zero, hmails, if_neg hready]
  constructor
  · rintro ⟨mails', heq, hplaces, -⟩
    obtain rfl : [] = mails' := Option.some.inj (Except.ok.inj heq)
    exact (hrest.mp hplaces).2
  · intro hnone
    exact ⟨[], rfl, hrest.mpr ⟨rfl, hnone⟩, hat⟩

/-- **When every mail is reported**: when no entry after the first is complete, and the second
entry has no sender or no recipient if the first one is complete; the recipients must be there
unless there is no entry. -/
theorem reportsEveryMail_iff (subjects froms urls : Fin n → Option String)
    (tos : Option (Fin n → Option String)) :
    let A : MailArrays n := ⟨some subjects, some froms, tos, some urls⟩
    ReportsEveryMail A ↔ (tos = none → n = 0) ∧ (∀ i, 0 < i → ¬ Complete A i) ∧
      (Complete A 0 → ¬ (Present A.froms 1 ∧ Present A.tos 1)) := by
  intro A
  have hnotify : hazeConnectionMailNotifyEmails true A = (mailLoop A n ⟨0, 0, 0, 0⟩).map some :=
    notifyEmails_eq subjects froms urls tos
  cases n with
  | zero =>
      have hloop : mailLoop A 0 ⟨0, 0, 0, 0⟩ = .ok [] := rfl
      rw [hloop] at hnotify
      constructor
      · intro _
        exact ⟨fun _ => rfl, fun i _ => not_complete_of_le (Nat.zero_le i),
          fun h => absurd h (not_complete_of_le (Nat.zero_le 0))⟩
      · intro _
        exact ⟨[], hnotify, rfl, by simp⟩
  | succ k =>
      cases tos with
      | none =>
          -- the first round reads through the `NULL` pointer
          have hloop : mailLoop A (k + 1) ⟨0, 0, 0, 0⟩ = .error .nullDereference := rfl
          rw [hloop] at hnotify
          constructor
          · rintro ⟨mails, hmails, -⟩
            rw [hnotify] at hmails
            cases hmails
          · rintro ⟨hnone, -⟩
            exact absurd (hnone rfl) (Nat.succ_ne_zero k)
      | some tos =>
          have hrange : InRange A (k + 1) ⟨0, 0, 0, 0⟩ := by
            constructor <;> simp [A]
          rw [forall_later_iff rfl, complete_zero_iff]
          by_cases hready : Ready A ⟨0, 0, 0, 0⟩
          · rw [reportsEveryMail_of_ready hnotify hrange hready]
            simp [hready]
          · rw [reportsEveryMail_of_not_ready hnotify hrange hready]
            simp [hready]

/-- A notification of one mail is right: the pointers do not have to go on. -/
theorem hazeConnectionMailNotifyEmail_eq (subject sender recipient url : Option String) :
    hazeConnectionMailNotifyEmail subject sender recipient url =
      .ok (some (do
        let subject ← subject
        let sender ← sender
        let recipient ← recipient
        let url ← url
        return ((⟨0, 0, 0, 0⟩ : MailPlace), Mail.new subject sender recipient url)).toList) := by
  cases subject <;> cases sender <;> cases recipient <;> cases url <;> rfl

/-- Two complete mails. -/
def twoMails : MailArrays 2 where
  subjects := some fun i => if i = 0 then some "Lunch" else some "Dinner"
  froms := some fun _ => some "alice@example.com"
  tos := some fun _ => some "Bob"
  urls := some fun i => if i = 0 then some "http://inbox" else none

/-- The second mail is reported with the subject of the first. -/
theorem notifyEmails_repeats_subject :
    (hazeConnectionMailNotifyEmails true twoMails = .ok (some
      [(⟨0, 0, 0, 0⟩, Mail.new "Lunch" "alice@example.com" "Bob" "http://inbox"),
        (⟨0, 1, 1, 0⟩, Mail.new "Lunch" "alice@example.com" "Bob" "http://inbox")])) ∧
      ¬ ReportsEveryMail twoMails := by
  have hnotify : hazeConnectionMailNotifyEmails true twoMails = .ok (some
      [(⟨0, 0, 0, 0⟩, Mail.new "Lunch" "alice@example.com" "Bob" "http://inbox"),
        (⟨0, 1, 1, 0⟩, Mail.new "Lunch" "alice@example.com" "Bob" "http://inbox")]) := rfl
  refine ⟨hnotify, ?_⟩
  rintro ⟨mails, hmails, hplaces, -⟩
  rw [hnotify] at hmails
  obtain rfl := Option.some.inj (Except.ok.inj hmails)
  exact absurd hplaces (by decide)

end Haze
