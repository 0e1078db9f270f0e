import Haze.Basic.Mirror
import Haze.ContactList.Model

set_option autoImplicit false

/-! # Attributes of contacts

The aliases and the presences of contacts come from the same places: from the account for the
account itself, from the buddy that `purple_find_buddy` finds for the contact's name, or there is
nothing to say. libpurple reports changes of buddies, and an account may have several buddies of
one name. A signal that is made from the buddy that has changed tells clients what they would be
answered just when that buddy shows the attribute of its contact (`SameBut.tells_iff`).
-/

namespace Haze

/-- Where an attribute of contacts comes from. -/
structure ContactAttribute (P : Libpurple) (a : PurpleAccount) (ν : Type) where
  list : BuddyList P
  /-- the contact that is the account itself -/
  self : Option (TpHandle P a)
  own : TpHandle P a → ν
  ofBuddy : PurpleBuddy → ν
  unknown : TpHandle P a → ν

/-- A buddy that is found for a contact has the contact's name. -/
theorem ensure_of_found {P : Libpurple} {a : PurpleAccount} {contact : TpHandle P a}
    {e : Nat × PurpleBuddy} {bl : BuddyList P}
    (h : bl.purpleFindBuddy a contact.inspect = some e) :
    tpHandleEnsure P a e.2.name = contact := by
  obtain ⟨-, -, -, hname⟩ := BuddyList.mem_findBuddies.mp (List.mem_of_mem_head? h)
  exact tpHandleEnsure_eq_iff.mpr (hname.trans contact.normal)

namespace ContactAttribute

variable {P : Libpurple} {a : PurpleAccount} {ν : Type} (A : ContactAttribute P a ν)

/-- The attribute of a contact. -/
def query (contact : TpHandle P a) : ν :=
  if A.self = some contact then A.own contact
  else
    match A.list.purpleFindBuddy a contact.inspect with
    | some (_, buddy) => A.ofBuddy buddy
    | none => A.unknown contact

/-- The buddy shows the attribute of its contact. -/
def Shows (buddy : PurpleBuddy) : Prop :=
  A.query (tpHandleEnsure P a buddy.name) = A.ofBuddy buddy

/-- `A'` differs from `A` in the attribute of `buddy` at most. -/
structure SameBut (buddy : PurpleBuddy) (A A' : ContactAttribute P a ν) : Prop where
  list : A'.list = A.list
  self : A'.self = A.self
  own : A'.own = A.own
  unknown : A'.unknown = A.unknown
  ofBuddy : ∀ b, b ≠ buddy → A'.ofBuddy b = A.ofBuddy b

variable {A} {A' : ContactAttribute P a ν} {buddy : PurpleBuddy}

/-- The buddy that is found for a contact, which is not the account, shows its attribute. -/
theorem shows_of_found (hself : A.self ≠ some (tpHandleEnsure P a buddy.name)) {g : Nat}
    (hfind : A.list.purpleFindBuddy a (tpHandleEnsure P a buddy.name).inspect =
      some (g, buddy)) : A.Shows buddy := by
  unfold Shows query
  rw [if_neg hself, hfind]

/-- The other contacts keep the attribute. -/
theorem SameBut.query_eq (h : SameBut buddy A A') {contact : TpHandle P a}
    (hne : contact ≠ tpHandleEnsure P a buddy.name) : A'.query contact = A.query contact := by
  unfold query
  rw [h.list, h.self, h.own, h.unknown]
  split_ifs
  · rfl
  · cases hfind : A.list.purpleFindBuddy a contact.inspect with
    | none => rfl
    | some e =>
        refine h.ofBuddy e.2 (fun hb => hne ?_)
        rw [← ensure_of_found hfind, hb]

/-- The signal about the buddy is all there is to say when the buddy shows the attribute of its
contact. -/
theorem SameBut.tells_iff (h : SameBut buddy A A') :
    Mirror.Tells A.query A'.query [(tpHandleEnsure P a buddy.name, A'.ofBuddy buddy)] ↔
      A'.Shows buddy := by
  rw [Mirror.tells_singleton]
  exact and_iff_left (fun contact hne => h.query_eq hne)

/-- The account's own attribute is that of the account alone. -/
theorem query_setOwn (own : TpHandle P a → ν) {contact : TpHandle P a}
    (hne : A.self ≠ some contact) : { A with own := own }.query contact = A.query contact := by
  have hne' : ({ A with own := own } : ContactAttribute P a ν).self ≠ some contact := hne
  unfold query
  rw [if_neg hne, if_neg hne']

end ContactAttribute

end Haze
