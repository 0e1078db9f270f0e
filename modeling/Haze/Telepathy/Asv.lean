import Haze.Telepathy.Types
import Mathlib.Data.List.AList

set_option autoImplicit false

/-! # Tables of values

An `a{sv}` of D-Bus: a `GHashTable` from names to `GValue`s, with the accessors of
telepathy-glib. An accessor gives its default when the name is missing or when the value has
another type.
-/

namespace Haze

/-- A `GValue`, of one of the types that Haze looks for. -/
inductive GValue where
  | string (s : String)
  | boolean (b : Bool)
  /-- `G_TYPE_INT` -/
  | int (n : Int)
  /-- `G_TYPE_UINT` -/
  | uint (n : Nat)
  | uchar (n : Nat)
  | int64 (n : Int)
  | uint64 (n : Nat)
  | strv (l : List String)
  | other
  deriving DecidableEq

/-- A `GHashTable` from strings to `GValue`s. -/
abbrev Asv := AList (fun _ : String => GValue)

namespace Asv

/-- `tp_asv_get_string` -/
def tpAsvGetString (asv : Asv) (key : String) : Option String :=
  match asv.lookup key with
  | some (.string s) => some s
  | _ => none

/-- An accessor reads nothing but the entry. -/
theorem tpAsvGetString_congr {asv asv' : Asv} {key : String}
    (h : asv.lookup key = asv'.lookup key) :
    asv.tpAsvGetString key = asv'.tpAsvGetString key := by
  unfold tpAsvGetString
  rw [h]

theorem tpAsvGetString_of_string {asv : Asv} {key s : String}
    (h : asv.lookup key = some (.string s)) : asv.tpAsvGetString key = some s := by
  unfold tpAsvGetString
  rw [h]

/-- `tp_asv_get_boolean` -/
def tpAsvGetBoolean (asv : Asv) (key : String) : Bool :=
  match asv.lookup key with
  | some (.boolean b) => b
  | _ => false

/-- `tp_asv_get_uint32`: 0 when the value does not fit. -/
def tpAsvGetUint32 (asv : Asv) (key : String) : Nat :=
  match asv.lookup key with
  | some (.uint n) => n
  | some (.int n) => n.toNat
  | some (.uchar n) => n
  | some (.int64 n) => if n < 0x100000000 then n.toNat else 0
  | some (.uint64 n) => if n < 0x100000000 then n else 0
  | _ => 0

/-- `tp_asv_get_int32`: 0 when the value does not fit. -/
def tpAsvGetInt32 (asv : Asv) (key : String) : Int :=
  match asv.lookup key with
  | some (.int n) => n
  | some (.uint n) => if n < 0x80000000 then n else 0
  | some (.uchar n) => n
  | some (.int64 n) => if -0x80000000 ≤ n ∧ n < 0x80000000 then n else 0
  | some (.uint64 n) => if n < 0x80000000 then n else 0
  | _ => 0

/-- `tp_channel_manager_asv_has_unknown_properties`, with the error that it sets. -/
def tpChannelManagerAsvHasUnknownProperties (asv : Asv) (fixed allowed : List String) :
    Option GError :=
  match asv.keys.find? (fun key => key ∉ fixed ∧ key ∉ allowed) with
  | none => none
  | some key => some ⟨.notImplemented, "Request contained unknown property '" ++ key ++ "'"⟩

end Asv

end Haze
