import Mathlib.Data.List.AList
import Mathlib.Tactic.Common

set_option autoImplicit false

/-! # Trees of directories, files and symbolic links

A file tree maps real paths to what is there. A real path is the list of the names on the way
from the root, the innermost first, so that the directory that holds `n :: p` is `p`.

A path that a program passes to the kernel need not be real: it may lead through links. `walk`
resolves it, following links up to a limit. Paths are resolved on every use, and a link is looked
at again each time, so it matters that a tree that has lost entries resolves no more paths than
before (`Sub.walk`).
-/

/-- A component of the target of a link: `..`, or a name. -/
inductive PathComponent (ν : Type*) where
  | up
  | name (n : ν)
  deriving DecidableEq

/-- What a link points at: a path from the root, or from the directory that holds the link. -/
structure LinkTarget (ν : Type*) where
  absolute : Bool
  components : List (PathComponent ν)
  deriving DecidableEq

/-- What is at a real path. -/
inductive FileKind (ν : Type*) where
  | directory
  | file
  | link (target : LinkTarget ν)
  deriving DecidableEq

/-- A file tree. What is not at the root is in a directory. -/
structure FileTree (ν : Type*) [DecidableEq ν] where
  entries : AList (fun _ : List ν => FileKind ν)
  root : entries.lookup [] = some .directory
  parent : ∀ n p, n :: p ∈ entries → entries.lookup p = some .directory

namespace FileTree

variable {ν : Type*} [DecidableEq ν]

/-- A tree whose entries are all in directories. -/
def ofEntries (entries : AList (fun _ : List ν => FileKind ν))
    (root : entries.lookup [] = some .directory)
    (parent : ∀ p ∈ entries.keys, entries.lookup p.tail = some .directory) : FileTree ν where
  entries := entries
  root := root
  parent := fun n p h => parent (n :: p) (AList.mem_keys.mp h)

/-- What is at the real path, if anything is. -/
def kind (t : FileTree ν) (p : List ν) : Option (FileKind ν) := t.entries.lookup p

/-- The name of a real path in the directory `p`. -/
def nameIn (p : List ν) : List ν → Option ν
  | [] => none
  | n :: q => if q = p then some n else none

/-- The names in a directory. -/
def children (t : FileTree ν) (p : List ν) : List ν := t.entries.keys.filterMap (nameIn p)

theorem mem_nameIn {p q : List ν} {n : ν} : n ∈ nameIn p q ↔ q = n :: p := by
  cases q with
  | nil => simp [nameIn]
  | cons m q =>
      simp only [nameIn, Option.mem_def, List.cons.injEq]
      split_ifs with h <;> simp [h]

theorem kind_root (t : FileTree ν) : t.kind [] = some .directory := t.root

theorem kind_ne_none {t : FileTree ν} {p : List ν} : t.kind p ≠ none ↔ p ∈ t.entries := by
  unfold kind
  rw [ne_eq, AList.lookup_eq_none, not_not]

theorem kind_parent {t : FileTree ν} {n : ν} {p : List ν} (h : t.kind (n :: p) ≠ none) :
    t.kind p = some .directory := t.parent n p (kind_ne_none.mp h)

/-- What has something below it is a directory. -/
theorem kind_of_append {t : FileTree ν} {q p : List ν} (h : t.kind (q ++ p) ≠ none) (hq : q ≠ []) :
    t.kind p = some .directory := by
  induction q with
  | nil => exact absurd rfl hq
  | cons n q ih =>
      have hparent : t.kind (q ++ p) = some .directory := kind_parent h
      by_cases hnil : q = []
      · rwa [hnil] at hparent
      · exact ih (by rw [hparent]; simp) hnil

/-- Without a directory there is nothing in it. -/
theorem kind_append_eq_none {t : FileTree ν} {p : List ν} (h : t.kind p = none) (q : List ν) :
    t.kind (q ++ p) = none := by
  induction q with
  | nil => exact h
  | cons n q ih =>
      by_contra hne
      have hparent := kind_parent hne
      rw [List.append_eq, ih] at hparent
      cases hparent

theorem mem_children {t : FileTree ν} {p : List ν} {n : ν} :
    n ∈ t.children p ↔ t.kind (n :: p) ≠ none := by
  rw [kind_ne_none, children, List.mem_filterMap]
  constructor
  · rintro ⟨q, hq, hn⟩
    rwa [mem_nameIn.mp hn] at hq
  · intro h
    exact ⟨n :: p, h, mem_nameIn.mpr rfl⟩

theorem nodup_children (t : FileTree ν) (p : List ν) : (t.children p).Nodup := by
  refine List.Nodup.filterMap ?_ t.entries.nodupKeys
  intro q q' n hq hq'
  rw [mem_nameIn.mp hq, mem_nameIn.mp hq']

/-- The paths are not arbitrarily long. -/
theorem exists_length_lt (t : FileTree ν) : ∃ depth, ∀ p, t.kind p ≠ none → p.length < depth := by
  have hkeys : ∀ ps : List (List ν), ∃ depth, ∀ p ∈ ps, p.length < depth := by
    intro ps
    induction ps with
    | nil => exact ⟨0, by simp⟩
    | cons q ps ih =>
        obtain ⟨depth, hdepth⟩ := ih
        refine ⟨max depth (q.length + 1), fun p hp => ?_⟩
        rcases List.mem_cons.mp hp with rfl | hp
        · omega
        · have := hdepth p hp
          omega
  obtain ⟨depth, hdepth⟩ := hkeys t.entries.keys
  exact ⟨depth, fun p hp => hdepth p (AList.mem_keys.mp (kind_ne_none.mp hp))⟩

/-! ## Taking entries away -/

/-- The tree without an entry that nothing is in. -/
def remove (t : FileTree ν) (n : ν) (p : List ν) (h : t.children (n :: p) = []) : FileTree ν where
  entries := t.entries.erase (n :: p)
  root := by
    rw [AList.lookup_erase_ne (by simp)]
    exact t.root
  parent := by
    intro m q hm
    rw [AList.mem_erase] at hm
    have hq : q ≠ n :: p := by
      rintro rfl
      have hchild : m ∈ t.children (n :: p) := mem_children.mpr (kind_ne_none.mpr hm.2)
      rw [h] at hchild
      cases hchild
    rw [AList.lookup_erase_ne hq]
    exact t.parent m q hm.2

theorem kind_remove {t : FileTree ν} {n : ν} {p : List ν} (h : t.children (n :: p) = [])
    (q : List ν) : (t.remove n p h).kind q = if q = n :: p then none else t.kind q := by
  unfold kind remove
  split_ifs with hq
  · rw [hq]
    exact AList.lookup_erase (n :: p) t.entries
  · exact AList.lookup_erase_ne hq

/-- Nothing is in what is not a directory. -/
theorem children_eq_nil {t : FileTree ν} {p : List ν} (h : t.kind p ≠ some .directory) :
    t.children p = [] := by
  rw [List.eq_nil_iff_forall_not_mem]
  intro n hn
  exact h (kind_parent (mem_children.mp hn))

/-- Unlink the entry at a real path, which is not a directory. -/
def unlinkAt (t : FileTree ν) : List ν → Option (FileTree ν)
  | [] => none
  | n :: p =>
      if h : t.kind (n :: p) ≠ none ∧ t.kind (n :: p) ≠ some .directory then
        some (t.remove n p (children_eq_nil h.2))
      else none

/-- Remove the directory at a real path, which is empty. -/
def rmdirAt (t : FileTree ν) : List ν → Option (FileTree ν)
  | [] => none
  | n :: p =>
      if h : t.kind (n :: p) = some .directory ∧ t.children (n :: p) = [] then
        some (t.remove n p h.2)
      else none

/-- The entry at a real path is gone, and nothing else has changed. -/
structure Removes (t : FileTree ν) (q : List ν) (t' : FileTree ν) : Prop where
  gone : t'.kind q = none
  kept : ∀ r, r ≠ q → t'.kind r = t.kind r

theorem removes_remove {t : FileTree ν} {n : ν} {p : List ν} (h : t.children (n :: p) = []) :
    t.Removes (n :: p) (t.remove n p h) where
  gone := by rw [kind_remove, if_pos rfl]
  kept := fun r hr => by rw [kind_remove, if_neg hr]

theorem unlinkAt_eq_some {t t' : FileTree ν} {q : List ν} (h : t.unlinkAt q = some t') :
    t.Removes q t' := by
  cases q with
  | nil => cases h
  | cons n p =>
      simp only [unlinkAt] at h
      split at h
      · cases h
        exact removes_remove _
      · cases h

theorem rmdirAt_eq_some {t t' : FileTree ν} {q : List ν} (h : t.rmdirAt q = some t') :
    t.kind q = some .directory ∧ t.Removes q t' := by
  cases q with
  | nil => cases h
  | cons n p =>
      simp only [rmdirAt] at h
      split at h
      · rename_i hdir
        cases h
        exact ⟨hdir.1, removes_remove _⟩
      · cases h

/-- What is not a directory can be unlinked. -/
theorem exists_unlinkAt {t : FileTree ν} {q : List ν} (hq : t.kind q ≠ none)
    (hdir : t.kind q ≠ some .directory) : ∃ t', t.unlinkAt q = some t' := by
  cases q with
  | nil => exact absurd t.kind_root hdir
  | cons n p => exact ⟨_, dif_pos ⟨hq, hdir⟩⟩

/-- An empty directory can be removed, unless it is the root. -/
theorem exists_rmdirAt {t : FileTree ν} {q : List ν} (hq : q ≠ [])
    (hdir : t.kind q = some .directory) (hempty : t.children q = []) :
    ∃ t', t.rmdirAt q = some t' := by
  cases q with
  | nil => exact absurd rfl hq
  | cons n p => exact ⟨_, dif_pos ⟨hdir, hempty⟩⟩

/-! ## Trees that have lost entries -/

/-- Everything in the tree is in the other, and the same. -/
def Sub (t' t : FileTree ν) : Prop := ∀ p k, t'.kind p = some k → t.kind p = some k

theorem Sub.refl (t : FileTree ν) : t.Sub t := fun _ _ h => h

theorem Sub.trans {t t' t'' : FileTree ν} (h : t''.Sub t') (h' : t'.Sub t) : t''.Sub t :=
  fun p k hk => h' p k (h p k hk)

theorem Sub.kind_eq_none {t t' : FileTree ν} (h : t'.Sub t) {p : List ν} (hp : t.kind p = none) :
    t'.kind p = none := by
  cases hk : t'.kind p with
  | none => rfl
  | some k =>
      rw [h p k hk] at hp
      cases hp

theorem Removes.sub {t t' : FileTree ν} {q : List ν} (h : t.Removes q t') : t'.Sub t := by
  intro p k hk
  by_cases hp : p = q
  · rw [hp, h.gone] at hk
    cases hk
  · rwa [h.kept p hp] at hk

/-! ## Resolving paths -/

/-- Go along the components from a directory; `follow` goes on from where a link leads. -/
def walkWith (t : FileTree ν) (follow : List ν → List (PathComponent ν) → Option (List ν)) :
    List ν → List (PathComponent ν) → Option (List ν)
  | p, [] => some p
  | p, .up :: cs => if t.kind p = some .directory then walkWith t follow p.tail cs else none
  | p, .name n :: cs =>
      match t.kind (n :: p) with
      | none => none
      | some (.link target) =>
          follow (if target.absolute then [] else p) (target.components ++ cs)
      | some .directory => walkWith t follow (n :: p) cs
      | some .file => walkWith t follow (n :: p) cs

/-- Go along the components from a directory, following at most `links` links. -/
def walk (t : FileTree ν) : Nat → List ν → List (PathComponent ν) → Option (List ν)
  | 0 => walkWith t (fun _ _ => none)
  | links + 1 => walkWith t (walk t links)

/-- The real path that a path leads to, when all links are followed. -/
def resolve (t : FileTree ν) (links : Nat) (path : List ν) : Option (List ν) :=
  t.walk links [] (path.reverse.map .name)

/-- The path leads to a directory. -/
def LeadsToDirectory (t : FileTree ν) (links : Nat) (path : List ν) : Prop :=
  ∃ p ∈ t.resolve links path, t.kind p = some .directory

instance (t : FileTree ν) (links : Nat) (path : List ν) :
    Decidable (t.LeadsToDirectory links path) :=
  match h : t.resolve links path with
  | none => .isFalse (by rintro ⟨p, hp, -⟩; rw [h] at hp; cases hp)
  | some p => decidable_of_iff (t.kind p = some .directory)
      ⟨fun hk => ⟨p, h, hk⟩, fun ⟨q, hq, hk⟩ => by rw [h] at hq; cases hq; exact hk⟩

theorem walkWith_mono {t t' : FileTree ν} (hsub : t'.Sub t)
    {follow follow' : List ν → List (PathComponent ν) → Option (List ν)}
    (hfollow : ∀ p cs r, follow' p cs = some r → follow p cs = some r)
    (cs : List (PathComponent ν)) : ∀ {p r : List ν}, t'.walkWith follow' p cs = some r →
      t.walkWith follow p cs = some r := by
  induction cs with
  | nil => exact fun h => h
  | cons c cs ih =>
      intro p r h
      cases c with
      | up =>
          simp only [walkWith] at h ⊢
          split at h
          · rename_i hdir
            rw [if_pos (hsub p _ hdir)]
            exact ih h
          · cases h
      | name n =>
          simp only [walkWith] at h ⊢
          cases hk : t'.kind (n :: p) with
          | none =>
              rw [hk] at h
              cases h
          | some k =>
              rw [hk] at h
              rw [hsub _ k hk]
              cases k with
              | directory => exact ih h
              | file => exact ih h
              | link target => exact hfollow _ _ _ h

/-- **A tree that has lost entries resolves no more paths.** -/
theorem Sub.walk {t t' : FileTree ν} (hsub : t'.Sub t) (links : Nat) {p r : List ν}
    {cs : List (PathComponent ν)} (h : t'.walk links p cs = some r) :
    t.walk links p cs = some r := by
  induction links generalizing p r cs with
  | zero => exact walkWith_mono hsub (fun _ _ _ h => h) cs h
  | succ links ih => exact walkWith_mono hsub (fun _ _ _ h => ih h) cs h

theorem Sub.leadsToDirectory {t t' : FileTree ν} (hsub : t'.Sub t) {links : Nat} {path : List ν}
    (h : t'.LeadsToDirectory links path) : t.LeadsToDirectory links path := by
  obtain ⟨p, hp, hk⟩ := h
  exact ⟨p, hsub.walk links hp, hsub p _ hk⟩

/-! ## Real paths lead to themselves -/

theorem walk_name_of_directory {t : FileTree ν} (links : Nat) {n : ν} {p : List ν}
    (h : t.kind (n :: p) = some .directory) (cs : List (PathComponent ν)) :
    t.walk links p (.name n :: cs) = t.walk links (n :: p) cs := by
  cases links with
  | zero => simp only [walk, walkWith, h]
  | succ links => simp only [walk, walkWith, h]

/-- The names of a real directory lead there. -/
theorem walk_directory {t : FileTree ν} (links : Nat) {p : List ν}
    (h : t.kind p = some .directory) (cs : List (PathComponent ν)) :
    t.walk links [] (p.reverse.map .name ++ cs) = t.walk links p cs := by
  induction p generalizing cs with
  | nil => rfl
  | cons n p ih =>
      have hparent : t.kind p = some .directory := kind_parent (by rw [h]; simp)
      rw [List.reverse_cons, List.map_append, List.append_assoc, ih hparent]
      exact walk_name_of_directory links h cs

theorem walk_nil (t : FileTree ν) (links : Nat) (p : List ν) : t.walk links p [] = some p := by
  cases links <;> rfl

theorem resolve_directory {t : FileTree ν} (links : Nat) {p : List ν}
    (h : t.kind p = some .directory) : t.resolve links p = some p := by
  have hwalk := walk_directory links h []
  rwa [List.append_nil, walk_nil] at hwalk

theorem leadsToDirectory_of_directory {t : FileTree ν} (links : Nat) {p : List ν}
    (h : t.kind p = some .directory) : t.LeadsToDirectory links p :=
  ⟨p, resolve_directory links h, h⟩

/-- A file is no directory, whichever way it is looked at. -/
theorem not_leadsToDirectory_of_file {t : FileTree ν} (links : Nat) {p : List ν}
    (h : t.kind p = some .file) : ¬ t.LeadsToDirectory links p := by
  rintro ⟨r, hr, hdir⟩
  cases p with
  | nil =>
      rw [kind_root] at h
      cases h
  | cons n p =>
      have hparent : t.kind p = some .directory := kind_parent (by rw [h]; simp)
      have hresolve : t.resolve links (n :: p) = some (n :: p) := by
        unfold resolve
        rw [List.reverse_cons, List.map_append, walk_directory links hparent]
        cases links with
        | zero => simp only [walk, List.map_cons, List.map_nil, walkWith, h]
        | succ links => simp only [walk, List.map_cons, List.map_nil, walkWith, h]
      rw [hresolve] at hr
      cases hr
      rw [h] at hdir
      cases hdir

end FileTree
