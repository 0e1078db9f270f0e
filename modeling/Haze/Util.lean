import Haze.Basic.FileTree

set_option autoImplicit false

/-! # `util.c`

`haze_remove_directory`, which `main.c` calls on libpurple's temporary directory when Haze exits.
A path is a list of names, the innermost first, as `g_build_filename` puts one name before the
others. What GLib and the kernel do is stated here as far as the function relies on it:

* `g_file_test (path, G_FILE_TEST_IS_DIR)` and `g_dir_open` follow links;
* `g_unlink` and `g_rmdir` follow the links on the way, but not the last name;
* `g_rmdir` fails on anything but an empty directory.
-/

namespace Haze

open FileTree

/-- What differs from one system to the other: the order in which the names in the directory that
is opened at a path are read, and what is permitted. -/
structure Kernel where
  order : List String → List String → List String
  order_perm : ∀ path names, (order path names).Perm names
  mayUnlink : List String → Bool
  mayRmdir : List String → Bool

/-- Every unlink and every rmdir is permitted. -/
def Kernel.PermitsAll (K : Kernel) : Prop := ∀ path, K.mayUnlink path ∧ K.mayRmdir path

/-! ## The code -/

variable (K : Kernel) (links : Nat)

/-- `g_file_test (path, G_FILE_TEST_IS_DIR)`, with the number of links that are followed. -/
def gFileTestIsDir (t : FileTree String) (path : List String) : Bool :=
  decide (t.LeadsToDirectory links path)

/-- `g_dir_open`, with the names that `g_dir_read_name` returns. -/
def gDirOpen (t : FileTree String) (path : List String) : Option (List String) :=
  (t.resolve links path).bind fun p =>
    if t.kind p = some .directory then some (K.order path (t.children p)) else none

/-- `g_unlink` -/
def gUnlink (t : FileTree String) : List String → Option (FileTree String)
  | [] => none
  | name :: path =>
      if K.mayUnlink (name :: path) then
        (t.resolve links path).bind (fun p => t.unlinkAt (name :: p))
      else none

/-- `g_rmdir` -/
def gRmdir (t : FileTree String) : List String → Option (FileTree String)
  | [] => none
  | name :: path =>
      if K.mayRmdir (name :: path) then
        (t.resolve links path).bind (fun p => t.rmdirAt (name :: p))
      else none

section

variable (removeDirectory : FileTree String → List String → Option (FileTree String × Bool))

/-- The body of the loop in `haze_remove_directory`, with `ret`. -/
def removeEntry (t : FileTree String) (childFullPath : List String) :
    Option (FileTree String × Bool) :=
  if gFileTestIsDir links t childFullPath then removeDirectory t childFullPath
  else
    match gUnlink K links t childFullPath with
    | some t' => some (t', true)
    | none => some (t, false)

/-- The loop, which goes on while `ret` is true. -/
def removeEntries (path : List String) :
    List String → FileTree String → Option (FileTree String × Bool)
  | [], t => some (t, true)
  | childPath :: names, t => do
      let (t, ret) ← removeEntry K links removeDirectory t (childPath :: path)
      if ret then removeEntries path names t else some (t, false)

end

/-- `haze_remove_directory`, with the depth to which it may call itself. -/
def hazeRemoveDirectory : Nat → FileTree String → List String → Option (FileTree String × Bool)
  | 0, _, _ => none
  | fuel + 1, t, path =>
      match gDirOpen K links t path with
      | none => some (t, false)
      | some names => do
          let (t, ret) ← removeEntries K links (hazeRemoveDirectory fuel) path names t
          if ret then
            match gRmdir K links t path with
            | some t' => some (t', true)
            | none => some (t, false)
          else some (t, false)

/-! ## The depth

Where the function returns, the depth it may go to has no part in the result. -/

section

variable {K : Kernel} {links : Nat}

/-- The loop returns the same when the calls in it do. -/
theorem removeEntries_mono
    {removeDirectory removeDirectory' : FileTree String → List String →
      Option (FileTree String × Bool)}
    (hmono : ∀ t path r, removeDirectory t path = some r → removeDirectory' t path = some r)
    {path names : List String} : ∀ {t : FileTree String} {r : FileTree String × Bool},
    removeEntries K links removeDirectory path names t = some r →
      removeEntries K links removeDirectory' path names t = some r := by
  induction names with
  | nil => exact fun h => h
  | cons name names ih =>
      intro t r h
      obtain ⟨⟨t₁, ret₁⟩, hentry, hrest⟩ := Option.bind_eq_some_iff.mp h
      have hentry' : removeEntry K links removeDirectory' t (name :: path) = some (t₁, ret₁) := by
        unfold removeEntry at hentry ⊢
        split at hentry
        · rename_i hdir
          rw [if_pos hdir]
          exact hmono _ _ _ hentry
        · rename_i hdir
          rwa [if_neg hdir]
      refine Option.bind_eq_some_iff.mpr ⟨(t₁, ret₁), hentry', ?_⟩
      cases ret₁ with
      | false => exact hrest
      | true => exact ih hrest

/-- **A greater depth changes nothing** in what the function returns. -/
theorem hazeRemoveDirectory_mono {fuel fuel' : Nat} (hle : fuel ≤ fuel') :
    ∀ (t : FileTree String) (path : List String) (r : FileTree String × Bool),
    hazeRemoveDirectory K links fuel t path = some r →
      hazeRemoveDirectory K links fuel' t path = some r := by
  induction fuel generalizing fuel' with
  | zero =>
      intro t path r h
      cases h
  | succ fuel ih =>
      obtain ⟨fuel', rfl⟩ : ∃ m, fuel' = m + 1 := ⟨fuel' - 1, by omega⟩
      intro t path r h
      simp only [hazeRemoveDirectory] at h ⊢
      cases hopen : gDirOpen K links t path with
      | none =>
          rw [hopen] at h
          exact h
      | some names =>
          rw [hopen] at h
          obtain ⟨⟨t₁, ret₁⟩, hloop, hrest⟩ := Option.bind_eq_some_iff.mp h
          have hloop' := removeEntries_mono (ih (Nat.le_of_succ_le_succ hle)) hloop
          exact Option.bind_eq_some_iff.mpr ⟨(t₁, ret₁), hloop', hrest⟩

end

/-! ## What is asked of it -/

/-- Whatever the order and the permissions, the function returns, has touched nothing but the
directory and what is below it, says whether the directory is gone, and removes all of it when that
is permitted. -/
def RemovesDirectory (t : FileTree String) (path : List String) : Prop :=
  ∀ K : Kernel, ∃ fuel t' ret, hazeRemoveDirectory K links fuel t path = some (t', ret) ∧
    (∀ r, ¬ path <:+ r → t'.kind r = t.kind r) ∧
    (ret = true ↔ t'.kind path = none) ∧
    (K.PermitsAll → ∀ r, path <:+ r → t'.kind r = none)

/-- No link in the directory or below it leads to a directory. -/
def NoLinkToDirectory (t : FileTree String) (path : List String) : Prop :=
  ∀ r target, path <:+ r → t.kind r = some (.link target) → ¬ t.LeadsToDirectory links r

theorem NoLinkToDirectory.sub {t t' : FileTree String} {path : List String} {links : Nat}
    (h : NoLinkToDirectory links t path) (hsub : t'.Sub t) : NoLinkToDirectory links t' path :=
  fun r target hr hlink hlead => h r target hr (hsub r _ hlink) (hsub.leadsToDirectory hlead)

theorem NoLinkToDirectory.below {t : FileTree String} {path path' : List String} {links : Nat}
    (h : NoLinkToDirectory links t path) (hpath : path <:+ path') :
    NoLinkToDirectory links t path' :=
  fun r target hr => h r target (hpath.trans hr)

/-! ## Without links to directories -/

section

variable {K : Kernel} {links : Nat} {t t' : FileTree String}

/-- How a removal at a real path has ended. -/
structure Removed (K : Kernel) (t : FileTree String) (q : List String) (t' : FileTree String)
    (ret : Bool) : Prop where
  sub : t'.Sub t
  kept : ∀ r, ¬ q <:+ r → t'.kind r = t.kind r
  ret_iff : ret = true ↔ t'.kind q = none
  permitted : K.PermitsAll → ret = true

/-- An unlink or rmdir either takes one entry away or changes nothing. -/
theorem removed_attempt {q : List String} {attempt : Option (FileTree String)}
    (hentry : t.kind q ≠ none) (hremoves : ∀ t', attempt = some t' → t.Removes q t')
    (hpermitted : K.PermitsAll → attempt ≠ none) :
    ∃ t' ret, (match attempt with
      | some t' => some (t', true)
      | none => some (t, false)) = some (t', ret) ∧ Removed K t q t' ret := by
  cases hattempt : attempt with
  | some t' =>
      have hgone := hremoves t' hattempt
      refine ⟨t', true, rfl, hgone.sub, fun r hr => hgone.kept r ?_, ?_, fun _ => rfl⟩
      · rintro rfl
        exact hr List.suffix_rfl
      · simp [hgone.gone]
  | none =>
      refine ⟨t, false, rfl, Sub.refl t, fun _ _ => rfl, by simp [hentry], fun hall => ?_⟩
      exact absurd hattempt (hpermitted hall)

theorem gUnlink_eq {name : String} {q : List String} (hdir : t.kind q = some .directory) :
    gUnlink K links t (name :: q) =
      if K.mayUnlink (name :: q) then t.unlinkAt (name :: q) else none := by
  simp only [gUnlink, resolve_directory links hdir, Option.bind_some]

theorem gRmdir_eq {name : String} {q : List String} (hdir : t.kind q = some .directory) :
    gRmdir K links t (name :: q) =
      if K.mayRmdir (name :: q) then t.rmdirAt (name :: q) else none := by
  simp only [gRmdir, resolve_directory links hdir, Option.bind_some]

/-- Unlinking in a real directory. -/
theorem removed_unlink {name : String} {q : List String} (hdir : t.kind q = some .directory)
    (hentry : t.kind (name :: q) ≠ none) (hno : t.kind (name :: q) ≠ some .directory) :
    ∃ t' ret, (match gUnlink K links t (name :: q) with
      | some t' => some (t', true)
      | none => some (t, false)) = some (t', ret) ∧ Removed K t (name :: q) t' ret := by
  rw [gUnlink_eq hdir]
  refine removed_attempt hentry (fun t' ht' => ?_) (fun hall => ?_)
  · split at ht'
    · exact unlinkAt_eq_some ht'
    · cases ht'
  · obtain ⟨t', ht'⟩ := exists_unlinkAt hentry hno
    rw [if_pos (hall _).1, ht']
    simp

/-- Removing an empty real directory. -/
theorem removed_rmdir {q : List String} (hroot : q ≠ []) (hdir : t.kind q = some .directory)
    (hempty : t.children q = []) :
    ∃ t' ret, (match gRmdir K links t q with
      | some t' => some (t', true)
      | none => some (t, false)) = some (t', ret) ∧ Removed K t q t' ret := by
  have hentry : t.kind q ≠ none := by rw [hdir]; simp
  refine removed_attempt hentry (fun t' ht' => ?_) (fun hall => ?_)
  · cases q with
    | nil => exact absurd rfl hroot
    | cons name q =>
        rw [gRmdir_eq (kind_parent hentry)] at ht'
        split at ht'
        · exact (rmdirAt_eq_some ht').2
        · cases ht'
  · cases q with
    | nil => exact absurd rfl hroot
    | cons name q =>
        obtain ⟨t', ht'⟩ := exists_rmdirAt hroot hdir hempty
        rw [gRmdir_eq (kind_parent hentry), if_pos (hall _).2, ht']
        simp

/-- A real directory with no link to a directory below it, and no path as long as `depth`. -/
structure Plain (links depth : Nat) (t : FileTree String) (q : List String) : Prop where
  directory : t.kind q = some .directory
  noLink : NoLinkToDirectory links t q
  depth_lt : ∀ r, t.kind r ≠ none → r.length < depth + q.length

/-- The directory is as it was when something else has been removed. -/
theorem Plain.of_removed {depth : Nat} {q r : List String} {ret : Bool}
    (h : Plain links depth t q) (hremoved : Removed K t r t' ret) (hr : ¬ r <:+ q) :
    Plain links depth t' q where
  directory := by rw [hremoved.kept q hr, h.directory]
  noLink := h.noLink.sub hremoved.sub
  depth_lt := fun p hp => h.depth_lt p (fun hnone => hp (hremoved.sub.kind_eq_none hnone))

theorem not_cons_suffix (name : String) (q : List String) : ¬ name :: q <:+ q := by
  intro h
  have := h.length_le
  simp only [List.length_cons] at this
  omega

/-- What `haze_remove_directory` is to do at a real directory. -/
def Right (K : Kernel) (links depth : Nat)
    (removeDirectory : FileTree String → List String → Option (FileTree String × Bool)) : Prop :=
  ∀ t q, q ≠ [] → Plain links depth t q →
    ∃ t' ret, removeDirectory t q = some (t', ret) ∧ Removed K t q t' ret

/-- One entry of a real directory. -/
theorem removed_entry {depth : Nat}
    {removeDirectory : FileTree String → List String → Option (FileTree String × Bool)}
    (hright : Right K links depth removeDirectory) {name : String} {q : List String}
    (hplain : Plain links (depth + 1) t q) (hentry : t.kind (name :: q) ≠ none) :
    ∃ t' ret, removeEntry K links removeDirectory t (name :: q) = some (t', ret) ∧
      Removed K t (name :: q) t' ret := by
  have hbelow := hplain.noLink.below (List.suffix_cons name q)
  unfold removeEntry gFileTestIsDir
  cases hkind : t.kind (name :: q) with
  | none => exact absurd hkind hentry
  | some kind =>
      cases kind with
      | directory =>
          rw [if_pos (decide_eq_true (leadsToDirectory_of_directory links hkind))]
          refine hright t (name :: q) (List.cons_ne_nil name q) ⟨hkind, hbelow, fun r hr => ?_⟩
          have := hplain.depth_lt r hr
          simp only [List.length_cons]
          omega
      | file =>
          rw [if_neg (by simpa using not_leadsToDirectory_of_file links hkind)]
          exact removed_unlink hplain.directory hentry (by rw [hkind]; simp)
      | link target =>
          have hno := hbelow (name :: q) target List.suffix_rfl hkind
          rw [if_neg (by simpa using hno)]
          exact removed_unlink hplain.directory hentry (by rw [hkind]; simp)

/-- The loop over the entries of a real directory. -/
theorem removed_entries {depth : Nat}
    {removeDirectory : FileTree String → List String → Option (FileTree String × Bool)}
    (hright : Right K links depth removeDirectory) {q : List String} {names : List String}
    (hnames : names.Nodup) : ∀ t : FileTree String, Plain links (depth + 1) t q →
    (∀ name ∈ names, t.kind (name :: q) ≠ none) →
    ∃ t' ret, removeEntries K links removeDirectory q names t = some (t', ret) ∧ t'.Sub t ∧
      (∀ r, (∀ name ∈ names, ¬ name :: q <:+ r) → t'.kind r = t.kind r) ∧
      (ret = true → ∀ name ∈ names, t'.kind (name :: q) = none) ∧
      (K.PermitsAll → ret = true) := by
  induction names with
  | nil =>
      intro t _ _
      exact ⟨t, true, rfl, Sub.refl t, fun _ _ => rfl, by simp, fun _ => rfl⟩
  | cons name names ih =>
      intro t hplain hentries
      obtain ⟨hnew, hnames⟩ := List.nodup_cons.mp hnames
      obtain ⟨t₁, ret₁, hentry, hremoved⟩ :=
        removed_entry hright hplain (hentries name List.mem_cons_self)
      cases ret₁ with
      | false =>
          refine ⟨t₁, false, ?_, hremoved.sub, ?_, by simp, hremoved.permitted⟩
          · simp only [removeEntries, hentry]
            rfl
          · exact fun r hr => hremoved.kept r (hr name List.mem_cons_self)
      | true =>
          -- the entries that are left are those of `t`
          have hleft : ∀ name' ∈ names, t₁.kind (name' :: q) ≠ none := by
            intro name' hname'
            rw [hremoved.kept]
            · exact hentries name' (List.mem_cons_of_mem name hname')
            · intro hsuffix
              obtain ⟨rfl, -⟩ := List.cons.inj (hsuffix.eq_of_length (by simp))
              exact hnew hname'
          obtain ⟨t₂, ret₂, hloop, hsub, hkept, hgone, hall⟩ :=
            ih hnames t₁ (hplain.of_removed hremoved (not_cons_suffix name q)) hleft
          refine ⟨t₂, ret₂, ?_, hsub.trans hremoved.sub, fun r hr => ?_, fun hret => ?_, hall⟩
          · simp only [removeEntries, hentry]
            exact hloop
          · rw [hkept r (fun name' h => hr name' (List.mem_cons_of_mem name h))]
            exact hremoved.kept r (hr name List.mem_cons_self)
          · intro name' hname'
            rcases List.mem_cons.mp hname' with rfl | hname'
            · exact hsub.kind_eq_none (hremoved.ret_iff.mp rfl)
            · exact hgone hret name' hname'

/-- **A real directory is removed**, when no link below it leads to a directory. -/
theorem removed_directory (fuel : Nat) : Right K links fuel (hazeRemoveDirectory K links fuel) := by
  induction fuel with
  | zero =>
      intro t q _ hplain
      have := hplain.depth_lt q (by rw [hplain.directory]; simp)
      omega
  | succ fuel ih =>
      intro t q hroot hplain
      have hopen : gDirOpen K links t q = some (K.order q (t.children q)) := by
        simp only [gDirOpen, resolve_directory links hplain.directory, Option.bind_some,
          hplain.directory, if_true]
      have hperm := K.order_perm q (t.children q)
      obtain ⟨t₁, ret₁, hloop, hsub, hkept, hgone, hall⟩ :=
        removed_entries ih (hperm.nodup_iff.mpr (t.nodup_children q)) t hplain
          (fun name hname => mem_children.mp (hperm.mem_iff.mp hname))
      have hdir₁ : t₁.kind q = some .directory := by
        rw [hkept q (fun name _ => not_cons_suffix name q), hplain.directory]
      simp only [hazeRemoveDirectory, hopen, hloop, Option.bind_eq_bind, Option.bind_some]
      have hkept₁ : ∀ r, ¬ q <:+ r → t₁.kind r = t.kind r := fun r hr =>
        hkept r (fun name _ hsuffix => hr ((List.suffix_cons name q).trans hsuffix))
      cases ret₁ with
      | false =>
          refine ⟨t₁, false, rfl, hsub, hkept₁, by simp [hdir₁], fun hpermits => ?_⟩
          exact absurd (hall hpermits) (by simp)
      | true =>
          have hempty : t₁.children q = [] := by
            rw [List.eq_nil_iff_forall_not_mem]
            intro name hname
            have hin : name ∈ t.children q := mem_children.mpr (fun hnone =>
              mem_children.mp hname (hsub.kind_eq_none hnone))
            exact mem_children.mp hname (hgone rfl name (hperm.mem_iff.mpr hin))
          obtain ⟨t₂, ret₂, hrmdir, hremoved⟩ :=
            @removed_rmdir K links t₁ q hroot hdir₁ hempty
          refine ⟨t₂, ret₂, hrmdir, hremoved.sub.trans hsub, fun r hr => ?_, hremoved.ret_iff,
            hremoved.permitted⟩
          rw [hremoved.kept r hr, hkept₁ r hr]

/-! ## With a link to a directory

Whatever happens behind the link, `g_rmdir` fails on it in the end. The names that lead to the link
may come first in all directories on the way. -/

theorem gUnlink_sub {path : List String} (h : gUnlink K links t path = some t') : t'.Sub t := by
  cases path with
  | nil => cases h
  | cons name path =>
      simp only [gUnlink] at h
      split at h
      · obtain ⟨p, -, hp⟩ := Option.bind_eq_some_iff.mp h
        exact (unlinkAt_eq_some hp).sub
      · cases h

/-- What `g_rmdir` takes away is a directory. -/
theorem gRmdir_eq_some {name : String} {path : List String}
    (h : gRmdir K links t (name :: path) = some t') :
    t'.Sub t ∧ ∃ p ∈ t.resolve links path, t.kind (name :: p) = some .directory := by
  simp only [gRmdir] at h
  split at h
  · obtain ⟨p, hresolve, hp⟩ := Option.bind_eq_some_iff.mp h
    obtain ⟨hdir, hremoves⟩ := rmdirAt_eq_some hp
    exact ⟨hremoves.sub, p, hresolve, hdir⟩
  · cases h

theorem removeEntries_sub
    {removeDirectory : FileTree String → List String → Option (FileTree String × Bool)}
    (hremove : ∀ t path t' ret, removeDirectory t path = some (t', ret) → t'.Sub t)
    {path names : List String} : ∀ {t t' : FileTree String} {ret : Bool},
    removeEntries K links removeDirectory path names t = some (t', ret) → t'.Sub t := by
  induction names with
  | nil =>
      intro t t' ret h
      cases h
      exact Sub.refl t
  | cons name names ih =>
      intro t t' ret h
      obtain ⟨⟨t₁, ret₁⟩, hentry, hrest⟩ := Option.bind_eq_some_iff.mp h
      have hsub : t₁.Sub t := by
        unfold removeEntry at hentry
        split at hentry
        · exact hremove t _ t₁ ret₁ hentry
        · split at hentry
          · rename_i t'' hunlink
            cases hentry
            exact gUnlink_sub hunlink
          · cases hentry
            exact Sub.refl t
      cases ret₁ with
      | true => exact (ih hrest).trans hsub
      | false =>
          cases hrest
          exact hsub

/-- Nothing is ever added. -/
theorem hazeRemoveDirectory_sub (fuel : Nat) : ∀ (t : FileTree String) (path : List String)
    (t' : FileTree String) (ret : Bool),
    hazeRemoveDirectory K links fuel t path = some (t', ret) → t'.Sub t := by
  induction fuel with
  | zero =>
      intro t path t' ret h
      cases h
  | succ fuel ih =>
      intro t path t' ret h
      simp only [hazeRemoveDirectory] at h
      split at h
      · cases h
        exact Sub.refl t
      · obtain ⟨⟨t₁, ret₁⟩, hloop, hrest⟩ := Option.bind_eq_some_iff.mp h
        have hsub := removeEntries_sub ih hloop
        cases ret₁ with
        | false =>
            cases hrest
            exact hsub
        | true =>
            simp only [if_true] at hrest
            split at hrest
            · rename_i t₂ hrmdir
              cases hrest
              cases path with
              | nil => cases hrmdir
              | cons name path => exact (gRmdir_eq_some hrmdir).1.trans hsub
            · cases hrest
              exact hsub

/-- A link is not removed as a directory. -/
theorem hazeRemoveDirectory_link {fuel : Nat} {p : List String} {target : LinkTarget String}
    {ret : Bool} (hlink : t.kind p = some (.link target))
    (h : hazeRemoveDirectory K links fuel t p = some (t', ret)) : ret = false := by
  cases fuel with
  | zero => cases h
  | succ fuel =>
      simp only [hazeRemoveDirectory] at h
      split at h
      · cases h
        rfl
      · obtain ⟨⟨t₁, ret₁⟩, hloop, hrest⟩ := Option.bind_eq_some_iff.mp h
        have hsub := removeEntries_sub (hazeRemoveDirectory_sub fuel) hloop
        cases ret₁ with
        | false =>
            cases hrest
            rfl
        | true =>
            simp only [if_true] at hrest
            split at hrest
            · rename_i t₂ hrmdir
              -- the last name would have to be that of a directory, as it was in the beginning
              cases p with
              | nil => cases hrmdir
              | cons name path =>
                  obtain ⟨-, q, hq, hdir⟩ := gRmdir_eq_some hrmdir
                  have hparent : t.kind path = some .directory :=
                    kind_parent (by rw [hlink]; simp)
                  have hresolve : t.resolve links path = some q := hsub.walk links hq
                  rw [resolve_directory links hparent] at hresolve
                  cases hresolve
                  rw [hsub _ _ hdir] at hlink
                  cases hlink
            · cases hrest
              rfl

/-- The kernel that permits everything and lists the names that lead to `p` first. -/
def Kernel.toward (p : List String) : Kernel where
  order path names :=
    match names.find? (fun name => decide (name :: path <:+ p)) with
    | some name => name :: names.erase name
    | none => names
  order_perm := by
    intro path names
    split
    · rename_i name hname
      exact (List.perm_cons_erase (List.mem_of_find?_eq_some hname)).symm
    · exact List.Perm.refl names
  mayUnlink _ := true
  mayRmdir _ := true

/-- A name that leads to `p` is listed first. -/
theorem Kernel.toward_order {p path names : List String} {name : String} (hname : name ∈ names)
    (hsuffix : name :: path <:+ p) :
    ∃ first rest, (Kernel.toward p).order path names = first :: rest ∧ first :: path <:+ p := by
  simp only [Kernel.toward]
  cases hfind : names.find? (fun name => decide (name :: path <:+ p)) with
  | none => exact absurd hsuffix (by simpa using List.find?_eq_none.mp hfind name hname)
  | some first => exact ⟨first, _, rfl, by simpa using List.find?_some hfind⟩

/-- The next name on the way to `p`. -/
theorem exists_next {p q : List String} (hq : q <:+ p) (hne : q ≠ p) :
    ∃ name, name :: q <:+ p := by
  obtain ⟨front, rfl⟩ := hq
  have hfront : front ≠ [] := by
    rintro rfl
    exact hne rfl
  refine ⟨front.getLast hfront, front.dropLast, ?_⟩
  rw [List.append_cons, List.dropLast_append_getLast]

theorem kind_of_suffix {p q : List String} (hp : t.kind p ≠ none) (hq : q <:+ p) (hne : q ≠ p) :
    t.kind q = some .directory := by
  obtain ⟨front, rfl⟩ := hq
  exact kind_of_append hp (fun hnil => hne (by rw [hnil]; rfl))

/-- On the way to a link that leads to a directory, the directories are not removed. -/
theorem hazeRemoveDirectory_toward {p : List String} {target : LinkTarget String}
    (hlink : t.kind p = some (.link target)) (hlead : t.LeadsToDirectory links p) (fuel : Nat) :
    ∀ (q : List String) (t' : FileTree String) (ret : Bool), q <:+ p → q ≠ p →
      hazeRemoveDirectory (.toward p) links fuel t q = some (t', ret) → ret = false := by
  have hexists : t.kind p ≠ none := by rw [hlink]; simp
  induction fuel with
  | zero =>
      intro q t' ret _ _ h
      cases h
  | succ fuel ih =>
      intro q t' ret hq hne h
      have hdir := kind_of_suffix hexists hq hne
      -- what the next name leads to is a directory, or the link itself
      have hnext : ∀ name, name :: q <:+ p →
          t.kind (name :: q) ≠ none ∧ t.LeadsToDirectory links (name :: q) := by
        intro name hname
        by_cases hlast : name :: q = p
        · rw [hlast]
          exact ⟨hexists, hlead⟩
        · have hdir' := kind_of_suffix hexists hname hlast
          exact ⟨by rw [hdir']; simp, leadsToDirectory_of_directory links hdir'⟩
      obtain ⟨name, hname⟩ := exists_next hq hne
      obtain ⟨first, rest, horder, hfirst⟩ :=
        Kernel.toward_order (mem_children.mpr (hnext name hname).1) hname
      have hopen : gDirOpen (.toward p) links t q = some (first :: rest) := by
        simp only [gDirOpen, resolve_directory links hdir, Option.bind_some, hdir, if_true, horder]
      have hentry : removeEntry (.toward p) links (hazeRemoveDirectory (.toward p) links fuel) t
          (first :: q) = hazeRemoveDirectory (.toward p) links fuel t (first :: q) :=
        if_pos (decide_eq_true (hnext first hfirst).2)
      simp only [hazeRemoveDirectory, hopen, removeEntries, hentry] at h
      cases hrec : hazeRemoveDirectory (.toward p) links fuel t (first :: q) with
      | none =>
          rw [hrec] at h
          cases h
      | some r =>
          obtain ⟨t₁, ret₁⟩ := r
          have hfalse : ret₁ = false := by
            by_cases hlast : first :: q = p
            · exact hazeRemoveDirectory_link (by rw [hlast]; exact hlink) hrec
            · exact ih (first :: q) t₁ ret₁ hfirst hlast hrec
          rw [hrec, hfalse] at h
          cases h
          rfl

end

/-! ## When a directory is removed -/

/-- A link to a directory is enough for the function to fail. -/
theorem not_removesDirectory {links : Nat} {t : FileTree String} {path p : List String}
    {target : LinkTarget String} (hdir : t.kind path = some .directory) (hp : path <:+ p)
    (hlink : t.kind p = some (.link target)) (hlead : t.LeadsToDirectory links p) :
    ¬ RemovesDirectory links t path := by
  intro hremoves
  obtain ⟨fuel, t', ret, hrun, -, hret, hall⟩ := hremoves (.toward p)
  have hne : path ≠ p := by
    rintro rfl
    rw [hlink] at hdir
    cases hdir
  have hfalse := hazeRemoveDirectory_toward hlink hlead fuel path t' ret hp hne hrun
  have hgone := hall (fun _ => ⟨rfl, rfl⟩) path List.suffix_rfl
  rw [hret.mpr hgone] at hfalse
  cases hfalse

/-- **When `haze_remove_directory` does what is asked of it**: when no symbolic link in the
directory or below it leads to a directory. -/
theorem removesDirectory_iff (links : Nat) (t : FileTree String) (path : List String)
    (hroot : path ≠ []) (hdir : t.kind path = some .directory) :
    RemovesDirectory links t path ↔ NoLinkToDirectory links t path := by
  constructor
  · intro hremoves p target hp hlink hlead
    exact not_removesDirectory hdir hp hlink hlead hremoves
  · intro hlinks K
    obtain ⟨depth, hdepth⟩ := t.exists_length_lt
    have hplain : Plain links depth t path := by
      refine ⟨hdir, hlinks, fun r hr => ?_⟩
      have := hdepth r hr
      omega
    obtain ⟨t', ret, hrun, hremoved⟩ := removed_directory (K := K) depth t path hroot hplain
    refine ⟨depth, t', ret, hrun, hremoved.kept, hremoved.ret_iff, fun hall r hr => ?_⟩
    obtain ⟨front, rfl⟩ := hr
    exact kind_append_eq_none (hremoved.ret_iff.mp (hremoved.permitted hall)) front

/-- A temporary directory with a file and a link that leads nowhere. -/
def userDir : FileTree String :=
  .ofEntries [⟨[], .directory⟩, ⟨["tmp"], .directory⟩, ⟨["haze", "tmp"], .directory⟩,
    ⟨["prefs.xml", "haze", "tmp"], .file⟩,
    ⟨["lock", "haze", "tmp"], .link ⟨false, [.up, .name "nowhere"]⟩⟩].toAList rfl (by decide)

/-- It is removed. -/
theorem removesDirectory_userDir : RemovesDirectory 40 userDir ["haze", "tmp"] := by
  refine (removesDirectory_iff 40 userDir ["haze", "tmp"] (by simp) rfl).mpr ?_
  intro r target _ hlink
  have hmem : r ∈ userDir.entries.keys :=
    AList.mem_keys.mp (FileTree.kind_ne_none.mp (by rw [hlink]; simp))
  have hall : ∀ r ∈ userDir.entries.keys, r = ["lock", "haze", "tmp"] ∨
      userDir.kind r = some .directory ∨ userDir.kind r = some .file := by decide
  rcases hall r hmem with rfl | hdir | hfile
  · decide
  · rw [hdir] at hlink
    cases hlink
  · rw [hfile] at hlink
    cases hlink

/-- A temporary directory with a link to the home directory. -/
def userDirWithLink : FileTree String :=
  .ofEntries [⟨[], .directory⟩, ⟨["tmp"], .directory⟩, ⟨["haze", "tmp"], .directory⟩,
    ⟨["link", "haze", "tmp"], .link ⟨true, [.name "home"]⟩⟩, ⟨["home"], .directory⟩,
    ⟨["letter", "home"], .file⟩].toAList rfl (by decide)

/-- The letter in the home directory is deleted, and the temporary directory stays. -/
theorem userDirWithLink_deletes_letter :
    (∃ t', hazeRemoveDirectory (.toward []) 40 3 userDirWithLink ["haze", "tmp"] =
        some (t', false) ∧
      userDirWithLink.kind ["letter", "home"] = some .file ∧ t'.kind ["letter", "home"] = none ∧
      t'.kind ["haze", "tmp"] = some .directory) ∧
    ¬ RemovesDirectory 40 userDirWithLink ["haze", "tmp"] := by
  refine ⟨⟨_, rfl, rfl, rfl, rfl⟩, ?_⟩
  exact not_removesDirectory (p := ["link", "haze", "tmp"]) rfl (by decide) rfl (by decide)

end Haze
