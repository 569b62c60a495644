import AsterTeam.Release.Manifest

/-! A verified directory holds the signed files and nothing else just when no file elsewhere has
the text of a signed path. The collected paths are compared as texts in which backslashes have
become slashes, so a name with a backslash can pass for a path through directories.
-/

namespace AsterTeam.ReleaseCore

open String (ofList toList toList_inj)
open List

open FileTree

-- Sequences of checks

theorem forEach_eq_ok {Item : Type} {action : Item → Except ReleaseError Unit} {items : List Item}
    : forEach action items = .ok () ↔ ∀ item ∈ items, action item = .ok () := by
  induction items with
  | nil => simp [forEach]
  | cons item rest ih =>
    rw [forEach, unit_bind_eq_ok, ih, forall_mem_cons]

-- Collecting is one pass over all entries

section

variable {platform : Platform}

def visit (platform : Platform) (entry : List OsName × Tree)
    : Except ReleaseError (List String) :=
  match relativePath platform entry.1 with
  | none => .error .io
  | some relative =>
    match entry.2 with
    | .file _ =>
      if relative = releaseManifestFile then .ok []
      else do
        validateRelativePath platform relative
        return [relative]
    | .directory _ => .ok []
    | .symlink => .error (.treeMismatch relative)
    | .special => .error (.treeMismatch relative)

def visitAll (platform : Platform) : List (List OsName × Tree)
    → Except ReleaseError (List String)
  | [] => .ok []
  | entry :: rest => do
      let found ← visit platform entry
      let others ← visitAll platform rest
      return found ++ others

theorem visitAll_append (front back : List (List OsName × Tree))
    : visitAll platform (front ++ back)
      = (do
          let found ← visitAll platform front
          let others ← visitAll platform back
          return found ++ others) := by
  induction front with
  | nil =>
    cases hb : visitAll platform back <;>
      simp [visitAll, hb, bind, Except.bind, pure, Except.pure]
  | cons entry rest ih =>
    rw [cons_append, visitAll, visitAll, ih]
    cases visit platform entry with
    | error failure => rfl
    | ok found =>
      cases visitAll platform rest with
      | error failure => rfl
      | ok others =>
        cases visitAll platform back with
        | error failure => rfl
        | ok more => simp [bind, Except.bind, pure, Except.pure]

/-- The entries with the path of the directory before theirs. -/
def placed (directory : List OsName) (entries : List (List OsName × Tree))
    : List (List OsName × Tree) :=
  entries.map fun entry => (directory ++ entry.1, entry.2)

mutual
theorem collectReleaseFiles_eq (directory : List OsName) (entries : List (OsName × Tree))
    : collectReleaseFiles platform directory entries
      = visitAll platform (placed directory (Node.inEntries entries)) := by
  cases entries with
  | nil => simp [collectReleaseFiles, Node.inEntries, placed, visitAll]
  | cons entry rest =>
    obtain ⟨name, node⟩ := entry
    have split
        : placed directory (Node.inEntries ((name, node) :: rest))
          = placed (directory ++ [name]) (([], node) :: node.inside)
            ++ placed directory (Node.inEntries rest) := by
      simp [placed, Node.inEntries, Function.comp_def]
    rw [collectReleaseFiles, collectEntry_eq, collectReleaseFiles_eq, split, visitAll_append]

theorem collectEntry_eq (path : List OsName) (node : Tree)
    : collectEntry platform path node
      = visitAll platform (placed path (([], node) :: node.inside)) := by
  have first
      : placed path (([], node) :: node.inside) = (path, node) :: placed path node.inside := by
    simp [placed]
  rw [first, visitAll, visit]
  cases node with
  | file content =>
    rw [collectEntry]
    cases relativePath platform path with
    | none => rfl
    | some relative =>
      dsimp only
      split
      · rfl
      · cases validateRelativePath platform relative <;> rfl
  | directory entries =>
    rw [collectEntry, Node.inside]
    cases relativePath platform path with
    | none => rfl
    | some relative =>
      dsimp only
      rw [collectReleaseFiles_eq]
      cases visitAll platform (placed path (Node.inEntries entries)) <;> rfl
  | symlink =>
    rw [collectEntry]
    cases relativePath platform path <;> rfl
  | special =>
    rw [collectEntry]
    cases relativePath platform path <;> rfl
end

structure Accepted (platform : Platform) (path : List OsName) (node : Tree) : Prop where
  ordinary : node.Ordinary
  unicode : (relativePath platform path).isSome = true
  valid
    : ∀ file relative, node = .file file → relativePath platform path = some relative
      → relative ≠ releaseManifestFile → validRelativePath platform relative = true

theorem visit_eq_ok (visited : visit platform entry = .ok found)
    : Accepted platform entry.1 entry.2
      ∧ ∀ relative, relative ∈ found
        ↔ (∃ file, entry.2 = .file file) ∧ relativePath platform entry.1 = some relative
          ∧ relative ≠ releaseManifestFile := by
  obtain ⟨path, node⟩ := entry
  unfold visit at visited
  dsimp only at visited ⊢
  split at visited
  · cases visited
  rename_i relative hr
  cases node with
  | file file =>
    dsimp only at visited
    split at visited
    · rename_i hm
      cases visited
      refine ⟨⟨trivial, by rw [hr]; rfl, ?_⟩, ?_⟩
      · intro _ other _ ho hn
        rw [hr] at ho
        cases ho
        exact absurd hm hn
      · intro other
        refine ⟨fun member => absurd member not_mem_nil, ?_⟩
        rintro ⟨_, ho, hn⟩
        rw [hr] at ho
        cases ho
        exact absurd hm hn
    · rename_i hn
      obtain ⟨valid, hre⟩ := check_bind_eq_ok.mp visited
      cases hre
      refine ⟨⟨trivial, by rw [hr]; rfl, ?_⟩, ?_⟩
      · intro _ other _ ho _
        rw [hr] at ho
        cases ho
        exact valid
      · intro other
        rw [mem_singleton, hr, Option.some.injEq]
        refine ⟨fun same => ⟨⟨file, rfl⟩, same.symm, same ▸ hn⟩, ?_⟩
        rintro ⟨_, same, _⟩
        exact same.symm
  | directory entries =>
    cases visited
    refine ⟨⟨trivial, by rw [hr]; rfl, fun _ _ hf => by cases hf⟩, ?_⟩
    intro other
    refine ⟨fun member => absurd member not_mem_nil, ?_⟩
    rintro ⟨⟨_, hf⟩, _⟩
    cases hf
  | symlink => cases visited
  | special => cases visited

theorem visit_of_accepted (ha : Accepted platform entry.1 entry.2)
    : ∃ found, visit platform entry = .ok found := by
  obtain ⟨path, node⟩ := entry
  obtain ⟨relative, hr⟩ := Option.isSome_iff_exists.mp ha.unicode
  dsimp only at ha hr
  unfold visit
  dsimp only
  rw [hr]
  cases node with
  | file file =>
    dsimp only
    split
    · exact ⟨[], rfl⟩
    · rename_i hn
      exact ⟨[relative], check_bind_eq_ok.mpr ⟨ha.valid file relative rfl hr hn, rfl⟩⟩
  | directory entries => exact ⟨[], rfl⟩
  | symlink => exact ha.ordinary.elim
  | special => exact ha.ordinary.elim

theorem visitAll_eq_ok (visited : visitAll platform entries = .ok found)
    : (∀ entry ∈ entries, Accepted platform entry.1 entry.2)
      ∧ ∀ relative, relative ∈ found
        ↔ ∃ path file, (path, .file file) ∈ entries
          ∧ relativePath platform path = some relative ∧ relative ≠ releaseManifestFile := by
  induction entries generalizing found with
  | nil =>
    cases visited
    simp
  | cons entry rest ih =>
    obtain ⟨first, hf, visited⟩ := except_bind_eq_ok.mp visited
    obtain ⟨others, ho, visited⟩ := except_bind_eq_ok.mp visited
    cases visited
    obtain ⟨ha, inFirst⟩ := visit_eq_ok hf
    obtain ⟨allAccepted, inOthers⟩ := ih ho
    refine ⟨forall_mem_cons.mpr ⟨ha, allAccepted⟩, ?_⟩
    intro relative
    rw [mem_append, inFirst, inOthers]
    refine ⟨?_, ?_⟩
    · intro member
      rcases member with ⟨⟨file, hfi⟩, hr⟩ | ⟨path, file, he, hr⟩
      · exact ⟨entry.1, file, hfi ▸ mem_cons_self, hr⟩
      · exact ⟨path, file, mem_cons_of_mem _ he, hr⟩
    · intro ⟨path, file, he, hr⟩
      rcases mem_cons.mp he with same | he
      · exact .inl ⟨⟨file, by rw [← same]⟩, by rw [← same]; exact hr⟩
      · exact .inr ⟨path, file, he, hr⟩

theorem visitAll_of_accepted (ha : ∀ entry ∈ entries, Accepted platform entry.1 entry.2)
    : ∃ found, visitAll platform entries = .ok found := by
  induction entries with
  | nil => exact ⟨[], rfl⟩
  | cons entry rest ih =>
    obtain ⟨first, hf⟩ := visit_of_accepted (forall_mem_cons.mp ha).1
    obtain ⟨others, ho⟩ := ih (forall_mem_cons.mp ha).2
    exact ⟨first ++ others,
      except_bind_eq_ok.mpr ⟨first, hf, except_bind_eq_ok.mpr ⟨others, ho, rfl⟩⟩⟩

theorem placed_nil (entries : List (List OsName × Tree)) : placed [] entries = entries := by
  simp [placed]

end

-- Paths and their texts

section

variable {platform : Platform} {path : List OsName} {names : List String}

theorem mapM_toStr_eq_some : path.mapM OsName.toStr = some names ↔ path = names.map .unicode := by
  induction path generalizing names with
  | nil => cases names <;> simp
  | cons name rest ih =>
    cases name with
    | unicode text =>
      cases names with
      | nil => simp [OsName.toStr, Option.bind_eq_some_iff]
      | cons first others =>
        simp [OsName.toStr, Option.bind_eq_some_iff, ih, and_comm]
    | other bytes => cases names <;> simp [OsName.toStr]

theorem map_intercalate (change : Char → Char) (separator : Char) (parts : List (List Char))
    : ([separator].intercalate parts).map change
      = [change separator].intercalate (parts.map (List.map change)) := by
  induction parts with
  | nil => rfl
  | cons part rest ih =>
    cases rest with
    | nil => simp [List.intercalate]
    | cons next others =>
      simp only [List.intercalate, List.intersperse, List.flatten_cons, List.map_append,
        List.map_cons] at ih ⊢
      rw [ih]
      simp

def Slashed (text : String) : Prop := '\\' ∉ text.toList

/-- Names without backslashes give the text of their path, on both systems. -/
theorem relativePath_of_names (slashed : ∀ name ∈ names, Slashed name)
    : relativePath platform (names.map .unicode)
      = some (ofList (['/'].intercalate (names.map toList))) := by
  have hs
      : (if platform.separator = '\\' then '/' else platform.separator) = '/' := by
    cases platform <;> rfl
  have hu
      : (names.map toList).map
          (List.map fun char => if char = '\\' then '/' else char)
        = names.map toList := by
    rw [List.map_map]
    refine map_congr_left fun name hn => ?_
    refine (map_congr_left fun char hc => ?_).trans (map_id name.toList)
    have other : ¬ char = '\\' := fun same => slashed name hn (same ▸ hc)
    exact if_neg other
  unfold relativePath
  rw [mapM_toStr_eq_some.mpr rfl]
  simp only [Option.bind_eq_bind, Option.bind_some, map_intercalate, hs, hu, Option.pure_def]

def OsName.Legal (platform : Platform) : OsName → Prop
  | .unicode text =>
    text ≠ "" ∧ text ≠ "." ∧ text ≠ ".." ∧ '/' ∉ text.toList ∧ '\x00' ∉ text.toList
    ∧ (platform = .windows → '\\' ∉ text.toList)
  | .other bytes => bytes ≠ [] ∧ 0x2f ∉ bytes ∧ 0 ∉ bytes

/-- A name without a backslash, if it is Unicode. -/
def OsName.Slashed : OsName → Prop
  | .unicode text => ReleaseCore.Slashed text
  | .other _ => True

theorem components_of_valid (valid : validRelativePath platform value)
    : components platform value.toList = segmentComponents (segments value.toList)
      ∧ ∀ part ∈ segmentComponents (segments value.toList), part.isNormal := by
  have normal : ∀ part ∈ components platform value.toList, part.isNormal := by
    simp only [validRelativePath, Bool.and_eq_true] at valid
    exact all_eq_true.mp valid.2
  have same : components platform value.toList = segmentComponents (segments value.toList) := by
    unfold components at normal ⊢
    split
    · rename_i letter rest hv
      split
      · -- a drive is no normal component
        rename_i hl
        rw [hv] at normal
        simp only [if_pos hl] at normal
        exact absurd (normal _ mem_cons_self) (by decide)
      · rw [hv]
    · rfl
  exact ⟨same, same ▸ normal⟩

theorem component_of_name (hn : name ≠ []) (noDot : name ≠ ['.']) (noDots : name ≠ ['.', '.'])
    : component name = [.normal (ofList name)] := by
  rw [component, if_neg (not_or.mpr ⟨hn, noDot⟩), if_neg noDots]

theorem segmentComponents_of_names {names : List (List Char)}
    (hpl : ∀ name ∈ names, name ≠ [] ∧ name ≠ ['.'] ∧ name ≠ ['.', '.'])
    : segmentComponents names = names.map fun name => .normal (ofList name) := by
  have flat (rest : List (List Char))
      (hpl : ∀ name ∈ rest, name ≠ [] ∧ name ≠ ['.'] ∧ name ≠ ['.', '.'])
      : rest.flatMap component = rest.map fun name => .normal (ofList name) := by
    induction rest with
    | nil => rfl
    | cons name rest ih =>
      obtain ⟨hp, hpl⟩ := forall_mem_cons.mp hpl
      rw [flatMap_cons, component_of_name hp.1 hp.2.1 hp.2.2, ih hpl]
      rfl
  cases names with
  | nil => rfl
  | cons name rest =>
    obtain ⟨hp, hpl⟩ := forall_mem_cons.mp hpl
    rw [segmentComponents, if_neg hp.2.1, component_of_name hp.1 hp.2.1 hp.2.2, flat rest hpl]
    rfl

theorem location_of_components {path : String} {names : List (List Char)}
    (hc : components platform path.toList = names.map fun name => .normal (ofList name))
    : location platform path = names.map fun name => .unicode (ofList name) := by
  rw [location, hc, filterMap_map, ← filterMap_eq_map]
  rfl

/-- The segments of a path's text are its names, if none has a backslash. -/
theorem segments_relativePath (hno : path ≠ []) (legal : ∀ name ∈ path, name.Legal platform)
    (slashed : ∀ name ∈ path, name.Slashed) (hr : relativePath platform path = some relative)
    : ∃ names : List String, path = names.map .unicode
      ∧ segments relative.toList = names.map toList
      ∧ ∀ part ∈ names.map toList, part ≠ [] ∧ part ≠ ['.'] ∧ part ≠ ['.', '.'] := by
  obtain ⟨names, hna, _⟩ := Option.bind_eq_some_iff.mp hr
  obtain rfl := mapM_toStr_eq_some.mp hna
  have hl (name : String) (hn : name ∈ names)
      : (OsName.unicode name).Legal platform :=
    legal _ (List.mem_map_of_mem hn)
  have hs (name : String) (hn : name ∈ names) : Slashed name :=
    slashed _ (List.mem_map_of_mem hn)
  rw [relativePath_of_names hs, Option.some.injEq] at hr
  have parts : segments relative.toList = names.map toList := by
    rw [← hr, String.toList_ofList, segments]
    refine List.splitOn_intercalate '/' ?_ ?_
    · intro part hp
      obtain ⟨name, hn, rfl⟩ := List.mem_map.mp hp
      exact (hl name hn).2.2.2.1
    · intro none
      exact hno (by rw [List.map_eq_nil_iff.mp none, List.map_nil])
  refine ⟨names, rfl, parts, fun part hp => ?_⟩
  obtain ⟨name, hn, rfl⟩ := List.mem_map.mp hp
  obtain ⟨notEmpty, notDot, notDots, _⟩ := hl name hn
  exact ⟨fun same => notEmpty (String.toList_inj.mp same),
    fun same => notDot (String.toList_inj.mp same),
    fun same => notDots (String.toList_inj.mp same)⟩

theorem location_of_relativePath (hno : path ≠ []) (legal : ∀ name ∈ path, name.Legal platform)
    (slashed : ∀ name ∈ path, name.Slashed) (hr : relativePath platform path = some relative)
    (valid : validRelativePath platform relative)
    : location platform relative = path := by
  obtain ⟨names, rfl, parts, hpl⟩ := segments_relativePath hno legal slashed hr
  have hc := (components_of_valid valid).1
  rw [parts, segmentComponents_of_names hpl] at hc
  rw [location_of_components hc, List.map_map]
  refine List.map_congr_left fun name _ => ?_
  rw [Function.comp_apply, String.ofList_toList]

def DotFree (path : String) : Prop := ['.'] ∉ segments path.toList

theorem dotFree_relativePath (hno : path ≠ []) (legal : ∀ name ∈ path, name.Legal platform)
    (slashed : ∀ name ∈ path, name.Slashed) (hr : relativePath platform path = some relative)
    : DotFree relative := by
  obtain ⟨_, _, parts, hpl⟩ := segments_relativePath hno legal slashed hr
  intro dot
  exact (hpl _ (parts ▸ dot)).2.1 rfl

variable {char : Char}

theorem mem_intercalate_of_mem (hp : part ∈ parts) (hc : char ∈ part)
    : char ∈ [separator].intercalate parts := by
  induction parts with
  | nil => cases hp
  | cons first rest ih =>
    cases rest with
    | nil =>
      rw [mem_singleton.mp hp] at hc
      simpa [List.intercalate] using hc
    | cons next others =>
      have step
          : [separator].intercalate (first :: next :: others)
            = first ++ (separator :: [separator].intercalate (next :: others)) := by
        simp [List.intercalate]
      rw [step]
      rcases mem_cons.mp hp with rfl | hp
      · exact mem_append_left _ hc
      · exact mem_append_right _ (mem_cons_of_mem _ (ih hp))

theorem not_mem_of_mem_splitOn {value : List Char} (absent : char ∉ value)
    (hp : part ∈ value.splitOn '/')
    : char ∉ part := by
  intro hc
  have hw : ['/'].intercalate (value.splitOn '/') = value := intercalate_splitOn '/'
  apply absent
  rw [← hw]
  exact mem_intercalate_of_mem hp hc

theorem mem_of_mem_segmentComponents {parts : List (List Char)}
    (hn : .normal name ∈ segmentComponents parts)
    : name.toList ∈ parts := by
  have of_component {part : List Char} (hn : .normal name ∈ component part)
      : name.toList = part := by
    unfold component at hn
    split_ifs at hn
    · cases hn
    · cases mem_singleton.mp hn
    · cases mem_singleton.mp hn
      exact String.toList_ofList
  cases parts with
  | nil => cases hn
  | cons first rest =>
    rcases mem_append.mp hn with hn | hn
    · split_ifs at hn
      · cases mem_singleton.mp hn
      · exact of_component hn ▸ mem_cons_self
    · obtain ⟨part, hp, hn⟩ := mem_flatMap.mp hn
      exact mem_cons_of_mem _ (of_component hn ▸ hp)

/-- A valid path leads through names without backslashes. -/
theorem location_slashed {path : String} (valid : validRelativePath platform path)
    : ∀ name ∈ location platform path, name.Slashed := by
  intro name hn
  obtain ⟨part, hp, hn⟩ := mem_filterMap.mp hn
  rw [(components_of_valid valid).1] at hp
  simp only [validRelativePath, Bool.and_eq_true] at valid
  have hno : '\\' ∉ path.toList := by simpa using valid.1.1.2
  cases part with
  | normal text =>
    cases hn
    exact not_mem_of_mem_splitOn hno (mem_of_mem_segmentComponents hp)
  | drive => cases hn
  | curDir => cases hn
  | parentDir => cases hn

/-- The names that a valid path without dots leads through have the path as their text. -/
theorem relativePath_location {path : String} (valid : validRelativePath platform path)
    (dotFree : DotFree path)
    : relativePath platform (location platform path) = some path := by
  obtain ⟨hc, normal⟩ := components_of_valid valid
  simp only [validRelativePath, Bool.and_eq_true] at valid
  have hno : '\\' ∉ path.toList := by simpa using valid.1.1.2
  have hnon : ∀ part ∈ segments path.toList, part ≠ [] := by
    have all := List.all_eq_true.mp valid.1.1.1.2
    exact fun part hp => of_decide_eq_true (all part hp)
  have noDots (part : List Char) (hp : part ∈ segments path.toList)
      : part ≠ ['.', '.'] := by
    intro hd
    have hco : Component.parentDir ∈ segmentComponents (segments path.toList) := by
      cases hs : segments path.toList with
      | nil => rw [hs] at hp; cases hp
      | cons first rest =>
        rw [hs] at hp
        rw [segmentComponents]
        rcases List.mem_cons.mp hp with rfl | hp
        · rw [hd]
          exact List.mem_append_left _ List.mem_cons_self
        · exact List.mem_append_right _ (List.mem_flatMap.mpr ⟨part, hp, hd ▸ List.mem_cons_self⟩)
    exact absurd (normal _ hco) (by decide)
  have hpl (part : List Char) (hp : part ∈ segments path.toList)
      : part ≠ [] ∧ part ≠ ['.'] ∧ part ≠ ['.', '.'] :=
    ⟨hnon part hp, fun same => dotFree (same ▸ hp), noDots part hp⟩
  rw [segmentComponents_of_names hpl] at hc
  have composed : (fun name => OsName.unicode (ofList name)) = .unicode ∘ ofList :=
    rfl
  rw [location_of_components hc, composed, ← List.map_map, relativePath_of_names]
  · rw [List.map_map]
    have same : (segments path.toList).map (toList ∘ ofList)
        = segments path.toList := by
      simp [Function.comp_def]
    rw [same, segments, List.intercalate_splitOn, String.ofList_toList]
  · intro name hn
    obtain ⟨part, hp, rfl⟩ := List.mem_map.mp hn
    rw [Slashed, String.toList_ofList]
    exact not_mem_of_mem_splitOn hno hp

end

-- Verified manifests

section

variable {Key : Type} {platform : Platform}

theorem validateFiles_eq_ok (hv : validateFiles platform previous files = .ok ())
    : ∀ file ∈ files, validRelativePath platform file.path ∧ file.path ≠ releaseManifestFile := by
  induction files generalizing previous with
  | nil => exact fun file hf => absurd hf not_mem_nil
  | cons file rest ih =>
    obtain ⟨valid, hv⟩ := check_bind_eq_ok.mp hv
    obtain ⟨checked, hv⟩ := check_bind_eq_ok.mp hv
    refine forall_mem_cons.mpr ⟨⟨valid, ?_⟩, ih hv⟩
    intro hm
    simp [hm] at checked

structure VerifiedClaims (platform : Platform) (claims : ReleaseClaims) : Prop where
  nonempty : claims.files ≠ []
  paths : ∀ file ∈ claims.files, validRelativePath platform file.path = true
    ∧ file.path ≠ releaseManifestFile

theorem verify_eq_ok (hv : verify platform crates data trustedKeys = .ok release)
    : Signed crates trustedKeys release ∧ VerifiedClaims platform release.claims := by
  obtain ⟨document, _, hv⟩ := except_bind_eq_ok.mp hv
  obtain ⟨hva, hv⟩ := unit_bind_eq_ok.mp hv
  split at hv
  · cases hv
  rename_i signature hs
  obtain ⟨_, hv⟩ := check_bind_eq_ok.mp hv
  split at hv
  · cases hv
  rename_i key hk
  obtain ⟨payload, hp, hv⟩ := except_bind_eq_ok.mp hv
  obtain ⟨hsi, hv⟩ := check_bind_eq_ok.mp hv
  cases hv
  obtain ⟨checked, hva⟩ := check_bind_eq_ok.mp hva
  refine ⟨⟨key, payload, signature, hk, hp, hs, hsi⟩, ?_, validateFiles_eq_ok hva⟩
  intro empty
  simp [empty] at checked

end

-- Trees

/-- A directory as a file system can hold it. -/
structure DirectoryTree (platform : Platform) where
  entries : List (OsName × Tree)
  distinct : (Node.directory entries).Distinct
  legal : ∀ entry ∈ Node.inEntries entries, ∀ name ∈ entry.1, name.Legal platform

def DirectoryTree.root {platform : Platform} (tree : DirectoryTree platform) : Tree :=
  .directory tree.entries

/-- A file that has the text of one of the paths, or of the manifest, is at that path. -/
def DirectoryTree.InPlace {platform : Platform} (tree : DirectoryTree platform)
    (paths : List String)
    : Prop :=
  ∀ path file relative, (path, .file file) ∈ tree.root.inside
    → relativePath platform path = some relative
    → relative ∈ paths ∨ relative = releaseManifestFile
    → path = location platform relative

def DirectoryTree.Unicode {platform : Platform} (tree : DirectoryTree platform) : Prop :=
  ∀ entry ∈ tree.root.inside, ∀ name ∈ entry.1, name.toStr.isSome = true

section

variable {Key : Type} {platform : Platform}

structure FileMatches (platform : Platform) (crates : ReleaseCrates Key)
    (expected : ReleaseFile) (file : RegularFile)
    : Prop where
  size : file.content.length = expected.size.toNat
  digest : lowercaseHex (crates.sha256 file.content) = expected.sha256
  executable : platform = .unix → file.executable = expected.executable

/-- The tree holds the files of the manifest with the given paths, its own manifest at most,
and no other file, link or special file.
-/
structure ExactTree (crates : ReleaseCrates Key) (tree : DirectoryTree platform)
    (claims : ReleaseClaims) (paths : List String)
    : Prop where
  ordinary : ∀ entry ∈ tree.root.inside, entry.2.Ordinary
  files
    : ∀ path file, (path, .file file) ∈ tree.root.inside
      → path = [.unicode releaseManifestFile]
        ∨ ∃ expected ∈ claims.files, expected.path ∈ paths
          ∧ path = location platform expected.path ∧ FileMatches platform crates expected file
  present
    : ∀ expected ∈ claims.files, expected.path ∈ paths
      → ∃ file, tree.root.find (location platform expected.path) = some (.file file)
        ∧ FileMatches platform crates expected file

variable {crates : ReleaseCrates Key} {tree : DirectoryTree platform}
  {release : ReleaseDocument} {paths : List String}

theorem verifyReleaseFile_eq_ok
    : verifyReleaseFile platform crates root expected = .ok ()
      ↔ validRelativePath platform expected.path
        ∧ ∃ file, root.find (location platform expected.path) = some (.file file)
          ∧ FileMatches platform crates expected file := by
  have matches_iff (file : RegularFile)
      : (file.content.length == expected.size.toNat) = true
          ∧ sameExecutable platform expected file = true
          ∧ (lowercaseHex (crates.sha256 file.content) == expected.sha256) = true
        ↔ FileMatches platform crates expected file := by
    refine ⟨?_, ?_⟩
    · intro ⟨size, executable, digest⟩
      refine ⟨beq_iff_eq.mp size, beq_iff_eq.mp digest, fun hu => ?_⟩
      rw [hu] at executable
      exact beq_iff_eq.mp executable
    · intro same
      refine ⟨beq_iff_eq.mpr same.size, ?_, beq_iff_eq.mpr same.digest⟩
      cases hp : platform with
      | windows => rfl
      | unix => exact beq_iff_eq.mpr (same.executable hp)
  unfold verifyReleaseFile validateRelativePath
  rw [check_bind_eq_ok]
  refine and_congr_right fun _ => ?_
  cases hf : root.find (location platform expected.path) with
  | none => simp
  | some node =>
    cases node with
    | file file =>
      dsimp only
      rw [check_bind_eq_ok, check_bind_eq_ok, check_ok_iff, matches_iff]
      refine ⟨fun same => ⟨file, rfl, same⟩, ?_⟩
      intro ⟨other, ho, same⟩
      cases ho
      exact same
    | directory entries => simp
    | symlink => simp
    | special => simp

structure Verified (crates : ReleaseCrates Key) (tree : DirectoryTree platform)
    (claims : ReleaseClaims) (paths : List String)
    : Prop where
  nonempty : paths ≠ []
  signed
    : ∀ path ∈ paths, validRelativePath platform path = true
      ∧ ∃ file ∈ claims.files, file.path = path
  collected
    : ∃ actual, visitAll platform tree.root.inside = .ok actual
      ∧ ∀ path, path ∈ actual ↔ path ∈ paths
  files
    : ∀ file ∈ claims.files, file.path ∈ paths
      → verifyReleaseFile platform crates tree.root file = .ok ()

theorem verifyReleaseFiles_eq_ok
    : verifyReleaseFiles platform crates tree.root release paths = .ok ()
      ↔ Verified crates tree release.claims paths := by
  have collect
      : collectReleaseFiles platform [] tree.entries = visitAll platform tree.root.inside := by
    rw [collectReleaseFiles_eq, placed_nil]
    rfl
  unfold DirectoryTree.root at collect ⊢
  unfold verifyReleaseFiles
  dsimp only
  rw [check_bind_eq_ok, unit_bind_eq_ok, forEach_eq_ok, except_bind_eq_ok, collect]
  simp only [check_bind_eq_ok, forEach_eq_ok, mem_insertionSort, mem_filter, validateRelativePath,
    check_ok_iff, any_eq_true, beq_iff_eq, Bool.and_eq_true, all_eq_true, contains_iff_mem]
  refine ⟨?_, ?_⟩
  · intro ⟨hn, signed, actual, ha, ⟨inside, outside⟩, files⟩
    refine ⟨?_, signed, ⟨actual, ha, fun path => ⟨inside path, outside path⟩⟩,
      fun file hf hp => files file ⟨hf, hp⟩⟩
    intro empty
    rw [empty] at hn
    exact absurd hn (by decide)
  · intro hv
    obtain ⟨actual, ha, same⟩ := hv.collected
    refine ⟨?_, hv.signed, actual, ha,
      ⟨fun path => (same path).mp, fun path => (same path).mpr⟩,
      fun file hf => hv.files file hf.1 hf.2⟩
    cases sorted : paths.insertionSort (· ≤ ·) with
    | nil =>
      have noPaths := (perm_insertionSort (· ≤ ·) paths).length_eq
      rw [sorted] at noPaths
      exact absurd (length_eq_zero_iff.mp noPaths.symm) hv.nonempty
    | cons first rest => rfl

theorem manifest_valid : validRelativePath platform releaseManifestFile := by
  cases platform <;> decide +kernel

theorem manifest_location
    : location platform releaseManifestFile = [.unicode releaseManifestFile] := by
  cases platform <;> decide +kernel

theorem exactTree_of_verified (inPlace : tree.InPlace paths)
    (hv : Verified crates tree release.claims paths)
    : ExactTree crates tree release.claims paths := by
  obtain ⟨actual, hac, same⟩ := hv.collected
  obtain ⟨hacc, hc⟩ := visitAll_eq_ok hac
  refine ⟨fun entry hen => (hacc entry hen).ordinary, ?_, ?_⟩
  · intro path file hf
    have ha := hacc _ hf
    obtain ⟨relative, hr⟩ := Option.isSome_iff_exists.mp ha.unicode
    have hl := inPlace path file relative hf hr
    by_cases hm : relative = releaseManifestFile
    · rw [hm, manifest_location] at hl
      exact .inl (hl (.inr rfl))
    · have hp := (same relative).mp ((hc relative).mpr ⟨path, file, hf, hr, hm⟩)
      have there := hl (.inl hp)
      obtain ⟨expected, he, rfl⟩ := (hv.signed relative hp).2
      obtain ⟨hst, hs, same⟩ :=
        (verifyReleaseFile_eq_ok.mp (hv.files expected he hp)).2
      have hfo : tree.root.find path = some (.file file) :=
        Node.find_of_mem_inside tree.distinct hf
      rw [← there, hfo] at hs
      cases hs
      exact .inr ⟨expected, he, hp, there, same⟩
  · intro expected he hp
    exact (verifyReleaseFile_eq_ok.mp (hv.files expected he hp)).2

/-- The files of an exact tree have no backslash in their names. -/
theorem ExactTree.slashed (exact : ExactTree crates tree release.claims paths)
    (claims : VerifiedClaims platform release.claims) (hf : (path, .file file) ∈ tree.root.inside)
    : ∀ name ∈ path, name.Slashed := by
  rcases exact.files path file hf with rfl | ⟨expected, he, _, rfl, _⟩
  · rw [← @manifest_location platform]
    exact location_slashed manifest_valid
  · exact location_slashed (claims.paths expected he).1

theorem ExactTree.inPlace (exact : ExactTree crates tree release.claims paths)
    (claims : VerifiedClaims platform release.claims)
    (signed : ∀ path ∈ paths, ∃ file ∈ release.claims.files, file.path = path)
    : tree.InPlace paths := by
  intro path file relative hf hr hp
  have valid : validRelativePath platform relative = true := by
    rcases hp with hp | rfl
    · obtain ⟨expected, he, rfl⟩ := signed relative hp
      exact (claims.paths expected he).1
    · exact manifest_valid
  exact (location_of_relativePath (Node.path_ne_nil hf) (tree.legal _ hf)
    (exact.slashed claims hf) hr valid).symm

theorem relativePath_isSome
    : (relativePath platform path).isSome ↔ ∀ name ∈ path, name.toStr.isSome := by
  have read : (relativePath platform path).isSome ↔ (path.mapM OsName.toStr).isSome := by
    unfold relativePath
    cases path.mapM OsName.toStr <;> simp
  rw [read]
  clear read
  induction path with
  | nil => simp
  | cons name rest ih =>
    rw [forall_mem_cons, mapM_cons]
    refine Iff.trans ?_ (and_congr_right fun _ => ih)
    cases name.toStr <;> cases rest.mapM OsName.toStr <;> simp

/-- An accepted tree that is exact has Unicode names only and paths without dots. -/
theorem Verified.unicode_and_dotFree (hv : Verified crates tree release.claims paths)
    (claims : VerifiedClaims platform release.claims)
    (exact : ExactTree crates tree release.claims paths)
    : tree.Unicode ∧ ∀ path ∈ paths, DotFree path := by
  obtain ⟨actual, hac, same⟩ := hv.collected
  obtain ⟨hacc, hc⟩ := visitAll_eq_ok hac
  refine ⟨fun entry he => relativePath_isSome.mp (hacc entry he).unicode, fun path hp => ?_⟩
  obtain ⟨place, file, hf, hr, _⟩ := (hc path).mp ((same path).mpr hp)
  exact dotFree_relativePath (Node.path_ne_nil hf) (tree.legal _ hf) (exact.slashed claims hf) hr

/-- An exact tree of Unicode names passes, if the paths have no dots. -/
theorem verified_of_exactTree (claims : VerifiedClaims platform release.claims)
    (unicode : tree.Unicode) (dotFree : ∀ path ∈ paths, DotFree path) (hn : paths ≠ [])
    (signed : ∀ path ∈ paths, ∃ file ∈ release.claims.files, file.path = path)
    (exact : ExactTree crates tree release.claims paths)
    : Verified crates tree release.claims paths := by
  have valid (path : String) (hp : path ∈ paths)
      : validRelativePath platform path = true ∧ path ≠ releaseManifestFile := by
    obtain ⟨file, hf, rfl⟩ := signed path hp
    exact claims.paths file hf
  have ht (path : String) (hp : path ∈ paths)
      : relativePath platform (location platform path) = some path :=
    relativePath_location (valid path hp).1 (dotFree path hp)
  -- a file with a text other than the name of the manifest is at a signed path
  have hs {path : List OsName} {file : RegularFile} {relative : String}
      (hf : (path, .file file) ∈ tree.root.inside) (hr : relativePath platform path = some relative)
      (hno : relative ≠ releaseManifestFile)
      : relative ∈ paths := by
    rcases exact.files path file hf with rfl | ⟨expected, _, hp, rfl, _⟩
    · have hm
          : relativePath platform [.unicode releaseManifestFile] = some releaseManifestFile := by
        cases platform <;> decide +kernel
      rw [hm] at hr
      cases hr
      exact absurd rfl hno
    · rw [ht expected.path hp] at hr
      cases hr
      exact hp
  have hac : ∀ entry ∈ tree.root.inside, Accepted platform entry.1 entry.2 := by
    intro entry he
    refine ⟨exact.ordinary entry he, relativePath_isSome.mpr (unicode entry he), ?_⟩
    intro file relative hf hr hno
    have hi : (entry.1, Node.file file) ∈ tree.root.inside := hf ▸ he
    exact (valid relative (hs hi hr hno)).1
  obtain ⟨actual, ha⟩ := visitAll_of_accepted hac
  have hco := (visitAll_eq_ok ha).2
  refine ⟨hn, fun path hp => ⟨(valid path hp).1, signed path hp⟩,
    ⟨actual, ha, fun path => ⟨?_, ?_⟩⟩, ?_⟩
  · intro hc
    obtain ⟨place, file, hf, hr, hno⟩ := (hco path).mp hc
    exact hs hf hr hno
  · intro hp
    obtain ⟨expected, hex, rfl⟩ := signed path hp
    obtain ⟨file, hf, _⟩ := exact.present expected hex hp
    have hpl : location platform expected.path ≠ [] := by
      intro none
      rw [none] at hf
      cases hf
    exact (hco _).mpr ⟨_, file, Node.mem_inside_of_find hpl hf, ht _ hp, (valid _ hp).2⟩
  · intro file hf hp
    exact verifyReleaseFile_eq_ok.mpr ⟨(claims.paths file hf).1, exact.present file hf hp⟩

/-- What holds of an accepted set of paths, and of an exact tree of them. -/
theorem verifyReleaseFiles_exact (claims : VerifiedClaims platform release.claims)
    (signed : ∀ path ∈ paths, ∃ file ∈ release.claims.files, file.path = path)
    : (verifyReleaseFiles platform crates tree.root release paths = .ok ()
        → (ExactTree crates tree release.claims paths ↔ tree.InPlace paths))
      ∧ (paths ≠ [] → ExactTree crates tree release.claims paths
        → (verifyReleaseFiles platform crates tree.root release paths = .ok ()
          ↔ tree.Unicode ∧ ∀ path ∈ paths, DotFree path)) := by
  rw [verifyReleaseFiles_eq_ok]
  refine ⟨fun hv => ⟨fun exact => exact.inPlace claims signed, fun inPlace =>
    exactTree_of_verified inPlace hv⟩, fun hn exact => ⟨fun hv =>
    hv.unicode_and_dotFree claims exact, fun ⟨unicode, dotFree⟩ =>
    verified_of_exactTree claims unicode dotFree hn signed exact⟩⟩

end

/-- A tree that is verified against a signed manifest holds exactly the signed files, or the
requested ones, just when no file elsewhere has the text of such a path; and an exact tree is
accepted just when its names are Unicode and the paths have no dots.
-/
theorem verified_tree_is_exact {Key : Type} {platform : Platform} (crates : ReleaseCrates Key)
    (trustedKeys : List (String × Key)) (data : List UInt8) (release : ReleaseDocument)
    (tree : DirectoryTree platform) (paths : List String)
    (verified : verify platform crates data trustedKeys = .ok release)
    : Signed crates trustedKeys release
      ∧ (verifyReleaseTree platform crates tree.root release = .ok ()
        → (ExactTree crates tree release.claims (release.claims.files.map (·.path))
          ↔ tree.InPlace (release.claims.files.map (·.path))))
      ∧ (verifyReleaseSubset platform crates tree.root release paths = .ok ()
        → paths ≠ [] ∧ (∀ path ∈ paths, ∃ file ∈ release.claims.files, file.path = path)
          ∧ (ExactTree crates tree release.claims paths ↔ tree.InPlace paths))
      ∧ (ExactTree crates tree release.claims (release.claims.files.map (·.path))
        → (verifyReleaseTree platform crates tree.root release = .ok ()
          ↔ tree.Unicode ∧ ∀ file ∈ release.claims.files, DotFree file.path))
      ∧ (paths ≠ [] → (∀ path ∈ paths, ∃ file ∈ release.claims.files, file.path = path)
        → ExactTree crates tree release.claims paths
        → (verifyReleaseSubset platform crates tree.root release paths = .ok ()
          ↔ tree.Unicode ∧ ∀ path ∈ paths, DotFree path)) := by
  obtain ⟨hs, claims⟩ := verify_eq_ok verified
  have all (path : String) (hp : path ∈ release.claims.files.map (·.path))
      : ∃ file ∈ release.claims.files, file.path = path :=
    mem_map.mp hp
  refine ⟨hs, (verifyReleaseFiles_exact claims all).1, ?_, ?_, ?_⟩
  · intro hv
    have hfo := verifyReleaseFiles_eq_ok.mp hv
    have signed (path : String) (hp : path ∈ paths) := (hfo.signed path hp).2
    exact ⟨hfo.nonempty, signed, (verifyReleaseFiles_exact claims signed).1 hv⟩
  · intro exact
    rw [← forall_mem_map]
    exact (verifyReleaseFiles_exact claims all).2
      (fun none => claims.nonempty (map_eq_nil_iff.mp none)) exact
  · intro hn signed exact
    exact (verifyReleaseFiles_exact claims signed).2 hn exact

/-- Stand-ins for the other crates: one manifest is read, every signature is good, and the
digest is a checksum.
-/
def sampleCrates (document : ReleaseDocument) : ReleaseCrates Unit where
  parsesVersion _ := true
  parseRfc3339 _ :=
    some ⟨⟨2026, 8, 28, 11, 22, 33, 444000000, by decide, by decide, by decide, by decide,
      by decide, by decide⟩, true⟩
  decodeExact _ := .ok document
  decodeBase64 _ := some (List.replicate 64 0)
  verifySignature _ _ _ := true
  sha256 content := List.replicate 31 0 ++ [content.foldl (· + ·) 0]

def sampleRelease (path : String) : ReleaseDocument where
  claims :=
    { schema := releaseSchema
      keyId := "release-test-01"
      product := "aster-team"
      version := "1.0.0"
      platform := "linux"
      architecture := "amd64"
      runtime := "musl-static"
      createdAt := "2026-08-28T11:22:33.444Z"
      files := [⟨path, 2,
        "0000000000000000000000000000000000000000000000000000000000000003", true⟩] }
  signature := ""

def sampleKeys : List (String × Unit) := [("release-test-01", ())]

def sampleBin : OsName × Tree :=
  (.unicode "bin", .directory [(.unicode "tool", .file ⟨[1, 2], 0o755⟩)])

def sampleTree : DirectoryTree .unix where
  entries := [sampleBin]
  distinct := by simp [sampleBin, Node.Distinct, Node.DistinctEntries]
  legal := by simp [sampleBin, Node.inEntries, Node.inside, OsName.Legal]

theorem sampleTree_inside
    : sampleTree.root.inside
      = [([.unicode "bin"], sampleBin.2),
        ([.unicode "bin", .unicode "tool"], .file ⟨[1, 2], 0o755⟩)] := by
  rfl

theorem sample_tree_exact
    : verify .unix (sampleCrates (sampleRelease "bin/tool")) [] sampleKeys
        = .ok (sampleRelease "bin/tool")
      ∧ sampleTree.InPlace ["bin/tool"]
      ∧ verifyReleaseTree .unix (sampleCrates (sampleRelease "bin/tool")) sampleTree.root
          (sampleRelease "bin/tool") = .ok ()
      ∧ ExactTree (sampleCrates (sampleRelease "bin/tool")) sampleTree
          (sampleRelease "bin/tool").claims ["bin/tool"] := by
  have hv
      : verify .unix (sampleCrates (sampleRelease "bin/tool")) [] sampleKeys
        = .ok (sampleRelease "bin/tool") := by
    decide +kernel
  have inPlace : sampleTree.InPlace ["bin/tool"] := by
    unfold DirectoryTree.InPlace
    rw [sampleTree_inside]
    intro path file relative hf hr hp
    rcases mem_cons.mp hf with same | hf
    · cases same
    cases mem_singleton.mp hf
    have text : relativePath .unix [.unicode "bin", .unicode "tool"] = some "bin/tool" := by
      decide +kernel
    rw [text] at hr
    cases hr
    decide +kernel
  have ha
      : verifyReleaseTree .unix (sampleCrates (sampleRelease "bin/tool")) sampleTree.root
          (sampleRelease "bin/tool") = .ok () := by
    decide +kernel
  exact ⟨hv, inPlace, ha,
    ((verified_tree_is_exact _ sampleKeys [] _ sampleTree [] hv).2.1 ha).mpr inPlace⟩

/-- Beside the signed file there is one whose name reads as its path. -/
def sampleCrowded : DirectoryTree .unix where
  entries := [sampleBin, (.unicode "bin\\tool", .file ⟨[9, 9, 9], 0o755⟩)]
  distinct := by simp [sampleBin, Node.Distinct, Node.DistinctEntries]
  legal := by simp [sampleBin, Node.inEntries, Node.inside, OsName.Legal]

/-- A file that is not signed is in a verified tree, and a tree whose manifest has a dot in
its path is refused although it is exact.
-/
theorem unsigned_file_in_verified_tree
    : (verify .unix (sampleCrates (sampleRelease "bin/tool")) [] sampleKeys
        = .ok (sampleRelease "bin/tool")
      ∧ verifyReleaseTree .unix (sampleCrates (sampleRelease "bin/tool")) sampleCrowded.root
          (sampleRelease "bin/tool") = .ok ()
      ∧ ([.unicode "bin\\tool"], .file ⟨[9, 9, 9], 0o755⟩) ∈ sampleCrowded.root.inside
      ∧ ¬ ExactTree (sampleCrates (sampleRelease "bin/tool")) sampleCrowded
          (sampleRelease "bin/tool").claims ["bin/tool"])
      ∧ verify .unix (sampleCrates (sampleRelease "bin/./tool")) [] sampleKeys
        = .ok (sampleRelease "bin/./tool")
      ∧ ExactTree (sampleCrates (sampleRelease "bin/./tool")) sampleTree
          (sampleRelease "bin/./tool").claims ["bin/./tool"]
      ∧ verifyReleaseTree .unix (sampleCrates (sampleRelease "bin/./tool")) sampleTree.root
          (sampleRelease "bin/./tool") = .error (.treeMismatch "bin/./tool") := by
  have hi
      : ([.unicode "bin\\tool"], .file ⟨[9, 9, 9], 0o755⟩) ∈ sampleCrowded.root.inside :=
    mem_cons_of_mem _ (mem_cons_of_mem _ mem_cons_self)
  refine ⟨⟨by decide +kernel, by decide +kernel, hi, ?_⟩, by decide +kernel, ?_,
    by decide +kernel⟩
  · intro exact
    rcases exact.files _ _ hi with same | ⟨expected, hex, _, hp, _⟩
    · exact absurd same (by decide)
    · rw [mem_singleton.mp hex] at hp
      exact absurd hp (by decide +kernel)
  · have hp
        : location .unix "bin/./tool" = [OsName.unicode "bin", .unicode "tool"] := by
      decide +kernel
    have hf
        : FileMatches .unix (sampleCrates (sampleRelease "bin/./tool"))
            ⟨"bin/./tool", 2,
              "0000000000000000000000000000000000000000000000000000000000000003", true⟩
            ⟨[1, 2], 0o755⟩ :=
      ⟨by decide, by decide +kernel, fun _ => by decide⟩
    refine ⟨?_, ?_, ?_⟩
    · rw [sampleTree_inside]
      intro entry he
      rcases mem_cons.mp he with rfl | he
      · trivial
      · rw [mem_singleton.mp he]
        trivial
    · rw [sampleTree_inside]
      intro path file he
      rcases mem_cons.mp he with same | he
      · cases same
      · cases mem_singleton.mp he
        exact .inr ⟨_, mem_cons_self, mem_cons_self, hp.symm, hf⟩
    · intro expected hex _
      rw [mem_singleton.mp hex]
      exact ⟨⟨[1, 2], 0o755⟩, by rw [hp]; rfl, hf⟩

end AsterTeam.ReleaseCore
