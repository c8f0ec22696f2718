import RouteDoc.Proofs.Files.Listing
import RouteDoc.Proofs.Outcome
import RouteDoc.Source.Discovery

/-! The routes of a directory. Its source files are read in the one order that their names have,
part by part, whatever the order in which they are listed; the first one at fault stops the reading;
and what the directory gives without those below it, it gives with them too, in the same order. -/

namespace RouteDoc.Source

open FileTree

/-- A source file of a directory: what stands below it under a name that ends as those of source
files do, and right in it unless deeper ones count too. -/
inductive IsSource (tree : FileTree) (directory : FileName) (recursive : Bool) : FileName → Prop
  | below {place parts : List Text} {stem : Text} :
    tree.place directory = .ok place → tree.isDirectory place = true →
    tree.Holds (place ++ parts) → Descends parts → (recursive = false → parts.length = 1) →
    parts.getLast? = some (stem ++ ".py".toList) →
    IsSource tree directory recursive (directory.append parts)

variable {tree : FileTree} {directory : FileName} {recursive : Bool}

/-! ### The names -/

theorem isMatch_eq_true_iff {parts : List Text} : isMatch recursive parts = true ↔
    (recursive = false → parts.length = 1) ∧
      ∃ stem, parts.getLast? = some (stem ++ ".py".toList) := by
  have hending : (parts.getLast?.any (ending.isSuffixOf ·)) = true ↔
      ∃ stem, parts.getLast? = some (stem ++ ".py".toList) := by
    cases parts.getLast? with
    | none => simp
    | some last =>
      simp only [Option.any_some, List.isSuffixOf_iff_suffix, Option.some.injEq]
      exact exists_congr fun stem => eq_comm
  rw [isMatch, Bool.and_eq_true, hending]
  cases recursive <;> simp

theorem mem_filesOf_iff {name : FileName} :
    name ∈ filesOf tree directory recursive ↔ IsSource tree directory recursive name := by
  unfold filesOf
  constructor
  · intro h
    split at h
    · exact nomatch h
    · next place hplace =>
      split at h
      · next hdirectory =>
        rw [List.mem_mergeSort, List.mem_map] at h
        obtain ⟨parts, hparts, rfl⟩ := h
        obtain ⟨hbelow, hmatch⟩ := List.mem_filter.mp hparts
        obtain ⟨hholds, hdescends⟩ := mem_below_iff.mp hbelow
        obtain ⟨hdepth, stem, hstem⟩ := isMatch_eq_true_iff.mp hmatch
        exact .below hplace hdirectory hholds hdescends hdepth hstem
      · exact nomatch h
  · rintro ⟨hplace, hdirectory, hholds, hdescends, hdepth, hstem⟩
    rw [hplace]
    simp only [hdirectory, if_true, List.mem_mergeSort]
    refine List.mem_map_of_mem (List.mem_filter.mpr ⟨mem_below_iff.mpr ⟨hholds, hdescends⟩, ?_⟩)
    exact isMatch_eq_true_iff.mpr ⟨hdepth, _, hstem⟩

theorem nodup_filesOf : (filesOf tree directory recursive).Nodup := by
  unfold filesOf
  split
  · exact .nil
  · split
    · rw [(List.mergeSort_perm _ _).nodup_iff]
      refine List.Nodup.map (fun parts parts' h => ?_) ((nodup_below _ _).filter _)
      exact List.append_cancel_left (congrArg FileName.parts h)
    · exact .nil

/-- The names of the files of a directory all start where its own does, so their parts tell them
apart. -/
theorem eq_of_parts {a b : FileName} (ha : a ∈ filesOf tree directory recursive)
    (hb : b ∈ filesOf tree directory recursive) (h : a.parts = b.parts) : a = b := by
  cases mem_filesOf_iff.mp ha
  cases mem_filesOf_iff.mp hb
  rw [List.append_cancel_left h]

theorem pairwise_le_filesOf :
    (filesOf tree directory recursive).Pairwise fun a b => a.le b = true := by
  unfold filesOf
  split
  · exact .nil
  · split
    · exact List.pairwise_mergeSort FileName.le_trans FileName.le_total _
    · exact .nil

theorem pairwise_filesOf :
    (filesOf tree directory recursive).Pairwise fun a b => a.parts < b.parts := by
  refine (pairwise_le_filesOf.and nodup_filesOf).imp_of_mem fun ha hb h => ?_
  exact (FileName.le_eq_true_iff.mp h.1).resolve_left fun hparts => h.2 (eq_of_parts ha hb hparts)

instance : Std.Irrefl fun a b : FileName => a.parts < b.parts := ⟨fun a => List.lt_irrefl a.parts⟩

instance : Std.Antisymm fun a b : FileName => a.parts < b.parts :=
  ⟨fun _ _ hab hba => absurd hba (List.lt_asymm hab)⟩

/-- There is one list of the source files in their order. -/
theorem filesOf_unique {names : List FileName}
    (sorted : names.Pairwise fun a b => a.parts < b.parts)
    (sources : ∀ name, name ∈ names ↔ IsSource tree directory recursive name) :
    filesOf tree directory recursive = names :=
  pairwise_filesOf.eq_of_mem_iff sorted fun name => mem_filesOf_iff.trans (sources name).symm

theorem mergeSort_eq_filesOf {listed : List FileName}
    (h : listed.Perm (filesOf tree directory recursive)) :
    listed.mergeSort FileName.le = filesOf tree directory recursive := by
  have hperm := (List.mergeSort_perm listed FileName.le).trans h
  refine hperm.eq_of_pairwise (fun a b ha hb hab hba => ?_)
    (List.pairwise_mergeSort FileName.le_trans FileName.le_total listed) pairwise_le_filesOf
  exact eq_of_parts (hperm.mem_iff.mp ha) hb (FileName.parts_eq_of_le_of_le hab hba)

theorem filesOf_sublist :
    List.Sublist (filesOf tree directory false) (filesOf tree directory true) := by
  refine List.sublist_of_subperm_of_pairwise (List.subperm_of_subset nodup_filesOf ?_)
    pairwise_filesOf pairwise_filesOf
  intro name hname
  obtain ⟨hplace, hdirectory, hholds, hdescends, -, hstem⟩ := mem_filesOf_iff.mp hname
  exact mem_filesOf_iff.mpr (.below hplace hdirectory hholds hdescends nofun hstem)

/-! ### The routes -/

theorem name_of_routesOfFile {name : FileName} {failure : FileFailure}
    (h : routesOfFile tree name = .error failure) : failure.name = name.toText := by
  unfold routesOfFile routesNamed at h
  split at h
  · cases h
    rfl
  · next text _ =>
    cases hroutes : routes text with
    | ok found => simp [hroutes, Except.mapError] at h
    | error fault =>
      simp only [hroutes, Except.mapError, Except.error.injEq] at h
      rw [← h]

theorem routesOfDirectory_eq_ok_iff {found : List Route} :
    routesOfDirectory tree directory recursive = .ok found ↔
      ∃ parts, List.Forall₂ (fun name part => routesOfFile tree name = .ok part)
        (filesOf tree directory recursive) parts ∧ parts.flatten = found := by
  simp only [routesOfDirectory, bind_eq_ok_iff, mapM_eq_ok_iff, pure, Except.pure,
    Except.ok.injEq]

theorem routesOfDirectory_eq_error_iff {failure : FileFailure} :
    routesOfDirectory tree directory recursive = .error failure ↔ ∃ before name after,
      filesOf tree directory recursive = before ++ name :: after ∧
      (∀ earlier ∈ before, ∃ part, routesOfFile tree earlier = .ok part) ∧
      routesOfFile tree name = .error failure := by
  simp only [routesOfDirectory, bind_eq_error_iff, mapM_eq_error_iff, pure, Except.pure,
    reduceCtorEq, and_false, exists_false, or_false]

theorem routesOfDirectory_of_same {other : FileTree} (h : Same tree other) :
    routesOfDirectory other directory recursive = routesOfDirectory tree directory recursive := by
  have hsource : ∀ name, IsSource other directory recursive name ↔
      IsSource tree directory recursive name := by
    intro name
    constructor
    · rintro ⟨hplace, hdirectory, hholds, hdescends, hdepth, hstem⟩
      exact .below (h.place_eq directory ▸ hplace) (h.isDirectory _ ▸ hdirectory)
        ((h.holds _).mp hholds) hdescends hdepth hstem
    · rintro ⟨hplace, hdirectory, hholds, hdescends, hdepth, hstem⟩
      exact .below ((h.place_eq directory).trans hplace) ((h.isDirectory _).trans hdirectory)
        ((h.holds _).mpr hholds) hdescends hdepth hstem
  have hfiles : filesOf other directory recursive = filesOf tree directory recursive :=
    filesOf_unique pairwise_filesOf fun name => mem_filesOf_iff.trans (hsource name).symm
  have hfile : routesOfFile other = routesOfFile tree := by
    funext name
    rw [routesOfFile, routesOfFile, h.readText_eq]
  rw [routesOfDirectory, routesOfDirectory, hfiles, hfile]

/-- The routes of a directory do not depend on the order in which its files are listed: trees with
the same files give the same, and any listing of the source files is put in one order, that of their
names part by part. In that order the routes of the files are put together; the reading fails
exactly when a file does, and with the failure of the first one, under its name. What a reading with
the files below gives holds what the one without them gives, in the same order. -/
theorem routesOfDirectory_in_order (tree : FileTree) (directory : FileName) :
    ((tree.files.map (·.1)).Nodup → ∀ other : FileTree, other.files.Perm tree.files →
      other.directories.Perm tree.directories → ∀ recursive,
      routesOfDirectory other directory recursive = routesOfDirectory tree directory recursive) ∧
    (∀ recursive, ∃ names : List FileName,
      names.Pairwise (fun a b => a.parts < b.parts) ∧
      (∀ name, name ∈ names ↔ IsSource tree directory recursive name) ∧
      (∀ listed : List FileName, listed.Perm names → listed.mergeSort FileName.le = names) ∧
      (∀ found, routesOfDirectory tree directory recursive = .ok found ↔
        ∃ parts, List.Forall₂ (fun name part => routesOfFile tree name = .ok part) names parts ∧
          parts.flatten = found) ∧
      (∀ failure, routesOfDirectory tree directory recursive = .error failure ↔
        ∃ before name after, names = before ++ name :: after ∧
          (∀ earlier ∈ before, ∃ part, routesOfFile tree earlier = .ok part) ∧
          routesOfFile tree name = .error failure ∧ failure.name = name.toText)) ∧
    ∀ found, routesOfDirectory tree directory true = .ok found →
      ∃ shallow, routesOfDirectory tree directory false = .ok shallow ∧
        List.Sublist shallow found := by
  refine ⟨fun once other hfiles hdirectories recursive => ?_, fun recursive => ?_,
    fun found h => ?_⟩
  · exact routesOfDirectory_of_same (.of_perm once hfiles hdirectories)
  · refine ⟨filesOf tree directory recursive, pairwise_filesOf, fun name => mem_filesOf_iff,
      fun listed => mergeSort_eq_filesOf, fun found => routesOfDirectory_eq_ok_iff,
      fun failure => routesOfDirectory_eq_error_iff.trans ?_⟩
    refine exists₃_congr fun before name after => and_congr_right' (and_congr_right' ?_)
    exact (and_iff_left_of_imp name_of_routesOfFile).symm
  · obtain ⟨parts, hparts, rfl⟩ := routesOfDirectory_eq_ok_iff.mp h
    obtain ⟨fewer, hfewer, hsub⟩ := exists_forall₂_of_sublist filesOf_sublist hparts
    exact ⟨fewer.flatten, routesOfDirectory_eq_ok_iff.mpr ⟨fewer, hfewer, rfl⟩, hsub.flatten⟩

/-- A file beside a directory whose name is the start of its own, each with one route. -/
def neighbours : FileTree where
  files := [(["a".toList, "b.py".toList], Text.toUtf8 "# @router /b get\n".toList),
    (["a.py".toList], Text.toUtf8 "# @router /a get\n".toList)]

theorem routesOfDirectory_neighbours :
    ∃ found : List Route, found.map (·.path) = ["/b".toList, "/a".toList] ∧
      routesOfDirectory { files := neighbours.files.reverse } {} true = .ok found ∧
      ∃ shallow, routesOfDirectory neighbours {} false = .ok shallow ∧
        List.Sublist shallow found := by
  have hfile : ∀ name t line route, neighbours.readText name = .ok t →
      comments? t = some [⟨1, line, true⟩] → Grammar.statements? t = some [] →
      Route.ofComment [line] = .ok route → Route.isDeclaredBy [line] = true →
      routesOfFile neighbours name = .ok [route] := by
    intro name t line route htext hcomments hstatements hread hdeclared
    have hgroups : groups? t = some [⟨1, [line]⟩] := by
      have hblocks : Group.ofComments [⟨1, line, true⟩] = [⟨1, [line]⟩] := rfl
      simp [groups?, hcomments, hstatements, hblocks, Docstring.ofModule, Docstring.ofBody?,
        Docstring.ofStatements, inOrder]
    simp [routesOfFile, htext, routesNamed, routes, hgroups, routesOf, hread, hdeclared]
    rfl
  have hb := hfile ⟨false, ["a".toList, "b.py".toList]⟩ "# @router /b get\n".toList
    "# @router /b get".toList { path := "/b".toList, method := "GET".toList }
    (by rfl) (by rfl) (by rfl) (by rfl) (by decide)
  have ha := hfile ⟨false, ["a.py".toList]⟩ "# @router /a get\n".toList
    "# @router /a get".toList { path := "/a".toList, method := "GET".toList }
    (by rfl) (by rfl) (by rfl) (by rfl) (by decide)
  have hfiles : filesOf neighbours {} true =
      [⟨false, ["a".toList, "b.py".toList]⟩, ⟨false, ["a.py".toList]⟩] :=
    List.mergeSort_of_pairwise (by decide)
  obtain ⟨found, hpaths, hfound⟩ : ∃ found : List Route,
      found.map (·.path) = ["/b".toList, "/a".toList] ∧
        routesOfDirectory neighbours {} true = .ok found := by
    refine ⟨[{ path := "/b".toList, method := "GET".toList },
      { path := "/a".toList, method := "GET".toList }], rfl,
      routesOfDirectory_eq_ok_iff.mpr ⟨[[_], [_]], ?_, rfl⟩⟩
    rw [hfiles]
    exact .cons hb (.cons ha .nil)
  obtain ⟨relisted, -, nested⟩ := routesOfDirectory_in_order neighbours {}
  have hreversed := relisted (by decide) { files := neighbours.files.reverse }
    (List.reverse_perm _) (.refl _) true
  exact ⟨found, hpaths, hreversed.trans hfound, nested found hfound⟩

end RouteDoc.Source
