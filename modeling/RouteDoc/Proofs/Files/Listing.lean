import Mathlib.Data.List.Flatten
import Mathlib.Data.List.Nodup
import Mathlib.Data.List.Sort
import RouteDoc.Files.Tree
import RouteDoc.Proofs.Entries

/-! Listings of a tree of files. What is below a directory, and what a name leads to, depends on the
files and directories that there are and not on the order in which they are listed; and the order of
names is the lexicographic one of their parts. -/

namespace RouteDoc

/-! ### The order of names -/

/-- The order of lists is the lexicographic one of the strict order of their items. -/
theorem lexLe_eq_true_iff {α : Type} [DecidableEq α] {le : α → α → Bool} {lt : α → α → Prop}
    (strict : ∀ a b, a ≠ b → (le a b = true ↔ lt a b)) (irrefl : ∀ a, ¬lt a a) {s t : List α} :
    lexLe le s t = true ↔ s = t ∨ List.Lex lt s t := by
  induction s generalizing t with
  | nil => cases t <;> simp [lexLe]
  | cons a s ih =>
    cases t with
    | nil => simp [lexLe]
    | cons b t =>
      rw [lexLe, List.cons_lex_cons_iff]
      by_cases hab : a = b
      · subst hab
        simp [ih, irrefl a]
      · simp [hab, strict a b hab]

theorem Text.le_eq_true_iff {s t : Text} : Text.le s t = true ↔ s = t ∨ s < t := by
  refine lexLe_eq_true_iff (fun c d hne => ?_) Char.lt_irrefl
  have hnat : c.toNat ≠ d.toNat := fun h => hne (Char.toNat_inj.mp h)
  rw [Text.charLe, decide_eq_true_eq, Char.lt_def, UInt32.lt_iff_toNat_lt]
  exact (Nat.le_iff_lt_or_eq.trans (or_iff_left hnat))

theorem FileName.le_eq_true_iff {a b : FileName} :
    a.le b = true ↔ a.parts = b.parts ∨ a.parts < b.parts := by
  refine lexLe_eq_true_iff (fun s t hne => ?_) fun s => List.lt_irrefl s
  rw [Text.le_eq_true_iff, or_iff_right hne]

namespace FileTree

variable {tree other : FileTree} {place parts : List Text}

/-! ### What there is -/

/-- There is a file or a directory at a place. -/
def Holds (tree : FileTree) (place : List Text) : Prop :=
  tree.isDirectory place = true ∨ (tree.bytes? place).isSome

theorem holds_iff (hne : place ≠ []) :
    tree.Holds place ↔ ∃ listed ∈ tree.files.map (·.1) ++ tree.directories, place <+: listed := by
  have hempty : place.isEmpty = false := by simpa using hne
  simp only [Holds, isDirectory, hempty, Bool.false_or, Bool.or_eq_true, List.any_eq_true,
    bytes?, List.lookup_isSome_iff, List.isPrefixOf_iff_prefix, Bool.and_eq_true, bne_iff_ne,
    beq_iff_eq, List.mem_append, List.mem_map]
  constructor
  · rintro ((⟨listed, hmem, hstart⟩ | ⟨file, hmem, hstart, -⟩) | ⟨file, hmem, heq⟩)
    · exact ⟨listed, .inr hmem, hstart⟩
    · exact ⟨file.1, .inl ⟨file, hmem, rfl⟩, hstart⟩
    · exact ⟨file.1, .inl ⟨file, hmem, rfl⟩, heq ▸ List.prefix_rfl⟩
  · rintro ⟨listed, ⟨file, hmem, rfl⟩ | hmem, hstart⟩
    · by_cases heq : place = file.1
      · exact .inr ⟨file, hmem, heq⟩
      · exact .inl (.inr ⟨file, hmem, hstart, heq⟩)
    · exact .inl (.inl ⟨listed, hmem, hstart⟩)

theorem mem_places_iff : place ∈ tree.places ↔ place ≠ [] ∧ tree.Holds place := by
  rw [places, List.mem_eraseDups, List.mem_flatMap]
  constructor
  · rintro ⟨listed, hmem, hplace⟩
    obtain ⟨n, hn, rfl⟩ := List.mem_map.mp hplace
    have hne : listed.take (n + 1) ≠ [] := by
      have hpos : 0 < listed.length := Nat.zero_lt_of_lt (List.mem_range.mp hn)
      simpa using List.length_pos_iff.mp hpos
    exact ⟨hne, (holds_iff hne).mpr ⟨listed, hmem, List.take_prefix _ _⟩⟩
  · rintro ⟨hne, hholds⟩
    obtain ⟨listed, hmem, hstart⟩ := (holds_iff hne).mp hholds
    have hpos : 0 < place.length := List.length_pos_iff.mpr hne
    refine ⟨listed, hmem, List.mem_map.mpr ⟨place.length - 1, ?_, ?_⟩⟩
    · have := hstart.length_le
      exact List.mem_range.mpr (by omega)
    · rw [Nat.sub_add_cancel hpos]
      exact (List.prefix_iff_eq_take.mp hstart).symm

/-- The root of all files, and what stands above the place where names begin, are below no
directory. -/
def Descends (parts : List Text) : Prop :=
  ∃ part rest, parts = part :: rest ∧ part ≠ FileName.root ∧ part ≠ FileName.above

/-- The way from a place down to another one. -/
def wayDown? (place other : List Text) : Option (List Text) :=
  match other.drop place.length with
  | [] => none
  | part :: parts =>
    if place.isPrefixOf other && part ≠ FileName.root && part ≠ FileName.above then
      some (part :: parts)
    else none

theorem below_eq (tree : FileTree) (place : List Text) :
    tree.below place = tree.places.filterMap (wayDown? place) := rfl

theorem wayDown?_eq_some_iff {listed : List Text} :
    wayDown? place listed = some parts ↔ listed = place ++ parts ∧ Descends parts := by
  constructor
  · intro h
    unfold wayDown? at h
    split at h
    · exact nomatch h
    · next part rest hdrop =>
      split at h
      · next hbelow =>
        obtain rfl := Option.some.inj h
        simp only [Bool.and_eq_true, decide_eq_true_eq, List.isPrefixOf_iff_prefix] at hbelow
        obtain ⟨⟨hstart, hroot⟩, habove⟩ := hbelow
        refine ⟨?_, part, rest, rfl, hroot, habove⟩
        rw [← hdrop]
        exact (List.prefix_iff_eq_append.mp hstart).symm
      · exact nomatch h
  · rintro ⟨rfl, part, rest, rfl, hroot, habove⟩
    simp [wayDown?, hroot, habove, List.isPrefixOf_iff_prefix]

theorem mem_below_iff :
    parts ∈ tree.below place ↔ tree.Holds (place ++ parts) ∧ Descends parts := by
  rw [below_eq, List.mem_filterMap]
  constructor
  · rintro ⟨listed, hmem, h⟩
    obtain ⟨rfl, hdescends⟩ := wayDown?_eq_some_iff.mp h
    exact ⟨(mem_places_iff.mp hmem).2, hdescends⟩
  · rintro ⟨hholds, hdescends⟩
    refine ⟨place ++ parts, mem_places_iff.mpr ⟨?_, hholds⟩,
      wayDown?_eq_some_iff.mpr ⟨rfl, hdescends⟩⟩
    obtain ⟨part, rest, rfl, -⟩ := hdescends
    simp

theorem nodup_below (tree : FileTree) (place : List Text) : (tree.below place).Nodup := by
  refine List.Nodup.filterMap (fun listed other parts h h' => ?_) (nodup_eraseDups _)
  obtain ⟨rfl, -⟩ := wayDown?_eq_some_iff.mp h
  exact (wayDown?_eq_some_iff.mp h').1.symm

/-! ### The same files in another order -/

/-- Two trees have the same files and the same directories, however these are listed. -/
structure Same (tree other : FileTree) : Prop where
  bytes? : ∀ place, other.bytes? place = tree.bytes? place
  isDirectory : ∀ place, other.isDirectory place = tree.isDirectory place

/-- A file that is listed once is found wherever it is listed. -/
theorem lookup_eq_some_iff {files : List (List Text × List UInt8)}
    (once : (files.map (·.1)).Nodup) {place : List Text} {bytes : List UInt8} :
    files.lookup place = some bytes ↔ (place, bytes) ∈ files := by
  induction files with
  | nil => simp
  | cons file files ih =>
    obtain ⟨hfresh, hrest⟩ := List.nodup_cons.mp once
    rw [List.lookup_cons]
    by_cases hplace : place = file.1
    · subst hplace
      simp only [beq_self_eq_true, Option.some.injEq, List.mem_cons, Prod.ext_iff, true_and]
      constructor
      · rintro rfl
        exact .inl rfl
      · rintro (h | h)
        · exact h.symm
        · exact absurd (List.mem_map_of_mem h) hfresh
    · rw [beq_false_of_ne hplace, ih hrest]
      simp [hplace, Prod.ext_iff]

theorem Same.of_perm (once : (tree.files.map (·.1)).Nodup) (files : other.files.Perm tree.files)
    (directories : other.directories.Perm tree.directories) : Same tree other where
  bytes? place := by
    have honce : (other.files.map (·.1)).Nodup := ((files.map _).nodup_iff).mpr once
    ext bytes
    rw [FileTree.bytes?, FileTree.bytes?, lookup_eq_some_iff once, lookup_eq_some_iff honce,
      files.mem_iff]
  isDirectory place := by
    simp only [FileTree.isDirectory, files.any_eq, directories.any_eq]

namespace Same

theorem holds (h : Same tree other) (place : List Text) :
    other.Holds place ↔ tree.Holds place := by
  rw [Holds, Holds, h.bytes?, h.isDirectory]

theorem place_eq (h : Same tree other) (name : FileName) : other.place name = tree.place name := by
  have hstep : other.step = tree.step := by
    funext place part
    rw [step, step, h.bytes?, h.isDirectory]
  rw [FileTree.place, FileTree.place, placeOf, placeOf, hstep]

theorem readText_eq (h : Same tree other) (name : FileName) :
    other.readText name = tree.readText name := by
  simp only [FileTree.readText, FileTree.read, h.place_eq, h.bytes?, h.isDirectory]

end Same

end FileTree

end RouteDoc
