import MarkupLint.CommandLine.Files
import MarkupLint.Proofs.PathOrder
import Mathlib.Data.List.Forall2
import Mathlib.Data.List.Perm.Basic

/-!
# The files to lint do not depend on how they are asked for

Operands stand for a set of paths.  The files to lint are this set in the order of paths, with one
spelling for each path, so the order and repetition of the operands and the order in which the
entries of a directory are found make no difference, nor do entries and operands that stand for
nothing.
-/

namespace MarkupLint.CommandLine.FileView

/-- The paths that operands stand for. -/
inductive IsSelected (view : FileView) (operands : List Path) : Path → Prop
  | operand {path : Path} (given : path ∈ operands) (single : view.isDirectory path = false)
      (supported : view.supports path = true) : IsSelected view operands path
  | entry {directory : Path} {found : FileTree.Found} (given : directory ∈ operands)
      (folder : view.isDirectory directory = true) (walked : .ok found ∈ view.walk directory)
      (regular : found.isFile = true) (supported : view.supports found.path = true) :
      IsSelected view operands found.path

/-- How files are told from the paths that operands stand for. -/
structure Lists (view : FileView) (operands files : List Path) : Prop where
  ascending : files.Pairwise Path.Before
  distinct : files.Pairwise fun first second => ¬ first.same second
  selected : ∀ file ∈ files, view.IsSelected operands file
  present_iff : ∀ path, (∃ file ∈ files, file.same path) ↔
    ∃ other, view.IsSelected operands other ∧ other.same path

section Repetition

variable {paths : List Path}

theorem dropRepeated_sublist (paths : List Path) : (dropRepeated paths).Sublist paths := by
  fun_induction dropRepeated paths with
  | case1 first second rest repeats ih =>
      exact ih.trans ((List.sublist_cons_self second rest).cons_cons first)
  | case2 first second rest differs ih => exact ih.cons_cons first
  | case3 paths => exact List.Sublist.refl paths

/-- Of equal neighbours one stays. -/
theorem exists_same_mem_dropRepeated {path : Path} (inside : path ∈ paths) :
    ∃ file ∈ dropRepeated paths, file.same path := by
  fun_induction dropRepeated paths generalizing path with
  | case1 first second rest repeats ih =>
      rcases List.mem_cons.mp inside with rfl | later
      · exact ih List.mem_cons_self
      rcases List.mem_cons.mp later with rfl | later
      · obtain ⟨file, kept, alike⟩ := ih List.mem_cons_self
        exact ⟨file, kept, Path.same_trans alike repeats⟩
      · exact ih (List.mem_cons_of_mem _ later)
  | case2 first second rest differs ih =>
      rcases List.mem_cons.mp inside with rfl | later
      · exact ⟨path, List.mem_cons_self, path.same_refl⟩
      · obtain ⟨file, kept, alike⟩ := ih later
        exact ⟨file, List.mem_cons_of_mem _ kept, alike⟩
  | case3 paths => exact ⟨path, inside, path.same_refl⟩

/-- Without equal neighbours an ascending list ascends strictly. -/
theorem pairwise_dropRepeated (ordered : paths.Pairwise fun first second => first.atMost second) :
    (dropRepeated paths).Pairwise Path.Before := by
  fun_induction dropRepeated paths with
  | case1 first second rest repeats ih =>
      exact ih (ordered.sublist ((List.sublist_cons_self second rest).cons_cons first))
  | case2 first second rest differs ih =>
      obtain ⟨below, ordered⟩ := List.pairwise_cons.mp ordered
      refine List.pairwise_cons.mpr ⟨?_, ih ordered⟩
      have next : first.Before second :=
        (Path.atMost_iff.mp (below second List.mem_cons_self)).resolve_right differs
      intro path kept
      have inside : path ∈ second :: rest := (dropRepeated_sublist _).subset kept
      rcases List.mem_cons.mp inside with rfl | later
      · exact next
      -- All later paths are at least the second one, which is above the first.
      have above := (List.pairwise_cons.mp ordered).1 path later
      rcases Path.atMost_iff.mp above with higher | alike
      · exact next.trans higher
      · rw [Path.Before, ← Path.same_iff.mp alike]
        exact next
  | case3 paths ends =>
      rcases paths with _ | ⟨path, _ | ⟨second, rest⟩⟩
      · exact List.Pairwise.nil
      · exact List.pairwise_singleton _ path
      · exact (ends path second rest rfl).elim

end Repetition

section Selection

variable {view : FileView} {operands : List Path}

theorem mem_expand_iff {operand path : Path} :
    path ∈ view.expand operand ↔ view.IsSelected [operand] path := by
  unfold expand
  constructor
  · intro inside
    split at inside
    · next folder =>
        obtain ⟨entry, walked, kept⟩ := List.mem_filterMap.mp inside
        cases entry with
        | error fault => cases kept
        | ok found =>
            rw [Option.ite_none_right_eq_some, Bool.and_eq_true] at kept
            obtain ⟨⟨regular, supported⟩, named⟩ := kept
            cases named
            exact .entry (List.mem_singleton_self operand) folder walked regular supported
    · next single =>
        split at inside
        · next supported =>
            obtain rfl := List.mem_singleton.mp inside
            exact .operand (List.mem_singleton_self path) (Bool.not_eq_true _ ▸ single) supported
        · cases inside
  · intro selected
    cases selected with
    | operand given single supported =>
        obtain rfl := List.mem_singleton.mp given
        simp [single, supported]
    | entry given folder walked regular supported =>
        obtain rfl := List.mem_singleton.mp given
        rw [if_pos folder]
        exact List.mem_filterMap.mpr ⟨_, walked, by simp [regular, supported]⟩

theorem isSelected_iff_exists {path : Path} :
    view.IsSelected operands path ↔ ∃ operand ∈ operands, view.IsSelected [operand] path := by
  constructor
  · intro selected
    cases selected with
    | operand given single supported =>
        exact ⟨path, given, .operand (List.mem_singleton_self path) single supported⟩
    | entry given folder walked regular supported =>
        exact ⟨_, given, .entry (List.mem_singleton_self _) folder walked regular supported⟩
  · rintro ⟨operand, inside, selected⟩
    cases selected with
    | operand given single supported =>
        exact .operand (List.mem_singleton.mp given ▸ inside) single supported
    | entry given folder walked regular supported =>
        exact .entry (List.mem_singleton.mp given ▸ inside) folder walked regular supported

theorem mem_flatMap_expand_iff {path : Path} :
    path ∈ operands.flatMap view.expand ↔ view.IsSelected operands path := by
  simp only [List.mem_flatMap, mem_expand_iff, ← isSelected_iff_exists]

theorem mem_collect {file : Path} (inside : file ∈ view.collect operands) :
    view.IsSelected operands file := by
  have sorted := (dropRepeated_sublist _).subset inside
  exact mem_flatMap_expand_iff.mp ((List.mergeSort_perm ..).mem_iff.mp sorted)

theorem exists_same_mem_collect {path : Path} (selected : view.IsSelected operands path) :
    ∃ file ∈ view.collect operands, file.same path := by
  apply exists_same_mem_dropRepeated
  exact (List.mergeSort_perm ..).mem_iff.mpr (mem_flatMap_expand_iff.mpr selected)

theorem lists_collect (view : FileView) (operands : List Path) :
    view.Lists operands (view.collect operands) := by
  have sorted := List.pairwise_mergeSort Path.atMost_trans Path.atMost_total
    (operands.flatMap view.expand)
  have ascending : (view.collect operands).Pairwise Path.Before := pairwise_dropRepeated sorted
  refine ⟨ascending, ascending.imp Path.Before.not_same, fun _ => mem_collect, ?_⟩
  intro path
  constructor
  · rintro ⟨file, inside, alike⟩
    exact ⟨file, mem_collect inside, alike⟩
  · rintro ⟨other, selected, alike⟩
    obtain ⟨file, inside, same⟩ := exists_same_mem_collect selected
    exact ⟨file, inside, Path.same_trans same alike⟩

end Selection

/-- The same list up to the spelling of its paths. -/
def Alike (first second : List Path) : Prop :=
  List.Forall₂ (fun first second => first.same second) first second

section Comparison

variable {view other : FileView} {operands others files otherFiles : List Path}

theorem alike_iff : Alike files otherFiles ↔
    files.map Path.components = otherFiles.map Path.components := by
  rw [← List.forall₂_eq_eq_eq, List.forall₂_map_left_iff, List.forall₂_map_right_iff, Alike]
  simp only [Path.same_iff]

theorem Lists.mem_components_iff (lists : view.Lists operands files)
    (components : List Path.Component) :
    components ∈ files.map Path.components ↔
      ∃ path, view.IsSelected operands path ∧ path.components = components := by
  rw [List.mem_map]
  constructor
  · rintro ⟨file, inside, named⟩
    exact ⟨file, lists.selected file inside, named⟩
  · rintro ⟨path, selected, named⟩
    obtain ⟨file, inside, alike⟩ :=
      (lists.present_iff path).mpr ⟨path, selected, path.same_refl⟩
    exact ⟨file, inside, (Path.same_iff.mp alike).trans named⟩

theorem Lists.nodup_components (lists : view.Lists operands files) :
    (files.map Path.components).Nodup := by
  refine List.pairwise_map.mpr (lists.distinct.imp ?_)
  intro first second differ alike
  exact differ (Path.same_iff.mpr alike)

/-- What stands for the same paths is listed alike. -/
theorem Lists.alike (first : view.Lists operands files) (second : other.Lists others otherFiles)
    (same : ∀ path, view.IsSelected operands path ↔ other.IsSelected others path) :
    Alike files otherFiles := by
  have members : ∀ components, components ∈ files.map Path.components ↔
      components ∈ otherFiles.map Path.components := by
    intro components
    rw [first.mem_components_iff, second.mem_components_iff]
    simp only [same]
  have perm := (List.perm_ext_iff_of_nodup first.nodup_components second.nodup_components).mpr
    members
  -- Two lists of the same things that both ascend strictly are equal.
  refine alike_iff.mpr (perm.eq_of_pairwise ?_ (List.pairwise_map.mpr first.ascending)
    (List.pairwise_map.mpr second.ascending))
  intro components later inside _ before after
  obtain ⟨file, _, rfl⟩ := List.mem_map.mp inside
  obtain ⟨path, _, rfl⟩ := List.mem_map.mp ‹later ∈ _›
  exact (Path.Before.asymm before after).elim

end Comparison

/-- The same files seen with the entries of each walk in another order, and with other unreadable
entries among them. -/
structure Rearranges (view other : FileView) : Prop where
  supports : view.supports = other.supports
  isDirectory : view.isDirectory = other.isDirectory
  walk_iff : ∀ path found, .ok found ∈ view.walk path ↔ .ok found ∈ other.walk path

section Rearrangement

variable {view other : FileView} {operands others : List Path} {path : Path}

theorem Rearranges.symm (rearranges : view.Rearranges other) : other.Rearranges view where
  supports := rearranges.supports.symm
  isDirectory := rearranges.isDirectory.symm
  walk_iff path found := (rearranges.walk_iff path found).symm

theorem IsSelected.rearrange (selected : view.IsSelected operands path)
    (rearranges : view.Rearranges other) (given : operands ⊆ others) :
    other.IsSelected others path := by
  cases selected with
  | operand inside single supported =>
      rw [rearranges.isDirectory] at single
      rw [rearranges.supports] at supported
      exact .operand (given inside) single supported
  | entry inside folder walked regular supported =>
      rw [rearranges.isDirectory] at folder
      rw [rearranges.supports] at supported
      exact .entry (given inside) folder ((rearranges.walk_iff ..).mp walked) regular supported

theorem expand_filter_isOk (view : FileView) (operand : Path) :
    expand { view with walk := fun path => (view.walk path).filter Except.isOk } operand =
      view.expand operand := by
  rw [expand, expand]
  congr 1
  rw [List.filterMap_filter]
  apply List.filterMap_congr
  intro entry _
  cases entry <;> rfl

theorem expand_of_unsupported
    (unsupported : (view.isDirectory path || view.supports path) = false) :
    view.expand path = [] := by
  rw [Bool.or_eq_false_iff] at unsupported
  simp [expand, unsupported]

theorem flatMap_expand_filter (view : FileView) (operands : List Path) :
    (operands.filter fun operand => view.isDirectory operand || view.supports operand).flatMap
        view.expand = operands.flatMap view.expand := by
  induction operands with
  | nil => rfl
  | cons operand rest ih =>
      rw [List.filter_cons, List.flatMap_cons]
      cases handled : view.isDirectory operand || view.supports operand with
      | true => rw [if_pos rfl, List.flatMap_cons, ih]
      | false => rw [if_neg Bool.false_ne_true, ih, expand_of_unsupported handled, List.nil_append]

end Rearrangement

/-- The files to lint ascend strictly, so no two of them are equal, and they are the paths that the
operands stand for.  The order and repetition of the operands and the order of the entries of each
walk make no difference but to the spelling.  Unreadable entries, and operands that are neither
directories nor supported, make no difference at all. -/
theorem collect_in_any_order (view : FileView) (operands : List Path) :
    view.Lists operands (view.collect operands) ∧
    (∀ (other : FileView) (others : List Path), view.Rearranges other →
      (∀ operand, operand ∈ operands ↔ operand ∈ others) →
      Alike (view.collect operands) (other.collect others)) ∧
    collect { view with walk := fun path => (view.walk path).filter Except.isOk } operands =
      view.collect operands ∧
    view.collect (operands.filter fun operand =>
      view.isDirectory operand || view.supports operand) = view.collect operands := by
  refine ⟨lists_collect view operands, ?_, ?_, ?_⟩
  · intro other others rearranges given
    refine (lists_collect view operands).alike (lists_collect other others) fun path => ⟨?_, ?_⟩
    · intro selected
      exact selected.rearrange rearranges fun operand => (given operand).mp
    · intro selected
      exact selected.rearrange rearranges.symm fun operand => (given operand).mpr
  · have expands := funext (expand_filter_isOk view)
    rw [collect, expands, collect]
  · rw [collect, flatMap_expand_filter, collect]

/-- A directory that is given twice and walked backwards, and a file in it that is also given. -/
theorem collect_in_any_order_backwards :
    let directory := Path.ofString "d"
    let view : FileView := {
      supports := fun path => path != directory
      isDirectory := fun path => path == directory
      walk := fun _ => [.ok ⟨Path.ofString "d/b", true⟩, .error .permissionDenied,
        .ok ⟨Path.ofString "d/a", true⟩] }
    let other : FileView := { view with walk := fun path => (view.walk path).reverse }
    view.Rearranges other ∧
      Alike (view.collect [directory, Path.ofString "d//a"])
        (other.collect [Path.ofString "d//a", directory, directory]) := by
  intro directory view other
  have rearranges : view.Rearranges other := ⟨rfl, rfl, by simp [other]⟩
  exact ⟨rearranges, (collect_in_any_order view _).2.1 other _ rearranges (by simp [or_comm])⟩

end MarkupLint.CommandLine.FileView
