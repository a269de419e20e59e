import MarkupLint.Resolver
import MarkupLint.Proofs.RcFile
import MarkupLint.Proofs.Sharing
import Mathlib.Data.List.Induction

/-!
# Resolvers remember nothing but one root

Copies of a resolver share one root.  Through any of them roots are set and files are loaded, while
files come, change and go.  What a load gives is what a new resolver with the root that was set last
would give for the files of that moment: nothing that was loaded or set before matters, nor through
which copy.

After every use all copies still look at one root, which is the one that was set last.
-/

namespace MarkupLint

/-- Resolvers of one project, its files, and everything that has been loaded. -/
structure SharedProject where
  resolvers : Resolvers
  files : FileTree
  loaded : List (Except LintError (Option Json))

namespace SharedProject

/-- What can be done with resolvers, and what can happen to the files. -/
inductive Use where
  | copy (number : Nat)
  | setRoot (number : Nat) (root : Option Path)
  | load (number : Nat) (name : String)
  | edit (change : FileTree → FileTree)

namespace Use

/-- The resolver that is used. -/
def number? : Use → Option Nat
  | .copy number | .setRoot number _ | .load number _ => some number
  | .edit _ => none

/-- The root that is set. -/
def root? : Use → Option (Option Path)
  | .setRoot _ root => some root
  | _ => none

/-- What becomes of the files. -/
def edited (files : FileTree) : Use → FileTree
  | .edit change => change files
  | _ => files

end Use

def step (project : SharedProject) : Use → SharedProject
  | .copy number => { project with resolvers := project.resolvers.share number }
  | .setRoot number root => { project with resolvers := project.resolvers.setRoot number root }
  | .load number name =>
      { project with
        loaded := project.loaded ++ [project.resolvers.loadNamed number project.files name] }
  | .edit change => { project with files := change project.files }

def after (project : SharedProject) (uses : List Use) : SharedProject := uses.foldl step project

/-- One resolver, number zero, through which nothing has been loaded. -/
def start (root : Option Path) (files : FileTree) : SharedProject := ⟨.single root, files, []⟩

/-- Every use is that of a resolver which is there by then. -/
def Legal (project : SharedProject) : List Use → Prop
  | [] => True
  | use :: later =>
      (∀ number ∈ use.number?, number < project.resolvers.count) ∧ (project.step use).Legal later

instance : (project : SharedProject) → (uses : List Use) → Decidable (project.Legal uses)
  | _, [] => .isTrue trivial
  | project, use :: later =>
      have : Decidable ((project.step use).Legal later) := instDecidableLegal ..
      inferInstanceAs (Decidable (_ ∧ _))

/-- The root that was set last, or the given one if none was set. -/
def latestRoot (root : Option Path) (uses : List Use) : Option Path :=
  (uses.filterMap Use.root?).getLast?.getD root

/-- The files after all edits. -/
def latestFiles (files : FileTree) (uses : List Use) : FileTree := uses.foldl Use.edited files

variable {project : SharedProject} {root : Option Path} {files : FileTree} {use : Use}
  {uses : List Use} {number : Nat}

theorem after_append (project : SharedProject) (first second : List Use) :
    project.after (first ++ second) = (project.after first).after second :=
  List.foldl_append

theorem legal_append {first second : List Use} :
    project.Legal (first ++ second) ↔ project.Legal first ∧ (project.after first).Legal second := by
  induction first generalizing project with
  | nil => simp [Legal, after]
  | cons use later ih => simp only [List.cons_append, Legal, ih, and_assoc, after, List.foldl_cons]

theorem latestRoot_concat (root : Option Path) (uses : List Use) (use : Use) :
    latestRoot root (uses ++ [use]) = use.root?.getD (latestRoot root uses) := by
  unfold latestRoot
  cases sets : use.root? <;> simp [List.filterMap_append, sets]

theorem latestFiles_concat (files : FileTree) (uses : List Use) (use : Use) :
    latestFiles files (uses ++ [use]) = use.edited (latestFiles files uses) := by
  simp [latestFiles]

/-- All resolvers look at one root. -/
structure HasRoot (resolvers : Resolvers) (root : Option Path) : Prop where
  together : ∀ number < resolvers.count, resolvers.roots.Together 0 number
  shows : resolvers.roots.get? 0 = some root

theorem hasRoot_single (root : Option Path) : HasRoot (.single root) root := by
  refine ⟨fun number known => ?_, rfl⟩
  obtain rfl : number = 0 := by
    simpa [Resolvers.count, Resolvers.single, Shared.count, Shared.create, Shared.empty] using known
  exact Shared.together_self rfl

theorem HasRoot.root?_eq {resolvers : Resolvers} (hasRoot : HasRoot resolvers root)
    (known : number < resolvers.count) : resolvers.root? number = root := by
  rw [Resolvers.root?, ← (hasRoot.together number known).get?_eq, hasRoot.shows]
  rfl

theorem HasRoot.share {resolvers : Resolvers} (hasRoot : HasRoot resolvers root)
    (known : number < resolvers.count) : HasRoot (resolvers.share number) root := by
  have same := hasRoot.together number known
  have holds : (resolvers.roots.get? number).isSome := by
    rw [← same.get?_eq, hasRoot.shows]
    rfl
  have grows := Shared.grows_share resolvers.roots number
  refine ⟨fun other otherKnown => ?_, Shared.get?_share_of_some hasRoot.shows number⟩
  have bound : other < resolvers.roots.count + 1 := Shared.count_share holds ▸ otherKnown
  rcases Nat.lt_succ_iff_lt_or_eq.mp bound with already | rfl
  · exact (hasRoot.together other already).mono grows
  · exact (same.mono grows).trans (Shared.together_share holds)

theorem HasRoot.setRoot {resolvers : Resolvers} (hasRoot : HasRoot resolvers root)
    (known : number < resolvers.count) (new : Option Path) :
    HasRoot (resolvers.setRoot number new) new := by
  have holds : (resolvers.roots.get? 0).isSome := Option.isSome_of_eq_some hasRoot.shows
  refine ⟨fun other otherKnown => ?_,
    Shared.get?_put_of_together (hasRoot.together number known).symm holds new⟩
  have sameCount : (resolvers.setRoot number new).count = resolvers.count :=
    congrArg List.length (Shared.holders_modify ..)
  exact Shared.together_modify_iff.mpr (hasRoot.together other (sameCount ▸ otherKnown))

theorem hasRoot_step (hasRoot : HasRoot project.resolvers root)
    (known : ∀ number ∈ use.number?, number < project.resolvers.count) :
    HasRoot (project.step use).resolvers (use.root?.getD root) := by
  cases use with
  | copy number => exact hasRoot.share (known number rfl)
  | setRoot number new => exact hasRoot.setRoot (known number rfl) new
  | load | edit => exact hasRoot

theorem hasRoot_after (legal : (start root files).Legal uses) :
    HasRoot ((start root files).after uses).resolvers (latestRoot root uses) := by
  -- From the end, since the use that counts is the last one that sets a root.
  induction uses using List.reverseRecOn with
  | nil => exact hasRoot_single root
  | append_singleton before use ih =>
      obtain ⟨legalBefore, known, _⟩ := legal_append.mp legal
      rw [after_append, latestRoot_concat]
      exact hasRoot_step (ih legalBefore) known

theorem files_step (project : SharedProject) (use : Use) :
    (project.step use).files = use.edited project.files := by
  cases use <;> rfl

theorem files_after (project : SharedProject) (uses : List Use) :
    (project.after uses).files = latestFiles project.files uses := by
  induction uses using List.reverseRecOn with
  | nil => rfl
  | append_singleton before use ih =>
      rw [latestFiles_concat, ← ih, after_append]
      exact files_step ..

theorem loaded_prefix_step (project : SharedProject) (use : Use) :
    project.loaded <+: (project.step use).loaded := by
  cases use with
  | load => exact List.prefix_append ..
  | copy | setRoot | edit => exact List.prefix_refl _

theorem loaded_prefix_after (project : SharedProject) (uses : List Use) :
    project.loaded <+: (project.after uses).loaded := by
  induction uses generalizing project with
  | nil => exact List.prefix_refl _
  | cons use later ih => exact (project.loaded_prefix_step use).trans (ih (project.step use))

/-- What a load gives stays on record. -/
theorem loaded_after_load (project : SharedProject) (number : Nat) (name : String)
    (later : List Use) :
    (project.after (.load number name :: later)).loaded[project.loaded.length]? =
      some (project.resolvers.loadNamed number project.files name) := by
  obtain ⟨more, whole⟩ := (project.step (.load number name)).loaded_prefix_after later
  change ((project.step (.load number name)).after later).loaded[_]? = _
  rw [← whole]
  simp [step]

/-- Every load gives what a new resolver would give that has the latest root and reads the files as
they are: nothing if there is no root, and overrides only if they are an object that is the value of
the whole text in the named file below that root. -/
theorem loads_like_new (root : Option Path) (files : FileTree) (before later : List Use)
    (number : Nat) (name : String)
    (legal : (start root files).Legal (before ++ .load number name :: later)) :
    ∃ outcome,
      ((start root files).after (before ++ .load number name :: later)).loaded[
        ((start root files).after before).loaded.length]? = some outcome ∧
      outcome = (Resolvers.single (latestRoot root before)).loadNamed 0 (latestFiles files before)
        name ∧
      (latestRoot root before = none → outcome = .ok none) ∧
      ∀ options, outcome = .ok (some options) →
        options.isObject ∧ ∃ folder text, latestRoot root before = some folder ∧
          (latestFiles files before).readOctets (folder.join (Path.ofString name)) =
            .ok (Octets.ofString text) ∧
          Json.parse text = .ok options := by
  obtain ⟨legalBefore, known, _⟩ := legal_append.mp legal
  have hasRoot := hasRoot_after legalBefore
  have sameRoot := hasRoot.root?_eq (known number rfl)
  have sameFiles : ((start root files).after before).files = latestFiles files before :=
    files_after ..
  have outcome : ((start root files).after before).resolvers.loadNamed number
      ((start root files).after before).files name =
        RcFile.loadNamed (latestFiles files before) (latestRoot root before) name := by
    rw [Resolvers.loadNamed, sameRoot, sameFiles]
  refine ⟨_, ?_, outcome, ?_, ?_⟩
  · rw [after_append]
    exact loaded_after_load ..
  · intro closed
    rw [outcome, closed]
    rfl
  · intro options loaded
    obtain ⟨folder, text, opened, read, _, value, object⟩ :=
      RcFile.loadNamed_eq_some_iff.mp (outcome.symm.trans loaded)
    exact ⟨object, folder, text, opened, read, value⟩

/-- A copy loads a file that was written after the root had been set through the first resolver. -/
theorem loads_like_new_through_copy :
    let files := FileTree.empty (Path.ofString "/")
    let write (text : String) : Use :=
      .edit fun files =>
        files.put (Path.ofString "/p/.jshintrc") (.file (Octets.ofString text) false)
    let before : List Use := [.copy 0, write "[", .setRoot 0 (some (Path.ofString "/p")),
      .load 0 ".jshintrc", write "\x7b\"undef\":true\x7d"]
    let uses := before ++ [.load 1 ".jshintrc"]
    (start none files).Legal uses ∧
      ((start none files).after uses).loaded[1]? =
        some (.ok (some (.object [("undef", .bool true)]))) := by
  intro files write before uses
  have legal : (start none files).Legal uses := by decide
  obtain ⟨outcome, found, fresh, _⟩ :=
    loads_like_new none files before [] 1 ".jshintrc" legal
  refine ⟨legal, found.trans (congrArg some (fresh.trans ?_))⟩
  decide +kernel

end SharedProject

end MarkupLint
