import MarkupLint.RcFile
import Mathlib.Tactic.SplitIfs

/-!
# The last component of a path

Joining a folder, however it is spelled, with a plain name leads to a path whose last component is
that name.  So the path from which a configuration file is read is always recognised as the path of
that file, and so is every path with the same components.

The extension of a name follows its last dot.  A name whose only dot is its first octet has none.
-/

namespace MarkupLint

namespace Path

/-- Whether octets spell one name: something other than dots that no slash divides. -/
def IsPlainName (octets : Octets) : Prop :=
  slash ∉ octets ∧ octets ≠ [] ∧ octets ≠ [dot] ∧ octets ≠ [dot, dot]

instance (octets : Octets) : Decidable (IsPlainName octets) :=
  inferInstanceAs (Decidable (_ ∧ _ ∧ _ ∧ _))

theorem segments_ne_nil (octets : Octets) : segments octets ≠ [] := by
  cases octets with
  | nil => simp [segments]
  | cons octet rest =>
      simp only [segments]
      split
      · simp
      · split <;> simp

theorem segments_append_slash (first second : Octets) :
    segments (first ++ slash :: second) = segments first ++ segments second := by
  induction first with
  | nil => simp [segments]
  | cons octet rest ih =>
      by_cases divides : octet = slash
      · simp [segments, divides, ih]
      · rw [List.cons_append, segments, segments, if_neg divides, if_neg divides, ih]
        cases parts : segments rest with
        | nil => exact absurd parts (segments_ne_nil rest)
        | cons part others => rfl

theorem segments_of_not_mem {octets : Octets} (undivided : slash ∉ octets) :
    segments octets = [octets] := by
  induction octets with
  | nil => rfl
  | cons octet rest ih =>
      rw [List.mem_cons, not_or] at undivided
      rw [segments, if_neg (Ne.symm undivided.1), ih undivided.2]

variable {name : Octets}

theorem IsPlainName.ofSegment? (plain : IsPlainName name) :
    Component.ofSegment? name = some (.name name) := by
  obtain ⟨_, notEmpty, notDot, notDots⟩ := plain
  simp [Component.ofSegment?, notEmpty, notDot, notDots]

theorem IsPlainName.not_isAbsolute (plain : IsPlainName name) :
    isAbsolute ⟨name⟩ = false := by
  obtain ⟨undivided, _⟩ := plain
  cases name with
  | nil => rfl
  | cons octet rest =>
      rw [List.mem_cons, not_or] at undivided
      simpa [isAbsolute] using Ne.symm undivided.1

theorem fileName?_of_segments {path : Path} (front : List Octets) (plain : IsPlainName name)
    (split : segments path.octets = front ++ [name]) : path.fileName? = some name := by
  have last : (segments path.octets).filterMap Component.ofSegment? =
      front.filterMap Component.ofSegment? ++ [.name name] := by
    rw [split, List.filterMap_append, List.filterMap_cons_some plain.ofSegment?,
      List.filterMap_nil]
  have atEnd : path.components.getLast? = some (.name name) := by
    simp only [components, last]
    split_ifs <;> simp [List.getLast?_cons]
  rw [fileName?, atEnd]

theorem fileName?_join (path : Path) (plain : IsPlainName name) :
    (path.join ⟨name⟩).fileName? = some name := by
  have alone := segments_of_not_mem plain.1
  simp only [join, plain.not_isAbsolute, Bool.false_eq_true, if_false]
  cases last : path.octets.getLast? with
  | none => exact fileName?_of_segments [] plain alone
  | some octet =>
      by_cases closed : octet = slash
      · obtain ⟨front, spelled⟩ := List.getLast?_eq_some_iff.mp last
        refine fileName?_of_segments (segments front) plain ?_
        simp [closed, spelled, segments_append_slash, alone]
      · refine fileName?_of_segments (segments path.octets) plain ?_
        simp [closed, segments_append_slash, alone]

theorem fileName?_eq_of_same {first second : Path} (alike : first.same second) :
    first.fileName? = second.fileName? := by
  have components : first.components = second.components := by simpa [same] using alike
  rw [fileName?, fileName?, components]

theorem extensionOf?_append_dot (stem : Octets) {after : Octets} (last : dot ∉ after) :
    extensionOf? (stem ++ dot :: after) = if stem = [] then none else some after := by
  have taken : (stem ++ dot :: after).reverse.takeWhile (· != dot) = after.reverse := by
    have differ : ∀ octet ∈ after.reverse, (octet != dot) = true := by
      intro octet inside
      rw [bne_iff_ne]
      rintro rfl
      exact last (List.mem_reverse.mp inside)
    rw [List.reverse_append, List.reverse_cons, List.append_assoc,
      List.takeWhile_append_of_pos differ]
    simp
  have atStart : after.length + 1 = (stem ++ dot :: after).length ↔ stem = [] := by
    rw [List.length_append, List.length_cons, ← List.length_eq_zero_iff]
    omega
  have divided : (stem ++ dot :: after).contains dot = true := by simp
  rw [extensionOf?, if_pos divided]
  simp only [taken, List.reverse_reverse, atStart]

/-- The extension of a name is what follows its last dot, unless the name starts with this dot. -/
theorem extensionOf?_eq_some_iff {name after : Octets} :
    extensionOf? name = some after ↔
      ∃ stem, stem ≠ [] ∧ dot ∉ after ∧ name = stem ++ dot :: after := by
  constructor
  · intro found
    by_cases divided : dot ∈ name
    · -- The last dot of the name is the first one of its reverse.
      obtain ⟨rear, front, split, last⟩ :=
        List.eq_append_cons_of_mem (List.mem_reverse.mpr divided)
      have spelled : name = front.reverse ++ dot :: rear.reverse := by
        rw [← List.reverse_reverse name, split]
        simp
      have undotted : dot ∉ rear.reverse := by rwa [List.mem_reverse]
      rw [spelled, extensionOf?_append_dot _ undotted] at found
      split at found
      · cases found
      · next present =>
          rw [Option.some.injEq] at found
          subst found
          exact ⟨_, present, undotted, spelled⟩
    · simp [extensionOf?, divided] at found
  · rintro ⟨stem, present, last, rfl⟩
    rw [extensionOf?_append_dot stem last, if_neg present]

end Path

namespace RcFile

theorem isPlainName_fileName (file : RcFile) :
    Path.IsPlainName (Octets.ofString file.fileName) := by
  cases file <;> decide

/-- The path from which a configuration file is read, and every path with the same components, is
recognised as the path of that file. -/
theorem ofPath?_of_same_join (file : RcFile) (root : Path) {path : Path}
    (alike : path.same (root.join (Path.ofString file.fileName))) :
    ofPath? path = some file := by
  have name : path.fileName? = some (Octets.ofString file.fileName) :=
    (Path.fileName?_eq_of_same alike).trans
      (Path.fileName?_join root file.isPlainName_fileName)
  simp only [ofPath?, name]
  cases file <;> decide

end RcFile

end MarkupLint
