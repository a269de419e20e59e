import MarkupLint.Path

/-!
# The order of paths

Paths are compared component by component: the root comes before a leading dot, this before two
dots, and those before names, which are compared octet by octet.  The comparison is a linear order
of the components, so just those paths are equal in it that have the same components, however they
are spelled.
-/

namespace MarkupLint.Path

section Lists

open List (compareLex_nil_nil compareLex_nil_cons compareLex_cons_nil compareLex_cons_cons)

/-- In a comparison of lists the first items that differ decide, or else the end of one list. -/
theorem compareLex_eq_lt_iff {α : Type} {order : α → α → Ordering} [Std.LawfulEqCmp order]
    {first second : List α} :
    List.compareLex order first second = .lt ↔
      List.Lex (fun item other => order item other = .lt) first second := by
  induction first generalizing second with
  | nil => cases second <;> simp [compareLex_nil_nil, compareLex_nil_cons]
  | cons item rest ih =>
      cases second with
      | nil => simp [compareLex_cons_nil]
      | cons other others =>
          rw [compareLex_cons_cons, Ordering.then_eq_lt, ih, List.cons_lex_cons_iff,
            Std.LawfulEqCmp.compare_eq_iff_eq]

theorem compareNames_eq (first second : Octets) :
    Component.compareNames first second = Ord.compare first second := by
  induction first generalizing second with
  | nil => cases second <;> rfl
  | cons octet rest ih =>
      cases second with
      | nil => rfl
      | cons other others => rw [Component.compareNames, List.compare_cons_cons, ih]

theorem compareComponents_eq (first second : List Component) :
    compareComponents first second = List.compareLex Component.compare first second := by
  induction first generalizing second with
  | nil => cases second <;> rfl
  | cons component rest ih =>
      cases second with
      | nil => rfl
      | cons other others => rw [compareComponents, compareLex_cons_cons, ih]

end Lists

namespace Component

/-- The octets of a name. -/
def octets : Component → Octets
  | .name octets => octets
  | .root | .current | .parent => []

/-- One component comes before another one. -/
inductive Before : Component → Component → Prop
  | kind {first second : Component} (lower : first.rank < second.rank) : Before first second
  | name {first second : Octets} (lower : first < second) : Before (.name first) (.name second)

/-- The kinds are compared first, and then the octets. -/
theorem compare_eq : compare = compareLex (compareOn rank) (compareOn octets) := by
  funext first second
  cases first <;> cases second <;> first | rfl | exact compareNames_eq ..

instance : Std.TransCmp compare := by
  rw [compare_eq]
  infer_instance

theorem compareNames_eq_lt_iff {first second : Octets} :
    compareNames first second = .lt ↔ first < second := by
  rw [compareNames_eq, List.compare_eq_compareLex, compareLex_eq_lt_iff]
  simp only [Std.compare_eq_lt]
  rfl

theorem eq_of_rank_eq {first second : Component} (kinds : first.rank = second.rank)
    (names : first.octets = second.octets) : first = second := by
  cases first <;> cases second <;> first | rfl | cases kinds
  exact congrArg name names

instance : Std.LawfulEqCmp compare where
  eq_of_compare := by
    intro first second equal
    rw [compare_eq, compareLex_eq_eq] at equal
    obtain ⟨kinds, names⟩ := equal
    exact eq_of_rank_eq (Std.LawfulEqCmp.eq_of_compare kinds)
      (Std.LawfulEqCmp.eq_of_compare names)

theorem compare_eq_lt_iff {first second : Component} :
    first.compare second = .lt ↔ first.Before second := by
  constructor
  · intro lower
    rw [compare_eq, compareLex, Ordering.then_eq_lt] at lower
    rcases lower with lower | ⟨kinds, lower⟩
    · exact .kind (Nat.compare_eq_lt.mp lower)
    · -- Only names have octets that can differ.
      have sameKind : first.rank = second.rank := Nat.compare_eq_eq.mp kinds
      cases first <;> cases second <;> cases sameKind <;> first
        | cases lower
        | exact .name (compareNames_eq_lt_iff.mp ((compareNames_eq ..).trans lower))
  · intro before
    cases before with
    | kind lower =>
        rw [compare_eq, compareLex, Ordering.then_eq_lt]
        exact .inl (Nat.compare_eq_lt.mpr lower)
    | name lower => exact compareNames_eq_lt_iff.mpr lower

end Component

/-- One path comes before another one by the first component in which they differ. -/
def Before (first second : Path) : Prop :=
  List.Lex Component.Before first.components second.components

variable {first second third : Path}

theorem compare_eq_lt_iff : first.compare second = .lt ↔ first.Before second := by
  rw [compare, compareComponents_eq, compareLex_eq_lt_iff, Before]
  simp only [Component.compare_eq_lt_iff]

theorem same_iff : first.same second = true ↔ first.components = second.components := by
  rw [same, beq_iff_eq]

theorem same_refl (path : Path) : path.same path := same_iff.mpr rfl

theorem same_trans (left : first.same second) (right : second.same third) :
    first.same third := by
  rw [same_iff] at left right ⊢
  exact left.trans right

theorem compare_eq_eq_iff : first.compare second = .eq ↔ first.same second = true := by
  rw [compare, compareComponents_eq, Std.LawfulEqCmp.compare_eq_iff_eq, same_iff]

instance : Std.TransCmp compare where
  eq_swap := by
    intro first second
    simp only [compare, compareComponents_eq]
    exact Std.OrientedCmp.eq_swap
  isLE_trans := by
    intro first second third
    simp only [compare, compareComponents_eq]
    exact Std.TransCmp.isLE_trans

theorem Before.trans (lower : first.Before second) (higher : second.Before third) :
    first.Before third := by
  rw [← compare_eq_lt_iff] at lower higher ⊢
  exact Std.TransCmp.lt_trans lower higher

theorem Before.not_same (before : first.Before second) : ¬ first.same second := by
  rw [← compare_eq_lt_iff] at before
  rw [← compare_eq_eq_iff, before]
  decide

theorem Before.asymm (before : first.Before second) : ¬ second.Before first := by
  intro after
  exact (before.trans after).not_same (same_refl first)

theorem atMost_eq_isLE (first second : Path) :
    first.atMost second = (first.compare second).isLE := by
  rw [atMost]
  cases first.compare second <;> rfl

/-- What does not come after another path comes before it or is the same. -/
theorem atMost_iff : first.atMost second = true ↔ first.Before second ∨ first.same second := by
  rw [atMost_eq_isLE, ← compare_eq_lt_iff, ← compare_eq_eq_iff]
  cases first.compare second <;> simp

theorem atMost_trans (first second third : Path) (lower : first.atMost second)
    (higher : second.atMost third) : first.atMost third := by
  rw [atMost_eq_isLE] at lower higher ⊢
  exact Std.TransCmp.isLE_trans lower higher

theorem atMost_total (first second : Path) :
    (first.atMost second || second.atMost first) = true := by
  have swap : second.compare first = (first.compare second).swap := Std.OrientedCmp.eq_swap
  rw [atMost, atMost, swap]
  cases first.compare second <;> rfl

end MarkupLint.Path
