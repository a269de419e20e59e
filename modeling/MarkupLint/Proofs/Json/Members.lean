import MarkupLint.Json.Basic
import Mathlib.Tactic.ByContra

/-!
# Members of objects

What can be looked up in the members of an object, and what their order adds to it.  Inserting a
member changes the lookup of its own key only, and it keeps members in ascending order.  Two
ascending lists of members that agree on every lookup are equal, so a canonical object is nothing
but its lookups.
-/

namespace MarkupLint.Json

namespace Members

variable {key other : String} {value : Json} {members : Members}

@[simp]
theorem lookup_insert_self (key : String) (value : Json) (members : Members) :
    (insert key value members).lookup key = some value := by
  induction members with
  | nil => simp [insert]
  | cons member rest ih =>
      obtain ⟨firstKey, first⟩ := member
      simp only [insert]
      split
      · simp
      · split
        · simp
        · next different _ => simp [List.lookup_cons, beq_false_of_ne different, ih]

theorem lookup_insert_of_ne (different : other ≠ key) (value : Json) (members : Members) :
    (insert key value members).lookup other = members.lookup other := by
  induction members with
  | nil => simp [insert, List.lookup_cons, beq_false_of_ne different]
  | cons member rest ih =>
      obtain ⟨firstKey, first⟩ := member
      simp only [insert]
      split
      · next same =>
          subst same
          simp [List.lookup_cons, beq_false_of_ne different]
      · split
        · simp [List.lookup_cons, beq_false_of_ne different]
        · simp only [List.lookup_cons, ih]

theorem lookup_isSome_iff : (members.lookup key).isSome ↔ key ∈ members.map Prod.fst := by
  induction members with
  | nil => simp
  | cons member rest ih =>
      obtain ⟨firstKey, first⟩ := member
      by_cases same : key = firstKey
      · simp [same]
      · simp only [List.lookup_cons, beq_false_of_ne same, List.map_cons, List.mem_cons, same,
          false_or]
        exact ih

theorem lookup_eq_none_iff : members.lookup key = none ↔ key ∉ members.map Prod.fst := by
  rw [← lookup_isSome_iff, Option.isSome_iff_ne_none, not_not]

theorem mem_insert {member : String × Json} (inside : member ∈ insert key value members) :
    member = (key, value) ∨ member ∈ members := by
  induction members with
  | nil => exact Or.inl (by simpa [insert] using inside)
  | cons first rest ih =>
      obtain ⟨firstKey, first⟩ := first
      simp only [insert] at inside
      split at inside
      · rcases List.mem_cons.mp inside with rfl | later
        · exact Or.inl rfl
        · exact Or.inr (List.mem_cons_of_mem _ later)
      · split at inside
        · exact List.mem_cons.mp inside
        · rcases List.mem_cons.mp inside with rfl | later
          · exact Or.inr List.mem_cons_self
          · exact (ih later).imp_right (List.mem_cons_of_mem _)

theorem Ascending.insert (ascending : Ascending members) (key : String) (value : Json) :
    Ascending (Members.insert key value members) := by
  induction members with
  | nil => simp [Members.insert, Ascending]
  | cons first rest ih =>
      obtain ⟨firstKey, first⟩ := first
      obtain ⟨below, restAscending⟩ := List.pairwise_cons.mp ascending
      simp only [Members.insert]
      split
      · next same =>
          subst same
          exact List.pairwise_cons.mpr ⟨below, restAscending⟩
      · next different =>
          split
          · next before =>
              refine List.pairwise_cons.mpr ⟨?_, ascending⟩
              intro member inside
              rcases List.mem_cons.mp inside with rfl | later
              · exact before
              · exact String.lt_trans before (below member later)
          · next notBefore =>
              have after : firstKey < key := by
                by_contra notAfter
                exact different
                  (String.le_antisymm (String.not_lt.mp notAfter) (String.not_lt.mp notBefore))
              refine List.pairwise_cons.mpr ⟨?_, ih restAscending⟩
              intro member inside
              rcases mem_insert inside with rfl | later
              · exact after
              · exact below member later

private theorem ascending_foldl_insert (members : Members) {start : Members}
    (ascending : Ascending start) :
    Ascending (members.foldl (fun ordered member => ordered.insert member.1 member.2) start) := by
  induction members generalizing start with
  | nil => exact ascending
  | cons member rest ih => exact ih (ascending.insert member.1 member.2)

theorem ascending_ofList (members : Members) : Ascending (ofList members) :=
  ascending_foldl_insert members List.Pairwise.nil

private theorem mem_foldl_insert {member : String × Json} {members start : Members}
    (inside : member ∈
      members.foldl (fun ordered member => ordered.insert member.1 member.2) start) :
    member ∈ start ∨ member ∈ members := by
  induction members generalizing start with
  | nil => exact Or.inl inside
  | cons first rest ih =>
      rcases ih inside with early | late
      · rcases mem_insert early with rfl | early
        · exact Or.inr List.mem_cons_self
        · exact Or.inl early
      · exact Or.inr (List.mem_cons_of_mem _ late)

theorem mem_of_mem_ofList {member : String × Json} (inside : member ∈ ofList members) :
    member ∈ members :=
  (mem_foldl_insert inside).resolve_left List.not_mem_nil

theorem mem_of_lookup (found : members.lookup key = some value) : (key, value) ∈ members := by
  obtain ⟨before, after, rfl, _⟩ := List.lookup_eq_some_iff.mp found
  simp

theorem lookup_eq_some_of_mem (distinct : (members.map Prod.fst).Nodup)
    (inside : (key, value) ∈ members) : members.lookup key = some value := by
  induction members with
  | nil => exact absurd inside List.not_mem_nil
  | cons first rest ih =>
      obtain ⟨firstKey, first⟩ := first
      rw [List.map_cons, List.nodup_cons] at distinct
      rcases List.mem_cons.mp inside with same | later
      · simp [(Prod.mk.inj same).1, (Prod.mk.inj same).2]
      · have different : key ≠ firstKey := by
          rintro rfl
          exact distinct.1 (List.mem_map.mpr ⟨(key, value), later, rfl⟩)
        rw [List.lookup_cons, beq_false_of_ne different]
        exact ih distinct.2 later

/-- The order of members does not matter to a lookup as long as no key is repeated. -/
theorem lookup_eq_of_perm {first second : Members} (distinct : (first.map Prod.fst).Nodup)
    (permuted : second.Perm first) (key : String) : second.lookup key = first.lookup key := by
  have alsoDistinct : (second.map Prod.fst).Nodup :=
    (permuted.map Prod.fst).nodup_iff.mpr distinct
  apply Option.ext
  intro value
  constructor
  · intro found
    exact lookup_eq_some_of_mem distinct (permuted.mem_iff.mp (mem_of_lookup found))
  · intro found
    exact lookup_eq_some_of_mem alsoDistinct (permuted.mem_iff.mpr (mem_of_lookup found))

theorem perm_insert {members : Members} (fresh : key ∉ members.map Prod.fst) (value : Json) :
    (insert key value members).Perm ((key, value) :: members) := by
  induction members with
  | nil => exact .refl _
  | cons first rest ih =>
      obtain ⟨firstKey, first⟩ := first
      rw [List.map_cons, List.mem_cons, not_or] at fresh
      rw [insert, if_neg fresh.1]
      split
      · exact .refl _
      · exact ((ih fresh.2).cons _).trans (.swap ..)

private theorem perm_foldl_insert {members start : Members}
    (distinct : ((members ++ start).map Prod.fst).Nodup) :
    (members.foldl (fun ordered member => ordered.insert member.1 member.2) start).Perm
      (members ++ start) := by
  induction members generalizing start with
  | nil => exact .refl _
  | cons member rest ih =>
      have fresh : member.1 ∉ start.map Prod.fst := by
        intro again
        rw [List.cons_append, List.map_cons, List.nodup_cons, List.map_append] at distinct
        exact distinct.1 (List.mem_append_right _ again)
      have moved : (rest ++ start.insert member.1 member.2).Perm (member :: (rest ++ start)) :=
        ((perm_insert fresh member.2).append_left rest).trans List.perm_middle
      exact (ih ((moved.map Prod.fst).nodup_iff.mpr distinct)).trans moved

theorem perm_ofList (distinct : (members.map Prod.fst).Nodup) :
    (ofList members).Perm members := by
  have folded : (ofList members).Perm (members ++ []) :=
    perm_foldl_insert (by rwa [List.append_nil])
  rwa [List.append_nil] at folded

/-- In ascending members the lookup of a key finds its only member. -/
theorem Ascending.mem_iff_lookup (ascending : Ascending members) :
    (key, value) ∈ members ↔ members.lookup key = some value := by
  refine ⟨?_, mem_of_lookup⟩
  intro inside
  induction members with
  | nil => exact absurd inside List.not_mem_nil
  | cons first rest ih =>
      obtain ⟨firstKey, first⟩ := first
      obtain ⟨below, restAscending⟩ := List.pairwise_cons.mp ascending
      rcases List.mem_cons.mp inside with same | later
      · simp [(Prod.mk.inj same).1, (Prod.mk.inj same).2]
      · have before : firstKey < key := below (key, value) later
        have different : key ≠ firstKey := fun same =>
          String.lt_irrefl key (same ▸ before)
        simp only [List.lookup_cons, beq_false_of_ne different]
        exact ih restAscending later

theorem Ascending.nodup (ascending : Ascending members) : members.Nodup := by
  apply ascending.imp
  intro member later before same
  exact String.lt_irrefl later.1 (same ▸ before)

/-- Ascending members are determined by what can be looked up in them. -/
theorem Ascending.ext {first second : Members} (firstAscending : Ascending first)
    (secondAscending : Ascending second) (agree : ∀ key, first.lookup key = second.lookup key) :
    first = second := by
  have sameMembers : ∀ member, member ∈ first ↔ member ∈ second := by
    intro member
    rw [firstAscending.mem_iff_lookup, secondAscending.mem_iff_lookup, agree]
  have permuted : first.Perm second :=
    (List.perm_ext_iff_of_nodup firstAscending.nodup secondAscending.nodup).mpr sameMembers
  refine permuted.eq_of_pairwise ?_ firstAscending secondAscending
  intro member other _ _ before after
  exact absurd after (String.lt_asymm before)

theorem Ascending.distinct (ascending : Ascending members) : (members.map Prod.fst).Nodup := by
  apply List.pairwise_map.mpr
  apply ascending.imp
  intro member later before same
  exact String.lt_irrefl later.1 (same ▸ before)

theorem Ascending.ofList_eq (ascending : Ascending members) : ofList members = members :=
  (ascending_ofList members).ext ascending
    (lookup_eq_of_perm ascending.distinct (perm_ofList ascending.distinct))

end Members

/-- A canonical value: the members of every object ascend, at any depth. -/
inductive IsCanonical : Json → Prop
  | null : IsCanonical .null
  | bool (value : Bool) : IsCanonical (.bool value)
  | number (value : Number) : IsCanonical (.number value)
  | string (value : String) : IsCanonical (.string value)
  | array {items : List Json} (each : ∀ item ∈ items, IsCanonical item) :
      IsCanonical (.array items)
  | object {members : Members} (ascending : Members.Ascending members)
      (each : ∀ member ∈ members, IsCanonical member.2) : IsCanonical (.object members)

mutual

/-- What readers and builders make canonical is canonical. -/
theorem isCanonical_canonical : (value : Json) → IsCanonical value.canonical
  | .null => .null
  | .bool value => .bool value
  | .number value => .number value
  | .string value => .string value
  | .array items => .array (isCanonical_canonicalItems items)
  | .object members =>
      .object (Members.ascending_ofList _) fun _ inside =>
        isCanonical_canonicalMembers members _ (Members.mem_of_mem_ofList inside)

private theorem isCanonical_canonicalItems :
    (items : List Json) → ∀ item ∈ canonicalItems items, IsCanonical item
  | [], _, inside => absurd inside List.not_mem_nil
  | first :: rest, item, inside => by
      rcases List.mem_cons.mp inside with rfl | later
      · exact isCanonical_canonical first
      · exact isCanonical_canonicalItems rest item later

private theorem isCanonical_canonicalMembers :
    (members : Members) → ∀ member ∈ canonicalMembers members, IsCanonical member.2
  | [], _, inside => absurd inside List.not_mem_nil
  | (key, first) :: rest, member, inside => by
      rcases List.mem_cons.mp inside with rfl | later
      · exact isCanonical_canonical first
      · exact isCanonical_canonicalMembers rest member later

end

theorem IsCanonical.ofMembers {members : Members}
    (each : ∀ member ∈ members, IsCanonical member.2) : IsCanonical (Json.ofMembers members) :=
  .object (Members.ascending_ofList members) fun member inside =>
    each member (Members.mem_of_mem_ofList inside)

theorem canonicalItems_eq_self {items : List Json} (each : ∀ item ∈ items, item.canonical = item) :
    canonicalItems items = items := by
  induction items with
  | nil => rfl
  | cons first rest ih =>
      rw [List.forall_mem_cons] at each
      rw [canonicalItems, each.1, ih each.2]

theorem canonicalMembers_eq_self {members : Members}
    (each : ∀ member ∈ members, member.2.canonical = member.2) :
    canonicalMembers members = members := by
  induction members with
  | nil => rfl
  | cons first rest ih =>
      obtain ⟨key, value⟩ := first
      rw [List.forall_mem_cons] at each
      rw [canonicalMembers, each.1, ih each.2]

/-- There is nothing to be done about a canonical value. -/
theorem IsCanonical.canonical_eq {value : Json} (isCanonical : IsCanonical value) :
    value.canonical = value := by
  induction isCanonical with
  | null | bool | number | string => rfl
  | array _ ih => rw [canonical, canonicalItems_eq_self ih]
  | object ascending _ ih => rw [canonical, canonicalMembers_eq_self ih, ascending.ofList_eq]

end MarkupLint.Json
