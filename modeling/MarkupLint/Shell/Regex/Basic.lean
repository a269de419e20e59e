import MarkupLint.Shell.Syntax
/-!
# Regular expressions

Expressions over the characters of a line. A match is sought by trying alternatives in their order
and repetitions from the longest on; of several matches the one that starts first is found.
-/

namespace MarkupLint.Shell

/-- What a single character may be. -/
inductive Accepts where
  | exactly (character : Char)
  | any
  | oneOf (negated : Bool) (ranges : List (Char × Char))
deriving DecidableEq, Repr

namespace Accepts

/-- Whether a character is accepted. -/
def holds : Accepts → Char → Bool
  | .exactly expected, character => character == expected
  | .any, _ => true
  | .oneOf negated ranges, character =>
      negated != ranges.any fun (low, high) => low ≤ character && character ≤ high

/-- Accept a letter in either case where one of them is accepted. -/
def ignoringCase : Accepts → Accepts
  | .exactly character =>
      .oneOf false [(character.toLower, character.toLower), (character.toUpper, character.toUpper)]
  | .any => .any
  | .oneOf negated ranges =>
      .oneOf negated (ranges ++
        ranges.map (fun (low, high) => (low.toLower, high.toLower)) ++
        ranges.map (fun (low, high) => (low.toUpper, high.toUpper)))

end Accepts

/-- A regular expression. Groups are numbered by their opening. -/
inductive Regex where
  | empty
  | one (accepts : Accepts)
  | atStart
  | atEnd
  | atWordEdge
  | sequence (first second : Regex)
  | either (first second : Regex)
  | repeated (inner : Regex) (least : Nat) (most : Option Nat)
  | group (number : Nat) (inner : Regex)
  | again (number : Nat)
deriving DecidableEq, Repr

namespace Regex

/-- How far a match has come: the character before, what is left, and what the groups hold. -/
structure Position where
  before : Option Char
  rest : Data
  groups : List (Nat × Data)

/-- The positions after each number of accepted characters, the longest run first. -/
def runs (accepts : Accepts) : (most : Option Nat) → (found : List Position) → Position →
    List Position
  | most, found, ⟨before, character :: rest, groups⟩ =>
      let found := ⟨before, character :: rest, groups⟩ :: found
      if most = some 0 || !accepts.holds character then found
      else runs accepts (most.map (· - 1)) found ⟨some character, rest, groups⟩
  | _, found, position => position :: found
termination_by _ _ position => position.rest.length

/-- Whether a character may be part of a word. -/
def inWord (character : Option Char) : Bool :=
  character.any fun character => character.isAlphanum || character == '_'

/-- Match an expression at a position and go on with what follows it. -/
def matchThen : (fuel : Nat) → Regex → Position → (Position → Option Position) → Option Position
  | 0, _, _, _ => none
  | fuel + 1, expression, position, next =>
      match expression with
      | .empty => next position
      | .one accepts =>
          match position.rest with
          | character :: rest =>
              if accepts.holds character then
                next { position with before := some character, rest }
              else none
          | [] => none
      | .atStart => if position.before.isNone then next position else none
      | .atEnd => if position.rest.isEmpty then next position else none
      | .atWordEdge =>
          if inWord position.before != inWord position.rest.head? then next position else none
      | .sequence first second =>
          matchThen fuel first position fun position => matchThen fuel second position next
      | .either first second =>
          match matchThen fuel first position next with
          | some found => some found
          | none => matchThen fuel second position next
      | .repeated (.one accepts) least most =>
          let found := runs accepts most [] position
          (found.take (found.length - least)).findSome? next
      | .repeated inner least most =>
          let further :=
            if most = some 0 then none
            else matchThen fuel inner position fun reached =>
              if least = 0 && reached.rest.length = position.rest.length then none
              else matchThen fuel (.repeated inner (least - 1) (most.map (· - 1))) reached next
          match further with
          | some found => some found
          | none => if least = 0 then next position else none
      | .group number inner =>
          matchThen fuel inner position fun reached =>
            let text := position.rest.take (position.rest.length - reached.rest.length)
            next { reached with groups := (number, text) :: reached.groups }
      | .again number =>
          let text := (position.groups.lookup number).getD []
          if text.isPrefixOf position.rest then
            next { position with
              before := text.getLast?.or position.before
              rest := position.rest.drop text.length }
          else none

/-- The number of nested steps that an expression takes at most, apart from the text. -/
def size : Regex → Nat
  | .sequence first second | .either first second => first.size + second.size + 1
  | .repeated inner least _ => inner.size + least + 1
  | .group _ inner => inner.size + 1
  | _ => 1

/-- A match in a text: what comes before it, what was matched, what the groups hold and what
comes after it. -/
structure Match where
  skipped : Data
  matched : Data
  groups : List (Nat × Data)
  rest : Data

/-- The first match from a place in the text on. -/
def findFrom (expression : Regex) (fuel : Nat) : (skipped : Data) → (before : Option Char) → Data →
    Option Match
  | skipped, before, text =>
      match matchThen fuel expression ⟨before, text, []⟩ some with
      | some position =>
          some ⟨skipped.reverse, text.take (text.length - position.rest.length),
            position.groups, position.rest⟩
      | none =>
          match text with
          | [] => none
          | character :: rest => findFrom expression fuel (character :: skipped) character rest
termination_by _ _ text => text.length

/-- The first match in a text that follows some character. -/
def find? (expression : Regex) (before : Option Char) (text : Data) : Option Match :=
  findFrom expression (expression.size + text.length + 1) [] before text

/-- Whether the expression matches somewhere in a text. -/
def occurs (expression : Regex) (text : Data) : Bool := (expression.find? none text).isSome

/-- Whether the expression matches a whole text. -/
def matchesAll (expression : Regex) (text : Data) : Bool :=
  (matchThen (expression.size + text.length + 3) (.sequence expression .atEnd) ⟨none, text, []⟩
    some).isSome

/-- A piece of a text that was searched: characters outside of matches, or a match. -/
inductive Segment where
  | kept (text : Data)
  | found (here : Match)

/-- Cut a text at its matches. A match of nothing right after another match does not count. -/
def segments (expression : Regex) : (fuel : Nat) → (before : Option Char) → (afterMatch : Bool) →
    Data → List Segment
  | 0, _, _, text => [.kept text]
  | fuel + 1, before, afterMatch, text =>
      match expression.find? before text with
      | none => [.kept text]
      | some here =>
          match here.matched, here.rest with
          | [], rest =>
              let counted := if afterMatch && here.skipped.isEmpty then [] else [.found here]
              let passed := match rest with
                | [] => []
                | character :: rest =>
                    .kept [character] :: segments expression fuel character false rest
              .kept here.skipped :: counted ++ passed
          | matched, rest =>
              .kept here.skipped :: .found here ::
                segments expression fuel matched.getLast? true rest

/-- The pieces of a whole text. -/
def segmentsOf (expression : Regex) (text : Data) : List Segment :=
  segments expression (text.length + 2) none false text

/-- The same expression regardless of the case of letters. -/
def ignoringCase : Regex → Regex
  | .one accepts => .one accepts.ignoringCase
  | .sequence first second => .sequence first.ignoringCase second.ignoringCase
  | .either first second => .either first.ignoringCase second.ignoringCase
  | .repeated inner least most => .repeated inner.ignoringCase least most
  | .group number inner => .group number inner.ignoringCase
  | expression => expression

/-- The expression that matches a text alone. -/
def ofText (text : Data) : Regex :=
  text.foldr (fun character rest => .sequence (.one (.exactly character)) rest) .empty

/-- The expression for a list of expressions one after the other. -/
def ofList (expressions : List Regex) : Regex := expressions.foldr .sequence .empty

end Regex

end MarkupLint.Shell
