import EntityQuery.Text.CodePoints

/-!
Search patterns with groups: the parts of a text that a pattern matches, and what its groups hold there.
Every way to match is a match. A search gives one of them, and fails only if there is none.
-/

namespace EntityQuery.Text

def inClass (ranges : List (Char × Char)) (c : Char) : Bool :=
  ranges.any fun range => range.1 ≤ c && c ≤ range.2

/-- A run takes at least some number of characters of its class. -/
inductive Pattern where
  | textStart
  | textEnd
  | one (ranges : List (Char × Char))
  | run (least : Nat) (ranges : List (Char × Char))
  | group (inner : Pattern)
  | followedBy (first second : Pattern)

namespace Pattern

/-- In the text `before ++ found ++ after` the pattern matches the part in the middle. Its groups hold these
parts, in the order in which they open. -/
inductive Matches : Pattern → List Char → List Char → List Char → List (List Char) → Prop
  | textStart (after : List Char) : Matches textStart [] [] after []
  | textEnd (before : List Char) : Matches textEnd before [] [] []
  | one {ranges : List (Char × Char)} {c : Char} (before after : List Char) (inside : inClass ranges c = true) :
      Matches (one ranges) before [c] after []
  | run {least : Nat} {ranges : List (Char × Char)} {found : List Char} (before after : List Char)
      (enough : least ≤ found.length) (inside : found.all (inClass ranges) = true) :
      Matches (run least ranges) before found after []
  | group {p : Pattern} {before found after : List Char} {groups : List (List Char)}
      (inner : Matches p before found after groups) : Matches (group p) before found after (found :: groups)
  | followedBy {p q : Pattern} {before left right after : List Char} {groups more : List (List Char)}
      (first : Matches p before left (right ++ after) groups) (second : Matches q (before ++ left) right after more) :
      Matches (followedBy p q) before (left ++ right) after (groups ++ more)

/-- The pattern matches somewhere in a text, with these parts in its groups. -/
def Finds (p : Pattern) (text : List Char) (groups : List (List Char)) : Prop :=
  ∃ before found after, text = before ++ found ++ after ∧ p.Matches before found after groups

variable {p q : Pattern} {ranges : List (Char × Char)} {before found after : List Char} {groups : List (List Char)}

theorem matches_textStart_iff :
    textStart.Matches before found after groups ↔ before = [] ∧ found = [] ∧ groups = [] := by
  constructor
  · rintro ⟨⟩
    exact ⟨rfl, rfl, rfl⟩
  · rintro ⟨rfl, rfl, rfl⟩
    exact .textStart after

theorem matches_textEnd_iff :
    textEnd.Matches before found after groups ↔ after = [] ∧ found = [] ∧ groups = [] := by
  constructor
  · rintro ⟨⟩
    exact ⟨rfl, rfl, rfl⟩
  · rintro ⟨rfl, rfl, rfl⟩
    exact .textEnd before

theorem matches_one_iff :
    (one ranges).Matches before found after groups ↔ (∃ c, found = [c] ∧ inClass ranges c = true) ∧ groups = [] := by
  constructor
  · rintro ⟨⟩
    exact ⟨⟨_, rfl, ‹_›⟩, rfl⟩
  · rintro ⟨⟨c, rfl, inside⟩, rfl⟩
    exact .one before after inside

theorem matches_run_iff {least : Nat} :
    (run least ranges).Matches before found after groups ↔
      (least ≤ found.length ∧ found.all (inClass ranges) = true) ∧ groups = [] := by
  constructor
  · rintro ⟨⟩
    exact ⟨⟨‹_›, ‹_›⟩, rfl⟩
  · rintro ⟨⟨enough, inside⟩, rfl⟩
    exact .run before after enough inside

theorem matches_group_iff :
    (group p).Matches before found after groups ↔
      ∃ inner, p.Matches before found after inner ∧ groups = found :: inner := by
  constructor
  · rintro ⟨⟩
    exact ⟨_, ‹_›, rfl⟩
  · rintro ⟨inner, matched, rfl⟩
    exact .group matched

theorem matches_followedBy_iff :
    (p.followedBy q).Matches before found after groups ↔
      ∃ left right, found = left ++ right ∧ ∃ inner more, groups = inner ++ more ∧
        p.Matches before left (right ++ after) inner ∧ q.Matches (before ++ left) right after more := by
  constructor
  · rintro ⟨⟩
    exact ⟨_, _, rfl, _, _, rfl, ‹_›, ‹_›⟩
  · rintro ⟨left, right, rfl, inner, more, rfl, first, second⟩
    exact .followedBy first second

end Pattern

end EntityQuery.Text
