import SqlEngine.Statement.Tree
import Mathlib.Data.List.Forall2
import Mathlib.Data.Option.Defs

/-!
# Trees up to some of their texts

Two trees can differ only in what their strings contain, or only in how the words of the language
are spelled in them.
-/

namespace SqlEngine

/-- Whether nodes with a token keep a word of the language as it was written. -/
def Token.isSpelled : Token → Bool
  | database | table | beginTx | commit | rollback | unique | autoIncrement | into | values | count
  | fromTable | whereClause | assignments | order | asc | desc | limit | offset | like | inList
  | trueWord | falseWord | nullWord | now => true
  | _ => false

/-! ## Equal views of items -/

section Views

variable {α β γ : Type} {left : α → γ} {right : β → γ}

theorem map_eq_of_forall₂ {lefts : List α} {rights : List β}
    (same : List.Forall₂ (fun item item' => left item = right item') lefts rights) :
    lefts.map left = rights.map right := by
  rw [← List.forall₂_eq_eq_eq, List.forall₂_map_left_iff, List.forall₂_map_right_iff]
  exact same

theorem map_toList_eq_of_rel {part : Option α} {part' : Option β}
    (same : Option.Rel (fun item item' => left item = right item') part part') :
    part.toList.map left = part'.toList.map right := by
  cases same with
  | none => rfl
  | some same => exact congrArg ([·]) same

end Views

/-! ## Labels -/

namespace Tree

/-- The tree with another text in each of its nodes. -/
def relabel (text : Token → String → String) : Tree → Tree
  | ⟨token, lexeme, children⟩ => ⟨token, text token lexeme, children.map (relabel text)⟩

/-- The tree without the contents of its strings. -/
def withoutStrings (tree : Tree) : Tree :=
  tree.relabel fun token lexeme => if token = .stringLit then "" else lexeme

@[simp]
theorem withoutStrings_mk (token : Token) (lexeme : String) (children : List Tree) :
    withoutStrings ⟨token, lexeme, children⟩ =
      ⟨token, if token = .stringLit then "" else lexeme, children.map withoutStrings⟩ := by
  rw [withoutStrings, relabel]
  rfl

/-- Whether two trees differ only in what their strings contain. -/
def SameButStrings (left right : Tree) : Prop :=
  left.withoutStrings = right.withoutStrings

theorem SameButStrings.eq {left right : Tree} (same : SameButStrings left right) :
    left.withoutStrings = right.withoutStrings :=
  same

theorem map_withoutStrings {lefts rights : List Tree}
    (same : List.Forall₂ SameButStrings lefts rights) :
    lefts.map withoutStrings = rights.map withoutStrings :=
  map_eq_of_forall₂ same

theorem toList_withoutStrings {left right : Option Tree}
    (same : Option.Rel SameButStrings left right) :
    left.toList.map withoutStrings = right.toList.map withoutStrings :=
  map_toList_eq_of_rel same

/-- The tree without the words of the language. -/
def withoutSpelling (tree : Tree) : Tree :=
  tree.relabel fun token lexeme => if token.isSpelled then "" else lexeme

@[simp]
theorem withoutSpelling_mk (token : Token) (lexeme : String) (children : List Tree) :
    withoutSpelling ⟨token, lexeme, children⟩ =
      ⟨token, if token.isSpelled then "" else lexeme, children.map withoutSpelling⟩ := by
  rw [withoutSpelling, relabel]
  rfl

/-- Whether two trees differ only in how the words of the language are spelled. -/
def SameButSpelling (left right : Tree) : Prop :=
  left.withoutSpelling = right.withoutSpelling

theorem SameButSpelling.refl (tree : Tree) : SameButSpelling tree tree :=
  rfl

theorem SameButSpelling.eq {left right : Tree} (same : SameButSpelling left right) :
    left.withoutSpelling = right.withoutSpelling :=
  same

theorem map_withoutSpelling {α : Type} {tree : α → Tree} {found : List Tree} {values : List α}
    (same : List.Forall₂ (fun found value => SameButSpelling found (tree value)) found values) :
    found.map withoutSpelling = (values.map tree).map withoutSpelling := by
  rw [List.map_map]
  exact map_eq_of_forall₂ same

theorem toList_withoutSpelling {α : Type} {tree : α → Tree} {found : Option Tree} {value : Option α}
    (same : Option.Rel (fun found value => SameButSpelling found (tree value)) found value) :
    found.toList.map withoutSpelling = (value.map tree).toList.map withoutSpelling := by
  rw [Option.toList_map, List.map_map]
  exact map_toList_eq_of_rel same

end Tree
end SqlEngine
