import SqlEngine.Proofs.Continuations
import SqlEngine.Proofs.WellTyped

/-!
# Conditions joined by AND and OR

Terms that are joined by AND, and groups of them that are joined by OR, are read as the groups and
their terms.  The predicate of the whole tells of a row what the predicates of the terms tell of it,
from left to right, up to the first that decides.
-/

namespace SqlEngine
namespace Scan

open Grammar Wording

variable {α β : Type}

/-! ## Texts with words between them -/

/-- Whether nothing follows, or a space and more. -/
def Spaced (more : List Char) : Prop :=
  more = [] ∨ ∃ tail, more = ' ' :: tail

/-- Whether a scanner reads a text, and skips the spaces behind it, wherever something that `next`
allows follows the text. -/
def ReadsBefore (next : List Char → Prop) (item : Scan α) (text : List Char) (value : α) : Prop :=
  ∀ more, next more → item (text ++ more) = .done (value, more.dropWhile isSpace)

/-- Whether it makes no difference to a scanner if spaces stand in front. -/
def Skips (item : Scan α) : Prop :=
  ∀ chars, item (chars.dropWhile isSpace) = item chars

theorem skips_spaced (item : Scan α) : (spaced item).Skips := by
  intro chars
  rw [spaced_eq, spaced_eq, List.dropWhile_idempotent]

theorem Skips.bind {item : Scan α} (skips : item.Skips) (next : α → Scan β) :
    (item >>= next).Skips := by
  intro chars
  rw [bind_apply, bind_apply, skips]

theorem Skips.orElse {first second : Scan α} (here : first.Skips) (there : second.Skips) :
    (first <|> second).Skips := by
  intro chars
  change (first _).orElse (fun _ => second _) = (first chars).orElse fun _ => second chars
  rw [here, there]

theorem Tidy.readsBefore {item : Scan α} (tidy : item.Tidy) {text : List Char} {value : α}
    (read : item text = .done (value, [])) : ReadsBefore Spaced item text value := by
  rintro more (rfl | ⟨tail, rfl⟩)
  · rw [List.append_nil, read, List.dropWhile_nil]
  · rw [tidy.append read, List.nil_append]

theorem ReadsBefore.map {next : List Char → Prop} {item : Scan α} {text : List Char} {value : α}
    (reads : ReadsBefore next item text value) (change : α → β) :
    ReadsBefore next (item >>= fun value => pure (change value)) text (change value) :=
  fun more follows => bind_of_done (reads more follows)

end Scan

namespace Grammar

open Scan Wording

theorem skips_term : term.Skips :=
  have name : nameNode.Skips := (skips_spaced _).bind _
  (name.bind _).orElse ((name.bind _).orElse ((name.bind _).orElse
    ((name.bind _).orElse (name.bind _))))

/-- A word between two texts, with spaces around it. -/
def joint (expected : String) : List Char :=
  ' ' :: expected.toList ++ [' ']

theorem intercalate_cons (joint first : List Char) (others : List (List Char)) :
    joint.intercalate (first :: others) = first ++ others.flatMap (joint ++ ·) := by
  induction others generalizing first with
  | nil => simp
  | cons second others induction =>
      rw [List.intercalate_cons_cons, induction, List.flatMap_cons, List.append_assoc,
        List.append_assoc]

section Joined

variable {α : Type} {expected : String} {item : Scan α} {within next : List Char → Prop}
  {text : List Char} {value : α} {texts : List (List Char)} {values : List α}

theorem dropWhile_word (plain : isPlain expected = true) (rest : List Char) :
    (expected.toList ++ rest).dropWhile isSpace = expected.toList ++ rest := by
  obtain ⟨nonempty, all⟩ := Bool.and_eq_true_iff.mp plain
  have some : expected.toList ≠ [] := by
    intro empty
    rw [empty] at nonempty
    contradiction
  obtain ⟨c, others, split⟩ := List.exists_cons_of_ne_nil some
  have letter : isLetter c = true := List.all_eq_true.mp all c (split ▸ List.mem_cons_self)
  have visible : isSpace c = false := not_isSpace_of_isLetter (isLetter_small letter)
  rw [split, List.cons_append, List.dropWhile_cons_of_neg (by simp [visible])]

theorem word_append (plain : isPlain expected = true) (rest : List Char) :
    word expected (expected.toList ++ ' ' :: rest) = .done (expected, rest.dropWhile isSpace) := by
  have core : (do
      let lexeme ← letters expected
      notNext isNameChar
      return lexeme) (expected.toList ++ ' ' :: rest) = .done (expected, ' ' :: rest) := by
    have whole : letters expected (expected.toList ++ ' ' :: rest) =
        .done (String.ofList expected.toList, ' ' :: rest) :=
      letters_append (letters_plain plain) rfl (' ' :: rest)
    rw [String.ofList_toList] at whole
    refine (bind_of_done whole).trans ?_
    exact bind_of_done (notNext_of_apart (by simp; decide +kernel))
  rw [word, spaced_eq, dropWhile_word plain, core]
  rfl

theorem within_joined (onward : ∀ rest, within (joint expected ++ rest)) {more : List Char}
    (ends : within more) : within (texts.flatMap (joint expected ++ ·) ++ more) := by
  cases texts with
  | nil => exact ends
  | cons text texts =>
      rw [List.flatMap_cons, List.append_assoc, List.append_assoc]
      exact onward _

/-- Texts that each have a word in front are read one after the other. -/
theorem many_joined (plain : isPlain expected = true) (skips : item.Skips)
    (onward : ∀ rest, within (joint expected ++ rest))
    (reads : List.Forall₂ (ReadsBefore within item) texts values) {more : List Char}
    (ends : within more) (stops : word expected more = .miss) :
    (word expected *> item).many
        ((texts.flatMap (joint expected ++ ·) ++ more).dropWhile isSpace) =
      .done (values, more.dropWhile isSpace) := by
  induction reads with
  | nil =>
      have stops_too : word expected (more.dropWhile isSpace) = .miss := by
        rw [word, skips_spaced]
        exact stops
      rw [List.flatMap_nil, List.nil_append, many_of_miss (seqRight_of_miss stops_too)]
  | @cons text value texts values first others induction =>
      let rest := texts.flatMap (joint expected ++ ·) ++ more
      have front : ((text :: texts).flatMap (joint expected ++ ·) ++ more).dropWhile isSpace =
          expected.toList ++ ' ' :: (text ++ rest) := by
        have split : (text :: texts).flatMap (joint expected ++ ·) ++ more =
            ' ' :: (expected.toList ++ ' ' :: (text ++ rest)) := by
          simp [rest, joint]
        rw [split, List.dropWhile_cons_of_pos rfl, dropWhile_word plain]
      have reads : (word expected *> item) (expected.toList ++ ' ' :: (text ++ rest)) =
          .done (value, rest.dropWhile isSpace) := by
        rw [seqRight_of_done (word_append plain _), skips, first rest (within_joined onward ends)]
      have shorter : (rest.dropWhile isSpace).length <
          (expected.toList ++ ' ' :: (text ++ rest)).length := by
        have := List.length_dropWhile_le isSpace rest
        simp only [List.length_append, List.length_cons]
        omega
      rw [front]
      exact many_of_done reads shorter induction

/-- Texts with a word between them are read in full, wherever the word does not follow. -/
theorem readsBefore_joined (plain : isPlain expected = true) (skips : item.Skips)
    (onward : ∀ rest, within (joint expected ++ rest))
    (ends : ∀ more, next more → within more ∧ word expected more = .miss)
    (reads : List.Forall₂ (ReadsBefore within item) texts values) (some : texts ≠ []) :
    ReadsBefore next (sepBy1 (word expected) item) ((joint expected).intercalate texts) values := by
  intro more follows
  obtain ⟨inside, stops⟩ := ends more follows
  cases reads with
  | nil => contradiction
  | @cons text value texts values first others =>
      have listed := many_joined plain skips onward others inside stops
      rw [intercalate_cons, List.append_assoc]
      refine (bind_of_done (first _ (within_joined onward inside))).trans ?_
      exact (bind_of_done listed).trans rfl

end Joined

/-! ## Terms, groups and clauses -/

/-- Whether nothing follows, or the next group of terms. -/
def BeforeGroup (more : List Char) : Prop :=
  more = [] ∨ ∃ rest, more = joint "OR" ++ rest

theorem BeforeGroup.ends {more : List Char} (before : BeforeGroup more) :
    Spaced more ∧ word "AND" more = .miss := by
  rcases before with rfl | ⟨rest, rfl⟩
  · exact ⟨.inl rfl, by decide +kernel⟩
  · have next : word "OR" (joint "OR" ++ rest) = .done ("OR", rest.dropWhile isSpace) := by
      rw [word, ← skips_spaced]
      exact (congrArg _ (dropWhile_word rfl _)).trans (word_append rfl rest)
    exact ⟨.inr ⟨_, rfl⟩, excludes_word (by decide) next⟩

/-- Terms joined by AND are a group. -/
theorem readsBefore_group {texts : List String} {trees : List Tree} (some : texts ≠ [])
    (reads : List.Forall₂ (fun text tree => whole term text = Option.some tree) texts trees) :
    ReadsBefore BeforeGroup group (" AND ".intercalate texts).toList
      (joined .allOf "AND" trees) := by
  have terms : List.Forall₂ (ReadsBefore Spaced term) (texts.map String.toList) trees :=
    List.forall₂_map_left_iff.mpr
      (reads.imp fun _ _ read => tidy_term.readsBefore (whole_eq_some.mp read))
  have between : " AND ".toList = joint "AND" := rfl
  rw [String.toList_intercalate, between]
  exact (readsBefore_joined rfl skips_term (fun rest => .inr ⟨_, rfl⟩)
    (fun _ before => before.ends) terms (by simpa using some)).map _

/-- Groups joined by OR are the condition of a clause. -/
theorem whole_whereClause {groups : List (List String)} {trees : List (List Tree)}
    (some : groups ≠ []) (each : ∀ texts ∈ groups, texts ≠ [])
    (reads : List.Forall₂ (List.Forall₂ fun text tree => whole term text = Option.some tree)
      groups trees) :
    whole whereClause ("WHERE " ++ " OR ".intercalate (groups.map (" AND ".intercalate ·))) =
      Option.some
        ⟨.whereClause, "WHERE", [joined .anyOf "OR" (trees.map (joined .allOf "AND"))]⟩ := by
  have sections : List.Forall₂ (ReadsBefore BeforeGroup group)
      ((groups.map (" AND ".intercalate ·)).map String.toList)
      (trees.map (joined .allOf "AND")) := by
    rw [List.map_map, List.forall₂_map_left_iff, List.forall₂_map_right_iff]
    refine ((List.forall₂_and_left _ _).mpr ⟨each, reads⟩).imp fun texts trees group => ?_
    exact readsBefore_group group.1 group.2
  have skips : group.Skips := (skips_term.bind _).bind _
  have ends (more : List Char) (nothing : more = []) :
      BeforeGroup more ∧ word "OR" more = .miss := by
    rw [nothing]
    exact ⟨.inl rfl, by decide +kernel⟩
  have conditions : ReadsBefore (· = []) condition
      (" OR ".intercalate (groups.map (" AND ".intercalate ·))).toList
      (joined .anyOf "OR" (trees.map (joined .allOf "AND"))) := by
    have between : " OR ".toList = joint "OR" := rfl
    rw [String.toList_intercalate, between]
    exact (readsBefore_joined rfl skips (fun rest => .inr ⟨rest, rfl⟩) ends sections
      (by simpa using some)).map _
  let rest := (" OR ".intercalate (groups.map (" AND ".intercalate ·))).toList
  have front : ("WHERE " ++ " OR ".intercalate (groups.map (" AND ".intercalate ·))).toList =
      "WHERE".toList ++ ' ' :: rest := by
    rw [String.toList_append]
    rfl
  have skips_too : condition.Skips := (skips.bind _).bind _
  have read : condition (rest.dropWhile isSpace) =
      .done (joined .anyOf "OR" (trees.map (joined .allOf "AND")), []) := by
    have read := conditions [] rfl
    rwa [List.append_nil, List.dropWhile_nil, ← skips_too] at read
  rw [whole_eq_some, front]
  exact (bind_of_done (word_append rfl rest)).trans (bind_of_done read)

end Grammar

namespace Predicate

variable {now : Timestamp} {relation : Relation} {row : Row}

/-! ## Predicates of groups and clauses -/

/-- One condition alone holds where the conditions that it is the only one of do. -/
theorem ofTree_joined (token : Token) {make : List Predicate → Predicate}
    (several : ∀ lexeme trees, ofTree now relation ⟨token, lexeme, trees⟩ =
      (do return make (← ofTrees now relation trees)))
    (alone : ∀ predicate row, (make [predicate]).holds row = predicate.holds row)
    (lexeme : String) {trees : List Tree} {predicates : List Predicate}
    (made : List.Forall₂ (fun tree predicate => ofTree now relation tree = .ok predicate)
      trees predicates) :
    ∃ predicate, ofTree now relation (Grammar.joined token lexeme trees) = .ok predicate ∧
      ∀ row, predicate.holds row = (make predicates).holds row := by
  unfold Grammar.joined
  split
  · obtain ⟨predicate, _, first, none, rfl⟩ := List.forall₂_cons_left_iff.mp made
    obtain rfl := List.forall₂_nil_left_iff.mp none
    exact ⟨predicate, first, fun row => (alone predicate row).symm⟩
  · refine ⟨make predicates, ?_, fun row => rfl⟩
    rw [several, ofTrees_of_forall₂ made]
    rfl

theorem holds_all_singleton (predicate : Predicate) (row : Row) :
    (all [predicate]).holds row = predicate.holds row := by
  simp only [holds, allHold]
  rcases predicate.holds row with error | truth
  · rfl
  · cases truth <;> rfl

theorem holds_any_singleton (predicate : Predicate) (row : Row) :
    (any [predicate]).holds row = predicate.holds row := by
  simp only [holds, anyHolds]
  rcases predicate.holds row with error | truth
  · rfl
  · cases truth <;> rfl

end Predicate

/-! ## Tests in turn -/

/-- What tests that are made one after the other come out as, while they come out as `passing`. -/
inductive InTurn (passing : Bool) : List (Except Error Bool) → Except Error Bool → Prop where
  /-- If every test comes out so, so does the whole. -/
  | passed {outcomes : List (Except Error Bool)}
      (all : ∀ outcome ∈ outcomes, outcome = .ok passing) : InTurn passing outcomes (.ok passing)
  /-- Otherwise the whole comes out as the first test that comes out in another way or fails. -/
  | stopped {front back : List (Except Error Bool)} {outcome : Except Error Bool}
      (all : ∀ earlier ∈ front, earlier = .ok passing) (other : outcome ≠ .ok passing) :
      InTurn passing (front ++ outcome :: back) outcome

namespace InTurn

variable {passing : Bool} {outcomes : List (Except Error Bool)} {outcome : Except Error Bool}

/-- A test that passes leaves it to those behind it. -/
theorem behind (later : InTurn passing outcomes outcome) :
    InTurn passing (.ok passing :: outcomes) outcome := by
  cases later with
  | passed all => exact .passed (List.forall_mem_cons.mpr ⟨rfl, all⟩)
  | stopped all other =>
      rw [← List.cons_append]
      exact .stopped (List.forall_mem_cons.mpr ⟨rfl, all⟩) other

/-- A test that does not pass decides. -/
theorem first (other : outcome ≠ .ok passing) (outcomes : List (Except Error Bool)) :
    InTurn passing (outcome :: outcomes) outcome :=
  @stopped passing [] outcomes outcome (fun _ none => nomatch none) other

theorem allHold (row : Row) (predicates : List Predicate) :
    InTurn true (predicates.map (·.holds row)) (Predicate.allHold row predicates) := by
  induction predicates with
  | nil => exact .passed (fun _ none => nomatch none)
  | cons predicate predicates induction =>
      rw [List.map_cons, Predicate.allHold]
      rcases predicate.holds row with error | truth
      · exact first (by simp) _
      · cases truth with
        | true => exact induction.behind
        | false => exact first (by simp) _

theorem anyHolds (row : Row) (predicates : List Predicate) :
    InTurn false (predicates.map (·.holds row)) (Predicate.anyHolds row predicates) := by
  induction predicates with
  | nil => exact .passed (fun _ none => nomatch none)
  | cons predicate predicates induction =>
      rw [List.map_cons, Predicate.anyHolds]
      rcases predicate.holds row with error | truth
      · exact first (by simp) _
      · cases truth with
        | true => exact first (by simp) _
        | false => exact induction.behind

end InTurn

/-- Whether a text is one term that becomes a predicate on the rows of a table. -/
def Compiles (now : Timestamp) (relation : Relation) (text : String) (predicate : Predicate) :
    Prop :=
  ∃ tree, Scan.whole Grammar.term text = some tree ∧
    Predicate.ofTree now relation tree = .ok predicate

/-- Terms that are joined by AND to groups, and groups that are joined by OR, are a condition that
every row meets or does not meet, or that fails on it, by the terms from left to right: a group
comes out as its first term that is not true, and the whole as its first group that is not false.
-/
theorem where_clause_holds_in_turn (now : Timestamp) (relation : Relation)
    {groups : List (List String)} {predicates : List (List Predicate)} (some : groups ≠ [])
    (each : ∀ texts ∈ groups, texts ≠ [])
    (compile : List.Forall₂ (List.Forall₂ (Compiles now relation)) groups predicates) :
    ∃ clause predicate,
      Scan.whole Grammar.whereClause
        ("WHERE " ++ " OR ".intercalate (groups.map (" AND ".intercalate ·))) = Option.some clause ∧
      Predicate.ofClause now relation (Option.some clause) = .ok predicate ∧
      ∀ row, ∃ outcomes,
        List.Forall₂ (fun group => InTurn true (group.map (·.holds row))) predicates outcomes ∧
        InTurn false outcomes (predicate.holds row) := by
  obtain ⟨trees, read, made⟩ :=
    Checked.exists_between (compile.imp fun _ _ => Checked.exists_between)
  have groups_made : List.Forall₂ (fun trees group => ∃ part,
      Predicate.ofTree now relation (Grammar.joined .allOf "AND" trees) = .ok part ∧
      ∀ row, part.holds row = Predicate.allHold row group) trees predicates :=
    made.imp fun _ _ =>
      Predicate.ofTree_joined .allOf (fun _ _ => by rw [Predicate.ofTree])
        Predicate.holds_all_singleton "AND"
  obtain ⟨parts, part_made, part_holds⟩ := Checked.exists_between groups_made
  obtain ⟨predicate, whole_made, whole_holds⟩ :=
    Predicate.ofTree_joined .anyOf (fun _ _ => by rw [Predicate.ofTree])
      Predicate.holds_any_singleton "OR" (List.forall₂_map_left_iff.mpr part_made)
  refine ⟨_, predicate, Grammar.whole_whereClause some each read, whole_made, fun row => ?_⟩
  refine ⟨parts.map (·.holds row), List.forall₂_map_right_iff.mpr (.flip ?_), ?_⟩
  · refine part_holds.imp fun part group same => ?_
    rw [flip, same row]
    exact .allHold row group
  · rw [whole_holds]
    exact .anyHolds row parts

/-- A group of two terms, and one of one. -/
theorem where_clause_of_listing :
    let now := Date.atMidnight ⟨1970, 1, 1, by decide⟩
    let positive : Predicate := .compare 0 .greaterOrEqual (.integer 1)
    let spelled : Predicate := .like 1 "x%".toList
    ∃ clause predicate,
      Scan.whole Grammar.whereClause "WHERE a >= 1 AND s LIKE 'x%' OR d IS NULL" = some clause ∧
      Predicate.ofClause now listing (some clause) = .ok predicate ∧
      ∀ row, ∃ outcomes,
        List.Forall₂ (fun group => InTurn true (group.map (·.holds row)))
          [[positive, spelled], [.isNull 2]] outcomes ∧
        InTurn false outcomes (predicate.holds row) := by
  intro now positive spelled
  let column (name : String) : Tree := ⟨.identifier, name, []⟩
  have one : Predicate.operand now (.ofType "a" .integer) ⟨.number, "1", []⟩ =
      .ok (.integer 1) := by
    decide +kernel
  have first : Compiles now listing "a >= 1" positive :=
    ⟨⟨.greaterOrEqual, ">=", [column "a", ⟨.number, "1", []⟩]⟩, by decide +kernel,
      Checked.bind_eq_ok.mpr ⟨_, rfl, Checked.bind_eq_ok.mpr ⟨_, one, rfl⟩⟩⟩
  have second : Compiles now listing "s LIKE 'x%'" spelled :=
    ⟨⟨.like, "LIKE", [column "s", ⟨.stringLit, "x%", []⟩]⟩, by decide +kernel, by rfl⟩
  have third : Compiles now listing "d IS NULL" (.isNull 2) :=
    ⟨⟨.isNull, "IS NULL", [column "d"]⟩, by decide +kernel, by rfl⟩
  have text : "WHERE " ++ " OR ".intercalate
      ([["a >= 1", "s LIKE 'x%'"], ["d IS NULL"]].map (" AND ".intercalate ·)) =
        "WHERE a >= 1 AND s LIKE 'x%' OR d IS NULL" := by
    decide +kernel
  rw [← text]
  exact where_clause_holds_in_turn now listing (by simp) (by simp)
    (.cons (.cons first (.cons second .nil)) (.cons (.cons third .nil) .nil))

end SqlEngine
