import SqlEngine.Proofs.Histories
import SqlEngine.Proofs.Timeless

/-!
# Tables are independent

A statement is about one table at most.  What it answers and what it makes of this table depend only
on what the table was before, and no other table changes.  Statements about different tables
therefore come to the same in every order.
-/

namespace SqlEngine
namespace Tree

/-- The name that a node carries, if it is the node of a name. -/
def identifier? : Tree → Option String
  | ⟨.identifier, name, _⟩ => some name
  | _ => none

/-- The name of the table that a statement is about.  Statements about databases have none, and
neither have those that control transactions. -/
def target? (tree : Tree) : Option String :=
  match tree.token with
  | .create =>
    match tree.onlyChild? with
    | some target =>
      if target.token = .table then (target.find? .identifier).map (·.lexeme) else none
    | none => none
  | .drop =>
    match tree.onlyChild? with
    | some ⟨.table, _, [named]⟩ => some named.lexeme
    | _ => none
  | .truncate => (tree.onlyChild?.bind onlyChild?).bind identifier?
  | .insert => ((tree.find? .into).bind onlyChild?).bind identifier?
  | .update => tree.children.head?.bind identifier?
  | .delete | .select => ((tree.find? .fromTable).bind onlyChild?).bind identifier?
  | _ => none

/-- The forms of statements with a table, and two that have none. -/
example : (Script.parse "CREATE TABLE t (a INT); DROP TABLE t; TRUNCATE t; INSERT INTO t VALUES (1);
    SELECT a FROM t; UPDATE t SET a = 1; DELETE FROM t; DROP DATABASE t; BEGIN").toOption.map
    (·.map Tree.target?) = some (List.replicate 7 (some "t") ++ [none, none]) := by
  decide +kernel

theorem identifier_eq_ok {node : Option Tree} {of name : String} :
    identifier node of = .ok name ↔ node.bind identifier? = some name := by
  unfold identifier
  split
  · simp [identifier?]
  · rename_i other
    simp only [reduceCtorEq, false_iff]
    intro named
    obtain ⟨found, rfl, carries⟩ := Option.bind_eq_some_iff.mp named
    unfold identifier? at carries
    split at carries
    · exact other _ _ rfl
    · contradiction

end Tree

namespace Checked

variable {ε α β γ δ : Type} {related : α → β → Prop}

/-- Whether two computations fail with the same fault, or succeed with related results. -/
inductive Alike (related : α → β → Prop) : Except ε α → Except ε β → Prop where
  /-- Both succeed. -/
  | ok {left : α} {right : β} (same : related left right) : Alike related (.ok left) (.ok right)
  /-- Both fail. -/
  | error (fault : ε) : Alike related (.error fault) (.error fault)

/-- Computations that go on differently from the same step. -/
theorem Alike.bind {first : Except ε γ} {next : γ → Except ε α} {next' : γ → Except ε β}
    (others : ∀ value, first = .ok value → Alike related (next value) (next' value)) :
    Alike related (first >>= next) (first >>= next') := by
  cases first with
  | ok value => exact others value rfl
  | error fault => exact .error fault

end Checked

namespace Database

variable {now : Timestamp} {left right : Database} {tree : Tree}

theorem ext_find? (same : ∀ name, left.find? name = right.find? name) : left = right := by
  obtain ⟨relations⟩ := left
  obtain ⟨relations'⟩ := right
  congr 1
  apply Std.ExtTreeMap.ext_getElem?
  exact same

theorem put_find? {database : Database} {relation : Relation}
    (found : database.find? relation.name = some relation) : database.put relation = database := by
  refine ext_find? fun name => ?_
  rw [find?_put]
  split
  · rename_i same
    rw [← same, found]
  · rfl

theorem put_put (database : Database) {relation other : Relation}
    (same : other.name = relation.name) :
    (database.put relation).put other = database.put other := by
  refine ext_find? fun name => ?_
  simp only [find?_put, same]
  split <;> rfl

/-- Whether a result on one database is told by a result on another one in which a table, if there
is one to be told, has the same contents: the reply and the new contents of the table are the same,
and all other tables are as they were. -/
def Follows (aim : Option String) (left : Database) (result result' : Reply × Database) : Prop :=
  result.1 = result'.1 ∧ ∀ name, result.2.find? name =
    if aim = some name then result'.2.find? name else left.find? name

variable {aim : Option String}

theorem follows_unchanged (same : ∀ name ∈ aim, left.find? name = right.find? name)
    (reply : Reply) : Follows aim left (reply, left) (reply, right) := by
  refine ⟨rfl, fun name => ?_⟩
  split
  · exact same name ‹_›
  · rfl

theorem follows_put {relation : Relation} (named : aim = some relation.name) (reply : Reply) :
    Follows aim left (reply, left.put relation) (reply, right.put relation) := by
  subst named
  refine ⟨rfl, fun name => ?_⟩
  simp only [find?_put, Option.some.injEq]
  split <;> rfl

theorem follows_erase {erased : String} (reply : Reply) :
    Follows (some erased) left (reply, ⟨left.relations.erase erased⟩)
      (reply, ⟨right.relations.erase erased⟩) := by
  refine ⟨rfl, fun name => ?_⟩
  simp only [find?_erase, Option.some.injEq]
  split <;> rfl

theorem relation_congr {name : String} (same : left.find? name = right.find? name) :
    left.relation name = right.relation name := by
  unfold Database.relation
  rw [same]

/-! ## Statements follow their table -/

section Following

open Checked

variable (sound : left.Sound) (same : ∀ name ∈ aim, left.find? name = right.find? name)
include sound same

theorem alike_runInsert (aims : ∀ name ∈ ((tree.find? .into).bind Tree.onlyChild?).bind
    Tree.identifier?, aim = some name) :
    Alike (Follows aim left) (left.runInsert now tree) (right.runInsert now tree) := by
  simp only [runInsert]
  split
  · rename_i found
    obtain rfl := aims _ (by rw [found]; rfl)
    refine Alike.bind fun into done => Alike.bind fun values _ => ?_
    obtain rfl := Except.ok.inj done
    rw [← relation_congr (same _ rfl)]
    refine Alike.bind fun relation there => Alike.bind fun targets _ => Alike.bind fun rows _ => ?_
    obtain ⟨named, -⟩ := sound _ relation (relation_eq_ok.mp there)
    refine Alike.bind fun filled inserted => .ok (follows_put ?_ _)
    obtain ⟨-, -, rfl⟩ := Relation.insertAll_eq_ok.mp inserted
    exact congrArg some named.symm
  · exact .error _

theorem alike_runUpdate
    (aims : ∀ name ∈ tree.children.head?.bind Tree.identifier?, aim = some name) :
    Alike (Follows aim left) (left.runUpdate now tree) (right.runUpdate now tree) := by
  simp only [runUpdate]
  refine Alike.bind fun name found => Alike.bind fun set _ => ?_
  obtain rfl := aims name (Tree.identifier_eq_ok.mp found)
  rw [← relation_congr (same name rfl)]
  refine Alike.bind fun relation there => Alike.bind fun predicate _ => ?_
  refine Alike.bind fun changes _ => Alike.bind fun marked _ => Alike.bind fun rows _ => ?_
  obtain ⟨named, -⟩ := sound name relation (relation_eq_ok.mp there)
  split
  · exact .ok (follows_unchanged same _)
  · refine Alike.bind fun numbering _ => Alike.bind fun changed replaced => ?_
    refine .ok (follows_put ?_ _)
    obtain ⟨-, rfl⟩ := Relation.replaceRows_eq_ok.mp replaced
    exact congrArg some named.symm

theorem alike_runDelete (aims : ∀ name ∈ ((tree.find? .fromTable).bind Tree.onlyChild?).bind
    Tree.identifier?, aim = some name) :
    Alike (Follows aim left) (left.runDelete now tree) (right.runDelete now tree) := by
  simp only [runDelete]
  refine Alike.bind fun source required => Alike.bind fun name found => ?_
  rw [Tree.require_eq_ok.mp required] at aims
  obtain rfl := aims name (Tree.identifier_eq_ok.mp found)
  rw [← relation_congr (same name rfl)]
  refine Alike.bind fun relation there => Alike.bind fun predicate _ => ?_
  refine Alike.bind fun marked _ => .ok (follows_put ?_ _)
  obtain ⟨named, -⟩ := sound name relation (relation_eq_ok.mp there)
  exact congrArg some named.symm

theorem alike_runTruncate (aims : ∀ name ∈ (tree.onlyChild?.bind Tree.onlyChild?).bind
    Tree.identifier?, aim = some name) :
    Alike (Follows aim left) (left.runTruncate tree) (right.runTruncate tree) := by
  simp only [runTruncate]
  split
  · rename_i only
    rw [only] at aims
    refine Alike.bind fun name found => ?_
    obtain rfl := aims name (Tree.identifier_eq_ok.mp found)
    rw [← relation_congr (same name rfl)]
    refine Alike.bind fun relation there => .ok (follows_put ?_ _)
    obtain ⟨named, -⟩ := sound name relation (relation_eq_ok.mp there)
    exact congrArg some named.symm
  · exact .error _

omit sound in
theorem alike_createTable (aims : ∀ named ∈ tree.find? .identifier, aim = some named.lexeme) :
    Alike (Follows aim left) (left.createTable now tree) (right.createTable now tree) := by
  simp only [createTable]
  refine Alike.bind fun named required => ?_
  obtain rfl := aims named (Tree.require_eq_ok.mp required)
  have present : left.contains named.lexeme = right.contains named.lexeme := by
    rw [contains_eq_isSome, contains_eq_isSome, same named.lexeme rfl]
  rw [present]
  split
  · split
    · exact .ok (follows_unchanged same _)
    · exact .error _
  · split
    · exact .error _
    · refine Alike.bind fun columns _ => ?_
      unfold create
      rw [present]
      split
      · exact .error _
      · exact .ok (follows_put rfl _)

omit sound in
theorem alike_runCreate (aims : ∀ target, tree.onlyChild? = some target → target.token = .table →
    ∀ named ∈ target.find? .identifier, aim = some named.lexeme) :
    Alike (Follows aim left) (left.runCreate now tree) (right.runCreate now tree) := by
  simp only [runCreate]
  refine Alike.bind fun target only => ?_
  split
  · exact Alike.bind fun _ _ => .ok (follows_unchanged same _)
  · rename_i kind
    exact alike_createTable same (aims target (Tree.require_eq_ok.mp only) kind)
  · exact .error _

omit sound in
theorem alike_runDrop (aims : ∀ target named,
    tree.onlyChild? = some ⟨.table, target, [named]⟩ → aim = some named.lexeme) :
    Alike (Follows aim left) (left.runDrop tree) (right.runDrop tree) := by
  unfold runDrop
  split
  · exact .ok (follows_unchanged same _)
  · rename_i target named only
    obtain rfl := aims target named only
    simp only [drop, ← relation_congr (same named.lexeme rfl)]
    cases left.relation named.lexeme with
    | error error => exact .error error
    | ok relation => exact .ok (follows_erase _)
  · exact .error _

omit sound in
theorem runSelect_congr (aims : ∀ name ∈ ((tree.find? .fromTable).bind Tree.onlyChild?).bind
    Tree.identifier?, aim = some name) : left.runSelect now tree = right.runSelect now tree := by
  simp only [runSelect]
  refine bind_congr fun source required => bind_congr fun name found => ?_
  rw [Tree.require_eq_ok.mp required] at aims
  obtain rfl := aims name (Tree.identifier_eq_ok.mp found)
  rw [relation_congr (same name rfl)]

end Following

/-- A statement does the same on two databases in which its table, if it has one, is the same. -/
theorem alike_execute (sound : left.Sound)
    (same : ∀ name ∈ tree.target?, left.find? name = right.find? name) :
    Checked.Alike (Follows tree.target? left) (left.execute now tree)
      (right.execute now tree) := by
  unfold execute
  split
  all_goals rename_i kind
  · refine alike_runCreate same fun target only token named found => ?_
    simp [Tree.target?, kind, only, token, Option.mem_def.mp found]
  · refine alike_runDrop same fun target named only => ?_
    simp [Tree.target?, kind, only]
  · exact alike_runTruncate sound same fun name found => by simpa [Tree.target?, kind] using found
  · exact alike_runInsert sound same fun name found => by simpa [Tree.target?, kind] using found
  · exact alike_runUpdate sound same fun name found => by simpa [Tree.target?, kind] using found
  · exact alike_runDelete sound same fun name found => by simpa [Tree.target?, kind] using found
  · have aims : ∀ name ∈ ((tree.find? .fromTable).bind Tree.onlyChild?).bind Tree.identifier?,
        tree.target? = some name := fun name found => by simpa [Tree.target?, kind] using found
    rw [runSelect_congr same aims]
    exact Checked.Alike.bind fun reply _ => .ok (follows_unchanged same reply)
  all_goals exact .error _

/-! ## Answers -/

/-- What a statement answers. -/
def answer (now : Timestamp) (database : Database) (tree : Tree) : Except Error Reply :=
  Prod.fst <$> database.execute now tree

theorem answer_timeless (timeless : tree.Timeless) (now later : Timestamp) (database : Database) :
    database.answer now tree = database.answer later tree ∧
      database.call now (.statement tree) = database.call later (.statement tree) := by
  simp only [answer, call, execute_timeless timeless now later, and_self]

/-- The answer to a statement, and what it makes of its table, depend on this table alone; all other
tables stay as they are. -/
theorem Sound.answer_and_call (sound : left.Sound) (now : Timestamp)
    (same : ∀ name, tree.target? = some name → left.find? name = right.find? name) :
    left.answer now tree = right.answer now tree ∧
      ∀ name, (left.call now (.statement tree)).find? name =
        if tree.target? = some name then (right.call now (.statement tree)).find? name
        else left.find? name := by
  have alike : Checked.Alike (Follows tree.target? left) (left.execute now tree)
      (right.execute now tree) := alike_execute sound same
  simp only [answer, Database.call]
  generalize left.execute now tree = outcome at alike
  generalize right.execute now tree = outcome' at alike
  cases alike with
  | ok follows => exact ⟨congrArg Except.ok follows.1, follows.2⟩
  | error fault => exact ⟨rfl, (follows_unchanged same (.changed 0 0)).2⟩

/-- The answers to statements that are run in turn, each at its own time, whatever came of those
before it. -/
def answers (database : Database) : List (Timestamp × Tree) → List (Except Error Reply)
  | [] => []
  | (now, tree) :: others =>
    database.answer now tree :: (database.call now (.statement tree)).answers others

/-- The database behind statements that are run in turn. -/
def behind (database : Database) (statements : List (Timestamp × Tree)) : Database :=
  database.calls (statements.map fun (now, tree) => (now, .statement tree))

end Database

/-- Whether two statements are about different tables, or one of them about none. -/
def Tree.Apart (first second : Tree) : Prop :=
  ∀ name, first.target? = some name → second.target? ≠ some name

theorem Tree.Apart.symm {first second : Tree} (apart : first.Apart second) : second.Apart first :=
  fun name here there => apart name there here

namespace Database

variable {statements others : List (Timestamp × Tree)} {database : Database}

theorem Sound.find?_call (sound : database.Sound) {name : String}
    (other : tree.target? ≠ some name) :
    (database.call now (.statement tree)).find? name = database.find? name := by
  have frame : (database.call now (.statement tree)).find? name =
      if tree.target? = some name then (database.call now (.statement tree)).find? name
      else database.find? name := (sound.answer_and_call now fun _ _ => rfl).2 name
  rwa [if_neg other] at frame

/-- A statement about another table makes no difference. -/
theorem Sound.answer_and_call_behind (sound : database.Sound) {first : Tree}
    (apart : first.Apart tree) (now later : Timestamp) :
    let middle := database.call now (.statement first)
    middle.answer later tree = database.answer later tree ∧
      ∀ name, tree.target? = some name → (middle.call later (.statement tree)).find? name =
        (database.call later (.statement tree)).find? name := by
  intro middle
  have same : ∀ name, tree.target? = some name → middle.find? name = database.find? name :=
    fun name aimed => sound.find?_call (apart.symm name aimed)
  obtain ⟨answers, contents⟩ := (sound.call now (.statement first)).answer_and_call later same
  refine ⟨answers, fun name aimed => ?_⟩
  rw [contents name, if_pos aimed]

/-- Statements about different tables come to what each of them comes to alone. -/
theorem Sound.run_in_turn (sound : database.Sound)
    (apart : statements.Pairwise fun first second => first.2.Apart second.2) :
    database.answers statements = statements.map (fun entry => database.answer entry.1 entry.2) ∧
      (∀ entry ∈ statements, ∀ name, entry.2.target? = some name →
        (database.behind statements).find? name =
          (database.call entry.1 (.statement entry.2)).find? name) ∧
      ∀ name, (∀ entry ∈ statements, entry.2.target? ≠ some name) →
        (database.behind statements).find? name = database.find? name := by
  induction statements generalizing database with
  | nil => exact ⟨rfl, by simp, fun _ _ => rfl⟩
  | cons first statements induction =>
      obtain ⟨now, tree⟩ := first
      obtain ⟨here, there⟩ := List.pairwise_cons.mp apart
      obtain ⟨answered, aimed, missed⟩ := induction (sound.call now (.statement tree)) there
      have alone (entry) (member : entry ∈ statements) :=
        sound.answer_and_call_behind (here entry member) now entry.1
      refine ⟨?_, ?_, ?_⟩
      · rw [answers, answered, List.map_cons]
        exact congrArg _ (List.map_congr_left fun entry member => (alone entry member).1)
      · refine List.forall_mem_cons.mpr ⟨fun name target => ?_, fun entry member name target => ?_⟩
        · exact missed name fun entry member => here entry member name target
        · exact (aimed entry member name target).trans ((alone entry member).2 name target)
      · intro name other
        obtain ⟨first, others⟩ := List.forall_mem_cons.mp other
        exact (missed name others).trans (sound.find?_call first)

theorem exists_of_perm (same : (statements.map (·.2)).Perm (others.map (·.2)))
    {entry : Timestamp × Tree} (member : entry ∈ others) :
    ∃ entry' ∈ statements, entry'.2 = entry.2 :=
  List.mem_map.mp (same.symm.subset (List.mem_map_of_mem member))

theorem apart_of_perm (same : (statements.map (·.2)).Perm (others.map (·.2)))
    (apart : statements.Pairwise fun first second => first.2.Apart second.2) :
    others.Pairwise fun first second => first.2.Apart second.2 := by
  rw [← List.pairwise_map] at apart ⊢
  exact same.pairwise apart Tree.Apart.symm

/-- Statements about different tables leave the same database behind in every order and at all
times. -/
theorem Sound.behind_of_perm (sound : database.Sound)
    (apart : statements.Pairwise fun first second => first.2.Apart second.2)
    (timeless : ∀ entry ∈ statements, entry.2.Timeless)
    (same : (statements.map (·.2)).Perm (others.map (·.2))) :
    database.behind statements = database.behind others := by
  have apart' := apart_of_perm same apart
  obtain ⟨-, aimed, missed⟩ := sound.run_in_turn apart
  obtain ⟨-, aimed', missed'⟩ := sound.run_in_turn apart'
  refine ext_find? fun name => ?_
  by_cases target : ∃ entry ∈ statements, entry.2.target? = some name
  · obtain ⟨entry, member, target⟩ := target
    obtain ⟨entry', member', tree⟩ := exists_of_perm same.symm member
    have moved := (answer_timeless (timeless entry member) entry.1 entry'.1 database).2
    rw [aimed entry member name target, moved, ← tree, aimed' entry' member' name (tree ▸ target)]
  · have other : ∀ entry ∈ statements, entry.2.target? ≠ some name :=
      fun entry member found => target ⟨entry, member, found⟩
    have other' : ∀ entry ∈ others, entry.2.target? ≠ some name := by
      intro entry member
      obtain ⟨entry', member', tree⟩ := exists_of_perm same member
      exact tree ▸ other entry' member'
    rw [missed name other, missed' name other']

/-- Tables are independent.  On two databases with histories in which the table of a statement is
the same, the statement has the same answer and makes the same of its table; it leaves every other
table as it was.  Statements without the current time about different tables therefore have the answers
that each of them has alone, in whatever order and at whatever times they are run, and leave the
same database behind; and if each makes a table that is not there yet, and could make it in a
database without tables, all of them succeed. -/
theorem independent_after_calls (history history' : List (Timestamp × Call)) :
    let start := empty.calls history
    let start' := empty.calls history'
    (∀ (now : Timestamp) (tree : Tree),
      ((∀ name, tree.target? = some name → start.find? name = start'.find? name) →
        start.answer now tree = start'.answer now tree ∧
          ∀ name, tree.target? = some name → (start.call now (.statement tree)).find? name =
            (start'.call now (.statement tree)).find? name) ∧
      ∀ name, tree.target? ≠ some name →
        (start.call now (.statement tree)).find? name = start.find? name) ∧
    ∀ statements others : List (Timestamp × Tree),
      (∀ entry ∈ statements, entry.2.Timeless) →
      (statements.Pairwise fun first second => first.2.Apart second.2) →
      (statements.map (·.2)).Perm (others.map (·.2)) →
        start.behind statements = start.behind others ∧
        (∀ now, start.answers others = others.map fun entry => start.answer now entry.2) ∧
        ((∀ entry ∈ statements, (∃ name, entry.2.target? = some name ∧ start.find? name = none) ∧
            empty.answer entry.1 entry.2 = .ok (.changed 0 1)) →
          start.answers others = others.map fun _ => .ok (.changed 0 1)) := by
  intro start start'
  have sound : start.Sound := sound_empty.calls history
  refine ⟨fun now tree => ⟨fun same => ?_, fun name other => sound.find?_call other⟩,
    fun statements others timeless apart same => ?_⟩
  · obtain ⟨answers, contents⟩ := sound.answer_and_call now same
    exact ⟨answers, fun name aimed => (contents name).trans (if_pos aimed)⟩
  · have answered := (sound.run_in_turn (apart_of_perm same apart)).1
    refine ⟨sound.behind_of_perm apart timeless same, fun now => ?_, fun fresh => ?_⟩
    · rw [answered]
      refine List.map_congr_left fun entry member => ?_
      obtain ⟨entry', member', tree⟩ := exists_of_perm same member
      exact (answer_timeless (tree ▸ timeless entry' member') entry.1 now start).1
    · rw [answered]
      refine List.map_congr_left fun entry member => ?_
      obtain ⟨entry', member', tree⟩ := exists_of_perm same member
      obtain ⟨⟨name, aimed, absent⟩, made⟩ := fresh entry' member'
      have new : ∀ other, entry.2.target? = some other → start.find? other = empty.find? other := by
        intro other target
        rw [← tree, aimed] at target
        rw [← Option.some.inj target, absent, find?_empty]
      rw [(sound.answer_and_call entry.1 new).1, ← tree,
        (answer_timeless (timeless entry' member') entry.1 entry'.1 empty).1, made]

/-- Two tables that are made in either order. -/
theorem independent_creations :
    let now := Date.atMidnight ⟨1970, 1, 1, by decide⟩
    let made (name : String) : Tree := ⟨.create, "CREATE", [⟨.table, "TABLE",
      [⟨.identifier, name, [⟨.columnDef, "a", [⟨.typeName, "INT", []⟩]⟩]⟩]⟩]⟩
    empty.behind [(now, made "t"), (now, made "u")] =
        empty.behind [(now, made "u"), (now, made "t")] ∧
      empty.answers [(now, made "u"), (now, made "t")] =
        [.ok (.changed 0 1), .ok (.changed 0 1)] := by
  intro now made
  have apart : (made "t").Apart (made "u") := by
    intro name here there
    have same : "t" = "u" := Option.some.inj (here.trans there.symm)
    exact absurd same (by decide)
  have timeless : ∀ entry ∈ [(now, made "t"), (now, made "u")], entry.2.Timeless := by
    decide +kernel
  obtain ⟨same, -, succeed⟩ := (independent_after_calls [] []).2 [(now, made "t"), (now, made "u")]
    [(now, made "u"), (now, made "t")] timeless (by simpa using apart) (.swap _ _ [])
  refine ⟨same, succeed (List.forall_mem_cons.mpr ⟨?_, List.forall_mem_singleton.mpr ?_⟩)⟩
  · exact ⟨⟨"t", rfl, find?_empty "t"⟩, by decide +kernel⟩
  · exact ⟨⟨"u", rfl, find?_empty "u"⟩, by decide +kernel⟩

end Database
end SqlEngine
