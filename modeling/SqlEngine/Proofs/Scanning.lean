import SqlEngine.Text.Scan
import Mathlib.Data.List.Forall2

/-!
# Scanners, step by step

A scanner succeeds where its steps do, each on what the one before has left, and where one of its
alternatives does while all before it miss.
-/

namespace SqlEngine

namespace Attempt

variable {α β : Type}

@[simp]
theorem pure_eq_done (value : α) : (pure value : Attempt α) = done value :=
  rfl

@[simp]
theorem done_bind (value : α) (next : α → Attempt β) : done value >>= next = next value :=
  rfl

@[simp]
theorem miss_bind (next : α → Attempt β) : miss >>= next = miss :=
  rfl

@[simp]
theorem broken_bind (next : α → Attempt β) : broken >>= next = broken :=
  rfl

instance : LawfulMonad Attempt :=
  .mk' Attempt (fun found => by cases found <;> rfl) (fun _ _ => rfl)
    (fun found _ _ => by cases found <;> rfl)

theorem bind_eq_done {first : Attempt α} {next : α → Attempt β} {result : β} :
    first >>= next = done result ↔ ∃ value, first = done value ∧ next value = done result := by
  cases first <;> simp

@[simp]
theorem ofOption_some (value : α) : ofOption (some value) = done value :=
  rfl

@[simp]
theorem ofOption_none : ofOption (none : Option α) = miss :=
  rfl

@[simp]
theorem ofOption_eq_done {found : Option α} {value : α} :
    ofOption found = done value ↔ found = some value := by
  cases found <;> simp

end Attempt

namespace Scan

variable {α β : Type}

theorem bind_apply (first : Scan α) (next : α → Scan β) (chars : List Char) :
    (first >>= next) chars = first chars >>= fun found => next found.1 found.2 :=
  rfl

theorem bind_eq_done {first : Scan α} {next : α → Scan β} {chars rest : List Char} {result : β} :
    (first >>= next) chars = .done (result, rest) ↔
      ∃ value left, first chars = .done (value, left) ∧ next value left = .done (result, rest) := by
  rw [bind_apply, Attempt.bind_eq_done]
  simp

theorem pure_eq_done {value result : α} {chars rest : List Char} :
    (pure value : Scan α) chars = .done (result, rest) ↔ value = result ∧ chars = rest := by
  change Attempt.done (value, chars) = _ ↔ _
  simp

theorem seqRight_eq_done {first : Scan α} {next : Scan β} {chars rest : List Char} {result : β} :
    (first *> next) chars = .done (result, rest) ↔
      ∃ value left, first chars = .done (value, left) ∧ next left = .done (result, rest) := by
  change (first >>= fun _ => next) chars = _ ↔ _
  exact bind_eq_done

theorem orElse_eq_done {first second : Scan α} {chars rest : List Char} {result : α} :
    (first <|> second) chars = .done (result, rest) ↔
      first chars = .done (result, rest) ∨
        first chars = .miss ∧ second chars = .done (result, rest) := by
  change (first chars).orElse (fun _ => second chars) = _ ↔ _
  cases first chars <;> simp [Attempt.orElse]

theorem bind_of_done {first : Scan α} {next : α → Scan β} {chars left : List Char} {value : α}
    (reads : first chars = .done (value, left)) : (first >>= next) chars = next value left := by
  rw [bind_apply, reads, Attempt.done_bind]

theorem bind_of_miss {first : Scan α} {next : α → Scan β} {chars : List Char}
    (misses : first chars = .miss) : (first >>= next) chars = .miss := by
  rw [bind_apply, misses, Attempt.miss_bind]

theorem bind_of_broken {first : Scan α} {next : α → Scan β} {chars : List Char}
    (breaks : first chars = .broken) : (first >>= next) chars = .broken := by
  rw [bind_apply, breaks, Attempt.broken_bind]

theorem seqRight_of_done {first : Scan α} {next : Scan β} {chars left : List Char} {value : α}
    (reads : first chars = .done (value, left)) : (first *> next) chars = next left := by
  change (first >>= fun _ => next) chars = _
  exact bind_of_done reads

theorem seqRight_of_miss {first : Scan α} {next : Scan β} {chars : List Char}
    (misses : first chars = .miss) : (first *> next) chars = .miss := by
  change (first >>= fun _ => next) chars = _
  exact bind_of_miss misses

theorem orElse_of_done {first second : Scan α} {chars left : List Char} {value : α}
    (reads : first chars = .done (value, left)) :
    (first <|> second) chars = .done (value, left) := by
  change (first chars).orElse (fun _ => second chars) = _
  rw [reads, Attempt.orElse]

theorem orElse_of_miss {first second : Scan α} {chars : List Char} (misses : first chars = .miss) :
    (first <|> second) chars = second chars := by
  change (first chars).orElse (fun _ => second chars) = _
  rw [misses, Attempt.orElse]

theorem orElse_of_broken {first second : Scan α} {chars : List Char}
    (breaks : first chars = .broken) : (first <|> second) chars = .broken := by
  change (first chars).orElse (fun _ => second chars) = _
  rw [breaks, Attempt.orElse]

theorem given_eq_done {found : Option α} {chars rest : List Char} {value : α} :
    given found chars = .done (value, rest) ↔ found = some value ∧ chars = rest := by
  cases found <;> simp [given]

theorem satisfy_eq_done {test : Char → Bool} {chars rest : List Char} {c : Char} :
    satisfy test chars = .done (c, rest) ↔ chars = c :: rest ∧ test c = true := by
  cases chars with
  | nil => simp [satisfy]
  | cons head chars =>
      by_cases passes : test head
      · simp only [satisfy, passes, if_true, Attempt.done.injEq, Prod.mk.injEq, List.cons.injEq]
        constructor
        · rintro ⟨rfl, rfl⟩
          exact ⟨⟨rfl, rfl⟩, passes⟩
        · exact fun split => split.1
      · simp only [satisfy, passes, Bool.false_eq_true, if_false, reduceCtorEq, List.cons.injEq,
          false_iff]
        rintro ⟨⟨rfl, -⟩, accepted⟩
        exact passes accepted

theorem char_eq_done {expected : Char} {chars rest : List Char} {result : Unit} :
    char expected chars = .done (result, rest) ↔ chars = expected :: rest := by
  simp only [char, bind_eq_done, satisfy_eq_done, pure_eq_done, beq_iff_eq]
  constructor
  · rintro ⟨_, _, ⟨rfl, rfl⟩, -, rfl⟩
    rfl
  · rintro rfl
    exact ⟨expected, rest, ⟨rfl, rfl⟩, trivial, rfl⟩

theorem char_self (c : Char) (rest : List Char) : char c (c :: rest) = .done ((), rest) :=
  char_eq_done.mpr rfl

theorem char_of_ne {expected c : Char} (other : c ≠ expected) (rest : List Char) :
    char expected (c :: rest) = .miss :=
  bind_of_miss (by simp [satisfy, other])

theorem span_append {test : Char → Bool} {front rest : List Char}
    (all : ∀ c ∈ front, test c = true) (stops : ∀ c ∈ rest.head?, test c = false) :
    span test (front ++ rest) = .done (front, rest) := by
  have ends : rest.takeWhile test = [] ∧ rest.dropWhile test = rest := by
    cases rest with
    | nil => exact ⟨rfl, rfl⟩
    | cons c rest =>
        have fails : test c = false := stops c rfl
        simp [fails]
  rw [span, List.takeWhile_append_of_pos all, List.dropWhile_append_of_pos all, ends.1, ends.2,
    List.append_nil]

theorem span1_append {test : Char → Bool} {front rest : List Char} (nonempty : front ≠ [])
    (all : ∀ c ∈ front, test c = true) (stops : ∀ c ∈ rest.head?, test c = false) :
    span1 test (front ++ rest) = .done (front, rest) := by
  obtain ⟨c, front, rfl⟩ := List.exists_cons_of_ne_nil nonempty
  obtain ⟨first, others⟩ := List.forall_mem_cons.mp all
  exact (bind_of_done (satisfy_eq_done.mpr ⟨rfl, first⟩)).trans
    (bind_of_done (span_append others stops))

theorem spanUpTo_append {test : Char → Bool} {front : List Char} (all : ∀ c ∈ front, test c = true)
    (rest : List Char) : spanUpTo front.length test (front ++ rest) = .done (front, rest) := by
  have whole : (front ++ []).takeWhile test = front ++ [] := List.takeWhile_append_of_pos all
  rw [List.append_nil] at whole
  simp only [spanUpTo, List.take_left, whole, List.drop_left]

theorem exactly_eq_done {text : String} {chars rest : List Char} {result : Unit} :
    exactly text chars = .done (result, rest) ↔ strip? (· == ·) text.toList chars = some rest := by
  simp [exactly, Option.map_eq_some_iff]

theorem consumed_eq_done {item : Scan α} {chars rest : List Char} {text : String} :
    consumed item chars = .done (text, rest) ↔
      ∃ value, item chars = .done (value, rest) ∧
        String.ofList (chars.take (chars.length - rest.length)) = text := by
  rw [consumed, Attempt.bind_eq_done]
  simp only [Attempt.pure_eq_done, Attempt.done.injEq, Prod.mk.injEq, Prod.exists]
  constructor
  · rintro ⟨value, left, read, written, rfl⟩
    exact ⟨value, read, written⟩
  · rintro ⟨value, read, written⟩
    exact ⟨value, rest, read, written, rfl⟩

/-! ## Repetition -/

theorem many_of_miss {item : Scan α} {chars : List Char} (misses : item chars = .miss) :
    item.many chars = .done ([], chars) := by
  rw [many, misses]

theorem many_of_done {item : Scan α} {chars rest left : List Char} {first : α} {others : List α}
    (reads : item chars = .done (first, rest)) (shorter : rest.length < chars.length)
    (again : item.many rest = .done (others, left)) :
    item.many chars = .done (first :: others, left) := by
  rw [many, reads]
  simp only [shorter, if_true, again, Attempt.done_bind, Attempt.pure_eq_done]

/-- What holds of no items, and of one item more, holds of all items that are read. -/
theorem many_induction {item : Scan α} {motive : List Char → List α → List Char → Prop}
    (nil : ∀ chars, motive chars [] chars)
    (cons : ∀ {chars first rest others left}, item chars = .done (first, rest) →
      rest.length < chars.length → motive rest others left → motive chars (first :: others) left)
    {chars left : List Char} {values : List α} (read : item.many chars = .done (values, left)) :
    motive chars values left := by
  fun_induction many item chars generalizing values left with
  | case1 chars misses =>
      obtain ⟨rfl, rfl⟩ := Prod.mk.inj (Attempt.done.inj read)
      exact nil chars
  | case2 chars breaks => contradiction
  | case3 chars first rest here shorter induction =>
      obtain ⟨⟨others, left⟩, again, done⟩ := Attempt.bind_eq_done.mp read
      obtain ⟨rfl, rfl⟩ := Prod.mk.inj (Attempt.done.inj done)
      exact cons here shorter (induction again)
  | case4 chars first rest here stuck =>
      obtain ⟨rfl, rfl⟩ := Prod.mk.inj (Attempt.done.inj read)
      exact nil chars

/-! ## Fixed texts -/

theorem strip?_eq_some {same : Char → Char → Bool} {expected chars rest : List Char} :
    strip? same expected chars = some rest ↔
      ∃ front, chars = front ++ rest ∧
        List.Forall₂ (fun letter c => same letter c = true) expected front := by
  induction expected generalizing chars with
  | nil => simp [strip?]
  | cons letter expected induction =>
      cases chars with
      | nil => simp [strip?, List.forall₂_cons_left_iff]
      | cons c chars =>
          by_cases agrees : same letter c
          · simp only [strip?, agrees, if_true, induction, List.forall₂_cons_left_iff]
            constructor
            · rintro ⟨front, rfl, others⟩
              exact ⟨c :: front, rfl, c, front, agrees, others, rfl⟩
            · rintro ⟨_, split, head, front, _, others, rfl⟩
              rw [List.cons_append, List.cons.injEq] at split
              exact ⟨front, split.2, others⟩
          · simp only [strip?, agrees, Bool.false_eq_true, if_false, reduceCtorEq, false_iff]
            rintro ⟨_, split, matched⟩
            obtain ⟨head, front, first, -, rfl⟩ := List.forall₂_cons_left_iff.mp matched
            rw [List.cons_append, List.cons.injEq] at split
            exact agrees (split.1 ▸ first)

/-- What is taken off a text as it stands was in front of the rest. -/
theorem eq_append_of_strip? {expected chars rest : List Char}
    (stripped : strip? (· == ·) expected chars = some rest) : chars = expected ++ rest := by
  obtain ⟨front, rfl, agrees⟩ := strip?_eq_some.mp stripped
  simp only [beq_iff_eq, List.forall₂_eq_eq_eq] at agrees
  rw [agrees]

theorem whole_eq_some {item : Scan α} {text : String} {value : α} :
    whole item text = some value ↔ item text.toList = .done (value, []) := by
  unfold whole
  split
  · rename_i found read
    simp [read]
  · rename_i other
    simp only [reduceCtorEq, false_iff]
    exact other value

end Scan
end SqlEngine
