import SqlEngine.ConnectionString
import SqlEngine.Proofs.Checked
import SqlEngine.Proofs.Durations

/-!
# Connection strings are read back

A connection string is cut at its separators one after the other.  So its fields come back as they
were written if none of them has the separator that ends it, whatever other separators it has; and
it is refused when one of its options is.
-/

namespace SqlEngine

/-! ## Splitting -/

namespace Text

variable {separator : Char} {chars front rest : List Char}

theorem splitFirst?_eq_some :
    splitFirst? separator chars = some (front, rest) ↔
      separator ∉ front ∧ chars = front ++ separator :: rest := by
  induction chars generalizing front rest with
  | nil => simp [splitFirst?]
  | cons c chars induction =>
      by_cases here : c = separator
      · subst here
        simp only [splitFirst?, if_true, Option.some.injEq, Prod.mk.injEq]
        constructor
        · rintro ⟨rfl, rfl⟩
          exact ⟨List.not_mem_nil, rfl⟩
        · rintro ⟨without, split⟩
          cases front with
          | nil => exact ⟨rfl, (List.cons.inj split).2⟩
          | cons first front =>
              obtain ⟨rfl, -⟩ := List.cons.inj split
              simp at without
      · simp only [splitFirst?, if_neg here, Option.map_eq_some_iff, Prod.exists, induction,
          Prod.mk.injEq]
        constructor
        · rintro ⟨before, behind, ⟨without, rfl⟩, rfl, rfl⟩
          exact ⟨List.not_mem_cons_of_ne_of_not_mem (Ne.symm here) without, rfl⟩
        · rintro ⟨without, split⟩
          cases front with
          | nil => exact absurd (List.cons.inj split).1 here
          | cons first front =>
              obtain ⟨rfl, rest⟩ := List.cons.inj split
              exact ⟨front, _, ⟨fun member => without (List.mem_cons_of_mem _ member), rest⟩, rfl,
                rfl⟩

theorem splitFirst?_eq_none : splitFirst? separator chars = none ↔ separator ∉ chars := by
  induction chars with
  | nil => simp [splitFirst?]
  | cons c chars induction =>
      by_cases here : c = separator
      · simp [splitFirst?, here]
      · simp [splitFirst?, here, Ne.symm here, induction]

theorem splitAll_eq_splitOn (separator : Char) (chars : List Char) :
    splitAll separator chars = chars.splitOn separator := by
  induction chars with
  | nil => rfl
  | cons c chars induction =>
      rw [List.splitOn_cons_eq_if_modifyHead, splitAll, induction]
      by_cases here : c = separator
      · simp [here]
      · rw [if_neg here, if_neg (by simpa using here)]
        cases parts : chars.splitOn separator with
        | nil => exact absurd parts (List.splitOn_ne_nil _ _)
        | cons part parts => rfl

theorem not_mem_of_mem_splitAll {part : List Char} (member : part ∈ splitAll separator chars) :
    separator ∉ part := by
  induction chars generalizing part with
  | nil => simp_all [splitAll]
  | cons c chars induction =>
      rw [splitAll] at member
      split at member
      · rcases List.mem_cons.mp member with rfl | member
        · exact List.not_mem_nil
        · exact induction member
      · rename_i other
        split at member
        · rename_i first others cut
          rcases List.mem_cons.mp member with rfl | member
          · exact List.not_mem_cons_of_ne_of_not_mem (Ne.symm other) (induction (by simp [cut]))
          · exact induction (by simp [cut, member])
        · obtain rfl := List.mem_singleton.mp member
          simpa using Ne.symm other

theorem not_mem_intercalate {c : Char} {separator : List Char} {parts : List (List Char)}
    (apart : c ∉ separator) (without : ∀ part ∈ parts, c ∉ part) :
    c ∉ separator.intercalate parts := by
  induction parts with
  | nil => simp
  | cons first others induction =>
      obtain ⟨here, there⟩ := List.forall_mem_cons.mp without
      cases others with
      | nil => simpa using here
      | cons second others =>
          rw [List.intercalate_cons_cons, List.mem_append, List.mem_append]
          simp [here, apart, induction there]

end Text

namespace Checked

variable {ε α σ : Type}

/-- A fold whose steps fail because of their items alone fails when one of the items does, and as
that one does. -/
theorem foldlM_fails {step : σ → α → Except ε σ} {refuses : α → ε → Prop}
    (fails : ∀ state item fault, step state item = .error fault ↔ refuses item fault)
    (items : List α) (start : σ) :
    ((∃ fault, items.foldlM step start = .error fault) ↔
      ∃ item ∈ items, ∃ fault, refuses item fault) ∧
    ∀ fault, items.foldlM step start = .error fault → ∃ item ∈ items, refuses item fault := by
  induction items generalizing start with
  | nil => exact ⟨by simp [pure_ne_error], fun fault failed => absurd failed pure_ne_error⟩
  | cons item items induction =>
      rw [List.foldlM_cons]
      cases stepped : step start item with
      | ok state =>
          have passes : ¬ ∃ fault, refuses item fault := by
            rintro ⟨fault, refused⟩
            rw [(fails start item fault).mpr refused] at stepped
            contradiction
          obtain ⟨same, of_one⟩ := induction state
          refine ⟨?_, fun fault failed => ?_⟩
          · rw [List.exists_mem_cons_iff, or_iff_right passes]
            exact same
          · obtain ⟨other, member, refused⟩ := of_one fault failed
            exact ⟨other, List.mem_cons_of_mem item member, refused⟩
      | error fault =>
          have refused : refuses item fault := (fails start item fault).mp stepped
          refine ⟨⟨fun _ => ⟨item, List.mem_cons_self, fault, refused⟩, fun _ => ⟨fault, rfl⟩⟩, ?_⟩
          rintro other failed
          obtain rfl := Except.error.inj failed
          exact ⟨item, List.mem_cons_self, refused⟩

end Checked

namespace ConnectionString

/-! ## Options -/

/-- Whether an option gives a value to a key; one without a value gives it the value `true`. -/
inductive Gives (option : String) : String → String → Prop where
  /-- The value stands behind the first equals sign. -/
  | value {key value : String} (plain : '=' ∉ key.toList) (written : option = key ++ "=" ++ value) :
      Gives option key value
  /-- There is no equals sign. -/
  | bare (plain : '=' ∉ option.toList) : Gives option option "true"

/-- Whether an option is refused with an error, whatever else stands in the connection string. -/
inductive Refuses (option : String) : Error → Prop where
  /-- The key is none that is known. -/
  | unknown {key value : String} (gives : Gives option key value)
      (other : key ∉ ["laddr", "timeout"]) :
      Refuses option (.unsupported (.connectionOption key))
  /-- The time is no duration. -/
  | timeout {value : String} (gives : Gives option "timeout" value) {fault : Duration.Fault}
      (unread : Duration.ofText value = .error fault) :
      Refuses option (.config (.duration fault value))

theorem exists_gives (option : String) : ∃ key value, Gives option key value := by
  cases split : Text.splitFirst? '=' option.toList with
  | none => exact ⟨option, "true", .bare (Text.splitFirst?_eq_none.mp split)⟩
  | some parts =>
      obtain ⟨plain, written⟩ := Text.splitFirst?_eq_some.mp split
      refine ⟨String.ofList parts.1, String.ofList parts.2, .value (by simpa using plain) ?_⟩
      rw [← String.toList_inj, written]
      simp

/-- What an option does to the fields depends on its key and its value. -/
theorem withOption_of_gives {option key value : String} (gives : Gives option key value)
    (fields : ConnectionString) :
    fields.withOption option.toList =
      if key = "laddr" then .ok { fields with localAddress := value }
      else if key = "timeout" then
        match Duration.ofText value with
        | .ok duration =>
          .ok { fields with timeout := if duration = 0 then none else some duration }
        | .error fault => .error (.config (.duration fault value))
      else .error (.unsupported (.connectionOption key)) := by
  have parts : (Text.splitFirst? '=' option.toList).getD (option.toList, "true".toList) =
      (key.toList, value.toList) := by
    cases gives with
    | value plain written =>
        have split : Text.splitFirst? '=' option.toList = some (key.toList, value.toList) :=
          Text.splitFirst?_eq_some.mpr ⟨plain, by simp [written]⟩
        rw [split, Option.getD_some]
    | bare plain => rw [Text.splitFirst?_eq_none.mpr plain, Option.getD_none]
  rewrite [withOption, parts]
  dsimp only
  rewrite [String.ofList_toList, String.ofList_toList]
  rfl

theorem withOption_eq_error (fields : ConnectionString) (option : String) (error : Error) :
    fields.withOption option.toList = .error error ↔ Refuses option error := by
  constructor
  · obtain ⟨key, value, gives⟩ := exists_gives option
    rw [withOption_of_gives gives]
    intro failed
    split at failed
    · contradiction
    · split at failed
      · rename_i timed
        subst timed
        split at failed
        · contradiction
        · obtain rfl := Except.error.inj failed
          exact .timeout gives ‹_›
      · obtain rfl := Except.error.inj failed
        exact .unknown gives (by simp [*])
  · rintro (⟨gives, other⟩ | ⟨gives, unread⟩)
    · simp only [List.mem_cons, List.not_mem_nil, or_false, not_or] at other
      rw [withOption_of_gives gives, if_neg other.1, if_neg other.2]
    · rw [withOption_of_gives gives, if_neg (by decide), if_pos rfl, unread]

/-! ## Connection strings with a protocol -/

/-- Whether a text is a protocol and an address with options. -/
structure Opens (front protocol address : String) (options : List String) : Prop where
  /-- A colon ends the protocol, and commas stand in front of the options. -/
  written : front = protocol ++ ":" ++ ",".intercalate (address :: options)
  /-- The protocol has no colon. -/
  protocol_plain : ':' ∉ protocol.toList
  /-- Neither the address nor an option has a comma. -/
  parts_plain : ∀ part ∈ address :: options, ',' ∉ part.toList

/-- A text with a colon is a protocol and an address with options. -/
theorem exists_opens {front : String} (colon : ':' ∈ front.toList) :
    ∃ protocol address options, Opens front protocol address options := by
  cases split : Text.splitFirst? ':' front.toList with
  | none => exact absurd colon (Text.splitFirst?_eq_none.mp split)
  | some parts =>
      obtain ⟨plain, written⟩ := Text.splitFirst?_eq_some.mp split
      have cut := Text.splitAll_eq_splitOn ',' parts.2
      cases listed : Text.splitAll ',' parts.2 with
      | nil => exact absurd (cut.symm.trans listed) (List.splitOn_ne_nil _ _)
      | cons address options =>
          refine ⟨String.ofList parts.1, String.ofList address, options.map String.ofList, ?_,
            by simpa using plain, ?_⟩
          · have joined : [','].intercalate (address :: options) = parts.2 := by
              rw [← listed, cut, List.intercalate_splitOn]
            rw [← String.toList_inj, written, ← joined]
            simp [String.toList_intercalate, Function.comp_def]
          · rw [← List.map_cons, ← listed]
            rintro _ member
            obtain ⟨part, found, rfl⟩ := List.mem_map.mp member
            simpa using Text.not_mem_of_mem_splitAll found

/-- A connection string with a protocol is read part by part. -/
theorem parse_of_opens {front protocol address : String} {options : List String}
    (opens : Opens front protocol address options) (starless : '*' ∉ front.toList)
    (rest : String) :
    parse (front ++ "*" ++ rest) = (do
      let fields ← options.foldlM (fun fields option => withOption fields option.toList)
        { protocol, address }
      return fields.withDatabase rest.toList) := by
  have star : Text.splitFirst? '*' (front ++ "*" ++ rest).toList =
      some (front.toList, rest.toList) :=
    Text.splitFirst?_eq_some.mpr ⟨starless, by simp⟩
  have filled : key (front ++ "*" ++ rest) = front ++ "*" ++ rest :=
    if_neg fun empty => by simp [String.isEmpty_iff.mp empty, Text.splitFirst?] at star
  have parts : Text.splitAll ',' (",".intercalate (address :: options)).toList =
      address.toList :: options.map String.toList := by
    have plain : ∀ part ∈ (address :: options).map String.toList, ',' ∉ part :=
      List.forall_mem_map.mpr opens.parts_plain
    rw [Text.splitAll_eq_splitOn, String.toList_intercalate]
    exact List.splitOn_intercalate ',' plain (by simp)
  have colon : Text.splitFirst? ':' front.toList =
      some (protocol.toList, (",".intercalate (address :: options)).toList) :=
    Text.splitFirst?_eq_some.mpr ⟨opens.protocol_plain, by simp [opens.written]⟩
  simp only [parse, filled, star, colon, ofProtocol, parts, List.foldlM_map, String.ofList_toList]

theorem withDatabase_eq {database user : String} (database_plain : '/' ∉ database.toList)
    (user_plain : '/' ∉ user.toList) (fields : ConnectionString) (password : String) :
    fields.withDatabase (database ++ "/" ++ user ++ "/" ++ password).toList =
      { fields with database, user, password } := by
  have first : Text.splitFirst? '/' (database ++ "/" ++ user ++ "/" ++ password).toList =
      some (database.toList, (user ++ "/" ++ password).toList) :=
    Text.splitFirst?_eq_some.mpr ⟨database_plain, by simp⟩
  have second : Text.splitFirst? '/' (user ++ "/" ++ password).toList =
      some (user.toList, password.toList) :=
    Text.splitFirst?_eq_some.mpr ⟨user_plain, by simp⟩
  simp only [withDatabase, first, second, String.ofList_toList]

/-! ## Reading back -/

/-- The parts of a connection string with a protocol, as they are written. -/
structure Parts where
  /-- The protocol. -/
  protocol : String
  /-- The address. -/
  address : String
  /-- The local address, if it is given. -/
  localAddress : Option String
  /-- The longest time of a request as a text, with the duration that it stands for, if it is
  given. -/
  timeout : Option (String × Duration)
  /-- Whether the time stands in front of the local address. -/
  timeoutFirst : Bool
  /-- The database. -/
  database : String
  /-- The user. -/
  user : String
  /-- The password. -/
  password : String

namespace Parts

variable {parts : Parts}

/-- The options in their order. -/
def options (parts : Parts) : List String :=
  let localAddress := (parts.localAddress.map ("laddr=" ++ ·)).toList
  let timeout := (parts.timeout.map fun written => "timeout=" ++ written.1).toList
  if parts.timeoutFirst then timeout ++ localAddress else localAddress ++ timeout

/-- The part of the connection string in front of the star. -/
def front (parts : Parts) : String :=
  parts.protocol ++ ":" ++ ",".intercalate (parts.address :: parts.options)

/-- The connection string. -/
def text (parts : Parts) : String :=
  parts.front ++ "*" ++ (parts.database ++ "/" ++ parts.user ++ "/" ++ parts.password)

/-- The fields that the parts stand for. -/
def fields (parts : Parts) : ConnectionString where
  protocol := parts.protocol
  address := parts.address
  localAddress := parts.localAddress.getD ""
  database := parts.database
  user := parts.user
  password := parts.password
  timeout := (parts.timeout.map (·.2)).filter (· ≠ 0)

/-- Whether no part in front of the password has one of the separators that would end it. -/
structure Plain (parts : Parts) : Prop where
  /-- The protocol has no colon and no star. -/
  protocol : ':' ∉ parts.protocol.toList ∧ '*' ∉ parts.protocol.toList
  /-- The address has no comma and no star. -/
  address : ',' ∉ parts.address.toList ∧ '*' ∉ parts.address.toList
  /-- The local address has no comma and no star. -/
  localAddress : ∀ written ∈ parts.localAddress, ',' ∉ written.toList ∧ '*' ∉ written.toList
  /-- The time is read as the duration. -/
  timeout : ∀ written ∈ parts.timeout, Duration.ofText written.1 = .ok written.2
  /-- The database has no slash. -/
  database : '/' ∉ parts.database.toList
  /-- The user has no slash. -/
  user : '/' ∉ parts.user.toList

/-- Options have no comma and no star: neither has a text that is read as a duration. -/
theorem Plain.options (plain : parts.Plain) :
    ∀ option ∈ parts.options, ',' ∉ option.toList ∧ '*' ∉ option.toList := by
  have duration : ∀ written ∈ parts.timeout, ',' ∉ written.1.toList ∧ '*' ∉ written.1.toList := by
    intro written given
    have alphabet := (Duration.isSigned_of_ofText (plain.timeout written given)).mem
    exact ⟨fun comma => absurd (alphabet ',' comma) (by decide),
      fun star => absurd (alphabet '*' star) (by decide)⟩
  intro option member
  have cases : option ∈ (parts.localAddress.map ("laddr=" ++ ·)).toList ∨
      option ∈ (parts.timeout.map fun written => "timeout=" ++ written.1).toList := by
    unfold Parts.options at member
    split at member
    · exact (List.mem_append.mp member).symm
    · exact List.mem_append.mp member
  rcases cases with named | timed
  · obtain ⟨written, given, rfl⟩ := Option.map_eq_some_iff.mp (Option.mem_toList.mp named)
    simpa using plain.localAddress written given
  · obtain ⟨written, given, rfl⟩ := Option.map_eq_some_iff.mp (Option.mem_toList.mp timed)
    simpa using duration written given

theorem Plain.opens (plain : parts.Plain) :
    Opens parts.front parts.protocol parts.address parts.options where
  written := rfl
  protocol_plain := plain.protocol.1
  parts_plain := List.forall_mem_cons.mpr
    ⟨plain.address.1, fun option member => (plain.options option member).1⟩

theorem Plain.starless (plain : parts.Plain) : '*' ∉ parts.front.toList := by
  have joined : '*' ∉ (",".intercalate (parts.address :: parts.options)).toList := by
    rw [String.toList_intercalate]
    refine Text.not_mem_intercalate (by decide) (List.forall_mem_map.mpr ?_)
    exact List.forall_mem_cons.mpr
      ⟨plain.address.2, fun option member => (plain.options option member).2⟩
  simp only [front, String.toList_append, List.mem_append, not_or]
  exact ⟨⟨plain.protocol.2, by decide⟩, joined⟩

/-- The options give the local address and the longest time, in any order. -/
theorem Plain.foldlM_options (plain : parts.Plain) :
    parts.options.foldlM (fun fields option => withOption fields option.toList)
      { protocol := parts.protocol, address := parts.address } =
        .ok { protocol := parts.protocol, address := parts.address
              localAddress := parts.fields.localAddress, timeout := parts.fields.timeout } := by
  have named (fields : ConnectionString) :
      (parts.localAddress.map ("laddr=" ++ ·)).toList.foldlM
        (fun fields option => withOption fields option.toList) fields =
          .ok { fields with localAddress := parts.localAddress.getD fields.localAddress } := by
    cases parts.localAddress with
    | none => rfl
    | some written =>
        have gives : Gives ("laddr=" ++ written) "laddr" written :=
          .value (by decide) (by rw [String.append_assoc]; rfl)
        rw [Option.map_some, Option.toList_some, List.foldlM_cons, withOption_of_gives gives,
          if_pos rfl]
        rfl
  have timed (fields : ConnectionString) (unset : fields.timeout = none) :
      (parts.timeout.map fun written => "timeout=" ++ written.1).toList.foldlM
        (fun fields option => withOption fields option.toList) fields =
          .ok { fields with timeout := parts.fields.timeout } := by
    have set : parts.fields.timeout = (parts.timeout.map (·.2)).filter (· ≠ 0) := rfl
    rw [set]
    cases given : parts.timeout with
    | none =>
        rw [Option.map_none, Option.map_none, Option.filter_none, ← unset]
        rfl
    | some written =>
        have gives : Gives ("timeout=" ++ written.1) "timeout" written.1 :=
          .value (by decide) (by rw [String.append_assoc]; rfl)
        rw [Option.map_some, Option.toList_some, List.foldlM_cons, withOption_of_gives gives,
          if_neg (by decide), if_pos rfl, plain.timeout written given]
        by_cases zero : written.2 = 0
        · simp [zero, Option.filter_some]
        · simp [zero, Option.filter_some]
  unfold Parts.options
  split
  · rw [List.foldlM_append, timed _ rfl]
    exact named _
  · rw [List.foldlM_append, named]
    exact timed _ rfl

theorem Plain.parse_text (plain : parts.Plain) : parse parts.text = .ok parts.fields := by
  rw [Parts.text, parse_of_opens plain.opens plain.starless, plain.foldlM_options]
  exact congrArg Except.ok (withDatabase_eq plain.database plain.user _ _)

end Parts

/-- A connection string comes back field by field: whatever stands in its password, and in the other
fields as long as it is not the separator behind them, with options or without in either order, and
also without a protocol.  With a protocol it is refused just when one of its options is, which has a
key that is not known or a time that is no duration; and then with the error of such an option. -/
theorem fields_read_back :
    (∀ parts : Parts, parts.Plain → parse parts.text = .ok parts.fields) ∧
    (∀ database user password : String, '/' ∉ database.toList → '/' ∉ user.toList →
      '*' ∉ (database ++ "/" ++ user ++ "/" ++ password).toList →
        parse (database ++ "/" ++ user ++ "/" ++ password) = .ok { database, user, password }) ∧
    ∀ front rest : String, '*' ∉ front.toList → ':' ∈ front.toList →
      (∃ protocol address options, Opens front protocol address options) ∧
      ∀ protocol address options, Opens front protocol address options →
        ((∃ error, parse (front ++ "*" ++ rest) = .error error) ↔
          ∃ option ∈ options, ∃ error, Refuses option error) ∧
        ∀ error, parse (front ++ "*" ++ rest) = .error error →
          ∃ option ∈ options, Refuses option error := by
  refine ⟨fun parts => Parts.Plain.parse_text, fun database user password database_plain user_plain
    starless => ?_, fun front rest starless colon => ⟨exists_opens colon, ?_⟩⟩
  · have filled : key (database ++ "/" ++ user ++ "/" ++ password) =
        database ++ "/" ++ user ++ "/" ++ password :=
      if_neg fun empty => by simpa using congrArg String.toList (String.isEmpty_iff.mp empty)
    simp only [parse, filled, Text.splitFirst?_eq_none.mpr starless,
      withDatabase_eq database_plain user_plain]
  · intro protocol address options opens
    have fails (error : Error) : parse (front ++ "*" ++ rest) = .error error ↔
        options.foldlM (fun fields option => withOption fields option.toList)
          { protocol, address } = .error error := by
      rw [parse_of_opens opens starless, Checked.bind_eq_error]
      simp [Checked.pure_ne_error]
    simp only [fails]
    exact Checked.foldlM_fails withOption_eq_error options _

/-- A connection string in which every field has separators of others, and one that is refused. -/
theorem fields_of_odd_text :
    parse "tcp=/:10.0.0.1:5432/a=b,timeout=+1m.5s,laddr=::1=/*d*b,:=/u*:,=/p/*a:s,s=" =
        .ok { protocol := "tcp=/", address := "10.0.0.1:5432/a=b", localAddress := "::1=/"
              timeout := some 60500000000, database := "d*b,:=", user := "u*:,="
              password := "p/*a:s,s=" } ∧
      parse "d,:=/u:,=/p/a:s,s=" =
        .ok { database := "d,:=", user := "u:,=", password := "p/a:s,s=" } ∧
      ∃ error, parse "tcp:a,laddr,timeout*d/u/p" = .error error := by
  refine ⟨?_, ?_, ?_⟩
  · let parts : Parts :=
      { protocol := "tcp=/", address := "10.0.0.1:5432/a=b", localAddress := some "::1=/"
        timeout := some ("+1m.5s", 60500000000), timeoutFirst := true, database := "d*b,:="
        user := "u*:,=", password := "p/*a:s,s=" }
    have read : Duration.ofText "+1m.5s" = .ok 60500000000 := by decide +kernel
    have plain : parts.Plain :=
      ⟨by decide, by decide, by simp [parts], by simpa [parts] using read, by decide, by decide⟩
    exact fields_read_back.1 parts plain
  · exact fields_read_back.2.1 "d,:=" "u:,=" "p/a:s,s=" (by decide) (by decide) (by decide)
  · have opens : Opens "tcp:a,laddr,timeout" "tcp" "a" ["laddr", "timeout"] :=
      ⟨by decide, by decide, by decide⟩
    obtain ⟨-, refused⟩ :=
      fields_read_back.2.2 "tcp:a,laddr,timeout" "d/u/p" (by decide) (by decide)
    have refuses : Refuses "timeout" (.config (.duration .invalid "true")) :=
      .timeout (.bare (by decide)) (by decide +kernel)
    exact (refused "tcp" "a" _ opens).1.mpr ⟨"timeout", by simp, _, refuses⟩

end ConnectionString
end SqlEngine
