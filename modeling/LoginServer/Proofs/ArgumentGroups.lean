import LoginServer.CommandLine
import LoginServer.Proofs.DecimalNumerals

/-!
# Groups of arguments

Arguments of a program come in groups: a flag with its value, whatever the value
looks like, or a port.  Any arguments have exactly one reading, groups up to
their end or up to the first argument at fault (`CommandLine.exists_reads`,
`CommandLine.Reads.unique`).
-/

namespace LoginServer.CommandLine

/-! ## Ports -/

/-- A word that spells a port: decimal digits, perhaps after a plus sign, whose
value is the port.  No word spells port zero. -/
structure SpellsPort (word : String) (port : UInt16) : Prop where
  written : ∃ digits, (word.toList = digits ∨ word.toList = '+' :: digits) ∧
    digits ≠ [] ∧ (∀ digit, digit ∈ digits → digit.isDigit = true) ∧
    Nat.ofDigitChars 10 digits 0 = port.toNat
  positive : port ≠ 0

/-- A text without a plus sign at its front. -/
def withoutPlus : List Char → List Char
  | '+' :: digits => digits
  | digits => digits

theorem withoutPlus_cases (text : List Char) :
    text = withoutPlus text ∨ text = '+' :: withoutPlus text := by
  fun_cases withoutPlus text with
  | case1 digits => exact .inr rfl
  | case2 => exact .inl rfl

theorem spellsPort_iff {word : String} {port : UInt16} :
    SpellsPort word port ↔
      Text.ofDigits? 10 (withoutPlus word.toList) = some port.toNat ∧
        port ≠ 0 := by
  constructor
  · rintro ⟨⟨digits, spelled, nonempty, decimal, value⟩, positive⟩
    have same : withoutPlus word.toList = digits := by
      rcases spelled with plain | signed
      · rw [plain, withoutPlus]
        rintro later rfl
        cases decimal '+' List.mem_cons_self
      · rw [signed, withoutPlus]
    rw [same, Text.ofDigits?_ten]
    exact ⟨⟨nonempty, decimal, value⟩, positive⟩
  · rintro ⟨read, positive⟩
    exact ⟨⟨_, withoutPlus_cases word.toList, Text.ofDigits?_ten.mp read⟩,
      positive⟩

theorem SpellsPort.unique {word : String} {port other : UInt16}
    (spells : SpellsPort word port) (spells' : SpellsPort word other) :
    port = other := by
  have value := (spellsPort_iff.mp spells).1
  rw [(spellsPort_iff.mp spells').1] at value
  exact UInt16.toNat_inj.mp (Option.some.inj value).symm

/-- No flag spells a port. -/
theorem SpellsPort.not_flag {word : String} {port : UInt16}
    (spells : SpellsPort word port) : ¬"--".toList <+: word.toList := by
  rintro ⟨rest, begins⟩
  obtain ⟨digits, spelled, _nonempty, decimal, _value⟩ := spells.written
  rw [← begins] at spelled
  rcases spelled with rfl | signed
  · cases decimal '-' List.mem_cons_self
  · cases signed

/-- The usual spelling of a port. -/
theorem spellsPort_toString {port : UInt16} (positive : port ≠ 0) :
    SpellsPort (toString port.toNat) port := by
  refine ⟨⟨Nat.toDigits 10 port.toNat, .inl ?_, Nat.toDigits_ne_nil, ?_, ?_⟩,
    positive⟩
  · exact Nat.toList_repr
  · intro digit member
    exact Nat.isDigit_of_mem_toDigits (by decide) (by decide) member
  · exact Nat.ofDigitChars_toDigits (by decide) (by decide)

/-! ## Groups -/

/-- Arguments that belong together. -/
inductive Group where
  /-- A flag and a path, which may be any word. -/
  | config (path : String)
  | dispatch (choice : Dispatch)
  | port (word : String) (value : UInt16) (spells : SpellsPort word value)

namespace Group

/-- The arguments of a group. -/
def arguments : Group → List String
  | .config path => ["--config", path]
  | .dispatch choice => ["--dispatch", choice.word]
  | .port word _ _ => [word]

/-- The path that a group names. -/
def path? : Group → Option String
  | .config path => some path
  | _ => none

/-- The way of serving that a group names. -/
def dispatch? : Group → Option Dispatch
  | .dispatch choice => some choice
  | _ => none

/-- The port that a group names. -/
def port? : Group → Option UInt16
  | .port _ value _ => some value
  | _ => none

end Group

/-- The arguments of groups, in order. -/
def written (groups : List Group) : List String :=
  groups.flatMap Group.arguments

/-- The paths that groups name, in order. -/
def paths (groups : List Group) : List String :=
  groups.filterMap Group.path?

/-- The ways of serving that groups name, in order. -/
def dispatches (groups : List Group) : List Dispatch :=
  groups.filterMap Group.dispatch?

/-- The ports that groups name, in order. -/
def ports (groups : List Group) : List UInt16 :=
  groups.filterMap Group.port?

/-- The first of some arguments is at fault, with the given diagnostic.  It
matters whether a port has been given before them. -/
inductive Offends (given : Bool) : List String → String → Prop where
  | configAlone : Offends given ["--config"] "--config flag requires a value"
  | dispatchAlone :
      Offends given ["--dispatch"] "--dispatch flag requires a value"
  | dispatchUnknown {word : String} {rest : List String}
      (notPoll : word ≠ "poll") (notWorker : word ≠ "worker") :
      Offends given ("--dispatch" :: word :: rest)
        ("Invalid dispatch strategy: " ++ word)
  | flagUnknown {word : String} {rest : List String}
      (flag : "--".toList <+: word.toList) (notConfig : word ≠ "--config")
      (notDispatch : word ≠ "--dispatch") :
      Offends given (word :: rest) ("Unknown flag: " ++ word)
  | portInvalid {word : String} {rest : List String}
      (plain : ¬"--".toList <+: word.toList) (first : given = false)
      (noPort : ∀ port, ¬SpellsPort word port) :
      Offends given (word :: rest) ("Invalid port number: " ++ word)
  | portAgain {word : String} {rest : List String}
      (plain : ¬"--".toList <+: word.toList) (again : given = true) :
      Offends given (word :: rest) ("Unexpected argument: " ++ word)

/-- Arguments are groups with at most one port, counting one that has been given
before them, and then the rest, which is nothing or begins with an argument at
fault. -/
structure Reads (given : Bool) (arguments : List String) (groups : List Group)
    (rest : List String) : Prop where
  whole : written groups ++ rest = arguments
  single : given.toNat + (ports groups).length ≤ 1
  stops : rest = [] ∨
    ∃ text, Offends (given || !(ports groups).isEmpty) rest text

theorem ports_cons (group : Group) (groups : List Group) :
    ports (group :: groups) = group.port?.toList ++ ports groups := by
  cases group <;> rfl

theorem single_cons_iff {given : Bool} {group : Group} {groups : List Group} :
    given.toNat + (ports (group :: groups)).length ≤ 1 ↔
      (group.port?.isSome = true → given = false) ∧
        (given || group.port?.isSome).toNat + (ports groups).length ≤ 1 := by
  rw [ports_cons, List.length_append]
  cases group.port? with
  | none => simp
  | some port =>
      cases given with
      | false => simp
      | true =>
          simp only [Bool.toNat_true, Option.toList_some, List.length_singleton]
          constructor
          · omega
          · rintro ⟨first, _single⟩
            cases first rfl

theorem given_cons (given : Bool) (group : Group) (groups : List Group) :
    (given || !(ports (group :: groups)).isEmpty) =
      (given || group.port?.isSome || !(ports groups).isEmpty) := by
  rw [ports_cons]
  cases group.port? with
  | none => simp
  | some port => simp

theorem reads_nil_iff {given : Bool} {arguments rest : List String} :
    Reads given arguments [] rest ↔
      rest = arguments ∧ (rest = [] ∨ ∃ text, Offends given rest text) := by
  have same : (given || !(ports []).isEmpty) = given := Bool.or_false given
  constructor
  · rintro ⟨whole, _single, stops⟩
    rw [same] at stops
    exact ⟨whole, stops⟩
  · rintro ⟨whole, stops⟩
    rw [← same] at stops
    exact ⟨whole, given.toNat_le, stops⟩

/-- The first group is read, and then the others from where it ends. -/
theorem reads_cons_iff {given : Bool} {arguments rest : List String}
    {group : Group} {groups : List Group} :
    Reads given arguments (group :: groups) rest ↔
      ∃ later, arguments = group.arguments ++ later ∧
        (group.port?.isSome = true → given = false) ∧
        Reads (given || group.port?.isSome) later groups rest := by
  have parts : written (group :: groups) ++ rest =
      group.arguments ++ (written groups ++ rest) :=
    List.append_assoc _ _ _
  constructor
  · rintro ⟨whole, single, stops⟩
    rw [parts] at whole
    rw [given_cons] at stops
    obtain ⟨first, single⟩ := single_cons_iff.mp single
    exact ⟨_, whole.symm, first, rfl, single, stops⟩
  · rintro ⟨later, rfl, first, whole, single, stops⟩
    rw [← given_cons] at stops
    exact ⟨whole ▸ parts, single_cons_iff.mpr ⟨first, single⟩, stops⟩

/-! ## One reading -/

/-- Groups tell themselves from what follows them. -/
theorem arguments_append_inj {group other : Group} {rest rest' : List String}
    (same : group.arguments ++ rest = other.arguments ++ rest') :
    group = other ∧ rest = rest' := by
  cases group with
  | config path =>
      cases other with
      | config path' =>
          cases same
          exact ⟨rfl, rfl⟩
      | dispatch choice => exact absurd (List.cons.inj same).1 (by decide)
      | port word value spells =>
          cases same
          exact absurd ⟨_, rfl⟩ spells.not_flag
  | dispatch choice =>
      cases other with
      | config path => exact absurd (List.cons.inj same).1 (by decide)
      | dispatch choice' =>
          obtain ⟨_flag, same⟩ := List.cons.inj same
          obtain ⟨word, rest⟩ := List.cons.inj same
          have choices := congrArg Dispatch.ofWord? word
          rw [Dispatch.ofWord?_word, Dispatch.ofWord?_word] at choices
          cases choices
          exact ⟨rfl, rest⟩
      | port word value spells =>
          cases same
          exact absurd ⟨_, rfl⟩ spells.not_flag
  | port word value spells =>
      cases other with
      | config path =>
          cases same
          exact absurd ⟨_, rfl⟩ spells.not_flag
      | dispatch choice =>
          cases same
          exact absurd ⟨_, rfl⟩ spells.not_flag
      | port word' value' spells' =>
          cases same
          cases spells.unique spells'
          exact ⟨rfl, rfl⟩

/-- No group begins at an argument at fault, unless it is a second port. -/
theorem Offends.not_group {given : Bool} {group : Group} {rest : List String}
    {text : String} (offends : Offends given (group.arguments ++ rest) text) :
    group.port?.isSome = true ∧ given = true := by
  -- The flag gets a name before the cases: two literal words cannot be told
  -- apart by their constructors.
  cases group with
  | config path =>
      have flag : "--".toList <+: "--config".toList := ⟨_, rfl⟩
      change Offends given ("--config" :: path :: rest) text at offends
      generalize isConfig : "--config" = word at offends
      cases offends with
      | dispatchUnknown => exact absurd isConfig (by decide)
      | flagUnknown _flag notConfig => exact absurd isConfig.symm notConfig
      | portInvalid plain => exact absurd (isConfig ▸ flag) plain
      | portAgain plain => exact absurd (isConfig ▸ flag) plain
  | dispatch choice =>
      have flag : "--".toList <+: "--dispatch".toList := ⟨_, rfl⟩
      change Offends given ("--dispatch" :: choice.word :: rest) text at offends
      generalize isDispatch : "--dispatch" = word at offends
      cases offends with
      | dispatchUnknown notPoll notWorker =>
          cases choice with
          | poll => exact absurd rfl notPoll
          | worker => exact absurd rfl notWorker
      | flagUnknown _flag _notConfig notDispatch =>
          exact absurd isDispatch.symm notDispatch
      | portInvalid plain => exact absurd (isDispatch ▸ flag) plain
      | portAgain plain => exact absurd (isDispatch ▸ flag) plain
  | port word value spells =>
      cases offends with
      | configAlone => exact absurd ⟨_, rfl⟩ spells.not_flag
      | dispatchAlone => exact absurd ⟨_, rfl⟩ spells.not_flag
      | dispatchUnknown => exact absurd ⟨_, rfl⟩ spells.not_flag
      | flagUnknown flag => exact absurd flag spells.not_flag
      | portInvalid _plain _first noPort => exact absurd spells (noPort value)
      | portAgain _plain again => exact ⟨rfl, again⟩

/-- Arguments that begin with a group are not at their end and not at fault. -/
theorem Reads.not_nil {given : Bool} {arguments rest rest' : List String}
    {group : Group} {groups : List Group}
    (reads : Reads given arguments (group :: groups) rest) :
    ¬Reads given arguments [] rest' := by
  intro reads'
  obtain ⟨later, rfl, first, _reads⟩ := reads_cons_iff.mp reads
  obtain ⟨rfl, empty | ⟨text, offends⟩⟩ := reads_nil_iff.mp reads'
  · cases group <;> cases empty
  · obtain ⟨isPort, again⟩ := offends.not_group
    rw [first isPort] at again
    cases again

/-- Arguments have no two readings. -/
theorem Reads.unique {given : Bool} {arguments rest rest' : List String}
    {groups others : List Group} (reads : Reads given arguments groups rest)
    (reads' : Reads given arguments others rest') :
    others = groups ∧ rest' = rest := by
  -- Both readings lose their first group, and with it the same arguments; a
  -- port among them changes what may follow, so `given` is any.
  induction groups generalizing given arguments others with
  | nil =>
      cases others with
      | nil =>
          obtain ⟨rfl, _stops⟩ := reads_nil_iff.mp reads
          exact ⟨rfl, (reads_nil_iff.mp reads').1⟩
      | cons other others => exact absurd reads reads'.not_nil
  | cons group groups induction =>
      cases others with
      | nil => exact absurd reads' reads.not_nil
      | cons other others =>
          obtain ⟨later, rfl, _first, reads⟩ := reads_cons_iff.mp reads
          obtain ⟨behind, same, _first, reads'⟩ := reads_cons_iff.mp reads'
          obtain ⟨rfl, rfl⟩ := arguments_append_inj same
          obtain ⟨rfl, rfl⟩ := induction reads reads'
          exact ⟨rfl, rfl⟩

/-- Arguments begin with a group or with an argument at fault. -/
theorem group_or_offends (given : Bool) (word : String) (rest : List String) :
    (∃ group : Group, ∃ later, word :: rest = group.arguments ++ later ∧
        (group.port?.isSome = true → given = false)) ∨
      ∃ text, Offends given (word :: rest) text := by
  by_cases isConfig : word = "--config"
  · subst isConfig
    cases rest with
    | nil => exact .inr ⟨_, .configAlone⟩
    | cons path rest => exact .inl ⟨.config path, rest, rfl, nofun⟩
  by_cases isDispatch : word = "--dispatch"
  · subst isDispatch
    cases rest with
    | nil => exact .inr ⟨_, .dispatchAlone⟩
    | cons word rest =>
        by_cases isPoll : word = "poll"
        · exact .inl ⟨.dispatch .poll, rest, isPoll ▸ rfl, nofun⟩
        by_cases isWorker : word = "worker"
        · exact .inl ⟨.dispatch .worker, rest, isWorker ▸ rfl, nofun⟩
        exact .inr ⟨_, .dispatchUnknown isPoll isWorker⟩
  by_cases flag : "--".toList <+: word.toList
  · exact .inr ⟨_, .flagUnknown flag isConfig isDispatch⟩
  cases given with
  | true => exact .inr ⟨_, .portAgain flag rfl⟩
  | false =>
      by_cases spelled : ∃ port, SpellsPort word port
      · obtain ⟨port, spells⟩ := spelled
        exact .inl ⟨.port word port spells, rest, rfl, fun _isPort => rfl⟩
      · have noPort (port : UInt16) : ¬SpellsPort word port :=
          fun spells => spelled ⟨port, spells⟩
        exact .inr ⟨_, .portInvalid flag rfl noPort⟩

/-- Any arguments have a reading. -/
theorem exists_reads (given : Bool) (arguments : List String) :
    ∃ groups rest, Reads given arguments groups rest := by
  match arguments with
  | [] => exact ⟨[], [], reads_nil_iff.mpr ⟨rfl, .inl rfl⟩⟩
  | word :: rest =>
      rcases group_or_offends given word rest with
        ⟨group, later, parts, first⟩ | offends
      -- A flag takes its value along, so this goes down by groups, not by
      -- words.
      · have shorter : later.length < (word :: rest).length := by
          have some : 0 < group.arguments.length := by
            cases group <;> exact Nat.succ_pos _
          rw [parts, List.length_append]
          omega
        obtain ⟨groups, left, reads⟩ :=
          exists_reads (given || group.port?.isSome) later
        exact ⟨group :: groups, left,
          reads_cons_iff.mpr ⟨later, parts, first, reads⟩⟩
      · exact ⟨[], word :: rest, reads_nil_iff.mpr ⟨rfl, .inr offends⟩⟩
termination_by arguments.length
decreasing_by exact shorter

end LoginServer.CommandLine
