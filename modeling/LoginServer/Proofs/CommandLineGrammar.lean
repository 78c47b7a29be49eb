import LoginServer.Proofs.ArgumentGroups

/-!
# Parsing arguments by their groups

The parser takes one group after the other and keeps the last path and the last
way of serving.  It accepts arguments just if they are groups with exactly one
port among them, and otherwise gives the diagnostic of the first argument at
fault (`CommandLine.parse_by_groups`).
-/

namespace LoginServer.CommandLine

/-! ## Ports -/

theorem port?_eq (word : String) :
    port? word =
      match Text.ofDigits? 10 (withoutPlus word.toList) with
      | none => none
      | some value =>
          if 1 ≤ value ∧ value < portBound then some value.toUInt16
          else none := by
  change (match Text.ofDigitsUpTo? 10 portBound (withoutPlus word.toList) with
    | none => none
    | some value =>
        if 1 ≤ value ∧ value < portBound then some value.toUInt16
        else none) = _
  rw [Text.ofDigitsUpTo?_eq (by decide)]
  cases Text.ofDigits? 10 (withoutPlus word.toList) with
  | none => rfl
  | some value =>
      dsimp only [Option.map_some]
      by_cases small : value < portBound
      · rw [Nat.min_eq_right (Nat.le_of_lt small)]
      · rw [Nat.min_eq_left (Nat.le_of_not_lt small), if_neg (by simp),
          if_neg (fun bounds => small bounds.2)]

theorem port?_eq_some_iff {word : String} {port : UInt16} :
    port? word = some port ↔ SpellsPort word port := by
  rw [port?_eq, spellsPort_iff]
  cases Text.ofDigits? 10 (withoutPlus word.toList) with
  | none => simp
  | some value =>
      dsimp only
      constructor
      · intro read
        split at read
        · next bounds =>
            cases read
            have kept : value.toUInt16.toNat = value :=
              Nat.mod_eq_of_lt bounds.2
            refine ⟨congrArg some kept.symm, ?_⟩
            intro zero
            rw [zero] at kept
            exact absurd bounds.1 (by rw [← kept]; decide)
        · cases read
      · rintro ⟨same, positive⟩
        cases same
        have least : 1 ≤ port.toNat := Nat.one_le_iff_ne_zero.mpr
          fun zero => positive (UInt16.toNat_inj.mp zero)
        rw [if_pos ⟨least, port.toNat_lt⟩]
        exact congrArg some UInt16.ofNat_toNat

/-! ## What the parser sees -/

/-- What has been seen behind a group. -/
def Seen.take (seen : Seen) : Group → Seen
  | .config path => { seen with configPath := some path }
  | .dispatch choice => { seen with dispatch := some choice }
  | .port _ value _ => { seen with port := some value }

theorem isSome_port_take (seen : Seen) (group : Group) :
    (seen.take group).port.isSome =
      (seen.port.isSome || group.port?.isSome) := by
  cases group with
  | config path => exact (Bool.or_false _).symm
  | dispatch choice => exact (Bool.or_false _).symm
  | port word value spells => exact (Bool.or_true _).symm

theorem foldl_take (seen : Seen) (groups : List Group) :
    groups.foldl Seen.take seen =
      { port := (ports groups).getLast?.or seen.port
        configPath := (paths groups).getLast?.or seen.configPath
        dispatch := (dispatches groups).getLast?.or seen.dispatch } := by
  induction groups generalizing seen with
  | nil => rfl
  | cons group groups induction =>
      rw [List.foldl_cons, induction]
      cases group <;>
        simp [ports, paths, dispatches, Group.port?, Group.path?,
          Group.dispatch?, Seen.take, List.getLast?_cons]

theorem readInto_word {word : String} (notConfig : word ≠ "--config")
    (notDispatch : word ≠ "--dispatch") (seen : Seen) (rest : List String) :
    readInto seen (word :: rest) =
      if isFlag word then .error (.unknownFlag word)
      else if seen.port.isSome then .error (.unexpected word)
      else (port? word).elim (.error (.invalidPort word)) fun port =>
        readInto { seen with port := some port } rest := by
  rw [readInto]
  · cases port? word <;> rfl
  · exact notConfig
  · exact notDispatch

theorem isFlag_iff {word : String} :
    isFlag word = true ↔ "--".toList <+: word.toList :=
  List.isPrefixOf_iff_prefix

/-- A word that is no flag is a port or at fault. -/
theorem readInto_plain {word : String}
    (plain : ¬"--".toList <+: word.toList) (seen : Seen) (rest : List String) :
    readInto seen (word :: rest) =
      if seen.port.isSome then .error (.unexpected word)
      else (port? word).elim (.error (.invalidPort word)) fun port =>
        readInto { seen with port := some port } rest := by
  have notConfig : word ≠ "--config" := fun same => plain (same ▸ ⟨_, rfl⟩)
  have notDispatch : word ≠ "--dispatch" := fun same => plain (same ▸ ⟨_, rfl⟩)
  rw [readInto_word notConfig notDispatch, if_neg (mt isFlag_iff.mp plain)]

theorem readInto_group {seen : Seen} {group : Group}
    (first : group.port?.isSome = true → seen.port.isSome = false)
    (rest : List String) :
    readInto seen (group.arguments ++ rest) =
      readInto (seen.take group) rest := by
  cases group with
  | config path => rfl
  | dispatch choice =>
      change readInto seen ("--dispatch" :: choice.word :: rest) = _
      rw [readInto, Dispatch.ofWord?_word]
      rfl
  | port word value spells =>
      change readInto seen (word :: rest) = _
      rw [readInto_plain spells.not_flag, port?_eq_some_iff.mpr spells,
        first rfl]
      rfl

theorem readInto_offends {seen : Seen} {rest : List String} {text : String}
    (offends : Offends seen.port.isSome rest text) :
    (readInto seen rest).mapError Fault.message = .error text := by
  cases offends with
  | configAlone => rfl
  | dispatchAlone => rfl
  | dispatchUnknown notPoll notWorker =>
      rw [readInto, Dispatch.ofWord?, if_neg notPoll, if_neg notWorker]
      rfl
  | flagUnknown flag notConfig notDispatch =>
      rw [readInto_word notConfig notDispatch, if_pos (isFlag_iff.mpr flag)]
      rfl
  | portInvalid plain first noPort =>
      have unread : port? _ = none := Option.eq_none_iff_forall_not_mem.mpr
        fun port read => noPort port (port?_eq_some_iff.mp read)
      rw [readInto_plain plain, first, unread]
      rfl
  | portAgain plain again =>
      rw [readInto_plain plain, again]
      rfl

theorem readInto_reads {seen : Seen} {arguments rest : List String}
    {groups : List Group}
    (reads : Reads seen.port.isSome arguments groups rest) :
    readInto seen arguments = readInto (groups.foldl Seen.take seen) rest := by
  -- Whether a port has been seen is all that a reading needs to know of what
  -- came before, and every group keeps it up to date.
  induction groups generalizing seen arguments with
  | nil => rw [(reads_nil_iff.mp reads).1, List.foldl_nil]
  | cons group groups induction =>
      obtain ⟨later, rfl, first, reads⟩ := reads_cons_iff.mp reads
      rw [← isSome_port_take] at reads
      rw [readInto_group first, List.foldl_cons, induction reads]

/-- What has been seen when groups are all that has been read. -/
def Seen.behind (groups : List Group) : Seen :=
  { port := (ports groups).getLast?
    configPath := (paths groups).getLast?
    dispatch := (dispatches groups).getLast? }

theorem Seen.isSome_port_behind (groups : List Group) :
    (Seen.behind groups).port.isSome = !(ports groups).isEmpty := by
  rw [behind]
  cases ports groups with
  | nil => rfl
  | cons port later => simp [List.getLast?_cons]

theorem readInto_start {arguments rest : List String} {groups : List Group}
    (reads : Reads false arguments groups rest) :
    readInto ⟨none, none, none⟩ arguments =
      readInto (Seen.behind groups) rest := by
  let start : Seen := ⟨none, none, none⟩
  have read : readInto start arguments = _ := readInto_reads reads
  rw [read, foldl_take]
  simp only [start, Option.or_none, Seen.behind]

/-! ## Accepted and refused arguments -/

/-- Arguments that are groups with at most one port are accepted if there is
one. -/
theorem parse_written {groups : List Group}
    (single : (ports groups).length ≤ 1) :
    parse (written groups) =
      match ports groups with
      | [] => .error .missingPort
      | port :: _ =>
          .ok
            { port
              configPath := (paths groups).getLast?
              dispatch := (dispatches groups).getLast? } := by
  have reads : Reads false (written groups) groups [] :=
    ⟨List.append_nil _, by simpa using single, .inl rfl⟩
  rw [parse, readInto_start reads, readInto, Seen.behind]
  match ports groups, single with
  | [], _ => rfl
  | [port], _ => rfl

theorem parse_offends {arguments rest : List String} {groups : List Group}
    {text : String} (reads : Reads false arguments groups rest)
    (offends : Offends (!(ports groups).isEmpty) rest text) :
    (parse arguments).mapError Fault.message = .error text := by
  rw [← Seen.isSome_port_behind] at offends
  have refused := readInto_offends offends
  rw [parse, readInto_start reads]
  cases result : readInto (Seen.behind groups) rest with
  | error fault =>
      rw [result] at refused
      have same : fault.message = text := Except.error.inj refused
      exact congrArg Except.error same
  | ok seen =>
      rw [result] at refused
      cases refused

/-- What comes of arguments, by their reading. -/
theorem parse_cases {arguments rest : List String} {groups : List Group}
    (reads : Reads false arguments groups rest) :
    (rest = [] ∧ ∃ port, ports groups = [port] ∧
        parse arguments =
          .ok
            { port
              configPath := (paths groups).getLast?
              dispatch := (dispatches groups).getLast? }) ∨
      (rest = [] ∧ ports groups = [] ∧
        parse arguments = .error .missingPort) ∨
      ∃ text, Offends (!(ports groups).isEmpty) rest text ∧
        (parse arguments).mapError Fault.message = .error text := by
  obtain ⟨whole, single, stops⟩ := reads
  rcases stops with rfl | ⟨text, offends⟩
  · rw [Bool.toNat_false, Nat.zero_add] at single
    rw [← whole, List.append_nil, parse_written single]
    match ports groups, single with
    | [], _ => exact .inr (.inl ⟨rfl, rfl, rfl⟩)
    | [port], _ => exact .inl ⟨rfl, port, rfl, rfl⟩
  · exact .inr (.inr ⟨text, offends,
      parse_offends ⟨whole, single, .inr ⟨text, offends⟩⟩ offends⟩)

theorem parse_eq_ok_iff {arguments : List String} {commandLine : CommandLine} :
    parse arguments = .ok commandLine ↔
      ∃ groups, written groups = arguments ∧
        ports groups = [commandLine.port] ∧
        (paths groups).getLast? = commandLine.configPath ∧
        (dispatches groups).getLast? = commandLine.dispatch := by
  constructor
  · intro accepted
    obtain ⟨groups, rest, reads⟩ := exists_reads false arguments
    have whole := reads.whole
    rcases parse_cases reads with
      ⟨rfl, port, only, read⟩ | ⟨_end, _none, read⟩ | ⟨text, _offends, read⟩
    · rw [accepted] at read
      cases read
      exact ⟨groups, by rw [← whole, List.append_nil], only, rfl, rfl⟩
    · rw [accepted] at read
      cases read
    · rw [accepted] at read
      cases read
  · rintro ⟨groups, rfl, only, path, dispatch⟩
    rw [parse_written (by rw [only]; exact Nat.le_refl 1), only]
    dsimp only
    rw [path, dispatch]

theorem parse_eq_error_iff {arguments : List String} {text : String} :
    (parse arguments).mapError Fault.message = .error text ↔
      ∃ groups rest, Reads false arguments groups rest ∧
        (Offends (!(ports groups).isEmpty) rest text ∨
          rest = [] ∧ ports groups = [] ∧
            text = "Missing <port> argument") := by
  constructor
  · intro refused
    obtain ⟨groups, rest, reads⟩ := exists_reads false arguments
    refine ⟨groups, rest, reads, ?_⟩
    rcases parse_cases reads with
      ⟨_end, port, _only, read⟩ | ⟨rfl, none, read⟩ | ⟨text', offends, read⟩
    · rw [read] at refused
      cases refused
    · rw [read] at refused
      exact .inr ⟨rfl, none, (Except.error.inj refused).symm⟩
    · rw [read] at refused
      exact .inl (Except.error.inj refused ▸ offends)
  · rintro ⟨groups, rest, reads, offends | ⟨rfl, none, rfl⟩⟩
    · exact parse_offends reads offends
    · have whole := reads.whole
      rw [List.append_nil] at whole
      rw [← whole, parse_written (by rw [none]; exact Nat.zero_le 1), none]
      rfl

/-- The groups of a command line, with its port in the given spelling. -/
def groupsWith (commandLine : CommandLine) {word : String}
    (spells : SpellsPort word commandLine.port) : List Group :=
  .port word commandLine.port spells ::
    (commandLine.configPath.toList.map Group.config ++
      commandLine.dispatch.toList.map Group.dispatch)

theorem getLast?_of_perm {Item : Type} {items : List Item}
    {item? : Option Item} (permutation : items.Perm item?.toList) :
    items.getLast? = item? := by
  cases item? with
  | none => rw [permutation.eq_nil, List.getLast?_nil]
  | some item =>
      rw [List.perm_singleton.mp permutation, List.getLast?_singleton]

/-- In whatever order the groups of a command line stand, it is read back. -/
theorem parse_of_perm {commandLine : CommandLine} {word : String}
    {spells : SpellsPort word commandLine.port} {others : List Group}
    (permutation : others.Perm (commandLine.groupsWith spells)) :
    parse (written others) = .ok commandLine := by
  obtain ⟨port, path?, choice?⟩ := commandLine
  have samePorts : (ports others).Perm [port] := by
    refine (permutation.filterMap Group.port?).trans (.of_eq ?_)
    cases path? <;> cases choice? <;> rfl
  have samePaths : (paths others).Perm path?.toList := by
    refine (permutation.filterMap Group.path?).trans (.of_eq ?_)
    cases path? <;> cases choice? <;> rfl
  have sameChoices : (dispatches others).Perm choice?.toList := by
    refine (permutation.filterMap Group.dispatch?).trans (.of_eq ?_)
    cases path? <;> cases choice? <;> rfl
  have only : ports others = [port] := List.perm_singleton.mp samePorts
  rw [parse_written (by rw [only]; exact Nat.le_refl 1), only,
    getLast?_of_perm samePaths, getLast?_of_perm sameChoices]

/-- Arguments have one reading, as groups up to their end or up to the first
argument at fault.  They are accepted just if they are groups with exactly one
port among them, and then the last path and the last way of serving count;
otherwise the diagnostic is that of the argument at fault or, if there is none,
that of the missing port.  Only the order of groups of one kind matters, and a
command line is read back from its groups in any order. -/
theorem parse_by_groups (arguments : List String) :
    (∃ groups rest, Reads false arguments groups rest ∧
      ∀ others rest', Reads false arguments others rest' →
        others = groups ∧ rest' = rest) ∧
    (∀ commandLine, parse arguments = .ok commandLine ↔
      ∃ groups, written groups = arguments ∧
        ports groups = [commandLine.port] ∧
        (paths groups).getLast? = commandLine.configPath ∧
        (dispatches groups).getLast? = commandLine.dispatch) ∧
    (∀ text, (parse arguments).mapError Fault.message = .error text ↔
      ∃ groups rest, Reads false arguments groups rest ∧
        (Offends (!(ports groups).isEmpty) rest text ∨
          rest = [] ∧ ports groups = [] ∧
            text = "Missing <port> argument")) ∧
    (∀ groups others, written groups = arguments →
      (ports groups).length ≤ 1 → ports others = ports groups →
      paths others = paths groups → dispatches others = dispatches groups →
      parse (written others) = parse arguments) ∧
    ∀ commandLine : CommandLine, commandLine.port ≠ 0 →
      SpellsPort (toString commandLine.port.toNat) commandLine.port ∧
        ∀ word (spells : SpellsPort word commandLine.port) groups,
          groups.Perm (commandLine.groupsWith spells) →
          written groups = arguments → parse arguments = .ok commandLine := by
  obtain ⟨groups, rest, reads⟩ := exists_reads false arguments
  refine ⟨⟨groups, rest, reads, fun others rest' => reads.unique⟩,
    fun commandLine => parse_eq_ok_iff, fun text => parse_eq_error_iff,
    ?_, ?_⟩
  · rintro groups others rfl single samePorts samePaths sameDispatches
    rw [parse_written (samePorts ▸ single), parse_written single, samePorts,
      samePaths, sameDispatches]
  · intro commandLine positive
    refine ⟨spellsPort_toString positive, ?_⟩
    rintro word spells groups permutation rfl
    exact parse_of_perm permutation

/-- A path that looks like a flag, a port with a sign and a leading zero, flags
that are given twice, a command line with its port at the end, and a flag that
lacks its value. -/
theorem parse_by_groups_of_flag_as_path :
    let eighty : SpellsPort "+080" 80 := port?_eq_some_iff.mp rfl
    let groups : List Group :=
      [.config "--dispatch", .dispatch .worker, .port "+080" 80 eighty,
        .dispatch .poll, .config "7"]
    let others : List Group :=
      [.dispatch .worker, .dispatch .poll, .config "--dispatch",
        .config "7", .port "+080" 80 eighty]
    let commandLine : CommandLine :=
      { port := 80, configPath := some "7", dispatch := some .poll }
    let plain : List Group :=
      [.config "7", .dispatch .poll, .port "+080" 80 eighty]
    let arguments := written groups
    ((ports groups).length ≤ 1 ∧ ports others = ports groups ∧
      paths others = paths groups ∧ dispatches others = dispatches groups ∧
      commandLine.port ≠ 0 ∧ plain.Perm (commandLine.groupsWith eighty)) ∧
      parse arguments = .ok commandLine ∧
      parse (written others) = parse arguments ∧
      parse (written plain) = .ok commandLine ∧
      (parse (arguments ++ ["--config"])).mapError Fault.message =
        .error "--config flag requires a value" := by
  intro eighty groups others commandLine plain arguments
  have fits : (ports groups).length ≤ 1 := Nat.le_refl 1
  have positive : commandLine.port ≠ 0 := by decide
  have permutation : plain.Perm (commandLine.groupsWith eighty) :=
    @List.perm_append_comm Group [.config "7", .dispatch .poll]
      [.port "+080" 80 eighty]
  have behind : Reads false (arguments ++ ["--config"]) groups ["--config"] :=
    ⟨rfl, Nat.le_refl 1, .inr ⟨_, .configAlone⟩⟩
  obtain ⟨_reading, accepted, _refused, permuted, _rendered⟩ :=
    parse_by_groups arguments
  obtain ⟨_reading, _accepted, _refused, _permuted, rendered⟩ :=
    parse_by_groups (written plain)
  obtain ⟨_reading, _accepted, refused, _permuted, _rendered⟩ :=
    parse_by_groups (arguments ++ ["--config"])
  refine ⟨⟨fits, rfl, rfl, rfl, positive, permutation⟩, ?_, ?_, ?_, ?_⟩
  · exact (accepted commandLine).mpr ⟨groups, rfl, rfl, rfl, rfl⟩
  · exact permuted groups others rfl fits rfl rfl rfl
  · exact (rendered commandLine positive).2 _ eighty plain permutation rfl
  · exact (refused _).mpr ⟨groups, _, behind, .inl .configAlone⟩

end LoginServer.CommandLine
