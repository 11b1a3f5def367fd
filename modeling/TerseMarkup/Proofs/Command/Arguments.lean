import TerseMarkup.Command.Invocation

/-!
# Reading a command line

The arguments of a command are read one by one, and each of them sets the path
or one of the flags that the command has. What these steps preserve holds of
the request in the end.
-/

namespace TerseMarkup.Command

/-! ## Results that may be errors -/

theorem exists_of_bind_eq_ok {ε α β : Type} {first : Except ε α}
    {next : α → Except ε β} {result : β}
    (succeeded : first >>= next = .ok result) :
    ∃ value, first = .ok value ∧ next value = .ok result := by
  cases first with
  | error failure => exact absurd succeeded (by simp [bind, Except.bind])
  | ok value => exact ⟨value, rfl, succeeded⟩

theorem eq_ok_of_toOption {ε α : Type} {result : Except ε α} {value : α}
    (succeeded : result.toOption = some value) : result = .ok value := by
  cases result with
  | error failure => contradiction
  | ok other => exact congrArg Except.ok (Option.some.inj succeeded)

/-! ## The arguments of a command -/

theorem mem_of_classifyLong {flags : List Flag} {text : List Char}
    {flag : Flag} {value : Option String}
    (isFlag : classifyLong flags text = .flag flag value) : flag ∈ flags := by
  unfold classifyLong at isFlag
  extract_lets name given at isFlag
  split at isFlag
  · cases isFlag
  · split at isFlag
    · rename_i known
      rw [← (Argument.flag.inj isFlag).1]
      exact List.mem_of_find?_eq_some known
    · cases isFlag

theorem mem_of_classifyShort {flags : List Flag} {letter : Char}
    {text : List Char} {flag : Flag} {value : Option String}
    (isFlag : classifyShort flags letter text = .flag flag value) :
    flag ∈ flags := by
  unfold classifyShort at isFlag
  extract_lets given at isFlag
  split at isFlag
  · cases isFlag
  · split at isFlag
    · rename_i known
      rw [← (Argument.flag.inj isFlag).1]
      exact List.mem_of_find?_eq_some known
    · cases isFlag

/-- An argument is read only as a flag that the command has. -/
theorem mem_of_classify {flags : List Flag} {argument : String} {flag : Flag}
    {value : Option String}
    (isFlag : classify flags argument = .flag flag value) : flag ∈ flags := by
  unfold classify at isFlag
  split at isFlag
  · cases isFlag
  · exact mem_of_classifyLong isFlag
  · cases isFlag
  · exact mem_of_classifyShort isFlag
  · cases isFlag

section Invariant

variable {verb : Verb} (holds : Given → Prop)
  (afterPath : ∀ given path after,
    holds given → given.setPath path = .ok after → holds after)

include afterPath

theorem readPaths_induction {given after : Given} {arguments : List String}
    (start : holds given) (read : readPaths given arguments = .ok after) :
    holds after := by
  induction arguments generalizing given with
  | nil =>
      rw [← Except.ok.inj read]
      exact start
  | cons path rest inductionHypothesis =>
      obtain ⟨next, set, later⟩ := exists_of_bind_eq_ok read
      exact inductionHypothesis (afterPath given path next start set) later

/-- What setting the path and setting the flags of a command preserve holds of
its arguments once they are read. -/
theorem readArguments_induction
    (afterFlag : ∀ given flag value after, flag ∈ verb.flags →
      holds given → given.setFlag verb flag value = .ok after → holds after)
    {given after : Given} {arguments : List String}
    (start : holds given)
    (read : readArguments verb given arguments = .ok (.run after)) :
    holds after := by
  fun_induction readArguments verb given arguments with
  | case1 given =>
      rw [← Asked.run.inj (Except.ok.inj read)]
      exact start
  | case2 given argument rest isEnd =>
      obtain ⟨next, paths, later⟩ := exists_of_bind_eq_ok read
      rw [← Asked.run.inj (Except.ok.inj later)]
      exact readPaths_induction holds afterPath start paths
  | case3 given argument rest isHelp => cases read
  | case4 given argument rest isUnknown => cases read
  | case5 given path rest isPath inductionHypothesis =>
      obtain ⟨next, set, later⟩ := exists_of_bind_eq_ok read
      exact inductionHypothesis next (afterPath given path next start set)
        later
  | case6 given argument rest flag value isFlag inductionHypothesis =>
      obtain ⟨next, set, later⟩ := exists_of_bind_eq_ok read
      exact inductionHypothesis next
        (afterFlag given flag value next (mem_of_classify isFlag) start set)
        later
  | case7 given argument flag isFlag => cases read
  | case8 given argument flag isFlag value rest isValue inductionHypothesis =>
      obtain ⟨next, set, later⟩ := exists_of_bind_eq_ok read
      exact inductionHypothesis next
        (afterFlag given flag value next (mem_of_classify isFlag) start set)
        later
  | case9 given argument flag isFlag value rest notValue => cases read

end Invariant

/-! ## Whole command lines -/

theorem Invocation.readHelp_ne_run (arguments : List String) (verb : Verb)
    (request : Request) :
    Invocation.readHelp arguments ≠ .ok (.run verb request) := by
  intro read
  unfold Invocation.readHelp at read
  split at read
  · cases read
  · split at read
    · cases read
    · cases read
    · split at read
      · cases read
      · cases read
    · cases read

theorem Invocation.exists_of_read {arguments : List String} {verb : Verb}
    {request : Request}
    (read : Invocation.read arguments = .ok (.run verb request)) :
    ∃ rest given, readArguments verb {} rest = .ok (.run given) ∧
      given.request verb = .ok request := by
  unfold Invocation.read at read
  split at read
  · cases read
  · rename_i rest
    split at read
    · split at read
      · cases read
      · split at read
        · cases read
        · cases read
    · cases read
    · cases read
    · cases read
    · split at read
      · obtain ⟨asked, readRest, later⟩ := exists_of_bind_eq_ok read
        cases asked with
        | help => cases later
        | run given =>
            obtain ⟨made, requested, same⟩ := exists_of_bind_eq_ok later
            cases same
            exact ⟨rest, given, readRest, requested⟩
      · split at read
        · exact absurd read (readHelp_ne_run rest verb request)
        · cases read

/-! ## Definitions -/

theorem Given.definitions_setPath {given after : Given} {path : String}
    (set : given.setPath path = .ok after) :
    after.definitions = given.definitions := by
  unfold Given.setPath at set
  split at set
  · contradiction
  · rw [← Except.ok.inj set]

theorem Given.definitions_setFlag {given after : Given} {verb : Verb}
    {flag : Flag} {value : String} (other : flag ≠ .define)
    (set : given.setFlag verb flag value = .ok after) :
    after.definitions = given.definitions := by
  cases flag with
  | define => exact absurd rfl other
  | config =>
      unfold Given.setFlag at set
      dsimp only at set
      split at set
      · contradiction
      · rw [← Except.ok.inj set]
  | format =>
      unfold Given.setFlag at set
      dsimp only at set
      split at set
      · contradiction
      · split at set
        · rw [← Except.ok.inj set]
        · contradiction

theorem Given.definitions_request {given : Given} {verb : Verb}
    {request : Request} (requested : given.request verb = .ok request) :
    request.definitions = given.definitions := by
  unfold Given.request at requested
  split at requested
  · contradiction
  · rw [← Except.ok.inj requested]

/-- A command without a flag for definitions is asked for with none. -/
theorem Invocation.definitions_of_read {arguments : List String} {verb : Verb}
    {request : Request} (undefinable : Flag.define ∉ verb.flags)
    (read : Invocation.read arguments = .ok (.run verb request)) :
    request.definitions = [] := by
  obtain ⟨rest, given, readRest, requested⟩ := exists_of_read read
  have undefined : given.definitions = [] := by
    refine readArguments_induction (fun given => given.definitions = [])
      ?_ ?_ rfl readRest
    · intro given path after before set
      rw [Given.definitions_setPath set, before]
    · intro given flag value after known before set
      have other : flag ≠ .define := by
        rintro rfl
        exact undefinable known
      rw [Given.definitions_setFlag other set, before]
  rw [Given.definitions_request requested, undefined]

end TerseMarkup.Command
