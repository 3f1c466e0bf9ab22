import PathPolicy.CommandLine.Invocation

/-!
# Options as they are written

A command that asks about a request is written as its name, the policy file, and an option for
each part of the request.  Whatever the parts look like, they are read as they stand, and so is
the name of the file; only one that begins with a hyphen has to stand behind two hyphens.
-/

namespace PathPolicy.CommandLine

/-! ## One argument -/

namespace Arguments

variable {κ : Type} {forms : List (OptionForm κ)} {placement : Placement} {argument : String}

theorem read?_option {option : κ} (announces : readOptions? forms argument =
      some (some ⟨[], some option⟩)) (noSeparator : argument ≠ "--") (value : String)
    (rest : List String) :
    read? forms placement (argument :: value :: rest) =
      (read? forms placement rest).map (·.withOption option value) := by
  rw [read?, if_neg noSeparator, announces]
  rfl

theorem read?_positional (plain : readOptions? forms argument = none)
    (noSeparator : argument ≠ "--") (rest : List String) :
    read? forms .anywhere (argument :: rest) =
      (read? forms .anywhere rest).map (·.withPositional argument) := by
  rw [read?, if_neg noSeparator, plain]
  rfl

theorem readOptions?_of_head?_ne (plain : argument.toList.head? ≠ some '-') :
    readOptions? forms argument = none := by
  rw [readOptions?]
  cases characters : argument.toList with
  | nil => rfl
  | cons first rest =>
      rw [characters] at plain
      have differs : first ≠ '-' := by simpa using plain
      cases rest with
      | nil => rfl
      | cons second behind => exact if_pos differs

end Arguments

/-! ## A request -/

/-- The options for the parts of a request, the word for its kind at the end. -/
def requestOptions (repository : String) (path? user? : Option String) (word : String) :
    List String :=
  ["-r", repository] ++ (path?.toList.flatMap fun path => ["-p", path]) ++
    (user?.toList.flatMap fun user => ["-u", user]) ++ ["-a", word]

/-- The options for the parts of a request, as they are read. -/
def requestGiven (repository : String) (path? user? : Option String) (word : String) :
    List (OptionName × String) :=
  [(.repository, repository)] ++ (path?.toList.map fun path => (.path, path)) ++
    (user?.toList.map fun user => (.user, user)) ++ [(.access, word)]

/-- The arguments that give a command its policy file and its options. -/
inductive Asks (command policyFile : String) (options : List String) : List String → Prop
  | fileFirst (plain : policyFile.toList.head? ≠ some '-') :
      Asks command policyFile options (command :: policyFile :: options)
  | fileLast : Asks command policyFile options (command :: (options ++ ["--", policyFile]))

/-- The commands that ask about a request. -/
inductive AsksRequest : String → (Request → Command) → Prop
  | check : AsksRequest "check" .check
  | explain : AsksRequest "explain" .explain

theorem AsksRequest.exists_name {command : String} {make : Request → Command}
    (asksRequest : AsksRequest command make) :
    ∃ name, CommandName.ofWord? command = some name ∧ name.forms = requestForms ∧
      ∀ kind given, name.command? given kind =
        (given.value? .repository).map fun repository =>
          make (requestOf given repository kind) := by
  cases asksRequest with
  | check => exact ⟨.check, rfl, rfl, fun _ _ => Option.map_map ..⟩
  | explain => exact ⟨.explain, rfl, rfl, fun _ _ => Option.map_map ..⟩

/-- The request that options describe: its path in the normal spelling, and an empty name as
none. -/
def askedRequest (repository : String) (path? user? : Option String) (kind : AccessKind) :
    Request :=
  ⟨repository, path?.map fun path => (Path.ofText path).text, identityOf user?, kind⟩

variable (repository : String) (path? user? : Option String) (word : String)

/-- The options of a request are read as they stand. -/
theorem read?_requestOptions_append (behind : List String) :
    Arguments.read? requestForms .anywhere (requestOptions repository path? user? word ++ behind) =
      (Arguments.read? requestForms .anywhere behind).map fun arguments =>
        ⟨requestGiven repository path? user? word ++ arguments.options, arguments.positional⟩ := by
  have readsRepository : Arguments.readOptions? requestForms "-r" =
      some (some ⟨[], some .repository⟩) := by decide
  have readsPath : Arguments.readOptions? requestForms "-p" = some (some ⟨[], some .path⟩) := by
    decide
  have readsUser : Arguments.readOptions? requestForms "-u" = some (some ⟨[], some .user⟩) := by
    decide
  have readsAccess : Arguments.readOptions? requestForms "-a" =
      some (some ⟨[], some .access⟩) := by decide
  cases path? <;> cases user? <;>
    simp [requestOptions, requestGiven, Arguments.read?_option readsRepository,
      Arguments.read?_option readsPath, Arguments.read?_option readsUser,
      Arguments.read?_option readsAccess, Arguments.withOption, Function.comp_def]

variable {repository path? user? word} {policyFile command : String} {arguments : List String}

theorem ne_separator_of_head?_ne {argument : String} (plain : argument.toList.head? ≠ some '-') :
    argument ≠ "--" := by
  rintro rfl
  exact plain rfl

/-- Wherever the policy file stands, it is read as the only positional argument. -/
theorem read?_of_asks
    (asks : Asks command policyFile (requestOptions repository path? user? word) arguments) :
    ∃ rest, arguments = command :: rest ∧
      Arguments.read? requestForms .anywhere rest =
        some ⟨requestGiven repository path? user? word, [policyFile]⟩ := by
  cases asks with
  | fileFirst plain =>
      refine ⟨_, rfl, ?_⟩
      have alone := read?_requestOptions_append repository path? user? word []
      rw [List.append_nil] at alone
      rw [Arguments.read?_positional (Arguments.readOptions?_of_head?_ne plain)
        (ne_separator_of_head?_ne plain), alone]
      simp [Arguments.withPositional]
  | fileLast =>
      refine ⟨_, rfl, ?_⟩
      rw [read?_requestOptions_append, Arguments.read?_separator]
      simp

theorem read?_inFront {argument : String} (plain : argument.toList.head? ≠ some '-')
    (rest : List String) :
    Arguments.read? programForms .inFront (argument :: rest) = some ⟨[], argument :: rest⟩ := by
  rw [Arguments.read?, if_neg (ne_separator_of_head?_ne plain),
    Arguments.readOptions?_of_head?_ne plain]
  rfl

theorem value?_requestGiven (positional : List String) (option : OptionName) :
    Arguments.value? ⟨requestGiven repository path? user? word, positional⟩ option =
      match option with
      | .repository => some repository
      | .path => path?
      | .user => user?
      | .access => some word
      | _ => none := by
  cases path? <;> cases user? <;> cases option <;> rfl

theorem has_help_requestGiven (positional : List String) :
    Arguments.has ⟨requestGiven repository path? user? word, positional⟩ .help = false := by
  cases path? <;> cases user? <;> rfl

theorem ofCommand_requestGiven {kind : AccessKind} (isKind : kindOf? word = some kind)
    {name : CommandName} {make : Request → Command}
    (makes : ∀ given, name.command? given kind =
      (given.value? .repository).map fun repository => make (requestOf given repository kind)) :
    Demand.ofCommand false name ⟨requestGiven repository path? user? word, [policyFile]⟩ =
      if holdsNull policyFile then .nullInName
      else .run ⟨false, policyFile, make (askedRequest repository path? user? kind)⟩ := by
  have described : requestOf ⟨requestGiven repository path? user? word, [policyFile]⟩ repository
      kind = askedRequest repository path? user? kind := by
    simp only [requestOf, askedRequest, value?_requestGiven]
  have isAsked : accessOf? ⟨requestGiven repository path? user? word, [policyFile]⟩ =
      some kind := by
    simp only [accessOf?, value?_requestGiven, Option.getD_some, isKind]
  simp only [Demand.ofCommand, has_help_requestGiven, value?_requestGiven, isAsked, makes,
    described, Option.any_none, Option.map_some, Bool.false_eq_true, if_false]

/-- A command that asks about a request asks about the one that its options describe. -/
theorem ofArguments_of_asks {make : Request → Command} (asksRequest : AsksRequest command make)
    {kind : AccessKind} (isKind : kindOf? word = some kind)
    (asks : Asks command policyFile (requestOptions repository path? user? word) arguments) :
    Demand.ofArguments arguments =
      if holdsNull policyFile then .nullInName
      else .run ⟨false, policyFile, make (askedRequest repository path? user? kind)⟩ := by
  rcases read?_of_asks asks with ⟨rest, rfl, read⟩
  rcases asksRequest.exists_name with ⟨name, named, forms, makes⟩
  have plain : command.toList.head? ≠ some '-' := by cases asksRequest <;> decide
  rw [← ofCommand_requestGiven isKind (makes kind), Demand.ofArguments, read?_inFront plain]
  simp only [named, forms, read]
  rfl

end PathPolicy.CommandLine
