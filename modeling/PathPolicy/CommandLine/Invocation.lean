import PathPolicy.CommandLine.Arguments
import PathPolicy.Path
import PathPolicy.Request

/-!
# Invocations

The program is invoked with the name of a command, a policy file and the options of
the command.  A command checks or explains a request, counts what a policy holds, or
shows or saves its snapshot.
-/

namespace PathPolicy.CommandLine

/-- What is to be done with a policy. -/
inductive Command
  | check (request : Request)
  | explain (request : Request)
  | validate
  | dump (output : Option String)
  deriving DecidableEq, Repr

/-- A command with its policy file, and whether the whole log is shown. -/
structure Invocation where
  verbose : Bool
  policyFile : String
  command : Command
  deriving DecidableEq, Repr

/-- What the arguments of the program ask for.  They may not fit, or spell the name of a
file with a null character, for which no file can be looked up. -/
inductive Demand
  | misuse
  | help
  | nullInName
  | run (invocation : Invocation)
  deriving DecidableEq, Repr

/-- The options of the program and of its commands. -/
inductive OptionName
  | verbose
  | help
  | repository
  | path
  | user
  | access
  | output
  deriving DecidableEq, Repr

/-- The option that shows how the program is used. -/
def helpForm : OptionForm OptionName :=
  ⟨.help, none, "help", false⟩

/-- The options in front of the command. -/
def programForms : List (OptionForm OptionName) :=
  [⟨.verbose, some 'v', "verbose", false⟩, helpForm]

/-- The options that describe a request. -/
def requestForms : List (OptionForm OptionName) :=
  [⟨.repository, some 'r', "repo", true⟩, ⟨.path, some 'p', "path", true⟩,
    ⟨.user, some 'u', "user", true⟩, ⟨.access, some 'a', "access", true⟩, helpForm]

/-- The options of the command that saves a snapshot. -/
def dumpForms : List (OptionForm OptionName) :=
  [⟨.output, some 'o', "output", true⟩, helpForm]

/-- The kind of access that a word of the command line stands for. -/
def kindOf? (word : String) : Option AccessKind :=
  [("read", AccessKind.read), ("write", .write), ("recursive", .readRecursive)].lookup word

/-- The identity of a user name; an empty name is none. -/
def identityOf (user : Option String) : Identity :=
  match user with
  | none => .anonymous
  | some name => if name = "" then .anonymous else .named name

/-- Whether a name has a null character in it. -/
def holdsNull (name : String) : Bool :=
  name.toList.contains '\x00'

/-- The kind of access that an option asks for; reading unless it says otherwise. -/
def accessOf? (arguments : Arguments OptionName) : Option AccessKind :=
  kindOf? ((arguments.value? .access).getD "read")

/-- The request of a kind that options describe. -/
def requestOf (arguments : Arguments OptionName) (repository : String) (kind : AccessKind) :
    Request :=
  let path := (arguments.value? .path).map fun path => (Path.ofText path).text
  ⟨repository, path, identityOf (arguments.value? .user), kind⟩

/-- The commands by their names. -/
inductive CommandName
  | check
  | explain
  | validate
  | dump
  deriving DecidableEq, Repr

namespace CommandName

/-- The command that a word names. -/
def ofWord? (word : String) : Option CommandName :=
  [("check", check), ("explain", explain), ("validate", validate), ("dump", dump)].lookup word

/-- The options of a command. -/
def forms : CommandName → List (OptionForm OptionName)
  | check => requestForms
  | explain => requestForms
  | validate => [helpForm]
  | dump => dumpForms

/-- The command with the options that were given.  The repository is required. -/
def command? (name : CommandName) (arguments : Arguments OptionName) (kind : AccessKind) :
    Option Command :=
  let request? := (arguments.value? .repository).map fun repository =>
    requestOf arguments repository kind
  match name with
  | check => request?.map .check
  | explain => request?.map .explain
  | validate => some .validate
  | dump => some (.dump (arguments.value? .output))

end CommandName

/-- What a command asks for with its options.  They are looked at in front of the policy
file, and what is missing or needless after it: the first fault counts. -/
def Demand.ofCommand (verbose : Bool) (name : CommandName) (arguments : Arguments OptionName) :
    Demand :=
  if arguments.has .help then .help
  else if (arguments.value? .output).any holdsNull then .nullInName
  else
    match accessOf? arguments, arguments.positional with
    | some kind, policyFile :: needless =>
        if holdsNull policyFile then .nullInName
        else
          match name.command? arguments kind, needless with
          | some command, [] => .run ⟨verbose, policyFile, command⟩
          | _, _ => .misuse
    | _, _ => .misuse

/-- What the arguments of the program ask for. -/
def Demand.ofArguments (arguments : List String) : Demand :=
  match Arguments.read? programForms .inFront arguments with
  | none => .misuse
  | some outer =>
      if outer.has .help then .help
      else
        match outer.positional with
        | [] => .misuse
        | word :: rest =>
            match CommandName.ofWord? word with
            | none => .misuse
            | some name =>
                match Arguments.read? name.forms .anywhere rest with
                | none => .misuse
                | some inner => .ofCommand (outer.has .verbose) name inner

end PathPolicy.CommandLine
