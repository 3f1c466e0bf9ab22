import PathPolicy.CommandLine.Invocation
import PathPolicy.Decision.Decide
import PathPolicy.Decision.Explanation
import PathPolicy.Storage.PolicyFile
import PathPolicy.Text.Quoted

/-!
# What the program answers

A command is answered with a text and an exit status, or with a snapshot to save.
The log and the reports of errors go to the error stream.  The exit status tells a
denied request and every failure from success, and a wrong use from both.
-/

namespace PathPolicy.CommandLine

/-- The answer to a command: a text with an exit status, or a snapshot to save under a
name. -/
inductive Reply
  | print (text : String) (status : Nat)
  | save (output : String) (document : Document)

/-- The text in which a successful count is reported. -/
def countText (document : Document) : String :=
  "✅ " ++ toString document.sections.length ++ " sections, " ++
    toString document.groups.length ++ " groups\n"

/-- The text in which a saved snapshot is reported. -/
def savedText (output : String) : String :=
  "✅ Snapshot saved: " ++ output ++ "\n"

/-- The text in which a load error is reported. -/
def errorText (error : LoadError) : String :=
  "❌ " ++ error.message ++ "\n"

/-- The answer to a command on a document. -/
def Command.reply (document : Document) : Command → Traced Step Reply
  | .check request => do
      if ← document.check request then pure (.print "allowed\n" 0)
      else pure (.print "denied\n" 1)
  | .explain request => do
      let explanation ← document.explain request
      pure (.print (explanation.text ++ "\n") 0)
  | .validate => pure (.print (countText document) 0)
  | .dump none => pure (.print document.toSnapshot.stream 0)
  | .dump (some output) =>
      if output = "" then pure (.print document.toSnapshot.stream 0)
      else pure (.save output document)

/-- A failure that ends the program without a report of its own. -/
inductive Breakdown
  | load (error : LoadError)
  | save (name : FileName) (fault : FileFault)
  | lookup (fault : FileFault)
  | homeless
  deriving DecidableEq, Repr

/-- The failure in words. -/
def Breakdown.message : Breakdown → String
  | .lookup fault => fault.message ""
  | .load error => error.fault.message error.name
  | .save name fault => fault.message name.text
  | .homeless => "Could not determine home directory."

/-- How the program ends: its exit status, what it wrote to its two streams, and the
failure that ended it, if one did. -/
structure Ending where
  status : Nat
  output : String
  errors : String
  breakdown : Option Breakdown
  deriving DecidableEq, Repr

namespace Ending

/-- The program ends with a text, of which control sequences are left out. -/
def printed (text : String) (status : Nat) : Ending :=
  ⟨status, Text.withoutSequences text, "", none⟩

/-- The program ends because no file can be looked up under a name with a null character. -/
def nullInName : Ending :=
  ⟨1, "", "", some (.lookup .nullInName)⟩

/-- The program ends because a name means a home directory that is not known. -/
def homeless : Ending :=
  ⟨1, "", "", some .homeless⟩

/-- The program ends because a policy file cannot be loaded. -/
def notLoaded (error : LoadError) : Ending :=
  if error.isReported then ⟨1, "", Text.withoutSequences (errorText error), none⟩
  else ⟨1, "", "", some (.load error)⟩

/-- The program ends behind the attempt to save a snapshot, which is reported under the name
that was given. -/
def saved (output : String) (name : FileName) : Except FileFault Unit → Ending
  | .ok () => printed (savedText output) 0
  | .error fault => ⟨1, "", "", some (.save name fault)⟩

/-- The ending with a log in front of what was written to the error stream. -/
def withLog (ending : Ending) (lines : List String) : Ending :=
  { ending with errors := String.join (lines.map (· ++ "\n")) ++ ending.errors }

end Ending

/-- The level of the log of an invocation. -/
def Invocation.logLevel (invocation : Invocation) : Level :=
  if invocation.verbose then .debug else .warning

/-- The name that a text of the command line stands for, if the home directory that it may
mean is known. -/
def fileName? (homes : Homes) (text : String) : Option FileName :=
  (FileName.ofText text).expanded? homes

/-- The answer to an invocation, of which the policy file is loaded or not. -/
def Invocation.reply (invocation : Invocation)
    (loaded : Traced Record (Except LoadError Document)) :
    Traced Record (Except LoadError Reply) := do
  match ← loaded with
  | .error error => pure (.error error)
  | .ok document => do
      let reply ← (invocation.command.reply document).mapEvents Step.record
      pure (.ok reply)

/-- Saves a snapshot on a file tree: how the program ends and the tree behind it. -/
def saveOn (homes : Homes) (tree : FileTree) (output : String) (document : Document) :
    Ending × FileTree :=
  match fileName? homes output with
  | none => (.homeless, tree)
  | some name =>
      match tree.save name document with
      | .ok saved => (.saved output name (.ok ()), saved)
      | .error fault => (.saved output name (.error fault), tree)

/-- Runs an invocation on the policy file of a name: how it ends and the tree behind it. -/
def Invocation.runOn (invocation : Invocation) (homes : Homes) (tree : FileTree)
    (name : FileName) : Ending × FileTree :=
  let reply := invocation.reply (tree.load name)
  let log := Record.shownLines invocation.logLevel reply.events
  match reply.value with
  | .error error => ((Ending.notLoaded error).withLog log, tree)
  | .ok (.print text status) => ((Ending.printed text status).withLog log, tree)
  | .ok (.save output document) =>
      let (ending, saved) := saveOn homes tree output document
      (ending.withLog log, saved)

/-- Runs an invocation on a file tree: how it ends and the tree behind it. -/
def Invocation.run (invocation : Invocation) (homes : Homes) (tree : FileTree) :
    Ending × FileTree :=
  match fileName? homes invocation.policyFile with
  | none => (.homeless, tree)
  | some name => invocation.runOn homes tree name

/-- How the program is used. -/
def usage : String :=
  "Usage: [--verbose] COMMAND POLICY_FILE [OPTIONS]\n\n" ++
    "Commands: check, explain, validate, dump\n" ++
    "Options of check and explain: --repo, --path, --user, --access read|write|recursive\n" ++
    "Options of dump: --output\n"

/-- What becomes of the arguments of the program: it is not used as it should be, or it
ends and leaves a file tree behind. -/
inductive Result
  | misused
  | ended (ending : Ending) (tree : FileTree)

/-- Runs the program on a file tree, where some home directories are known.  The policy file
has to exist under the name as it was given, and is loaded under the one that this stands
for. -/
def run (homes : Homes) (arguments : List String) (tree : FileTree) : Result :=
  match Demand.ofArguments arguments with
  | .misuse => .misused
  | .help => .ended (.printed usage 0) tree
  | .nullInName => .ended .nullInName tree
  | .run invocation =>
      if tree.holds invocation.policyFile then
        let (ending, tree) := invocation.run homes tree
        .ended ending tree
      else .misused

end PathPolicy.CommandLine
