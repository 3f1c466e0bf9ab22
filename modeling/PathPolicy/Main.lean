import PathPolicy.CommandLine.Reply

/-!
# The program

Reads the policy file that the arguments name, answers, and writes the snapshot if
one is to be saved.  What is written and with which exit status follows from the
answer of the library alone.
-/

namespace PathPolicy.CommandLine

/-- The number of an error of the system, which may be given as its negative. -/
def errorNumber (code : UInt32) : Nat :=
  if code < 0x80000000 then code.toNat else 0x100000000 - code.toNat

/-- The fault that a number and words of the system stand for. -/
def faultOfNumber (number : Nat) (words : String) : FileFault :=
  let known := [FileFault.notFound, .notDirectory, .isDirectory, .nameTooLong]
  (known.find? fun fault => (fault.report?.map Prod.fst) == some number).getD
    (.other number words)

/-- The fault that an error of the system stands for. -/
def faultOf : IO.Error → FileFault
  | .noFileOrDirectory .. => .notFound
  | .inappropriateType _ code words => faultOfNumber (errorNumber code) words
  | .permissionDenied _ code words => faultOfNumber (errorNumber code) words
  | .invalidArgument _ code words => faultOfNumber (errorNumber code) words
  | error => .other 5 error.toString

/-- The bytes of a file, or why they cannot be read. -/
def readFile (name : String) : IO (Except FileFault (List UInt8)) := do
  try
    let bytes ← IO.FS.readBinFile name
    pure (.ok bytes.toList)
  catch error => pure (.error (faultOf error))

/-- Writes a text into a file, or says why that is not possible. -/
def writeFile (name text : String) : IO (Except FileFault Unit) := do
  try
    IO.FS.writeFile name text
    pure (.ok ())
  catch error => pure (.error (faultOf error))

/-- Writes what an ending has for the two streams and gives its exit status. -/
def finish (ending : Ending) : IO UInt32 := do
  (← IO.getStderr).putStr ending.errors
  (← IO.getStdout).putStr ending.output
  match ending.breakdown with
  | none => pure ()
  | some breakdown => (← IO.getStderr).putStrLn breakdown.message
  pure (UInt32.ofNat ending.status)

/-- Says how the program is used. -/
def misuse : IO UInt32 := do
  (← IO.getStderr).putStr usage
  pure 2

/-- The home directory of a user in the lines of the accounts of the system, where it stands
in the sixth column. -/
def homeIn? (accounts user : String) : Option String :=
  let rows := (Text.splitLines accounts.toList).map fun line =>
    (Text.splitAt ':' line).map String.ofList
  (rows.find? fun row => row.head? == some user).bind fun row => row[5]?

/-- The home directories that the system knows. -/
def systemHomes : IO Homes := do
  let own ← IO.getEnv "HOME"
  let accounts ←
    try IO.FS.readFile "/etc/passwd"
    catch _ => pure ""
  pure fun user => if user = "" then own else homeIn? accounts user

/-- Saves a snapshot under the name that a text stands for, and says how the program ends. -/
def saveFile (homes : Homes) (output : String) (document : Document) : IO Ending := do
  match fileName? homes output with
  | none => pure .homeless
  | some name => return .saved output name (← writeFile name.text document.toSnapshot.stream)

/-- Answers an invocation on the policy file of a name, readable or not. -/
def answer (invocation : Invocation) (homes : Homes) (name : FileName) : IO UInt32 := do
  let reply := invocation.reply (loadContent name (← readFile name.text))
  let log := Record.shownLines invocation.logLevel reply.events
  match reply.value with
  | .error error => finish ((Ending.notLoaded error).withLog log)
  | .ok (.print text status) => finish ((Ending.printed text status).withLog log)
  | .ok (.save output document) => finish ((← saveFile homes output document).withLog log)

/-- Whether a name leads to a file that can be read, or to a directory. -/
def isPresent (name : String) : IO Bool := do
  match ← readFile name with
  | .ok _ => pure true
  | .error fault => pure (fault == .isDirectory)

/-- Runs an invocation on the files of the system. -/
def runInvocation (invocation : Invocation) : IO UInt32 := do
  if ← isPresent invocation.policyFile then
    let homes ← systemHomes
    match fileName? homes invocation.policyFile with
    | none => finish .homeless
    | some name => answer invocation homes name
  else misuse

end PathPolicy.CommandLine

/-- The program: its arguments decide what it does. -/
def main (arguments : List String) : IO UInt32 := do
  match PathPolicy.CommandLine.Demand.ofArguments arguments with
  | .misuse => PathPolicy.CommandLine.misuse
  | .help => PathPolicy.CommandLine.finish (.printed PathPolicy.CommandLine.usage 0)
  | .nullInName => PathPolicy.CommandLine.finish .nullInName
  | .run invocation => PathPolicy.CommandLine.runInvocation invocation
