import PathPolicy.CommandLine.Reply
import PathPolicy.Proofs.CommandLine.Options
import PathPolicy.Proofs.Decision.Explained
import PathPolicy.Proofs.Decision.Verdicts
import PathPolicy.Proofs.Group.Shorthand
import PathPolicy.Proofs.Service.Respelled

/-!
# Commands and services

A command answers what a service answers that holds the document of the same file.  The command
spells the path in its normal way and takes an empty name for none, which the service does not;
but no document that was loaded has a word on the empty name alone.
-/

namespace PathPolicy

/-! ## The empty name -/

namespace Document

variable {document : Document}

theorem applies_named_empty (named : document.HasNamedMembers) (entry : Entry) :
    document.applies entry (.named "") = document.applies entry .anonymous := by
  cases principal : entry.principal with
  | anyone => simp [applies, principal]
  | user name => simp [applies, principal, name.property]
  | group group =>
      have absent : "" ∉ document.groupMembers group.val := fun listed => named.ne_empty listed rfl
      simp [applies, principal, absent]

/-- The empty name is answered like none. -/
theorem allows_named_empty (named : document.HasNamedMembers) (repository : String)
    (path? : Option String) (kind : AccessKind) :
    document.allows repository path? (.named "") kind =
      document.allows repository path? .anonymous kind := by
  apply allows_congr_of_verdictAt_eq
  intro name
  rw [verdictAt, verdictAt]
  cases document.section? name with
  | none => rfl
  | some part =>
      rw [evaluate, evaluate, value_collect, value_collect, applying, applying,
        funext (applies_named_empty named)]

theorem isRead_of_ofSnapshotBytes {bytes : List UInt8}
    (found : (ofSnapshotBytes bytes).value = .ok document) : document.IsRead := by
  cases outcome : Yaml.read bytes with
  | error fault =>
      rw [value_ofSnapshotBytes_of_unread outcome] at found
      cases found
  | ok data =>
      rw [value_ofSnapshotBytes_of_read outcome, mapError_eq_ok_iff] at found
      exact .data _ found

theorem isRead_of_ofTextBytes {source : String} {bytes : List UInt8}
    (found : (ofTextBytes source bytes).value = .ok document) : document.IsRead := by
  rw [ofTextBytes] at found
  split at found
  · cases found
  · rw [Traced.value_map, mapError_eq_ok_iff] at found
    exact .text _ _ found

theorem allows_normal (document : Document) (repository : String) (path? : Option String)
    (identity : Identity) (kind : AccessKind) :
    document.allows repository (path?.map fun path => (Path.ofText path).text) identity kind =
      document.allows repository path? identity kind := by
  cases path? with
  | none => rfl
  | some path =>
      exact congrArg Traced.value
        (document.decideTraced_respelled (Path.ofText_text _) repository identity kind)

/-- A document that was loaded was read, from a policy text or from a snapshot. -/
theorem isRead_of_load {tree : FileTree} {name : FileName}
    (loads : (tree.load name).value = .ok document) : document.IsRead := by
  rw [FileTree.load] at loads
  cases content : tree.read name.text with
  | error fault =>
      rw [content, loadContent_error] at loads
      cases loads
  | ok bytes =>
      rw [content, loadContent, Traced.value_map, mapError_eq_ok_iff] at loads
      by_cases isSnapshot : name.isSnapshot = true
      · rw [if_pos isSnapshot, Traced.value_mapEvents] at loads
        exact isRead_of_ofSnapshotBytes loads
      · rw [if_neg isSnapshot, Traced.value_mapEvents] at loads
        exact isRead_of_ofTextBytes loads

end Document

/-! ## What a service says -/

namespace Service

variable {service : Service} {document : Document}

/-- A service that holds a document, and is open to those without a name, grants what the document
permits. -/
theorem authorize_granted_iff_of_held (held : service.document = some document)
    (openToAll : service.config.anonymous = true) (load : Loader) (operation : Operation) :
    (service.authorize load operation).value.answer = .ok .granted ↔
      operation.IsPermittedBy document := by
  have minded : ¬ service.LeavesAlone operation := by
    intro alone
    cases alone with
    | noPolicy missing => simp [held] at missing
    | nameless _ closed => simp [openToAll] at closed
  have answered : (service.authorize load operation).value.answer =
      .ok (decide service.config document operation).value := by
    rw [authorize_of_answersFrom minded (.held held)]
    rfl
  rw [answered, Except.ok.injEq]
  rcases value_decide service.config document operation with ⟨permitted, granted⟩ |
    ⟨unpermitted, refused⟩
  · exact iff_of_true granted permitted
  · rw [refused, value_refuse]
    cases service.config.authoritative <;> simp [unpermitted]

/-- The access that a method is about, for the methods that ask at one place what a command can
ask. -/
inductive AsksFor : String → AccessKind → Prop
  | read : AsksFor "GET" .read
  | write : AsksFor "PUT" .write

theorem isPermittedBy_iff_allows {method : String} {kind : AccessKind}
    (asksFor : AsksFor method kind) (repository : String) (path? : Option String)
    (identity : Identity) :
    Operation.IsPermittedBy ⟨method, ⟨repository, path?⟩, identity, none⟩ document ↔
      document.allows repository (path?.map fun path => (Path.ofText path).text) identity kind =
        true := by
  have requests : Operation.requests ⟨method, ⟨repository, path?⟩, identity, none⟩ =
      .ok [⟨repository, path?.map fun path => (Path.ofText path).text, identity, kind⟩] := by
    have upper : Text.upperCase method = method := by cases asksFor <;> decide +kernel
    rw [Operation.requests, Operation.sourceRequest, Operation.sourcePath, Operation.kind,
      Operation.verb, upper]
    cases asksFor <;> rfl
  rw [Operation.isPermittedBy_iff, requests]
  simp [Document.check, Document.allows]

end Service

/-! ## What a command says -/

namespace CommandLine

/-- The exit status of the program, with the one for a wrong use. -/
def Result.status : Result → Nat
  | .misused => 2
  | .ended ending _ => ending.status

/-- What the program writes to its output; how it is used goes to the error stream. -/
def Result.output : Result → String
  | .misused => ""
  | .ended ending _ => ending.output

/-- The program ends with a status and a text. -/
def Result.Prints (result : Result) (status : Nat) (text : String) : Prop :=
  result.status = status ∧ result.output = text

/-- The program says whether something is allowed, by its status as well as in words. -/
structure Result.TellsWhether (result : Result) (allowed : Prop) : Prop where
  allowed_iff : result.Prints 0 "allowed\n" ↔ allowed
  denied_iff : result.Prints 1 "denied\n" ↔ ¬ allowed

theorem Result.TellsWhether.of_prints {result : Result} {allowed : Prop}
    (prints : (allowed ∧ result.Prints 0 "allowed\n") ∨
      (¬ allowed ∧ result.Prints 1 "denied\n")) : result.TellsWhether allowed := by
  rcases prints with ⟨isAllowed, status, output⟩ | ⟨isDenied, status, output⟩
  · constructor <;> simp [Result.Prints, status, output, isAllowed]
  · constructor <;> simp [Result.Prints, status, output, isDenied]

theorem Result.TellsWhether.status_eq_zero_iff {result : Result} {allowed : Prop}
    (tells : result.TellsWhether allowed) : result.status = 0 ↔ allowed := by
  by_cases isAllowed : allowed
  · exact iff_of_true (tells.allowed_iff.2 isAllowed).1 isAllowed
  · refine iff_of_false ?_ isAllowed
    rw [(tells.denied_iff.2 isAllowed).1]
    exact Nat.one_ne_zero

variable {homes : Homes} {tree : FileTree} {policyFile : String} {name : FileName}
  {arguments : List String} {invocation : Invocation} {document : Document}

/-- What exists has no null character in its name. -/
theorem holdsNull_of_holds (present : tree.holds policyFile = true) :
    holdsNull policyFile = false := by
  cases null : holdsNull policyFile with
  | false => rfl
  | true =>
      rw [holdsNull] at null
      have named : policyFile ≠ "" := by
        rintro rfl
        cases null
      have nowhere : tree.find policyFile = .error .nullInName := by
        rw [FileTree.find, FileTree.place, if_neg named, if_pos null]
        rfl
      rw [FileTree.holds, nowhere] at present
      cases present

theorem withoutSequences_of_not_mem {text : String}
    (absent : Text.escapeCharacter ∉ text.toList) : Text.withoutSequences text = text := by
  rw [Text.withoutSequences, Text.dropSequences_of_not_mem absent, String.ofList_toList]

theorem run_of_holds (asks : Demand.ofArguments arguments = .run invocation)
    (present : tree.holds invocation.policyFile = true) :
    run homes arguments tree =
      .ended (invocation.run homes tree).1 (invocation.run homes tree).2 := by
  rw [run, asks]
  dsimp only
  rw [if_pos present]

theorem run_of_stands (asks : Demand.ofArguments arguments = .run invocation)
    (present : tree.holds invocation.policyFile = true)
    (stands : fileName? homes invocation.policyFile = some name) :
    run homes arguments tree =
      .ended (invocation.runOn homes tree name).1 (invocation.runOn homes tree name).2 := by
  rw [run_of_holds asks present, Invocation.run, stands]

theorem run_prints (asks : Demand.ofArguments arguments = .run invocation)
    (present : tree.holds invocation.policyFile = true)
    (stands : fileName? homes invocation.policyFile = some name)
    (loads : (tree.load name).value = .ok document) {text : String} {status : Nat}
    (replies : (invocation.command.reply document).value = .print text status) :
    (run homes arguments tree).Prints status (Text.withoutSequences text) := by
  have replied : (invocation.reply (tree.load name)).value = .ok (.print text status) := by
    rw [Invocation.reply, Traced.value_bind, loads]
    simp [replies]
  rw [run_of_stands asks present stands]
  unfold Invocation.runOn
  simp only [replied]
  exact ⟨rfl, rfl⟩

theorem run_prints_plain (asks : Demand.ofArguments arguments = .run invocation)
    (present : tree.holds invocation.policyFile = true)
    (stands : fileName? homes invocation.policyFile = some name)
    (loads : (tree.load name).value = .ok document) {text : String} {status : Nat}
    (plain : Text.escapeCharacter ∉ text.toList)
    (replies : (invocation.command.reply document).value = .print text status) :
    (run homes arguments tree).Prints status text := by
  have printed := run_prints asks present stands loads replies
  rwa [withoutSequences_of_not_mem plain] at printed

theorem run_of_not_loaded (asks : Demand.ofArguments arguments = .run invocation)
    (present : tree.holds invocation.policyFile = true)
    (stands : fileName? homes invocation.policyFile = some name) {error : LoadError}
    (fails : (tree.load name).value = .error error) :
    (run homes arguments tree).Prints 1 "" := by
  have replied : (invocation.reply (tree.load name)).value = .error error := by
    rw [Invocation.reply, Traced.value_bind, fails]
    rfl
  rw [run_of_stands asks present stands]
  unfold Invocation.runOn
  simp only [replied, Ending.notLoaded]
  cases error.isReported <;> exact ⟨rfl, rfl⟩

/-- The program prints nothing where the name of the policy file means a home directory that is
not known. -/
theorem run_of_homeless (asks : Demand.ofArguments arguments = .run invocation)
    (present : tree.holds invocation.policyFile = true)
    (homeless : fileName? homes invocation.policyFile = none) :
    (run homes arguments tree).Prints 1 "" := by
  rw [run_of_holds asks present, Invocation.run, homeless]
  exact ⟨rfl, rfl⟩

variable {repository word : String} {path? user? : Option String} {kind : AccessKind}

/-- What a command asks is answered as if the path and the name stood there as they were given. -/
theorem value_check_askedRequest (named : document.HasNamedMembers) :
    (document.check (askedRequest repository path? user? kind)).value =
      document.allows repository path? (.ofName? user?) kind := by
  refine (document.allows_normal repository path? (identityOf user?) kind).trans ?_
  cases user? with
  | none => rfl
  | some user =>
      by_cases empty : user = ""
      · rw [identityOf, if_pos empty, empty]
        exact (Document.allows_named_empty named repository path? kind).symm
      · rw [identityOf, if_neg empty]
        rfl

theorem ofArguments_of_holds {command : String} {make : Request → Command}
    (asksRequest : AsksRequest command make) (present : tree.holds policyFile = true)
    (isKind : kindOf? word = some kind)
    (asks : Asks command policyFile (requestOptions repository path? user? word) arguments) :
    Demand.ofArguments arguments =
      .run ⟨false, policyFile, make (askedRequest repository path? user? kind)⟩ := by
  rw [ofArguments_of_asks asksRequest isKind asks, holdsNull_of_holds present,
    if_neg Bool.false_ne_true]

/-- The program tells whether the document in the policy file allows what is asked. -/
theorem run_check_tellsWhether (present : tree.holds policyFile = true)
    (stands : fileName? homes policyFile = some name)
    (loads : (tree.load name).value = .ok document)
    (isKind : kindOf? word = some kind)
    (asks : Asks "check" policyFile (requestOptions repository path? user? word) arguments) :
    (run homes arguments tree).TellsWhether
      (document.allows repository path? (.ofName? user?) kind = true) := by
  have demanded := ofArguments_of_holds .check present isKind asks
  have named := (Document.isRead_of_load loads).hasNamedMembers
  rw [← value_check_askedRequest named]
  cases allowed : (document.check (askedRequest repository path? user? kind)).value with
  | true =>
      have replies : ((Command.check (askedRequest repository path? user? kind)).reply
          document).value = .print "allowed\n" 0 := by simp [Command.reply, allowed]
      have prints := run_prints_plain demanded present stands loads (by decide) replies
      exact .of_prints (Or.inl ⟨rfl, prints⟩)
  | false =>
      have replies : ((Command.check (askedRequest repository path? user? kind)).reply
          document).value = .print "denied\n" 1 := by simp [Command.reply, allowed]
      have prints := run_prints_plain demanded present stands loads (by decide) replies
      exact .of_prints (Or.inr ⟨Bool.false_ne_true, prints⟩)

/-- The program prints the explanation of what is asked. -/
theorem run_explain_prints (present : tree.holds policyFile = true)
    (stands : fileName? homes policyFile = some name)
    (loads : (tree.load name).value = .ok document)
    (isKind : kindOf? word = some kind)
    (asks : Asks "explain" policyFile (requestOptions repository path? user? word) arguments) :
    (run homes arguments tree).Prints 0 (Text.withoutSequences
      ((document.explain (askedRequest repository path? user? kind)).value.text ++ "\n")) := by
  have demanded := ofArguments_of_holds .explain present isKind asks
  exact run_prints demanded present stands loads rfl

/-- No document can be had of a policy file: it does not exist, its name means a home directory
that is not known, or the file that the name stands for is not loaded. -/
inductive Unloadable (homes : Homes) (tree : FileTree) (policyFile : String) : Prop
  | missing (absent : tree.holds policyFile = false)
  | homeless (unknown : fileName? homes policyFile = none)
  | notLoaded {name : FileName} {error : LoadError}
      (stands : fileName? homes policyFile = some name)
      (fails : (tree.load name).value = .error error)

/-- The program fails and prints nothing where no document can be had. -/
theorem run_check_fails (unloadable : Unloadable homes tree policyFile)
    (isKind : kindOf? word = some kind)
    (asks : Asks "check" policyFile (requestOptions repository path? user? word) arguments) :
    (run homes arguments tree).status ≠ 0 ∧ (run homes arguments tree).output = "" := by
  cases present : tree.holds policyFile with
  | true =>
      have demanded := ofArguments_of_holds .check present isKind asks
      have prints : (run homes arguments tree).Prints 1 "" := by
        cases unloadable with
        | missing absent =>
            rw [present] at absent
            cases absent
        | homeless unknown => exact run_of_homeless demanded present unknown
        | notLoaded stands fails => exact run_of_not_loaded demanded present stands fails
      exact ⟨by simp [prints.1], prints.2⟩
  | false =>
      have demanded := ofArguments_of_asks .check isKind asks
      rw [run, demanded]
      cases holdsNull policyFile with
      | true => exact ⟨Nat.one_ne_zero, rfl⟩
      | false => simp [present, Result.status, Result.output]

/-- What the commands say of a policy file agrees with its document, whatever repository, path and
name they are asked about. -/
structure AgreesWith (homes : Homes) (tree : FileTree) (policyFile repository : String)
    (path? user? : Option String) (document : Document) : Prop where
  /-- A service that holds the document, and is open to those without a name, grants the method
  that reads or writes at the place exactly where the program allows to read or to write. -/
  grants : ∀ (service : Service) (load : Loader), service.document = some document →
    service.config.anonymous = true →
    ∀ word method, (word = "read" ∧ method = "GET") ∨ (word = "write" ∧ method = "PUT") →
    ∀ arguments, Asks "check" policyFile (requestOptions repository path? user? word) arguments →
      (run homes arguments tree).TellsWhether
        ((service.authorize load
            ⟨method, ⟨repository, path?⟩, .ofName? user?, none⟩).value.answer = .ok .granted)
  /-- The document allows to read everything below the place where the program does. -/
  allows : ∀ arguments,
    Asks "check" policyFile (requestOptions repository path? user? "recursive") arguments →
      (run homes arguments tree).TellsWhether
        (document.allows repository path? (.ofName? user?) .readRecursive = true)
  /-- The explanation that is printed says that access is allowed where the program allows it. -/
  explains : ∀ word kind, kindOf? word = some kind → ∀ checking explaining,
    Asks "check" policyFile (requestOptions repository path? user? word) checking →
    Asks "explain" policyFile (requestOptions repository path? user? word) explaining →
      let explanation := (document.explain (askedRequest repository path? user? kind)).value
      (run homes explaining tree).Prints 0 (Text.withoutSequences (explanation.text ++ "\n")) ∧
        (explanation.isAllowed = true ↔ (run homes checking tree).status = 0)

/-- The commands agree with the services on a policy file that exists and is loaded under the name
that its own stands for, whatever the place and the name are that they are asked about.  Where no
document can be had, the program fails and prints nothing. -/
theorem commands_agree_with_services (homes : Homes) (tree : FileTree)
    (policyFile repository : String) (path? user? : Option String) :
    (tree.holds policyFile = true →
      ∀ name, fileName? homes policyFile = some name →
      ∀ document, (tree.load name).value = .ok document →
        AgreesWith homes tree policyFile repository path? user? document) ∧
    (Unloadable homes tree policyFile →
      ∀ word kind, kindOf? word = some kind → ∀ arguments,
        Asks "check" policyFile (requestOptions repository path? user? word) arguments →
          (run homes arguments tree).status ≠ 0 ∧ (run homes arguments tree).output = "") := by
  constructor
  · intro present name stands document loads
    constructor
    case grants =>
      intro service load held openToAll word method pair arguments asks
      have asksFor : ∃ kind, kindOf? word = some kind ∧ Service.AsksFor method kind := by
        rcases pair with ⟨rfl, rfl⟩ | ⟨rfl, rfl⟩
        · exact ⟨.read, rfl, .read⟩
        · exact ⟨.write, rfl, .write⟩
      rcases asksFor with ⟨kind, isKind, asksFor⟩
      rw [service.authorize_granted_iff_of_held held openToAll,
        Service.isPermittedBy_iff_allows asksFor, document.allows_normal]
      exact run_check_tellsWhether present stands loads isKind asks
    case allows =>
      intro arguments asks
      exact run_check_tellsWhether present stands loads rfl asks
    case explains =>
      intro word kind isKind checking explaining asksCheck asksExplain
      have named := (Document.isRead_of_load loads).hasNamedMembers
      have tells := run_check_tellsWhether present stands loads isKind asksCheck
      refine ⟨run_explain_prints present stands loads isKind asksExplain, ?_⟩
      rw [Document.isAllowed_value_explain, value_check_askedRequest named,
        tells.status_eq_zero_iff]
  · intro unloadable word kind isKind arguments asks
    exact run_check_fails unloadable isKind asks

/-- A policy by which everyone may read one directory, in the home directory; under the name with
the tilde itself stands a policy by which nobody may. -/
def openFiles : FileTree :=
  [(["/", "home", "authz"], .file (Text.Utf8.encode "[/a]\n* = r\n")),
    (["~", "authz"], .file (Text.Utf8.encode "[/a]\n* =\n"))]

/-- Only whoever runs the program has a home directory. -/
def ownHome : Homes :=
  fun user => if user = "" then some "/home/" else none

/-- The document of the policy. -/
def openDocument : Document where
  sections := [⟨"/a", [⟨.anyone, .only .read⟩]⟩]
  groups := []
  unreserved := List.forall_mem_singleton.2 (by decide)
  sectionsDistinct := List.pairwise_singleton _ _
  groupsDistinct := List.nodup_nil

/-- Whoever gives an empty name may read the directory and not write there; in a file that is
missing nothing is looked up. -/
theorem openFiles_agree :
    openFiles.holds "~/authz" = true ∧
      fileName? ownHome "~/authz" = some (.ofText "/home/authz") ∧
      (openFiles.load (.ofText "/home/authz")).value = .ok openDocument ∧
      (run ownHome ["check", "~/authz", "-r", "repo", "-p", "a/", "-u", "", "-a", "read"]
        openFiles).Prints 0 "allowed\n" ∧
      (run ownHome ["check", "-r", "repo", "-p", "a/", "-u", "", "-a", "write", "--", "~/authz"]
        openFiles).Prints 1 "denied\n" ∧
      (run ownHome ["explain", "~/authz", "-r", "repo", "-p", "a/", "-u", "", "-a", "read"]
        openFiles).Prints 0 ("READ on 'repo:/a' (user: (anonymous))\n" ++
          "  Allowed: True — Explicitly allowed\n  Deciding section: [/a]\n") ∧
      (run ownHome ["check", "nowhere", "-r", "repo", "-p", "a/", "-u", "", "-a", "read"]
        openFiles).status ≠ 0 := by
  have present : openFiles.holds "~/authz" = true := by decide +kernel
  have absent : openFiles.holds "nowhere" = false := by decide +kernel
  have stands : fileName? ownHome "~/authz" = some (.ofText "/home/authz") := by decide +kernel
  have loads : (openFiles.load (.ofText "/home/authz")).value = .ok openDocument := by
    decide +kernel
  have agrees := (commands_agree_with_services ownHome openFiles "~/authz" "repo" (some "a/")
    (some "")).1 present _ stands _ loads
  have fails := (commands_agree_with_services ownHome openFiles "nowhere" "repo" (some "a/")
    (some "")).2 (.missing absent)
  let service : Service := ⟨⟨none, true, true⟩, some openDocument⟩
  have reads := agrees.grants service openFiles.load rfl rfl "read" "GET" (Or.inl ⟨rfl, rfl⟩) _
    (.fileFirst (by decide))
  have writes := agrees.grants service openFiles.load rfl rfl "write" "PUT" (Or.inr ⟨rfl, rfl⟩) _
    .fileLast
  have explains := agrees.explains "read" .read rfl _ _ (.fileFirst (by decide))
    (.fileFirst (by decide))
  rcases explains with ⟨⟨status, output⟩, _⟩
  refine ⟨present, stands, loads, reads.allowed_iff.2 ?_, writes.denied_iff.2 ?_, ⟨status, ?_⟩, ?_⟩
  · decide +kernel
  · decide +kernel
  · refine output.trans ?_
    decide +kernel
  · exact (fails "read" .read rfl _ (.fileFirst (by decide))).1

end CommandLine

end PathPolicy
