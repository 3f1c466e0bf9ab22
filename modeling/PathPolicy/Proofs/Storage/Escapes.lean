import PathPolicy.Proofs.PolicyText.Names
import PathPolicy.Proofs.Snapshot.Faults
import PathPolicy.Service

/-!
# Faults that no caller expects

Which policy files end whatever they were loaded for.  A snapshot does when the members of
one of its groups cannot be listed, when members or permissions are nested too deep, or when
its stream has a fault that the reader of streams does not own up to; a policy text only does
when its name has a null character.  Every other file gives a document or is reported.
-/

namespace PathPolicy

/-- A file, with its bytes or why it cannot be read, has a fault that no caller expects. -/
inductive Escapes (name : FileName) : Except FileFault (List UInt8) → Prop
  | nullInName (isText : name.isSnapshot = false) : Escapes name (.error .nullInName)
  | stream {bytes : List UInt8} {fault : Yaml.Fault} (isSnapshot : name.isSnapshot = true)
      (unread : Yaml.read bytes = .error fault) (unexpected : fault.isExpected = false) :
      Escapes name (.ok bytes)
  | members {bytes : List UInt8} {data : Data} (isSnapshot : name.isSnapshot = true)
      (read : Yaml.read bytes = .ok data) (unreadable : Snapshot.HasUnreadableGroups data) :
      Escapes name (.ok bytes)
  | permissions {bytes : List UInt8} {data : Data} (isSnapshot : name.isSnapshot = true)
      (read : Yaml.read bytes = .ok data) (tooDeep : Snapshot.HasDeepPermissions data) :
      Escapes name (.ok bytes)

/-! ## Loading -/

theorem LoadError.isReported_eq_false_iff {error : LoadError} :
    error.isReported = false ↔
      (∃ fault, error.fault = .snapshot fault ∧ fault.isExpected = false) ∨
      (∃ fault, error.fault = .stream fault ∧ fault.isExpected = false) ∨
      (∃ fault, error.fault = .document fault) ∨
      (error.fault = .file .nullInName ∧ error.name.isSnapshot = false) := by
  obtain ⟨name, fault⟩ := error
  cases fault with
  | file fault => cases fault <;> simp [isReported]
  | encoding fault => simp [isReported]
  | stream fault => simp [isReported]
  | snapshot fault => simp [isReported]
  | document fault => simp [isReported]

/-- Void data have neither groups nor sections. -/
theorem Snapshot.isVoid_eq_false_of_unexpected {data : Data}
    (unexpected : HasUnreadableGroups data ∨ HasDeepPermissions data) :
    (data.content data.root).isVoid = false := by
  rcases unexpected with ⟨fields, definitions, isMap, found, unreadable⟩ |
    ⟨fields, _, sections, isMap, _, _, found, tooDeep⟩
  · cases fields with
    | nil =>
        cases found
        cases not_firstFails_nil unreadable
    | cons first rest => rw [isMap, Value.isVoid, List.isEmpty_cons]
  · cases fields with
    | nil =>
        cases found
        cases not_firstFails_nil tooDeep
    | cons first rest => rw [isMap, Value.isVoid, List.isEmpty_cons]

/-- Bytes that are no stream have the fault of the stream. -/
theorem Document.value_ofSnapshotBytes_of_unread {bytes : List UInt8} {fault : Yaml.Fault}
    (unread : Yaml.read bytes = .error fault) :
    (Document.ofSnapshotBytes bytes).value = .error (.stream fault) := by
  unfold ofSnapshotBytes
  -- The outcome is named before the match is opened, which would otherwise run the reader.
  generalize Yaml.read bytes = outcome at unread ⊢
  rw [unread]
  rfl

/-- The data of a stream are read as a document, void data as the one without fields. -/
theorem Document.ofSnapshotBytes_of_read {bytes : List UInt8} {data : Data}
    (read : Yaml.read bytes = .ok data) :
    Document.ofSnapshotBytes bytes = (·.mapError LoadFault.snapshot) <$>
      Document.ofData (if (data.content data.root).isVoid then .empty else data) := by
  unfold ofSnapshotBytes
  generalize Yaml.read bytes = outcome at read ⊢
  rw [read]

theorem Document.value_ofSnapshotBytes_of_read {bytes : List UInt8} {data : Data}
    (read : Yaml.read bytes = .ok data) :
    (Document.ofSnapshotBytes bytes).value =
      (Document.ofData (if (data.content data.root).isVoid then .empty else data)).value.mapError
        .snapshot := by
  rw [ofSnapshotBytes_of_read read, Traced.value_map]

/-- A snapshot in bytes has a fault that is not reported exactly when its stream has one, or
its data have members or permissions that nobody expects. -/
theorem Document.ofSnapshotBytes_unreported_iff {name : FileName} {bytes : List UInt8}
    (isSnapshot : name.isSnapshot = true) :
    (∃ fault, (Document.ofSnapshotBytes bytes).value = .error fault ∧
      (LoadError.mk name fault).isReported = false) ↔ Escapes name (.ok bytes) := by
  constructor
  · rintro ⟨fault, failed, unreported⟩
    cases outcome : Yaml.read bytes with
    | error streamFault =>
        rw [value_ofSnapshotBytes_of_unread outcome] at failed
        cases failed
        exact .stream isSnapshot outcome unreported
    | ok data =>
        rw [value_ofSnapshotBytes_of_read outcome] at failed
        obtain ⟨snapshotFault, refused, rfl⟩ := mapError_eq_error_iff.1 failed
        have unexpected := Snapshot.ofData_unexpected_iff.1 ⟨snapshotFault, refused, unreported⟩
        split at unexpected
        · cases Snapshot.isVoid_eq_false_of_unexpected unexpected
        · rcases unexpected with unreadable | tooDeep
          · exact .members isSnapshot outcome unreadable
          · exact .permissions isSnapshot outcome tooDeep
  · intro escapes
    have refused : ∀ {data : Data}, Yaml.read bytes = .ok data →
        Snapshot.HasUnreadableGroups data ∨ Snapshot.HasDeepPermissions data →
        ∃ fault, (Document.ofSnapshotBytes bytes).value = .error fault ∧
          (LoadError.mk name fault).isReported = false := by
      intro data read unexpected
      obtain ⟨fault, failed, isUnexpected⟩ := Snapshot.ofData_unexpected_iff.2 unexpected
      refine ⟨.snapshot fault, ?_, isUnexpected⟩
      rw [value_ofSnapshotBytes_of_read read, Snapshot.isVoid_eq_false_of_unexpected unexpected]
      exact mapError_eq_error_iff.2 ⟨fault, failed, rfl⟩
    cases escapes with
    | stream _ unread unexpected =>
        exact ⟨_, value_ofSnapshotBytes_of_unread unread, unexpected⟩
    | members _ read unreadable => exact refused read (Or.inl unreadable)
    | permissions _ read tooDeep => exact refused read (Or.inr tooDeep)

theorem Document.encoding_of_ofTextBytes {source : String} {bytes : List UInt8}
    {fault : LoadFault} (failed : (Document.ofTextBytes source bytes).value = .error fault) :
    ∃ broken, fault = .encoding broken := by
  rw [Document.ofTextBytes] at failed
  split at failed
  · cases failed
    exact ⟨_, rfl⟩
  · rename_i characters _
    obtain ⟨document, parsed⟩ :=
      PolicyText.exists_parse_eq_ok source (String.ofList (Text.unifyNewlines characters))
    rw [Traced.value_map, parsed] at failed
    cases failed

/-- A file is loaded, reported, or escapes. -/
theorem loadContent_unreported_iff {name : FileName} {content : Except FileFault (List UInt8)} :
    (∃ error, (loadContent name content).value = .error error ∧ error.isReported = false) ↔
      Escapes name content := by
  cases content with
  | error fault =>
      rw [loadContent_error]
      constructor
      · rintro ⟨error, failed, unreported⟩
        cases failed
        have isNull : fault = .nullInName ∧ name.isSnapshot = false := by
          simpa using LoadError.isReported_eq_false_iff.1 unreported
        obtain ⟨rfl, isText⟩ := isNull
        exact .nullInName isText
      · intro escapes
        cases escapes with
        | nullInName isText => exact ⟨_, rfl, isText⟩
  | ok bytes =>
      by_cases isSnapshot : name.isSnapshot = true
      · rw [← Document.ofSnapshotBytes_unreported_iff isSnapshot]
        simp [loadContent, isSnapshot, mapError_eq_error_iff]
      · constructor
        · rintro ⟨error, failed, unreported⟩
          rw [loadContent, if_neg isSnapshot, Traced.value_map, Traced.value_mapEvents] at failed
          obtain ⟨fault, broken, rfl⟩ := mapError_eq_error_iff.1 failed
          obtain ⟨_, isEncoding⟩ := Document.encoding_of_ofTextBytes broken
          rw [isEncoding] at unreported
          cases unreported
        · intro escapes
          cases escapes with
          | stream named => exact absurd named isSnapshot
          | members named => exact absurd named isSnapshot
          | permissions named => exact absurd named isSnapshot

/-! ## Answering operations -/

namespace Service

theorem authorize_of_held {service : Service} {document : Document}
    (held : service.document = some document) (load : Loader) (operation : Operation) :
    ∃ outcome, (service.authorize load operation).value.answer = .ok outcome := by
  by_cases passes : service.passesBy operation = true
  · rw [authorize_of_passesBy passes]
    exact ⟨_, rfl⟩
  · rw [authorize, if_neg passes, currentDocument_of_held held]
    exact ⟨_, rfl⟩

theorem authorize_of_none {service : Service} {load : Loader} {operation : Operation}
    {name : FileName} (waits : service.passesBy operation = false)
    (missing : service.document = none) (configured : service.config.accessFile = some name)
    {fault : Fault} :
    (service.authorize load operation).value.answer = .error fault ↔
      ∃ error, (load name).value = .error error ∧ error.isReported = false ∧
        fault = .load error := by
  rw [authorize, if_neg (by simp [waits]), currentDocument_of_none missing, reload, configured]
  simp only [Traced.value_bind, Traced.value_mapEvents]
  cases outcome : (load name).value with
  | ok document => simp
  | error error =>
      cases reported : error.isReported with
      | true => simp [reported]
      | false =>
          simpa [reported] using eq_comm

/-- An operation has no answer exactly when a service without a document loads a policy file
for it and the fault of that file is not reported. -/
theorem authorize_unanswered_iff {service : Service} {load : Loader} {operation : Operation} :
    (∃ fault, (service.authorize load operation).value.answer = .error fault) ↔
      service.passesBy operation = false ∧ service.document = none ∧
        ∃ name, service.config.accessFile = some name ∧
          ∃ error, (load name).value = .error error ∧ error.isReported = false := by
  constructor
  · rintro ⟨fault, unanswered⟩
    cases waits : service.passesBy operation with
    | true =>
        rw [authorize_of_passesBy waits] at unanswered
        cases unanswered
    | false =>
        cases held : service.document with
        | some document =>
            obtain ⟨outcome, answered⟩ := authorize_of_held held load operation
            rw [answered] at unanswered
            cases unanswered
        | none =>
            cases configured : service.config.accessFile with
            | none => simp [passesBy, held, configured] at waits
            | some name =>
                obtain ⟨error, failed, unreported, _⟩ :=
                  (authorize_of_none waits held configured).1 unanswered
                exact ⟨rfl, rfl, name, rfl, error, failed, unreported⟩
  · rintro ⟨waits, missing, name, configured, error, failed, unreported⟩
    exact ⟨_, (authorize_of_none waits missing configured).2 ⟨error, failed, unreported, rfl⟩⟩

end Service

/-- A policy file gives a document or is reported unless it escapes, and an operation only
stays without an answer when the service loads such a file for it. -/
theorem load_unreported_iff_escapes (read : FileName → Except FileFault (List UInt8)) :
    (∀ name, (∃ error, (loadContent name (read name)).value = .error error ∧
        error.isReported = false) ↔ Escapes name (read name)) ∧
    ∀ (service : Service) (operation : Operation),
      (∃ fault, (service.authorize (fun name => loadContent name (read name)) operation).value.answer =
        .error fault) ↔
      service.passesBy operation = false ∧ service.document = none ∧
        ∃ name, service.config.accessFile = some name ∧ Escapes name (read name) := by
  constructor
  · intro name
    exact loadContent_unreported_iff
  · intro service operation
    simp only [Service.authorize_unanswered_iff, loadContent_unreported_iff]

/-- A snapshot whose group `g` is the number five is read as data, but it is neither loaded nor
reported, and no operation is answered from it. -/
theorem number_of_members_escapes :
    ∃ (name : FileName) (bytes : List UInt8),
      (Yaml.read bytes).isOk ∧
      (∃ error, (loadContent name (.ok bytes)).value = .error error ∧ error.isReported = false) ∧
      ∃ (service : Service) (operation : Operation),
        (∃ fault, (service.authorize (fun name => loadContent name (.ok bytes)) operation).value.answer =
          .error fault) := by
  refine ⟨.ofText "p.yaml", Text.Utf8.encode "groups: \x7bg: 5\x7d\n", ?_, ?_, ?_⟩
  · decide +kernel
  · exact ⟨⟨.ofText "p.yaml", .snapshot (.notIterable "int")⟩, by decide +kernel, rfl⟩
  · refine ⟨.ofConfig ⟨some (.ofText "p.yaml"), true, true⟩,
      ⟨"GET", ⟨"repo", some "/trunk"⟩, .named "alice", none⟩, ?_⟩
    exact ⟨.load ⟨.ofText "p.yaml", .snapshot (.notIterable "int")⟩, by decide +kernel⟩

end PathPolicy
