import BearerProxy.Program
import BearerProxy.Proofs.Credential.Loading
import BearerProxy.Proofs.Rotation.Accounting
import BearerProxy.Proofs.Settings.Acceptance

/-!
The program listens only with settings that were accepted and with credentials that are complete. Whatever else
it finds in its files and variables ends it before, with a failure that its user sees.
-/

namespace BearerProxy

theorem Pool.exists_document_of_loadFile {files : FileSystem Id} {path : String} {base : Option String}
    {pool : Pool} (loaded : (Id.run (loadFile files path base)).value = .ok pool) :
    ∃ document, (load document).value = .ok pool := by
  simp only [loadFile, Id.run_bind] at loaded
  split at loaded
  · simp only [readFile, Id.run_bind, Id.run_pure, Reported.value_bind] at loaded
    split at loaded
    · cases loaded
    · exact ⟨_, loaded⟩
  · cases loaded

namespace Program

variable {files : FileSystem Id} {commandLine : CommandLine} {process : List (String × String)}
  {settings : Settings} {pool : Pool} {now : UInt64} {ready : Ready}

theorem validate_of_override {loaded : Settings}
    (overridden : Id.run (override files commandLine process loaded) = .ok settings) :
    settings.validate = .ok () := by
  simp only [override, Id.run_bind] at overridden
  split at overridden
  · cases overridden
  · split at overridden
    · cases overridden
    · rename_i fromEnvironment _
      cases accepted : (commandLine.applyTo fromEnvironment).validate with
      | error failure =>
          rw [accepted] at overridden
          cases overridden
      | ok _ =>
          rw [accepted] at overridden
          cases overridden
          exact accepted

theorem validate_of_readSettings
    (read : Id.run (readSettings files commandLine process) = .ok settings) :
    settings.validate = .ok () := by
  simp only [readSettings] at read
  split at read
  · exact validate_of_override read
  · simp only [Id.run_bind] at read
    split at read
    · cases read
    · exact validate_of_override read

/-- A gateway that is ready serves by these settings and with these credentials, of which none is in quarantine
and none has a token. -/
structure Ready.Serves (ready : Ready) (settings : Settings) (pool : Pool) (now : UInt64) : Prop where
  gateway : ready.gateway =
    Gateway.new ⟨ClockedIssuer.source, settings.forwarder⟩ settings.server.operatorToken
  state : ready.state =
    ⟨.ofMembers (Rotation.numberMembers 0 pool.credentials), ⟨Issuer.new settings.tokens, now⟩⟩
  address : settings.listenAddress = .ok ready.address

theorem assemble_eq_ok_iff :
    (assemble settings pool now).value = .ok ready ↔ ready.Serves settings pool now := by
  rw [assemble, Reported.value_bind, Rotation.ofPool, Rotation.new_eq_ok pool.nonempty]
  simp only [Reported.value_pure]
  cases listens : settings.listenAddress with
  | error failure =>
      refine iff_of_false (fun assembled => ?_) fun serves => ?_
      · cases assembled
      · have address := serves.address
        rw [listens] at address
        cases address
  | ok address =>
      constructor
      · intro assembled
        cases assembled
        exact ⟨rfl, rfl, listens⟩
      · rintro ⟨gateway, state, same⟩
        rw [listens] at same
        cases same
        rw [← gateway, ← state]
        rfl

theorem value_reportLoaded (loaded : Except Failure Pool) : (reportLoaded loaded).value = loaded := by
  cases loaded <;> rfl

/-- The program is ready exactly if its settings are accepted and its credentials can be loaded. -/
theorem start_eq_ok_iff :
    (Id.run (start files commandLine process now)).result.value = .ok ready ↔
      ∃ settings pool, Id.run (readSettings files commandLine process) = .ok settings ∧
        (Id.run (settings.loadCredentials files)).value = .ok pool ∧ ready.Serves settings pool now := by
  simp only [start, Id.run_bind]
  cases read : Id.run (readSettings files commandLine process) with
  | error failure =>
      refine iff_of_false (fun started => ?_) fun ⟨_, _, read, _⟩ => ?_
      · cases started
      · cases read
  | ok settings =>
      simp only [Id.run_bind, Id.run_pure, Reported.value_bind, value_reportLoaded]
      cases loaded : (Id.run (settings.loadCredentials files)).value with
      | error failure =>
          refine iff_of_false (fun started => ?_) fun ⟨_, _, same, loads, _⟩ => ?_
          · cases started
          · cases same
            rw [loaded] at loads
            cases loads
      | ok pool =>
          constructor
          · intro assembled
            exact ⟨settings, pool, rfl, loaded, assemble_eq_ok_iff.mp assembled⟩
          · rintro ⟨_, _, same, loads, serves⟩
            cases same
            rw [loaded] at loads
            cases loads
            exact assemble_eq_ok_iff.mpr serves

theorem accepted_of_start
    (started : (Id.run (start files commandLine process now)).result.value = .ok ready) :
    ∃ settings pool, settings.validate = .ok () ∧
      (∀ credential ∈ pool.credentials, credential.missingFields = []) ∧ ready.Serves settings pool now := by
  rcases start_eq_ok_iff.mp started with ⟨settings, pool, read, loaded, serves⟩
  rcases Pool.exists_document_of_loadFile loaded with ⟨document, loaded⟩
  exact ⟨settings, pool, validate_of_readSettings read, Pool.complete_of_load loaded, serves⟩

/-- Without a gateway that is ready the listener is not asked, and the exit status says that the program failed. -/
theorem run_of_failure {arguments : List String} {failure : Failure}
    (parsed : CommandLine.parse arguments = .ok commandLine)
    (failed : (Id.run (start files commandLine process now)).result.value = .error failure)
    (listen : Ready → Id (Option String)) :
    Id.run (run files arguments process now listen) =
      (Id.run (start files commandLine process now)).outcome (some failure.inspect) := by
  rw [run, parsed]
  simp only [Id.run_bind, failed]
  rfl

end Program

end BearerProxy
