import BearerProxy.Proofs.Net.SocketAddress
import BearerProxy.Settings.Override

/-!
The variables for host and port each replace their part of the listen address and keep the other part, however the
address is spelled. White space behind the address is the exception: it hides the port that is to be kept.
-/

namespace BearerProxy

structure Environment.Gives (environment : Environment) (host : Option Net.HostAddress)
    (port : Option UInt16) : Prop where
  host : Option.Rel (fun text host => host.WrittenAs (Text.trimCharacters text.toList))
    (environment.get? Variable.host) host
  port : Option.Rel (fun text port => portNumber? (Text.trimCharacters text.toList) = some port)
    (environment.get? Variable.port) port

namespace Settings

/-- The host is to be replaced and the port to be kept, but white space follows the port. -/
structure HidesPort (settings : Settings) (host : Option Net.HostAddress) (port : Option UInt16) : Prop where
  hostGiven : host.isSome
  portKept : port = none
  endsBlank : settings.server.listen.toList.getLast?.any Text.isBlank

/-- The parts that are given replace those of the address, unless its port is hidden. Then the address stays as it
is. -/
structure ListensAnew (settings : Settings) (environment : Environment) (address : Net.SocketAddress)
    (host : Option Net.HostAddress) (port : Option UInt16) : Prop where
  moves : ¬settings.HidesPort host port →
    (settings.applyEnvironment environment).1 = .ok () ∧
    (settings.applyEnvironment environment).2.listenAddress =
      .ok ((host.getD address.host).withPort (port.getD address.port))
  stays : settings.HidesPort host port →
    (settings.applyEnvironment environment).1 = .error (.settings (.noListenPort settings.server.listen)) ∧
    (settings.applyEnvironment environment).2.listenAddress = .ok address

end Settings

/-! A listen address and its parts. -/

/-- A text that is read as an address, in parts: white space, a host, a colon, the digits of a port and white space
again. -/
structure Spells (listen : String) (address : Net.SocketAddress) (before host digits after : List Char) :
    Prop where
  together : listen.toList = (before ++ host) ++ ':' :: (digits ++ after)
  blankBefore : ∀ character ∈ before, Text.isBlank character
  blankAfter : ∀ character ∈ after, Text.isBlank character
  written : address.host.WrittenAs host
  readsPort : Net.port? digits = some address.port

theorem exists_spells {settings : Settings} {address : Net.SocketAddress}
    (listens : settings.listenAddress = .ok address) :
    ∃ before host digits after, Spells settings.server.listen address before host digits after := by
  rw [Settings.listenAddress] at listens
  split at listens
  · rename_i found reads
    cases listens
    rcases (Net.SocketAddress.ofText?_eq_some_iff _ _).mp reads with ⟨host, digits, inside, written, readsPort⟩
    rw [Text.trim, String.toList_ofList] at inside
    rcases Text.exists_trimCharacters_between settings.server.listen.toList with
      ⟨before, after, together, blankBefore, blankAfter⟩
    refine ⟨before, host, digits, after, ?_, blankBefore, blankAfter, written, readsPort⟩
    rw [together, inside]
    simp
  · cases listens

namespace Spells

variable {listen : String} {address : Net.SocketAddress} {before host digits after : List Char}

theorem not_mem_port (spells : Spells listen address before host digits after) (mark : Char)
    (isMark : ¬mark.isAlphanum ∧ ¬Text.isBlank mark) : mark ∉ digits ++ after := by
  rw [List.mem_append, not_or]
  exact ⟨fun member => isMark.1 (Net.isAlphanum_of_port? spells.readsPort mark member),
    fun member => isMark.2 (spells.blankAfter mark member)⟩

theorem splitListen (spells : Spells listen address before host digits after) :
    splitListen listen = (String.ofList (before ++ host), digits ++ after) := by
  have noColon := spells.not_mem_port ':' (by decide)
  rw [BearerProxy.splitListen, spells.together, Text.splitLast?_append (· == ':') _ _ ':' rfl]
  intro character member
  exact beq_false_of_ne fun same => noColon (same ▸ member)

theorem trim_host (spells : Spells listen address before host digits after) :
    (Text.trim (String.ofList (before ++ host))).toList = host := by
  have trimmed := @Text.trimCharacters_surrounded before [] spells.blankBefore (by simp) host
  rw [List.append_nil, spells.written.trimCharacters] at trimmed
  rw [Text.trim, String.toList_ofList, String.toList_ofList, trimmed]

theorem portNumber?_kept (spells : Spells listen address before host digits after) :
    portNumber? (digits ++ after) = if after = [] then some address.port else none := by
  have noPlus := spells.not_mem_port '+' (by decide)
  have unsigned : portNumber? (digits ++ after) = Net.port? (digits ++ after) := by
    rw [portNumber?.eq_def]
    split
    · rename_i others signed
      rw [signed] at noPlus
      exact absurd List.mem_cons_self noPlus
    · rfl
  rw [unsigned]
  cases after with
  | nil => rw [List.append_nil, spells.readsPort, if_pos rfl]
  | cons blank others =>
      rw [if_neg (List.cons_ne_nil blank others), Option.eq_none_iff_forall_ne_some]
      intro port readsPort
      have isAlphanum := Net.isAlphanum_of_port? readsPort blank (by simp)
      exact Text.not_isBlank_of_isAlphanum isAlphanum (spells.blankAfter blank List.mem_cons_self)

theorem endsBlank_iff (spells : Spells listen address before host digits after) :
    listen.toList.getLast?.any Text.isBlank ↔ after ≠ [] := by
  rcases List.eq_nil_or_concat after with rfl | ⟨others, blank, rfl⟩
  · rcases List.eq_nil_or_concat digits with rfl | ⟨front, digit, rfl⟩
    · cases spells.readsPort
    · have whole : listen.toList = (before ++ host ++ ':' :: front) ++ [digit] := by
        rw [spells.together]
        simp
      have isAlphanum := Net.isAlphanum_of_port? spells.readsPort digit (by simp)
      rw [whole, List.getLast?_concat, Option.any_some]
      simpa using Text.not_isBlank_of_isAlphanum isAlphanum
  · have whole : listen.toList = (before ++ host ++ ':' :: (digits ++ others)) ++ [blank] := by
      rw [spells.together]
      simp
    have isBlank := spells.blankAfter blank (by simp)
    rw [whole, List.getLast?_concat, Option.any_some]
    simpa using isBlank

end Spells

/-! The overrides. -/

theorem Settings.listenAddress_of_writtenAs {settings : Settings} {host : Net.HostAddress} {port : UInt16}
    {text : String} (written : host.WrittenAs text.toList)
    (listen : settings.server.listen = text ++ ":" ++ toString port.toNat) :
    settings.listenAddress = .ok (host.withPort port) := by
  have visible : ∀ digit ∈ Nat.toDigits 10 port.toNat, ¬Text.isBlank digit := fun digit member =>
    Text.not_isBlank_of_isAlphanum (Net.isAlphanum_of_port? (Net.port?_toDigits port) digit member)
  have together : settings.server.listen.toList = text.toList ++ ':' :: Nat.toDigits 10 port.toNat := by
    rw [listen]
    simp
  have reads : (Text.trim settings.server.listen).toList =
      text.toList ++ ':' :: Nat.toDigits 10 port.toNat := by
    rw [Text.trim, String.toList_ofList, together, Text.trimCharacters_append_mark (by decide),
      Text.trimStart_of_trimCharacters written.trimCharacters, Text.trimEnd_of_visible visible]
  rw [Settings.listenAddress,
    Net.SocketAddress.ofText?_of_writtenAs written (Net.port?_toDigits port) reads]

section

variable {environment : Environment} {address : Net.SocketAddress} {host : Option Net.HostAddress}
  {port : Option UInt16} {listen : String} {before hostText digits after : List Char}

theorem Environment.Gives.writtenAs_host (gives : environment.Gives host port)
    (spells : Spells listen address before hostText digits after) :
    (host.getD address.host).WrittenAs
      (Text.trim ((environment.get? Variable.host).getD (String.ofList (before ++ hostText)))).toList := by
  have given := gives.host
  cases variableHost : environment.get? Variable.host with
  | none =>
      rw [variableHost] at given
      cases given
      rw [Option.getD_none, Option.getD_none, spells.trim_host]
      exact spells.written
  | some text =>
      rw [variableHost] at given
      cases given with
      | some written =>
          rw [Option.getD_some, Option.getD_some, Text.trim, String.toList_ofList]
          exact written

theorem overrideListen_eq (gives : environment.Gives host port)
    (spells : Spells listen address before hostText digits after) :
    overrideListen listen (environment.get? Variable.host) (environment.get? Variable.port) =
      if port = none ∧ after ≠ [] then .error (.settings (.noListenPort listen))
      else .ok (Text.trim ((environment.get? Variable.host).getD (String.ofList (before ++ hostText))) ++ ":" ++
        toString (port.getD address.port).toNat) := by
  have given := gives.port
  rw [overrideListen, spells.splitListen]
  cases variablePort : environment.get? Variable.port with
  | none =>
      rw [variablePort] at given
      cases given
      dsimp only
      rw [spells.portNumber?_kept]
      by_cases ends : after = []
      · simp [ends, Except.map]
      · simp [ends, Except.map]
  | some text =>
      rw [variablePort] at given
      cases given with
      | some reads =>
          simp only [reads]
          simp [Except.map]

theorem Environment.Gives.unset_iff (gives : environment.Gives host port) :
    (environment.get? Variable.host = none ∧ environment.get? Variable.port = none) ↔
      host = none ∧ port = none := by
  have unset {α : Type} {Reads : String → α → Prop} {text : Option String} {value : Option α}
      (given : Option.Rel Reads text value) : text = none ↔ value = none := by
    cases given <;> simp
  rw [unset gives.host, unset gives.port]

end

namespace Settings

variable {settings : Settings} {environment : Environment}

theorem listen_overrideTexts :
    (settings.overrideTexts environment).server.listen = settings.server.listen :=
  rfl

theorem listenAddress_overrideTexts :
    (settings.overrideTexts environment).listenAddress = settings.listenAddress := by
  rw [listenAddress, listenAddress, listen_overrideTexts]

theorem applyEnvironment_of_unset
    (unset : environment.get? Variable.host = none ∧ environment.get? Variable.port = none) :
    settings.applyEnvironment environment = (.ok (), settings.overrideTexts environment) := by
  rw [applyEnvironment, unset.1, unset.2]

theorem applyEnvironment_of_set (settings : Settings)
    (isSet : ¬(environment.get? Variable.host = none ∧ environment.get? Variable.port = none)) :
    settings.applyEnvironment environment =
      match overrideListen settings.server.listen (environment.get? Variable.host)
        (environment.get? Variable.port) with
      | .error failure => (.error failure, settings.overrideTexts environment)
      | .ok listen =>
          (.ok (), { settings.overrideTexts environment with
            server := { (settings.overrideTexts environment).server with listen } }) := by
  rw [applyEnvironment]
  split
  · rename_i noHost noPort
    exact absurd ⟨noHost, noPort⟩ isSet
  · rfl

theorem hidesPort_iff {address : Net.SocketAddress} {host : Option Net.HostAddress} {port : Option UInt16}
    {before hostText digits after : List Char}
    (spells : Spells settings.server.listen address before hostText digits after)
    (given : ¬(host = none ∧ port = none)) : settings.HidesPort host port ↔ port = none ∧ after ≠ [] := by
  constructor
  · intro hides
    exact ⟨hides.portKept, spells.endsBlank_iff.mp hides.endsBlank⟩
  · rintro ⟨portKept, blanks⟩
    have hostGiven : host ≠ none := fun kept => given ⟨kept, portKept⟩
    exact ⟨Option.isSome_iff_ne_none.mpr hostGiven, portKept, spells.endsBlank_iff.mpr blanks⟩

/-- Overriding the host, the port, both or neither moves an address as it is meant to. Only a host alone cannot be
overridden where white space follows the port. -/
theorem applyEnvironment_listensAnew (settings : Settings) (environment : Environment)
    (address : Net.SocketAddress) (host : Option Net.HostAddress) (port : Option UInt16)
    (listens : settings.listenAddress = .ok address)
    (gives : environment.Gives host port) : settings.ListensAnew environment address host port := by
  rcases exists_spells listens with ⟨before, hostText, digits, after, spells⟩
  by_cases unset : environment.get? Variable.host = none ∧ environment.get? Variable.port = none
  · rcases gives.unset_iff.mp unset with ⟨rfl, rfl⟩
    rw [← address.withPort_host_port] at listens
    constructor
    case moves =>
      intro _
      rw [applyEnvironment_of_unset unset]
      exact ⟨rfl, listenAddress_overrideTexts.trans listens⟩
    case stays =>
      intro hides
      cases hides.hostGiven
  · have run := applyEnvironment_of_set settings unset
    have hides_iff := hidesPort_iff spells (mt gives.unset_iff.mpr unset)
    rw [overrideListen_eq gives spells] at run
    constructor
    case moves =>
      intro shows
      rw [if_neg (mt hides_iff.mpr shows)] at run
      rw [run]
      exact ⟨rfl, listenAddress_of_writtenAs (gives.writtenAs_host spells) rfl⟩
    case stays =>
      intro hides
      rw [if_pos (hides_iff.mp hides)] at run
      rw [run]
      exact ⟨rfl, listenAddress_overrideTexts.trans listens⟩

def zonedSettings : Settings := { server := { listen := " [fe80::1%7]:08899\n" } }

def portEnvironment : Environment := { process := [(Variable.port, "\t443 ")] }

theorem applyEnvironment_listensAnew_zoned :
    zonedSettings.listenAddress = .ok (.v6 ⟨[0xfe80, 0, 0, 0, 0, 0, 0, 1]⟩ 7 8899) ∧
    portEnvironment.Gives none (some 443) ∧
    zonedSettings.ListensAnew portEnvironment (.v6 ⟨[0xfe80, 0, 0, 0, 0, 0, 0, 1]⟩ 7 8899) none
      (some 443) := by
  have listens : zonedSettings.listenAddress = .ok (.v6 ⟨[0xfe80, 0, 0, 0, 0, 0, 0, 1]⟩ 7 8899) := by
    decide +kernel
  have noHost : portEnvironment.get? Variable.host = none := by decide +kernel
  have hasPort : portEnvironment.get? Variable.port = some "\t443 " := by decide +kernel
  have reads : portNumber? (Text.trimCharacters "\t443 ".toList) = some 443 := by decide +kernel
  have gives : portEnvironment.Gives none (some 443) := by
    constructor
    case host =>
      rw [noHost]
      exact .none
    case port =>
      rw [hasPort]
      exact .some reads
  exact ⟨listens, gives, applyEnvironment_listensAnew _ _ _ _ _ listens gives⟩

def blankBehindSettings : Settings := { server := { listen := "127.0.0.1:8899 " } }

def hostEnvironment : Environment := { process := [(Variable.host, "0.0.0.0")] }

/-- The address is accepted and the new host is a legal one, and yet the override is refused: the port is read
together with the white space behind it. -/
theorem override_of_host_refused :
    blankBehindSettings.listenAddress = .ok (.v4 ⟨0x7f000001⟩ 8899) ∧
    hostEnvironment.Gives (some (.v4 ⟨0⟩)) none ∧
    blankBehindSettings.applyEnvironment hostEnvironment =
      (.error (.settings (.noListenPort "127.0.0.1:8899 ")), blankBehindSettings) := by
  have hasHost : hostEnvironment.get? Variable.host = some "0.0.0.0" := by decide +kernel
  have noPort : hostEnvironment.get? Variable.port = none := by decide +kernel
  have written : (Net.HostAddress.v4 ⟨0⟩).WrittenAs (Text.trimCharacters "0.0.0.0".toList) :=
    .v4 ⟨0⟩ _ (by decide +kernel)
  have gives : hostEnvironment.Gives (some (.v4 ⟨0⟩)) none := by
    constructor
    case host =>
      rw [hasHost]
      exact .some written
    case port =>
      rw [noPort]
      exact .none
  exact ⟨by decide +kernel, gives, by decide +kernel⟩

end Settings

end BearerProxy
