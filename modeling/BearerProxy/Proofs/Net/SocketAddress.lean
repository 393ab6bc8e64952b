import BearerProxy.Net.Address
import BearerProxy.Proofs.Steps
import BearerProxy.Proofs.Text.Blank
import BearerProxy.Proofs.Text.Digits
import BearerProxy.Proofs.Text.Pieces

/-!
The texts of socket addresses: a host, a colon and the digits of a port. Which texts stand for a host is said
without the port, so that host and port can be put together anew.
-/

namespace BearerProxy.Net

inductive HostAddress
  | v4 (address : Ipv4)
  | v6 (address : Ipv6) (scope : UInt32)
  deriving DecidableEq, Repr

namespace SocketAddress

def host : SocketAddress → HostAddress
  | .v4 address _ => .v4 address
  | .v6 address scope _ => .v6 address scope

end SocketAddress

namespace HostAddress

def withPort (host : HostAddress) (port : UInt16) : SocketAddress :=
  match host with
  | .v4 address => .v4 address port
  | .v6 address scope => .v6 address scope port

/-- The texts of a host: an IPv4 address in its strict form, or an IPv6 address in brackets, with a zone or
without. -/
inductive WrittenAs : HostAddress → List Char → Prop
  | v4 (address : Ipv4) (text : List Char) (reads : Ipv4.ofStrictText? text = some address) :
      WrittenAs (.v4 address) text
  | v6 (address : Ipv6) (text : List Char) (reads : Ipv6.ofText? text = some address) :
      WrittenAs (.v6 address 0) ('[' :: (text ++ [']']))
  | zoned (address : Ipv6) (scope : UInt32) (text zone : List Char)
      (reads : Ipv6.ofText? text = some address) (readsZone : scope? zone = some scope) :
      WrittenAs (.v6 address scope) ('[' :: (text ++ '%' :: zone ++ [']']))

end HostAddress

@[simp] theorem SocketAddress.withPort_host_port (address : SocketAddress) :
    address.host.withPort address.port = address := by
  cases address <;> rfl

/-! The characters of addresses. -/

def IsAddressCharacter (character : Char) : Prop :=
  character.isAlphanum ∨ character = '.' ∨ character = ':'

instance (character : Char) : Decidable (IsAddressCharacter character) :=
  inferInstanceAs (Decidable (character.isAlphanum ∨ character = '.' ∨ character = ':'))

namespace Ipv4

theorem isAlphanum_or_dot_of_ofStrictText? {text : List Char} {address : Ipv4}
    (reads : ofStrictText? text = some address) :
    ∀ character ∈ text, character.isAlphanum ∨ character = '.' := by
  intro character member
  by_cases isDot : character = '.'
  · exact .inr isDot
  · rcases Option.bind_eq_some_iff.mp reads with ⟨parts, readParts, -⟩
    rcases Text.exists_piece isDot member with ⟨piece, isPiece, inPiece⟩
    rcases exists_of_mem_mapM readParts isPiece with ⟨part, -, readPart⟩
    rw [strictPart?] at readPart
    split at readPart
    · cases readPart
    · have value := (Option.filter_eq_some_iff.mp readPart).1
      exact .inl (Text.isAlphanum_of_isDigitOf (Text.isDigitOf_of_valueOf? value character inPiece))

theorem isAddressCharacter_of_ofStrictText? {text : List Char} {address : Ipv4}
    (reads : ofStrictText? text = some address) : ∀ character ∈ text, IsAddressCharacter character := by
  intro character member
  rcases isAlphanum_or_dot_of_ofStrictText? reads character member with isAlphanum | isDot
  · exact .inl isAlphanum
  · exact .inr (.inl isDot)

end Ipv4

namespace Ipv6

theorem takeGroup_append {characters digits rest : List Char} (taken : takeGroup characters = (digits, rest)) :
    characters = digits ++ rest := by
  rw [takeGroup, Prod.mk.injEq] at taken
  rcases taken with ⟨rfl, rfl⟩
  have front : (characters.take 4).takeWhile (Text.isDigitOf 16) <+: characters :=
    (List.takeWhile_prefix _).trans (List.take_prefix 4 characters)
  exact (List.prefix_iff_eq_append.mp front).symm

theorem isAddressCharacter_of_takeGroup {characters digits rest : List Char}
    (taken : takeGroup characters = (digits, rest)) : ∀ digit ∈ digits, IsAddressCharacter digit := by
  rw [takeGroup, Prod.mk.injEq] at taken
  intro digit member
  rw [← taken.1] at member
  exact .inl (Text.isAlphanum_of_isDigitOf (List.all_eq_true.mp List.all_takeWhile digit member))

theorem readGroups?_succ_cases {limit : Nat} {progress : Progress} {characters : List Char} {address : Ipv6}
    (reads : readGroups? (limit + 1) progress characters = some address) :
    (∀ character ∈ characters, IsAddressCharacter character) ∨
      ∃ front rest next, characters = front ++ ':' :: rest ∧
        (∀ character ∈ front, IsAddressCharacter character) ∧
        readGroups? limit next rest = some address := by
  rw [readGroups?.eq_def] at reads
  split at reads
  · exact .inl fun character member => absurd member List.not_mem_nil
  · cases ‹limit + 1 = 0›
  · cases Nat.succ.inj ‹limit + 1 = _ + 1›
    split at reads
    · cases reads
    · split at reads
      · split at reads
        · cases reads
        · exact .inr ⟨[], _, _, rfl, fun character member => absurd member List.not_mem_nil, reads⟩
      · split at reads
        rename_i digits rest taken
        have front := isAddressCharacter_of_takeGroup taken
        split at reads
        -- A dot behind the digits: an IPv4 address is the rest of the text.
        · split at reads
          · cases reads
          · rcases Option.bind_eq_some_iff.mp reads with ⟨ipv4, readsIpv4, -⟩
            exact .inl (Ipv4.isAddressCharacter_of_ofStrictText? readsIpv4)
        · split at reads
          · cases reads
          · rcases Option.bind_eq_some_iff.mp reads with ⟨group, -, readsRest⟩
            exact .inr ⟨digits, _, _, takeGroup_append taken, front, readsRest⟩
        · rw [takeGroup_append taken, List.append_nil]
          exact .inl front
        · cases reads

theorem isAddressCharacter_of_readGroups? {limit : Nat} {progress : Progress} {characters : List Char}
    {address : Ipv6} (reads : readGroups? limit progress characters = some address) :
    ∀ character ∈ characters, IsAddressCharacter character := by
  induction limit generalizing progress characters with
  | zero =>
      cases characters with
      | nil => exact fun character member => absurd member List.not_mem_nil
      | cons head tail => cases reads
  | succ limit induction =>
      rcases readGroups?_succ_cases reads with last | ⟨front, rest, next, together, inFront, readsRest⟩
      · exact last
      · rw [together, List.forall_mem_append, List.forall_mem_cons]
        exact ⟨inFront, .inr (.inr rfl), induction readsRest⟩

theorem isAddressCharacter_of_ofText? {characters : List Char} {address : Ipv6}
    (reads : ofText? characters = some address) : ∀ character ∈ characters, IsAddressCharacter character := by
  rw [ofText?.eq_def] at reads
  split at reads
  · rw [List.forall_mem_cons, List.forall_mem_cons]
    exact ⟨.inr (.inr rfl), .inr (.inr rfl), isAddressCharacter_of_readGroups? reads⟩
  · cases reads
  · cases reads
  · cases reads
  · exact isAddressCharacter_of_readGroups? reads

end Ipv6

theorem isAlphanum_of_bounded {digits : List Char} {fits : Nat → Bool} {ofNumber : Nat → α} {value : α}
    (reads : ((Text.natural? digits).filter fits).map ofNumber = some value) :
    ∀ digit ∈ digits, digit.isAlphanum := by
  rcases Option.map_eq_some_iff.mp reads with ⟨number, isNumber, -⟩
  exact Text.isAlphanum_of_natural? (Option.filter_eq_some_iff.mp isNumber).1

theorem isAlphanum_of_port? {digits : List Char} {port : UInt16} (reads : port? digits = some port) :
    ∀ digit ∈ digits, digit.isAlphanum :=
  isAlphanum_of_bounded reads

theorem isAlphanum_of_scope? {digits : List Char} {scope : UInt32} (reads : scope? digits = some scope) :
    ∀ digit ∈ digits, digit.isAlphanum :=
  isAlphanum_of_bounded reads

theorem port?_toDigits (port : UInt16) : port? (Nat.toDigits 10 port.toNat) = some port := by
  have fits : port.toNat < 0x10000 := port.toNat_lt
  rw [port?, Text.natural?_toDigits, Option.filter_some, if_pos (by simpa using fits), Option.map_some,
    UInt16.ofNat_toNat]

theorem not_mem_of_isAddressCharacter {mark : Char} (isMark : ¬IsAddressCharacter mark) {text : List Char}
    (characters : ∀ character ∈ text, IsAddressCharacter character) : mark ∉ text :=
  fun member => isMark (characters mark member)

/-! Reading a host and a port. -/

theorem HostAddress.WrittenAs.trimCharacters {host : HostAddress} {text : List Char}
    (written : host.WrittenAs text) : Text.trimCharacters text = text := by
  cases written with
  | v4 address text reads =>
      apply Text.trimCharacters_of_visible
      intro character member
      rcases Ipv4.isAlphanum_or_dot_of_ofStrictText? reads character member with isAlphanum | isDot
      · exact Text.not_isBlank_of_isAlphanum isAlphanum
      · rw [isDot]
        decide
  | v6 | zoned => exact Text.trimCharacters_between (by decide) (by decide) _

namespace SocketAddress

theorem ofText?_of_bracketed {text : String} {inside : List Char} (noBracket : ']' ∉ inside) (behind : List Char)
    (together : text.toList = '[' :: (inside ++ ']' :: behind)) : ofText? text = ofBracketed? inside behind := by
  simp only [ofText?, together, Text.splitFirst_append_cons noBracket]

/-- Every text of a host, a colon and the digits of a port are read as the address of both. -/
theorem ofText?_of_writtenAs {text : String} {host : HostAddress} {port : UInt16} {hostText digits : List Char}
    (written : host.WrittenAs hostText) (readsPort : port? digits = some port)
    (together : text.toList = hostText ++ ':' :: digits) : ofText? text = some (host.withPort port) := by
  cases written with
  | v4 address hostText reads =>
      have characters := Ipv4.isAlphanum_or_dot_of_ofStrictText? reads
      have noColon : ':' ∉ hostText := fun member => absurd (characters ':' member) (by decide)
      rw [ofText?, together]
      split
      · rename_i rest bracketed
        cases hostText with
        | nil => cases bracketed
        | cons head tail =>
            cases bracketed
            exact absurd (characters '[' List.mem_cons_self) (by decide)
      · rw [Text.splitFirst_append_cons noColon]
        simp [reads, readsPort, HostAddress.withPort]
  | v6 address inside reads =>
      have characters := Ipv6.isAddressCharacter_of_ofText? reads
      have noBracket : ']' ∉ inside := not_mem_of_isAddressCharacter (by decide) characters
      have noPercent : '%' ∉ inside := not_mem_of_isAddressCharacter (by decide) characters
      rw [ofText?_of_bracketed noBracket (':' :: digits) (by rw [together]; simp), ofBracketed?,
        Text.splitFirst_of_not_mem noPercent]
      simp [Text.dropPrefix?, reads, readsPort, HostAddress.withPort]
  | zoned address scope inside zone reads readsZone =>
      have characters := Ipv6.isAddressCharacter_of_ofText? reads
      have noPercent : '%' ∉ inside := not_mem_of_isAddressCharacter (by decide) characters
      have inZone := isAlphanum_of_scope? readsZone
      have noBracket : ']' ∉ inside ++ '%' :: zone := by
        rw [List.mem_append, List.mem_cons, not_or, not_or]
        exact ⟨not_mem_of_isAddressCharacter (by decide) characters, by decide,
          fun member => absurd (inZone ']' member) (by decide)⟩
      rw [ofText?_of_bracketed noBracket (':' :: digits) (by rw [together]; simp), ofBracketed?,
        Text.splitFirst_append_cons noPercent]
      simp [Text.dropPrefix?, reads, readsPort, readsZone, HostAddress.withPort]

theorem exists_of_ofBracketed? {inside behind : List Char} {address : SocketAddress}
    (reads : ofBracketed? inside behind = some address) :
    ∃ digits, behind = ':' :: digits ∧ address.host.WrittenAs ('[' :: (inside ++ [']'])) ∧
      port? digits = some address.port := by
  rcases Option.bind_eq_some_iff.mp reads with ⟨digits, behindColon, reads⟩
  refine ⟨digits, (Text.dropPrefix?_eq_some_iff _ _ _).mp behindColon, ?_⟩
  rcases Text.splitFirst_cases '%' inside with ⟨_, cut⟩ | ⟨front, zone, _, together, cut⟩
  · rw [cut] at reads
    rcases Option.bind_eq_some_iff.mp reads with ⟨scope, noZone, reads⟩
    rcases Option.bind_eq_some_iff.mp reads with ⟨ipv6, readsHost, reads⟩
    rcases Option.bind_eq_some_iff.mp reads with ⟨port, readsPort, same⟩
    cases noZone
    cases same
    exact ⟨.v6 ipv6 inside readsHost, readsPort⟩
  · rw [cut] at reads
    rcases Option.bind_eq_some_iff.mp reads with ⟨scope, readsZone, reads⟩
    rcases Option.bind_eq_some_iff.mp reads with ⟨ipv6, readsHost, reads⟩
    rcases Option.bind_eq_some_iff.mp reads with ⟨port, readsPort, same⟩
    cases same
    rw [together]
    exact ⟨.zoned ipv6 scope front zone readsHost readsZone, readsPort⟩

theorem exists_of_ofText? {text : String} {address : SocketAddress} (reads : ofText? text = some address) :
    ∃ host digits, text.toList = host ++ ':' :: digits ∧ address.host.WrittenAs host ∧
      port? digits = some address.port := by
  rw [ofText?] at reads
  split at reads
  · rename_i rest bracketed
    rcases Text.splitFirst_cases ']' rest with ⟨_, cut⟩ | ⟨inside, behind, _, together, cut⟩
    · rw [cut] at reads
      cases reads
    · rw [cut] at reads
      rcases exists_of_ofBracketed? reads with ⟨digits, behindColon, written, readsPort⟩
      refine ⟨_, digits, ?_, written, readsPort⟩
      rw [bracketed, together, behindColon]
      simp
  · rename_i characters notBracketed
    rcases Text.splitFirst_cases ':' text.toList with ⟨_, cut⟩ | ⟨host, digits, _, together, cut⟩
    · rw [cut] at reads
      cases reads
    · rw [cut] at reads
      rcases Option.bind_eq_some_iff.mp reads with ⟨ipv4, readsHost, reads⟩
      rcases Option.bind_eq_some_iff.mp reads with ⟨port, readsPort, same⟩
      cases same
      exact ⟨host, digits, together, .v4 ipv4 host readsHost, readsPort⟩

theorem ofText?_eq_some_iff (text : String) (address : SocketAddress) :
    ofText? text = some address ↔ ∃ host digits, text.toList = host ++ ':' :: digits ∧
      address.host.WrittenAs host ∧ port? digits = some address.port := by
  constructor
  · exact exists_of_ofText?
  · rintro ⟨host, digits, together, written, readsPort⟩
    rw [ofText?_of_writtenAs written readsPort together, withPort_host_port]

end SocketAddress

end BearerProxy.Net
