import BearerProxy.Proofs.Forward.Preparation
import BearerProxy.Proofs.Url.WebText

/-!
The bearer is confined to the place of the backend: whatever path a request has, the URL that it is sent to
names the scheme, host and port of the base URL, if it names any.
-/

namespace BearerProxy.Forwarder

open Url

theorem dropTrailingSlashes_append (base : String) :
    ∃ slashes, base.toList = dropTrailingSlashes base ++ slashes ∧
      ∀ character ∈ slashes, character = '/' := by
  refine ⟨(base.toList.reverse.takeWhile (· == '/')).reverse, ?_, ?_⟩
  · rw [dropTrailingSlashes, ← List.reverse_append, List.takeWhile_append_dropWhile,
      List.reverse_reverse]
  · intro character member
    have taken := List.all_eq_true.mp List.all_takeWhile character (List.mem_reverse.mp member)
    exact beq_iff_eq.mp taken

/-- A path behind the base URL stays at the place of the base URL. -/
theorem samePlace_of_prefix {baseUrl text : String} {base url : Url} {path : List Char}
    (begins : text.toList = dropTrailingSlashes baseUrl ++ '/' :: path)
    (baseParsed : Url.parse baseUrl = .ok base) (web : IsWeb base.scheme)
    (parsed : Url.parse text = .ok url) : SamePlace url base := by
  have visible : ¬ '/'.toNat ≤ 0x20 := by decide
  have textClean := clean_append_mark visible (dropTrailingSlashes baseUrl) path
  rw [← begins] at textClean
  rcases dropTrailingSlashes_append baseUrl with ⟨slashes, whole, onlySlashes⟩
  cases slashes with
  | nil =>
      rw [List.append_nil] at whole
      rcases cleanFront_eq (dropTrailingSlashes baseUrl) with ⟨blanks, trimmed, controls⟩
      rw [trimmed, List.append_assoc, ← whole] at textClean
      exact samePlace_of_extension (List.append_nil _).symm (fun _ member => nomatch member)
        textClean controls baseParsed web parsed
  | cons slash others =>
      have baseClean := clean_append_mark visible (dropTrailingSlashes baseUrl) others
      have isSlash := onlySlashes slash List.mem_cons_self
      rw [isSlash] at whole
      rw [← whole] at baseClean
      have onlySlashesKept : ∀ character ∈ '/' :: cleanEnd others, character = '/' := by
        intro character member
        rcases List.mem_cons.mp member with slash | member
        · exact slash
        · exact onlySlashes character (List.mem_cons_of_mem _ (mem_of_mem_cleanEnd member))
      have unblanked : clean text.toList =
          cleanFront (dropTrailingSlashes baseUrl) ++ ([] ++ '/' :: cleanEnd path) := textClean
      exact samePlace_of_extension baseClean onlySlashesKept unblanked
        (fun _ member => nomatch member) baseParsed web parsed

theorem isAbsolute_iff {target : String} :
    isAbsolute target ↔ "http://".toList <+: target.toList ∨ "https://".toList <+: target.toList := by
  rw [isAbsolute, Bool.or_eq_true, Text.startsWith, Text.startsWith, List.isPrefixOf_iff_prefix,
    List.isPrefixOf_iff_prefix]

theorem exists_webText {target : String} (absolute : isAbsolute target) :
    ∃ scheme behind, WebText target scheme behind := by
  rcases isAbsolute_iff.mp absolute with ⟨behind, http⟩ | ⟨behind, https⟩
  · exact ⟨"http", behind, .inl rfl, http.symm⟩
  · exact ⟨"https", behind, .inr rfl, https.symm⟩

theorem web_of_isAbsolute {target : String} {url : Url} (absolute : isAbsolute target)
    (parsed : Url.parse target = .ok url) : IsWeb url.scheme := by
  rcases exists_webText absolute with ⟨scheme, behind, webText⟩
  rw [webText.scheme_eq parsed]
  exact webText.web

theorem samePlace_of_checkTarget {backend : Backend} {target : String} {base url : Url}
    (accepted : checkTarget backend target = .ok ()) (absolute : isAbsolute target)
    (baseParsed : Url.parse backend.baseUrl = .ok base) (web : IsWeb base.scheme)
    (parsed : Url.parse target = .ok url) : SamePlace url base := by
  rw [checkTarget, if_pos absolute, parsed, baseParsed] at accepted
  simp only [] at accepted
  split at accepted
  · cases accepted
  · rename_i origin hasOrigin
    split at accepted
    · rename_i sameOrigin
      exact samePlace_of_origin parsed baseParsed (web_of_isAbsolute absolute parsed) web hasOrigin
        sameOrigin
    · cases accepted

theorem samePlace_of_targetUrl {backend : Backend} {path text : String} {base url : Url}
    (resolved : targetUrl backend path = .ok text)
    (baseParsed : Url.parse backend.baseUrl = .ok base) (web : IsWeb base.scheme)
    (parsed : Url.parse text = .ok url) : SamePlace url base := by
  rw [targetUrl] at resolved
  split at resolved
  · cases resolved
  · rename_i trimmed _
    split at resolved
    · rename_i absolute
      cases checked : checkTarget backend trimmed with
      | error failure =>
          rw [checked] at resolved
          cases resolved
      | ok _ =>
          rw [checked] at resolved
          rw [← Except.ok.inj resolved] at parsed
          exact samePlace_of_checkTarget checked absolute baseParsed web parsed
    · by_cases slashed : Text.startsWith "/" trimmed
      · have slashPrefix := slashed
        rw [Text.startsWith, List.isPrefixOf_iff_prefix] at slashPrefix
        rcases slashPrefix with ⟨behind, slash⟩
        have begins : text.toList = dropTrailingSlashes backend.baseUrl ++ '/' :: behind := by
          rw [← Except.ok.inj resolved, if_pos slashed, String.toList_ofList, List.append_nil,
            ← slash]
          rfl
        exact samePlace_of_prefix begins baseParsed web parsed
      · have begins : text.toList =
            dropTrailingSlashes backend.baseUrl ++ '/' :: trimmed.toList := by
          rw [← Except.ok.inj resolved, if_neg slashed, String.toList_ofList, List.append_assoc]
          rfl
        exact samePlace_of_prefix begins baseParsed web parsed

/-- The token is sent to the place of the backend only. -/
theorem prepare_samePlace (forwarder : Forwarder) (request : InboundRequest) (token label : String)
    (base url : Url) (outbound : OutboundRequest)
    (baseParsed : Url.parse forwarder.backend.baseUrl = .ok base) (web : IsWeb base.scheme)
    (accepted : (forwarder.prepare request token label).value = .ok outbound)
    (parsed : Url.parse outbound.url = .ok url) : SamePlace url base := by
  rw [prepare_value] at accepted
  rcases prepared_eq_ok accepted with ⟨_, _, inbound, _, rebuilt⟩
  rcases rebuilt_eq_ok rebuilt with ⟨headers, text, _, resolved, built⟩
  rw [built] at parsed
  exact samePlace_of_targetUrl resolved baseParsed web parsed

def guarded : Forwarder :=
  { backend := { baseUrl := "https://backend.test:8443/base/", host := "backend.test" }
    rules := [] }

def misleading : InboundRequest :=
  { method := some "get", path := some "@other.test/x", headers := some .empty, body := none }

def misleadingOutbound : OutboundRequest :=
  { method := "GET"
    url := "https://backend.test:8443/base/@other.test/x"
    headers := Http.Headers.ofList
      [("authorization", ⟨"Bearer token".toUTF8.toList⟩), ("host", ⟨"backend.test".toUTF8.toList⟩)]
    body := none }

def guardedUrl (path : String) : Url :=
  { scheme := "https"
    username := ""
    password := none
    host := some (.domain "backend.test")
    port := some 8443
    path
    query := none }

theorem prepare_samePlace_misleading :
    Url.parse guarded.backend.baseUrl = .ok (guardedUrl "/base/") ∧
      IsWeb (guardedUrl "/base/").scheme ∧
      (guarded.prepare misleading "token" "label").value = .ok misleadingOutbound ∧
      Url.parse misleadingOutbound.url = .ok (guardedUrl "/base/@other.test/x") ∧
      SamePlace (guardedUrl "/base/@other.test/x") (guardedUrl "/base/") := by
  have baseParsed : Url.parse guarded.backend.baseUrl = .ok (guardedUrl "/base/") := by
    decide +kernel
  have web : IsWeb (guardedUrl "/base/").scheme := .inr rfl
  have accepted : (guarded.prepare misleading "token" "label").value = .ok misleadingOutbound := by
    decide +kernel
  have parsed : Url.parse misleadingOutbound.url = .ok (guardedUrl "/base/@other.test/x") := by
    decide +kernel
  exact ⟨baseParsed, web, accepted, parsed,
    prepare_samePlace guarded misleading "token" "label" _ _ _ baseParsed web accepted parsed⟩

end BearerProxy.Forwarder
