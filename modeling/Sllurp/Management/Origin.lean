/-
# The origin of management requests

A manager of readers and a connector send requests with credentials to the URL that they
make of a path. A path with a scheme or a host of its own is checked against the origin of
the reader. Any other path loses its leading slashes and is then resolved against the base
URL, and what is left may have a scheme or a host after all. The requests stay on the
reader if and only if it has none, or those of the reader.
-/

import Sllurp.Foundations.Url

namespace Sllurp.Management

open Sllurp.Foundations Sllurp.Foundations.Outcome Sllurp.Foundations.Url

/-! ## URLs of requests -/

/-- A scheme, a host and a port. -/
abbrev Origin := List Char × List Char × ℕ

/-- Where the two classes that send requests differ. -/
structure Client where
  isSecure : List Char → Bool
  foreign : String

def httpReaderManager : Client where
  isSecure scheme := scheme = "https".toList
  foreign := "reader management requests must stay on the configured reader host"

def zebraIoTConnector : Client where
  isSecure scheme := scheme.map Char.toLower = "https".toList
  foreign := "requests must stay on the configured reader host"

/-- What requests know of the reader. -/
structure Reader where
  baseUrl : List Char
  baseOrigin : Origin

def httpSchemes : List (List Char) := ["http".toList, "https".toList]

-- Under a name of its own the instance is no part of the definitions that compare schemes.
local instance lawfulBEqScheme : LawfulBEq (List Char) := List.instLawfulBEq

variable (conventions : Conventions) (client : Client)

/-- The origin of a parsed URL. An error is the text of a `ValueError`. -/
def origin (parsed : ParseResult) : Except String Origin :=
  match hostname conventions parsed.netloc with
  | none => .error "URL must include a hostname"
  | some host => do
    let number ← port parsed.netloc
    .ok (parsed.scheme.map Char.toLower, conventions.casefold host,
      number.getD (if client.isSecure parsed.scheme then 443 else 80))

/-- What the constructors do with the base URL. -/
def configure (baseUrl : List Char) : Except String Reader := do
  let parsed ← urlparse conventions [] baseUrl
  if parsed.scheme ∉ httpSchemes ∨ parsed.netloc = [] then
    .error "base_url must be an absolute http:// or https:// URL"
  else if '@' ∈ parsed.netloc then .error "base_url must not contain embedded credentials"
  else do
    let baseOrigin ← origin conventions client parsed
    .ok ⟨baseUrl.rdropWhile (· = '/') ++ ['/'], baseOrigin⟩

/-- A path without its leading slashes. -/
def lstripSlashes (path : List Char) : List Char := path.dropWhile (· = '/')

/-- The URL of a request of a client. -/
def requestUrl (reader : Reader) (path : List Char) : Except String (List Char) := do
  let parsed ← urlparse conventions [] path
  if parsed.scheme ≠ [] ∨ parsed.netloc ≠ [] then
    if parsed.scheme ∉ httpSchemes ∨ parsed.netloc = [] then
      .error "path URL must use absolute http:// or https://"
    else if '@' ∈ parsed.netloc then .error "path URL must not contain embedded credentials"
    else do
      let found ← origin conventions client parsed
      if found ≠ reader.baseOrigin then .error client.foreign
      else .ok path
  else urljoin conventions reader.baseUrl (lstripSlashes path)

def HTTPReaderManager.url (reader : Reader) (path : List Char) : Except String (List Char) :=
  requestUrl conventions httpReaderManager reader path

def ZebraIoTConnector.url (reader : Reader) (path : List Char) : Except String (List Char) :=
  requestUrl conventions zebraIoTConnector reader path

/-- The path that a service description advertises by a location, if it does. -/
def endpointPath (location : List Char) : Except String (Option (List Char)) := do
  let parsed ← urlparse conventions [] location
  if parsed.scheme ≠ [] ∧ parsed.netloc ≠ [] then
    let path := if parsed.path = [] then ['/'] else parsed.path
    .ok (some (if parsed.query ≠ [] then path ++ '?' :: parsed.query else path))
  else if location ≠ [] then .ok (some location)
  else .ok none

/-- The URL of a call of the service, unless none is advertised. -/
def endpointUrl (reader : Reader) (location : List Char) : Except String (List Char) := do
  match ← endpointPath conventions location with
  | none => .error "reader WSDL did not advertise a SOAP endpoint; pass endpoint_path"
  | some path => HTTPReaderManager.url conventions reader path

/-! ## Staying on the reader -/

/-- The call raises, or returns a URL with the origin of the reader. -/
def StaysOnReader (reader : Reader) (result : Except String (List Char)) : Prop :=
  ∀ returned, result = .ok returned →
    ∃ parsed, urlparse conventions [] returned = .ok parsed ∧
      origin conventions client parsed = .ok reader.baseOrigin

/-- Without its leading slashes the path has no scheme but that of the reader, and no host, or
the reader's origin. -/
def StaysRelative (reader : Reader) (path : List Char) : Prop :=
  ∀ reference, urlparse conventions reader.baseOrigin.1 (lstripSlashes path) = .ok reference →
    reference.scheme = reader.baseOrigin.1 ∧
      (reference.netloc = [] ∨ origin conventions client reference = .ok reader.baseOrigin)

/-- The path is refused, or checked as the URL that it is, or stays relative. -/
def Harmless (reader : Reader) (path : List Char) : Prop :=
  ∀ parsed, urlparse conventions [] path = .ok parsed → parsed.scheme = [] → parsed.netloc = [] →
    StaysRelative conventions client reader path

/-- The scheme and the authority decide about the origin. -/
theorem origin_congr {first second : ParseResult} (hscheme : first.scheme = second.scheme)
    (hnetloc : first.netloc = second.netloc) :
    origin conventions client first = origin conventions client second := by
  unfold origin
  rw [hscheme, hnetloc]

theorem scheme_of_origin {parsed : ParseResult} {found : Origin}
    (horigin : origin conventions client parsed = .ok found) :
    found.1 = parsed.scheme.map Char.toLower := by
  unfold origin at horigin
  split at horigin
  · cases horigin
  · obtain ⟨number, -, hfound⟩ := bind_eq_ok_iff.mp horigin
    cases hfound
    rfl

theorem isScheme_of_mem {scheme : List Char} (hmem : scheme ∈ httpSchemes) : IsScheme scheme := by
  have hcases : scheme = "http".toList ∨ scheme = "https".toList := by
    simpa [httpSchemes] using hmem
  rcases hcases with rfl | rfl
  · exact ⟨rfl, List.all_eq_true.mp rfl, rfl⟩
  · exact ⟨rfl, List.all_eq_true.mp rfl, rfl⟩

theorem mem_uses_of_mem {scheme : List Char} (hmem : scheme ∈ httpSchemes) :
    scheme ∈ usesRelative ∧ scheme ∈ usesNetloc := by
  have hcases : scheme = "http".toList ∨ scheme = "https".toList := by
    simpa [httpSchemes] using hmem
  rcases hcases with rfl | rfl <;> decide

variable {conventions client} in
/-- A base URL that is accepted has the origin of the reader, with one slash at its end. -/
theorem exists_base {baseUrl : List Char} {reader : Reader}
    (hconfigure : configure conventions client baseUrl = .ok reader) :
    ∃ base, urlparse conventions [] reader.baseUrl = .ok base ∧ base.scheme ∈ httpSchemes ∧
      base.netloc ≠ [] ∧ origin conventions client base = .ok reader.baseOrigin ∧
      reader.baseUrl ≠ [] := by
  unfold configure at hconfigure
  obtain ⟨parsed, hparse, hconfigure⟩ := bind_eq_ok_iff.mp hconfigure
  split at hconfigure
  · cases hconfigure
  · next habsolute =>
    rw [not_or, not_not] at habsolute
    obtain ⟨hmem, hnetloc⟩ := habsolute
    split at hconfigure
    · cases hconfigure
    · obtain ⟨baseOrigin, horigin, hreader⟩ := bind_eq_ok_iff.mp hconfigure
      cases hreader
      obtain ⟨split, hsplit, hscheme, hsame⟩ := exists_urlsplit hparse
      have hschemeNonempty : split.scheme ≠ [] := by
        rw [hscheme]
        rintro hnil
        rw [hnil] at hmem
        exact absurd hmem (by decide)
      rw [← hsame] at hnetloc
      obtain ⟨before, rest, hauthority, hlower⟩ :=
        hasAuthority_of_urlsplit hsplit hschemeNonempty hnetloc
      obtain ⟨trimmed, htrimmed⟩ := hasAuthority_trimmed hnetloc hauthority
      obtain ⟨again, hagain, hagainScheme, hagainNetloc⟩ := urlsplit_of_hasAuthority conventions
        htrimmed (netloc_of_urlsplit hsplit).1 []
      obtain ⟨base, hbase, hbaseScheme, hbaseNetloc⟩ := exists_urlparse hagain
      have hsameScheme : base.scheme = parsed.scheme := by
        rw [hbaseScheme, hagainScheme, hlower, hscheme]
      have hsameNetloc : base.netloc = split.netloc := hbaseNetloc.trans hagainNetloc
      refine ⟨base, hbase, ?_, ?_, ?_, by simp⟩
      · rw [hsameScheme]
        exact hmem
      · rw [hsameNetloc]
        exact hnetloc
      · rw [origin_congr conventions client hsameScheme (hsameNetloc.trans hsame)]
        exact horigin

/-! ## When requests stay on the reader -/

section Requests

variable {conventions client} {baseUrl path : List Char} {reader : Reader}
  {base : ParseResult}

/-- A URL that parses has the reader's origin if and only if its parts have. -/
theorem staysOnReader_ok_iff {returned : List Char} {parsed : ParseResult}
    (hparse : urlparse conventions [] returned = .ok parsed) :
    StaysOnReader conventions client reader (.ok returned) ↔
      origin conventions client parsed = .ok reader.baseOrigin := by
  constructor
  · intro hstays
    obtain ⟨again, hagain, horigin⟩ := hstays returned rfl
    rw [hparse] at hagain
    cases hagain
    exact horigin
  · rintro horigin _ ⟨⟩
    exact ⟨parsed, hparse, horigin⟩

/-- Nothing has no scheme and no host. -/
theorem staysRelative_nil (scheme : List Char) {reference : ParseResult}
    (hparse : urlparse conventions scheme [] = .ok reference) :
    reference.scheme = scheme ∧ reference.netloc = [] := by
  obtain ⟨split, hsplit, hscheme, hnetloc⟩ := exists_urlsplit hparse
  have hnothing : urlsplit conventions scheme [] = .ok ⟨scheme, [], [], [], []⟩ := rfl
  rw [hnothing] at hsplit
  cases hsplit
  exact ⟨hscheme.symm, hnetloc.symm⟩

/-- A path without scheme and host stays on the reader if and only if it stays relative. -/
theorem urljoin_staysOnReader_iff (hbase : urlparse conventions [] reader.baseUrl = .ok base)
    (hmem : base.scheme ∈ httpSchemes) (hnetloc : base.netloc ≠ [])
    (horigin : origin conventions client base = .ok reader.baseOrigin)
    (hbaseUrl : reader.baseUrl ≠ []) (path : List Char) :
    StaysOnReader conventions client reader
        (urljoin conventions reader.baseUrl (lstripSlashes path)) ↔
      StaysRelative conventions client reader path := by
  have hscheme := isScheme_of_mem hmem
  have huses := mem_uses_of_mem hmem
  have hbaseScheme : reader.baseOrigin.1 = base.scheme :=
    (scheme_of_origin conventions client horigin).trans hscheme.lower
  unfold StaysRelative
  rw [hbaseScheme]
  by_cases hempty : lstripSlashes path = []
  · have hjoined : urljoin conventions reader.baseUrl [] = .ok reader.baseUrl := if_neg hbaseUrl
    rw [hempty, hjoined, staysOnReader_ok_iff hbase]
    refine iff_of_true horigin fun reference hreference => ?_
    obtain ⟨hsame, hnone⟩ := staysRelative_nil base.scheme hreference
    exact ⟨hsame, .inl hnone⟩
  · cases hreference : urlparse conventions base.scheme (lstripSlashes path) with
    | error text =>
      rw [urljoin_of_error hbaseUrl hempty hbase hreference]
      exact iff_of_true (fun _ hreturned => nomatch hreturned) fun _ hparsed => nomatch hparsed
    | ok reference =>
      have hunique {condition : ParseResult → Prop} :
          (∀ other, Except.ok reference = (.ok other : Except String _) → condition other) ↔
            condition reference :=
        ⟨fun hall => hall reference rfl, by rintro hcondition _ ⟨⟩; exact hcondition⟩
      rw [hunique]
      by_cases hsame : reference.scheme = base.scheme
      · obtain ⟨joined, again, hjoined, hagain, hagainScheme, hagainNetloc⟩ :=
          urljoin_of_scheme_eq hbaseUrl hempty hbase hreference hscheme huses.1 huses.2
            hnetloc hsame
        rw [hjoined, staysOnReader_ok_iff hagain]
        by_cases hnone : reference.netloc = []
        · rw [if_pos hnone] at hagainNetloc
          rw [origin_congr conventions client hagainScheme hagainNetloc]
          exact iff_of_true horigin ⟨hsame, .inl hnone⟩
        · rw [if_neg hnone] at hagainNetloc
          rw [origin_congr conventions client (hagainScheme.trans hsame.symm) hagainNetloc,
            or_iff_right hnone, and_iff_right hsame]
      · rw [urljoin_of_scheme_ne hbaseUrl hempty hbase hreference hsame]
        obtain ⟨again, hagain, hagainScheme⟩ := exists_urlparse_of_own_scheme hreference hsame []
        rw [staysOnReader_ok_iff hagain]
        refine iff_of_false (fun hother => hsame ?_) fun hstays => hsame hstays.1
        obtain ⟨split, hsplit, hsplitScheme, -⟩ := exists_urlsplit hagain
        have hlower := lower_scheme_of_urlsplit rfl hsplit
        rw [← hbaseScheme, scheme_of_origin conventions client hother, ← hagainScheme,
          ← hsplitScheme, hlower]

/-- The URL of a request stays on the reader, or is not made, if and only if the path is
harmless. -/
theorem requestUrl_staysOnReader_iff
    (hconfigure : configure conventions client baseUrl = .ok reader) (path : List Char) :
    StaysOnReader conventions client reader (requestUrl conventions client reader path) ↔
      Harmless conventions client reader path := by
  obtain ⟨base, hbase, hmem, hnetloc, horigin, hbaseUrl⟩ := exists_base hconfigure
  unfold requestUrl Harmless
  cases hparse : urlparse conventions [] path with
  | error text =>
    exact iff_of_true (fun _ hreturned => nomatch hreturned) fun _ hparsed => nomatch hparsed
  | ok parsed =>
    simp only [ok_bind]
    by_cases hown : parsed.scheme ≠ [] ∨ parsed.netloc ≠ []
    · rw [if_pos hown]
      apply iff_of_true
      · intro returned hreturned
        split at hreturned
        · cases hreturned
        · split at hreturned
          · cases hreturned
          · obtain ⟨found, hfound, hreturned⟩ := bind_eq_ok_iff.mp hreturned
            split at hreturned
            · cases hreturned
            · next hsame =>
              cases hreturned
              rw [not_not] at hsame
              exact ⟨parsed, hparse, hsame ▸ hfound⟩
      · rintro _ ⟨⟩ hnoScheme hnoNetloc
        exact absurd hown (by simp [hnoScheme, hnoNetloc])
    · rw [if_neg hown]
      rw [urljoin_staysOnReader_iff hbase hmem hnetloc horigin hbaseUrl]
      rw [not_or, not_not, not_not] at hown
      constructor
      · rintro hstays _ ⟨⟩ - -
        exact hstays
      · intro hharmless
        exact hharmless parsed rfl hown.1 hown.2

variable (conventions) in
/-- A request stays on the reader if and only if its path is harmless. For a service, this is
the path that its description advertises. -/
theorem requests_stayOnReader_iff :
    (∀ baseUrl reader, configure conventions httpReaderManager baseUrl = .ok reader →
      (∀ path, StaysOnReader conventions httpReaderManager reader
          (HTTPReaderManager.url conventions reader path) ↔
        Harmless conventions httpReaderManager reader path) ∧
      ∀ location, StaysOnReader conventions httpReaderManager reader
          (endpointUrl conventions reader location) ↔
        ∀ path, endpointPath conventions location = .ok (some path) →
          Harmless conventions httpReaderManager reader path) ∧
    ∀ baseUrl reader, configure conventions zebraIoTConnector baseUrl = .ok reader →
      ∀ path, StaysOnReader conventions zebraIoTConnector reader
          (ZebraIoTConnector.url conventions reader path) ↔
        Harmless conventions zebraIoTConnector reader path := by
  refine ⟨fun baseUrl reader hconfigure => ⟨requestUrl_staysOnReader_iff hconfigure, ?_⟩,
    fun baseUrl reader hconfigure => requestUrl_staysOnReader_iff hconfigure⟩
  intro location
  unfold endpointUrl
  cases hendpoint : endpointPath conventions location with
  | error text =>
    exact iff_of_true (fun _ hreturned => nomatch hreturned) fun _ hpath => nomatch hpath
  | ok endpoint =>
    cases endpoint with
    | none =>
      exact iff_of_true (fun _ hreturned => nomatch hreturned) fun _ hpath => nomatch hpath
    | some path =>
      apply (requestUrl_staysOnReader_iff hconfigure path).trans
      constructor
      · rintro hharmless _ ⟨⟩
        exact hharmless
      · intro hharmless
        exact hharmless path rfl

end Requests

/-! ## A reader -/

/-- Conventions for URLs of ASCII characters without addresses in brackets. -/
def asciiConventions : Conventions where
  lower := List.map Char.toLower
  casefold := List.map Char.toLower
  nfkc := id
  isBracketedHost _ := false

def plainReader : Reader where
  baseUrl := "http://reader/".toList
  baseOrigin := ("http".toList, "reader".toList, 80)

/-- A path on the reader. -/
theorem plainReader_settings :
    StaysOnReader asciiConventions httpReaderManager plainReader
      (HTTPReaderManager.url asciiConventions plainReader "/settings?all=1".toList) := by
  have hconfigure : configure asciiConventions httpReaderManager "http://reader".toList =
      .ok plainReader := rfl
  apply (((requests_stayOnReader_iff asciiConventions).1 _ _ hconfigure).1 _).mpr
  intro parsed _ _ _ reference hreference
  have hparse : urlparse asciiConventions plainReader.baseOrigin.1
      (lstripSlashes "/settings?all=1".toList) =
    .ok ⟨"http".toList, [], "settings".toList, [], "all=1".toList, []⟩ := rfl
  rw [hparse] at hreference
  cases hreference
  exact ⟨rfl, .inl rfl⟩

/-- A path with a URL after its first slash, as a path and as the location of a service. -/
theorem plainReader_attacker :
    configure asciiConventions httpReaderManager "http://reader".toList = .ok plainReader ∧
      HTTPReaderManager.url asciiConventions plainReader "/http://attacker/x".toList =
        .ok "http://attacker/x".toList ∧
      ZebraIoTConnector.url asciiConventions plainReader "/http://attacker/x".toList =
        .ok "http://attacker/x".toList ∧
      endpointUrl asciiConventions plainReader "http://reader/http://attacker/x".toList =
        .ok "http://attacker/x".toList ∧
      ¬ StaysOnReader asciiConventions httpReaderManager plainReader
        (.ok "http://attacker/x".toList) := by
  refine ⟨rfl, rfl, rfl, rfl, ?_⟩
  intro hstays
  obtain ⟨parsed, hparsed, horigin⟩ := hstays _ rfl
  have hparse : urlparse asciiConventions [] "http://attacker/x".toList =
    .ok ⟨"http".toList, "attacker".toList, "/x".toList, [], [], []⟩ := rfl
  rw [hparse] at hparsed
  cases hparsed
  have hother : origin asciiConventions httpReaderManager
      ⟨"http".toList, "attacker".toList, "/x".toList, [], [], []⟩ =
    .ok ("http".toList, "attacker".toList, 80) := rfl
  rw [hother] at horigin
  exact absurd (Except.ok.inj horigin) (by decide)

end Sllurp.Management
