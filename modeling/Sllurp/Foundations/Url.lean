/-
# URLs

Splitting URLs into their parts, putting them together and resolving one against another,
as a common standard library does. A URL with an authority is found again in what is put
together from its parts; so a reference that brings no scheme and no authority of its own
is resolved to a URL under the scheme and the authority of its base.
-/

import Mathlib.Data.List.DropRight
import Mathlib.Data.List.Induction
import Sllurp.Foundations.Outcome

namespace Sllurp.Foundations

open Outcome

/-! ## Parts of strings -/

section Partition

variable (separator : Char) (text : List Char)

/-- What stands before a separator, and after it. -/
def partition : List Char × List Char :=
  (text.takeWhile (· ≠ separator), (text.dropWhile (· ≠ separator)).tail)

/-- What stands after the last separator. -/
def afterLast : List Char := (text.reverse.takeWhile (· ≠ separator)).reverse

end Partition

namespace Url

/-! ## Splitting -/

/-- What is left to the character database and to the syntax of addresses. -/
structure Conventions where
  lower : List Char → List Char
  casefold : List Char → List Char
  nfkc : List Char → List Char
  isBracketedHost : List Char → Bool

structure SplitResult where
  scheme : List Char
  netloc : List Char
  path : List Char
  query : List Char
  fragment : List Char

structure ParseResult where
  scheme : List Char
  netloc : List Char
  path : List Char
  params : List Char
  query : List Char
  fragment : List Char

def usesRelative : List (List Char) :=
  ["", "ftp", "http", "gopher", "nntp", "imap", "wais", "file", "https", "shttp", "mms",
    "prospero", "rtsp", "rtsps", "rtspu", "sftp", "svn", "svn+ssh", "ws", "wss"].map String.toList

def usesNetloc : List (List Char) :=
  ["", "ftp", "http", "gopher", "nntp", "telnet", "imap", "wais", "file", "mms", "https", "shttp",
    "snews", "prospero", "rtsp", "rtsps", "rtspu", "rsync", "svn", "svn+ssh", "sftp", "nfs", "git",
    "git+ssh", "ws", "wss", "itms-services"].map String.toList

def usesParams : List (List Char) :=
  ["", "ftp", "hdl", "prospero", "http", "imap", "https", "shttp", "rtsp", "rtsps", "rtspu", "sip",
    "sips", "mms", "sftp", "tel"].map String.toList

def isSchemeChar (char : Char) : Bool :=
  char.isAlphanum || char = '+' || char = '-' || char = '.'

/-- The characters at which the authority ends. -/
def isDelimiter (char : Char) : Bool := char = '/' || char = '?' || char = '#'

def isRemoved (char : Char) : Bool := char = '\t' || char = '\r' || char = '\n'

/-- Without control characters and spaces in front, and without tabs and line ends. -/
def clean (url : List Char) : List Char :=
  (url.dropWhile (·.toNat ≤ 32)).filter (!isRemoved ·)

/-- The scheme in front of a URL, or the one it has otherwise. -/
def splitScheme (default url : List Char) : List Char × List Char :=
  match url.takeWhile (· ≠ ':'), url.dropWhile (· ≠ ':') with
  | first :: rest, _ :: after =>
    if first.isAlpha && (first :: rest).all isSchemeChar then
      ((first :: rest).map Char.toLower, after)
    else (default, url)
  | _, _ => (default, url)

def splitNetloc : List Char → List Char × List Char
  | '/' :: '/' :: rest => (rest.takeWhile (!isDelimiter ·), rest.dropWhile (!isDelimiter ·))
  | url => ([], url)

variable (conventions : Conventions)

/-- What is in brackets is an address. -/
def checkBracketedHost (hostname : List Char) : Except String Unit :=
  if conventions.isBracketedHost hostname then .ok () else .error "Invalid IPv6 URL"

def checkBracketedNetloc (netloc : List Char) : Except String Unit :=
  let hostnameAndPort := afterLast '@' netloc
  if '[' ∈ hostnameAndPort then
    let bracketed := partition '[' hostnameAndPort
    let hostname := partition ']' bracketed.2
    if bracketed.1 ≠ [] then .error "Invalid IPv6 URL"
    else if hostname.2 ≠ [] ∧ hostname.2.head? ≠ some ':' then .error "Invalid IPv6 URL"
    else checkBracketedHost conventions hostname.1
  else checkBracketedHost conventions (partition ':' hostnameAndPort).1

def checkBrackets (netloc : List Char) : Except String Unit :=
  if '[' ∈ netloc ∧ ']' ∈ netloc then checkBracketedNetloc conventions netloc
  else if '[' ∈ netloc ∨ ']' ∈ netloc then .error "Invalid IPv6 URL"
  else .ok ()

/-- Compatible characters do not hide a delimiter. -/
def checkNetloc (netloc : List Char) : Except String Unit :=
  if netloc.all (·.toNat < 128) then .ok ()
  else
    let rest := netloc.filter (· ∉ ['@', ':', '#', '?'])
    if conventions.nfkc rest = rest then .ok ()
    else if (conventions.nfkc rest).any ['/', '?', '#', '@', ':'].contains then
      .error "netloc contains invalid characters under NFKC normalization"
    else .ok ()

/-- Split a URL: `scheme://netloc/path?query#fragment`. -/
def urlsplit (default url : List Char) : Except String SplitResult := do
  let scheme := splitScheme default (clean url)
  let netloc := splitNetloc scheme.2
  checkBrackets conventions netloc.1
  let fragment := partition '#' netloc.2
  let query := partition '?' fragment.1
  checkNetloc conventions netloc.1
  .ok ⟨scheme.1, netloc.1, query.1, query.2, fragment.2⟩

/-- Parameters follow the first semicolon after the last slash. -/
def splitParams (path : List Char) : List Char × List Char :=
  let last := afterLast '/' path
  (path.take (path.length - last.length) ++ (partition ';' last).1, (partition ';' last).2)

def SplitResult.parsed (result : SplitResult) : ParseResult :=
  let params := if result.scheme ∈ usesParams then splitParams result.path else (result.path, [])
  ⟨result.scheme, result.netloc, params.1, params.2, result.query, result.fragment⟩

def urlparse (default url : List Char) : Except String ParseResult :=
  (urlsplit conventions default url).map SplitResult.parsed

/-! ## Putting together -/

def urlunsplit (result : SplitResult) : List Char :=
  let url :=
    if result.netloc ≠ [] ∨ (result.scheme ≠ [] ∧ result.scheme ∈ usesNetloc ∧
        result.path.take 2 ≠ ['/', '/']) then
      ['/', '/'] ++ result.netloc ++
        (if result.path ≠ [] ∧ result.path.head? ≠ some '/' then '/' :: result.path
        else result.path)
    else result.path
  (if result.scheme ≠ [] then result.scheme ++ ':' :: url else url) ++
    (if result.query ≠ [] then '?' :: result.query else []) ++
    (if result.fragment ≠ [] then '#' :: result.fragment else [])

def urlunparse (result : ParseResult) : List Char :=
  let path := if result.params ≠ [] then result.path ++ ';' :: result.params else result.path
  urlunsplit ⟨result.scheme, result.netloc, path, result.query, result.fragment⟩

/-! ## Resolving -/

/-- Without the empty segments between the first and the last. -/
def dropEmptySegments : List (List Char) → List (List Char)
  | [] => []
  | first :: rest => first :: (rest.dropLast.filter (· ≠ []) ++ rest.getLast?.toList)

def resolveSegment (resolved : List (List Char)) (segment : List Char) : List (List Char) :=
  if segment = ['.', '.'] then resolved.dropLast
  else if segment = ['.'] then resolved
  else resolved ++ [segment]

/-- The path of a reference, seen from the path of its base. -/
def resolvePath (basePath path : List Char) : List Char :=
  let baseParts := basePath.splitOn '/'
  let directory := if baseParts.getLast? = some [] then baseParts else baseParts.dropLast
  let segments :=
    if path.head? = some '/' then path.splitOn '/'
    else dropEmptySegments (directory ++ path.splitOn '/')
  let resolved := segments.foldl resolveSegment []
  let closed :=
    if segments.getLast? = some ['.'] ∨ segments.getLast? = some ['.', '.'] then resolved ++ [[]]
    else resolved
  let joined := ['/'].intercalate closed
  if joined = [] then ['/'] else joined

/-- Resolve a reference against a base. -/
def urljoin (base url : List Char) : Except String (List Char) :=
  if base = [] then .ok url
  else if url = [] then .ok base
  else do
    let base ← urlparse conventions [] base
    let reference ← urlparse conventions base.scheme url
    if reference.scheme ≠ base.scheme ∨ reference.scheme ∉ usesRelative then .ok url
    else if reference.scheme ∈ usesNetloc ∧ reference.netloc ≠ [] then
      .ok (urlunparse reference)
    else
      let netloc := if reference.scheme ∈ usesNetloc then base.netloc else reference.netloc
      if reference.path = [] ∧ reference.params = [] then
        let query := if reference.query = [] then base.query else reference.query
        .ok (urlunparse
          { reference with netloc, path := base.path, params := base.params, query })
      else
        .ok (urlunparse { reference with netloc, path := resolvePath base.path reference.path })

/-! ## Hosts and ports -/

def hostinfo (netloc : List Char) : List Char × List Char :=
  let hostinfo := afterLast '@' netloc
  if '[' ∈ hostinfo then
    let hostname := partition ']' (partition '[' hostinfo).2
    (hostname.1, (partition ':' hostname.2).2)
  else partition ':' hostinfo

/-- The host in lower case, except for the zone of an address. -/
def hostname (netloc : List Char) : Option (List Char) :=
  let hostname := (hostinfo netloc).1
  if hostname = [] then none
  else
    some (conventions.lower (hostname.takeWhile (· ≠ '%')) ++ hostname.dropWhile (· ≠ '%'))

/-- The port, if the authority has one. -/
def port (netloc : List Char) : Except String (Option ℕ) :=
  let port := (hostinfo netloc).2
  if port = [] then .ok none
  else if port.all Char.isDigit then
    let number := port.foldl (fun number digit => 10 * number + (digit.toNat - '0'.toNat)) 0
    if number ≤ 65535 then .ok (some number) else .error "Port out of range 0-65535"
  else .error "Port could not be cast to integer value"

/-! ## Authorities -/

/-- A list starts with a delimiter, if with anything. -/
def StartsWithDelimiter (text : List Char) : Prop := ∀ char ∈ text.head?, isDelimiter char = true

/-- A URL with a scheme, as it is written, and an authority. -/
structure HasAuthority (url before netloc rest : List Char) : Prop where
  clean : clean url = before ++ ':' :: '/' :: '/' :: (netloc ++ rest)
  first : before.head?.any Char.isAlpha = true
  scheme : ∀ char ∈ before, isSchemeChar char = true
  netloc : ∀ char ∈ netloc, isDelimiter char = false
  rest : StartsWithDelimiter rest

/-- The checks of an authority pass. -/
def Passes (netloc : List Char) : Prop :=
  checkBrackets conventions netloc = .ok () ∧ checkNetloc conventions netloc = .ok ()

/-- A list that ends where a condition ends. -/
theorem takeWhile_append_of_head {condition : Char → Bool} {early late : List Char}
    (hearly : ∀ char ∈ early, condition char = true)
    (hlate : ∀ char ∈ late.head?, condition char = false) :
    (early ++ late).takeWhile condition = early ∧ (early ++ late).dropWhile condition = late := by
  rw [List.takeWhile_append_of_pos hearly, List.dropWhile_append_of_pos hearly]
  cases late with
  | nil => simp
  | cons head tail =>
    have hhead := hlate head rfl
    simp [hhead]

theorem splitScheme_of_valid {before : List Char}
    (hfirst : before.head?.any Char.isAlpha = true)
    (hscheme : ∀ char ∈ before, isSchemeChar char = true) (default after : List Char) :
    splitScheme default (before ++ ':' :: after) = (before.map Char.toLower, after) := by
  have hcolon : ∀ char ∈ before, decide (char ≠ ':') = true := by
    intro char hmem
    apply decide_eq_true
    rintro rfl
    exact absurd (hscheme ':' hmem) (by decide)
  obtain ⟨htake, hdrop⟩ := @takeWhile_append_of_head (fun char => decide (char ≠ ':')) before
    (':' :: after) hcolon (by simp)
  unfold splitScheme
  rw [htake, hdrop]
  cases before with
  | nil => cases hfirst
  | cons first rest =>
    have hall : (first :: rest).all isSchemeChar = true := List.all_eq_true.mpr hscheme
    have halpha : first.isAlpha = true := hfirst
    simp only [halpha, hall, Bool.and_self, if_true]

/-- What is split off a URL with an authority. -/
theorem urlsplit_of_hasAuthority {url before netloc rest : List Char}
    (hauthority : HasAuthority url before netloc rest) (hpasses : Passes conventions netloc)
    (default : List Char) :
    ∃ result, urlsplit conventions default url = .ok result ∧
      result.scheme = before.map Char.toLower ∧ result.netloc = netloc := by
  have hscheme := splitScheme_of_valid hauthority.first hauthority.scheme default
    ('/' :: '/' :: (netloc ++ rest))
  obtain ⟨htake, hdrop⟩ := @takeWhile_append_of_head (!isDelimiter ·) netloc rest
    (fun char hmem => by rw [hauthority.netloc char hmem]; rfl)
    (fun char hmem => by rw [hauthority.rest char hmem]; rfl)
  unfold urlsplit
  rw [hauthority.clean, hscheme]
  simp only [splitNetloc, htake, hpasses.1, hpasses.2, ok_bind]
  exact ⟨_, rfl, rfl, rfl⟩

/-- A scheme is found in front, or there is none. -/
theorem splitScheme_cases (default url : List Char) :
    splitScheme default url = (default, url) ∧ (∀ other, splitScheme other url = (other, url)) ∨
      ∃ before after, url = before ++ ':' :: after ∧
        before.head?.any Char.isAlpha = true ∧
        (∀ char ∈ before, isSchemeChar char = true) ∧
        ∀ other, splitScheme other url = (before.map Char.toLower, after) := by
  cases hbefore : url.takeWhile (· ≠ ':') with
  | nil =>
    have hnone (other : List Char) : splitScheme other url = (other, url) := by
      unfold splitScheme
      rw [hbefore]
    exact .inl ⟨hnone default, hnone⟩
  | cons first rest =>
    cases hafter : url.dropWhile (· ≠ ':') with
    | nil =>
      have hnone (other : List Char) : splitScheme other url = (other, url) := by
        unfold splitScheme
        rw [hbefore, hafter]
      exact .inl ⟨hnone default, hnone⟩
    | cons separator after =>
      by_cases hvalid : (first.isAlpha && (first :: rest).all isSchemeChar) = true
      · right
        have hseparator : separator = ':' := by
          have hhead := List.head?_dropWhile_not (fun char => decide (char ≠ ':')) url
          rw [hafter] at hhead
          simpa using hhead
        have hurl : (first :: rest) ++ ':' :: after = url := by
          rw [← hseparator, ← hbefore, ← hafter]
          exact List.takeWhile_append_dropWhile
        rw [Bool.and_eq_true] at hvalid
        have hscheme := List.all_eq_true.mp hvalid.2
        refine ⟨first :: rest, after, hurl.symm, hvalid.1, hscheme, ?_⟩
        intro other
        rw [← hurl]
        exact @splitScheme_of_valid (first :: rest) hvalid.1 hscheme other after
      · left
        have hnone (other : List Char) : splitScheme other url = (other, url) := by
          unfold splitScheme
          rw [hbefore, hafter]
          exact if_neg hvalid
        exact ⟨hnone default, hnone⟩

/-- What is found of an authority. -/
theorem splitNetloc_spec (url : List Char) :
    (∀ char ∈ (splitNetloc url).1, isDelimiter char = false ∧ char ∈ url) ∧
      ((splitNetloc url).1 ≠ [] → ∃ rest, url = '/' :: '/' :: ((splitNetloc url).1 ++ rest) ∧
        StartsWithDelimiter rest) := by
  unfold splitNetloc
  split
  · next rest =>
    constructor
    · intro char hmem
      have hchar := List.mem_takeWhile_imp hmem
      refine ⟨by simpa using hchar, ?_⟩
      exact List.mem_cons_of_mem _ (List.mem_cons_of_mem _ ((List.takeWhile_prefix _).subset hmem))
    · intro _
      refine ⟨rest.dropWhile (!isDelimiter ·), by rw [List.takeWhile_append_dropWhile], ?_⟩
      intro char hmem
      have hhead := List.head?_dropWhile_not (!isDelimiter ·) rest
      rw [Option.mem_def.mp hmem] at hhead
      simpa using hhead
  · exact ⟨(fun _ hmem => nomatch hmem), fun hnil => absurd rfl hnil⟩

theorem not_isRemoved_of_mem_clean {url : List Char} {char : Char} (hmem : char ∈ clean url) :
    isRemoved char = false := by
  have hkept := (List.mem_filter.mp hmem).2
  simpa using hkept

variable {conventions} in
/-- A URL that splits has an authority that passes the checks, or none. -/
theorem netloc_of_urlsplit {default url : List Char} {result : SplitResult}
    (hsplit : urlsplit conventions default url = .ok result) :
    Passes conventions result.netloc ∧
      ∀ char ∈ result.netloc, isDelimiter char = false ∧ isRemoved char = false := by
  unfold urlsplit at hsplit
  obtain ⟨⟨⟩, hbrackets, hsplit⟩ := bind_eq_ok_iff.mp hsplit
  obtain ⟨⟨⟩, hnetloc, hsplit⟩ := bind_eq_ok_iff.mp hsplit
  cases hsplit
  refine ⟨⟨hbrackets, hnetloc⟩, ?_⟩
  intro char hmem
  obtain ⟨hdelimiter, hurl⟩ := (splitNetloc_spec _).1 char hmem
  refine ⟨hdelimiter, @not_isRemoved_of_mem_clean url _ ?_⟩
  rcases splitScheme_cases default (clean url) with ⟨hnone, -⟩ |
    ⟨before, after, hbefore, -, -, hsome⟩
  · rw [hnone] at hurl
    exact hurl
  · rw [hsome] at hurl
    rw [hbefore]
    exact List.mem_append_right _ (List.mem_cons_of_mem _ hurl)

variable {conventions} in
/-- A URL that splits into a scheme of its own splits so under any default. -/
theorem urlsplit_of_own_scheme {default url : List Char} {result : SplitResult}
    (hsplit : urlsplit conventions default url = .ok result) (hown : result.scheme ≠ default)
    (other : List Char) : urlsplit conventions other url = .ok result := by
  have hscheme : result.scheme = (splitScheme default (clean url)).1 := by
    unfold urlsplit at hsplit
    obtain ⟨⟨⟩, -, hsplit⟩ := bind_eq_ok_iff.mp hsplit
    obtain ⟨⟨⟩, -, hsplit⟩ := bind_eq_ok_iff.mp hsplit
    cases hsplit
    rfl
  rcases splitScheme_cases default (clean url) with ⟨hnone, -⟩ | ⟨before, after, -, -, -, hsome⟩
  · rw [hnone] at hscheme
    exact absurd hscheme hown
  · unfold urlsplit at hsplit ⊢
    rw [hsome] at hsplit ⊢
    exact hsplit

variable {conventions} in
/-- A URL that splits into a scheme and an authority has them. -/
theorem hasAuthority_of_urlsplit {url : List Char} {result : SplitResult}
    (hsplit : urlsplit conventions [] url = .ok result) (hscheme : result.scheme ≠ [])
    (hnetloc : result.netloc ≠ []) :
    ∃ before rest, HasAuthority url before result.netloc rest ∧
      before.map Char.toLower = result.scheme := by
  unfold urlsplit at hsplit
  obtain ⟨⟨⟩, -, hsplit⟩ := bind_eq_ok_iff.mp hsplit
  obtain ⟨⟨⟩, -, hsplit⟩ := bind_eq_ok_iff.mp hsplit
  cases hsplit
  simp only at hscheme hnetloc ⊢
  rcases splitScheme_cases [] (clean url) with ⟨hnone, -⟩ |
    ⟨before, after, hbefore, hfirst, hvalid, hsome⟩
  · rw [hnone] at hscheme
    exact absurd rfl hscheme
  · rw [hsome] at hnetloc ⊢
    obtain ⟨hall, hrest⟩ := splitNetloc_spec after
    obtain ⟨rest, hafter, hhead⟩ := hrest hnetloc
    refine ⟨before, rest, ⟨?_, hfirst, hvalid, fun char hmem => (hall char hmem).1, hhead⟩, rfl⟩
    rw [hbefore]
    exact congrArg (before ++ ':' :: ·) hafter

/-! ## Put together and split again -/

/-- A scheme in lower case. -/
structure IsScheme (scheme : List Char) : Prop where
  first : scheme.head?.any Char.isAlpha = true
  chars : ∀ char ∈ scheme, isSchemeChar char = true
  lower : scheme.map Char.toLower = scheme

theorem StartsWithDelimiter.append {early late : List Char} (hearly : StartsWithDelimiter early)
    (hlate : StartsWithDelimiter late) : StartsWithDelimiter (early ++ late) := by
  cases early with
  | nil => exact hlate
  | cons head tail => exact hearly

/-- A part that is left out, or written after a delimiter. -/
theorem startsWithDelimiter_ite {delimiter : Char} (hdelimiter : isDelimiter delimiter = true)
    (text : List Char) : StartsWithDelimiter (if text ≠ [] then delimiter :: text else []) := by
  intro char hmem
  split at hmem
  · obtain rfl : delimiter = char := by simpa using hmem
    exact hdelimiter
  · cases hmem

/-- A path after an authority is written with a slash in front. -/
theorem startsWithDelimiter_path (path : List Char) :
    StartsWithDelimiter
      (if path ≠ [] ∧ path.head? ≠ some '/' then '/' :: path else path) := by
  intro char hmem
  split at hmem
  · obtain rfl : '/' = char := by simpa using hmem
    rfl
  · next hpath =>
    cases path with
    | nil => cases hmem
    | cons first rest =>
      obtain rfl : first = char := by simpa using hmem
      have hslash : first = '/' := by simpa using hpath
      rw [hslash]
      rfl

/-- What follows the authority of a URL that is put together. -/
theorem exists_urlunparse {result : ParseResult} (hscheme : result.scheme ≠ [])
    (hnetloc : result.netloc ≠ []) :
    ∃ rest, urlunparse result = result.scheme ++ ':' :: '/' :: '/' :: (result.netloc ++ rest) ∧
      StartsWithDelimiter rest := by
  let path := if result.params ≠ [] then result.path ++ ';' :: result.params else result.path
  refine ⟨(if path ≠ [] ∧ path.head? ≠ some '/' then '/' :: path else path) ++
    (if result.query ≠ [] then '?' :: result.query else []) ++
    (if result.fragment ≠ [] then '#' :: result.fragment else []), ?_, ?_⟩
  · unfold urlunparse urlunsplit
    simp only [hscheme, hnetloc, ne_eq, not_false_eq_true, true_or, if_true]
    simp [path]
  · exact ((startsWithDelimiter_path path).append (startsWithDelimiter_ite rfl _)).append
      (startsWithDelimiter_ite rfl _)

theorem toNat_of_isAlpha {char : Char} (halpha : char.isAlpha = true) : 32 < char.toNat := by
  change (decide ('A'.val ≤ char.val ∧ char.val ≤ 'Z'.val) ||
    (decide ('a'.val ≤ char.val) && decide (char.val ≤ 'z'.val))) = true at halpha
  simp only [Bool.or_eq_true, Bool.and_eq_true, decide_eq_true_eq,
    UInt32.le_iff_toNat_le] at halpha
  unfold Char.toNat
  have hupper : 'A'.val.toNat = 65 := rfl
  have hlower : 'a'.val.toNat = 97 := rfl
  omega

theorem not_isRemoved_of_isSchemeChar {char : Char} (hscheme : isSchemeChar char = true) :
    isRemoved char = false := by
  by_contra hremoved
  rw [Bool.not_eq_false] at hremoved
  have hcases : char = '\t' ∨ char = '\r' ∨ char = '\n' := by
    simpa only [isRemoved, Bool.or_eq_true, decide_eq_true_eq, or_assoc] using hremoved
  rcases hcases with rfl | rfl | rfl <;> exact absurd hscheme (by decide)

theorem not_isRemoved_of_isDelimiter {char : Char} (hdelimiter : isDelimiter char = true) :
    isRemoved char = false := by
  have hcases : char = '/' ∨ char = '?' ∨ char = '#' := by
    simpa [isDelimiter, or_assoc] using hdelimiter
  rcases hcases with rfl | rfl | rfl <;> rfl

/-- Cleaning keeps what starts with a letter, but for the characters that are removed. -/
theorem clean_of_isAlpha {url : List Char} (hfirst : url.head?.any Char.isAlpha = true) :
    clean url = url.filter (!isRemoved ·) := by
  cases url with
  | nil => rfl
  | cons first rest =>
    have hcontrol : ¬ first.toNat ≤ 32 := not_le.mpr (toNat_of_isAlpha hfirst)
    unfold clean
    rw [List.dropWhile_cons_of_neg (by simpa using hcontrol)]

/-- What is put together has its scheme and its authority. -/
theorem hasAuthority_urlunparse {result : ParseResult} (hscheme : IsScheme result.scheme)
    (hnetloc : result.netloc ≠ [])
    (hchars : ∀ char ∈ result.netloc, isDelimiter char = false ∧ isRemoved char = false) :
    ∃ rest, HasAuthority (urlunparse result) result.scheme result.netloc rest := by
  have hnonempty : result.scheme ≠ [] := by
    intro hnil
    have hfirst := hscheme.first
    rw [hnil] at hfirst
    cases hfirst
  obtain ⟨rest, hurl, hrest⟩ := exists_urlunparse hnonempty hnetloc
  refine ⟨rest.filter (!isRemoved ·), ?_, hscheme.first, hscheme.chars,
    fun char hmem => (hchars char hmem).1, ?_⟩
  · have hfirst : (urlunparse result).head?.any Char.isAlpha = true := by
      rw [hurl, List.head?_append_of_ne_nil _ hnonempty]
      exact hscheme.first
    have hkeepScheme : result.scheme.filter (!isRemoved ·) = result.scheme := by
      rw [List.filter_eq_self]
      intro char hmem
      rw [not_isRemoved_of_isSchemeChar (hscheme.chars char hmem)]
      rfl
    have hkeepNetloc : result.netloc.filter (!isRemoved ·) = result.netloc := by
      rw [List.filter_eq_self]
      intro char hmem
      rw [(hchars char hmem).2]
      rfl
    have hcolon : (!isRemoved ':') = true := rfl
    have hslash : (!isRemoved '/') = true := rfl
    rw [clean_of_isAlpha hfirst, hurl, List.filter_append, hkeepScheme]
    simp only [List.filter_cons, hcolon, hslash, if_true, List.filter_append, hkeepNetloc]
  · cases rest with
    | nil => exact fun _ hmem => nomatch hmem
    | cons head tail =>
      have hhead := hrest head rfl
      rw [List.filter_cons_of_pos (by rw [not_isRemoved_of_isDelimiter hhead]; rfl)]
      exact hrest

/-- What is put together from a scheme and an authority that passes the checks is split into
them again. -/
theorem urlsplit_urlunparse {result : ParseResult} (hscheme : IsScheme result.scheme)
    (hnetloc : result.netloc ≠ [])
    (hchars : ∀ char ∈ result.netloc, isDelimiter char = false ∧ isRemoved char = false)
    (hpasses : Passes conventions result.netloc) (default : List Char) :
    ∃ again, urlsplit conventions default (urlunparse result) = .ok again ∧
      again.scheme = result.scheme ∧ again.netloc = result.netloc := by
  obtain ⟨rest, hauthority⟩ := hasAuthority_urlunparse hscheme hnetloc hchars
  have hsplit := urlsplit_of_hasAuthority conventions hauthority hpasses default
  rw [hscheme.lower] at hsplit
  exact hsplit

/-! ## Trailing slashes -/

theorem clean_concat_slash (url : List Char) : clean (url ++ ['/']) = clean url ++ ['/'] := by
  have hkept : ['/'].filter (!isRemoved ·) = ['/'] := rfl
  unfold clean
  rw [List.dropWhile_append]
  split
  · next hempty =>
    rw [List.isEmpty_iff.mp hempty]
    rfl
  · rw [List.filter_append, hkept]

/-- A slash at the end belongs to what follows the authority. -/
theorem HasAuthority.of_concat_slash {url before netloc rest : List Char} (hnetloc : netloc ≠ [])
    (hauthority : HasAuthority (url ++ ['/']) before netloc rest) :
    ∃ rest, HasAuthority url before netloc rest := by
  have hclean := hauthority.clean
  rw [clean_concat_slash] at hclean
  rcases List.eq_nil_or_concat rest with rfl | ⟨earlier, last, rfl⟩
  · obtain ⟨init, last, rfl⟩ := (List.eq_nil_or_concat netloc).resolve_left hnetloc
    rw [List.append_nil, List.concat_eq_append, ← List.cons_append, ← List.cons_append,
      ← List.cons_append, ← List.append_assoc] at hclean
    obtain ⟨-, hlast⟩ := List.append_inj' hclean rfl
    cases hlast
    have hslash := hauthority.netloc '/' (by simp)
    cases hslash
  · rw [List.concat_eq_append, ← List.append_assoc, ← List.cons_append, ← List.cons_append,
      ← List.cons_append, ← List.append_assoc] at hclean
    obtain ⟨hearlier, -⟩ := List.append_inj' hclean rfl
    refine ⟨earlier, hearlier, hauthority.first, hauthority.scheme, hauthority.netloc, ?_⟩
    have hrest := hauthority.rest
    cases earlier with
    | nil => exact fun _ hmem => nomatch hmem
    | cons head tail => exact hrest

/-- A URL with an authority has the same one with exactly one slash at its end: the induction
is on the slashes. -/
theorem hasAuthority_trimmed {url before netloc rest : List Char} (hnetloc : netloc ≠ [])
    (hauthority : HasAuthority url before netloc rest) :
    ∃ rest, HasAuthority (url.rdropWhile (· = '/') ++ ['/']) before netloc rest := by
  induction url using List.reverseRecOn generalizing rest with
  | nil =>
    have hclean := hauthority.clean
    cases before <;> cases hclean
  | append_singleton url last ih =>
    by_cases hlast : last = '/'
    · subst hlast
      rw [List.rdropWhile_concat_pos _ _ _ (by rfl)]
      obtain ⟨earlier, hshorter⟩ := hauthority.of_concat_slash hnetloc
      exact ih hshorter
    · rw [List.rdropWhile_concat_neg _ _ _ (by simpa using hlast)]
      refine ⟨rest ++ ['/'], ?_, hauthority.first, hauthority.scheme, hauthority.netloc,
        hauthority.rest.append fun char hmem => ?_⟩
      · rw [clean_concat_slash, hauthority.clean]
        simp
      · obtain rfl : '/' = char := by simpa using hmem
        rfl

/-! ## Lower case -/

theorem toLower_toLower (char : Char) : char.toLower.toLower = char.toLower := by
  unfold Char.toLower
  grind

variable {conventions} in
/-- A scheme that was found is in lower case. -/
theorem lower_scheme_of_urlsplit {default url : List Char} {result : SplitResult}
    (hdefault : default.map Char.toLower = default)
    (hsplit : urlsplit conventions default url = .ok result) :
    result.scheme.map Char.toLower = result.scheme := by
  unfold urlsplit at hsplit
  obtain ⟨⟨⟩, -, hsplit⟩ := bind_eq_ok_iff.mp hsplit
  obtain ⟨⟨⟩, -, hsplit⟩ := bind_eq_ok_iff.mp hsplit
  cases hsplit
  simp only
  rcases splitScheme_cases default (clean url) with ⟨hnone, -⟩ | ⟨before, after, -, -, -, hsome⟩
  · rw [hnone]
    exact hdefault
  · rw [hsome, List.map_map]
    exact List.map_congr_left fun char _ => toLower_toLower char

/-! ## References against a base -/

section Resolving

variable {conventions} {baseUrl url : List Char} {base reference : ParseResult}

/-- A URL that parses splits. -/
theorem exists_urlsplit {default : List Char} {result : ParseResult}
    (hparse : urlparse conventions default url = .ok result) :
    ∃ split, urlsplit conventions default url = .ok split ∧ split.scheme = result.scheme ∧
      split.netloc = result.netloc := by
  obtain ⟨split, hsplit, hresult⟩ := map_eq_ok_iff.mp hparse
  exact ⟨split, hsplit, by rw [← hresult]; rfl, by rw [← hresult]; rfl⟩

theorem exists_urlparse {default : List Char} {split : SplitResult}
    (hsplit : urlsplit conventions default url = .ok split) :
    ∃ result, urlparse conventions default url = .ok result ∧ result.scheme = split.scheme ∧
      result.netloc = split.netloc := by
  refine ⟨split.parsed, ?_, rfl, rfl⟩
  unfold urlparse
  rw [hsplit]
  rfl

theorem netloc_of_urlparse {default : List Char} {result : ParseResult}
    (hparse : urlparse conventions default url = .ok result) :
    Passes conventions result.netloc ∧
      ∀ char ∈ result.netloc, isDelimiter char = false ∧ isRemoved char = false := by
  obtain ⟨split, hsplit, -, hnetloc⟩ := exists_urlsplit hparse
  rw [← hnetloc]
  exact netloc_of_urlsplit hsplit

/-- A URL that parses into a scheme of its own parses so under any default. -/
theorem exists_urlparse_of_own_scheme {default : List Char} {result : ParseResult}
    (hparse : urlparse conventions default url = .ok result) (hown : result.scheme ≠ default)
    (other : List Char) :
    ∃ again, urlparse conventions other url = .ok again ∧ again.scheme = result.scheme := by
  obtain ⟨split, hsplit, hscheme, -⟩ := exists_urlsplit hparse
  rw [← hscheme] at hown
  obtain ⟨again, hagain, hagainScheme, -⟩ :=
    exists_urlparse (urlsplit_of_own_scheme hsplit hown other)
  exact ⟨again, hagain, hagainScheme.trans hscheme⟩

/-- What is put together parses into the same scheme and authority. -/
theorem urlparse_urlunparse {result : ParseResult} (hscheme : IsScheme result.scheme)
    (hnonempty : result.netloc ≠ [])
    (hnetloc : Passes conventions result.netloc ∧
      ∀ char ∈ result.netloc, isDelimiter char = false ∧ isRemoved char = false) :
    ∃ again, urlparse conventions [] (urlunparse result) = .ok again ∧
      again.scheme = result.scheme ∧ again.netloc = result.netloc := by
  obtain ⟨split, hsplit, hsplitScheme, hsplitNetloc⟩ :=
    urlsplit_urlunparse conventions hscheme hnonempty hnetloc.2 hnetloc.1 []
  obtain ⟨again, hagain, hagainScheme, hagainNetloc⟩ := exists_urlparse hsplit
  exact ⟨again, hagain, hagainScheme.trans hsplitScheme, hagainNetloc.trans hsplitNetloc⟩

variable (hbaseUrl : baseUrl ≠ []) (hurl : url ≠ [])
  (hbase : urlparse conventions [] baseUrl = .ok base)
  (hreference : urlparse conventions base.scheme url = .ok reference)

include hbaseUrl hurl hbase hreference

omit hreference in
/-- A reference that does not parse is not resolved. -/
theorem urljoin_of_error {text : String}
    (herror : urlparse conventions base.scheme url = .error text) :
    urljoin conventions baseUrl url = .error text := by
  unfold urljoin
  rw [if_neg hbaseUrl, if_neg hurl, hbase]
  simp only [ok_bind]
  rw [herror]
  rfl

/-- A reference with another scheme stands for itself. -/
theorem urljoin_of_scheme_ne (hne : reference.scheme ≠ base.scheme) :
    urljoin conventions baseUrl url = .ok url := by
  unfold urljoin
  rw [if_neg hbaseUrl, if_neg hurl, hbase]
  simp only [ok_bind]
  rw [hreference]
  simp only [ok_bind]
  rw [if_pos (.inl hne)]

/-- A reference with the scheme of the base keeps its authority, or gets that of the base. -/
theorem urljoin_of_scheme_eq (hscheme : IsScheme base.scheme)
    (hrelative : base.scheme ∈ usesRelative) (huses : base.scheme ∈ usesNetloc)
    (hnetloc : base.netloc ≠ []) (hsame : reference.scheme = base.scheme) :
    ∃ joined again, urljoin conventions baseUrl url = .ok joined ∧
      urlparse conventions [] joined = .ok again ∧ again.scheme = base.scheme ∧
      again.netloc = if reference.netloc = [] then base.netloc else reference.netloc := by
  have hbaseNetloc := netloc_of_urlparse hbase
  have hown := netloc_of_urlparse hreference
  have hputTogether {result : ParseResult} (hresult : result.scheme = base.scheme)
      (hauthority : result.netloc =
        if reference.netloc = [] then base.netloc else reference.netloc) :
      ∃ again, urlparse conventions [] (urlunparse result) = .ok again ∧
        again.scheme = base.scheme ∧
        again.netloc = if reference.netloc = [] then base.netloc else reference.netloc := by
    rw [← hresult] at hscheme ⊢
    rw [← hauthority]
    apply urlparse_urlunparse hscheme
    · rw [hauthority]
      split
      · exact hnetloc
      · assumption
    · rw [hauthority]
      split
      · exact hbaseNetloc
      · exact hown
  unfold urljoin
  rw [if_neg hbaseUrl, if_neg hurl, hbase]
  simp only [ok_bind]
  rw [hreference]
  simp only [ok_bind, hsame, ne_eq, not_true_eq_false, hrelative, false_or, if_false, huses,
    true_and, if_true]
  by_cases hempty : reference.netloc = []
  · rw [if_neg (not_not_intro hempty)]
    split
    · obtain ⟨again, hagain⟩ := @hputTogether ⟨base.scheme, base.netloc, base.path,
        base.params, if reference.query = [] then base.query else reference.query,
        reference.fragment⟩ rfl (if_pos hempty).symm
      rw [if_pos hempty] at hagain
      exact ⟨_, again, rfl, hagain⟩
    · obtain ⟨again, hagain⟩ := @hputTogether ⟨base.scheme, base.netloc,
        resolvePath base.path reference.path, reference.params, reference.query,
        reference.fragment⟩ rfl (if_pos hempty).symm
      rw [if_pos hempty] at hagain
      exact ⟨_, again, rfl, hagain⟩
  · rw [if_pos hempty]
    obtain ⟨again, hagain⟩ := hputTogether hsame (if_neg hempty).symm
    exact ⟨_, again, rfl, hagain⟩

end Resolving

end Url

end Sllurp.Foundations
