import NautiFabric.Http.Client
import NautiFabric.Plan.Planner

/-!
# NautiFabric.Http.Authority — where a head is, read from its URL

`parse_head_url` takes what stands between `http://` and the next `/`, without the white
space around it, and takes for the port what stands behind the last `:`. An IPv6 literal
has colons of its own: `readsHeadUrl_iff` says that one in brackets and without a port is
the only thing that this gets wrong.
-/

namespace NautiFabric

variable {N : Type} {std : Platform N}

/-! ## URLs -/

/-- A name, or an IPv4 address. -/
def PlainHost (host : List Char) : Prop :=
  host ≠ [] ∧ ∀ c ∈ host, c ≠ ':' ∧ c ≠ '/' ∧ c ≠ '[' ∧ c ≠ ']' ∧ isWhitespace c = false

/-- One group of an IPv6 literal, or one number of an IPv4 address. -/
def IsNumber (radix width : ℕ) (text : List Char) : Prop :=
  text ≠ [] ∧ text.length ≤ width ∧ ∀ c ∈ text, (toDigit radix c).isSome

/-- Groups between colons; the last two may be written as an IPv4 address. -/
inductive Ipv6Groups : ℕ → List Char → Prop
  | one {group : List Char} (h : IsNumber 16 4 group) : Ipv6Groups 1 group
  | dotted {a b c d : List Char}
      (h : ∀ part ∈ [a, b, c, d], IsNumber 10 3 part ∧ digitsTotal 10 0 part < 256) :
      Ipv6Groups 2 (a ++ '.' :: (b ++ '.' :: (c ++ '.' :: d)))
  | cons {n : ℕ} {group groups : List Char} (h : IsNumber 16 4 group)
      (hgroups : Ipv6Groups n groups) : Ipv6Groups (n + 1) (group ++ ':' :: groups)

/-- Eight groups, or fewer around one `::`. -/
def Ipv6Literal (text : List Char) : Prop :=
  Ipv6Groups 8 text ∨
    ∃ m n before after, text = before ++ ':' :: ':' :: after ∧ m + n < 8 ∧
      ((m = 0 ∧ before = []) ∨ (Ipv6Groups m before ∧ '.' ∉ before)) ∧
      ((n = 0 ∧ after = []) ∨ Ipv6Groups n after)

/-- An IPv6 literal in brackets. -/
def BracketedHost (host : List Char) : Prop :=
  ∃ literal, Ipv6Literal literal ∧ host = '[' :: (literal ++ [']'])

structure HttpUrl where
  host : List Char
  /-- the digits of a port -/
  port : Option (List Char)
  path : List Char
  host_ok : PlainHost host ∨ BracketedHost host
  port_ok : ∀ digits, port = some digits → digits ≠ [] ∧
    (∀ c ∈ digits, (toDigit 10 c).isSome) ∧ digitsTotal 10 0 digits < 2 ^ 16
  path_ok : path = [] ∨ ∃ behind, path = '/' :: behind

namespace HttpUrl

def portText (url : HttpUrl) : List Char :=
  match url.port with
  | none => []
  | some digits => ':' :: digits

def portNumber (url : HttpUrl) : UInt16 :=
  match url.port with
  | none => defaultHeadPort
  | some digits => .ofNat (digitsTotal 10 0 digits)

def authority (url : HttpUrl) : List Char := url.host ++ url.portText

def text (url : HttpUrl) : String :=
  .ofList ("http://".toList ++ (url.authority ++ url.path))

end HttpUrl

/-- An IPv6 literal in brackets, and no port behind it. -/
def BareIpv6 (base : String) : Prop :=
  ∃ url : HttpUrl, base = url.text ∧ BracketedHost url.host ∧ url.port = none

/-! ## Reading one -/

def UrlRefused (std : Platform N) (base : String) : Prop :=
  ∃ detail, parseHeadUrl std base = .error (.badHeadUrl detail)

/-- The text is an `http://` URL of this authority, white space around it apart. -/
def HasAuthority (base : String) (authority : List Char) : Prop :=
  ∃ raw path, base = .ofList ("http://".toList ++ (raw ++ path)) ∧ '/' ∉ raw ∧
    (path = [] ∨ ∃ behind, path = '/' :: behind) ∧ trim (.ofList raw) = .ofList authority

/-- All of the authority is the host, or what stands in front of its last colon. -/
def HostOf (authority host : List Char) : Prop :=
  (':' ∉ authority ∧ host = authority) ∨ ∃ port, ':' ∉ port ∧ authority = host ++ ':' :: port

def brackets (c : Char) : Bool := c == '[' || c == ']'

/-- The URL is read, or refused, as it should be. -/
structure ReadsHeadUrl (std : Platform N) (base : String) : Prop where
  accepts : ∀ url : HttpUrl, base = url.text →
    parseHeadUrl std base = .ok (.ofList url.host, url.portNumber)
  scheme : ¬ "http://".toList <+: base.toList → UrlRefused std base
  emptyHost : ∀ authority host, HasAuthority base authority → HostOf authority host →
    (∀ c ∈ host, brackets c) → UrlRefused std base
  badPort : ∀ host port, HasAuthority base (host ++ ':' :: port) → ':' ∉ port →
    ¬ BracketedHost (host ++ ':' :: port) → parseU16 (.ofList port) = none → UrlRefused std base

/-- What is made of an authority. -/
def readAuthority (std : Platform N) (base authority : String) :
    Except PlanReject (String × UInt16) :=
  match rsplitOnce ':' authority with
  | some (h, p) =>
    match parseU16 p with
    | none => .error (.badHeadUrl (std.debug base ++ " has a non-numeric port " ++ std.debug p))
    | some port =>
      if (trimMatches brackets h).isEmpty then
        .error (.badHeadUrl (std.debug base ++ " has an empty host"))
      else .ok (h, port)
  | none =>
    if (trimMatches brackets authority).isEmpty then
      .error (.badHeadUrl (std.debug base ++ " has an empty host"))
    else .ok (authority, defaultHeadPort)

theorem parseHeadUrl_of_authority (std : Platform N) {base : String} {authority : List Char}
    (h : HasAuthority base authority) :
    parseHeadUrl std base =
      if authority = [] then .error (.badHeadUrl (std.debug base ++ " has no host"))
      else readAuthority std base (.ofList authority) := by
  obtain ⟨raw, path, hbase, hraw, hpath, htrim⟩ := h
  have hstrip : stripStart "http://" base = some (.ofList (raw ++ path)) := by
    rw [hbase, stripStart_append]
  have hempty : (String.ofList authority).isEmpty = decide (authority = []) := by
    rcases authority with _ | ⟨c, authority⟩
    · rfl
    · rw [decide_eq_false (by simp)]
      simp [← String.toList_inj]
  unfold parseHeadUrl
  rw [hstrip]
  dsimp only
  rw [split_headD hraw hpath, htrim, hempty]
  -- white space around the authority has been trimmed by now
  by_cases hnil : authority = []
  · simp [hnil]
  · rw [if_neg hnil, if_neg (by simpa using hnil)]
    unfold readAuthority
    rcases rsplitOnce ':' (.ofList authority) with _ | ⟨h, p⟩
    · rfl
    · dsimp only
      rcases parseU16 p with _ | port
      · rfl
      · rfl

/-! ## The characters of a host and of a port -/

/-- What an authority keeps clear of. -/
def Inside (c : Char) : Prop := c ≠ '/' ∧ isWhitespace c = false

theorem inside_of_hexDigit {c : Char} (h : (toDigit 16 c).isSome) :
    Inside c ∧ c ≠ ':' ∧ brackets c = false := by
  have hrange := of_isHexDigit h
  have hne (d : Char) (hd : d.toNat < 0x30 ∨ 0x39 < d.toNat ∧ d.toNat < 0x41 ∨
      0x46 < d.toNat ∧ d.toNat < 0x61 ∨ 0x66 < d.toNat) : c ≠ d := by
    rintro rfl
    omega
  have hopen := hne '[' (by decide)
  have hclose := hne ']' (by decide)
  refine ⟨⟨hne '/' (by decide), ?_⟩, hne ':' (by decide), ?_⟩
  · unfold isWhitespace
    simp
    omega
  · simp [brackets, hopen, hclose]

theorem isSome_hexDigit {c : Char} (h : (toDigit 10 c).isSome) : (toDigit 16 c).isSome := by
  unfold toDigit at h ⊢
  dsimp only at h ⊢
  split_ifs at h ⊢ with h1 h2 h3
  all_goals first | rfl | omega

theorem Ipv6Groups.mem {n : ℕ} {text : List Char} (h : Ipv6Groups n text) {c : Char}
    (hc : c ∈ text) : (toDigit 16 c).isSome ∨ c = ':' ∨ c = '.' := by
  induction h with
  | one hgroup => exact .inl (hgroup.2.2 c hc)
  | @dotted p q r s hparts =>
    have hdigit (part : List Char) (hpart : part ∈ [p, q, r, s]) (hin : c ∈ part) :
        (toDigit 16 c).isSome :=
      isSome_hexDigit ((hparts part hpart).1.2.2 c hin)
    simp only [List.mem_append, List.mem_cons] at hc
    rcases hc with hc | hc | hc | hc | hc | hc | hc
    · exact .inl (hdigit p (by simp) hc)
    · exact .inr (.inr hc)
    · exact .inl (hdigit q (by simp) hc)
    · exact .inr (.inr hc)
    · exact .inl (hdigit r (by simp) hc)
    · exact .inr (.inr hc)
    · exact .inl (hdigit s (by simp) hc)
  | cons hgroup _ ih =>
    rcases List.mem_append.mp hc with hin | hin
    · exact .inl (hgroup.2.2 c hin)
    · rcases List.mem_cons.mp hin with rfl | hin
      · exact .inr (.inl rfl)
      · exact ih hin

theorem Ipv6Literal.mem {text : List Char} (h : Ipv6Literal text) {c : Char} (hc : c ∈ text) :
    Inside c ∧ brackets c = false := by
  have hchar : (toDigit 16 c).isSome ∨ c = ':' ∨ c = '.' := by
    rcases h with hgroups | ⟨m, n, before, after, rfl, -, hbefore, hafter⟩
    · exact hgroups.mem hc
    · simp only [List.mem_append, List.mem_cons] at hc
      rcases hc with hc | hc | hc | hc
      · rcases hbefore with ⟨-, rfl⟩ | ⟨hgroups, -⟩
        · cases hc
        · exact hgroups.mem hc
      · exact .inr (.inl hc)
      · exact .inr (.inl hc)
      · rcases hafter with ⟨-, rfl⟩ | hgroups
        · cases hc
        · exact hgroups.mem hc
  rcases hchar with hdigit | rfl | rfl
  · exact ⟨(inside_of_hexDigit hdigit).1, (inside_of_hexDigit hdigit).2.2⟩
  · exact ⟨⟨by decide, by decide⟩, by decide⟩
  · exact ⟨⟨by decide, by decide⟩, by decide⟩

theorem Ipv6Literal.colon_mem {text : List Char} (h : Ipv6Literal text) : ':' ∈ text := by
  rcases h with hgroups | ⟨m, n, before, after, rfl, -⟩
  · cases hgroups with
    | cons => simp
  · simp

theorem BracketedHost.mem {host : List Char} (h : BracketedHost host) {c : Char}
    (hc : c ∈ host) : Inside c := by
  obtain ⟨literal, hliteral, rfl⟩ := h
  simp only [List.mem_cons, List.mem_append, List.not_mem_nil, or_false] at hc
  rcases hc with rfl | hc | rfl
  · exact ⟨by decide, by decide⟩
  · exact (hliteral.mem hc).1
  · exact ⟨by decide, by decide⟩

namespace HttpUrl

theorem inside (url : HttpUrl) {c : Char} (hc : c ∈ url.authority) : Inside c := by
  rcases List.mem_append.mp hc with hhost | hport
  · rcases url.host_ok with hplain | hbracketed
    · have hchar := hplain.2 c hhost
      exact ⟨hchar.2.1, hchar.2.2.2.2⟩
    · exact hbracketed.mem hhost
  · unfold portText at hport
    rcases hdigits : url.port with _ | digits
    · rw [hdigits] at hport
      cases hport
    · rw [hdigits] at hport
      rcases List.mem_cons.mp hport with rfl | hdigit
      · exact ⟨by decide, by decide⟩
      · have hsome := (url.port_ok digits hdigits).2.1 c hdigit
        exact (inside_of_hexDigit (isSome_hexDigit hsome)).1

/-- A host is not made of brackets alone. -/
theorem host_not_brackets (url : HttpUrl) : ¬ ∀ c ∈ url.host, brackets c := by
  intro hall
  rcases url.host_ok with ⟨hne, hplain⟩ | ⟨literal, hliteral, hhost⟩
  · obtain ⟨c, rest, hcons⟩ := List.exists_cons_of_ne_nil hne
    have hmem : c ∈ url.host := by simp [hcons]
    have hchar := hplain c hmem
    have hbracket := hall c hmem
    simp [brackets, hchar.2.2.1, hchar.2.2.2.1] at hbracket
  · have hmem : ':' ∈ url.host := by simp [hhost, hliteral.colon_mem]
    have hbracket := hall ':' hmem
    simp [brackets] at hbracket

theorem hasAuthority (url : HttpUrl) : HasAuthority url.text url.authority := by
  refine ⟨url.authority, url.path, rfl, ?_, url.path_ok, ?_⟩
  · intro hslash
    exact (url.inside hslash).1 rfl
  · exact trim_of_no_whitespace fun c hc => (url.inside hc).2

theorem authority_ne_nil (url : HttpUrl) : url.authority ≠ [] := by
  intro hnil
  have hhost : url.host = [] := (List.append_eq_nil_iff.mp hnil).1
  refine url.host_not_brackets fun c hc => ?_
  rw [hhost] at hc
  cases hc

end HttpUrl

/-! ## What is read -/

/-- No port: the default one. -/
theorem readAuthority_plain (std : Platform N) (base : String) {authority : List Char}
    (hcolon : ':' ∉ authority) (hhost : ¬ ∀ c ∈ authority, brackets c) :
    readAuthority std base (.ofList authority) = .ok (.ofList authority, defaultHeadPort) := by
  unfold readAuthority
  rw [rsplitOnce_of_not_mem hcolon]
  exact if_neg (mt trimMatches_isEmpty_iff.mp hhost)

theorem readAuthority_port (std : Platform N) (base : String) {host digits : List Char}
    {port : UInt16} (hcolon : ':' ∉ digits) (hport : parseU16 (.ofList digits) = some port)
    (hhost : ¬ ∀ c ∈ host, brackets c) :
    readAuthority std base (.ofList (host ++ ':' :: digits)) = .ok (.ofList host, port) := by
  unfold readAuthority
  rw [rsplitOnce_append hcolon]
  dsimp only
  rw [hport]
  exact if_neg (mt trimMatches_isEmpty_iff.mp hhost)

theorem readAuthority_badPort (std : Platform N) (base : String) {host port : List Char}
    (hcolon : ':' ∉ port) (hport : parseU16 (.ofList port) = none) :
    ∃ detail, readAuthority std base (.ofList (host ++ ':' :: port)) =
      .error (.badHeadUrl detail) := by
  unfold readAuthority
  rw [rsplitOnce_append hcolon]
  dsimp only
  rw [hport]
  exact ⟨_, rfl⟩

theorem readAuthority_emptyHost (std : Platform N) (base : String) {authority host : List Char}
    (hof : HostOf authority host) (hhost : ∀ c ∈ host, brackets c) :
    ∃ detail, readAuthority std base (.ofList authority) = .error (.badHeadUrl detail) := by
  rcases hof with ⟨hcolon, rfl⟩ | ⟨port, hcolon, rfl⟩
  · unfold readAuthority
    rw [rsplitOnce_of_not_mem hcolon]
    exact ⟨_, if_pos (trimMatches_isEmpty_iff.mpr hhost)⟩
  · rcases hport : parseU16 (.ofList port) with _ | number
    · exact readAuthority_badPort std base hcolon hport
    · unfold readAuthority
      rw [rsplitOnce_append hcolon]
      dsimp only
      rw [hport]
      exact ⟨_, if_pos (trimMatches_isEmpty_iff.mpr hhost)⟩

theorem urlRefused_of_readAuthority (std : Platform N) {base : String} {authority : List Char}
    (hbase : HasAuthority base authority)
    (hread : ∃ detail, readAuthority std base (.ofList authority) = .error (.badHeadUrl detail)) :
    UrlRefused std base := by
  obtain ⟨detail, hread⟩ := hread
  unfold UrlRefused
  rw [parseHeadUrl_of_authority std hbase]
  split
  · exact ⟨_, rfl⟩
  · exact ⟨detail, hread⟩

theorem urlRefused_of_scheme (std : Platform N) {base : String}
    (h : ¬ "http://".toList <+: base.toList) : UrlRefused std base := by
  unfold UrlRefused parseHeadUrl
  rw [stripStart_eq_none_iff.mpr h]
  exact ⟨_, rfl⟩

/-- The colon split at is one of the literal's own, and no port stands behind it. -/
theorem urlRefused_of_bareIpv6 (std : Platform N) {base : String} (h : BareIpv6 base) :
    UrlRefused std base := by
  obtain ⟨url, rfl, ⟨literal, hliteral, hhost⟩, hport⟩ := h
  have hauthority : url.authority = '[' :: (literal ++ [']']) := by
    simp [HttpUrl.authority, HttpUrl.portText, hhost, hport]
  obtain ⟨before, after, hsplit, hafter⟩ := exists_last hliteral.colon_mem
  have hlast : url.authority = ('[' :: before) ++ ':' :: (after ++ [']']) := by
    rw [hauthority, hsplit]
    simp
  have hcolon : ':' ∉ after ++ [']'] := by simp [hafter]
  have hbad : parseU16 (.ofList (after ++ [']'])) = none :=
    parseU16_eq_none (c := ']') (by simp) (by decide) (by decide)
  refine urlRefused_of_readAuthority std url.hasAuthority ?_
  rw [hlast]
  exact readAuthority_badPort std url.text hcolon hbad

theorem parseHeadUrl_text (std : Platform N) (url : HttpUrl) (h : ¬ BareIpv6 url.text) :
    parseHeadUrl std url.text = .ok (.ofList url.host, url.portNumber) := by
  rw [parseHeadUrl_of_authority std url.hasAuthority, if_neg url.authority_ne_nil]
  rcases hport : url.port with _ | digits
  · -- without a port the host is no literal, and has no colon
    have hplain : PlainHost url.host := by
      rcases url.host_ok with hplain | hbracketed
      · exact hplain
      · exact absurd ⟨url, rfl, hbracketed, hport⟩ h
    have hauthority : url.authority = url.host := by
      simp [HttpUrl.authority, HttpUrl.portText, hport]
    have hnumber : url.portNumber = defaultHeadPort := by simp [HttpUrl.portNumber, hport]
    rw [hauthority, hnumber]
    exact readAuthority_plain std url.text (fun hcolon => (hplain.2 _ hcolon).1 rfl)
      url.host_not_brackets
  · have hauthority : url.authority = url.host ++ ':' :: digits := by
      simp [HttpUrl.authority, HttpUrl.portText, hport]
    have hnumber : url.portNumber = .ofNat (digitsTotal 10 0 digits) := by
      simp [HttpUrl.portNumber, hport]
    obtain ⟨hne, hdigits, hfits⟩ := url.port_ok digits hport
    have hcolon : ':' ∉ digits := by
      intro hcolon
      exact (inside_of_hexDigit (isSome_hexDigit (hdigits ':' hcolon))).2.1 rfl
    rw [hauthority, hnumber]
    exact readAuthority_port std url.text hcolon (parseU16_of_digits hne hdigits hfits)
      url.host_not_brackets

/-! ## An IPv6 literal without a port -/

/-- Every URL but a bare IPv6 literal is read, or refused, as it should be. -/
theorem readsHeadUrl_iff (std : Platform N) (base : String) :
    ReadsHeadUrl std base ↔ ¬ BareIpv6 base := by
  constructor
  · intro hreads hbare
    obtain ⟨detail, hrefused⟩ := urlRefused_of_bareIpv6 std hbare
    obtain ⟨url, hbase, -⟩ := hbare
    have hok := hreads.accepts url hbase
    rw [hrefused] at hok
    cases hok
  · intro hbare
    constructor
    case accepts =>
      rintro url rfl
      exact parseHeadUrl_text std url hbare
    case scheme => exact urlRefused_of_scheme std
    case emptyHost =>
      intro authority host hbase hof hhost
      exact urlRefused_of_readAuthority std hbase
        (readAuthority_emptyHost std base hof hhost)
    case badPort =>
      intro host port hbase hcolon _ hport
      exact urlRefused_of_readAuthority std hbase
        (readAuthority_badPort std base hcolon hport)

theorem loopback_literal : BracketedHost "[::1]".toList := by
  refine ⟨"::1".toList, .inr ⟨0, 1, [], ['1'], by simp, by omega, .inl ⟨rfl, rfl⟩, .inr ?_⟩,
    by simp⟩
  exact .one ⟨by simp, by simp, by simp [toDigit]⟩

def loopbackUrl : HttpUrl where
  host := "[::1]".toList
  port := none
  path := []
  host_ok := .inr loopback_literal
  port_ok := by
    intro digits hport
    cases hport
  path_ok := .inl rfl

open Scenario in
theorem loopback_head_refused : ¬ ReadsHeadUrl rationals "http://[::1]" := by
  have hbad : parseHeadUrl rationals "http://[::1]" = .error (.badHeadUrl
      (rationals.debug "http://[::1]" ++ " has a non-numeric port " ++ rationals.debug "1]")) := by
    decide +kernel
  have htext : "http://[::1]" = loopbackUrl.text := by decide +kernel
  intro hreads
  have hok := hreads.accepts loopbackUrl htext
  rw [hbad] at hok
  cases hok

end NautiFabric
